import TurningPoint.Lcd.Defs
import TurningPoint.Lib.Run
import TurningPoint.Rpc.Deck

namespace TurningPoint

inductive RobotAction
  | button (buttons : VexLcdButton)
  | recv (message : MessageAny)
  | connect
  | reboot

/-- The statics are zero again, `vexUserSetup` and `vexUserInit` run, and a client connects. -/
def robotReboot (r : Robot (List (List UInt8))) : Robot (List (List UInt8)) :=
  let r := { r with
    rpc := .connected
    board.flash.data := ⟨List.replicate userParamSize 0, rfl⟩
    board.flash.writeCount := 0
    lcd := ⟨0, kLcdMode0, .none, .null⟩ }
  lcdInit (lcdSetup 0 r)

def Robot.refilled {ρ : Type} (r : Robot ρ) : Robot ρ := { r with board.flash.writeCount := 0 }

def robotStep (r : Robot (List (List UInt8))) : RobotAction → Robot (List (List UInt8))
  | .button buttons => lcdRead buttons r.refilled
  | .recv message => r.refilled.onHost (rpcRecv keepPacket message)
  | .connect => { r with rpc := .connected }
  | .reboot => robotReboot r

namespace UserData

def mode (block : UserData) : LcdMode :=
  if octetAt block.1 0 = magicNumber ∧ ((octetAt block.1 1).toNat : Int) < kLcdModeNumber then
    (octetAt block.1 1).toNat
  else kLcdMode0

end UserData

/-- A robot, the mode last selected on its display, the octets of the WRITEs since the cassette was
last opened, and those of the recording that was last brought to flash: every WRITE brings it there
as far as it goes. -/
structure Stored where
  robot : Robot (List (List UInt8))
  selected : LcdMode
  taken : List UInt8
  recorded : List UInt8

def storedStep (s : Stored) (action : RobotAction) : Stored :=
  let robot := robotStep s.robot action
  match action with
  | .button buttons =>
    { s with
      robot := robot
      selected := if buttons = .right ∨ buttons = .left then robot.lcd.mode else s.selected }
  | .recv message =>
    match cassetteCall message s.robot.toHost with
    | some .opens => { s with robot := robot, taken := [] }
    | some (.writes octet) =>
      { s with robot := robot, taken := s.taken ++ [octet], recorded := s.taken ++ [octet] }
    | some .closes => { s with robot := robot, recorded := s.taken }
    | _ => { s with robot := robot }
  | _ => { s with robot := robot }

def Stored.boot : Stored where
  robot := robotReboot ⟨Session.fresh, ⟨0, kLcdMode0, .none, .null⟩⟩
  selected := kLcdMode0
  taken := []
  recorded := []

def Returns (read : MessageRead) (octets : List UInt8) (h : Session) : Prop :=
  if octets = [] then
    ∃ packet, (rpcRecv keepPacket (.read read) h).outer = h.outer ++ [packet] ∧
      IsData packet read.reqId read.topic read.subtopic messagesDataFlagEnd []
  else Plays read octets h

/-- A restart brings back the mode last selected, and the cassette, after it as before, what was
last recorded. -/
structure Apart (s : Stored) : Prop where
  mode_eq : (robotReboot s.robot).lcd.mode = s.selected
  returns : ∀ read : MessageRead, read.topic = messagesTopicCassette → read.subtopic = 0 →
    Returns read s.recorded (robotReboot s.robot).toHost ∧
      (s.robot.rpc.fp = .null → Returns read s.recorded s.robot.toHost)

/-- The block is one that `lcdInit` takes for a mode other than the first. -/
def UserData.LooksSelected (block : UserData) : Prop :=
  octetAt block.1 0 = magicNumber ∧ 0 < octetAt block.1 1 ∧
    ((octetAt block.1 1).toNat : Int) < kLcdModeNumber

/-- No mode is selected.  A WRITE, a CLOSE and a READ of the open cassette find the block counting
as many octets as were taken or recorded.  Every octet of the recording equals the one that the
block holds one place beyond it, and where its count is the magic number, no mode follows. -/
def Harmless (s : Stored) : RobotAction → Prop
  | .button buttons => buttons ≠ .right ∧ buttons ≠ .left
  | .recv message =>
    let data := s.robot.board.flash.data
    match cassetteCall message s.robot.toHost with
    | some (.writes octet) =>
      data.count = s.taken.length ∧
        (∀ recorded ∈ s.taken ++ [octet], recorded = octetAt data.1 (s.taken.length + 1)) ∧
        ¬ (s.taken.length = 12 ∧ 0 < octet ∧ octet < 10)
    | some .closes => data.count = s.taken.length
    | some .saves => data.count = s.recorded.length
    | _ => True
  | _ => True

variable {h : Session} {read : MessageRead}

theorem tape_take {block : UserData} (hpos : 0 < octetAt block.1 0)
    (hlt : octetAt block.1 0 < 32) :
    (block.1.take (octetAt block.1 0).toNat).length = (octetAt block.1 0).toNat ∧
      tape block (block.1.take (octetAt block.1 0).toNat) = block.1 := by
  obtain ⟨octets, hlen⟩ := block
  cases octets with
  | nil => cases hlen
  | cons count octets =>
    change 0 < count at hpos
    change count < 32 at hlt
    change ((count :: octets).take count.toNat).length = count.toNat ∧
      tape ⟨count :: octets, hlen⟩ ((count :: octets).take count.toNat) = count :: octets
    rw [UInt8.lt_iff_toNat_lt] at hpos hlt
    change count.toNat < 32 at hlt
    have htake : ((count :: octets).take count.toNat).length = count.toNat := by
      rw [List.length_take, hlen]
      exact Nat.min_eq_left hlt.le
    refine ⟨htake, ?_⟩
    obtain ⟨n, hn⟩ := Nat.exists_eq_succ_of_ne_zero (Nat.pos_iff_ne_zero.mp hpos)
    rw [tape, htake, UInt8.ofNat_toNat, hn, Nat.max_eq_right (Nat.le_add_left 1 n)]
    simp [List.take_append_drop]

theorem rpcRecv_readNothing (htopic : read.topic = messagesTopicCassette)
    (hsubtopic : read.subtopic = 0) (hfp : h.rpc.fp = .null)
    (hcount : ¬ (0 < octetAt h.board.flash.last.1 0 ∧ octetAt h.board.flash.last.1 0 < 32)) :
    ∃ packet, (rpcRecv keepPacket (.read read) h).outer = h.outer ++ [packet] ∧
      IsData packet read.reqId read.topic read.subtopic messagesDataFlagEnd [] := by
  have hbad : octetAt h.board.flash.last.1 0 = 0 ∨ octetAt h.board.flash.last.1 0 > 31 := by
    rw [← UInt8.toNat_inj, gt_iff_lt, UInt8.lt_iff_toNat_lt]
    rw [UInt8.lt_iff_toNat_lt, UInt8.lt_iff_toNat_lt] at hcount
    change ¬ (0 < _ ∧ _ < 32) at hcount
    change _ = 0 ∨ 31 < _
    omega
  have hopen : cassetteOpenRead 0 h = (.null, (readFlash h).2) := by
    rw [cassetteOpenRead, if_neg (by decide)]
    exact if_pos hbad
  have hread : rpcRecvRead keepPacket read h = rpcSendRep keepPacket read [] (readFlash h).2 := by
    rw [rpcRecvRead, htopic, if_neg (by decide), if_neg (by decide), if_neg (by decide),
      if_pos rfl, rpcRecvReadCassette, hsubtopic, if_pos (by decide), if_neg (not_not.mpr hfp),
      hopen]
    rfl
  obtain ⟨packet, hdata, hposted⟩ := rpcSendData_posted keepPacket read.reqId read.topic
    read.subtopic messagesDataFlagEnd (List.length_nil.trans_le (Nat.zero_le _)) (readFlash h).2
  refine ⟨packet, ?_, hdata⟩
  change (rpcRecvRead keepPacket read h).outer = _
  rw [hread]
  exact hposted.sent_eq

theorem returns_recording (htopic : read.topic = messagesTopicCassette)
    (hsubtopic : read.subtopic = 0) (hfp : h.rpc.fp = .null) :
    Returns read h.board.flash.last.recording h := by
  unfold UserData.recording
  split
  case isTrue hcount =>
    obtain ⟨htake, htape⟩ := tape_take hcount.1 hcount.2
    have hpos : 0 < (octetAt h.board.flash.last.1 0).toNat := UInt8.lt_iff_toNat_lt.mp hcount.1
    have hlt : (octetAt h.board.flash.last.1 0).toNat < 32 := UInt8.lt_iff_toNat_lt.mp hcount.2
    have hne : h.board.flash.last.1.take (octetAt h.board.flash.last.1 0).toNat ≠ [] :=
      List.length_pos_iff.mp (hpos.trans_eq htake.symm)
    have hplayed := tape_played h.board.flash.last hne (by omega)
    have hrecorded : Recorded h.board.flash.last _ h := ⟨hfp, htape.symm⟩
    have hplays := rpcRecv_readCassette htopic hsubtopic hne (by omega) hrecorded
    rw [← hplayed, htape, htake] at hplays
    have hsome : octetsFrom (h.board.flash.last.1.drop 1)
        (octetAt h.board.flash.last.1 0).toNat ≠ [] :=
      List.length_pos_iff.mp (by rwa [octetsFrom_length])
    rw [Returns, if_neg hsome, Plays, octetsFrom_length]
    exact hplays
  case isFalse hcount =>
    rw [Returns, if_pos rfl]
    exact rpcRecv_readNothing htopic hsubtopic hfp hcount

theorem Returns.unique {octets octets' : List UInt8} (hr : Returns read octets h)
    (hr' : Returns read octets' h) : octets = octets' := by
  unfold Returns at hr hr'
  split at hr
  case isTrue hnil =>
    split at hr'
    case isTrue hnil' => rw [hnil, hnil']
    case isFalse =>
      obtain ⟨packet, houter, -⟩ := hr
      obtain ⟨_, _, houter', -⟩ := hr'
      rw [houter] at houter'
      simp at houter'
  case isFalse =>
    obtain ⟨packet, packet', houter, hdata, -⟩ := hr
    split at hr'
    case isTrue =>
      obtain ⟨_, houter', -⟩ := hr'
      rw [houter] at houter'
      simp at houter'
    case isFalse =>
      obtain ⟨_, _, houter', hdata', -⟩ := hr'
      rw [houter, List.append_cancel_left_eq, List.cons.injEq] at houter'
      exact hdata.value_eq (houter'.1 ▸ hdata')

variable {s : Stored}

theorem robotReboot_mode (r : Robot (List (List UInt8))) :
    (robotReboot r).lcd.mode = r.board.flash.last.mode := by
  unfold robotReboot lcdInit UserData.mode
  dsimp only
  split
  case isTrue hmagic => exact (if_pos hmagic).symm
  case isFalse hmagic => exact (if_neg hmagic).symm

theorem robotReboot_kept (r : Robot (List (List UInt8))) :
    (robotReboot r).rpc.cassette = 0xff ∧ (robotReboot r).rpc.fp = .null ∧
      (robotReboot r).lcd.userp = .params ∧
      (robotReboot r).board.flash.last = r.board.flash.last := by
  unfold robotReboot lcdInit
  dsimp only
  split <;> exact ⟨rfl, rfl, rfl, rfl⟩

theorem apart_iff : Apart s ↔
    s.robot.board.flash.last.mode = s.selected ∧ s.robot.board.flash.last.recording = s.recorded := by
  obtain ⟨-, hfp, -, hlast⟩ := robotReboot_kept s.robot
  constructor
  · intro happart
    refine ⟨(robotReboot_mode _).symm.trans happart.mode_eq, ?_⟩
    rw [← hlast]
    exact (returns_recording rfl rfl hfp).unique (happart.returns cassetteRead rfl rfl).1
  · rintro ⟨hmode, hrecording⟩
    refine ⟨(robotReboot_mode _).trans hmode, fun read htopic hsubtopic => ⟨?_, fun hnull => ?_⟩⟩
    · rw [← hrecording, ← hlast]
      exact returns_recording htopic hsubtopic hfp
    · rw [← hrecording]
      exact returns_recording htopic hsubtopic hnull

theorem UserData.mode_eq_zero_iff {block : UserData} :
    block.mode = kLcdMode0 ↔ ¬ block.LooksSelected := by
  unfold mode LooksSelected
  rw [UInt8.lt_iff_toNat_lt]
  split
  case isTrue hmagic =>
    change ((octetAt block.1 1).toNat : Int) = 0 ↔ ¬ (_ ∧ 0 < (octetAt block.1 1).toNat ∧ _)
    grind
  case isFalse hmagic =>
    exact iff_of_true rfl fun h => hmagic ⟨h.1, h.2.2⟩

variable {d : Deck} {taken recorded : List UInt8}

def UserData.Keeps (block : UserData) (recorded : List UInt8) : Prop :=
  block.mode = kLcdMode0 ∧ block.recording = recorded

theorem UserData.keeps_emptied (block : UserData) : (block.store 0 0).Keeps [] := by
  obtain ⟨octets, hlen⟩ := block
  cases octets with
  | nil => cases hlen
  | cons count octets => exact ⟨rfl, rfl⟩

theorem UserData.octetAt_of_constant {block : UserData} {octets : List UInt8} {octet : UInt8}
    (hne : octets ≠ []) (hrecording : block.recording = octets)
    (hall : ∀ recorded ∈ octets, recorded = octet) : octetAt block.1 1 = octet := by
  cases octets with
  | nil => exact absurd rfl hne
  | cons first rest =>
    rw [UserData.octetAt_recording hrecording]
    exact hall first List.mem_cons_self

theorem Deck.Taken.closes_iff (htaken : d.Taken taken recorded) (hlast : d.last.Keeps recorded) :
    d.data.Keeps taken ↔ d.data.count = taken.length := by
  constructor
  · intro hkeeps
    rw [← d.data.recording_length, hkeeps.2]
  · intro hcount
    cases taken with
    | nil =>
      rcases htaken.fresh rfl with hdata | hdata
      · rw [hdata]
        exact d.last.keeps_emptied
      · rw [hdata] at hcount ⊢
        refine ⟨hlast.1, List.length_eq_zero_iff.mp ?_⟩
        rw [d.last.recording_length, hcount, List.length_nil]
    | cons octet octets =>
      obtain ⟨hdata, hrecorded, -⟩ := htaken.taped (List.cons_ne_nil _ _)
      rwa [hdata, ← hrecorded]

theorem Deck.Taken.saves_iff (htaken : d.Taken taken recorded) (hlast : d.last.Keeps recorded) :
    d.data.Keeps recorded ↔ d.data.count = recorded.length := by
  constructor
  · intro hkeeps
    rw [← d.data.recording_length, hkeeps.2]
  · intro hcount
    cases taken with
    | nil =>
      rcases htaken.fresh rfl with hdata | hdata
      · have hnil : recorded = [] := by
          rw [hdata, ← (d.last.store 0 0).recording_length, d.last.keeps_emptied.2] at hcount
          exact List.length_eq_zero_iff.mp hcount.symm
        rw [hdata, hnil]
        exact d.last.keeps_emptied
      · rwa [hdata]
    | cons octet octets =>
      obtain ⟨hdata, -, -⟩ := htaken.taped (List.cons_ne_nil _ _)
      rwa [hdata]

theorem Deck.Taken.writes_iff {octet : UInt8} (htaken : d.Taken taken recorded)
    (hroom : octetAt d.data.1 0 < 31) :
    (d.data.record octet).Keeps (taken ++ [octet]) ↔
      d.data.count = taken.length ∧
        (∀ recorded ∈ taken ++ [octet], recorded = octetAt d.data.1 (taken.length + 1)) ∧
        ¬ (taken.length = 12 ∧ 0 < octet ∧ octet < 10) := by
  by_cases hcount : d.data.count = taken.length
  case neg =>
    -- The block counts one octet more than before, and so many are played.
    refine iff_of_false (fun hkeeps => hcount ?_) fun h => hcount h.1
    have hlen := congrArg List.length hkeeps.2
    rw [UserData.recording_length, UserData.count_record _ _ hroom, List.length_append] at hlen
    exact Nat.succ.inj hlen
  rw [and_iff_right hcount]
  obtain ⟨base, htape⟩ := htaken.tape_eq hroom hcount
  have hlen : taken.length < 31 := hcount ▸ (UserData.count_eq_of_room hroom).2
  have hlen' : (taken ++ [octet]).length ≤ 31 := by
    rw [List.length_append]
    exact hlen
  have hne : taken ++ [octet] ≠ [] := List.append_ne_nil_of_right_ne_nil _ (List.cons_ne_nil _ _)
  have htape' : (d.data.record octet).1 = tape base (taken ++ [octet]) :=
    UserData.record_tape htape hlen
  have hbeyond := UserData.octetAt_tape_beyond htape
  have hplayed : played base (taken ++ [octet]) = taken ++ [octet] ↔
      ∀ recorded ∈ taken ++ [octet], recorded = octetAt d.data.1 (taken.length + 1) := by
    rw [hbeyond, played_eq_iff hne, List.length_append, List.length_singleton]
  rw [UserData.Keeps, UserData.recording_tape htape' hne hlen', hplayed]
  rw [and_comm]
  refine and_congr_right fun hall => ?_
  have hrecording := (UserData.recording_tape htape' hne hlen').trans (hplayed.mpr hall)
  have hoctet := hall octet (List.mem_append_right taken List.mem_cons_self)
  have hfirst : octetAt (d.data.record octet).1 1 = octet :=
    (UserData.octetAt_of_constant hne hrecording hall).trans hoctet.symm
  rw [UserData.mode_eq_zero_iff, UserData.LooksSelected, hfirst]
  have hmagic : octetAt (d.data.record octet).1 0 = magicNumber ↔ taken.length = 12 := by
    rw [← UInt8.toNat_inj, UserData.octetAt_tape_count htape' hlen', List.length_append]
    exact Nat.succ_inj
  rw [hmagic, UInt8.lt_iff_toNat_lt (b := 10)]
  change ¬ (_ ∧ _ ∧ (octet.toNat : Int) < ((10 : Nat) : Int)) ↔ _
  rw [Int.ofNat_lt]
  exact Iff.rfl

theorem cassetteCall_refilled (message : MessageAny) (r : Robot (List (List UInt8))) :
    cassetteCall message r.refilled.toHost = cassetteCall message r.toHost := by
  have hload : (loadData r.rpc.fp 0 r.refilled.toHost).1 = (loadData r.rpc.fp 0 r.toHost).1 := by
    cases r.rpc.fp <;> rfl
  cases message with
  | write write =>
    unfold cassetteCall
    change (loadData r.refilled.rpc.fp 0 r.refilled.toHost).1 = _ at hload
    rw [hload]
    rfl
  | message | read | ping | pong | info | data | subscribe | unsubscribe => rfl

variable {s : Stored}

/-- Nothing was selected yet, and what an open cassette has taken is in flash. -/
structure Unselected (s : Stored) : Prop where
  userp_eq : s.robot.lcd.userp = .params
  mode_eq : s.robot.lcd.mode = kLcdMode0
  selected_eq : s.selected = kLcdMode0
  kept : (deck s.robot.toHost).Kept s.taken s.recorded

def UserData.select (block : UserData) (mode : LcdMode) : UserData :=
  (block.store 0 magicNumber).store 1 (UInt8.ofInt mode)

theorem UserData.select_octets (block : UserData) (mode : LcdMode) :
    octetAt (block.select mode).1 0 = magicNumber ∧
      octetAt (block.select mode).1 1 = UInt8.ofInt mode := by
  obtain ⟨octets, hlen⟩ := block
  match octets with
  | [] | [_] => cases hlen
  | _ :: _ :: _ => exact ⟨rfl, rfl⟩

theorem lcdRead_selects {r : Robot (List (List UInt8))} {buttons : VexLcdButton}
    (hbuttons : buttons = .right ∨ buttons = .left) (huserp : r.lcd.userp = .params) :
    (lcdRead buttons r.refilled).lcd.mode = lcdStep buttons r.lcd.mode ∧
      (lcdRead buttons r.refilled).board.flash.last =
        r.board.flash.data.select (lcdStep buttons r.lcd.mode) := by
  have hread : lcdRead buttons r.refilled =
      ⟨writeFlash .params { r.refilled.toHost with
          board.flash.data := r.board.flash.data.select (lcdStep buttons r.lcd.mode) },
        { r.lcd with mode := lcdStep buttons r.lcd.mode, buttons := .none }⟩ := by
    rw [lcdRead, if_pos hbuttons]
    simp only [Robot.refilled, huserp]
    rfl
  rw [hread]
  exact ⟨rfl, vexFlashUserParamWrite_last (show 0 < 32 by decide)⟩

theorem UserData.recording_magic {block block' : UserData}
    (hmagic : octetAt block'.1 0 = magicNumber) (h : block.recording = block'.recording) :
    octetAt block.1 0 = magicNumber ∧ octetAt block.1 1 = octetAt block'.1 1 := by
  have hcount' : block'.count = 13 := by
    rw [count, hmagic]
    rfl
  have hcount : block.count = 13 := by
    rw [← block.recording_length, h, block'.recording_length, hcount']
  refine ⟨?_, ?_⟩
  · unfold count at hcount
    split at hcount
    · exact UInt8.toNat_inj.mp hcount
    · cases hcount
  · cases hrecording : block'.recording with
    | nil =>
      rw [← block'.recording_length, hrecording] at hcount'
      cases hcount'
    | cons octet octets =>
      rw [octetAt_recording hrecording, octetAt_recording (h.trans hrecording)]

theorem not_apart_select (hs : Unselected s) (happart : Apart s) {buttons : VexLcdButton}
    (hbuttons : buttons = .right ∨ buttons = .left) :
    ¬ Apart (storedStep s (.button buttons)) := by
  intro happart'
  obtain ⟨hmode, hrecording⟩ := apart_iff.mp happart
  obtain ⟨-, hlast⟩ := lcdRead_selects hbuttons hs.userp_eq
  have hrecording' := (apart_iff.mp happart').2
  change (lcdRead buttons s.robot.refilled).board.flash.last.recording = s.recorded at hrecording'
  rw [hlast, hs.mode_eq, ← hrecording] at hrecording'
  obtain ⟨hmagic, hoctet⟩ := s.robot.board.flash.data.select_octets (lcdStep buttons kLcdMode0)
  obtain ⟨hcount, hfirst⟩ := UserData.recording_magic hmagic hrecording'.symm
  rw [hs.selected_eq, UserData.mode_eq_zero_iff] at hmode
  refine hmode ⟨hcount, ?_⟩
  rw [hfirst, hoctet]
  rcases hbuttons with rfl | rfl <;> decide

theorem lcdRead_idle {buttons : VexLcdButton} (hbuttons : ¬ (buttons = .right ∨ buttons = .left))
    (r : Robot (List (List UInt8))) :
    lcdRead buttons r.refilled = { r.refilled with lcd.buttons := buttons } :=
  if_neg hbuttons

theorem apart_iff_keeps (hselected : s.selected = kLcdMode0) :
    Apart s ↔ (deck s.robot.toHost).last.Keeps s.recorded := by
  rw [apart_iff, hselected]
  exact Iff.rfl

theorem storedStep_recv (s : Stored) (message : MessageAny) :
    (storedStep s (.recv message)).robot = robotStep s.robot (.recv message) ∧
      (storedStep s (.recv message)).selected = s.selected := by
  cases hcall : cassetteCall message s.robot.toHost with
  | none => simp only [storedStep, hcall, and_self]
  | some call => cases call <;> simp only [storedStep, hcall, and_self]

theorem deck_recv (hs : Unselected s) {message : MessageAny} {call : CassetteCall}
    (hcall : cassetteCall message s.robot.toHost = some call) :
    deck (storedStep s (.recv message)).robot.toHost = (deck s.robot.toHost).call call := by
  rw [(storedStep_recv s message).1]
  exact deck_rpcRecv (h := s.robot.refilled.toHost) hs.kept.whole (show 0 < 32 by decide)
    ((cassetteCall_refilled message s.robot).trans hcall)

theorem recv_reloads (hs : Unselected s) {message : MessageAny}
    (hcall : cassetteCall message s.robot.toHost = none) :
    (deck s.robot.toHost).Reloads (storedStep s (.recv message)).robot.toHost := by
  rw [(storedStep_recv s message).1]
  exact rpcRecv_reloads (h := s.robot.refilled.toHost) hs.kept.whole (show 0 < 32 by decide)
    ((cassetteCall_refilled message s.robot).trans hcall)

/-- One message, call by call: flash holds what was recorded exactly under the condition, and then
an open cassette keeps what it has taken. -/
theorem recv_step (hs : Unselected s) (happart : Apart s) (message : MessageAny) :
    (Apart (storedStep s (.recv message)) ↔ Harmless s (.recv message)) ∧
      (Harmless s (.recv message) → (deck (storedStep s (.recv message)).robot.toHost).Kept
        (storedStep s (.recv message)).taken (storedStep s (.recv message)).recorded) := by
  have hlast := (apart_iff_keeps hs.selected_eq).mp happart
  rw [apart_iff_keeps ((storedStep_recv s message).2.trans hs.selected_eq)]
  cases hcall : cassetteCall message s.robot.toHost with
  | none =>
    have hkept := hs.kept
    have htaken : (storedStep s (.recv message)).taken = s.taken := by simp only [storedStep, hcall]
    have hrecorded : (storedStep s (.recv message)).recorded = s.recorded := by
      simp only [storedStep, hcall]
    have hharmless : Harmless s (.recv message) := by simp only [Harmless, hcall]
    rw [htaken, hrecorded, iff_true_right hharmless]
    rcases recv_reloads hs hcall with hdeck | hdeck
    · rw [hdeck]
      exact ⟨hlast, fun _ => hkept⟩
    · rw [hdeck]
      exact ⟨hlast, fun _ => ⟨hkept.whole, fun hfp => (hkept.taken hfp).reload⟩⟩
  | some call =>
    have hdeck := deck_recv hs hcall
    have hopen := cassetteCall_open hs.kept.whole hcall
    rw [hdeck]
    cases call with
    | opens =>
      simp only [storedStep, Harmless, hcall]
      refine ⟨iff_of_true hlast trivial, fun _ => ⟨.inr ⟨rfl, rfl⟩, fun _ => ?_⟩⟩
      exact ⟨fun _ => .inl rfl, fun hne => absurd rfl hne⟩
    | writes octet =>
      obtain ⟨hfp, hroom⟩ := hopen.resolve_left CassetteCall.noConfusion
      have htaken := hs.kept.taken hfp
      have hlt := hroom octet rfl
      simp only [storedStep, Harmless, hcall]
      exact ⟨htaken.writes_iff hlt, fun h => ⟨hs.kept.whole, fun _ => htaken.write hlt h.1⟩⟩
    | full =>
      simp only [storedStep, Harmless, hcall]
      exact ⟨iff_of_true hlast trivial, fun _ => .of_closed rfl rfl⟩
    | closes =>
      obtain ⟨hfp, -⟩ := hopen.resolve_left CassetteCall.noConfusion
      simp only [storedStep, Harmless, hcall]
      exact ⟨(hs.kept.taken hfp).closes_iff hlast, fun _ => .of_closed rfl rfl⟩
    | saves =>
      obtain ⟨hfp, -⟩ := hopen.resolve_left CassetteCall.noConfusion
      have htaken := hs.kept.taken hfp
      simp only [storedStep, Harmless, hcall]
      exact ⟨htaken.saves_iff hlast, fun _ => ⟨hs.kept.whole, fun _ => htaken.save⟩⟩

theorem apart_step_iff (hs : Unselected s) (happart : Apart s) (action : RobotAction) :
    Apart (storedStep s action) ↔ Harmless s action := by
  cases action with
  | button buttons =>
    by_cases hbuttons : buttons = .right ∨ buttons = .left
    · exact iff_of_false (not_apart_select hs happart hbuttons)
        fun h => hbuttons.elim h.1 h.2
    · refine iff_of_true (apart_iff.mpr ?_) (not_or.mp hbuttons)
      simp only [storedStep, robotStep, lcdRead_idle hbuttons, if_neg hbuttons]
      exact apart_iff.mp happart
  | recv message => exact (recv_step hs happart message).1
  | connect =>
    have hlast := apart_iff.mp happart
    exact iff_of_true (apart_iff.mpr ⟨hlast.1, hlast.2⟩) trivial
  | reboot =>
    refine iff_of_true (apart_iff.mpr ?_) trivial
    change UserData.mode (robotReboot s.robot).board.flash.last = _ ∧
      UserData.recording (robotReboot s.robot).board.flash.last = _
    rw [(robotReboot_kept s.robot).2.2.2]
    exact apart_iff.mp happart

theorem unselected_step (hs : Unselected s) (happart : Apart s) {action : RobotAction}
    (haction : Harmless s action) : Unselected (storedStep s action) := by
  cases action with
  | button buttons =>
    have hbuttons := not_or.mpr haction
    simp only [storedStep, robotStep, lcdRead_idle hbuttons, if_neg hbuttons]
    exact ⟨hs.userp_eq, hs.mode_eq, hs.selected_eq, hs.kept⟩
  | recv message =>
    obtain ⟨hrobot, hselected⟩ := storedStep_recv s message
    refine ⟨?_, ?_, hselected.trans hs.selected_eq,
      (recv_step hs happart message).2 haction⟩
    · rw [hrobot]
      exact hs.userp_eq
    · rw [hrobot]
      exact hs.mode_eq
  | connect => exact ⟨hs.userp_eq, hs.mode_eq, hs.selected_eq, .of_closed rfl rfl⟩
  | reboot =>
    obtain ⟨hcassette, hfp, huserp, -⟩ := robotReboot_kept s.robot
    exact ⟨huserp, happart.mode_eq.trans hs.selected_eq, hs.selected_eq, .of_closed hfp hcassette⟩

theorem unselected_boot : Unselected .boot :=
  ⟨by decide, by decide, by decide, .of_closed (by decide) (by decide)⟩

example :
    ¬ Apart ([cassetteWrite messagesTopicCassetteSubtopicOpen [0],
      cassetteWrite messagesTopicCassetteSubtopicWrite [0, 1],
      cassetteWrite messagesTopicCassetteSubtopicWrite [0, 2],
      cassetteWrite messagesTopicCassetteSubtopicClose [0]].foldl
        (fun s write => storedStep s (.recv (.write write))) .boot) := by
  rw [apart_iff]
  decide +kernel

end TurningPoint
