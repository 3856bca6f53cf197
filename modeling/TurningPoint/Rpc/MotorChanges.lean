import TurningPoint.Lib.Run
import TurningPoint.Rpc.Motors

universe u

namespace TurningPoint

/-- A session with what is to be remembered of its run: the state before the last publication round,
and for each motor the value that the last READ of it since then has found. -/
structure Watch (ρ : Type u) where
  session : Host ρ
  last : Option (Host ρ)
  seen : Fin kVexMotorNum → Option Int8

def ReadsMotor (read : MessageRead) (i : Fin kVexMotorNum) : Prop :=
  read.topic = messagesTopicMotor ∧
    (read.subtopic.toNat = i ∨ read.subtopic = messagesTopicMotorSubtopicAll)

instance (read : MessageRead) (i : Fin kVexMotorNum) : Decidable (ReadsMotor read i) :=
  inferInstanceAs (Decidable (_ ∧ _))

variable {ρ : Type u}

def watchStep (wp : WritePacket ρ) (w : Watch ρ) (action : Action) : Watch ρ :=
  let session := sessionStep wp w.session action
  match action with
  | .loop =>
    if RoundDue w.session then ⟨session, some w.session, fun _ => none⟩ else { w with session }
  | .recv (.read read) =>
    ⟨session, w.last, fun i =>
      if ReadsMotor read i then some (w.session.board.motors i) else w.seen i⟩
  | _ => { w with session }

def Watch.start (h : Host ρ) : Watch ρ := ⟨h, none, fun _ => none⟩

structure Changed (w : Watch ρ) (i : Fin kVexMotorNum) (k : Fin rpcSubMax) (before : Host ρ) :
    Prop where
  last_eq : w.last = some before
  covers : (w.session.rpc.subs k).Covers i
  subscribed : before.rpc.subs k = w.session.rpc.subs k
  value_ne : w.session.board.motors i ≠ before.board.motors i

/-- The round that is due sends every change to every subscription that covers it. -/
def SendsChanges (wp : WritePacket ρ) [Posting wp] (w : Watch ρ) (action : Action) : Prop :=
  action = .loop → RoundDue w.session → ∀ i k before, Changed w i k before →
    ∃ packet ∈ (sent wp (sessionStep wp w.session action)).drop (sent wp w.session).length,
      Carries packet (w.session.rpc.subs k).reqId w.session.board.motors i

/-- No READ has found the value that the round finds, and the first subscription that covers the
motor has the request id. -/
def ClearRound (w : Watch ρ) (action : Action) : Prop :=
  action = .loop → RoundDue w.session → ∀ i k before, Changed w i k before →
    w.seen i ≠ some (w.session.board.motors i) ∧
    ∃ j, (List.finRange rpcSubMax).find? (fun j => decide ((w.session.rpc.subs j).Covers i)) =
      some j ∧ (w.session.rpc.subs j).reqId = (w.session.rpc.subs k).reqId

def Watch.Cached (w : Watch ρ) : Prop :=
  ∀ before, w.last = some before → ∀ i, (∃ k, (before.rpc.subs k).Covers i) →
    w.session.rpc.motor i = (w.seen i).getD (before.board.motors i)

variable {wp : WritePacket ρ} [Aloof wp]

theorem sends_motor (motor : Fin kVexMotorNum → Int8) :
    Sends wp (fun h => h.rpc.motor = motor) :=
  Posting.sends fun _ _ _ _ hh => hh

theorem replies_motor (motor : Fin kVexMotorNum → Int8) :
    Replies wp (fun h => h.rpc.motor = motor) :=
  ⟨sends_motor motor, fun _ _ hh => hh, fun _ _ hh => hh, fun _ _ hh => hh, fun _ hh => hh⟩

theorem records_motor (motor : Fin kVexMotorNum → Int8) :
    Records wp (fun h => h.rpc.motor = motor) :=
  ⟨sends_motor motor, fun _ _ _ hh => hh, .of_any fun _ _ _ hh => hh⟩

theorem rpcRecv_motor {message : MessageAny} (h : Host ρ)
    (hmessage : ∀ read, message = .read read → read.topic ≠ messagesTopicMotor) :
    (rpcRecv wp message h).rpc.motor = h.rpc.motor := by
  have hreplies : Replies wp _ := replies_motor h.rpc.motor
  have hrecords : Records wp _ := records_motor h.rpc.motor
  refine hreplies.rpcRecv_keeps rfl ?_ ?_ ?_ ?_ ?_
  · exact fun read hread htopic => absurd htopic (hmessage read hread)
  · exact fun read _ _ => hrecords.rpcRecvReadCassette_keeps hrecords.flash read rfl
  · exact fun write _ _ => hrecords.rpcRecvWriteCassette_keeps write rfl
  · exact fun m _ => hreplies.rpcRecvSubscribe_keeps (fun _ _ _ hh => hh) m rfl
  · exact fun m _ => hreplies.rpcRecvUnsubscribe_keeps (fun _ _ hh => hh) m rfl

variable (wp) in
theorem rpcRecvReadMotor_motor {read : MessageRead} (htopic : read.topic = messagesTopicMotor)
    (h : Host ρ) (i : Fin kVexMotorNum) :
    (rpcRecvReadMotor wp read h).rpc.motor i =
      if ReadsMotor read i then h.board.motors i else h.rpc.motor i := by
  have hsend (value : List UInt8) (h : Host ρ) :
      (rpcSendRep wp read value h).rpc.motor = h.rpc.motor :=
    (sends_motor h.rpc.motor).rpcSendRep_keeps _ _ rfl
  unfold rpcRecvReadMotor
  split
  case isTrue hindex =>
    have hall : read.subtopic ≠ messagesTopicMotorSubtopicAll := fun hall => by
      rw [hall] at hindex
      exact absurd hindex (by decide)
    rw [hsend]
    dsimp only
    rw [Function.update_apply]
    by_cases hi : i = ⟨read.subtopic.toNat, hindex⟩
    · rw [if_pos hi, if_pos ⟨htopic, .inl (Fin.ext_iff.mp hi).symm⟩, hi]
      rfl
    · rw [if_neg hi, if_neg]
      rintro ⟨-, hi' | hi'⟩
      · exact hi (Fin.ext hi'.symm)
      · exact hall hi'
  case isFalse hindex =>
    have hi : ¬ read.subtopic.toNat = i := by omega
    split
    case isTrue hall =>
      dsimp only
      rw [hsend, collectMotors_always, if_pos ⟨htopic, .inr hall⟩]
    case isFalse hnot =>
      rw [if_neg (fun hread => hread.2.elim hi hnot)]
      exact congrFun ((sends_motor h.rpc.motor).rpcSendRepError_keeps _ _ _ _ rfl) i

theorem rpcRecv_read_motor (read : MessageRead) (h : Host ρ) (i : Fin kVexMotorNum) :
    (rpcRecv wp (.read read) h).rpc.motor i =
      if ReadsMotor read i then h.board.motors i else h.rpc.motor i := by
  by_cases htopic : read.topic = messagesTopicMotor
  · rw [← rpcRecvReadMotor_motor wp htopic]
    have hread : rpcRecvRead wp read h = rpcRecvReadMotor wp read h := by
      rw [rpcRecvRead, htopic, if_neg (by decide), if_neg (by decide), if_pos rfl]
    rw [← hread]
    rfl
  · rw [if_neg fun hread => htopic hread.1, rpcRecv_motor h]
    rintro _ ⟨⟩
    exact htopic

theorem rpcLoop_round_motor {h : Host ρ} (hdue : RoundDue h) {i : Fin kVexMotorNum}
    {k : Fin rpcSubMax} (hk : (h.rpc.subs k).Covers i) :
    (rpcLoop wp h).rpc.motor i = h.board.motors i := by
  have hround := rpcLoop_published_round wp hdue
  by_cases hsame : h.rpc.motor i = h.board.motors i
  · rw [hround.kept i fun _ hs => hs.1 hsame, hsame]
  · have hfind : ((List.finRange rpcSubMax).find?
        fun j => decide ((h.rpc.subs j).Covers i)).isSome := by
      rw [List.find?_isSome]
      exact ⟨k, List.mem_finRange k, decide_eq_true hk⟩
    obtain ⟨j, hj⟩ := Option.isSome_iff_exists.mp hfind
    exact hround.caught i _ ⟨hsame, j, hj, rfl⟩

theorem watchStep_cached (w : Watch ρ) (action : Action) (hw : w.Cached) :
    (watchStep wp w action).Cached := by
  cases action with
  | robot clock motors => exact hw
  | loop =>
    rw [watchStep]
    split
    case isTrue hdue =>
      rintro _ ⟨⟩ i ⟨k, hk⟩
      exact rpcLoop_round_motor hdue hk
    case isFalse hdue =>
      intro before hbefore i hi
      refine ((rpcLoop_published_idle hdue).kept i fun _ => not_false).trans (hw before hbefore i hi)
  | recv message =>
    by_cases hread : ∃ read, message = .read read
    · obtain ⟨read, rfl⟩ := hread
      intro before hbefore i hi
      refine (rpcRecv_read_motor read w.session i).trans ?_
      change _ = (if ReadsMotor read i then some (w.session.board.motors i) else w.seen i).getD _
      split
      · rfl
      · exact hw before hbefore i hi
    · have hmotor : (rpcRecv wp message w.session).rpc.motor = w.session.rpc.motor :=
        rpcRecv_motor _ fun read hm => absurd ⟨read, hm⟩ hread
      have hstep : watchStep wp w (.recv message) =
          { w with session := rpcRecv wp message w.session } := by
        cases message with
        | read read => exact absurd ⟨read, rfl⟩ hread
        | _ => rfl
      rw [hstep]
      intro before hbefore i hi
      exact (congrFun hmotor i).trans (hw before hbefore i hi)

theorem Watch.start_cached (h : Host ρ) : (start h).Cached := by
  rintro _ ⟨⟩

variable (wp) in
theorem run_cached (h : Host ρ) (actions : List Action) :
    (actions.foldl (watchStep wp) (.start h)).Cached :=
  List.foldlRecOn actions (watchStep wp) (Watch.start_cached h) fun w hw action _ =>
    watchStep_cached w action hw

theorem sendsChanges_iff (w : Watch ρ) (action : Action) (hw : w.Cached) :
    SendsChanges wp w action ↔ ClearRound w action := by
  refine forall_congr' fun haction => forall_congr' fun hdue => forall₄_congr fun i k before hc => ?_
  subst haction
  obtain ⟨packets, houter, hpackets⟩ := (rpcLoop_published_round wp hdue).packets
  have hcache : w.session.rpc.motor i ≠ w.session.board.motors i ↔
      w.seen i ≠ some (w.session.board.motors i) := by
    rw [hw before hc.last_eq i ⟨k, by rw [hc.subscribed]; exact hc.covers⟩]
    cases w.seen i with
    | none => simpa using hc.value_ne.symm
    | some value => simp
  rw [sessionStep, houter, List.drop_left, hpackets, roundSends, hcache]

/-- In every run, the rounds send every change to every subscription that covers it exactly when
all of them are clear. -/
theorem motor_changes_iff (wp : WritePacket ρ) [Aloof wp] (h : Host ρ) (actions : List Action) :
    Lib.Along (SendsChanges wp) (watchStep wp) (.start h) actions ↔
      Lib.Along ClearRound (watchStep wp) (.start h) actions :=
  Lib.Along.congr_of_invariant sendsChanges_iff watchStep_cached (Watch.start_cached h) actions

def twoSubscribers : List Action :=
  [.recv (.subscribe ⟨1, messagesTopicMotor, 0⟩),
    .recv (.subscribe ⟨2, messagesTopicMotor, messagesTopicMotorSubtopicAll⟩),
    .robot (fun _ => 25) (fun _ => 0), .loop, .robot (fun _ => 50) (fun _ => 5)]

/-- The round that follows does not send the first motor to the second subscription. -/
theorem not_sendsChanges_twoSubscribers :
    ¬ Lib.Along (SendsChanges keepPacket) (watchStep keepPacket) (.start Session.fresh)
      (twoSubscribers ++ [.loop]) := by
  rintro ⟨-, -, -, -, -, hsends, -⟩
  let w := twoSubscribers.foldl (watchStep keepPacket) (.start Session.fresh)
  let before := (twoSubscribers.take 3).foldl (watchStep keepPacket) (.start Session.fresh)
  have hchanged : Changed w 0 1 before.session :=
    ⟨rfl, by decide +kernel, by decide +kernel, by decide +kernel⟩
  obtain ⟨-, j, hj, hid⟩ := (sendsChanges_iff w .loop (run_cached keepPacket _ _)).mp hsends rfl
    (by decide +kernel) 0 1 _ hchanged
  have hfirst : (List.finRange rpcSubMax).find?
      (fun j => decide ((w.session.rpc.subs j).Covers 0)) = some 0 := by decide +kernel
  obtain rfl : 0 = j := Option.some.inj (hfirst.symm.trans hj)
  exact absurd hid (by decide +kernel)

end TurningPoint
