import Mathlib.Data.List.Induction
import TurningPoint.Spi.Defs

namespace TurningPoint

inductive SpiPhase
  | starting
  | naming
  | running
  deriving DecidableEq

namespace SpiPhase

def state : SpiPhase → UInt8
  | starting => 0x02
  | naming => 0x03
  | running => 0x08

/-- A master that has the name, or that has or has not good data, ends the configuration. -/
def next (status : UInt8) (phase : SpiPhase) : SpiPhase :=
  if phase = running then running
  else if status &&& 0x0C ≠ 0 ∨ status &&& 0x0F = 0x03 then running
  else if status &&& 0x0F = 0x02 then naming
  else phase

end SpiPhase

namespace SpiTurn

def received (turn : SpiTurn) : List UInt8 := spiReceived turn.master

def status (turn : SpiTurn) : UInt8 := octetAt turn.received 2

def Valid (turn : SpiTurn) : Prop := octetAt turn.received 0 = 0x17 ∧ octetAt turn.received 1 = 0xC9

instance (turn : SpiTurn) : Decidable turn.Valid := inferInstanceAs (Decidable (_ ∧ _))

end SpiTurn

def SpiPhase.turn (phase : SpiPhase) (turn : SpiTurn) : SpiPhase :=
  if turn.Valid then phase.next turn.status else phase

def SpiPhase.after (turns : List SpiTurn) : SpiPhase := turns.foldl SpiPhase.turn .starting

def SpiTurn.motor (turn : SpiTurn) (m : Fin 8) : UInt8 :=
  spiMotor (turn.value (spiPort m)) (turn.reversed (spiPort m))

def spiPacket (phase : SpiPhase) (k : Nat) (type : UInt8) (motor : Fin 8 → UInt8) : SpiTxPacket :=
  ⟨0x17, 0xC9, phase.state, [0x00, 0x00], type, motor, List.replicate 15 0x00, 0x00, 0x01, .ofNat k⟩

def spiMessage (spiTeamName : List UInt8) (phase : SpiPhase) (k : Nat) (turn : SpiTurn) :
    SpiTxPacket :=
  if phase = .naming then spiPacket phase k 0x55 fun m => octetAt (copyTeamName 8 spiTeamName) m
  else spiPacket phase k 0x00 turn.motor

theorem foldl_vexSpiSetMotor (turn : SpiTurn) (slots : List (Fin 8)) (s : SpiData) :
    slots.foldl
        (fun s m => vexSpiSetMotor m (turn.value (spiPort m)) (turn.reversed (spiPort m)) s) s =
      { s with
        txdata.motor := fun m =>
          if slots.contains m then turn.motor m else s.txdata.motor m } := by
  induction slots generalizing s with
  | nil => simp
  | cons slot slots ih =>
    rw [List.foldl_cons, ih]
    refine congrArg (fun motor => { s with txdata.motor := motor }) (funext fun m => ?_)
    rcases eq_or_ne m slot with rfl | hne
    · simp [vexSpiSetMotor, SpiTurn.motor]
    · simp [vexSpiSetMotor, hne]

theorem SpiTurn.setMotors_eq (turn : SpiTurn) (s : SpiData) :
    turn.setMotors s = { s with txdata.motor := turn.motor } := by
  rw [setMotors, foldl_vexSpiSetMotor]
  simp

def SpiTxPacket.InPhase (phase : SpiPhase) (k : Nat) (tx : SpiTxPacket) : Prop :=
  ∃ type motor, (phase ≠ .naming → type = 0x00) ∧ tx = spiPacket phase k type motor

theorem spiMessage_inPhase (spiTeamName : List UInt8) (phase : SpiPhase) (k : Nat)
    (turn : SpiTurn) : (spiMessage spiTeamName phase k turn).InPhase phase k := by
  unfold spiMessage
  split
  next h => exact ⟨_, _, fun hne => absurd h hne, rfl⟩
  next => exact ⟨_, _, fun _ => rfl, rfl⟩

theorem SpiTxPacket.InPhase.next {phase : SpiPhase} {k : Nat} {tx : SpiTxPacket}
    (h : tx.InPhase phase k) : SpiTxPacket.InPhase phase (k + 1) { tx with id := tx.id + 1 } := by
  obtain ⟨type, motor, htype, rfl⟩ := h
  refine ⟨type, motor, htype, ?_⟩
  simp [spiPacket]

theorem SpiTxPacket.configure_eq {tx : SpiTxPacket} (h : tx.state &&& 0x0E = 0x02)
    (status : UInt8) : tx.configure status =
      if status &&& 0x0C ≠ 0 ∨ status &&& 0x0F = 0x03 then { tx with state := 0x08, type := 0x00 }
      else if status &&& 0x0F = 0x02 then { tx with state := 0x03 }
      else tx := by
  rw [configure, if_pos h]
  by_cases hdata : status &&& 0x0C ≠ 0
  · simp only [hdata, true_or, if_true, ne_eq, not_false_eq_true]
    split_ifs <;> rfl
  · by_cases hname : status &&& 0x0F = 0x03
    · simp [hdata, hname]
    · simp [hdata, hname]

theorem SpiTxPacket.InPhase.configure {phase : SpiPhase} {k : Nat} {tx : SpiTxPacket}
    (h : tx.InPhase phase k) (status : UInt8) :
    (tx.configure status).InPhase (phase.next status) k := by
  obtain ⟨type, motor, htype, rfl⟩ := h
  cases phase with
  | running =>
    have hstate : ¬ ((0x08 : UInt8) &&& 0x0E = 0x02) := by decide
    exact ⟨type, motor, htype, if_neg hstate⟩
  | starting =>
    obtain rfl := htype (by decide)
    rw [configure_eq (show (0x02 : UInt8) &&& 0x0E = 0x02 by decide), SpiPhase.next,
      if_neg (by decide)]
    split_ifs
    · exact ⟨0x00, motor, fun _ => rfl, rfl⟩
    · exact ⟨0x00, motor, fun _ => rfl, rfl⟩
    · exact ⟨0x00, motor, fun _ => rfl, rfl⟩
  | naming =>
    rw [configure_eq (show (0x03 : UInt8) &&& 0x0E = 0x02 by decide), SpiPhase.next,
      if_neg (by decide)]
    split_ifs
    · exact ⟨0x00, motor, fun _ => rfl, rfl⟩
    · exact ⟨type, motor, fun h => absurd rfl h, rfl⟩
    · exact ⟨type, motor, fun h => absurd rfl h, rfl⟩

theorem SpiTxPacket.InPhase.message {phase : SpiPhase} {k : Nat} {tx : SpiTxPacket}
    (h : tx.InPhase phase k) (spiTeamName : List UInt8) (turn : SpiTurn) :
    (if tx.state = 0x03 then
        { tx with type := 0x55, motor := fun i => octetAt (copyTeamName 8 spiTeamName) i }
      else { tx with motor := turn.motor }) = spiMessage spiTeamName phase k turn := by
  obtain ⟨type, motor, htype, rfl⟩ := h
  cases phase with
  | naming => rfl
  | starting =>
    obtain rfl := htype (by decide)
    rfl
  | running =>
    obtain rfl := htype (by decide)
    rfl

/-- What the turns before lead to. -/
structure SpiData.Follows (s : SpiData) (turns : List SpiTurn) : Prop where
  txdata : s.txdata.InPhase (.after turns) turns.length
  rxdata : s.rxdata =
    ((turns.filter fun turn => turn.Valid).getLast?.map SpiTurn.received).getD (List.replicate 32 0)
  online : s.online = turns.any fun turn => turn.Valid ∧ turn.status &&& 0x0F = 0x08
  errors : s.errors = .ofNat (turns.countP fun turn => ¬ turn.Valid)

theorem SpiPhase.after_concat (turns : List SpiTurn) (turn : SpiTurn) :
    SpiPhase.after (turns ++ [turn]) = (SpiPhase.after turns).turn turn := by
  rw [after, List.foldl_append]
  rfl

theorem SpiData.Follows.turn {s : SpiData} {turns : List SpiTurn} (h : s.Follows turns)
    (spiTeamName : List UInt8) (turn : SpiTurn) :
    (vexSpiSend spiTeamName turn.master (turn.setMotors s)).1 =
        (spiMessage spiTeamName (.after turns) turns.length turn).words ∧
      (vexSpiSend spiTeamName turn.master (turn.setMotors s)).2.Follows (turns ++ [turn]) := by
  have hmessage := h.txdata.message spiTeamName turn
  have hnext : SpiTxPacket.InPhase (.after turns) (turns ++ [turn]).length
      { spiMessage spiTeamName (.after turns) turns.length turn with
        id := (spiMessage spiTeamName (.after turns) turns.length turn).id + 1 } := by
    rw [List.length_append, List.length_singleton]
    exact (spiMessage_inPhase spiTeamName (.after turns) turns.length turn).next
  unfold vexSpiSend
  rw [SpiTurn.setMotors_eq]
  dsimp only
  rw [hmessage]
  by_cases hvalid : turn.Valid
  · have hheader : octetAt turn.received 0 = 0x17 ∧ octetAt turn.received 1 = 0xC9 := hvalid
    have hphase : SpiPhase.after (turns ++ [turn]) = (SpiPhase.after turns).next turn.status := by
      rw [SpiPhase.after_concat, SpiPhase.turn, if_pos hvalid]
    simp only [SpiTurn.received] at hheader
    rw [if_pos hheader]
    refine ⟨rfl, ?_, ?_, ?_, ?_⟩
    · rw [hphase]
      exact hnext.configure turn.status
    · simp [List.filter_append, hvalid, SpiTurn.received]
    · by_cases honline : turn.status &&& 0x0F = 0x08
      · have hstatus : octetAt (spiReceived turn.master) 2 &&& 0x0F = 0x08 := honline
        simp [hvalid, honline, hstatus]
      · have hstatus : ¬ octetAt (spiReceived turn.master) 2 &&& 0x0F = 0x08 := honline
        simp [hvalid, honline, hstatus, h.online]
    · simp [hvalid, h.errors]
  · have hheader : ¬ (octetAt turn.received 0 = 0x17 ∧ octetAt turn.received 1 = 0xC9) := hvalid
    have hphase : SpiPhase.after (turns ++ [turn]) = SpiPhase.after turns := by
      rw [SpiPhase.after_concat, SpiPhase.turn, if_neg hvalid]
    simp only [SpiTurn.received] at hheader
    rw [if_neg hheader]
    refine ⟨rfl, ?_, ?_, ?_, ?_⟩
    · rw [hphase]
      exact hnext
    · simp [List.filter_append, hvalid, h.rxdata]
    · simp [hvalid, h.online]
    · simp [hvalid, h.errors]

theorem SpiData.follows_init : SpiData.init.Follows [] where
  txdata := ⟨0x00, fun _ => 0x7F, fun _ => rfl, rfl⟩
  rxdata := rfl
  online := rfl
  errors := rfl

def spiMessages (spiTeamName : List UInt8) (turns : List SpiTurn) : List (List UInt16) :=
  turns.mapIdx fun k turn => (spiMessage spiTeamName (.after (turns.take k)) k turn).words

theorem vexCortexSystemTurn_follows (spiTeamName : List UInt8) (turns : List SpiTurn) :
    let t := turns.foldl (vexCortexSystemTurn spiTeamName) ([], SpiData.init)
    t.1 = spiMessages spiTeamName turns ∧ t.2.Follows turns := by
  induction turns using List.reverseRecOn with
  | nil => exact ⟨rfl, SpiData.follows_init⟩
  | append_singleton turns turn ih =>
    obtain ⟨hsent, hfollows⟩ := ih
    obtain ⟨hwords, hnext⟩ := hfollows.turn spiTeamName turn
    rw [List.foldl_append]
    refine ⟨?_, hnext⟩
    have hbefore : spiMessages spiTeamName turns = turns.mapIdx fun k turn' =>
        (spiMessage spiTeamName (.after ((turns ++ [turn]).take k)) k turn').words := by
      refine List.ext_getElem (by simp [spiMessages]) fun k hk _ => ?_
      have hlt : k < turns.length := by simpa [spiMessages] using hk
      simp [spiMessages, List.take_append_of_le_length hlt.le]
    rw [spiMessages, List.mapIdx_concat, ← hbefore, List.take_left, ← hsent, ← hwords]
    rfl

/-- Every message to the master is that of its phase: numbered in order, with the team name while the
master asks for it, and otherwise with the motors as they were read in that turn. -/
theorem spi_sends (spiTeamName : List UInt8) (turns : List SpiTurn) :
    (turns.foldl (vexCortexSystemTurn spiTeamName) ([], SpiData.init)).1 =
      spiMessages spiTeamName turns :=
  (vexCortexSystemTurn_follows spiTeamName turns).1

/-- What the rest of the program reads is the last whole message that had its header, and it is online
once such a message has shown good data. -/
theorem spi_receives (spiTeamName : List UInt8) (turns : List SpiTurn) :
    let s := (turns.foldl (vexCortexSystemTurn spiTeamName) ([], SpiData.init)).2
    s.rxdata = ((turns.filter fun turn => turn.Valid).getLast?.map SpiTurn.received).getD
        (List.replicate 32 0) ∧
      (s.online = true ↔ ∃ turn ∈ turns, turn.Valid ∧ turn.status &&& 0x0F = 0x08) := by
  intro s
  have h := (vexCortexSystemTurn_follows spiTeamName turns).2
  exact ⟨h.rxdata, by simp [s, h.online]⟩

end TurningPoint
