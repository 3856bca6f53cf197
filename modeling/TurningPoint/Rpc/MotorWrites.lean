import TurningPoint.Rpc.Session

universe u

namespace TurningPoint

abbrev MotorPair := UInt8 × UInt8

def MotorPair.octets (pair : MotorPair) : List UInt8 := [pair.1, pair.2]

def MotorPair.Named (pair : MotorPair) : Prop := pair.1.toNat < kVexMotorNum

instance (pair : MotorPair) : Decidable pair.Named := inferInstanceAs (Decidable (_ < _))

def commandMotor (motors : Fin kVexMotorNum → Int8) (pair : MotorPair) : Fin kVexMotorNum → Int8 :=
  if hindex : pair.Named then
    let value := pair.2.toInt8
    Function.update motors ⟨pair.1.toNat, hindex⟩ (if value < -127 then -127 else value)
  else motors

theorem commandMotor_of_ne {motors : Fin kVexMotorNum → Int8} {pair : MotorPair}
    {i : Fin kVexMotorNum} (hne : pair.1.toNat ≠ i) : commandMotor motors pair i = motors i := by
  unfold commandMotor
  split
  · exact Function.update_of_ne (fun h => hne (congrArg Fin.val h).symm) ..
  · rfl

theorem foldl_commandMotor_of_ne (motors : Fin kVexMotorNum → Int8) {pairs : List MotorPair}
    {i : Fin kVexMotorNum} (hne : ∀ pair ∈ pairs, pair.1.toNat ≠ i) :
    pairs.foldl commandMotor motors i = motors i := by
  induction pairs generalizing motors with
  | nil => rfl
  | cons pair pairs ih =>
    obtain ⟨hpair, hpairs⟩ := List.forall_mem_cons.mp hne
    exact (ih _ hpairs).trans (commandMotor_of_ne hpair)

theorem foldl_commandMotor_filter (motors : Fin kVexMotorNum → Int8) (pairs : List MotorPair) :
    (pairs.filter fun pair => pair.Named).foldl commandMotor motors =
      pairs.foldl commandMotor motors := by
  induction pairs generalizing motors with
  | nil => rfl
  | cons pair pairs ih =>
    by_cases hnamed : pair.Named
    · rw [List.filter_cons_of_pos (by simpa using hnamed)]
      exact ih _
    · have hskip : commandMotor motors pair = motors := dif_neg hnamed
      rw [List.filter_cons_of_neg (by simpa using hnamed), List.foldl_cons, hskip, ih]

section Decoders

variable {ρ : Type u}

/-- The loop as the source has it: `wbuf` is an offset into the value, and `index` has a sign. -/
def writeMotorsLoop (value : List UInt8) (wbuf : Nat) : Nat → Host ρ → Host ρ
  | 0, h => h
  | n + 1, h =>
    let index := (octetAt value wbuf).toInt8.toInt
    let command := (octetAt value (wbuf + 1)).toInt8
    let h :=
      if hindex : 0 ≤ index ∧ index < kVexMotorNum then
        vexMotorSet ⟨index.toNat, (Int.toNat_lt hindex.1).mpr hindex.2⟩ command h
      else h
    writeMotorsLoop value (wbuf + 2) n h

theorem toInt8_index (octet : UInt8) :
    octet.toInt8.toInt = octet.toNat ∨ octet.toInt8.toInt < 0 ∧ kVexMotorNum ≤ octet.toNat := by
  have hlt := octet.toNat_lt
  have hsign : octet.toInt8.toInt = (octet.toNat : Int).bmod (2 ^ 8) := octet.toBitVec.toInt_eq_toNat_bmod
  rw [hsign, Int.bmod]
  unfold kVexMotorNum
  split <;> omega

theorem writeMotorsLoop_eq (value : List UInt8) (wbuf n : Nat) (h : Host ρ) :
    writeMotorsLoop value wbuf n h = writeMotors (value.drop wbuf) n h := by
  induction n generalizing wbuf h with
  | zero => rfl
  | succ n ih =>
    have hindex : octetAt (value.drop wbuf) 0 = octetAt value wbuf := by
      simp [octetAt, List.getD_eq_getElem?_getD]
    have hcommand : octetAt (value.drop wbuf) 1 = octetAt value (wbuf + 1) := by
      simp [octetAt, List.getD_eq_getElem?_getD]
    rw [writeMotorsLoop, writeMotors, ih, List.drop_drop, hindex, hcommand]
    congr 1
    obtain hsame | ⟨hneg, hlarge⟩ := toInt8_index (octetAt value wbuf)
    · by_cases hlt : (octetAt value wbuf).toNat < kVexMotorNum
      · rw [dif_pos hlt, dif_pos (by omega)]
        congr 1
        exact Fin.ext (congrArg Int.toNat hsame)
      · rw [dif_neg hlt, dif_neg (by omega)]
    · rw [dif_neg (by omega), dif_neg (by omega)]

theorem vexMotorSet_pair (pair : MotorPair) (h : Host ρ) :
    (if hindex : pair.1.toNat < kVexMotorNum then
      vexMotorSet ⟨pair.1.toNat, hindex⟩ pair.2.toInt8 h else h) =
      { h with board.motors := commandMotor h.board.motors pair } := by
  by_cases hindex : pair.1.toNat < kVexMotorNum
  · rw [dif_pos hindex, commandMotor, dif_pos (show pair.Named from hindex)]
    rfl
  · rw [dif_neg hindex, commandMotor, dif_neg (show ¬ pair.Named from hindex)]

theorem writeMotors_pairs (pairs : List MotorPair) (h : Host ρ) :
    writeMotors (pairs.flatMap MotorPair.octets) pairs.length h =
      { h with board.motors := pairs.foldl commandMotor h.board.motors } := by
  induction pairs generalizing h with
  | nil => rfl
  | cons pair pairs ih =>
    rw [List.length_cons, writeMotors]
    have hturn := vexMotorSet_pair pair h
    exact (congrArg _ hturn).trans (ih _)

def bulkWrite (reqId : UInt16) (pairs : List MotorPair) : MessageWrite :=
  ⟨reqId, messagesTopicMotor, messagesTopicMotorSubtopicAll, UInt8.ofNat (2 * pairs.length),
    pairs.flatMap MotorPair.octets⟩

def singleWrite (reqId : UInt16) (pair : MotorPair) : MessageWrite :=
  ⟨reqId, messagesTopicMotor, pair.1, 1, [pair.2]⟩

theorem rpcRecvWriteMotor_bulk (reqId : UInt16) {pairs : List MotorPair}
    (hlen : pairs.length ≤ 127) (h : Host ρ) :
    rpcRecvWriteMotor (bulkWrite reqId pairs) h =
      { h with board.motors := pairs.foldl commandMotor h.board.motors } := by
  have htoNat : (bulkWrite reqId pairs).len.toNat = 2 * pairs.length :=
    UInt8.toNat_ofNat_of_lt' (by change _ < 256; omega)
  have hhalf : ((bulkWrite reqId pairs).len / 2).toNat = pairs.length := by
    rw [UInt8.toNat_div, htoNat]
    exact Nat.mul_div_cancel_left _ Nat.two_pos
  have heven : (bulkWrite reqId pairs).len % 2 = 0 := by
    rw [← UInt8.toNat_inj, UInt8.toNat_mod, htoNat]
    exact Nat.mul_mod_right 2 _
  have hall : (bulkWrite reqId pairs).subtopic = messagesTopicMotorSubtopicAll := rfl
  rw [rpcRecvWriteMotor, if_pos hall, hhalf]
  split
  case isTrue hbad =>
    have hzero : pairs.length = 0 := by
      have := congrArg UInt8.toNat (hbad.resolve_right (not_not.mpr heven))
      rw [htoNat] at this
      exact (Nat.mul_eq_zero.mp this).resolve_left (by decide)
    rw [List.length_eq_zero_iff.mp hzero]
    rfl
  case isFalse => exact writeMotors_pairs pairs h

theorem rpcRecvWriteMotor_single (reqId : UInt16) (pair : MotorPair) (h : Host ρ) :
    rpcRecvWriteMotor (singleWrite reqId pair) h =
      { h with board.motors := commandMotor h.board.motors pair } := by
  have hodd : (singleWrite reqId pair).len = 0 ∨ (singleWrite reqId pair).len % 2 ≠ 0 :=
    .inr (show (1 : UInt8) % 2 ≠ 0 by decide)
  rw [← vexMotorSet_pair, rpcRecvWriteMotor]
  by_cases hall : (singleWrite reqId pair).subtopic = messagesTopicMotorSubtopicAll
  · have hnone : ¬ pair.1.toNat < kVexMotorNum := by
      rw [show pair.1 = messagesTopicMotorSubtopicAll from hall]
      decide
    rw [if_pos hall, if_pos hodd, dif_neg hnone]
  · have hone : ¬ (singleWrite reqId pair).len ≠ 1 := not_not.mpr rfl
    rw [if_neg hall]
    by_cases hindex : pair.1.toNat < kVexMotorNum
    · rw [dif_pos hindex, dif_pos (show (singleWrite reqId pair).subtopic.toNat < _ from hindex),
        if_neg hone]
      rfl
    · rw [dif_neg hindex, dif_neg (show ¬ (singleWrite reqId pair).subtopic.toNat < _ from hindex)]

theorem rpcRecvWriteMotor_bad {write : MessageWrite}
    (hall : write.subtopic = messagesTopicMotorSubtopicAll)
    (hlen : write.len = 0 ∨ write.len % 2 ≠ 0) (h : Host ρ) : rpcRecvWriteMotor write h = h := by
  rw [rpcRecvWriteMotor, if_pos hall, if_pos hlen]

end Decoders

variable {ρ : Type u} (wp : WritePacket ρ)

theorem rpcRecv_writeMotor {write : MessageWrite} (htopic : write.topic = messagesTopicMotor)
    (h : Host ρ) :
    (rpcRecv wp (.write write) h).board.motors = (rpcRecvWriteMotor write h).board.motors := by
  rw [rpcRecv, rpcRecvWrite, if_pos htopic]
  rfl

/-- A WRITE for many motors commands what the WRITEs for each of them command, and either leaves
alone the motors it does not name. -/
theorem motor_writes_agree (reqId : UInt16) (reqIds : MotorPair → UInt16) {pairs : List MotorPair}
    (hlen : pairs.length ≤ 127) (h : Host ρ) :
    let bulk := rpcRecv wp (.write (bulkWrite reqId pairs)) h
    let singles := (pairs.filter fun pair => pair.Named).foldl
      (fun h pair => rpcRecv wp (.write (singleWrite (reqIds pair) pair)) h) h
    bulk.board.motors = singles.board.motors ∧
    (∀ i : Fin kVexMotorNum, (∀ pair ∈ pairs, pair.1.toNat ≠ i) →
      bulk.board.motors i = h.board.motors i) ∧
    (∀ pair : MotorPair, ∀ i : Fin kVexMotorNum, pair.1.toNat ≠ i →
      (rpcRecv wp (.write (singleWrite reqId pair)) h).board.motors i = h.board.motors i) ∧
    (∀ write : MessageWrite, write.topic = messagesTopicMotor →
      write.subtopic = messagesTopicMotorSubtopicAll → write.len = 0 ∨ write.len % 2 ≠ 0 →
        (rpcRecv wp (.write write) h).board.motors = h.board.motors) ∧
    ∀ n, writeMotorsLoop (bulkWrite reqId pairs).value 0 n h =
      writeMotors (bulkWrite reqId pairs).value n h := by
  intro bulk singles
  have hbulk : bulk.board.motors = pairs.foldl commandMotor h.board.motors :=
    (rpcRecv_writeMotor wp rfl h).trans
      (congrArg (·.board.motors) (rpcRecvWriteMotor_bulk reqId hlen h))
  have hsingle (reqId : UInt16) (pair : MotorPair) (h : Host ρ) :
      (rpcRecv wp (.write (singleWrite reqId pair)) h).board.motors =
        commandMotor h.board.motors pair := by
    rw [rpcRecv_writeMotor wp rfl, rpcRecvWriteMotor_single]
  have hsingles (pairs : List MotorPair) (h : Host ρ) :
      (pairs.foldl (fun h pair => rpcRecv wp (.write (singleWrite (reqIds pair) pair)) h)
        h).board.motors = pairs.foldl commandMotor h.board.motors := by
    induction pairs generalizing h with
    | nil => rfl
    | cons pair pairs ih => rw [List.foldl_cons, ih, hsingle, List.foldl_cons]
  refine ⟨?_, fun i hne => ?_, fun pair i hne => ?_, fun write htopic hall hbad => ?_,
    fun n => writeMotorsLoop_eq _ 0 n h⟩
  · rw [hbulk, hsingles, foldl_commandMotor_filter]
  · rw [hbulk, foldl_commandMotor_of_ne _ hne]
  · rw [hsingle, commandMotor_of_ne hne]
  · rw [rpcRecv_writeMotor wp htopic, rpcRecvWriteMotor_bad hall hbad]

theorem motor_writes_agree_repeated :
    (rpcRecv keepPacket (.write (bulkWrite 7 [(3, 10), (0x83, 20), (3, 0x80)]))
      Session.fresh).board.motors =
    ([((3 : UInt8), (10 : UInt8)), (3, 0x80)].foldl
      (fun h pair => rpcRecv keepPacket (.write (singleWrite 8 pair)) h)
      Session.fresh).board.motors :=
  (@motor_writes_agree _ keepPacket 7 (fun _ => 8) [(3, 10), (0x83, 20), (3, 0x80)] (by decide)
    Session.fresh).1

end TurningPoint
