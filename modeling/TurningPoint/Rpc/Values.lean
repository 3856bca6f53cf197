import TurningPoint.Lib.Run
import TurningPoint.Lib.Traced
import TurningPoint.Rpc.MotorWrites

namespace TurningPoint

open Lib (Traced)

abbrev Reads (α : Type) := Traced Nat α

abbrev Reads.Within {α : Type} (n : Nat) (m : Reads α) : Prop := m.All (· < n)

def readAt (value : List UInt8) (i : Nat) : Reads UInt8 := ⟨[i], octetAt value i⟩

def readOctets (value : List UInt8) (n : Nat) : Reads (List UInt8) :=
  ⟨List.range n, octetsFrom value n⟩

section Handlers

variable {ρ : Type}

def rpcRecvInfoNetworkReads (info : MessageInfo) (h : Host ρ) : Reads (Host ρ) :=
  if info.subtopic = messagesTopicNetworkSubtopicIpv4 then
    if info.len ≠ 4 then pure h
    else do
      let ipv4 ← readOctets info.value 4
      pure { h with rpc.ipv4 := ipv4 }
  else pure h

def rpcRecvInfoReads (info : MessageInfo) (h : Host ρ) : Reads (Host ρ) :=
  if info.topic = messagesTopicNetwork then rpcRecvInfoNetworkReads info h else pure h

def writeMotorsReads (value : List UInt8) (wbuf : Nat) : Nat → Host ρ → Reads (Host ρ)
  | 0, h => pure h
  | n + 1, h => do
    let index ← readAt value wbuf
    let command ← readAt value (wbuf + 1)
    let index := index.toInt8.toInt
    let h :=
      if hindex : 0 ≤ index ∧ index < kVexMotorNum then
        vexMotorSet ⟨index.toNat, (Int.toNat_lt hindex.1).mpr hindex.2⟩ command.toInt8 h
      else h
    writeMotorsReads value (wbuf + 2) n h

def rpcRecvWriteMotorReads (write : MessageWrite) (h : Host ρ) : Reads (Host ρ) :=
  if write.subtopic = messagesTopicMotorSubtopicAll then
    if write.len = 0 ∨ write.len % 2 ≠ 0 then pure h
    else writeMotorsReads write.value 0 (write.len / 2).toNat h
  else if hindex : write.subtopic.toNat < kVexMotorNum then
    if write.len ≠ 1 then pure h
    else do
      let value ← readAt write.value 0
      pure (vexMotorSet ⟨write.subtopic.toNat, hindex⟩ value.toInt8 h)
  else pure h

def rpcRecvWriteCassetteReads (write : MessageWrite) (h : Host ρ) : Reads (Host ρ) :=
  if write.subtopic = messagesTopicCassetteSubtopicOpen then
    if write.len ≠ 1 then pure h
    else do
      if (← readAt write.value 0) ≥ cassetteMax then return h
      if h.rpc.cassette ≠ 0xff then return h
      let h := { h with rpc.cassette := ← readAt write.value 0 }
      let (fp, h) := cassetteOpenWrite h.rpc.cassette h
      let h := { h with rpc.fp := fp }
      return if fp = .null then { h with rpc.cassette := 0xff } else h
  else if write.subtopic = messagesTopicCassetteSubtopicClose then
    if write.len ≠ 1 then pure h
    else do
      if (← readAt write.value 0) ≥ cassetteMax then return h
      if h.rpc.cassette = 0xff ∧ h.rpc.fp = .null then return h
      if h.rpc.cassette ≠ (← readAt write.value 0) then return h
      let h := { h with rpc.cassette := 0xff }
      let h := writeFlash h.rpc.fp h
      return { h with rpc.fp := .null }
  else if write.subtopic = messagesTopicCassetteSubtopicWrite then
    if write.len = 1 ∨ write.len > 2 then pure h
    else do
      if (← readAt write.value 0) ≥ cassetteMax then return h
      if h.rpc.cassette = 0xff ∧ h.rpc.fp = .null then return h
      if h.rpc.cassette ≠ (← readAt write.value 0) then return h
      let (wlen, h) := loadData h.rpc.fp 0 h
      if wlen ≥ 31 then return { h with rpc.cassette := 0xff, rpc.fp := .null }
      let h := storeData h.rpc.fp wlen.toNat (← readAt write.value 1) h
      let h := storeData h.rpc.fp 0 (wlen + 1) h
      return writeFlash h.rpc.fp h
  else pure h

variable (wp : WritePacket ρ)

def rpcRecvWriteReads (write : MessageWrite) (h : Host ρ) : Reads (Host ρ) :=
  if write.topic = messagesTopicMotor then rpcRecvWriteMotorReads write h
  else if write.topic = messagesTopicCassette then rpcRecvWriteCassetteReads write h
  else pure (rpcSendRepError wp write.reqId write.topic write.subtopic messagesErrorBadTopic h)

/-- `rpcRecv` with the places of the value that it looks at; the handlers of the other messages look
at none. -/
def rpcRecvReads (message : MessageAny) (h : Host ρ) : Reads (Host ρ) :=
  let heartbeat (h : Host ρ) : Host ρ :=
    let (now, h) := chTimeNow h
    { h with rpc.heartbeat := now }
  match message with
  | .info info => heartbeat <$> rpcRecvInfoReads info h
  | .write write => heartbeat <$> rpcRecvWriteReads wp write h
  | message => pure (rpcRecv wp message h)

theorem rpcRecvInfoReads_value (info : MessageInfo) (h : Host ρ) :
    (rpcRecvInfoReads info h).value = rpcRecvInfo info h := by
  simp only [rpcRecvInfoReads, rpcRecvInfoNetworkReads, Traced.value_ite, Traced.value_bind,
    Traced.value_pure]
  rfl

theorem writeMotorsReads_value (value : List UInt8) (wbuf n : Nat) (h : Host ρ) :
    (writeMotorsReads value wbuf n h).value = writeMotorsLoop value wbuf n h := by
  induction n generalizing wbuf h with
  | zero => rfl
  | succ n ih => exact ih (wbuf + 2) _

theorem rpcRecvWriteMotorReads_value (write : MessageWrite) (h : Host ρ) :
    (rpcRecvWriteMotorReads write h).value = rpcRecvWriteMotor write h := by
  unfold rpcRecvWriteMotorReads rpcRecvWriteMotor
  split
  · rw [Traced.value_ite, writeMotorsReads_value, writeMotorsLoop_eq]
    rfl
  split
  · rw [Traced.value_ite]
    rfl
  · rfl

theorem rpcRecvWriteCassetteReads_value (write : MessageWrite) (h : Host ρ) :
    (rpcRecvWriteCassetteReads write h).value = rpcRecvWriteCassette write h := by
  simp only [rpcRecvWriteCassetteReads, Traced.value_ite, Traced.value_bind, Traced.value_pure]
  rfl

theorem rpcRecvWriteReads_value (write : MessageWrite) (h : Host ρ) :
    (rpcRecvWriteReads wp write h).value = rpcRecvWrite wp write h := by
  rw [rpcRecvWriteReads, Traced.value_ite, Traced.value_ite, rpcRecvWriteMotorReads_value,
    rpcRecvWriteCassetteReads_value]
  rfl

theorem rpcRecvReads_value (message : MessageAny) (h : Host ρ) :
    (rpcRecvReads wp message h).value = rpcRecv wp message h := by
  cases message with
  | info info =>
    rw [rpcRecv, ← rpcRecvInfoReads_value]
    rfl
  | write write =>
    rw [rpcRecv, ← rpcRecvWriteReads_value]
    rfl
  | _ => rfl

end Handlers

def MessageAny.valueLen : MessageAny → Nat
  | .info m => m.len.toNat
  | .data m => m.len.toNat
  | .write m => m.len.toNat
  | _ => 0

def MessageAny.RightLength : MessageAny → Prop
  | .info m =>
    m.topic = messagesTopicNetwork → m.subtopic = messagesTopicNetworkSubtopicIpv4 → m.len = 4
  | .write m =>
    (m.topic = messagesTopicMotor →
      (m.subtopic = messagesTopicMotorSubtopicAll → m.len ≠ 0 ∧ m.len % 2 = 0) ∧
      (m.subtopic.toNat < kVexMotorNum → m.len = 1)) ∧
    (m.topic = messagesTopicCassette →
      (m.subtopic = messagesTopicCassetteSubtopicOpen → m.len = 1) ∧
      (m.subtopic = messagesTopicCassetteSubtopicClose → m.len = 1) ∧
      (m.subtopic = messagesTopicCassetteSubtopicWrite → m.len = 2))
  | _ => True

section Bounds

variable {ρ : Type} {value : List UInt8} {n : Nat}

theorem readAt_within {i : Nat} (hi : i < n) : (readAt value i).Within n :=
  List.forall_mem_singleton.mpr hi

theorem rpcRecvInfoReads_within (info : MessageInfo) (h : Host ρ) :
    (rpcRecvInfoReads info h).Within info.len.toNat := by
  refine .ite (fun _ => .ite (fun _ => .ite (fun _ => .pure _) fun hlen => ?_) fun _ => .pure _)
    fun _ => .pure _
  rw [not_not.mp hlen]
  exact .bind (fun i hi => List.mem_range.mp hi) (.pure _)

theorem writeMotorsReads_within {wbuf turns : Nat} (hfit : wbuf + 2 * turns ≤ n) (h : Host ρ) :
    (writeMotorsReads value wbuf turns h).Within n := by
  induction turns generalizing wbuf h with
  | zero => exact .pure h
  | succ turns ih =>
    exact .bind (readAt_within (by omega)) (.bind (readAt_within (by omega)) (ih (by omega) _))

theorem rpcRecvWriteMotorReads_within (write : MessageWrite) (h : Host ρ) :
    (rpcRecvWriteMotorReads write h).Within write.len.toNat := by
  refine .ite (fun _ => .ite (fun _ => .pure _) fun hlen => ?_) fun _ => ?_
  · refine writeMotorsReads_within ?_ h
    rw [Nat.zero_add, UInt8.toNat_div]
    exact Nat.mul_div_le _ 2
  · split
    · refine .ite (fun _ => .pure _) fun hlen => ?_
      rw [not_not.mp hlen]
      exact .bind (readAt_within Nat.one_pos) (.pure _)
    · exact .pure _

def MessageWrite.Unchecked (write : MessageWrite) : Prop :=
  write.subtopic = messagesTopicCassetteSubtopicWrite ∧ write.len = 0

theorem rpcRecvWriteCassetteReads_within {write : MessageWrite} (hchecked : ¬ write.Unchecked)
    (h : Host ρ) : (rpcRecvWriteCassetteReads write h).Within write.len.toNat := by
  have hzero {m : Nat} (hm : 0 < m) : (readAt write.value 0).Within m := readAt_within hm
  refine .ite (fun _ => .ite (fun _ => .pure _) fun hlen => ?_) fun _ => .ite (fun _ =>
    .ite (fun _ => .pure _) fun hlen => ?_) fun _ => .ite (fun hwrite => .ite (fun _ => .pure _)
      fun hlen => ?_) fun _ => .pure _
  · rw [not_not.mp hlen]
    exact .bind (hzero Nat.one_pos) <| .ite (fun _ => .pure _) fun _ => .ite (fun _ => .pure _)
      fun _ => .bind (hzero Nat.one_pos) (.pure _)
  · rw [not_not.mp hlen]
    exact .bind (hzero Nat.one_pos) <| .ite (fun _ => .pure _) fun _ => .ite (fun _ => .pure _)
      fun _ => .bind (hzero Nat.one_pos) <| .ite (fun _ => .pure _) fun _ => .pure _
  · have htwo : write.len = 2 := by
      have hzero : write.len ≠ 0 := fun hzero => hchecked ⟨hwrite, hzero⟩
      grind
    rw [htwo]
    exact .bind (hzero Nat.two_pos) <| .ite (fun _ => .pure _) fun _ => .ite (fun _ => .pure _)
      fun _ => .bind (hzero Nat.two_pos) <| .ite (fun _ => .pure _) fun _ =>
        .ite (fun _ => .pure _) fun _ => .bind (readAt_within Nat.one_lt_two) (.pure _)

theorem rpcRecvInfo_length {info : MessageInfo} (hbad : ¬ (MessageAny.info info).RightLength)
    (h : Host ρ) : rpcRecvInfo info h = h := by
  obtain ⟨htopic, hrest⟩ := Classical.not_imp.mp hbad
  obtain ⟨hipv4, hlen⟩ := Classical.not_imp.mp hrest
  rw [rpcRecvInfo, if_pos htopic, rpcRecvInfoNetwork, if_pos hipv4, if_pos hlen]

theorem rpcRecvWriteMotor_length {write : MessageWrite} (htopic : write.topic = messagesTopicMotor)
    (hbad : ¬ (MessageAny.write write).RightLength) (h : Host ρ) : rpcRecvWriteMotor write h = h := by
  have hother : messagesTopicMotor ≠ messagesTopicCassette := by decide
  simp only [MessageAny.RightLength, htopic, hother, forall_const, false_implies, and_true] at hbad
  rw [rpcRecvWriteMotor]
  by_cases hall : write.subtopic = messagesTopicMotorSubtopicAll
  · have hindex : ¬ write.subtopic.toNat < kVexMotorNum := by
      rw [hall]
      decide
    rw [if_pos hall]
    refine if_pos ?_
    by_contra hlen
    obtain ⟨hzero, heven⟩ := not_or.mp hlen
    exact hbad ⟨fun _ => ⟨hzero, not_not.mp heven⟩, fun h => absurd h hindex⟩
  · rw [if_neg hall]
    by_cases hindex : write.subtopic.toNat < kVexMotorNum
    · rw [dif_pos hindex]
      exact if_pos fun hlen => hbad ⟨fun h => absurd h hall, fun _ => hlen⟩
    · rw [dif_neg hindex]

theorem rpcRecvWriteCassette_length {write : MessageWrite} (hchecked : ¬ write.Unchecked)
    (htopic : write.topic = messagesTopicCassette)
    (hbad : ¬ (MessageAny.write write).RightLength) (h : Host ρ) :
    rpcRecvWriteCassette write h = h := by
  have hother : messagesTopicCassette ≠ messagesTopicMotor := by decide
  simp only [MessageAny.RightLength, htopic, hother, forall_const, false_implies, true_and] at hbad
  rw [rpcRecvWriteCassette]
  by_cases hopen : write.subtopic = messagesTopicCassetteSubtopicOpen
  · rw [if_pos hopen]
    exact if_pos fun hlen => hbad ⟨fun _ => hlen,
      fun hclose => absurd (hopen.symm.trans hclose) (by decide),
      fun hwrite => absurd (hopen.symm.trans hwrite) (by decide)⟩
  rw [if_neg hopen]
  by_cases hclose : write.subtopic = messagesTopicCassetteSubtopicClose
  · rw [if_pos hclose]
    exact if_pos fun hlen => hbad ⟨fun h => absurd h hopen, fun _ => hlen,
      fun hwrite => absurd (hclose.symm.trans hwrite) (by decide)⟩
  rw [if_neg hclose]
  by_cases hwrite : write.subtopic = messagesTopicCassetteSubtopicWrite
  · rw [if_pos hwrite]
    have hzero : write.len ≠ 0 := fun hzero => hchecked ⟨hwrite, hzero⟩
    refine if_pos ?_
    by_contra hlen
    have htwo : write.len = 2 := by grind
    exact hbad ⟨fun h => absurd h hopen, fun h => absurd h hclose, fun _ => htwo⟩
  · rw [if_neg hwrite]

end Bounds

structure LeftAlone {ρ : Type} (h h' : Host ρ) : Prop where
  motors_eq : h'.board.motors = h.board.motors
  cassette_eq : h'.rpc.cassette = h.rpc.cassette
  fp_eq : h'.rpc.fp = h.rpc.fp
  flash_eq : h'.board.flash = h.board.flash
  ipv4_eq : h'.rpc.ipv4 = h.rpc.ipv4

/-- The handlers look at no octet that the message does not carry, and take no message whose length
is wrong. -/
structure ReadsItsOwn {ρ : Type} (wp : WritePacket ρ) (message : MessageAny) (h : Host ρ) : Prop where
  within : (rpcRecvReads wp message h).Within message.valueLen
  refused : ¬ message.RightLength → LeftAlone h (rpcRecv wp message h)

def MessageAny.Unchecked : MessageAny → Prop
  | .write m => m.topic = messagesTopicCassette ∧ m.Unchecked
  | _ => False

section Main

variable {ρ : Type} (wp : WritePacket ρ)

theorem rpcRecvWriteReads_within {write : MessageWrite}
    (hchecked : ¬ (MessageAny.write write).Unchecked) (h : Host ρ) :
    (rpcRecvWriteReads wp write h).Within write.len.toNat :=
  .ite (fun _ => rpcRecvWriteMotorReads_within write h) fun _ =>
    .ite (fun htopic => rpcRecvWriteCassetteReads_within (fun h => hchecked ⟨htopic, h⟩) h) fun _ =>
      .pure _

theorem rpcRecvWrite_length {write : MessageWrite}
    (hchecked : ¬ (MessageAny.write write).Unchecked)
    (hbad : ¬ (MessageAny.write write).RightLength) (h : Host ρ) :
    rpcRecvWrite wp write h = h := by
  rw [rpcRecvWrite]
  by_cases hmotor : write.topic = messagesTopicMotor
  · rw [if_pos hmotor, rpcRecvWriteMotor_length hmotor hbad]
  rw [if_neg hmotor]
  by_cases hcassette : write.topic = messagesTopicCassette
  · rw [if_pos hcassette,
      rpcRecvWriteCassette_length (fun h => hchecked ⟨hcassette, h⟩) hcassette hbad]
  · exact absurd ⟨fun h => absurd h hmotor, fun h => absurd h hcassette⟩ hbad

theorem rpcRecvReads_unchecked {message : MessageAny} (hm : message.Unchecked) (h : Host ρ) :
    ¬ (rpcRecvReads wp message h).Within message.valueLen := by
  intro hwithin
  match message, hm with
  | .write m, ⟨htopic, hsubtopic, hlen⟩ =>
    have hwrite : (rpcRecvWriteReads wp m h).Within m.len.toNat := hwithin.of_bind
    rw [hlen, rpcRecvWriteReads, htopic, if_neg (by decide), if_pos rfl, rpcRecvWriteCassetteReads,
      hsubtopic, if_neg (by decide), if_neg (by decide), if_pos rfl, hlen, if_neg (by decide)] at hwrite
    exact Nat.lt_irrefl 0 (hwrite.of_bind 0 (List.mem_singleton_self 0))

theorem readsItsOwn_iff (message : MessageAny) (h : Host ρ) :
    ReadsItsOwn wp message h ↔ ¬ message.Unchecked := by
  refine ⟨fun hreads hm => rpcRecvReads_unchecked wp hm h hreads.within, fun hchecked => ?_⟩
  have heartbeat (h' : Host ρ) (heq : h' = h) :
      LeftAlone h { (chTimeNow h').2 with rpc.heartbeat := (chTimeNow h').1 } := by
    rw [heq]
    exact ⟨rfl, rfl, rfl, rfl, rfl⟩
  cases message with
  | info info =>
    exact ⟨.bind (rpcRecvInfoReads_within info h) (.pure _),
      fun hbad => heartbeat _ (rpcRecvInfo_length hbad h)⟩
  | write write =>
    exact ⟨.bind (rpcRecvWriteReads_within wp hchecked h) (.pure _),
      fun hbad => heartbeat _ (rpcRecvWrite_length wp hchecked hbad h)⟩
  | _ => exact ⟨.pure _, fun hbad => absurd trivial hbad⟩

/-- Every message is read within its value and refused if its length is wrong, but for a WRITE to a
cassette with no value; and so all along every run. -/
theorem reads_its_own :
    (∀ message (h : Host ρ), ReadsItsOwn wp message h ↔ ¬ message.Unchecked) ∧
    ∀ (h : Host ρ) (actions : List Action),
      Lib.Along (fun h action => ∀ message, action = .recv message →
        ReadsItsOwn wp message h) (sessionStep wp) h actions ↔
      ∀ message, Action.recv message ∈ actions → ¬ message.Unchecked := by
  refine ⟨readsItsOwn_iff wp, fun h actions => ?_⟩
  induction actions generalizing h with
  | nil => exact iff_of_true trivial fun message hmem => absurd hmem List.not_mem_nil
  | cons action actions ih =>
    rw [Lib.Along, ih]
    simp only [readsItsOwn_iff, List.mem_cons, or_imp, forall_and]
    exact and_congr_left fun _ => forall_congr' fun message => by rw [eq_comm]

end Main

/-- With no value the octets behind the message are taken for an index and, with a cassette open, for
one to be recorded. -/
theorem not_reads_its_own :
    let write : MessageAny :=
      .write ⟨2, messagesTopicCassette, messagesTopicCassetteSubtopicWrite, 0, [0, 65]⟩
    let opened := rpcRecv keepPacket (.write
      ⟨1, messagesTopicCassette, messagesTopicCassetteSubtopicOpen, 1, [0]⟩) Session.fresh
    ¬ ReadsItsOwn keepPacket write opened ∧ ¬ LeftAlone opened (rpcRecv keepPacket write opened) := by
  intro write opened
  refine ⟨fun h => (readsItsOwn_iff keepPacket write opened).mp h ⟨rfl, rfl, rfl⟩, fun h => ?_⟩
  have hdata := congrArg Flash.data h.flash_eq
  revert hdata
  decide +kernel

end TurningPoint
