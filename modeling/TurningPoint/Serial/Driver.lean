import TurningPoint.Serial.Queue
import TurningPoint.Lib.Run

namespace TurningPoint

theorem Usart.load_cases (u : Usart) : (u.load = u ∧ ¬ (u.shift = none ∧ u.tdr ≠ none)) ∨
    ∃ b, u.shift = none ∧ u.tdr = some b ∧ u.load = { u with shift := some b, tdr := none } := by
  rcases hshift : u.shift with - | b <;> rcases htdr : u.tdr with - | b' <;>
    simp [load, hshift, htdr]

theorem Usart.finish_cases (u : Usart) : (u.finish = u ∧ u.shift = none) ∨
    ∃ b, u.shift = some b ∧ u.finish =
      { u with shift := none, line := u.line ++ [b], tc := u.tc || u.tdr.isNone } := by
  rcases hshift : u.shift with - | b <;> simp [finish, hshift]

namespace SerialPort

/-- What is in the queues, and where every octet is that they have taken. -/
structure Carries (s : SerialPort) (outgoing incoming : List UInt8) : Prop where
  oqueue : s.oqueue.HoldsOut outgoing
  iqueue : s.iqueue.HoldsIn incoming
  osize : s.oqueue.size = serialBuffersSize
  isize : s.iqueue.size = serialBuffersSize
  written : s.written = s.usart.line ++ s.usart.shift.toList ++ s.usart.tdr.toList ++ outgoing
  incoming : s.incoming = s.read ++ incoming
  tc : s.usart.tc = true → s.usart.tdr = none

def Armed (s : SerialPort) : Prop := chOQIsEmptyI s.oqueue = false → s.usart.txeie = true

theorem init_carries (ib ob : Nat → UInt8) : (init ib ob).Carries [] [] where
  oqueue := .init (by decide) ob
  iqueue := .init (by decide) ib
  osize := rfl
  isize := rfl
  written := rfl
  incoming := rfl
  tc := by simp [init]

namespace Carries

variable {s : SerialPort} {o i : List UInt8}

theorem queue_armed_iff (h : s.Carries o i) : s.Armed ↔ (o ≠ [] → s.usart.txeie = true) := by
  rw [Armed, Bool.eq_false_iff, ne_eq, h.oqueue.isEmpty_iff]

theorem put_full (h : s.Carries o i) (hfull : o.length = serialBuffersSize) (b : UInt8) :
    s.put b = s := by
  rw [put, h.oqueue.put_full (hfull.trans h.osize.symm)]

theorem put (h : s.Carries o i) (hne : o.length ≠ serialBuffersSize) (b : UInt8) :
    ∃ q, s.put b = { s with oqueue := q, usart.txeie := true, written := s.written ++ [b] } ∧
      (s.put b).Carries (o ++ [b]) i := by
  obtain ⟨q, hput, hq, hsize⟩ := h.oqueue.put (h.osize ▸ hne) b
  have heq : s.put b =
      { s with oqueue := q, usart.txeie := true, written := s.written ++ [b] } := by
    rw [SerialPort.put, hput]
  refine ⟨q, heq, ?_⟩
  rw [heq]
  refine { h with oqueue := hq, osize := hsize.trans h.osize, written := ?_ }
  rw [← List.append_assoc, ← h.written]

theorem get_nil (h : s.Carries o []) : s.get = (none, s) := by
  rw [SerialPort.get, h.iqueue.get_nil]

theorem get_cons {b : UInt8} (h : s.Carries o (b :: i)) :
    ∃ q, s.get = (some b, { s with iqueue := q, read := s.read ++ [b] }) ∧
      s.get.2.Carries o i := by
  obtain ⟨q, hget, hq, hsize⟩ := h.iqueue.get_cons
  have heq : s.get = (some b, { s with iqueue := q, read := s.read ++ [b] }) := by
    rw [SerialPort.get, hget]
  refine ⟨q, heq, ?_⟩
  rw [heq]
  refine { h with iqueue := hq, isize := hsize.trans h.isize, incoming := ?_ }
  rw [List.append_assoc]
  exact h.incoming

theorem sdIncomingDataI_full (h : s.Carries o i) (hfull : i.length = serialBuffersSize)
    (b : UInt8) : s.sdIncomingDataI b = s := by
  rw [SerialPort.sdIncomingDataI, h.iqueue.put_full (hfull.trans h.isize.symm)]

theorem sdIncomingDataI (h : s.Carries o i) (hne : i.length ≠ serialBuffersSize) (b : UInt8) :
    ∃ q, s.sdIncomingDataI b = { s with iqueue := q, incoming := s.incoming ++ [b] } ∧
      (s.sdIncomingDataI b).Carries o (i ++ [b]) := by
  obtain ⟨q, hput, hq, hsize⟩ := h.iqueue.put (h.isize ▸ hne) b
  have heq : s.sdIncomingDataI b = { s with iqueue := q, incoming := s.incoming ++ [b] } := by
    rw [SerialPort.sdIncomingDataI, hput]
  refine ⟨q, heq, ?_⟩
  rw [heq]
  refine { h with iqueue := hq, isize := hsize.trans h.isize, incoming := ?_ }
  rw [← List.append_assoc, ← h.incoming]

theorem load (h : s.Carries o i) : { s with usart := s.usart.load : SerialPort }.Carries o i := by
  obtain ⟨heq, -⟩ | ⟨b, hshift, htdr, heq⟩ := s.usart.load_cases
  · rwa [heq]
  · rw [heq]
    refine { h with written := ?_, tc := fun _ => rfl }
    simpa [hshift, htdr] using h.written

theorem finish (h : s.Carries o i) :
    { s with usart := s.usart.finish : SerialPort }.Carries o i := by
  obtain ⟨heq, -⟩ | ⟨b, hshift, heq⟩ := s.usart.finish_cases
  · rwa [heq]
  · rw [heq]
    refine { h with written := ?_, tc := fun htc => ?_ }
    · simpa [hshift] using h.written
    · rcases Bool.or_eq_true_iff.mp htc with htc | hnone
      · exact h.tc htc
      · exact Option.isNone_iff_eq_none.mp hnone

theorem receive (h : s.Carries o i) (b : UInt8) :
    { s with usart := s.usart.receive b : SerialPort }.Carries o i := by
  rcases hrdr : s.usart.rdr with - | b'
  · simp only [Usart.receive, hrdr]
    exact { h with }
  · simpa only [Usart.receive, hrdr] using h

theorem serveReceive (h : s.Carries o i) : ∃ i', s.serveReceive.Carries o i' ∧
    s.serveReceive.usart = { s.usart with rdr := none } := by
  rcases hrdr : s.usart.rdr with - | b
  · refine ⟨i, ?_, ?_⟩
    · simpa only [SerialPort.serveReceive, hrdr] using h
    · simp only [SerialPort.serveReceive, hrdr]
      rw [← hrdr]
  · simp only [SerialPort.serveReceive, hrdr]
    by_cases hfull : i.length = serialBuffersSize
    · rw [h.sdIncomingDataI_full hfull]
      exact ⟨i, { h with }, rfl⟩
    · obtain ⟨q, heq, hs⟩ := h.sdIncomingDataI hfull b
      refine ⟨i ++ [b], { hs with }, ?_⟩
      rw [heq]

theorem serveTransmit (h : s.Carries o i) :
    (s.serveTransmit = s ∧ ¬ (s.usart.txeie = true ∧ s.usart.tdr = none)) ∨
    (s.usart.txeie = true ∧ s.usart.tdr = none ∧
      ((o = [] ∧ s.serveTransmit = { s with usart.txeie := false, usart.tcie := true }) ∨
        ∃ b o', o = b :: o' ∧ s.serveTransmit.Carries o' i ∧
          s.serveTransmit.usart = s.usart.writeDR b)) := by
  by_cases hturn : s.usart.txeie = true ∧ s.usart.tdr = none
  · refine .inr ⟨hturn.1, hturn.2, ?_⟩
    rw [SerialPort.serveTransmit, if_pos (by rwa [Option.isNone_iff_eq_none])]
    cases o with
    | nil =>
      rw [h.oqueue.get_nil]
      exact .inl ⟨rfl, rfl⟩
    | cons b o' =>
      obtain ⟨q, hget, hq, hsize⟩ := h.oqueue.get_cons
      rw [hget]
      refine .inr ⟨b, o', rfl, ?_, rfl⟩
      refine { h with oqueue := hq, osize := hsize.trans h.osize, written := ?_, tc := ?_ }
      · simpa [Usart.writeDR, hturn.2] using h.written
      · simp [Usart.writeDR]
  · refine .inl ⟨?_, hturn⟩
    rw [SerialPort.serveTransmit, if_neg (by rwa [Option.isNone_iff_eq_none])]

theorem serveTransmit_exists (h : s.Carries o i) : ∃ o', s.serveTransmit.Carries o' i := by
  obtain ⟨heq, -⟩ | ⟨-, -, ⟨-, heq⟩ | ⟨b, o', -, hs, -⟩⟩ := h.serveTransmit
  · exact ⟨o, by rwa [heq]⟩
  · exact ⟨o, heq ▸ { h with }⟩
  · exact ⟨o', hs⟩

theorem quieten (h : s.Carries o i) :
    { s with usart.txeie := false, usart.tcie := false, usart.tc := false }.Carries o i :=
  { h with tc := fun hfalse => absurd hfalse Bool.false_ne_true }

theorem serveInterrupt (h : s.Carries o i) : ∃ o' i', s.serveInterrupt.Carries o' i' := by
  obtain ⟨i', hreceived, -⟩ := h.serveReceive
  obtain ⟨o', hsent⟩ := hreceived.serveTransmit_exists
  refine ⟨o', i', ?_⟩
  rw [SerialPort.serveInterrupt]
  split
  · exact hsent.quieten
  · exact hsent

theorem step (h : s.Carries o i) (action : SerialAction) :
    ∃ o' i', (s.step action).Carries o' i' := by
  cases action with
  | put b =>
    by_cases hfull : o.length = serialBuffersSize
    · refine ⟨o, i, ?_⟩
      rwa [SerialPort.step, h.put_full hfull]
    · obtain ⟨q, -, hs⟩ := h.put hfull b
      exact ⟨o ++ [b], i, hs⟩
  | get =>
    cases i with
    | nil =>
      refine ⟨o, [], ?_⟩
      rwa [SerialPort.step, h.get_nil]
    | cons b i =>
      obtain ⟨q, -, hs⟩ := h.get_cons
      exact ⟨o, i, hs⟩
  | load => exact ⟨o, i, h.load⟩
  | finish => exact ⟨o, i, h.finish⟩
  | receive b => exact ⟨o, i, h.receive b⟩
  | interrupt => exact h.serveInterrupt

theorem serveTransmit_armed (h : s.Carries o i) (harmed : s.Armed) : s.serveTransmit.Armed := by
  obtain ⟨heq, -⟩ | ⟨henabled, -, ⟨rfl, heq⟩ | ⟨b, o', -, hs, husart⟩⟩ := h.serveTransmit
  · rwa [heq]
  · have hs : s.serveTransmit.Carries [] i := heq ▸ { h with }
    exact hs.queue_armed_iff.mpr fun hne => absurd rfl hne
  · refine hs.queue_armed_iff.mpr fun _ => ?_
    rw [husart]
    exact henabled

theorem quieten_armed_iff (h : s.Carries o i) (harmed : s.Armed) (htdr : s.usart.tdr = none) :
    { s.serveTransmit with usart.txeie := false, usart.tcie := false, usart.tc := false }.Armed ↔
      o.length < 2 := by
  rw [h.queue_armed_iff] at harmed
  obtain ⟨heq, hidle⟩ | ⟨-, -, ⟨rfl, heq⟩ | ⟨b, o', rfl, hs, -⟩⟩ := h.serveTransmit
  · have hnil : o = [] := by
      by_contra hne
      exact hidle ⟨harmed hne, htdr⟩
    subst hnil
    rw [heq, h.quieten.queue_armed_iff]
    simp
  · have hs : s.serveTransmit.Carries [] i := heq ▸ { h with }
    rw [hs.quieten.queue_armed_iff]
    simp
  · rw [hs.quieten.queue_armed_iff, List.length_cons, Nat.succ_lt_succ_iff, Nat.lt_one_iff,
      List.length_eq_zero_iff]
    simp

theorem step_armed (h : s.Carries o i) (harmed : s.Armed) {action : SerialAction}
    (hne : action ≠ .interrupt) : (s.step action).Armed := by
  have hiff := h.queue_armed_iff.mp harmed
  cases action with
  | put b =>
    by_cases hfull : o.length = serialBuffersSize
    · rwa [SerialPort.step, h.put_full hfull]
    · obtain ⟨q, heq, -⟩ := h.put hfull b
      rw [SerialPort.step, heq]
      exact fun _ => rfl
  | get =>
    cases i with
    | nil => rwa [SerialPort.step, h.get_nil]
    | cons b i =>
      obtain ⟨q, heq, hs⟩ := h.get_cons
      refine hs.queue_armed_iff.mpr fun hne => ?_
      rw [heq]
      exact hiff hne
  | load =>
    refine h.load.queue_armed_iff.mpr fun hne => ?_
    simp only [Usart.load]
    split <;> exact hiff hne
  | finish =>
    refine h.finish.queue_armed_iff.mpr fun hne => ?_
    simp only [Usart.finish]
    split <;> exact hiff hne
  | receive b =>
    refine (h.receive b).queue_armed_iff.mpr fun hne => ?_
    simp only [Usart.receive]
    split <;> exact hiff hne
  | interrupt => exact absurd rfl hne

theorem serveInterrupt_armed_iff (h : s.Carries o i) (harmed : s.Armed) :
    s.serveInterrupt.Armed ↔ (s.usart.tc = true → chOQGetFullI s.oqueue < 2) := by
  have hiff := h.queue_armed_iff.mp harmed
  obtain ⟨i', hreceived, husart⟩ := h.serveReceive
  have harmed' : s.serveReceive.Armed :=
    hreceived.queue_armed_iff.mpr fun hne => husart ▸ hiff hne
  rw [SerialPort.serveInterrupt, h.oqueue.getFull]
  cases htc : s.usart.tc with
  | false =>
    refine iff_of_true ?_ (fun hfalse => absurd hfalse Bool.false_ne_true)
    exact hreceived.serveTransmit_armed harmed'
  | true =>
    have htdr : s.serveReceive.usart.tdr = none := by
      rw [husart]
      exact h.tc htc
    have hquiet := hreceived.quieten_armed_iff harmed' htdr
    exact hquiet.trans ⟨fun hlt _ => hlt, fun hall => hall rfl⟩

theorem step_armed_iff (h : s.Carries o i) (harmed : s.Armed) (action : SerialAction) :
    (s.step action).Armed ↔
      (action = .interrupt → s.usart.tc = true → chOQGetFullI s.oqueue < 2) := by
  by_cases hinterrupt : action = .interrupt
  · subst hinterrupt
    exact (h.serveInterrupt_armed_iff harmed).trans ⟨fun hfew _ => hfew, fun hfew => hfew rfl⟩
  · exact iff_of_true (h.step_armed harmed hinterrupt) fun heq => absurd heq hinterrupt

end Carries

/-- In every run every octet that the driver took is still there, in its place: what was written is
on the line, in the USART or queued, what came in has been read or is queued, and only a full queue
refuses. -/
theorem conserves (ib ob : Nat → UInt8) (actions : List SerialAction) :
    let s := actions.foldl step (init ib ob)
    ∃ outgoing incoming : List UInt8,
      s.written = s.usart.line ++ s.usart.shift.toList ++ s.usart.tdr.toList ++ outgoing ∧
      s.incoming = s.read ++ incoming ∧
      outgoing.length ≤ serialBuffersSize ∧ incoming.length ≤ serialBuffersSize ∧
      (∀ b, (s.put b).written =
        if outgoing.length < serialBuffersSize then s.written ++ [b] else s.written) ∧
      (∀ b, (s.sdIncomingDataI b).incoming =
        if incoming.length < serialBuffersSize then s.incoming ++ [b] else s.incoming) ∧
      s.get.1 = incoming.head? := by
  intro s
  obtain ⟨o, i, h⟩ : ∃ o i, s.Carries o i := by
    refine List.foldlRecOn (motive := fun s => ∃ o i, SerialPort.Carries s o i) actions step
      ⟨[], [], init_carries ib ob⟩ ?_
    rintro s ⟨o, i, h⟩ action -
    exact h.step action
  have ho : o.length ≤ serialBuffersSize := h.osize ▸ h.oqueue.ring.length_le
  have hi : i.length ≤ serialBuffersSize := h.isize ▸ h.iqueue.ring.length_le
  refine ⟨o, i, h.written, h.incoming, ho, hi, fun b => ?_, fun b => ?_, ?_⟩
  · by_cases hfull : o.length = serialBuffersSize
    · rw [h.put_full hfull, if_neg hfull.not_lt]
    · obtain ⟨q, heq, -⟩ := h.put hfull b
      rw [heq, if_pos (Nat.lt_of_le_of_ne ho hfull)]
  · by_cases hfull : i.length = serialBuffersSize
    · rw [h.sdIncomingDataI_full hfull, if_neg hfull.not_lt]
    · obtain ⟨q, heq, -⟩ := h.sdIncomingDataI hfull b
      rw [heq, if_pos (Nat.lt_of_le_of_ne hi hfull)]
  · cases i with
    | nil => rw [h.get_nil, List.head?_nil]
    | cons b i =>
      obtain ⟨q, heq, -⟩ := h.get_cons
      rw [heq, List.head?_cons]

/-- In a run the interrupt stays enabled while there is something to send exactly if no interrupt
finds the transmission complete and two octets waiting. -/
theorem armed_iff (ib ob : Nat → UInt8) (actions : List SerialAction) :
    (∀ before, before <+: actions → (before.foldl step (init ib ob)).Armed) ↔
      Lib.Along (fun s action =>
          action = .interrupt → s.usart.tc = true → chOQGetFullI s.oqueue < 2)
        step (init ib ob) actions := by
  have hinit := init_carries ib ob
  refine @Lib.Along.iff_always _ _ step Armed _ (fun s => ∃ o i, Carries s o i) ?_ ?_ _
    ⟨[], [], hinit⟩ ?_ actions
  · rintro s action ⟨o, i, h⟩ harmed
    exact h.step_armed_iff harmed action
  · rintro s action ⟨o, i, h⟩ - -
    exact h.step action
  · exact hinit.queue_armed_iff.mpr fun hne => absurd rfl hne

end SerialPort

end TurningPoint
