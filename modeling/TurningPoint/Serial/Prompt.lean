import TurningPoint.Serial.Driver

namespace TurningPoint

def Usart.Pending (u : Usart) : Prop :=
  (u.txeie = true ∧ u.tdr = none) ∨ (u.tcie = true ∧ u.tc = true)

def SerialAction.isPut : SerialAction → Bool
  | .put _ => true
  | _ => false

namespace SerialPort

/-- No octet is written and none leaves the line while an interrupt waits. -/
def Prompt (s : SerialPort) : SerialAction → Prop
  | .put _ | .finish => ¬ s.usart.Pending
  | _ => True

def Works (s : SerialPort) : SerialAction → Prop
  | .load => s.usart.shift = none ∧ s.usart.tdr ≠ none
  | .finish => s.usart.shift ≠ none
  | .interrupt => s.usart.Pending
  | _ => False

instance (u : Usart) : Decidable u.Pending := inferInstanceAs (Decidable (_ ∨ _))

instance (s : SerialPort) : (action : SerialAction) → Decidable (s.Prompt action)
  | .put _ | .finish => inferInstanceAs (Decidable (¬ s.usart.Pending))
  | .get | .load | .receive _ | .interrupt => .isTrue trivial

instance (s : SerialPort) : (action : SerialAction) → Decidable (s.Works action)
  | .load => inferInstanceAs (Decidable (_ ∧ _))
  | .finish => inferInstanceAs (Decidable (_ ≠ _))
  | .interrupt => inferInstanceAs (Decidable s.usart.Pending)
  | .put _ | .get | .receive _ => .isFalse id

def work (u : Usart) (outgoing : List UInt8) : Nat :=
  3 * outgoing.length + 2 * u.tdr.toList.length + u.shift.toList.length +
    2 * u.txeie.toNat + u.tcie.toNat

/-- The end of a transmission is seen when everything has gone, and while something goes an
interrupt is enabled. -/
structure InTime (s : SerialPort) (outgoing incoming : List UInt8) : Prop
    extends s.Carries outgoing incoming where
  armed : s.Armed
  ended : s.usart.tc = true → outgoing = [] ∧ s.usart.shift = none ∧ s.usart.tcie = true
  busy : s.usart.shift ≠ none ∨ s.usart.tdr ≠ none → s.usart.txeie = true ∨ s.usart.tcie = true

theorem init_inTime (ib ob : Nat → UInt8) : (init ib ob).InTime [] [] where
  toCarries := init_carries ib ob
  armed := (init_carries ib ob).queue_armed_iff.mpr fun hne => absurd rfl hne
  ended htc := absurd htc Bool.false_ne_true
  busy h := by simp [init] at h

namespace InTime

variable {s : SerialPort} {o i : List UInt8}

theorem put (h : s.InTime o i) (hpending : ¬ s.usart.Pending) (b : UInt8) :
    ∃ o', (s.put b).InTime o' i ∧ work (s.put b).usart o' ≤ work s.usart o + 5 := by
  by_cases hfull : o.length = serialBuffersSize
  · rw [h.put_full hfull]
    exact ⟨o, h, Nat.le_add_right _ 5⟩
  · obtain ⟨q, heq, hs⟩ := h.toCarries.put hfull b
    refine ⟨o ++ [b], ⟨hs, hs.queue_armed_iff.mpr fun _ => ?_, fun htc => ?_, fun _ => .inl ?_⟩, ?_⟩
    · rw [heq]
    · rw [heq] at htc
      exact absurd (.inr ⟨(h.ended htc).2.2, htc⟩) hpending
    · rw [heq]
    · rw [heq]
      simp only [work, List.length_append, List.length_singleton, Bool.toNat_true]
      omega

theorem get (h : s.InTime o i) : ∃ i', s.get.2.InTime o i' ∧ s.get.2.usart = s.usart := by
  cases i with
  | nil => exact ⟨[], by rwa [h.get_nil], by rw [h.get_nil]⟩
  | cons b i =>
    obtain ⟨q, heq, hs⟩ := h.get_cons
    have husart : s.get.2.usart = s.usart := by rw [heq]
    refine ⟨i, ⟨hs, hs.queue_armed_iff.mpr ?_, ?_, ?_⟩, husart⟩ <;> rw [husart]
    · exact h.queue_armed_iff.mp h.armed
    · exact h.ended
    · exact h.busy

theorem load (h : s.InTime o i) : { s with usart := s.usart.load : SerialPort }.InTime o i := by
  have hs := h.toCarries.load
  obtain ⟨heq, -⟩ | ⟨b, hshift, htdr, heq⟩ := s.usart.load_cases
  · rwa [heq]
  · rw [heq] at hs ⊢
    refine ⟨hs, hs.queue_armed_iff.mpr (h.queue_armed_iff.mp h.armed), fun htc => ?_, fun _ => ?_⟩
    · have hnone := htdr.symm.trans (h.tc htc)
      exact absurd hnone (Option.some_ne_none b)
    · exact h.busy (.inr (htdr ▸ Option.some_ne_none b))

theorem finish (h : s.InTime o i) (hpending : ¬ s.usart.Pending) :
    { s with usart := s.usart.finish : SerialPort }.InTime o i := by
  have hs := h.toCarries.finish
  obtain ⟨heq, -⟩ | ⟨b, hshift, heq⟩ := s.usart.finish_cases
  · rwa [heq]
  rw [heq] at hs ⊢
  have hbusy := h.busy (.inl (hshift ▸ Option.some_ne_none b))
  refine ⟨hs, hs.queue_armed_iff.mpr (h.queue_armed_iff.mp h.armed), fun htc => ?_, fun _ => hbusy⟩
  -- The interrupt for an empty data register is not pending, so it is disabled.
  have htdr := hs.tc htc
  have hdisabled : s.usart.txeie ≠ true := fun henabled => hpending (.inl ⟨henabled, htdr⟩)
  refine ⟨?_, rfl, hbusy.resolve_left hdisabled⟩
  by_contra hne
  exact hdisabled (h.queue_armed_iff.mp h.armed hne)

theorem receive (h : s.InTime o i) (b : UInt8) :
    { s with usart := s.usart.receive b : SerialPort }.InTime o i := by
  have hs := h.toCarries.receive b
  rcases hrdr : s.usart.rdr with - | b' <;> simp only [Usart.receive, hrdr] at hs ⊢
  · exact ⟨hs, hs.queue_armed_iff.mpr (h.queue_armed_iff.mp h.armed), h.ended, h.busy⟩
  · exact h

theorem serveReceive (h : s.InTime o i) : ∃ i', s.serveReceive.InTime o i' ∧
    s.serveReceive.usart = { s.usart with rdr := none } := by
  obtain ⟨i', hs, husart⟩ := h.toCarries.serveReceive
  refine ⟨i', ⟨hs, hs.queue_armed_iff.mpr ?_, ?_, ?_⟩, husart⟩ <;> rw [husart]
  · exact h.queue_armed_iff.mp h.armed
  · exact h.ended
  · exact h.busy

theorem quieten (h : s.InTime o i) (htc : s.usart.tc = true) :
    let s' := { s.serveTransmit with
      usart.txeie := false, usart.tcie := false, usart.tc := false }
    s'.InTime [] i ∧ work s'.usart [] = 0 := by
  obtain ⟨rfl, hshift, -⟩ := h.ended htc
  have husart : s.serveTransmit.usart.shift = none ∧ s.serveTransmit.usart.tdr = none ∧
      s.serveTransmit.Carries [] i := by
    obtain ⟨heq, -⟩ | ⟨-, -, ⟨-, heq⟩ | ⟨b, o', hcons, -⟩⟩ := h.toCarries.serveTransmit
    · rw [heq]
      exact ⟨hshift, h.tc htc, h.toCarries⟩
    · rw [heq]
      exact ⟨hshift, h.tc htc, { h.toCarries with }⟩
    · exact absurd hcons (List.cons_ne_nil b o').symm
  obtain ⟨hshift', htdr', hs⟩ := husart
  refine ⟨⟨hs.quieten, hs.quieten.queue_armed_iff.mpr (absurd rfl), fun hfalse => ?_,
    fun hbusy => ?_⟩, ?_⟩
  · exact absurd hfalse Bool.false_ne_true
  · simp [hshift', htdr'] at hbusy
  · simp [work, hshift', htdr']

theorem serveTransmit (h : s.InTime o i) (htc : s.usart.tc = false) :
    ∃ o', s.serveTransmit.InTime o' i ∧
      (if s.usart.Pending then 1 else 0) + work s.serveTransmit.usart o' ≤ work s.usart o := by
  have harmed := h.serveTransmit_armed h.armed
  have hone : (if s.usart.Pending then 1 else 0) ≤ 1 := by split <;> omega
  obtain ⟨heq, hidle⟩ | ⟨henabled, htdr, ⟨rfl, heq⟩ | ⟨b, o', rfl, hs, husart⟩⟩ :=
    h.toCarries.serveTransmit
  · have hpending : ¬ s.usart.Pending := by
      rintro (hpending | ⟨-, hended⟩)
      · exact hidle hpending
      · exact Bool.false_ne_true (htc.symm.trans hended)
    rw [heq, if_neg hpending]
    exact ⟨o, h, (Nat.zero_add _).le⟩
  · have hs : s.serveTransmit.Carries [] i := heq ▸ { h.toCarries with }
    refine ⟨[], ⟨hs, harmed, ?_, fun _ => .inr (by rw [heq])⟩, ?_⟩
    · simp [heq, htc]
    · have htcie := Bool.toNat_le s.usart.tcie
      simp only [work, heq, henabled, Bool.toNat_true, Bool.toNat_false]
      omega
  · refine ⟨o', ⟨hs, harmed, ?_, fun _ => .inl (husart ▸ henabled)⟩, ?_⟩
    · simp [husart, Usart.writeDR]
    · simp only [work, husart, Usart.writeDR, htdr, List.length_cons, Option.toList_some,
        Option.toList_none, List.length_nil]
      omega

theorem serveInterrupt (h : s.InTime o i) : ∃ o' i', s.serveInterrupt.InTime o' i' ∧
    (if s.usart.Pending then 1 else 0) + work s.serveInterrupt.usart o' ≤ work s.usart o := by
  obtain ⟨i', hreceived, husart⟩ := h.serveReceive
  have hpending : s.serveReceive.usart.Pending ↔ s.usart.Pending := by rw [husart]; exact Iff.rfl
  have hwork : work s.serveReceive.usart o = work s.usart o := by rw [husart]; rfl
  have htc' : s.serveReceive.usart.tc = s.usart.tc := by rw [husart]
  rw [SerialPort.serveInterrupt]
  cases htc : s.usart.tc with
  | false =>
    obtain ⟨o', hs, hle⟩ := hreceived.serveTransmit (htc'.trans htc)
    simp only [hpending, hwork] at hle
    exact ⟨o', i', hs, hle⟩
  | true =>
    obtain ⟨rfl, hshift, htcie⟩ := h.ended htc
    obtain ⟨hs, hzero⟩ := hreceived.quieten (htc'.trans htc)
    have hpos : 0 < work s.usart [] := by
      simp only [work, htcie, Bool.toNat_true]
      omega
    refine ⟨[], i', hs, (Nat.add_le_add_left (Nat.le_of_eq hzero) _).trans ?_⟩
    split <;> omega

theorem step (h : s.InTime o i) {action : SerialAction} (hprompt : s.Prompt action) :
    ∃ o' i', (s.step action).InTime o' i' ∧
      (if s.Works action then 1 else 0) + work (s.step action).usart o' ≤
        work s.usart o + if action.isPut then 5 else 0 := by
  cases action with
  | put b =>
    obtain ⟨o', hs, hle⟩ := h.put hprompt b
    exact ⟨o', i, hs, (Nat.zero_add _).trans_le hle⟩
  | get =>
    obtain ⟨i', hs, husart⟩ := h.get
    refine ⟨o, i', hs, (Nat.zero_add _).trans_le ?_⟩
    exact (congrArg (work · o) husart).le
  | receive b =>
    refine ⟨o, i, h.receive b, (Nat.zero_add _).trans_le (Nat.le_of_eq ?_)⟩
    simp only [SerialPort.step, Usart.receive]
    cases s.usart.rdr <;> rfl
  | load =>
    refine ⟨o, i, h.load, ?_⟩
    obtain ⟨heq, hidle⟩ | ⟨b, hshift, htdr, heq⟩ := s.usart.load_cases
    · rw [if_neg (show ¬ s.Works .load from hidle)]
      simp [SerialPort.step, heq]
    · have hne : s.usart.tdr ≠ none := htdr ▸ Option.some_ne_none b
      rw [if_pos (show s.Works .load from ⟨hshift, hne⟩)]
      simp only [SerialPort.step, work, heq, hshift, htdr, Option.toList_some,
        Option.toList_none, List.length_cons, List.length_nil]
      omega
  | finish =>
    refine ⟨o, i, h.finish hprompt, ?_⟩
    obtain ⟨heq, hidle⟩ | ⟨b, hshift, heq⟩ := s.usart.finish_cases
    · rw [if_neg (show ¬ s.Works .finish from not_not.mpr hidle)]
      simp [SerialPort.step, heq]
    · have hne : s.usart.shift ≠ none := hshift ▸ Option.some_ne_none b
      rw [if_pos (show s.Works .finish from hne)]
      simp only [SerialPort.step, work, heq, hshift, Option.toList_some, Option.toList_none,
        List.length_cons, List.length_nil]
      omega
  | interrupt =>
    obtain ⟨o', i', hs, hle⟩ := h.serveInterrupt
    exact ⟨o', i', hs, hle⟩

theorem sent (h : s.InTime o i) (hrest : ∀ action, ¬ s.Works action) :
    s.usart.line = s.written := by
  have hshift : s.usart.shift = none := not_not.mp (hrest .finish)
  have htdr : s.usart.tdr = none := by
    by_contra htdr
    exact hrest .load ⟨hshift, htdr⟩
  have ho : o = [] := by
    by_contra hne
    exact hrest .interrupt (.inl ⟨h.queue_armed_iff.mp h.armed hne, htdr⟩)
  have hwritten := h.written
  simpa [hshift, htdr, ho] using hwritten.symm

theorem work_le (h : s.InTime o i) : work s.usart o ≤ 3 * chOQGetFullI s.oqueue + 6 := by
  have henabled := Bool.toNat_le s.usart.txeie
  have hended := Bool.toNat_le s.usart.tcie
  have htdr : s.usart.tdr.toList.length ≤ 1 := by cases s.usart.tdr <;> simp
  have hshift : s.usart.shift.toList.length ≤ 1 := by cases s.usart.shift <;> simp
  rw [work, h.oqueue.getFull]
  omega

end InTime

/-- Whatever has been done so far with prompt interrupts, and whatever is read, arrives or is written
from then on, only so many steps still work, and when nothing works everything that was written is
on the line. -/
theorem prompt_sends (ib ob : Nat → UInt8) (actions more : List SerialAction)
    (hprompt : Lib.Along Prompt step (init ib ob) (actions ++ more)) :
    Lib.countAlong Works step (actions.foldl step (init ib ob)) more ≤
        3 * chOQGetFullI (actions.foldl step (init ib ob)).oqueue + 6 +
          5 * more.countP SerialAction.isPut ∧
      ((∀ action, ¬ ((actions ++ more).foldl step (init ib ob)).Works action) →
        ((actions ++ more).foldl step (init ib ob)).usart.line =
          ((actions ++ more).foldl step (init ib ob)).written) := by
  have hrun : ∀ {actions}, Lib.Along Prompt step (init ib ob) actions →
      ∃ o i, InTime (actions.foldl step (init ib ob)) o i := by
    refine fun halong => @Lib.Along.invariant _ _ step Prompt (fun s => ∃ o i, InTime s o i) ?_ _ _
      halong ⟨[], [], init_inTime ib ob⟩
    rintro s action ⟨o, i, h⟩ hprompt
    obtain ⟨o', i', hs, -⟩ := h.step hprompt
    exact ⟨o', i', hs⟩
  refine ⟨?_, fun hrest => ?_⟩
  · obtain ⟨hbefore, hafter⟩ := Lib.Along.append.mp hprompt
    obtain ⟨o, i, h⟩ := hrun hbefore
    let Measures (s : SerialPort) (n : Nat) : Prop := ∃ o i, InTime s o i ∧ work s.usart o = n
    have hcount := @Lib.Along.countAlong_le _ _ step Works Prompt _ Measures SerialAction.isPut 5
      ?_ _ _ hafter _ ⟨o, i, h, rfl⟩
    · exact hcount.trans (Nat.add_le_add_right h.work_le _)
    · rintro s action n ⟨o, i, h, rfl⟩ hprompt
      obtain ⟨o', i', hs, hle⟩ := h.step hprompt
      exact ⟨_, ⟨o', i', hs, rfl⟩, hle⟩
  · obtain ⟨o, i, h⟩ := hrun hprompt
    exact h.sent hrest

theorem prompt_sends_octet :
    let more : List SerialAction :=
      [.interrupt, .receive 7, .load, .interrupt, .get, .finish, .interrupt]
    let s := ([SerialAction.put 65] ++ more).foldl step (init (fun _ => 0) fun _ => 0)
    Lib.countAlong Works step ([SerialAction.put 65].foldl step (init (fun _ => 0) fun _ => 0))
        more ≤ 9 ∧
      s.usart.line = s.written ∧ s.read = [7] := by
  intro more s
  obtain ⟨hcount, hsent⟩ := prompt_sends (fun _ => 0) (fun _ => 0) [.put 65] more (by decide)
  refine ⟨hcount, hsent fun action => ?_, by decide⟩
  cases action with
  | put b | receive b => exact id
  | get => exact id
  | load | finish | interrupt => decide

end SerialPort

end TurningPoint
