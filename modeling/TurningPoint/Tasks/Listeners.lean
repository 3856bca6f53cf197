import TurningPoint.Tasks.Defs
import TurningPoint.Lib.Run

universe u

namespace TurningPoint

namespace Tasks

variable {τ : Type u}

structure Ends (s : Tasks τ) (L : List (Fin maxThread)) : Prop where
  hung : s.hung = false
  chain : Lib.Chain s.next none L

def Stuck (s : Tasks τ) : Prop := s.hung = true ∨ Lib.Loops s.next

theorem Ends.length_lt {s : Tasks τ} {L : List (Fin maxThread)} (h : s.Ends L) (more : Nat) :
    L.length < maxThread + 1 + more := by
  have hcard := h.chain.nodup.length_le_card
  rw [Fintype.card_fin] at hcard
  omega

theorem init_ends : (init : Tasks τ).Ends [] := ⟨rfl, rfl⟩

theorem Ends.of_eq {s s' : Tasks τ} {L : List (Fin maxThread)} (h : s.Ends L)
    (hnext : s'.next = s.next) (hhung : s'.hung = s.hung) : s'.Ends L :=
  ⟨hhung.trans h.hung, hnext ▸ h.chain⟩

theorem Stuck.of_eq {s s' : Tasks τ} (h : s.Stuck) (hnext : s'.next = s.next)
    (hhung : s'.hung = s.hung) : s'.Stuck :=
  h.imp hhung.trans (hnext ▸ ·)

theorem collect_next (i : Fin maxThread) (s : Tasks τ) :
    (s.collect i).next = s.next ∧ (s.collect i).hung = s.hung := by
  rw [collect]
  split
  · split <;> exact ⟨rfl, rfl⟩
  · exact ⟨rfl, rfl⟩

def listeners (s : Tasks τ) : List (Fin maxThread) :=
  (Lib.visit s.next (maxThread + 1) none).getD []

theorem Ends.listeners {s : Tasks τ} {L : List (Fin maxThread)} (h : s.Ends L) :
    s.listeners = L := by
  rw [Tasks.listeners, h.chain.visit (h.length_lt 0), Option.getD_some]

variable [DecidableEq τ]

def newSlot (t : τ) (s : Tasks τ) : Option (Fin maxThread) :=
  match s.slotOf (some t) with
  | some _ => none
  | none => s.slotOf none

def Fresh (s : Tasks τ) : TasksAction τ → Prop
  | .register t _ => s.alive t = true → ∀ i ∈ s.newSlot t, i ∉ s.listeners
  | _ => True

instance (s : Tasks τ) : (action : TasksAction τ) → Decidable (s.Fresh action)
  | .register t _ => inferInstanceAs (Decidable (s.alive t = true → ∀ i ∈ s.newSlot t, _))
  | .create _ | .sleep _ | .returns _ | .broadcast | .collect _ => .isTrue trivial

theorem foldl_chEvtSignalI (listeners : List (Fin maxThread)) (s : Tasks τ) :
    listeners.foldl (fun s i => s.chEvtSignalI i) s = { s with
      pending := fun t => s.pending t || listeners.any fun i => s.listener i = some t } := by
  induction listeners generalizing s with
  | nil => simp
  | cons i listeners ih =>
    rw [List.foldl_cons, ih]
    cases hlistener : s.listener i with
    | none => simp [chEvtSignalI, hlistener]
    | some u =>
      simp only [chEvtSignalI, hlistener, Function.update_apply, List.any_cons]
      congr 1
      funext t
      by_cases heq : t = u
      · simp [heq]
      · simp [heq, Ne.symm heq]

theorem vexTaskRegisterPersistant_of_newSlot {t : τ} {s : Tasks τ} {i : Fin maxThread}
    (h : s.newSlot t = some i) (p : Bool) : s.vexTaskRegisterPersistant t p =
      { s with
        tp := Function.update s.tp i (some t)
        persistent := Function.update s.persistent i p }.chEvtRegisterMask t i := by
  rw [newSlot] at h
  split at h
  · exact absurd h.symm (Option.some_ne_none i)
  next hslot => rw [vexTaskRegisterPersistant, hslot, h]

theorem vexTaskRegisterPersistant_of_none {t : τ} {s : Tasks τ} (h : s.newSlot t = none)
    (p : Bool) : ∃ persistent, s.vexTaskRegisterPersistant t p = { s with persistent } := by
  cases hslot : s.slotOf (some t) with
  | some i =>
    refine ⟨Function.update s.persistent i p, ?_⟩
    rw [vexTaskRegisterPersistant, hslot]
  | none =>
    have hfull : s.slotOf none = none := by simpa only [newSlot, hslot] using h
    refine ⟨s.persistent, ?_⟩
    rw [vexTaskRegisterPersistant, hslot, hfull]

theorem vexSleep_next (turns : Nat) (t : τ) (s : Tasks τ) :
    ((s.vexSleep turns t).next = s.next ∧ (s.vexSleep turns t).hung = s.hung) ∨
      ∃ i, (s.vexSleep turns t).next = (s.chEvtUnregister turns i).next ∧
        (s.vexSleep turns t).hung = (s.chEvtUnregister turns i).hung := by
  rw [vexSleep]
  split
  · simp only
    split
    next i _ =>
      split
      · exact .inl ⟨rfl, rfl⟩
      · refine .inr ⟨i, ?_⟩
        simp only [chEvtUnregister, chThdExit]
        split <;> exact ⟨rfl, rfl⟩
    next => exact .inl ⟨rfl, rfl⟩
  · exact .inl ⟨rfl, rfl⟩

variable {s : Tasks τ} {L : List (Fin maxThread)} {more : Nat} {action : TasksAction τ}

theorem Ends.broadcast (h : s.Ends L) (more : Nat) :
    s.chEvtBroadcastI (maxThread + 1 + more) = L.foldl (fun s i => s.chEvtSignalI i) s := by
  rw [chEvtBroadcastI, h.chain.visit (h.length_lt more)]

theorem Stuck.broadcast (h : s.Stuck) (turns : Nat) : (s.step turns .broadcast).hung = true := by
  rw [step]
  split
  next hhung => exact hhung
  next hhung => rw [chEvtBroadcastI, (h.resolve_left hhung).visit]

theorem Ends.sleep (h : s.Ends L) (more : Nat) (t : τ) :
    ∃ L', (s.vexSleep (maxThread + 1 + more) t).Ends L' := by
  obtain ⟨hnext, hhung⟩ | ⟨i, hnext, hhung⟩ := vexSleep_next (maxThread + 1 + more) t s
  · exact ⟨L, h.of_eq hnext hhung⟩
  · obtain ⟨next', hunlink, hchain, -⟩ := h.chain.unlink i (h.length_lt more)
    rw [chEvtUnregister, hunlink] at hnext hhung
    exact ⟨L.erase i, hhung.trans h.hung, hnext.symm ▸ hchain⟩

theorem Stuck.sleep (h : s.Stuck) (turns : Nat) (t : τ) : (s.vexSleep turns t).Stuck := by
  obtain ⟨hnext, hhung⟩ | ⟨i, hnext, hhung⟩ := vexSleep_next turns t s
  · exact h.of_eq hnext hhung
  · rw [chEvtUnregister] at hnext hhung
    split at hnext
    next next' hunlink =>
      simp only [hunlink] at hhung
      exact h.imp hhung.trans fun hloops => hnext.symm ▸ hloops.unlink hunlink
    next hunlink =>
      simp only [hunlink] at hhung
      exact .inl hhung

theorem Ends.register (h : s.Ends L) {t : τ} (hfresh : ∀ i ∈ s.newSlot t, i ∉ s.listeners)
    (p : Bool) : ∃ L', (s.vexTaskRegisterPersistant t p).Ends L' := by
  rw [h.listeners] at hfresh
  cases hslot : s.newSlot t with
  | none =>
    obtain ⟨persistent, heq⟩ := vexTaskRegisterPersistant_of_none hslot p
    exact ⟨L, heq ▸ h.of_eq rfl rfl⟩
  | some i =>
    rw [vexTaskRegisterPersistant_of_newSlot hslot]
    exact ⟨i :: L, h.hung, h.chain.push (hfresh i hslot)⟩

theorem Ends.register_stale (h : s.Ends L) {t : τ} {i : Fin maxThread} (hslot : s.newSlot t = some i)
    (hmem : i ∈ s.listeners) (p : Bool) : (s.vexTaskRegisterPersistant t p).Stuck := by
  rw [h.listeners] at hmem
  rw [vexTaskRegisterPersistant_of_newSlot hslot]
  exact .inr (h.chain.push_mem hmem)

theorem Stuck.register (h : s.Stuck) (t : τ) (p : Bool) :
    (s.vexTaskRegisterPersistant t p).Stuck := by
  cases hslot : s.newSlot t with
  | none =>
    obtain ⟨persistent, heq⟩ := vexTaskRegisterPersistant_of_none hslot p
    exact heq ▸ h.of_eq rfl rfl
  | some i =>
    rw [vexTaskRegisterPersistant_of_newSlot hslot]
    exact h.imp id (·.push i)

theorem Ends.step (h : s.Ends L) (hfresh : s.Fresh action) (more : Nat) :
    ∃ L', (s.step (maxThread + 1 + more) action).Ends L' := by
  have hhung := h.hung
  cases action with
  | create t =>
    rw [Tasks.step, if_neg (by simp [hhung])]
    exact ⟨L, h.of_eq rfl rfl⟩
  | register t p =>
    rw [Tasks.step]
    split
    · exact ⟨L, h⟩
    next hrun =>
      have halive : s.alive t = true := by simpa using (not_or.mp hrun).2
      exact h.register (hfresh halive) p
  | sleep t =>
    rw [Tasks.step]
    split
    · exact ⟨L, h⟩
    · exact h.sleep more t
  | returns t =>
    rw [Tasks.step]
    split
    · exact ⟨L, h⟩
    · exact ⟨L, h.of_eq rfl rfl⟩
  | broadcast =>
    rw [Tasks.step, if_neg (by simp [hhung]), h.broadcast, foldl_chEvtSignalI]
    exact ⟨L, h.of_eq rfl rfl⟩
  | collect i =>
    rw [Tasks.step, if_neg (by simp [hhung])]
    exact ⟨L, h.of_eq (collect_next i s).1 (collect_next i s).2⟩

theorem Ends.step_stale (h : s.Ends L) (hstale : ¬ s.Fresh action) (turns : Nat) :
    (s.step turns action).Stuck := by
  cases action with
  | register t p =>
    simp only [Fresh, not_forall, not_not] at hstale
    obtain ⟨halive, i, hslot, hmem⟩ := hstale
    rw [Tasks.step, if_neg (by simp [h.hung, halive])]
    exact h.register_stale hslot hmem p
  | create t | sleep t | returns t | broadcast | collect i => exact absurd trivial hstale

theorem Stuck.step (h : s.Stuck) (turns : Nat) (action : TasksAction τ) :
    (s.step turns action).Stuck := by
  cases action with
  | create t =>
    rw [Tasks.step]
    split <;> exact h.of_eq rfl rfl
  | register t p =>
    rw [Tasks.step]
    split
    · exact h
    · exact h.register t p
  | sleep t =>
    rw [Tasks.step]
    split
    · exact h
    · exact h.sleep turns t
  | returns t =>
    rw [Tasks.step]
    split <;> exact h.of_eq rfl rfl
  | broadcast => exact .inl (h.broadcast turns)
  | collect i =>
    rw [Tasks.step]
    split
    · exact h
    · exact h.of_eq (collect_next i s).1 (collect_next i s).2

theorem run_ends_or_stuck (more : Nat) (h : s.Ends L) (actions : List (TasksAction τ)) :
    (Lib.Along Fresh (step (maxThread + 1 + more)) s actions ∧
        ∃ L', (actions.foldl (step (maxThread + 1 + more)) s).Ends L') ∨
      (¬ Lib.Along Fresh (step (maxThread + 1 + more)) s actions ∧
        (actions.foldl (step (maxThread + 1 + more)) s).Stuck) := by
  induction actions generalizing s L with
  | nil => exact .inl ⟨trivial, L, h⟩
  | cons action actions ih =>
    by_cases hfresh : s.Fresh action
    · obtain ⟨L', hs⟩ := h.step hfresh more
      exact (ih hs).imp (fun ⟨halong, hends⟩ => ⟨⟨hfresh, halong⟩, hends⟩)
        fun ⟨hnot, hstuck⟩ => ⟨fun halong => hnot halong.2, hstuck⟩
    · refine .inr ⟨fun halong => hfresh halong.1, ?_⟩
      exact List.foldlRecOn (motive := Stuck) actions _ (h.step_stale hfresh _)
        fun _ hstuck action _ => hstuck.step _ action

/-- However many turns a walk is given, after a run the monitor hangs when it tells the threads to
end, if not before, just if some thread has registered with a slot whose listener was still on the
list. -/
theorem broadcast_hangs_iff (more : Nat) (actions : List (TasksAction τ)) :
    ((actions.foldl (step (maxThread + 1 + more)) init).step (maxThread + 1 + more)
        .broadcast).hung = true ↔
      ¬ Lib.Along Fresh (step (maxThread + 1 + more)) init actions := by
  obtain ⟨halong, L, h⟩ | ⟨hnot, hstuck⟩ := run_ends_or_stuck more init_ends actions
  · refine iff_of_false ?_ (not_not.mpr halong)
    rw [Tasks.step, if_neg (by simp [h.hung]), h.broadcast, foldl_chEvtSignalI]
    simp [h.hung]
  · exact iff_of_true (hstuck.broadcast _) hnot

example : ¬ Lib.Along Fresh (step (maxThread + 1)) (init : Tasks Bool)
    [.create true, .register true false, .returns true, .broadcast, .collect 0, .create true,
      .register true false] := by
  decide

end Tasks

end TurningPoint
