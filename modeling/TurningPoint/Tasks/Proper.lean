import TurningPoint.Tasks.Listeners

universe u

namespace TurningPoint

namespace Tasks

variable {τ : Type u}

structure Registered (s : Tasks τ) (L : List (Fin maxThread)) : Prop extends s.Ends L where
  mem_iff : ∀ i, i ∈ L ↔ ∃ t, s.tp i = some t ∧ s.alive t = true
  listener : ∀ i ∈ L, s.listener i = s.tp i
  injective : ∀ i j t, s.tp i = some t → s.tp j = some t → i = j

theorem init_registered : (init : Tasks τ).Registered [] where
  toEnds := init_ends
  mem_iff i := by simp [init]
  listener := List.forall_mem_nil _
  injective i j t h := absurd h.symm (Option.some_ne_none t)

theorem Registered.collect {s : Tasks τ} {L : List (Fin maxThread)} (h : s.Registered L)
    (i : Fin maxThread) : (s.collect i).Registered L := by
  rw [Tasks.collect]
  split
  next t htp =>
    split
    next hdead =>
      have hi : i ∉ L := by simp [h.mem_iff, htp, hdead.2]
      refine ⟨⟨h.hung, h.chain⟩, fun j => ?_, fun j hj => ?_, fun j k u hj hk => ?_⟩
      · rcases eq_or_ne j i with rfl | hne
        · simp [hi]
        · simp [hne, h.mem_iff]
      · have hne : j ≠ i := ne_of_mem_of_not_mem hj hi
        simpa [hne] using h.listener j hj
      · simp only [Function.update_apply] at hj hk
        split at hj
        · exact absurd hj.symm (Option.some_ne_none u)
        · split at hk
          · exact absurd hk.symm (Option.some_ne_none u)
          · exact h.injective j k u hj hk
    next => exact h
  next => exact h

variable [DecidableEq τ]

/-- No thread that has registered returns, and none is created that is there or has a slot. -/
def Proper (s : Tasks τ) : TasksAction τ → Prop
  | .create t => s.alive t = false ∧ ∀ i, s.tp i ≠ some t
  | .returns t => ∀ i, s.tp i ≠ some t
  | _ => True

instance (s : Tasks τ) : (action : TasksAction τ) → Decidable (s.Proper action)
  | .create t => inferInstanceAs (Decidable (s.alive t = false ∧ ∀ i, s.tp i ≠ some t))
  | .returns t => inferInstanceAs (Decidable (∀ i, s.tp i ≠ some t))
  | .register _ _ | .sleep _ | .broadcast | .collect _ => .isTrue trivial

theorem slotOf_eq_some {s : Tasks τ} {tp : Option τ} {i : Fin maxThread}
    (h : s.slotOf tp = some i) : s.tp i = tp := by
  simpa using List.find?_some h

theorem slotOf_eq_none {s : Tasks τ} {tp : Option τ} (h : s.slotOf tp = none)
    (i : Fin maxThread) : s.tp i ≠ tp := by
  simpa using List.find?_eq_none.mp h i (List.mem_finRange i)

namespace Registered

variable {s : Tasks τ} {L : List (Fin maxThread)} {more : Nat} {t : τ}

theorem update_alive (h : s.Registered L) (hnone : ∀ i, s.tp i ≠ some t) (b : Bool)
    (pending : τ → Bool) :
    { s with pending, alive := Function.update s.alive t b }.Registered L := by
  refine { h with mem_iff := fun i => (h.mem_iff i).trans (exists_congr fun u => ?_) }
  refine and_congr_right fun htp => ?_
  have hne : u ≠ t := fun heq => hnone i (heq ▸ htp)
  simp only [Function.update_of_ne hne]

theorem register (h : s.Registered L) (halive : s.alive t = true) (p : Bool) :
    ∃ L', (s.vexTaskRegisterPersistant t p).Registered L' := by
  cases hslot : s.newSlot t with
  | none =>
    obtain ⟨persistent, heq⟩ := vexTaskRegisterPersistant_of_none hslot p
    exact ⟨L, heq ▸ { h with }⟩
  | some i =>
    have hnone : (∀ j, s.tp j ≠ some t) ∧ s.tp i = none := by
      rw [newSlot] at hslot
      split at hslot
      · exact absurd hslot.symm (Option.some_ne_none i)
      next hself => exact ⟨slotOf_eq_none hself, slotOf_eq_some hslot⟩
    have hi : i ∉ L := by simp [h.mem_iff, hnone.2]
    rw [vexTaskRegisterPersistant_of_newSlot hslot]
    refine ⟨i :: L, ⟨h.hung, h.chain.push hi⟩, fun j => ?_, fun j hj => ?_, ?_⟩
    · rcases eq_or_ne j i with rfl | hne
      · simp [chEvtRegisterMask, halive]
      · simp [chEvtRegisterMask, hne, h.mem_iff]
    · rcases eq_or_ne j i with rfl | hne
      · simp [chEvtRegisterMask]
      · simpa [chEvtRegisterMask, hne] using h.listener j (List.mem_of_ne_of_mem hne hj)
    · intro j k u hj hk
      simp only [chEvtRegisterMask, Function.update_apply] at hj hk
      split at hj <;> split at hk
      next hj' hk' => exact hj'.trans hk'.symm
      next => exact absurd (hj ▸ hk) (hnone.1 k)
      next => exact absurd (hk ▸ hj) (hnone.1 j)
      next => exact h.injective j k u hj hk

theorem sleep (h : s.Registered L) (more : Nat) (t : τ) :
    ∃ L', (s.vexSleep (maxThread + 1 + more) t).Registered L' := by
  rw [vexSleep]
  split
  · have hwoken : { s with pending := Function.update s.pending t false }.Registered L :=
      { h with }
    simp only
    split
    next i hslot =>
      have htp := slotOf_eq_some hslot
      split
      · exact ⟨L, hwoken⟩
      · obtain ⟨next', hunlink, hchain, -⟩ := h.chain.unlink i (h.length_lt more)
        simp only [chEvtUnregister, hunlink]
        refine ⟨L.erase i, ⟨h.hung, hchain⟩, fun j => ?_, fun j hj => ?_, h.injective⟩
        · rw [h.chain.nodup.mem_erase_iff, h.mem_iff]
          constructor
          · rintro ⟨hne, u, hu, halive⟩
            have hut : u ≠ t := fun heq => hne (h.injective j i t (heq ▸ hu) htp)
            exact ⟨u, hu, (Function.update_of_ne hut ..).trans halive⟩
          · rintro ⟨u, hu, halive⟩
            have hut : u ≠ t := by
              rintro rfl
              simp [chThdExit] at halive
            refine ⟨?_, u, hu, (Function.update_of_ne hut ..).symm.trans halive⟩
            rintro rfl
            exact hut (Option.some.inj (hu.symm.trans htp))
        · exact h.listener j (List.mem_of_mem_erase hj)
    next hslot => exact ⟨L, hwoken.update_alive (slotOf_eq_none hslot) false _⟩
  · exact ⟨L, h⟩

theorem broadcast (h : s.Registered L) (more : Nat) :
    s.chEvtBroadcastI (maxThread + 1 + more) = { s with
      pending := fun t => s.pending t || s.alive t && decide (∃ i, s.tp i = some t) } := by
  rw [h.toEnds.broadcast, foldl_chEvtSignalI]
  congr 1
  funext t
  congr 1
  rw [Bool.eq_iff_iff]
  simp only [List.any_eq_true, decide_eq_true_eq, Bool.and_eq_true]
  constructor
  · rintro ⟨i, hi, hlistener⟩
    have htp : s.tp i = some t := (h.listener i hi).symm.trans hlistener
    obtain ⟨u, hu, halive⟩ := (h.mem_iff i).mp hi
    obtain rfl := Option.some.inj (htp.symm.trans hu)
    exact ⟨halive, i, htp⟩
  · rintro ⟨halive, i, htp⟩
    have hi := (h.mem_iff i).mpr ⟨t, htp, halive⟩
    exact ⟨i, hi, (h.listener i hi).trans htp⟩

theorem step (h : s.Registered L) {action : TasksAction τ} (hproper : s.Proper action)
    (more : Nat) : ∃ L', (s.step (maxThread + 1 + more) action).Registered L' := by
  have hhung := h.hung
  cases action with
  | create t =>
    rw [Tasks.step, if_neg (by simp [hhung])]
    exact ⟨L, h.update_alive hproper.2 true _⟩
  | register t p =>
    rw [Tasks.step]
    split
    · exact ⟨L, h⟩
    next hrun => exact h.register (by simpa using (not_or.mp hrun).2) p
  | sleep t =>
    rw [Tasks.step]
    split
    · exact ⟨L, h⟩
    · exact h.sleep more t
  | returns t =>
    rw [Tasks.step]
    split
    · exact ⟨L, h⟩
    · exact ⟨L, h.update_alive hproper false _⟩
  | broadcast =>
    rw [Tasks.step, if_neg (by simp [hhung]), h.broadcast]
    exact ⟨L, { h with }⟩
  | collect i =>
    rw [Tasks.step, if_neg (by simp [hhung])]
    exact ⟨L, h.collect i⟩

end Registered

/-- While threads leave through `vexSleep` only and none is created that is alive or has a slot, the
monitor never hangs, and whenever it tells the threads to end, it tells exactly those that have
registered and are alive. -/
theorem proper_broadcast (more : Nat) (actions : List (TasksAction τ))
    (hproper : Lib.Along Proper (step (maxThread + 1 + more)) init actions) :
    let s := actions.foldl (step (maxThread + 1 + more)) init
    s.step (maxThread + 1 + more) .broadcast = { s with
      hung := false
      pending := fun t => s.pending t || s.alive t && decide (∃ i, s.tp i = some t) } := by
  intro s
  have hrun : ∃ L, s.Registered L := by
    refine @Lib.Along.invariant _ _ (step (maxThread + 1 + more)) Proper
      (fun s => ∃ L, s.Registered L) ?_ _ _ hproper ⟨[], init_registered⟩
    rintro s action ⟨L, h⟩ hproper
    exact h.step hproper more
  obtain ⟨L, h⟩ := hrun
  have hhung := h.hung
  rw [step, if_neg (by simp [hhung]), h.broadcast, ← hhung]

theorem proper_broadcast_again :
    let s := [.create true, .register true false, .broadcast, .sleep true, .collect 0, .create true,
      .register true false].foldl (step (maxThread + 1)) (init : Tasks Bool)
    s.step (maxThread + 1) .broadcast = { s with
      hung := false
      pending := fun t => s.pending t || s.alive t && decide (∃ i, s.tp i = some t) } :=
  proper_broadcast 0 _ (by decide)

end Tasks

end TurningPoint
