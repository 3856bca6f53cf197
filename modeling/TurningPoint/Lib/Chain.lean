import Mathlib.Logic.Function.Basic
import Mathlib.Data.List.Nodup
import Mathlib.Tactic

/-! Lists linked through the memory of their elements.  Nothing stands for the head, where a list
begins and to which its last element points. -/

universe u

namespace TurningPoint.Lib

variable {ι : Type u}

/-- What follows a cell, up to the head. -/
def Chain (next : Option ι → Option ι) : Option ι → List ι → Prop
  | p, [] => next p = none
  | p, i :: L => next p = some i ∧ Chain next (some i) L

def Loops (next : Option ι → Option ι) : Prop :=
  ∃ R : Set ι, (∃ i ∈ R, next none = some i) ∧ ∀ i ∈ R, ∃ j ∈ R, next (some i) = some j

/-- The elements after a cell, if the head is found again within a number of turns. -/
def visit (next : Option ι → Option ι) : Nat → Option ι → Option (List ι)
  | 0, _ => none
  | n + 1, p =>
    match next p with
    | none => some []
    | some i => (visit next n (some i)).map (i :: ·)

variable {next : Option ι → Option ι} {p : Option ι} {i : ι} {L : List ι}

theorem Chain.unique {L' : List ι} (h : Chain next p L) (h' : Chain next p L') : L = L' := by
  induction L generalizing p L' with
  | nil =>
    cases L' with
    | nil => rfl
    | cons j L' => exact absurd (h'.1.symm.trans h) (Option.some_ne_none j)
  | cons i L ih =>
    cases L' with
    | nil => exact absurd (h.1.symm.trans h') (Option.some_ne_none i)
    | cons j L' =>
      obtain rfl := Option.some.inj (h.1.symm.trans h'.1)
      exact congrArg (i :: ·) (ih h.2 h'.2)

theorem Chain.append {L' : List ι} (h : Chain next p (L ++ i :: L')) :
    Chain next (some i) L' := by
  induction L generalizing p with
  | nil => exact h.2
  | cons j L ih => exact ih h.2

theorem Chain.notMem (h : Chain next (some i) L) : i ∉ L := by
  intro hmem
  obtain ⟨before, after, rfl⟩ := List.append_of_mem hmem
  have hlength := congrArg List.length (h.unique h.append)
  rw [List.length_append, List.length_cons] at hlength
  omega

theorem Chain.nodup (h : Chain next p L) : L.Nodup := by
  induction L generalizing p with
  | nil => exact List.nodup_nil
  | cons i L ih => exact List.nodup_cons.mpr ⟨h.2.notMem, ih h.2⟩

theorem Chain.congr {next' : Option ι → Option ι} (h : Chain next p L) (hp : next' p = next p)
    (hL : ∀ i ∈ L, next' (some i) = next (some i)) : Chain next' p L := by
  induction L generalizing p with
  | nil => exact hp.trans h
  | cons i L ih =>
    obtain ⟨hi, hrest⟩ := List.forall_mem_cons.mp hL
    exact ⟨hp.trans h.1, ih h.2 hi hrest⟩

theorem Chain.visit (h : Chain next p L) {n : Nat} (hn : L.length < n) :
    visit next n p = some L := by
  obtain ⟨n, rfl⟩ := Nat.exists_eq_add_one.mpr (Nat.zero_lt_of_lt hn)
  induction L generalizing p n with
  | nil => simp only [Lib.visit, show next p = none from h]
  | cons i L ih =>
    obtain ⟨n, rfl⟩ := Nat.exists_eq_add_one.mpr (Nat.zero_lt_of_lt (Nat.lt_of_succ_lt_succ hn))
    simp only [Lib.visit, h.1]
    exact congrArg (Option.map (i :: ·)) (ih h.2 n (Nat.lt_of_succ_lt_succ hn))

theorem Loops.visit (h : Loops next) (n : Nat) : visit next n none = none := by
  obtain ⟨R, ⟨first, hfirst, hnone⟩, hR⟩ := h
  have hall : ∀ n, ∀ i ∈ R, Lib.visit next n (some i) = none := by
    intro n
    induction n with
    | zero => exact fun _ _ => rfl
    | succ n ih =>
      intro i hi
      obtain ⟨j, hj, hnext⟩ := hR i hi
      simp only [Lib.visit, hnext, ih j hj, Option.map_none]
  cases n with
  | zero => rfl
  | succ n => simp only [Lib.visit, hnone, hall n first hfirst, Option.map_none]

theorem Chain.next_mem {before after : List ι} (h : Chain next p (before ++ i :: after)) :
    (∃ j ∈ before ++ [i], next p = some j) ∧
      ∀ k ∈ before, ∃ j ∈ before ++ [i], next (some k) = some j := by
  induction before generalizing p with
  | nil => exact ⟨⟨i, List.mem_singleton_self i, h.1⟩, List.forall_mem_nil _⟩
  | cons j before ih =>
    obtain ⟨⟨k, hk, hnext⟩, hall⟩ := ih h.2
    refine ⟨⟨j, List.mem_cons_self, h.1⟩, List.forall_mem_cons.mpr ⟨?_, fun l hl => ?_⟩⟩
    · exact ⟨k, List.mem_cons_of_mem j hk, hnext⟩
    · obtain ⟨k, hk, hnext⟩ := hall l hl
      exact ⟨k, List.mem_cons_of_mem j hk, hnext⟩

variable [DecidableEq ι]

def push (i : ι) (next : Option ι → Option ι) : Option ι → Option ι :=
  Function.update (Function.update next (some i) (next none)) none (some i)

/-- The first cell from `p` on that points to the element gets what the element points to, if it or
the head is found within a number of turns. -/
def unlink (i : ι) (next : Option ι → Option ι) : Nat → Option ι → Option (Option ι → Option ι)
  | 0, _ => none
  | n + 1, p =>
    match next p with
    | none => some next
    | some j => if j = i then some (Function.update next p (next (some i))) else unlink i next n j

theorem push_none (i : ι) (next : Option ι → Option ι) : push i next none = some i :=
  Function.update_self ..

theorem push_self (i : ι) (next : Option ι → Option ι) : push i next (some i) = next none := by
  rw [push, Function.update_of_ne (Option.some_ne_none i), Function.update_self]

theorem push_of_ne {j : ι} (h : j ≠ i) (next : Option ι → Option ι) :
    push i next (some j) = next (some j) := by
  rw [push, Function.update_of_ne (Option.some_ne_none j),
    Function.update_of_ne (fun heq => h (Option.some.inj heq))]

theorem Chain.push (h : Chain next none L) (hi : i ∉ L) : Chain (push i next) none (i :: L) := by
  refine ⟨push_none i next, ?_⟩
  cases L with
  | nil => exact (push_self i next).trans h
  | cons j L =>
    refine ⟨(push_self i next).trans h.1, h.2.congr ?_ fun k hk => ?_⟩
    · exact push_of_ne (ne_of_mem_of_not_mem List.mem_cons_self hi) next
    · exact push_of_ne (ne_of_mem_of_not_mem (List.mem_cons_of_mem j hk) hi) next

theorem Loops.push (h : Loops next) (i : ι) : Loops (push i next) := by
  obtain ⟨R, ⟨first, hfirst, hnone⟩, hR⟩ := h
  refine ⟨insert i R, ⟨i, Set.mem_insert i R, push_none i next⟩, fun j hj => ?_⟩
  by_cases heq : j = i
  · subst heq
    exact ⟨first, Set.mem_insert_of_mem j hfirst, (push_self j next).trans hnone⟩
  · obtain ⟨k, hk, hnext⟩ := hR j (Set.mem_of_mem_insert_of_ne hj heq)
    exact ⟨k, Set.mem_insert_of_mem i hk, (push_of_ne heq next).trans hnext⟩

theorem Chain.push_mem (h : Chain next none L) (hi : i ∈ L) : Loops (Lib.push i next) := by
  obtain ⟨before, after, rfl⟩ := List.append_of_mem hi
  obtain ⟨⟨first, hfirst, hnone⟩, hall⟩ := h.next_mem
  refine ⟨{j | j ∈ before ++ [i]}, ⟨i, by simp, push_none i next⟩, fun j hj => ?_⟩
  by_cases heq : j = i
  · subst heq
    exact ⟨first, hfirst, (push_self j next).trans hnone⟩
  · have hbefore : j ∈ before := by simpa [heq] using hj
    obtain ⟨k, hk, hnext⟩ := hall j hbefore
    exact ⟨k, hk, (push_of_ne heq next).trans hnext⟩

theorem Chain.unlink (h : Chain next p L) (i : ι) {n : Nat} (hn : L.length < n) :
    ∃ next', unlink i next n p = some next' ∧ Chain next' p (L.erase i) ∧
      ∀ q, q ≠ p → (∀ k ∈ L, q ≠ some k) → next' q = next q := by
  obtain ⟨n, rfl⟩ := Nat.exists_eq_add_one.mpr (Nat.zero_lt_of_lt hn)
  induction L generalizing p n with
  | nil => exact ⟨next, by simp only [Lib.unlink, show next p = none from h], h, fun _ _ _ => rfl⟩
  | cons j L ih =>
    have hp : ∀ k ∈ j :: L, p ≠ some k := by
      rintro k hk rfl
      exact Chain.notMem h hk
    simp only [Lib.unlink, h.1]
    by_cases heq : j = i
    · subst heq
      rw [if_pos rfl, List.erase_cons_head]
      refine ⟨_, rfl, ?_, fun q hq _ => Function.update_of_ne hq ..⟩
      have hother : ∀ k ∈ L, Function.update next p (next (some j)) (some k) = next (some k) :=
        fun k hk => Function.update_of_ne (hp k (List.mem_cons_of_mem j hk)).symm ..
      cases L with
      | nil => exact (Function.update_self ..).trans h.2
      | cons k L =>
        obtain ⟨hk, hL⟩ := List.forall_mem_cons.mp hother
        exact ⟨(Function.update_self ..).trans h.2.1, h.2.2.congr hk hL⟩
    · obtain ⟨n, rfl⟩ := Nat.exists_eq_add_one.mpr (Nat.zero_lt_of_lt (Nat.lt_of_succ_lt_succ hn))
      obtain ⟨next', hnext, hchain, hframe⟩ := ih h.2 n (Nat.lt_of_succ_lt_succ hn)
      rw [if_neg heq, List.erase_cons_tail (by simpa using heq)]
      refine ⟨next', hnext, ⟨?_, hchain⟩, fun q _ hq => ?_⟩
      · rw [hframe p (hp j List.mem_cons_self) fun k hk => hp k (List.mem_cons_of_mem j hk)]
        exact h.1
      · obtain ⟨hj, hL⟩ := List.forall_mem_cons.mp hq
        exact hframe q hj hL

theorem Loops.unlink (h : Loops next) {n : Nat} {next' : Option ι → Option ι}
    (hunlink : unlink i next n none = some next') : Loops next' := by
  obtain ⟨R, ⟨first, hfirst, hnone⟩, hR⟩ := h
  suffices hfrom : ∀ n p, (∃ j ∈ R, next p = some j) → Lib.unlink i next n p = some next' →
      (∃ j ∈ R, next' none = some j) ∧ ∀ k ∈ R, ∃ j ∈ R, next' (some k) = some j from
    ⟨R, hfrom n none ⟨first, hfirst, hnone⟩ hunlink⟩
  intro n
  induction n with
  | zero => exact fun _ _ h => absurd h.symm (Option.some_ne_none next')
  | succ n ih =>
    rintro p ⟨j, hj, hp⟩ hunlink
    simp only [Lib.unlink, hp] at hunlink
    split at hunlink
    next heq =>
      -- What the cell gets is what followed the element, which is one of these too.
      subst heq
      obtain rfl := Option.some.inj hunlink
      have hall : ∀ q, (∃ k ∈ R, next q = some k) →
          ∃ k ∈ R, Function.update next p (next (some j)) q = some k := by
        intro q hq
        by_cases heq : q = p
        · subst heq
          rw [Function.update_self]
          exact hR j hj
        · rwa [Function.update_of_ne heq]
      exact ⟨hall none ⟨first, hfirst, hnone⟩, fun k hk => hall (some k) (hR k hk)⟩
    next => exact ih j (hR j hj) hunlink

end TurningPoint.Lib
