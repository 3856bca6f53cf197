import Mathlib.Data.List.Basic
import Mathlib.Logic.Function.Iterate

universe u v

namespace TurningPoint.Lib

section Run

variable {σ : Type u} {α : Type v} {step : σ → α → σ}

/-- Every action of the run from `s` meets `P` in the state it is taken in. -/
def Along (P : σ → α → Prop) (step : σ → α → σ) (s : σ) : List α → Prop
  | [] => True
  | action :: actions => P s action ∧ Along P step (step s action) actions

instance Along.decidable {P : σ → α → Prop} [∀ s action, Decidable (P s action)] (s : σ) :
    (actions : List α) → Decidable (Along P step s actions)
  | [] => .isTrue trivial
  | action :: actions =>
    haveI := Along.decidable (P := P) (step s action) actions
    inferInstanceAs (Decidable (P s action ∧ Along P step (step s action) actions))

theorem Along.append {P : σ → α → Prop} {s : σ} {actions actions' : List α} :
    Along P step s (actions ++ actions') ↔
      Along P step s actions ∧ Along P step (actions.foldl step s) actions' := by
  induction actions generalizing s with
  | nil => exact (and_iff_right trivial).symm
  | cons action actions ih => exact (and_congr_right fun _ => ih).trans and_assoc.symm

theorem Along.and_mem {P : σ → α → Prop} {Q : α → Prop} {s : σ} {actions : List α}
    (halong : Along P step s actions) (h : ∀ action ∈ actions, Q action) :
    Along (fun s action => P s action ∧ Q action) step s actions := by
  induction actions generalizing s with
  | nil => trivial
  | cons action actions ih =>
    obtain ⟨hhead, htail⟩ := List.forall_mem_cons.mp h
    exact ⟨⟨halong.1, hhead⟩, ih halong.2 htail⟩

theorem Along.invariant {P : σ → α → Prop} {Inv : σ → Prop}
    (hstep : ∀ s action, Inv s → P s action → Inv (step s action)) {s : σ} {actions : List α}
    (halong : Along P step s actions) (h : Inv s) : Inv (actions.foldl step s) := by
  induction actions generalizing s with
  | nil => exact h
  | cons action actions ih => exact ih halong.2 (hstep s action h halong.1)

theorem Along.length_le {P : σ → α → Prop} {Measures : σ → Nat → Prop}
    (hstep : ∀ s action n, Measures s n → P s action → ∃ m < n, Measures (step s action) m) {s : σ}
    {actions : List α} (halong : Along P step s actions) {n : Nat} (h : Measures s n) :
    actions.length ≤ n := by
  induction actions generalizing s n with
  | nil => exact Nat.zero_le n
  | cons action actions ih =>
    obtain ⟨m, hlt, hm⟩ := hstep s action n h halong.1
    exact Nat.succ_le_of_lt (Nat.lt_of_le_of_lt (ih halong.2 hm) hlt)

def countAlong (P : σ → α → Prop) [∀ s action, Decidable (P s action)] (step : σ → α → σ) (s : σ) :
    List α → Nat
  | [] => 0
  | action :: actions => (if P s action then 1 else 0) + countAlong P step (step s action) actions

/-- If actions that count lower a measure, which the state may show only in part, and some raise it
by at most `k`, then so many count. -/
theorem Along.countAlong_le {P C : σ → α → Prop} [∀ s action, Decidable (P s action)]
    {Measures : σ → Nat → Prop} {raises : α → Bool} {k : Nat}
    (hstep : ∀ s action n, Measures s n → C s action →
      ∃ m, Measures (step s action) m ∧
        (if P s action then 1 else 0) + m ≤ n + if raises action then k else 0)
    {s : σ} {actions : List α} (halong : Along C step s actions) {n : Nat} (h : Measures s n) :
    countAlong P step s actions ≤ n + k * actions.countP raises := by
  induction actions generalizing s n with
  | nil => exact Nat.zero_le _
  | cons action actions ih =>
    obtain ⟨m, hm, hle⟩ := hstep s action n h halong.1
    have hrest := ih halong.2 hm
    rw [countAlong, List.countP_cons]
    cases hraises : raises action with
    | false => grind
    | true => grind

theorem foldl_simulates {τ : Type u} {step' : τ → α → τ} (R : σ → τ → Prop)
    (hstep : ∀ s t action, R s t → R (step s action) (step' t action)) {s : σ} {t : τ}
    (h : R s t) (actions : List α) : R (actions.foldl step s) (actions.foldl step' t) := by
  induction actions generalizing s t with
  | nil => exact h
  | cons action actions ih => exact ih (hstep s t action h)

theorem Along.simulates {τ : Type u} {step' : τ → α → τ} {P : τ → α → Prop} (R : σ → τ → Prop)
    (hstep : ∀ s t action, R s t → P t action → R (step s action) (step' t action)) {s : σ} {t : τ}
    {actions : List α} (halong : Along P step' t actions) (h : R s t) :
    R (actions.foldl step s) (actions.foldl step' t) := by
  induction actions generalizing s t with
  | nil => exact h
  | cons action actions ih => exact ih halong.2 (hstep s t action h halong.1)

/-- What follows from a condition on steps wherever an invariant holds follows along every run whose
steps, meeting the condition, keep the invariant. -/
theorem Along.imp_while {P Q : σ → α → Prop} {Inv : σ → Prop} {s : σ} {actions : List α}
    (halong : Along P step s actions) (himp : ∀ s action, Inv s → P s action → Q s action)
    (hstep : ∀ s action, Inv s → P s action → Inv (step s action)) (h : Inv s) :
    Along Q step s actions := by
  induction actions generalizing s with
  | nil => trivial
  | cons action actions ih =>
    exact ⟨himp s action h halong.1, ih halong.2 (hstep s action h halong.1)⟩

theorem Along.congr_of_invariant {P Q : σ → α → Prop} {Inv : σ → Prop}
    (hiff : ∀ s action, Inv s → (P s action ↔ Q s action))
    (hstep : ∀ s action, Inv s → Inv (step s action)) {s : σ} (h : Inv s) (actions : List α) :
    Along P step s actions ↔ Along Q step s actions := by
  induction actions generalizing s with
  | nil => exact Iff.rfl
  | cons action actions ih => exact and_congr (hiff s action h) (ih (hstep s action h))

theorem Along.congr_while {P Q R : σ → α → Prop} {Inv : σ → Prop} {s : σ} {actions : List α}
    (halong : Along R step s actions)
    (hiff : ∀ s action, Inv s → R s action → (P s action ↔ Q s action))
    (hstep : ∀ s action, Inv s → R s action → Q s action → Inv (step s action)) (h : Inv s) :
    Along P step s actions ↔ Along Q step s actions := by
  induction actions generalizing s with
  | nil => exact Iff.rfl
  | cons action actions ih =>
    have hhead := hiff s action h halong.1
    refine ⟨fun hp => ?_, fun hq => ?_⟩
    · have hnext := hstep s action h halong.1 (hhead.mp hp.1)
      exact ⟨hhead.mp hp.1, (ih halong.2 hnext).mp hp.2⟩
    · have hnext := hstep s action h halong.1 hq.1
      exact ⟨hhead.mpr hq.1, (ih halong.2 hnext).mpr hq.2⟩

theorem Along.imp_of_invariant {P Q : σ → α → Prop} {Inv : σ → Prop} {s : σ} {actions : List α}
    (halong : Along P step s actions) (himp : ∀ s action, Inv s → P s action → Q s action)
    (hstep : ∀ s action, Inv s → Inv (step s action)) (h : Inv s) : Along Q step s actions :=
  halong.imp_while himp (fun s action h _ => hstep s action h) h

/-- What a step keeps exactly if it meets a condition holds all along a run exactly if every step of
it meets the condition. -/
theorem Along.iff_always {P : σ → Prop} {C : σ → α → Prop} {Inv : σ → Prop}
    (hiff : ∀ s action, Inv s → P s → (P (step s action) ↔ C s action))
    (hinv : ∀ s action, Inv s → P s → P (step s action) → Inv (step s action)) {s : σ}
    (hi : Inv s) (hs : P s) (actions : List α) :
    (∀ before, before <+: actions → P (before.foldl step s)) ↔ Along C step s actions := by
  induction actions generalizing s with
  | nil =>
    refine iff_of_true (fun before hbefore => ?_) trivial
    rw [List.prefix_nil.mp hbefore]
    exact hs
  | cons action actions ih =>
    constructor
    · intro hall
      have hstep := hall [action] (List.prefix_append [action] actions)
      have hi' := hinv s action hi hs hstep
      refine ⟨(hiff s action hi hs).mp hstep, (ih hi' hstep).mp fun before hbefore => ?_⟩
      exact hall (action :: before) ((List.prefix_cons_inj action).mpr hbefore)
    · rintro ⟨hc, halong⟩ before hbefore
      have hstep := (hiff s action hi hs).mpr hc
      cases before with
      | nil => exact hs
      | cons first before =>
        obtain ⟨rfl, hrest⟩ := List.cons_prefix_cons.mp hbefore
        exact (ih (hinv s first hi hs hstep) hstep).mpr halong before hrest

end Run

section While

variable {σ : Type u}

def whileLoop (test : σ → Bool) (body : σ → σ) : Nat → σ → Option σ
  | 0, _ => none
  | n + 1, s => if test s then whileLoop test body n (body s) else some s

variable {test : σ → Bool} {body : σ → σ}

/-- The loop ends in the first of the iterates of its body that fails the test. -/
theorem whileLoop_eq_some {n : Nat} {s s' : σ} :
    whileLoop test body n s = some s' ↔
      ∃ k < n, body^[k] s = s' ∧ test s' = false ∧ ∀ i < k, test (body^[i] s) = true := by
  induction n generalizing s with
  | zero => simp [whileLoop]
  | succ n ih =>
    rw [whileLoop]
    split
    next htest =>
      rw [ih]
      constructor
      · rintro ⟨k, hk, hbody, hfalse, htrue⟩
        refine ⟨k + 1, by omega, hbody, hfalse, fun i hi => ?_⟩
        cases i with
        | zero => exact htest
        | succ i => exact htrue i (by omega)
      · rintro ⟨k, hk, hbody, hfalse, htrue⟩
        cases k with
        | zero =>
          obtain rfl : s = s' := hbody
          simp [htest] at hfalse
        | succ k => exact ⟨k, by omega, hbody, hfalse, fun i hi => htrue (i + 1) (by omega)⟩
    next htest =>
      constructor
      · intro h
        obtain rfl := Option.some.inj h
        exact ⟨0, by omega, rfl, by simpa using htest, by simp⟩
      · rintro ⟨k, -, hbody, -, htrue⟩
        cases k with
        | zero => exact congrArg some hbody
        | succ k => exact absurd (htrue 0 (by omega)) htest

theorem whileLoop_eq_none {s : σ} (h : ∀ i, test (body^[i] s) = true) (n : Nat) :
    whileLoop test body n s = none := by
  induction n generalizing s with
  | zero => rfl
  | succ n ih =>
    rw [whileLoop, if_pos (show test s = true from h 0)]
    exact ih fun i => h (i + 1)

end While

section Assign

variable {ι : Type u} {α : Type v} [DecidableEq ι]

def assign : List (ι × α) → (ι → α) → ι → α
  | [], f => f
  | (i, a) :: writes, f => assign writes (Function.update f i a)

theorem assign_append (writes writes' : List (ι × α)) (f : ι → α) :
    assign (writes ++ writes') f = assign writes' (assign writes f) := by
  induction writes generalizing f with
  | nil => rfl
  | cons w writes ih => exact ih _

theorem assign_of_notMem {writes : List (ι × α)} {i : ι} (h : i ∉ writes.map Prod.fst)
    (f : ι → α) : assign writes f i = f i := by
  induction writes generalizing f with
  | nil => rfl
  | cons w writes ih =>
    rw [List.map_cons, List.mem_cons, not_or] at h
    exact (ih h.2 _).trans (Function.update_of_ne h.1 ..)

theorem assign_congr {writes : List (ι × α)} {f g : ι → α}
    (h : ∀ i, i ∉ writes.map Prod.fst → f i = g i) : assign writes f = assign writes g := by
  induction writes generalizing f g with
  | nil => exact funext fun i => h i List.not_mem_nil
  | cons w writes ih =>
    obtain ⟨j, a⟩ := w
    refine ih fun i hi => ?_
    by_cases heq : i = j
    · subst heq
      rw [Function.update_self, Function.update_self]
    · rw [Function.update_of_ne heq, Function.update_of_ne heq]
      refine h i fun hmem => ?_
      exact (List.mem_cons.mp hmem).elim heq hi

theorem assign_assign {writes writes' : List (ι × α)}
    (h : writes'.map Prod.fst ⊆ writes.map Prod.fst) (f : ι → α) :
    assign writes (assign writes' f) = assign writes f :=
  assign_congr fun _ hi => assign_of_notMem (fun hmem => hi (h hmem)) f

end Assign

end TurningPoint.Lib
