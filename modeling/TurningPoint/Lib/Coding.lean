import Mathlib.Data.List.Basic

/-! Coding for a line.  Byte stuffing: a symbol with a meaning of its own on the line is sent as an
escape followed by a harmless image of it.  Detection of short bursts: a fold that forgets neither
its state nor two symbols in a row tells two words apart that differ in neighbouring places only. -/

universe u v w

namespace TurningPoint.Lib

theorem append_cons_inj {α : Type u} {x : α} {a b c d : List α} (ha : x ∉ a) (hb : x ∉ b)
    (h : a ++ x :: c = b ++ x :: d) : a = b ∧ c = d := by
  induction a generalizing b with
  | nil =>
    cases b with
    | nil => exact ⟨rfl, List.tail_eq_of_cons_eq h⟩
    | cons y b => exact absurd (List.head_eq_of_cons_eq h) (List.ne_of_not_mem_cons hb)
  | cons y a ih =>
    cases b with
    | nil => exact absurd (List.head_eq_of_cons_eq h).symm (List.ne_of_not_mem_cons ha)
    | cons z b =>
      obtain ⟨rfl, htail⟩ := List.cons_eq_cons.mp h
      obtain ⟨rfl, rfl⟩ :=
        ih (List.not_mem_of_not_mem_cons ha) (List.not_mem_of_not_mem_cons hb) htail
      exact ⟨rfl, rfl⟩

/-- The two reserved symbols of a line and the involution that hides them. -/
structure Stuffing (α : Type u) where
  flag : α
  esc : α
  flip : α → α
  flag_ne_esc : flag ≠ esc
  flip_flip : ∀ x, flip (flip x) = x
  flip_flag : flip flag ≠ flag ∧ flip flag ≠ esc
  flip_esc : flip esc ≠ flag ∧ flip esc ≠ esc

namespace Stuffing

variable {α : Type u} {β : Type v} {γ : Type w} (S : Stuffing α)

def Reserved (x : α) : Prop := x = S.flag ∨ x = S.esc

theorem flip_not_reserved {x : α} (h : S.Reserved x) : ¬ S.Reserved (S.flip x) := by
  rcases h with rfl | rfl
  · exact not_or.mpr S.flip_flag
  · exact not_or.mpr S.flip_esc

variable [DecidableEq α]

instance (x : α) : Decidable (S.Reserved x) := inferInstanceAs (Decidable (_ ∨ _))

def stuff (x : α) : List α := if S.Reserved x then [S.esc, S.flip x] else [x]

theorem flag_not_mem_stuff (x : α) : S.flag ∉ S.stuff x := by
  unfold stuff
  split
  next h =>
    have hflip := (not_or.mp (S.flip_not_reserved h)).1
    simp [S.flag_ne_esc, Ne.symm hflip]
  next h => simpa [eq_comm] using (not_or.mp h).1

theorem flag_not_mem_stuffed (xs : List α) : S.flag ∉ xs.flatMap S.stuff := by
  simp [List.mem_flatMap, S.flag_not_mem_stuff]

/-- A receiver that drops escapes and flips what follows them reads stuffed symbols as the
plain ones.  `embed e b` is its state with the escape mark `e` beside the rest `b`. -/
theorem foldl_stuffed {step : γ → α → γ} {plain : β → α → β} (embed : Bool → β → γ)
    (hesc : ∀ e b, step (embed e b) S.esc = embed true b)
    (hplain : ∀ e b x, ¬ S.Reserved x →
      step (embed e b) x = embed false (plain b (if e then S.flip x else x)))
    (xs : List α) (b : β) :
    (xs.flatMap S.stuff).foldl step (embed false b) = embed false (xs.foldl plain b) := by
  induction xs generalizing b with
  | nil => rfl
  | cons x xs ih =>
    have hx : (S.stuff x).foldl step (embed false b) = embed false (plain b x) := by
      unfold stuff
      split
      next h => simp [hesc, hplain _ _ _ (S.flip_not_reserved h), S.flip_flip]
      next h => simp [hplain _ _ _ h]
    rw [List.flatMap_cons, List.foldl_append, hx, ih, List.foldl_cons]

end Stuffing

section Burst

variable {σ : Type u} {α : Type v} {f : σ → α → σ}

def Burst (xs ys : List α) : Prop :=
  xs.length = ys.length ∧ ∃ i, ∀ k, k ≠ i → k ≠ i + 1 → xs[k]? = ys[k]?

/-- Nothing is forgotten: neither the state before a symbol, nor two symbols in a row. -/
structure Detects (f : σ → α → σ) : Prop where
  state : ∀ {s s' x}, f s x = f s' x → s = s'
  pair : ∀ {s x y x' y'}, f (f s x) y = f (f s x') y' → x = x' ∧ y = y'

namespace Detects

variable (hf : Detects f)
include hf

theorem symbol {s : σ} {x y : α} (h : f s x = f s y) : x = y :=
  (hf.pair (congrArg (f · x) h)).1

theorem foldl_inj {xs : List α} {s s' : σ} (h : xs.foldl f s = xs.foldl f s') : s = s' := by
  induction xs generalizing s s' with
  | nil => exact h
  | cons x xs ih => exact hf.state (ih h)

theorem foldl_ne {xs ys : List α} (hburst : Burst xs ys) (hne : xs ≠ ys) (s : σ) :
    xs.foldl f s ≠ ys.foldl f s := by
  obtain ⟨hlength, i, hsame⟩ := hburst
  induction i generalizing s xs ys with
  | zero =>
    match xs, ys with
    | [], [] => exact absurd rfl hne
    | [x], [y] => exact fun h => hne (congrArg ([·]) (hf.symbol h))
    | x :: x' :: xs, y :: y' :: ys =>
      have htail : xs = ys := by
        refine List.ext_getElem? fun k => ?_
        simpa using hsame (k + 2) (by omega) (by omega)
      subst htail
      intro h
      obtain ⟨rfl, rfl⟩ := hf.pair (hf.foldl_inj h)
      exact hne rfl
  | succ i ih =>
    match xs, ys with
    | [], [] => exact absurd rfl hne
    | x :: xs, y :: ys =>
      obtain rfl : x = y := by simpa using hsame 0 (by omega) (by omega)
      refine ih (fun h => hne (congrArg (x :: ·) h)) _ (Nat.succ.inj hlength) fun k hk hk' => ?_
      simpa using hsame (k + 1) (by omega) (by omega)

end Detects

end Burst

end TurningPoint.Lib
