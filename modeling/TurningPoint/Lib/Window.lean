import Mathlib.Data.ZMod.Basic
import Mathlib.Data.List.Basic

/-! Items numbered modulo `M` and sent again out of a window of the last `H` of them: as long as
`H < M`, a number tells a receiver that only moves forward which item it stands for. -/

universe u v

namespace TurningPoint.Lib

/-- An item belongs to a later group than the one before it, or carries the number that is next. -/
def Counts {α : Type u} {ν : Type v} (group : α → Nat) (number : α → ν) (next : ν → ν) (a b : α) :
    Prop :=
  group a ≤ group b ∧ (group a = group b → number b = next (number a))

theorem Counts.iterate {α : Type u} {ν : Type v} {group : α → Nat} {number : α → ν} {next : ν → ν}
    {l : List α} (hl : l.IsChain (Counts group number next)) {i k : Nat} {a b : α}
    (ha : l[i]? = some a) (hb : l[i + k]? = some b) :
    group a ≤ group b ∧ (group a = group b → number b = next^[k] (number a)) := by
  induction k generalizing b with
  | zero =>
    obtain rfl : a = b := Option.some_inj.mp (ha.symm.trans hb)
    exact ⟨Nat.le_refl _, fun _ => rfl⟩
  | succ k ih =>
    obtain ⟨hlt, hget⟩ := List.getElem?_eq_some_iff.mp hb
    have hk : i + k < l.length := by omega
    obtain ⟨hle, hnumber⟩ := ih (List.getElem?_eq_getElem hk)
    have hstep : Counts group number next l[i + k] b := hget ▸ hl.getElem (i + k) hlt
    refine ⟨hle.trans hstep.1, fun hgroup => ?_⟩
    have hmid : group l[i + k] = group b := by
      have := hstep.1
      omega
    rw [hstep.2 hmid, hnumber (hgroup.trans hmid.symm), Function.iterate_succ_apply']

/-- In the queue `is`, read from the left by a receiver that waits for `e`, nothing is more than
`H` behind what was sent before it. -/
structure Trailing (H e : Nat) (is : List Nat) : Prop where
  head : ∀ i ∈ is, e ≤ i + H
  rest : is.Pairwise fun i j => i + 1 ≤ j + H

namespace Trailing

variable {H M e s : Nat} {is js : List Nat}

theorem nil (H e : Nat) : Trailing H e [] := ⟨by simp, .nil⟩

theorem sublist (h : Trailing H e is) (hsub : js.Sublist is) : Trailing H e js :=
  ⟨fun j hj => h.head j (hsub.subset hj), h.rest.sublist hsub⟩

theorem advance {i : Nat} (h : Trailing H e (i :: is)) : Trailing H (i + 1) is where
  head := (List.pairwise_cons.mp h.rest).1
  rest := (List.pairwise_cons.mp h.rest).2

theorem append (h : Trailing H e is) (hlt : ∀ i ∈ is, i < s) (he : e ≤ s)
    (hjs : ∀ j ∈ js, s ≤ j + H) (hinc : js.Pairwise fun i j => i + 1 ≤ j + H) :
    Trailing H e (is ++ js) where
  head i hi := by
    rcases List.mem_append.mp hi with hi | hi
    · exact h.head i hi
    · exact he.trans (hjs i hi)
  rest := List.pairwise_append.mpr
    ⟨h.rest, hinc, fun i hi j hj => Nat.le_trans (hlt i hi) (hjs j hj)⟩

theorem le_of_cast_eq {i : Nat} (h : Trailing H e (i :: is)) (hH : H < M)
    (hcast : (i : ZMod M) = e) : e ≤ i := by
  by_contra hlt
  have hhead := h.head i List.mem_cons_self
  have hmod : i ≡ e [MOD M] := (ZMod.natCast_eq_natCast_iff i e M).mp hcast
  have hdvd : M ∣ e - i := (Nat.modEq_iff_dvd' (by omega)).mp hmod
  have := Nat.le_of_dvd (by omega) hdvd
  omega

end Trailing

theorem sublist_take_succ {α : Type u} {source taken : List α} {e i : Nat} {x : α}
    (h : taken.Sublist (source.take e)) (hle : e ≤ i) (hx : source[i]? = some x) :
    (taken ++ [x]).Sublist (source.take (i + 1)) := by
  rw [List.take_add_one, hx]
  exact (h.trans (List.take_prefix_take_left hle).sublist).append (List.Sublist.refl _)

end TurningPoint.Lib
