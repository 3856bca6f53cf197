import Mathlib.Data.List.Basic
import Mathlib.Tactic

universe u

namespace TurningPoint.Lib

structure Ring (α : Type u) where
  size : Nat
  rd : Nat
  wr : Nat
  data : Nat → α

namespace Ring

variable {α : Type u}

def next (r : Ring α) (i : Nat) : Nat := if i + 1 ≥ r.size then 0 else i + 1

def store (a : α) (r : Ring α) : Ring α :=
  { r with data := Function.update r.data r.wr a, wr := r.next r.wr }

def fetch (r : Ring α) : α × Ring α := (r.data r.rd, { r with rd := r.next r.rd })

def wrap (size i : Nat) : Nat := if i < size then i else i - size

structure Holds (r : Ring α) (L : List α) : Prop where
  rd_lt : r.rd < r.size
  length_le : L.length ≤ r.size
  wr_eq : r.wr = wrap r.size (r.rd + L.length)
  data : ∀ i (h : i < L.length), r.data (wrap r.size (r.rd + i)) = L[i]

namespace Holds

variable {r : Ring α} {L : List α}

theorem empty {size i : Nat} (hi : i < size) (data : Nat → α) :
    Holds ⟨size, i, i, data⟩ [] where
  rd_lt := hi
  length_le := Nat.zero_le _
  wr_eq := (if_pos hi).symm
  data := by simp

theorem meet_iff (h : r.Holds L) : r.wr = r.rd ↔ L = [] ∨ L.length = r.size := by
  have hrd := h.rd_lt
  have hle := h.length_le
  rw [h.wr_eq, wrap, ← List.length_eq_zero_iff]
  split <;> omega

theorem store (h : r.Holds L) (hlt : L.length < r.size) (a : α) : (r.store a).Holds (L ++ [a]) where
  rd_lt := h.rd_lt
  length_le := by
    rw [List.length_append]
    exact hlt
  wr_eq := by
    have hrd := h.rd_lt
    simp only [Ring.store, next, h.wr_eq, wrap, List.length_append, List.length_singleton]
    split_ifs <;> omega
  data i hi := by
    have hrd := h.rd_lt
    simp only [Ring.store]
    rcases Nat.lt_succ_iff_lt_or_eq.mp (by simpa using hi) with hold | rfl
    · have hne : wrap r.size (r.rd + i) ≠ r.wr := by
        rw [h.wr_eq]
        simp only [wrap]
        split_ifs <;> omega
      rw [Function.update_of_ne hne, List.getElem_append_left hold]
      exact h.data i hold
    · rw [← h.wr_eq]
      simp

theorem fetch {a : α} (h : r.Holds (a :: L)) : r.fetch.1 = a ∧ r.fetch.2.Holds L := by
  have hrd := h.rd_lt
  have hle := h.length_le
  rw [List.length_cons] at hle
  refine ⟨?_, ?_, by simp only [Ring.fetch]; omega, ?_, fun i hi => ?_⟩
  · have hhead := h.data 0 (Nat.zero_lt_succ _)
    rwa [wrap, if_pos (by omega)] at hhead
  · simp only [Ring.fetch, next]
    split_ifs <;> omega
  · have hwr := h.wr_eq
    simp only [Ring.fetch, next, hwr, wrap, List.length_cons]
    split_ifs <;> omega
  · have htail := h.data (i + 1) (by simpa using hi)
    rw [List.getElem_cons_succ] at htail
    rw [← htail]
    simp only [Ring.fetch, next, wrap]
    congr 1
    split_ifs <;> omega

end Holds

end Ring

inductive DequeOp (α : Type u)
  | pushBack (elem : α)
  | pushFront (elem : α)
  | popFront
  | popBack

namespace DequeOp

variable {α : Type u}

/-- A push on a list of `C` elements first drops the element at the opposite end. -/
def apply (C : Nat) (L : List α) : DequeOp α → List α
  | pushBack elem => (if L.length = C then L.tail else L) ++ [elem]
  | pushFront elem => elem :: (if L.length = C then L.dropLast else L)
  | popFront => L.tail
  | popBack => L.dropLast

def Allowed (L : List α) : DequeOp α → Prop
  | pushBack _ | pushFront _ => True
  | popFront | popBack => L ≠ []

end DequeOp

end TurningPoint.Lib
