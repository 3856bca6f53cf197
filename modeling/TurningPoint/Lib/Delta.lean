import Mathlib.Data.List.Sort
import Mathlib.Tactic

universe u

namespace TurningPoint.Lib.Delta

variable {ι : Type u} {i j : ι} {base time t : Nat} {l : List (ι × Nat)}

/-- When each element comes, counted on from `base`. -/
def due (base : Nat) : List (ι × Nat) → List (ι × Nat)
  | [] => []
  | (i, t) :: l => (i, base + t) :: due (base + t) l

def insert (i : ι) (time : Nat) : List (ι × Nat) → List (ι × Nat)
  | [] => [(i, time)]
  | (j, t) :: l =>
    if t < time then (j, t) :: insert i (time - t) l else (i, time) :: (j, t - time) :: l

theorem map_fst_due (base : Nat) : (due base l).map Prod.fst = l.map Prod.fst := by
  induction l generalizing base with
  | nil => rfl
  | cons e l ih => exact congrArg (e.1 :: ·) (ih _)

theorem mem_of_mem_due (h : (i, t) ∈ due base l) : i ∈ l.map Prod.fst :=
  map_fst_due base ▸ List.mem_map_of_mem h

theorem le_of_mem_due {e : ι × Nat} (h : e ∈ due base l) : base ≤ e.2 := by
  induction l generalizing base with
  | nil => cases h
  | cons first l ih =>
    obtain rfl | h := List.mem_cons.mp h
    · exact Nat.le_add_right base first.2
    · exact Nat.le_trans (Nat.le_add_right base first.2) (ih h)

theorem due_add (base k : Nat) : due (base + k) l = (due base l).map fun e => (e.1, e.2 + k) := by
  induction l generalizing base with
  | nil => rfl
  | cons e l ih =>
    have hbase : base + k + e.2 = base + e.2 + k := Nat.add_right_comm base k e.2
    show (e.1, base + k + e.2) :: due (base + k + e.2) l = _
    rw [hbase, ih]
    rfl

theorem due_insert :
    due base (insert i time l) =
      (due base l).orderedInsert (fun e e' => e.2 ≤ e'.2) (i, base + time) := by
  induction l generalizing base time with
  | nil => rfl
  | cons e l ih =>
    obtain ⟨j, t⟩ := e
    by_cases hlt : t < time
    · have hbase : base + t + (time - t) = base + time := by omega
      have hle : ¬ base + time ≤ base + t := by omega
      simp only [insert, if_pos hlt, due, ih, hbase, List.orderedInsert_cons, if_neg hle]
    · have hbase : base + time + (t - time) = base + t := by omega
      have hle : base + time ≤ base + t := by omega
      simp only [insert, if_neg hlt, due, hbase, List.orderedInsert_cons, if_pos hle]

theorem mem_due_insert {e : ι × Nat} :
    e ∈ due base (insert i time l) ↔ e = (i, base + time) ∨ e ∈ due base l := by
  rw [due_insert, List.mem_orderedInsert]

theorem map_fst_insert : ((insert i time l).map Prod.fst).Perm (i :: l.map Prod.fst) := by
  rw [← map_fst_due 0, due_insert, ← map_fst_due 0 (l := l)]
  exact (List.perm_orderedInsert _ _ _).map Prod.fst

end TurningPoint.Lib.Delta
