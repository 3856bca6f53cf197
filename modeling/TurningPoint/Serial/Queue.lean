import TurningPoint.Serial.Defs

namespace TurningPoint

namespace GenericQueue

structure HoldsIn (q : GenericQueue) (L : List UInt8) : Prop where
  ring : q.toRing.Holds L
  counter : q.counter = L.length

structure HoldsOut (q : GenericQueue) (L : List UInt8) : Prop where
  ring : q.toRing.Holds L
  counter : q.counter + L.length = q.size

variable {q : GenericQueue} {L : List UInt8}

theorem HoldsIn.init {size : Nat} (hsize : 0 < size) (buffer : Nat → UInt8) :
    (chIQInit buffer size).HoldsIn [] :=
  ⟨.empty hsize buffer, rfl⟩

theorem HoldsIn.isEmpty_iff (h : q.HoldsIn L) : chIQIsEmptyI q = true ↔ L = [] := by
  rw [chIQIsEmptyI, decide_eq_true_iff, h.counter, Nat.le_zero, List.length_eq_zero_iff]

theorem HoldsIn.isFull_iff (h : q.HoldsIn L) : chIQIsFullI q = true ↔ L.length = q.size := by
  have hsize := Nat.zero_lt_of_lt h.ring.rd_lt
  rw [chIQIsFullI, decide_eq_true_iff, h.ring.meet_iff, h.counter, ← List.length_eq_zero_iff]
  omega

theorem HoldsIn.put_full (h : q.HoldsIn L) (hfull : L.length = q.size) (b : UInt8) :
    chIQPutI b q = (false, q) :=
  if_pos (h.isFull_iff.mpr hfull)

theorem HoldsIn.put (h : q.HoldsIn L) (hne : L.length ≠ q.size) (b : UInt8) :
    ∃ q', chIQPutI b q = (true, q') ∧ q'.HoldsIn (L ++ [b]) ∧ q'.size = q.size := by
  refine ⟨_, if_neg (mt h.isFull_iff.mp hne), ⟨?_, ?_⟩, rfl⟩
  · exact h.ring.store (Nat.lt_of_le_of_ne h.ring.length_le hne) b
  · rw [List.length_append, List.length_singleton, ← h.counter]

theorem HoldsIn.get_nil (h : q.HoldsIn []) : chIQGetImmediate q = (none, q) :=
  if_pos (h.isEmpty_iff.mpr rfl)

theorem HoldsIn.get_cons {b : UInt8} (h : q.HoldsIn (b :: L)) :
    ∃ q', chIQGetImmediate q = (some b, q') ∧ q'.HoldsIn L ∧ q'.size = q.size := by
  obtain ⟨hb, hrest⟩ := h.ring.fetch
  refine ⟨{ q.fetch.2 with counter := q.counter - 1 }, ?_, ⟨hrest, ?_⟩, rfl⟩
  · rw [chIQGetImmediate, if_neg (mt h.isEmpty_iff.mp (List.cons_ne_nil b L)), ← hb]
    rfl
  · rw [h.counter, List.length_cons, Nat.add_sub_cancel]

theorem HoldsOut.init {size : Nat} (hsize : 0 < size) (buffer : Nat → UInt8) :
    (chOQInit buffer size).HoldsOut [] :=
  ⟨.empty hsize buffer, rfl⟩

theorem HoldsOut.isEmpty_iff (h : q.HoldsOut L) : chOQIsEmptyI q = true ↔ L = [] := by
  have hcounter := h.counter
  have hsize := Nat.zero_lt_of_lt h.ring.rd_lt
  rw [chOQIsEmptyI, decide_eq_true_iff, h.ring.meet_iff, ← List.length_eq_zero_iff]
  omega

theorem HoldsOut.isFull_iff (h : q.HoldsOut L) : chOQIsFullI q = true ↔ L.length = q.size := by
  have hcounter := h.counter
  rw [chOQIsFullI, decide_eq_true_iff]
  omega

theorem HoldsOut.getFull (h : q.HoldsOut L) : chOQGetFullI q = L.length :=
  Nat.sub_eq_of_eq_add' h.counter.symm

theorem HoldsOut.put_full (h : q.HoldsOut L) (hfull : L.length = q.size) (b : UInt8) :
    chOQPutImmediate b q = (false, q) :=
  if_pos (h.isFull_iff.mpr hfull)

theorem HoldsOut.put (h : q.HoldsOut L) (hne : L.length ≠ q.size) (b : UInt8) :
    ∃ q', chOQPutImmediate b q = (true, q') ∧ q'.HoldsOut (L ++ [b]) ∧ q'.size = q.size := by
  have hlt := Nat.lt_of_le_of_ne h.ring.length_le hne
  refine ⟨_, if_neg (mt h.isFull_iff.mp hne), ⟨h.ring.store hlt b, ?_⟩, rfl⟩
  have hcounter := h.counter
  have hsize : (q.store b).size = q.size := rfl
  simp only [List.length_append, List.length_singleton]
  omega

theorem HoldsOut.get_nil (h : q.HoldsOut []) : chOQGetI q = (none, q) :=
  if_pos (h.isEmpty_iff.mpr rfl)

theorem HoldsOut.get_cons {b : UInt8} (h : q.HoldsOut (b :: L)) :
    ∃ q', chOQGetI q = (some b, q') ∧ q'.HoldsOut L ∧ q'.size = q.size := by
  obtain ⟨hb, hrest⟩ := h.ring.fetch
  refine ⟨{ q.fetch.2 with counter := q.counter + 1 }, ?_, ⟨hrest, ?_⟩, rfl⟩
  · rw [chOQGetI, if_neg (mt h.isEmpty_iff.mp (List.cons_ne_nil b L)), ← hb]
    rfl
  · have hcounter := h.counter
    have hsize : q.fetch.2.size = q.size := rfl
    rw [List.length_cons] at hcounter
    simp only
    omega

end GenericQueue

end TurningPoint
