import TurningPoint.Ringbuffer.Defs
import Mathlib.Tactic

universe u

namespace TurningPoint

variable {α : Type u} {C : Nat}

structure RingCapacity (C : Nat) : Prop where
  power : ∃ k, k < 32 ∧ C = 2 ^ k

namespace RingCapacity

theorem pos (hC : RingCapacity C) : 0 < C := by
  obtain ⟨k, -, rfl⟩ := hC.power
  positivity

theorem dvd_size (hC : RingCapacity C) : 2 * C ∣ 2 ^ 32 := by
  obtain ⟨k, hk, rfl⟩ := hC.power
  rw [← pow_succ']
  exact pow_dvd_pow 2 (by omega)

theorem add_eq (hC : RingCapacity C) (x amount : Nat) :
    potRingbufferAdd C x amount = (x + amount) % (2 * C) := by
  have hdvd := hC.dvd_size
  obtain ⟨k, hk, rfl⟩ := hC.power
  rw [← pow_succ'] at hdvd ⊢
  rw [potRingbufferAdd, ← pow_succ', Nat.and_two_pow_sub_one_eq_mod, Nat.mod_mod_of_dvd _ hdvd]

theorem incr_eq (hC : RingCapacity C) (x : Nat) : potRingbufferIncr C x = (x + 1) % (2 * C) :=
  hC.add_eq x 1

theorem wrappedIndex_eq (hC : RingCapacity C) (x : Nat) :
    potRingbufferWrappedIndex C x = x % C := by
  obtain ⟨k, hk, rfl⟩ := hC.power
  rw [potRingbufferWrappedIndex, Nat.and_two_pow_sub_one_eq_mod]

theorem xor_eq (hC : RingCapacity C) {x : Nat} (hx : x < 2 * C) : x ^^^ C = (x + C) % (2 * C) := by
  obtain ⟨k, hk, rfl⟩ := hC.power
  have hdiv : (x ^^^ 2 ^ k) / 2 ^ k = x / 2 ^ k ^^^ 1 := by
    rw [Nat.xor_div_two_pow, Nat.div_self (by positivity)]
  have hmod : (x ^^^ 2 ^ k) % 2 ^ k = x % 2 ^ k := by
    rw [Nat.xor_mod_two_pow, Nat.mod_self, Nat.xor_zero]
  have hsplit := Nat.div_add_mod (x ^^^ 2 ^ k) (2 ^ k)
  rw [hdiv, hmod] at hsplit
  by_cases h : x < 2 ^ k
  · rw [Nat.div_eq_of_lt h, Nat.mod_eq_of_lt h] at hsplit
    rw [Nat.mod_eq_of_lt (by omega), ← hsplit]
    simp [Nat.add_comm]
  · have hone : x / 2 ^ k = 1 := Nat.div_eq_of_lt_le (by omega) (by omega)
    rw [hone, Nat.mod_eq_sub_mod (by omega), Nat.mod_eq_of_lt (by omega)] at hsplit
    rw [Nat.mod_eq_sub_mod (by omega), Nat.mod_eq_of_lt (by omega), ← hsplit]
    simp
    omega

end RingCapacity

theorem mod_eq_ite {x M : Nat} (h : x < 2 * M) : x % M = if x < M then x else x - M := by
  split
  next hlt => exact Nat.mod_eq_of_lt hlt
  next hge => rw [Nat.mod_eq_sub_mod (by omega), Nat.mod_eq_of_lt (by omega)]

theorem sub_mod_of_dvd {x i M N : Nat} (hdvd : M ∣ N) (hN : 0 < N) (hi : i ≤ M) :
    (x + N - i) % M = (x + M - i) % M := by
  obtain ⟨_ | m, rfl⟩ := hdvd
  · simp at hN
  · rw [show x + M * (m + 1) - i = x + M - i + M * m by rw [Nat.mul_succ]; omega,
      Nat.add_mul_mod_self_left]

/-- The list that a ring buffer stands for, with the bounds that its indices keep. -/
structure PotRingbuffer.Holds (C : Nat) (p : PotRingbuffer α) (L : List α) : Prop where
  begin_lt : p.mBegin < 2 * C
  length_le : L.length ≤ C
  end_eq : p.mEnd = (p.mBegin + L.length) % (2 * C)
  contents : ∀ i (h : i < L.length), L[i] = p.mData ((p.mBegin + i) % C)

namespace PotRingbuffer.Holds

variable {p : PotRingbuffer α} {L : List α}

theorem init (hC : RingCapacity C) (p : PotRingbuffer α) : Holds C (potRingbufferInit p) [] where
  begin_lt := by simpa [potRingbufferInit] using hC.pos
  length_le := Nat.zero_le C
  end_eq := by simp [potRingbufferInit]
  contents := by simp

theorem full_iff (hC : RingCapacity C) (h : Holds C p L) :
    potRingbufferFull C p = true ↔ L.length = C := by
  have hpos := hC.pos
  have hb := h.begin_lt
  have hl := h.length_le
  simp only [potRingbufferFull, beq_iff_eq]
  rw [hC.xor_eq hb, h.end_eq, mod_eq_ite (by omega), mod_eq_ite (by omega)]
  split <;> split <;> omega

theorem empty_iff (hC : RingCapacity C) (h : Holds C p L) :
    potRingbufferEmpty p = true ↔ L = [] := by
  have hpos := hC.pos
  have hb := h.begin_lt
  have hl := h.length_le
  simp only [potRingbufferEmpty, beq_iff_eq]
  rw [h.end_eq, mod_eq_ite (by omega), ← List.length_eq_zero_iff]
  split <;> omega

theorem size_eq (hC : RingCapacity C) (h : Holds C p L) : potRingbufferSize C p = L.length := by
  unfold potRingbufferSize
  split
  next hfull => exact ((h.full_iff hC).mp hfull).symm
  next hfull =>
    have hne : L.length ≠ C := fun e => hfull ((h.full_iff hC).mpr e)
    have hl := h.length_le
    have hb := h.begin_lt
    have hdvd := hC.dvd_size
    have hsize : 1 ≤ 2 ^ 32 := Nat.one_le_two_pow
    have hback := sub_mod_of_dvd (x := p.mEnd) hdvd hsize hb.le
    change potRingbufferWrappedIndex C _ = _
    rw [hC.wrappedIndex_eq, Nat.mod_mod_of_dvd _ (dvd_trans (dvd_mul_left C 2) hdvd),
      ← Nat.mod_mod_of_dvd _ (dvd_mul_left C 2), hback, Nat.mod_mod_of_dvd _ (dvd_mul_left C 2),
      h.end_eq, mod_eq_ite (M := 2 * C) (by omega)]
    split
    · rw [show p.mBegin + L.length + 2 * C - p.mBegin = L.length + C * 2 by omega,
        Nat.add_mul_mod_self_left, Nat.mod_eq_of_lt (by omega)]
    · rw [show p.mBegin + L.length - 2 * C + 2 * C - p.mBegin = L.length by omega,
        Nat.mod_eq_of_lt (by omega)]

theorem at_eq (hC : RingCapacity C) (h : Holds C p L) {i : Nat} (hi : i < L.length) :
    potRingbufferAt C p i = L[i] := by
  have hdvd : C ∣ 2 ^ 32 := dvd_trans (dvd_mul_left C 2) hC.dvd_size
  rw [potRingbufferAt, potRingbufferWrappedAccess, hC.wrappedIndex_eq, Nat.mod_mod_of_dvd _ hdvd,
    h.contents i hi]

theorem slot_wrap (b i : Nat) : (b % (2 * C) + i) % C = (b + i) % C := by
  rw [Nat.add_mod, Nat.mod_mod_of_dvd _ (dvd_mul_left C 2), ← Nat.add_mod]

theorem popFront (hC : RingCapacity C) (h : Holds C p L) (hne : L ≠ []) :
    Holds C (potRingbufferPopFront C p) L.tail := by
  have hpos := hC.pos
  have hlen : 0 < L.length := List.length_pos_of_ne_nil hne
  constructor
  · simpa [potRingbufferPopFront, hC.incr_eq] using Nat.mod_lt _ (by omega)
  · simpa using by have := h.length_le; omega
  · simp only [potRingbufferPopFront, hC.incr_eq, h.end_eq, List.length_tail, Nat.mod_add_mod]
    congr 1
    omega
  · intro i hi
    rw [List.length_tail] at hi
    rw [List.getElem_tail, h.contents (i + 1) (by omega)]
    simp only [potRingbufferPopFront, hC.incr_eq]
    rw [slot_wrap]
    congr 2
    omega

theorem slot_ne {b i j : Nat} (hij : i < j) (hj : j < i + C) : (b + i) % C ≠ (b + j) % C := by
  intro heq
  have hdvd : C ∣ (b + j) - (b + i) := (Nat.modEq_iff_dvd' (by omega)).mp heq
  have := Nat.le_of_dvd (by omega) hdvd
  omega

theorem append (hC : RingCapacity C) (h : Holds C p L) (hfree : L.length < C) (x : α) :
    Holds C (potRingbufferStore C { p with mEnd := potRingbufferIncr C p.mEnd }
      ((potRingbufferIncr C p.mEnd + 2 ^ 32 - 1) % 2 ^ 32) x) (L ++ [x]) := by
  have hpos := hC.pos
  have hslot : potRingbufferWrappedIndex C ((potRingbufferIncr C p.mEnd + 2 ^ 32 - 1) % 2 ^ 32) =
      (p.mBegin + L.length) % C := by
    have hdvd : C ∣ 2 ^ 32 := dvd_trans (dvd_mul_left C 2) hC.dvd_size
    have hsize : 1 ≤ 2 ^ 32 := Nat.one_le_two_pow
    have hback := sub_mod_of_dvd (x := potRingbufferIncr C p.mEnd) hdvd hsize hpos
    rw [hC.wrappedIndex_eq, Nat.mod_mod_of_dvd _ hdvd, hback, Nat.add_sub_assoc hpos, hC.incr_eq,
      slot_wrap, show p.mEnd + 1 + (C - 1) = p.mEnd + C by omega, Nat.add_mod_right, h.end_eq,
      Nat.mod_mod_of_dvd _ (dvd_mul_left C 2)]
  constructor
  · exact h.begin_lt
  · simpa using hfree
  · simp only [potRingbufferStore, hC.incr_eq, h.end_eq, List.length_append, List.length_singleton,
      Nat.mod_add_mod, Nat.add_assoc]
  · intro i hi
    simp only [potRingbufferStore, hslot]
    rw [List.length_append, List.length_singleton] at hi
    by_cases hlast : i < L.length
    · rw [List.getElem_append_left hlast, h.contents i hlast,
        Function.update_of_ne (slot_ne hlast (by omega))]
    · obtain rfl : i = L.length := by omega
      rw [List.getElem_concat_length rfl, Function.update_self]

theorem pushBack (hC : RingCapacity C) (h : Holds C p L) (x : α) :
    Holds C (potRingbufferPushBack C p x) ((if L.length = C then L.tail else L) ++ [x]) := by
  unfold potRingbufferPushBack
  by_cases hfull : L.length = C
  · have hne : L ≠ [] := by
      rintro rfl
      exact absurd hC.pos (by simp_all)
    have hpop := h.popFront hC hne
    simp only [(h.full_iff hC).mpr hfull, hfull, if_true]
    exact hpop.append hC (by simp [hfull, hC.pos]) x
  · have hnot : potRingbufferFull C p = false :=
      Bool.eq_false_iff.mpr (mt (h.full_iff hC).mp hfull)
    simp only [hnot, hfull, if_false, Bool.false_eq_true]
    exact h.append hC (lt_of_le_of_ne h.length_le hfull) x

end PotRingbuffer.Holds

end TurningPoint
