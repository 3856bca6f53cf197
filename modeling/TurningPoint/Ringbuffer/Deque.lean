import TurningPoint.Lib.Queue
import TurningPoint.Lib.Run
import TurningPoint.Sfp.History

universe u

namespace TurningPoint

open Lib (Along DequeOp)

variable {α : Type u} {C : Nat}

def potRingbufferApply (C : Nat) (p : PotRingbuffer α) : DequeOp α → PotRingbuffer α
  | .pushBack elem => potRingbufferPushBack C p elem
  | .pushFront elem => potRingbufferPushFront C p elem
  | .popFront => potRingbufferPopFront C p
  | .popBack => potRingbufferPopBack C p

/-- The loop of `sfpClearHistory` on a buffer of any capacity, if it ends within `n` tests. -/
def sfpClearHistoryWithin (C : Nat) : Nat → PotRingbuffer α → Option (PotRingbuffer α) :=
  Lib.whileLoop (fun p => !potRingbufferEmpty p) (potRingbufferPopFront C)

theorem sfpClearHistoryLoop_eq_of_within {n : Nat} {history history' : PotRingbuffer SFPpacket}
    (h : sfpClearHistoryWithin sfpConfigHistoryCapacity n history = some history') :
    sfpClearHistoryLoop n history = history' := by
  induction n generalizing history with
  | zero => cases h
  | succ n ih =>
    rw [sfpClearHistoryWithin, Lib.whileLoop] at h
    rw [sfpClearHistoryLoop]
    split at h
    next hfull => exact (if_neg (by simpa using hfull)).trans (ih h)
    next hempty => exact (if_pos (by simpa using hempty)).trans (Option.some.inj h)

structure PotRingbuffer.Shows (C : Nat) (p : PotRingbuffer α) (L : List α) : Prop where
  begin_lt : p.mBegin < 2 * C
  end_lt : p.mEnd < 2 * C
  size_eq : potRingbufferSize C p = L.length
  size_le : L.length ≤ C
  empty_iff : potRingbufferEmpty p = true ↔ L = []
  full_iff : potRingbufferFull C p = true ↔ L.length = C
  at_eq : ∀ i (h : i < L.length), potRingbufferAt C p i = L[i]
  reverseAt_eq : ∀ i (_ : 1 ≤ i) (_ : i ≤ L.length),
    potRingbufferReverseAt C p i = L[L.length - i]
  front_eq : ∀ h : L ≠ [], potRingbufferFront C p = L.head h
  back_eq : ∀ h : L ≠ [], potRingbufferBack C p = L.getLast h
  clearHistory : ∃ p', sfpClearHistoryWithin C (L.length + 1) p = some p' ∧
    potRingbufferEmpty p' = true

namespace RingCapacity

theorem decr_eq (hC : RingCapacity C) (x : Nat) :
    potRingbufferDecr C x = (x + (2 * C - 1)) % (2 * C) := by
  have hpos := hC.pos
  have hone : 1 ≤ 2 * C := by omega
  have hsize : 1 ≤ 2 ^ 32 := Nat.one_le_two_pow
  have hback := sub_mod_of_dvd (x := x) hC.dvd_size hsize hone
  rwa [Nat.add_sub_assoc hsize, Nat.add_sub_assoc hone, ← hC.add_eq] at hback

end RingCapacity

namespace PotRingbuffer.Holds

variable {p : PotRingbuffer α} {L : List α}

theorem end_lt (hC : RingCapacity C) (h : Holds C p L) : p.mEnd < 2 * C := by
  have hpos := hC.pos
  rw [h.end_eq]
  exact Nat.mod_lt _ (by omega)

theorem popBack (hC : RingCapacity C) (h : Holds C p L) (hne : L ≠ []) :
    Holds C (potRingbufferPopBack C p) L.dropLast := by
  have hpos := hC.pos
  have hlen : 0 < L.length := List.length_pos_of_ne_nil hne
  have hle := h.length_le
  unfold potRingbufferPopBack
  constructor
  · simpa only using h.begin_lt
  · rw [List.length_dropLast]
    omega
  · simp only
    rw [List.length_dropLast, hC.decr_eq, h.end_eq, Nat.mod_add_mod,
      show p.mBegin + L.length + (2 * C - 1) = p.mBegin + (L.length - 1) + 2 * C by omega,
      Nat.add_mod_right]
  · intro i hi
    rw [List.length_dropLast] at hi
    rw [List.getElem_dropLast]
    simpa only using h.contents i (by omega)

theorem prepend (hC : RingCapacity C) (h : Holds C p L) (hfree : L.length < C) (x : α) :
    Holds C (potRingbufferStore C { p with mBegin := potRingbufferDecr C p.mBegin }
      ((potRingbufferDecr C p.mBegin + 0) % 2 ^ 32) x) (x :: L) := by
  have hpos := hC.pos
  have hslot : potRingbufferWrappedIndex C ((potRingbufferDecr C p.mBegin + 0) % 2 ^ 32) =
      (p.mBegin + (2 * C - 1)) % C := by
    rw [hC.wrappedIndex_eq, Nat.mod_mod_of_dvd _ (dvd_trans (dvd_mul_left C 2) hC.dvd_size),
      hC.decr_eq, slot_wrap, Nat.add_zero]
  have hnext : ∀ i, (potRingbufferDecr C p.mBegin + (i + 1)) % C = (p.mBegin + i) % C := by
    intro i
    rw [hC.decr_eq, slot_wrap,
      show p.mBegin + (2 * C - 1) + (i + 1) = p.mBegin + i + C * 2 by omega,
      Nat.add_mul_mod_self_left]
  constructor
  · simp only [potRingbufferStore, hC.decr_eq]
    exact Nat.mod_lt _ (by omega)
  · exact hfree
  · simp only [potRingbufferStore, hC.decr_eq, List.length_cons, Nat.mod_add_mod]
    rw [h.end_eq, show p.mBegin + (2 * C - 1) + (L.length + 1) = p.mBegin + L.length + 2 * C by
      omega, Nat.add_mod_right]
  · intro i hi
    simp only [potRingbufferStore, hslot]
    cases i with
    | zero => rw [hC.decr_eq, slot_wrap, Nat.add_zero, Function.update_self, List.getElem_cons_zero]
    | succ i =>
      rw [List.length_cons] at hi
      have hdiff : (p.mBegin + i) % C ≠ (p.mBegin + (2 * C - 1)) % C := by
        rw [show p.mBegin + (2 * C - 1) = p.mBegin + (C - 1) + C by omega, Nat.add_mod_right]
        exact slot_ne (by omega) (by omega)
      rw [hnext, Function.update_of_ne hdiff, List.getElem_cons_succ, h.contents i (by omega)]

theorem pushFront (hC : RingCapacity C) (h : Holds C p L) (x : α) :
    Holds C (potRingbufferPushFront C p x) (x :: if L.length = C then L.dropLast else L) := by
  unfold potRingbufferPushFront
  by_cases hfull : L.length = C
  · have hpos := hC.pos
    have hne : L ≠ [] := List.ne_nil_of_length_pos (by omega)
    have hpop := h.popBack hC hne
    have hfree : L.dropLast.length < C := by
      rw [List.length_dropLast]
      omega
    unfold potRingbufferPopBack at hpop
    simp only [(h.full_iff hC).mpr hfull, hfull, if_true]
    simpa only using hpop.prepend hC hfree x
  · have hnot : potRingbufferFull C p = false :=
      Bool.eq_false_iff.mpr (mt (h.full_iff hC).mp hfull)
    simp only [hnot, hfull, if_false, Bool.false_eq_true]
    exact h.prepend hC (lt_of_le_of_ne h.length_le hfull) x

theorem apply (hC : RingCapacity C) (h : Holds C p L) (op : DequeOp α) (hop : op.Allowed L) :
    Holds C (potRingbufferApply C p op) (op.apply C L) := by
  cases op with
  | pushBack elem => exact h.pushBack hC elem
  | pushFront elem => exact h.pushFront hC elem
  | popFront => exact h.popFront hC hop
  | popBack => exact h.popBack hC hop

theorem reverseAt_eq (hC : RingCapacity C) (h : Holds C p L) {i : Nat} (hi : 1 ≤ i)
    (hle : i ≤ L.length) : potRingbufferReverseAt C p i = L[L.length - i] := by
  have hpos := hC.pos
  have hlen := h.length_le
  have hdvd : C ∣ 2 ^ 32 := dvd_trans (dvd_mul_left C 2) hC.dvd_size
  have hsize : 1 ≤ 2 ^ 32 := Nat.one_le_two_pow
  have hback := sub_mod_of_dvd (x := p.mEnd) hdvd hsize (hle.trans hlen)
  rw [potRingbufferReverseAt, potRingbufferWrappedAccess, hC.wrappedIndex_eq,
    Nat.mod_mod_of_dvd _ hdvd, hback,
    Nat.add_sub_assoc (hle.trans hlen), h.end_eq, slot_wrap, h.contents _ (by omega),
    show p.mBegin + L.length + (C - i) = p.mBegin + (L.length - i) + C by omega, Nat.add_mod_right]

theorem clearHistoryWithin (hC : RingCapacity C) (h : Holds C p L) : ∃ p',
    sfpClearHistoryWithin C (L.length + 1) p = some p' ∧ potRingbufferEmpty p' = true := by
  induction L generalizing p with
  | nil =>
    have hempty := (h.empty_iff hC).mpr rfl
    exact ⟨p, if_neg (by simpa using hempty), hempty⟩
  | cons x L ih =>
    have hempty : ¬potRingbufferEmpty p = true := fun e => nomatch (h.empty_iff hC).mp e
    obtain ⟨p', hp', hempty'⟩ := ih (h.popFront hC (List.cons_ne_nil x L))
    exact ⟨p', (if_pos (by simpa using hempty)).trans hp', hempty'⟩

theorem shows (hC : RingCapacity C) (h : Holds C p L) : p.Shows C L where
  begin_lt := h.begin_lt
  end_lt := h.end_lt hC
  size_eq := h.size_eq hC
  size_le := h.length_le
  empty_iff := h.empty_iff hC
  full_iff := h.full_iff hC
  at_eq _ hi := h.at_eq hC hi
  reverseAt_eq _ hi hle := h.reverseAt_eq hC hi hle
  front_eq hne := (h.at_eq hC (List.length_pos_of_ne_nil hne)).trans (List.head_eq_getElem hne).symm
  back_eq hne := (h.reverseAt_eq hC le_rfl (List.length_pos_of_ne_nil hne)).trans
    (List.getLast_eq_getElem hne).symm
  clearHistory := h.clearHistoryWithin hC

end PotRingbuffer.Holds

/-- Whatever is done at either end, the buffer shows the bounded deque. -/
theorem PotRingbuffer.refines_deque (hC : RingCapacity C) (p : PotRingbuffer α)
    (ops : List (DequeOp α)) (hops : Along (fun L op => op.Allowed L) (DequeOp.apply C) [] ops) :
    (ops.foldl (potRingbufferApply C) (potRingbufferInit p)).Shows C
      (ops.foldl (DequeOp.apply C) []) :=
  (hops.simulates (Holds C) (fun _ _ op h hop => h.apply hC op hop) (Holds.init hC p)).shows hC

theorem PotRingbuffer.refines_deque_four :
    ([.pushFront 1, .pushBack 2, .pushFront 3, .popBack, .pushBack 4, .pushBack 5, .pushBack 6,
      .popFront].foldl (potRingbufferApply 4) (potRingbufferInit ⟨7, 7, fun _ => 0⟩)).Shows 4
      [4, 5, 6] :=
  PotRingbuffer.refines_deque ⟨2, by decide, rfl⟩ ⟨7, 7, fun _ => 0⟩ _
    (by simp [Along, DequeOp.Allowed, DequeOp.apply])

end TurningPoint
