import TurningPoint.Ringbuffer.Laws
import TurningPoint.Sfp.Transmit

namespace TurningPoint

theorem and_seqMask_lt (x : UInt8) : x &&& 63 < 64 := by
  rw [UInt8.lt_iff_toNat_lt, UInt8.toNat_and]
  exact Nat.and_lt_two_pow (n := 6) _ (by decide)

theorem getFrameType_frameHeader {seq : UInt8} (h : seq < 64) (type : SFPframetype) :
    getFrameType (frameHeader seq type) = type := by
  have hall : ∀ n : Fin 64, ∀ type ∈ [SFPframetype.usr, .rtx, .nak, .syn],
      getFrameType (frameHeader (UInt8.ofNat n) type) = type := by decide
  have hseq := hall ⟨seq.toNat, h⟩ type (by cases type <;> decide)
  rwa [UInt8.ofNat_toNat] at hseq

theorem getFrameSeq_frameHeader {seq : UInt8} (h : seq < 64) (type : SFPframetype) :
    getFrameSeq (frameHeader seq type) = seq := by
  have hall : ∀ n : Fin 64, ∀ type ∈ [SFPframetype.usr, .rtx, .nak, .syn],
      getFrameSeq (frameHeader (UInt8.ofNat n) type) = UInt8.ofNat n := by decide
  have hseq := hall ⟨seq.toNat, h⟩ type (by cases type <;> decide)
  rwa [UInt8.ofNat_toNat] at hseq

theorem getFrameType_control (seq : UInt8) {type : SFPframetype} (h : type = .nak ∨ type = .syn) :
    getFrameType (frameHeader seq type) = .nak ∨ getFrameType (frameHeader seq type) = .syn := by
  have hall : ∀ n : Fin 256, ∀ type ∈ [SFPframetype.nak, .syn],
      getFrameType (frameHeader (UInt8.ofNat n) type) = .nak ∨
        getFrameType (frameHeader (UInt8.ofNat n) type) = .syn := by decide +kernel
  have hseq := hall ⟨seq.toNat, seq.toNat_lt⟩ type (by simpa using h)
  rwa [UInt8.ofNat_toNat] at hseq

theorem nextSeq_toNat (seq : UInt8) : (nextSeq seq).toNat = (seq.toNat + 1) % 64 := by
  rw [nextSeq, UInt8.toNat_and, UInt8.toNat_add]
  have hand := Nat.and_two_pow_sub_one_eq_mod ((seq.toNat + 1) % 256) 6
  exact hand.trans (by omega)

theorem nextSeq_iterate_toNat {seq : UInt8} (h : seq < 64) (n : Nat) :
    (nextSeq^[n] seq).toNat = (seq.toNat + n) % 64 := by
  induction n with
  | zero => exact (Nat.mod_eq_of_lt h).symm
  | succ n ih =>
    rw [Function.iterate_succ_apply', nextSeq_toNat, ih]
    omega

theorem sfpFastforward_spec (seq txSeq : UInt8) (size : Nat) :
    (txSeq.toNat + sfpFastforward seq txSeq size) % 64 = (seq.toNat + size) % 64 := by
  have hand : ∀ n : Nat, n &&& 63 = n % 64 := fun n => Nat.and_two_pow_sub_one_eq_mod n 6
  have hseq := seq.toNat_lt
  have htx := txSeq.toNat_lt
  simp only [sfpFastforward, UInt32.toNat_and, UInt32.toNat_sub, UInt8.toNat_toUInt32,
    UInt32.toNat_ofNat', UInt32.reduceToNat, hand]
  omega

theorem nextSeq_iterate_resent {seq txSeq : UInt8} {size : Nat} (hseq : seq < 64) (htx : txSeq < 64)
    (hwindow : sfpFastforward seq txSeq size < size) :
    nextSeq^[size - sfpFastforward seq txSeq size] seq = txSeq := by
  have hspec := sfpFastforward_spec seq txSeq size
  have hlt : txSeq.toNat < 64 := htx
  rw [← UInt8.toNat_inj, nextSeq_iterate_toNat hseq]
  omega

theorem historyCapacity : RingCapacity sfpConfigHistoryCapacity := ⟨3, by decide, rfl⟩

theorem PotRingbuffer.Holds.popHistory {history : PotRingbuffer SFPpacket}
    {packets : List SFPpacket} (h : history.Holds sfpConfigHistoryCapacity packets) {n : Nat}
    (hn : n ≤ packets.length) :
    (sfpPopHistory n history).Holds sfpConfigHistoryCapacity (packets.drop n) := by
  induction n generalizing history packets with
  | zero => exact h
  | succ n ih =>
    have hne : packets ≠ [] := List.ne_nil_of_length_pos (by omega)
    have hpop := ih (h.popFront historyCapacity hne) (by simp; omega)
    rwa [List.drop_tail] at hpop

theorem PotRingbuffer.Holds.clearHistory {history : PotRingbuffer SFPpacket}
    {packets : List SFPpacket} (h : history.Holds sfpConfigHistoryCapacity packets) {fuel : Nat}
    (hfuel : packets.length ≤ fuel) :
    (sfpClearHistoryLoop fuel history).Holds sfpConfigHistoryCapacity [] := by
  induction fuel generalizing history packets with
  | zero => rwa [List.eq_nil_of_length_eq_zero (Nat.le_zero.mp hfuel)] at h
  | succ fuel ih =>
    rw [sfpClearHistoryLoop]
    split
    next hempty => rwa [(h.empty_iff historyCapacity).mp hempty] at h
    next hempty =>
      have hne : packets ≠ [] := fun e => hempty ((h.empty_iff historyCapacity).mpr e)
      exact ih (h.popFront historyCapacity hne) (by simp; omega)

structure SFPtransmitter.Sound (tx : SFPtransmitter) : Prop where
  seq_lt : tx.seq < 64
  holds : ∃ packets, tx.history.Holds sfpConfigHistoryCapacity packets

namespace SFPtransmitter.Sound

variable {tx : SFPtransmitter}

theorem buffer (h : tx.Sound) (crc : UInt16) (writebuf : List UInt8) :
    Sound { tx with crc := crc, writebuf := writebuf } :=
  ⟨h.seq_lt, h.holds⟩

theorem number (h : tx.Sound) {seq : UInt8} (hseq : seq < 64) : Sound { tx with seq := seq } :=
  ⟨hseq, h.holds⟩

theorem pushBack (h : tx.Sound) (packet : SFPpacket) : Sound { tx with
    history := potRingbufferPushBack sfpConfigHistoryCapacity tx.history packet } := by
  obtain ⟨packets, hholds⟩ := h.holds
  exact ⟨h.seq_lt, _, hholds.pushBack historyCapacity packet⟩

theorem popHistory (h : tx.Sound) {n : Nat}
    (hn : n ≤ potRingbufferSize sfpConfigHistoryCapacity tx.history) :
    Sound { tx with history := sfpPopHistory n tx.history } ∧
      potRingbufferSize sfpConfigHistoryCapacity (sfpPopHistory n tx.history) =
        potRingbufferSize sfpConfigHistoryCapacity tx.history - n := by
  obtain ⟨packets, hholds⟩ := h.holds
  rw [hholds.size_eq historyCapacity] at hn ⊢
  have hpop := hholds.popHistory hn
  refine ⟨⟨h.seq_lt, _, hpop⟩, ?_⟩
  rw [hpop.size_eq historyCapacity, List.length_drop]

theorem clearHistory (h : tx.Sound) : Sound { tx with
    history := sfpClearHistoryLoop (2 * sfpConfigHistoryCapacity) tx.history } := by
  obtain ⟨packets, hholds⟩ := h.holds
  have hfuel : packets.length ≤ 2 * sfpConfigHistoryCapacity :=
    hholds.length_le.trans (by decide)
  exact ⟨h.seq_lt, _, hholds.clearHistory hfuel⟩

end SFPtransmitter.Sound

end TurningPoint
