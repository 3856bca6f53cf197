import TurningPoint.Sfp.FrameSpec
import TurningPoint.Sfp.Wire

universe u

namespace TurningPoint

def numberedFrom {α : Type u} (seq : UInt8) : List α → List (UInt8 × α)
  | [] => []
  | item :: items => (seq, item) :: numberedFrom (nextSeq seq) items

theorem length_numberedFrom {α : Type u} (seq : UInt8) (items : List α) :
    (numberedFrom seq items).length = items.length := by
  induction items generalizing seq with
  | nil => rfl
  | cons item items ih => exact congrArg Nat.succ (ih (nextSeq seq))

theorem drop_numberedFrom {α : Type u} (seq : UInt8) (items : List α) (n : Nat) :
    (numberedFrom seq items).drop n = numberedFrom (nextSeq^[n] seq) (items.drop n) := by
  induction n generalizing seq items with
  | zero => rfl
  | succ n ih =>
    cases items with
    | nil => rfl
    | cons item items => exact ih (nextSeq seq) items

def rtxFrames (frames : List (UInt8 × List UInt8)) : List UInt8 :=
  frames.flatMap fun (seq, octets) => wireFrame (frameHeader seq .rtx) octets

def seqBack (txSeq : UInt8) (n : Nat) : UInt8 := (txSeq - UInt8.ofNat n) &&& 63

theorem seqBack_lt (txSeq : UInt8) (n : Nat) : seqBack txSeq n < 64 := and_seqMask_lt _

theorem seqBack_toNat (txSeq : UInt8) {n : Nat} (h : n ≤ 64) :
    (seqBack txSeq n).toNat = (txSeq.toNat + 64 - n) % 64 := by
  have hand := Nat.and_two_pow_sub_one_eq_mod (txSeq - UInt8.ofNat n).toNat 6
  have hback : (seqBack txSeq n).toNat = (txSeq - UInt8.ofNat n).toNat % 64 := by
    rw [seqBack, UInt8.toNat_and]
    exact hand
  have htx := txSeq.toNat_lt
  rw [hback, UInt8.toNat_sub, UInt8.toNat_ofNat']
  omega

theorem nextSeq_seqBack (txSeq : UInt8) {n k : Nat} (hn : n ≤ 64) (hk : k ≤ n) :
    nextSeq^[k] (seqBack txSeq n) = seqBack txSeq (n - k) := by
  rw [← UInt8.toNat_inj, nextSeq_iterate_toNat (seqBack_lt _ _), seqBack_toNat txSeq hn,
    seqBack_toNat txSeq (by omega)]
  omega

theorem seqBack_zero {txSeq : UInt8} (h : txSeq < 64) : seqBack txSeq 0 = txSeq := by
  have hlt : txSeq.toNat < 64 := h
  rw [← UInt8.toNat_inj, seqBack_toNat txSeq (Nat.zero_le _)]
  omega

theorem seqBack_ne {txSeq : UInt8} {n : Nat} (hpos : 0 < n) (hn : n < 64) :
    seqBack txSeq n ≠ txSeq := by
  rw [ne_eq, ← UInt8.toNat_inj, seqBack_toNat txSeq hn.le]
  omega

theorem sfpFastforward_seqBack (txSeq : UInt8) {n j : Nat} (hn : n < 64) (hj : j ≤ n) :
    sfpFastforward (seqBack txSeq j) txSeq n = n - j := by
  have hspec := sfpFastforward_spec (seqBack txSeq j) txSeq n
  have hand := Nat.and_two_pow_sub_one_eq_mod
    ((seqBack txSeq j).toUInt32 - (txSeq.toUInt32 - UInt32.ofNat n)).toNat 6
  have hlt : sfpFastforward (seqBack txSeq j) txSeq n < 64 := by
    rw [sfpFastforward, UInt32.toNat_and]
    exact hand.trans_lt (Nat.mod_lt _ (by decide))
  rw [seqBack_toNat txSeq (by omega)] at hspec
  omega

variable {ω : Type u} {cb : Callbacks ω} {wire : ω → List UInt8} {ok : ω → Prop}

/-- From `s` to `s'` the packets have gone out as RTX frames, and nothing else has. -/
structure Resent (wire : ω → List UInt8) (ok : ω → Prop) (s : Sfp ω)
    (frames : List (UInt8 × List UInt8)) (s' : Sfp ω) : Prop where
  ok_before : ok s.user
  seq_eq : s'.tx.seq = nextSeq^[frames.length] s.tx.seq
  history_eq : s'.tx.history = s.tx.history
  rx_eq : s'.rx = s.rx
  connectState_eq : s'.connectState = s.connectState
  emitted_eq : s'.emitted wire = s.emitted wire ++ rtxFrames frames
  writebuf_eq : s'.tx.writebuf = if frames = [] then s.tx.writebuf else []

theorem Resent.none {s : Sfp ω} (hok : ok s.user) : Resent wire ok s [] s :=
  ⟨hok, rfl, rfl, rfl, rfl, (List.append_nil _).symm, rfl⟩

theorem Resent.append {s s' s'' : Sfp ω} {frames frames' : List (UInt8 × List UInt8)}
    (h : Resent wire ok s frames s') (h' : Resent wire ok s' frames' s'') :
    Resent wire ok s (frames ++ frames') s'' where
  ok_before := h.ok_before
  seq_eq := by
    rw [h'.seq_eq, h.seq_eq, ← Function.iterate_add_apply, List.length_append, Nat.add_comm]
  history_eq := h'.history_eq.trans h.history_eq
  rx_eq := h'.rx_eq.trans h.rx_eq
  connectState_eq := h'.connectState_eq.trans h.connectState_eq
  emitted_eq := by
    rw [h'.emitted_eq, h.emitted_eq, List.append_assoc, rtxFrames, rtxFrames, rtxFrames,
      List.flatMap_append]
  writebuf_eq := by
    rw [h'.writebuf_eq, h.writebuf_eq]
    cases frames with
    | nil => rfl
    | cons frame frames => simp

namespace Callbacks.Passes

theorem transmitRTX (h : cb.Passes wire ok) (packet : SFPpacket) (s : Sfp ω)
    (hok : ok (sfpTransmitRTX cb packet s).user) :
    Resent wire ok s [(s.tx.seq, packet.octets)] (sfpTransmitRTX cb packet s) := by
  obtain ⟨hframe, hwritebuf⟩ := h.transmitFrameWithHeader (frameHeader s.tx.seq .rtx) (some packet) s hok
  have hseq := congrArg (fun c : SFPcontext => nextSeq c.tx.seq) hframe.context_eq
  have hhistory := congrArg (fun c : SFPcontext => c.tx.history) hframe.context_eq
  have hrx := congrArg SFPcontext.rx hframe.context_eq
  have hconnectState := congrArg SFPcontext.connectState hframe.context_eq
  refine ⟨hframe.ok_before, hseq, hhistory, hrx, hconnectState, ?_, hwritebuf⟩
  rw [rtxFrames, List.flatMap_singleton]
  exact hframe.emitted_eq

theorem transmitHistory_loop (h : cb.Passes wire ok) {packets : List SFPpacket} (n i : Nat)
    (s : Sfp ω) (hholds : s.tx.history.Holds sfpConfigHistoryCapacity packets)
    (hn : i + n = packets.length)
    (hok : ok ((List.range' i n).foldl (fun s i =>
      sfpTransmitRTX cb (potRingbufferAt sfpConfigHistoryCapacity s.tx.history i) s) s).user) :
    Resent wire ok s (numberedFrom s.tx.seq ((packets.drop i).map SFPpacket.octets))
      ((List.range' i n).foldl (fun s i =>
        sfpTransmitRTX cb (potRingbufferAt sfpConfigHistoryCapacity s.tx.history i) s) s) := by
  induction n generalizing i s with
  | zero =>
    rw [List.drop_of_length_le (show packets.length ≤ i by omega)]
    exact .none hok
  | succ n ih =>
    have hi : i < packets.length := by omega
    rw [List.range'_succ, List.foldl_cons, hholds.at_eq historyCapacity hi] at hok ⊢
    have hfirst : ok (sfpTransmitRTX cb packets[i] s).user := by_contra fun hbad =>
      List.foldlRecOn (motive := fun s : Sfp ω => ¬ ok s.user) _ _ hbad
        (fun _ hbad _ _ => h.transmits_not.sfpTransmitFrameImpl_keeps _ _ hbad) hok
    have hone := h.transmitRTX packets[i] s hfirst
    have hrest := ih (i + 1) _ (hone.history_eq ▸ hholds) (by omega) hok
    have hseq : (sfpTransmitRTX cb packets[i] s).tx.seq = nextSeq s.tx.seq := hone.seq_eq
    rw [hseq] at hrest
    rw [List.drop_eq_getElem_cons hi]
    exact hone.append hrest

theorem transmitHistory (h : cb.Passes wire ok) {packets : List SFPpacket} (s : Sfp ω)
    (hholds : s.tx.history.Holds sfpConfigHistoryCapacity packets)
    (hok : ok (sfpTransmitHistory cb s).user) :
    Resent wire ok s (numberedFrom s.tx.seq (packets.map SFPpacket.octets))
      (sfpTransmitHistory cb s) := by
  unfold sfpTransmitHistory at hok ⊢
  dsimp only at hok ⊢
  rw [hholds.size_eq historyCapacity, List.range_eq_range'] at hok ⊢
  exact h.transmitHistory_loop packets.length 0 s hholds (Nat.zero_add _) hok

/-- Asked for a number in its window, the transmitter lets the packets before it go and sends the
others again under the numbers they had, which takes it back to the number that was next. -/
theorem transmitHistoryFromSeq_window (h : cb.Passes wire ok) {packets : List SFPpacket} (s : Sfp ω)
    (hholds : s.tx.history.Holds sfpConfigHistoryCapacity packets) (hseq : s.tx.seq < 64) {j : Nat}
    (hpos : 1 ≤ j) (hj : j ≤ packets.length)
    (hok : ok (sfpTransmitHistoryFromSeq cb (seqBack s.tx.seq j) s).user) :
    ∃ history,
      history.Holds sfpConfigHistoryCapacity (packets.drop (packets.length - j)) ∧
      Resent wire ok { s with tx.history := history, tx.seq := seqBack s.tx.seq j }
        ((numberedFrom (seqBack s.tx.seq packets.length) (packets.map SFPpacket.octets)).drop
          (packets.length - j))
        (sfpTransmitHistoryFromSeq cb (seqBack s.tx.seq j) s) ∧
      (sfpTransmitHistoryFromSeq cb (seqBack s.tx.seq j) s).tx.seq = s.tx.seq := by
  have hcapacity : packets.length ≤ 8 := hholds.length_le
  have hfastforward : sfpFastforward (seqBack s.tx.seq j) s.tx.seq
      (potRingbufferSize sfpConfigHistoryCapacity s.tx.history) = packets.length - j := by
    rw [hholds.size_eq historyCapacity, sfpFastforward_seqBack _ (by omega) hj]
  have hwindow : potRingbufferSize sfpConfigHistoryCapacity s.tx.history > packets.length - j := by
    rw [hholds.size_eq historyCapacity]
    omega
  have hpop := hholds.popHistory (Nat.sub_le packets.length j)
  unfold sfpTransmitHistoryFromSeq at hok ⊢
  dsimp only at hok ⊢
  rw [hfastforward, if_pos hwindow] at hok ⊢
  have hresent := h.transmitHistory _ hpop hok
  refine ⟨_, hpop, ?_, ?_⟩
  · rw [drop_numberedFrom, nextSeq_seqBack _ (by omega) (Nat.sub_le _ _), Nat.sub_sub_self hj,
      ← List.map_drop]
    exact hresent
  · rw [hresent.seq_eq, length_numberedFrom, List.length_map, List.length_drop, Nat.sub_sub_self hj]
    exact (nextSeq_seqBack _ (by omega) (Nat.le_refl j)).trans
      ((congrArg _ (Nat.sub_self j)).trans (seqBack_zero hseq))

end Callbacks.Passes

theorem recorder_passes : recorder.Passes id (fun _ => True) :=
  ⟨fun _ _ _ => trivial, fun _ _ _ => rfl, fun _ _ _ => rfl⟩

/-- A NAK for one of the last packets, the `j`th from the end, has exactly these `j` sent again.  A
write callback that initialises the context anew, as the check in `serverWrite` does, is not covered.
-/
theorem nak_resends (hcb : cb.Passes wire ok) {s : Sfp ω} (hconnected : s.connectState = .connected)
    (hseq : s.tx.seq < 64) {packets : List SFPpacket}
    (hholds : s.tx.history.Holds sfpConfigHistoryCapacity packets) {j : Nat} (hpos : 1 ≤ j)
    (hj : j ≤ packets.length) {header : UInt8} {payload : List UInt8}
    (hevent : s.rx.events sfpFlag = [.frame header payload]) (htype : getFrameType header = .nak)
    (hnak : getFrameSeq header = seqBack s.tx.seq j) :
    let history := numberedFrom (seqBack s.tx.seq packets.length) (packets.map SFPpacket.octets)
    let resent := history.drop (packets.length - j)
    let s' := sfpDeliverOctet cb sfpFlag s
    ok s'.user →
    resent.length = j ∧
      wire s'.user = wire s.user ++ s.tx.writebuf ++ rtxFrames resent ∧
      s'.tx.seq = s.tx.seq ∧
      s'.tx.history.Holds sfpConfigHistoryCapacity (packets.drop (packets.length - j)) ∧
      s'.connectState = .connected ∧
      s'.rx.seq = s.rx.seq := by
  intro history resent s' hok
  obtain ⟨hverdict, hdeliver⟩ := sfpDeliverOctet_event cb hevent
  obtain ⟨hdispatch, hheader, -⟩ := sfpHandleFrame_frame cb hverdict
  have hcapacity : packets.length ≤ 8 := hholds.length_le
  have hne : seqBack s.tx.seq j ≠ s.tx.seq := seqBack_ne (by omega) (by omega)
  obtain ⟨rx, hrx, hresend⟩ : ∃ rx : SFPreceiver, rx.seq = s.rx.seq ∧
      s' = sfpResetReceiver
        (sfpTransmitHistoryFromSeq cb (seqBack s.tx.seq j) { s with rx := rx }) := by
    refine ⟨{ s.rx with packet.len := s.rx.packet.len - sfpCrcSize }, rfl,
      hdeliver.trans (congrArg sfpResetReceiver (hdispatch.trans ?_))⟩
    rw [← hheader] at htype hnak
    rw [sfpDispatchFrame, htype, sfpHandleNAK, hconnected]
    dsimp only
    rw [hnak, if_pos hne]
  rw [hresend] at hok ⊢
  obtain ⟨popped, hpopped, hframes, hback⟩ :=
    hcb.transmitHistoryFromSeq_window { s with rx := rx } hholds hseq hpos hj hok
  have hlength : resent.length = j := by
    rw [List.length_drop, length_numberedFrom, List.length_map, Nat.sub_sub_self hj]
  have hwritebuf : _ = [] :=
    hframes.writebuf_eq.trans (if_neg (List.ne_nil_of_length_pos (hlength.symm ▸ hpos)))
  refine ⟨hlength, ?_, hback, hframes.history_eq.symm ▸ hpopped,
    hframes.connectState_eq.trans hconnected, (congrArg SFPreceiver.seq hframes.rx_eq).trans hrx⟩
  have hemitted := hframes.emitted_eq
  rw [Sfp.emitted, hwritebuf, List.append_nil] at hemitted
  exact hemitted

theorem nak_resends_wrap :
    let packets : List SFPpacket := [⟨[1], 1⟩, ⟨[2], 1⟩, ⟨[3], 1⟩]
    let history : PotRingbuffer SFPpacket := ⟨0, 3, fun i => packets.getD i ⟨[], 0⟩⟩
    let s : Sfp (List UInt8) := { SFPcontext.zero with
      tx.seq := 1, tx.history := history, connectState := .connected,
      rx.frameState := .receiving, rx.crc := sfpCrcGood, rx.header := frameHeader 63 .nak,
      rx.packet.len := sfpCrcSize, user := [] }
    (sfpDeliverOctet recorder sfpFlag s).user = rtxFrames [(63, [2]), (0, [3])] := by
  intro packets history s
  have hholds : history.Holds sfpConfigHistoryCapacity packets := by
    refine ⟨by decide, by decide, rfl, fun i hi => ?_⟩
    match i with
    | 0 | 1 | 2 => rfl
  have hevent : s.rx.events sfpFlag = [.frame (frameHeader 63 .nak) []] := rfl
  have hframes : (numberedFrom (seqBack s.tx.seq packets.length)
      (packets.map SFPpacket.octets)).drop (packets.length - 2) = [(63, [2]), (0, [3])] := by
    decide
  obtain ⟨-, hwire, -⟩ := nak_resends recorder_passes (j := 2) rfl (by decide) hholds (by decide)
    (by decide) hevent (by decide) (by decide) trivial
  exact hwire.trans (congrArg rtxFrames hframes)

end TurningPoint
