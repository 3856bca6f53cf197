import TurningPoint.Lib.Coding
import TurningPoint.Sfp.FrameSpec

universe u

namespace TurningPoint

def crcSpread (octet : UInt8) : UInt8 := octet ^^^ (octet <<< 4)

theorem crcSpread_injective {a b : UInt8} (h : crcSpread a = crcSpread b) : a = b := by
  have hinvolutive : ∀ octet, crcSpread (crcSpread octet) = octet := forall_octet (by decide)
  rw [← hinvolutive a, h, hinvolutive]

theorem crcFold_injective {a b : UInt8} (h : a ^^^ (a >>> 5) = b ^^^ (b >>> 5)) : a = b := by
  have hinvolutive : ∀ octet : UInt8,
      (octet ^^^ (octet >>> 5)) ^^^ ((octet ^^^ (octet >>> 5)) >>> 5) = octet :=
    forall_octet (by decide)
  rw [← hinvolutive a, h, hinvolutive]

theorem octets_ext {m n : UInt16} (hlow : m.toUInt8 = n.toUInt8)
    (hhigh : (m >>> 8).toUInt8 = (n >>> 8).toUInt8) : m = n := by
  have hm : m.toNat % 256 = n.toNat % 256 := by simpa using congrArg UInt8.toNat hlow
  have hm' : m.toNat / 256 % 256 = n.toNat / 256 % 256 := by
    simpa [Nat.shiftRight_eq_div_pow] using congrArg UInt8.toNat hhigh
  have := m.toNat_lt
  have := n.toNat_lt
  rw [← UInt16.toNat_inj]
  omega

theorem crcCcittUpdate_eq (crc : UInt16) (octet : UInt8) :
    crcCcittUpdate crc octet =
      ((crcSpread (octet ^^^ crc.toUInt8)).toUInt16 <<< 8 ||| (crc >>> 8).toUInt8.toUInt16) ^^^
        (crcSpread (octet ^^^ crc.toUInt8) >>> 4).toUInt16 ^^^
          (crcSpread (octet ^^^ crc.toUInt8)).toUInt16 <<< 3 := by
  unfold crcCcittUpdate crcSpread
  rw [low_octet, high_octet]

theorem lowOctet_update (crc : UInt16) (octet : UInt8) :
    (crcCcittUpdate crc octet).toUInt8 =
      (crc >>> 8).toUInt8 ^^^ ((crcSpread (octet ^^^ crc.toUInt8) >>> 4) ^^^
        (crcSpread (octet ^^^ crc.toUInt8) <<< 3)) := by
  have htop : ∀ o : UInt8, (o.toUInt16 <<< 8).toUInt8 = 0 := forall_octet (by decide)
  have hlow : ∀ o : UInt8, (o.toUInt16 <<< 3).toUInt8 = o <<< 3 := forall_octet (by decide)
  have hback : ∀ o : UInt8, o.toUInt16.toUInt8 = o := forall_octet (by decide)
  rw [crcCcittUpdate_eq, UInt16.toUInt8_xor, UInt16.toUInt8_xor, UInt16.toUInt8_or, htop, hlow,
    UInt8.zero_or, UInt8.xor_assoc]
  rw [hback, hback]

theorem highOctet_update (crc : UInt16) (octet : UInt8) :
    (crcCcittUpdate crc octet >>> 8).toUInt8 =
      crcSpread (octet ^^^ crc.toUInt8) ^^^ (crcSpread (octet ^^^ crc.toUInt8) >>> 5) := by
  have htop : ∀ o : UInt8, ((o.toUInt16 <<< 8) >>> 8).toUInt8 = o := forall_octet (by decide)
  have hzero : ∀ o : UInt8, (o.toUInt16 >>> 8).toUInt8 = 0 := forall_octet (by decide)
  have hlow : ∀ o : UInt8, ((o.toUInt16 <<< 3) >>> 8).toUInt8 = o >>> 5 := forall_octet (by decide)
  rw [crcCcittUpdate_eq, UInt16.shiftRight_xor, UInt16.shiftRight_xor, UInt16.shiftRight_or,
    UInt16.toUInt8_xor, UInt16.toUInt8_xor, UInt16.toUInt8_or, htop, hzero, hzero, hlow,
    UInt8.or_zero, UInt8.xor_zero]

/-- The step shows the high half of the CRC, and the octet combined with the low half. -/
theorem crcCcittUpdate_inj {crc crc' : UInt16} {octet octet' : UInt8}
    (h : crcCcittUpdate crc octet = crcCcittUpdate crc' octet') :
    octet ^^^ crc.toUInt8 = octet' ^^^ crc'.toUInt8 ∧
      (crc >>> 8).toUInt8 = (crc' >>> 8).toUInt8 := by
  have hhigh := congrArg (fun crc : UInt16 => (crc >>> 8).toUInt8) h
  have hlow := congrArg UInt16.toUInt8 h
  simp only [highOctet_update] at hhigh
  have hspread := crcFold_injective hhigh
  rw [lowOctet_update, lowOctet_update, hspread, UInt8.xor_left_inj] at hlow
  exact ⟨crcSpread_injective hspread, hlow⟩

theorem crc_detects : Lib.Detects crcCcittUpdate where
  state h := by
    obtain ⟨hlow, hhigh⟩ := crcCcittUpdate_inj h
    exact octets_ext ((UInt8.xor_right_inj _).mp hlow) hhigh
  pair {crc x y x' y'} h := by
    obtain ⟨hlow, hhigh⟩ := crcCcittUpdate_inj h
    rw [highOctet_update, highOctet_update] at hhigh
    obtain rfl : x = x' := (UInt8.xor_left_inj _).mp (crcSpread_injective (crcFold_injective hhigh))
    exact ⟨rfl, (UInt8.xor_left_inj _).mp hlow⟩

theorem frameSpec_of_not_good (seq : UInt8) {octets : List UInt8} (hbad : ¬ GoodFrame octets) :
    frameSpec seq octets = [] ∨ frameSpec seq octets = [.nak seq] := by
  cases octets with
  | nil => exact .inl rfl
  | cons header octets => exact .inr (if_neg hbad)

theorem not_goodFrame_lastFrame {octets : List UInt8} (hcrc : crcOf octets ≠ sfpCrcGood)
    (hlen : octets.length ≤ 1 + sfpConfigMaxPacketSize + sfpCrcSize) :
    ¬ GoodFrame (lastFrame octets) := by
  unfold sfpConfigMaxPacketSize sfpCrcSize at hlen
  by_cases hfits : octets.length ≤ 1 + sfpConfigMaxPacketSize
  · rw [lastFrame_of_le hfits]
    exact fun hgood => hcrc hgood.2.2
  · intro hgood
    have hthree := hgood.1
    rw [lastFrame, List.length_drop] at hthree
    unfold sfpConfigMaxPacketSize at hfits hthree
    omega

variable {ω : Type u} (cb : Callbacks ω)

/-- Two contents that differ within two neighbouring octets have different CRCs, so one of them at
most passes the test; and the end of a damaged frame sets off a NAK or nothing. -/
theorem burst_detected {a b : List UInt8} (hburst : Lib.Burst a b) (hne : a ≠ b) :
    crcOf a ≠ crcOf b ∧
    ¬ (crcOf a = sfpCrcGood ∧ crcOf b = sfpCrcGood) ∧
    (crcOf a = sfpCrcGood → a.length ≤ 1 + sfpConfigMaxPacketSize + sfpCrcSize →
      ∀ (s : Sfp ω) (octets : List UInt8), sfpFlag ∉ octets → unescape false octets = b →
        let opened := sfpDeliverOctet cb sfpFlag s
        let run := (octets ++ [sfpFlag]).foldl (observe cb) (opened, [])
        (∀ header payload, .frame header payload ∉ run.2) ∧
          ∃ rx : SFPreceiver, rx.seq = opened.rx.seq ∧
            (run.1 = sfpResetReceiver { opened with rx := rx } ∨
              run.1 = sfpResetReceiver (sfpTransmitNAK cb rx.seq { opened with rx := rx }))) := by
  have hcrc : crcOf a ≠ crcOf b := crc_detects.foldl_ne hburst hne sfpCrcPreset
  refine ⟨hcrc, fun h => hcrc (h.1.trans h.2.symm), ?_⟩
  intro hgood hlen s octets hflag hcontents opened run
  obtain ⟨before, hbefore⟩ := sfpDeliverOctet_flag_rx cb s
  have hbetween : opened.rx.Between := (congrArg SFPreceiver.reset hbefore).trans hbefore.symm
  obtain ⟨rx, hseq, -, hevents, hrun⟩ := observe_frame cb hbetween hflag
  have hbad : ¬ GoodFrame (lastFrame b) :=
    not_goodFrame_lastFrame (fun h => hcrc (hgood.trans h.symm)) (hburst.1 ▸ hlen)
  have hlast := frameSpec_of_not_good opened.rx.seq hbad
  rw [← hcontents, ← hevents, ← hseq] at hlast
  change (∀ header payload, .frame header payload ∉ run.2) ∧ _
  rw [show run = _ from hrun]
  obtain hnone | hnak := hlast
  · refine ⟨fun header payload hmem => ?_, rx, hseq, .inl ?_⟩
    · rw [hnone] at hmem
      cases hmem
    · exact sfpDeliverOctet_idle cb (s := { opened with rx := rx }) hnone
  · obtain ⟨hverdict, hdeliver⟩ := sfpDeliverOctet_event cb (s := { opened with rx := rx }) hnak
    obtain ⟨len, hframe⟩ := sfpHandleFrame_nak cb (s := { opened with rx := rx }) hverdict
    refine ⟨fun header payload hmem => ?_, { rx with packet.len := len }, hseq, .inr ?_⟩
    · rw [hnak, List.mem_singleton] at hmem
      cases hmem
    · exact hdeliver.trans (congrArg sfpResetReceiver hframe)

theorem burst_detected_syn0 :
    crcOf [0xc0, 0x74, 0x36] ≠ crcOf [0x40, 0x75, 0x36] ∧
      FrameEvent.frame 0x40 [] ∉ (([0x40, 0x75, 0x36] ++ [sfpFlag]).foldl (observe recorder)
        (sfpDeliverOctet recorder sfpFlag { SFPcontext.zero with user := [] }, [])).2 := by
  have hburst : Lib.Burst ([0xc0, 0x74, 0x36] : List UInt8) [0x40, 0x75, 0x36] := by
    refine ⟨rfl, 0, fun k hzero hone => ?_⟩
    match k with
    | k + 2 => rfl
  obtain ⟨hcrc, -, hrun⟩ := burst_detected recorder hburst (by decide)
  exact ⟨hcrc, (hrun (by decide) (by decide) _ _ (by decide) (by decide)).1 _ _⟩

end TurningPoint
