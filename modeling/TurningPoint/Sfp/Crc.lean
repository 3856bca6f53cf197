import TurningPoint.Sfp.Context

namespace TurningPoint

theorem forall_octet {p : UInt8 → Prop} (h : ∀ x : BitVec 8, p ⟨x⟩) (o : UInt8) : p o :=
  h o.toBitVec

def crcOf (octets : List UInt8) : UInt16 := octets.foldl crcCcittUpdate sfpCrcPreset

def crcOctets (crc : UInt16) : List UInt8 :=
  [(~~~crc &&& (0x00ff : UInt16)).toUInt8, ((~~~crc >>> 8) &&& (0x00ff : UInt16)).toUInt8]

theorem low_octet (n : UInt16) : (n &&& (0xff : UInt16)).toUInt8 = n.toUInt8 := by
  rw [← UInt8.toNat_inj]
  simpa using Nat.and_two_pow_sub_one_eq_mod (n.toNat % 256) 8

theorem high_octet (n : UInt16) : (n >>> 8) &&& (0xff : UInt16) = (n >>> 8).toUInt8.toUInt16 := by
  rw [← UInt16.toNat_inj]
  simpa using Nat.and_two_pow_sub_one_eq_mod _ 8

theorem not_high_octet (n : UInt16) : (~~~n >>> 8).toUInt8 = ~~~(n >>> 8).toUInt8 := by
  apply UInt8.toBitVec_inj.mp
  ext i hi
  simp
  omega

theorem crcOctets_eq (crc : UInt16) :
    crcOctets crc = [~~~crc.toUInt8, ~~~(crc >>> 8).toUInt8] := by
  rw [crcOctets, low_octet, low_octet, UInt16.toUInt8_not, not_high_octet]

theorem crcCcittUpdate_low (crc : UInt16) :
    crcCcittUpdate crc (~~~crc.toUInt8) = ((0x0f00 : UInt16) ||| (crc >>> 8).toUInt8.toUInt16) ^^^ 0x78 := by
  have hcancel : ~~~crc.toUInt8 ^^^ crc.toUInt8 = 0xff := by
    generalize crc.toUInt8 = o
    revert o
    exact forall_octet (by decide)
  have hspread : (0xff : UInt8) ^^^ ((0xff : UInt8) <<< 4) = 0x0f := by decide
  have htop : (0x0f : UInt8).toUInt16 <<< 8 = 0x0f00 := by decide
  have hmid : ((0x0f : UInt8) >>> 4).toUInt16 = 0 := by decide
  have hlow : (0x0f : UInt8).toUInt16 <<< 3 = 0x78 := by decide
  simp only [crcCcittUpdate, low_octet, high_octet, hcancel, hspread, htop, hmid, hlow,
    UInt16.xor_zero]

theorem crcCcittUpdate_high (o : UInt8) :
    crcCcittUpdate (((0x0f00 : UInt16) ||| o.toUInt16) ^^^ 0x78) (~~~o) = sfpCrcGood := by
  revert o
  exact forall_octet (by decide)

theorem crc_residue (crc : UInt16) : (crcOctets crc).foldl crcCcittUpdate crc = sfpCrcGood := by
  rw [crcOctets_eq, List.foldl_cons, List.foldl_cons, List.foldl_nil, crcCcittUpdate_low,
    crcCcittUpdate_high]

end TurningPoint
