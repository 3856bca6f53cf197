import TurningPoint.Ringbuffer.Defs

/-! The data of the serial framing protocol: `SFPcontext` and its parts, the header layout and the
CRC of `serial_framing_protocol.c`. -/

universe u

namespace TurningPoint

abbrev sfpConfigWritebufSize : Nat := 512
abbrev sfpConfigHistoryCapacity : Nat := 8
abbrev sfpConfigMaxPacketSize : Nat := 256

abbrev sfpEsc : UInt8 := 0x7d
abbrev sfpFlag : UInt8 := 0x7e
abbrev sfpEscFlipBit : UInt8 := 0x20

abbrev sfpCrcSize : Nat := 2
abbrev sfpCrcPreset : UInt16 := 0xffff
abbrev sfpCrcGood : UInt16 := 0xf0b8

abbrev sfpInitialSeq : UInt8 := 0
abbrev sfpSeqSyn0 : UInt8 := 0
abbrev sfpSeqSyn1 : UInt8 := 1
abbrev sfpSeqSyn2 : UInt8 := 2
abbrev sfpSeqSynDis : UInt8 := 3

inductive SFPframetype
  | usr | rtx | nak | syn
  deriving DecidableEq

def SFPframetype.code : SFPframetype → UInt8
  | .usr => 0
  | .rtx => 1
  | .nak => 2
  | .syn => 3

inductive SFPescapestate
  | normal | escaping
  deriving DecidableEq

inductive SFPframestate
  | new | receiving
  deriving DecidableEq

inductive SFPconnectstate
  | disconnected | sentSyn0 | sentSyn1 | connected
  deriving DecidableEq

def crcCcittUpdate (crc : UInt16) (octet : UInt8) : UInt16 :=
  let octet := octet ^^^ (crc &&& (0xff : UInt16)).toUInt8
  let octet := octet ^^^ (octet <<< 4)
  ((octet.toUInt16 <<< 8) ||| ((crc >>> 8) &&& (0xff : UInt16))) ^^^ (octet >>> 4).toUInt16 ^^^
    (octet.toUInt16 <<< 3)

def isReservedOctet (octet : UInt8) : Bool := octet == sfpEsc || octet == sfpFlag

def nextSeq (seq : UInt8) : UInt8 := (seq + 1) &&& 63

def frameHeader (seq : UInt8) (type : SFPframetype) : UInt8 := seq ||| (type.code <<< 6)

def getFrameType (header : UInt8) : SFPframetype :=
  let type := (header >>> 6) &&& 3
  if type = SFPframetype.usr.code then .usr
  else if type = SFPframetype.rtx.code then .rtx
  else if type = SFPframetype.nak.code then .nak
  else .syn

def getFrameSeq (header : UInt8) : UInt8 := header &&& 63

structure SFPpacket where
  buf : List UInt8
  len : Nat

def SFPpacket.octets (packet : SFPpacket) : List UInt8 := packet.buf.take packet.len

/-- The buffered octets are `writebuf[0 .. writebufn)`: `writebufn` is the length. -/
structure SFPtransmitter where
  seq : UInt8
  crc : UInt16
  history : PotRingbuffer SFPpacket
  writebuf : List UInt8

structure SFPreceiver where
  seq : UInt8
  crc : UInt16
  escapeState : SFPescapestate
  frameState : SFPframestate
  header : UInt8
  packet : SFPpacket

structure SFPcontext where
  tx : SFPtransmitter
  rx : SFPreceiver
  connectState : SFPconnectstate

def SFPcontext.zero : SFPcontext where
  tx := ⟨0, 0, ⟨0, 0, fun _ => ⟨List.replicate sfpConfigMaxPacketSize 0, 0⟩⟩, []⟩
  rx := ⟨0, 0, .normal, .new, 0, ⟨List.replicate sfpConfigMaxPacketSize 0, 0⟩⟩
  connectState := .disconnected

structure Sfp (ω : Type u) extends SFPcontext where
  user : ω

/-- `tx.write` and `rx.deliver` with their user data.  A callback may change the context itself. -/
structure Callbacks (ω : Type u) where
  write : List UInt8 → Sfp ω → Sfp ω
  deliver : Option (List UInt8 → Nat → Sfp ω → Sfp ω)

end TurningPoint
