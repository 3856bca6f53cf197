import TurningPoint.Sfp.Context

/-! The transmitter half of `serial_framing_protocol.c`.  Functions with an `outlen` argument run on
the count written so far and the state, and add to the count what they write. -/

universe u

namespace TurningPoint

variable {ω : Type u} (cb : Callbacks ω)

def sfpFlushWriteBuffer (s : Sfp ω) : Sfp ω :=
  let s := cb.write s.tx.writebuf s
  { s with tx.writebuf := [] }

def sfpBufferedWrite (octet : UInt8) : Nat × Sfp ω → Nat × Sfp ω
  | (outlen, s) =>
    let s := if sfpConfigWritebufSize ≤ s.tx.writebuf.length then sfpFlushWriteBuffer cb s else s
    (outlen + 1, { s with tx.writebuf := s.tx.writebuf ++ [octet] })

def sfpWriteNoCRC (octet : UInt8) (r : Nat × Sfp ω) : Nat × Sfp ω :=
  if isReservedOctet octet then
    sfpBufferedWrite cb (octet ^^^ sfpEscFlipBit) (sfpBufferedWrite cb sfpEsc r)
  else sfpBufferedWrite cb octet r

def sfpWrite (octet : UInt8) : Nat × Sfp ω → Nat × Sfp ω
  | (outlen, s) =>
    sfpWriteNoCRC cb octet (outlen, { s with tx.crc := crcCcittUpdate s.tx.crc octet })

def packetOctets : Option SFPpacket → List UInt8
  | none => []
  | some packet => packet.octets

def sfpTransmitFrameWithHeader (header : UInt8) (packet : Option SFPpacket) (s : Sfp ω) :
    Nat × Sfp ω :=
  let r := (0, { s with tx.crc := sfpCrcPreset })
  let r := sfpBufferedWrite cb sfpFlag r
  let r := sfpWrite cb header r
  let r := (packetOctets packet).foldl (fun r octet => sfpWrite cb octet r) r
  let crc := ~~~ r.2.tx.crc
  -- The CRC goes out complemented and least significant octet first, outside the rolling CRC.
  let r := sfpWriteNoCRC cb (crc &&& (0x00ff : UInt16)).toUInt8 r
  let r := sfpWriteNoCRC cb ((crc >>> 8) &&& (0x00ff : UInt16)).toUInt8 r
  let r := sfpBufferedWrite cb sfpFlag r
  (r.1, sfpFlushWriteBuffer cb r.2)

def sfpTransmitControl (header : UInt8) (s : Sfp ω) : Sfp ω :=
  (sfpTransmitFrameWithHeader cb header none s).2

def sfpTransmitNAK (seq : UInt8) : Sfp ω → Sfp ω := sfpTransmitControl cb (frameHeader seq .nak)
def sfpTransmitDIS : Sfp ω → Sfp ω := sfpTransmitControl cb (frameHeader sfpSeqSynDis .syn)
def sfpTransmitSYN0 : Sfp ω → Sfp ω := sfpTransmitControl cb (frameHeader sfpSeqSyn0 .syn)
def sfpTransmitSYN1 : Sfp ω → Sfp ω := sfpTransmitControl cb (frameHeader sfpSeqSyn1 .syn)
def sfpTransmitSYN2 : Sfp ω → Sfp ω := sfpTransmitControl cb (frameHeader sfpSeqSyn2 .syn)

def sfpTransmitFrameImpl (packet : SFPpacket) (retransmit : Bool) (s : Sfp ω) : Nat × Sfp ω :=
  let header := frameHeader s.tx.seq (if retransmit then .rtx else .usr)
  let s :=
    if retransmit then s
    else { s with
      tx.history := potRingbufferPushBack sfpConfigHistoryCapacity s.tx.history packet }
  let (outlen, s) := sfpTransmitFrameWithHeader cb header (some packet) s
  (outlen, { s with tx.seq := nextSeq s.tx.seq })

def sfpTransmitUSR (packet : SFPpacket) (s : Sfp ω) : Nat × Sfp ω :=
  sfpTransmitFrameImpl cb packet false s

def sfpTransmitRTX (packet : SFPpacket) (s : Sfp ω) : Sfp ω :=
  (sfpTransmitFrameImpl cb packet true s).2

def sfpWritePacket (octets : List UInt8) (s : Sfp ω) : Nat × Sfp ω :=
  sfpTransmitUSR cb ⟨octets, octets.length⟩ s

def sfpTransmitHistory (s : Sfp ω) : Sfp ω :=
  let reTxCount := potRingbufferSize sfpConfigHistoryCapacity s.tx.history
  (List.range reTxCount).foldl
    (fun s i => sfpTransmitRTX cb (potRingbufferAt sfpConfigHistoryCapacity s.tx.history i) s) s

/-- `seq - (tx.seq - size)` in `size_t`, reduced modulo `SFP_SEQ_RANGE`. -/
def sfpFastforward (seq txSeq : UInt8) (size : Nat) : Nat :=
  ((seq.toUInt32 - (txSeq.toUInt32 - UInt32.ofNat size)) &&& (63 : UInt32)).toNat

def sfpPopHistory : Nat → PotRingbuffer SFPpacket → PotRingbuffer SFPpacket
  | 0, history => history
  | n + 1, history => sfpPopHistory n (potRingbufferPopFront sfpConfigHistoryCapacity history)

def sfpTransmitHistoryFromSeq (seq : UInt8) (s : Sfp ω) : Sfp ω :=
  let size := potRingbufferSize sfpConfigHistoryCapacity s.tx.history
  let fastforward := sfpFastforward seq s.tx.seq size
  let s :=
    if size > fastforward then { s with tx.history := sfpPopHistory fastforward s.tx.history }
    else s
  sfpTransmitHistory cb { s with tx.seq := seq }

/-- At most one turn of the indices: the loop ends by its test, not by running out of turns. -/
def sfpClearHistoryLoop : Nat → PotRingbuffer SFPpacket → PotRingbuffer SFPpacket
  | 0, history => history
  | n + 1, history =>
    if potRingbufferEmpty history then history
    else sfpClearHistoryLoop n (potRingbufferPopFront sfpConfigHistoryCapacity history)

def sfpClearHistory (s : Sfp ω) : Sfp ω :=
  { s with tx.history := sfpClearHistoryLoop (2 * sfpConfigHistoryCapacity) s.tx.history }

end TurningPoint
