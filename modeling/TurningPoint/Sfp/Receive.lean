import TurningPoint.Sfp.Transmit

/-! The receiver half of `serial_framing_protocol.c` and its entry points.  `sfpDeliverOctet` is the
call with a NULL buffer, the only one the server makes; it discards the return value. -/

universe u

namespace TurningPoint

variable {ω : Type u} (cb : Callbacks ω)

def sfpIsConnected (s : SFPcontext) : Bool := s.connectState == .connected

def sfpResetReceiver (s : Sfp ω) : Sfp ω :=
  { s with
    rx.crc := sfpCrcPreset
    rx.escapeState := .normal
    rx.frameState := .new
    rx.packet.len := 0 }

def sfpInit (s : Sfp ω) : Sfp ω :=
  let s := { s with connectState := .disconnected, rx.seq := sfpInitialSeq }
  let s := sfpResetReceiver s
  { s with
    tx.seq := sfpInitialSeq
    tx.crc := sfpCrcPreset
    tx.writebuf := []
    tx.history := potRingbufferInit s.tx.history }

def sfpConnect (s : Sfp ω) : Sfp ω :=
  let s := sfpResetReceiver s
  let s := { s with rx.seq := sfpInitialSeq, tx.seq := sfpInitialSeq }
  let s := sfpClearHistory s
  let s := sfpTransmitSYN0 cb s
  { s with connectState := .sentSyn0 }

def sfpBufferOctet (octet : UInt8) (s : Sfp ω) : Sfp ω :=
  if sfpConfigMaxPacketSize ≤ s.rx.packet.len then sfpResetReceiver s
  else
    let len := s.rx.packet.len
    { s with
      rx.packet.buf := s.rx.packet.buf.take len ++ octet :: s.rx.packet.buf.drop (len + 1)
      rx.packet.len := len + 1 }

def sfpHandleUSR (s : Sfp ω) : Sfp ω :=
  match s.connectState with
  | .disconnected => sfpTransmitDIS cb s
  | .sentSyn0 => sfpTransmitSYN0 cb s
  | .sentSyn1 => sfpTransmitSYN1 cb s
  | .connected =>
    if getFrameSeq s.rx.header ≠ s.rx.seq then
      if getFrameType s.rx.header = .usr then sfpTransmitNAK cb s.rx.seq s else s
    else
      let s :=
        match cb.deliver with
        | some deliver => deliver s.rx.packet.buf s.rx.packet.len s
        | none => s
      { s with rx.seq := nextSeq s.rx.seq }

def sfpHandleSYN0 (s : Sfp ω) : Sfp ω :=
  let s := sfpResetReceiver s
  let s := { s with rx.seq := sfpInitialSeq, tx.seq := sfpInitialSeq }
  let s := sfpClearHistory s
  let s := sfpTransmitSYN1 cb s
  { s with connectState := .sentSyn1 }

def sfpHandleSYN1 (s : Sfp ω) : Sfp ω :=
  if s.connectState = .disconnected then sfpTransmitDIS cb s
  else
    let s := sfpTransmitSYN2 cb s
    let s :=
      if sfpInitialSeq ≠ s.tx.seq then sfpTransmitHistoryFromSeq cb sfpInitialSeq s else s
    { s with connectState := .connected }

def sfpHandleSYN2 (s : Sfp ω) : Sfp ω :=
  if s.connectState = .disconnected then sfpTransmitDIS cb s
  else if s.connectState = .sentSyn0 then sfpTransmitSYN0 cb s
  else
    let s :=
      if sfpInitialSeq ≠ s.tx.seq then sfpTransmitHistoryFromSeq cb sfpInitialSeq s else s
    { s with connectState := .connected }

def sfpHandleNAK (s : Sfp ω) : Sfp ω :=
  match s.connectState with
  | .disconnected => sfpTransmitDIS cb s
  | .sentSyn0 => sfpTransmitSYN0 cb s
  | .sentSyn1 => sfpTransmitSYN1 cb s
  | .connected =>
    let seq := getFrameSeq s.rx.header
    if seq ≠ s.tx.seq then sfpTransmitHistoryFromSeq cb seq s else s

def sfpHandleSYN (s : Sfp ω) : Sfp ω :=
  let seq := getFrameSeq s.rx.header
  if seq = sfpSeqSyn0 then sfpHandleSYN0 cb s
  else if seq = sfpSeqSyn1 then sfpHandleSYN1 cb s
  else if seq = sfpSeqSyn2 then sfpHandleSYN2 cb s
  else if seq = sfpSeqSynDis then { s with connectState := .disconnected }
  else s

def sfpHandleFrame (s : Sfp ω) : Sfp ω :=
  if sfpCrcSize > s.rx.packet.len then sfpTransmitNAK cb s.rx.seq s
  else
    -- Now that the length is verified, the packet is rewound over the CRC.
    let s := { s with rx.packet.len := s.rx.packet.len - sfpCrcSize }
    if sfpCrcGood ≠ s.rx.crc then sfpTransmitNAK cb s.rx.seq s
    else
      match getFrameType s.rx.header with
      | .usr => sfpHandleUSR cb s
      | .rtx => sfpHandleUSR cb s
      | .nak => sfpHandleNAK cb s
      | .syn => sfpHandleSYN cb s

def sfpDeliverOctet (octet : UInt8) (s : Sfp ω) : Sfp ω :=
  if octet = sfpFlag then
    let s := if s.rx.frameState = .receiving then sfpHandleFrame cb s else s
    sfpResetReceiver s
  else if octet = sfpEsc then { s with rx.escapeState := .escaping }
  else
    let octet := if s.rx.escapeState = .escaping then octet ^^^ sfpEscFlipBit else octet
    -- In the NORMAL state this store changes nothing.
    let s := { s with rx.escapeState := .normal }
    let s := { s with rx.crc := crcCcittUpdate s.rx.crc octet }
    if s.rx.frameState = .new then { s with rx.header := octet, rx.frameState := .receiving }
    else sfpBufferOctet octet s

def sfpDeliverOctets (octets : List UInt8) (s : Sfp ω) : Sfp ω :=
  octets.foldl (fun s octet => sfpDeliverOctet cb octet s) s

end TurningPoint
