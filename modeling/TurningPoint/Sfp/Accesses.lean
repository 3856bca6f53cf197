import TurningPoint.Lib.Traced
import TurningPoint.Sfp.Handshake

/-! The accesses of the framing protocol to its buffers: each function again, with a record of what
it accesses. -/

universe u

namespace TurningPoint

open Lib (Traced)
open Lib.Traced (note)

inductive SfpAccess
  /-- `rx.packet.buf[index]` is stored to, and `rx.packet.len` becomes the next index. -/
  | rxStore (index : Nat)
  /-- `rx.packet.len`, so far `len`, is decreased by `SFP_CRC_SIZE`. -/
  | rxRewind (len : Nat)
  /-- `tx.writebuf[index]` is stored to. -/
  | writebufStore (index : Nat)
  /-- `len` octets are copied to the `buf` of a packet. -/
  | packetStore (len : Nat)
  /-- The first `len` octets of the `buf` of a packet are read. -/
  | packetRead (len : Nat)
  /-- `potRingbufferAt` of a history of `size` elements. -/
  | historyAt (index size : Nat)
  /-- `potRingbufferPopFront` of a history of `size` elements. -/
  | popFront (size : Nat)

def SfpAccess.InBounds : SfpAccess → Prop
  | rxStore index => index < sfpConfigMaxPacketSize
  | rxRewind len => sfpCrcSize ≤ len
  | writebufStore index => index < sfpConfigWritebufSize
  | packetStore len => len ≤ sfpConfigMaxPacketSize
  | packetRead len => len ≤ sfpConfigMaxPacketSize
  | historyAt index size => index < size
  | popFront size => 0 < size

variable {ω : Type u}

section Transmit

variable (cb : Callbacks ω)

def sfpBufferedWriteTraced (octet : UInt8) : Nat × Sfp ω → Traced SfpAccess (Nat × Sfp ω)
  | (outlen, s) => do
    let s := if sfpConfigWritebufSize ≤ s.tx.writebuf.length then sfpFlushWriteBuffer cb s else s
    note (.writebufStore s.tx.writebuf.length)
    return (outlen + 1, { s with tx.writebuf := s.tx.writebuf ++ [octet] })

def sfpWriteNoCRCTraced (octet : UInt8) (r : Nat × Sfp ω) : Traced SfpAccess (Nat × Sfp ω) :=
  if isReservedOctet octet then do
    let r ← sfpBufferedWriteTraced cb sfpEsc r
    sfpBufferedWriteTraced cb (octet ^^^ sfpEscFlipBit) r
  else sfpBufferedWriteTraced cb octet r

def sfpWriteTraced (octet : UInt8) : Nat × Sfp ω → Traced SfpAccess (Nat × Sfp ω)
  | (outlen, s) =>
    sfpWriteNoCRCTraced cb octet (outlen, { s with tx.crc := crcCcittUpdate s.tx.crc octet })

def notePacket : Option SFPpacket → Traced SfpAccess PUnit
  | none => pure ⟨⟩
  | some packet => note (.packetRead packet.len)

def sfpTransmitFrameWithHeaderTraced (header : UInt8) (packet : Option SFPpacket) (s : Sfp ω) :
    Traced SfpAccess (Nat × Sfp ω) := do
  let r := (0, { s with tx.crc := sfpCrcPreset })
  let r ← sfpBufferedWriteTraced cb sfpFlag r
  let r ← sfpWriteTraced cb header r
  notePacket packet
  let r ← (packetOctets packet).foldlM (fun r octet => sfpWriteTraced cb octet r) r
  let crc := ~~~ r.2.tx.crc
  let r ← sfpWriteNoCRCTraced cb (crc &&& (0x00ff : UInt16)).toUInt8 r
  let r ← sfpWriteNoCRCTraced cb ((crc >>> 8) &&& (0x00ff : UInt16)).toUInt8 r
  let r ← sfpBufferedWriteTraced cb sfpFlag r
  return (r.1, sfpFlushWriteBuffer cb r.2)

def sfpTransmitControlTraced (header : UInt8) (s : Sfp ω) : Traced SfpAccess (Sfp ω) := do
  let r ← sfpTransmitFrameWithHeaderTraced cb header none s
  return r.2

def sfpTransmitFrameImplTraced (packet : SFPpacket) (retransmit : Bool) (s : Sfp ω) :
    Traced SfpAccess (Nat × Sfp ω) := do
  let header := frameHeader s.tx.seq (if retransmit then .rtx else .usr)
  let s :=
    if retransmit then s
    else { s with
      tx.history := potRingbufferPushBack sfpConfigHistoryCapacity s.tx.history packet }
  let (outlen, s) ← sfpTransmitFrameWithHeaderTraced cb header (some packet) s
  return (outlen, { s with tx.seq := nextSeq s.tx.seq })

def sfpWritePacketTraced (octets : List UInt8) (s : Sfp ω) : Traced SfpAccess (Nat × Sfp ω) := do
  note (.packetStore octets.length)
  sfpTransmitFrameImplTraced cb ⟨octets, octets.length⟩ false s

def sfpTransmitHistoryTraced (s : Sfp ω) : Traced SfpAccess (Sfp ω) :=
  let reTxCount := potRingbufferSize sfpConfigHistoryCapacity s.tx.history
  (List.range reTxCount).foldlM (fun s i => do
    note (.historyAt i (potRingbufferSize sfpConfigHistoryCapacity s.tx.history))
    let r ← sfpTransmitFrameImplTraced cb
      (potRingbufferAt sfpConfigHistoryCapacity s.tx.history i) true s
    return r.2) s

def popHistoryTraced (s : Sfp ω) : Traced SfpAccess (Sfp ω) := do
  note (.popFront (potRingbufferSize sfpConfigHistoryCapacity s.tx.history))
  return { s with tx.history := potRingbufferPopFront sfpConfigHistoryCapacity s.tx.history }

def sfpPopHistoryTraced : Nat → Sfp ω → Traced SfpAccess (Sfp ω)
  | 0, s => pure s
  | n + 1, s => do
    let s ← popHistoryTraced s
    sfpPopHistoryTraced n s

def sfpTransmitHistoryFromSeqTraced (seq : UInt8) (s : Sfp ω) : Traced SfpAccess (Sfp ω) := do
  let size := potRingbufferSize sfpConfigHistoryCapacity s.tx.history
  let fastforward := sfpFastforward seq s.tx.seq size
  let s ← if size > fastforward then sfpPopHistoryTraced fastforward s else pure s
  sfpTransmitHistoryTraced cb { s with tx.seq := seq }

def sfpClearHistoryLoopTraced : Nat → Sfp ω → Traced SfpAccess (Sfp ω)
  | 0, s => pure s
  | n + 1, s =>
    if potRingbufferEmpty s.tx.history then pure s
    else do
      let s ← popHistoryTraced s
      sfpClearHistoryLoopTraced n s

def sfpClearHistoryTraced : Sfp ω → Traced SfpAccess (Sfp ω) :=
  sfpClearHistoryLoopTraced (2 * sfpConfigHistoryCapacity)

end Transmit

section Receive

variable (e : Endpoint ω)

namespace Endpoint

def writing : Callbacks ω where
  write octets s := { s with user := e.put octets s.user }
  deliver := none

def runScript : Script ω → Sfp ω → Sfp ω
  | .done data, s => { s with user := data }
  | .write data octets next, s =>
    let s := (sfpWritePacket e.writing octets { s with user := data }).2
    runScript (next s.user) s

def runScriptTraced : Script ω → Sfp ω → Traced SfpAccess (Sfp ω)
  | .done data, s => pure { s with user := data }
  | .write data octets next, s => do
    let r ← sfpWritePacketTraced e.writing octets { s with user := data }
    runScriptTraced (next r.2.user) r.2

def answering : Callbacks ω where
  write := e.writing.write
  deliver := some fun buf len s => e.runScript (e.react buf len s.user) s

end Endpoint

def sfpConnectTraced (s : Sfp ω) : Traced SfpAccess (Sfp ω) := do
  let s := sfpResetReceiver s
  let s := { s with rx.seq := sfpInitialSeq, tx.seq := sfpInitialSeq }
  let s ← sfpClearHistoryTraced s
  let s ← sfpTransmitControlTraced e.answering (frameHeader sfpSeqSyn0 .syn) s
  return { s with connectState := .sentSyn0 }

def sfpBufferOctetTraced (octet : UInt8) (s : Sfp ω) : Traced SfpAccess (Sfp ω) :=
  if sfpConfigMaxPacketSize ≤ s.rx.packet.len then pure (sfpResetReceiver s)
  else do
    note (.rxStore s.rx.packet.len)
    return sfpBufferOctet octet s

def sfpHandleUSRTraced (s : Sfp ω) : Traced SfpAccess (Sfp ω) :=
  match s.connectState with
  | .disconnected => sfpTransmitControlTraced e.answering (frameHeader sfpSeqSynDis .syn) s
  | .sentSyn0 => sfpTransmitControlTraced e.answering (frameHeader sfpSeqSyn0 .syn) s
  | .sentSyn1 => sfpTransmitControlTraced e.answering (frameHeader sfpSeqSyn1 .syn) s
  | .connected =>
    if getFrameSeq s.rx.header ≠ s.rx.seq then
      if getFrameType s.rx.header = .usr then
        sfpTransmitControlTraced e.answering (frameHeader s.rx.seq .nak) s
      else pure s
    else do
      let s ← e.runScriptTraced (e.react s.rx.packet.buf s.rx.packet.len s.user) s
      return { s with rx.seq := nextSeq s.rx.seq }

def sfpHandleSYN0Traced (s : Sfp ω) : Traced SfpAccess (Sfp ω) := do
  let s := sfpResetReceiver s
  let s := { s with rx.seq := sfpInitialSeq, tx.seq := sfpInitialSeq }
  let s ← sfpClearHistoryTraced s
  let s ← sfpTransmitControlTraced e.answering (frameHeader sfpSeqSyn1 .syn) s
  return { s with connectState := .sentSyn1 }

def resendTraced (s : Sfp ω) : Traced SfpAccess (Sfp ω) :=
  if sfpInitialSeq ≠ s.tx.seq then sfpTransmitHistoryFromSeqTraced e.answering sfpInitialSeq s
  else pure s

def sfpHandleSYN1Traced (s : Sfp ω) : Traced SfpAccess (Sfp ω) :=
  if s.connectState = .disconnected then
    sfpTransmitControlTraced e.answering (frameHeader sfpSeqSynDis .syn) s
  else do
    let s ← sfpTransmitControlTraced e.answering (frameHeader sfpSeqSyn2 .syn) s
    let s ← resendTraced e s
    return { s with connectState := .connected }

def sfpHandleSYN2Traced (s : Sfp ω) : Traced SfpAccess (Sfp ω) :=
  if s.connectState = .disconnected then
    sfpTransmitControlTraced e.answering (frameHeader sfpSeqSynDis .syn) s
  else if s.connectState = .sentSyn0 then
    sfpTransmitControlTraced e.answering (frameHeader sfpSeqSyn0 .syn) s
  else do
    let s ← resendTraced e s
    return { s with connectState := .connected }

def sfpHandleNAKTraced (s : Sfp ω) : Traced SfpAccess (Sfp ω) :=
  match s.connectState with
  | .disconnected => sfpTransmitControlTraced e.answering (frameHeader sfpSeqSynDis .syn) s
  | .sentSyn0 => sfpTransmitControlTraced e.answering (frameHeader sfpSeqSyn0 .syn) s
  | .sentSyn1 => sfpTransmitControlTraced e.answering (frameHeader sfpSeqSyn1 .syn) s
  | .connected =>
    if getFrameSeq s.rx.header ≠ s.tx.seq then
      sfpTransmitHistoryFromSeqTraced e.answering (getFrameSeq s.rx.header) s
    else pure s

def sfpHandleSYNTraced (s : Sfp ω) : Traced SfpAccess (Sfp ω) :=
  let seq := getFrameSeq s.rx.header
  if seq = sfpSeqSyn0 then sfpHandleSYN0Traced e s
  else if seq = sfpSeqSyn1 then sfpHandleSYN1Traced e s
  else if seq = sfpSeqSyn2 then sfpHandleSYN2Traced e s
  else if seq = sfpSeqSynDis then pure { s with connectState := .disconnected }
  else pure s

def sfpHandleFrameTraced (s : Sfp ω) : Traced SfpAccess (Sfp ω) :=
  if sfpCrcSize > s.rx.packet.len then
    sfpTransmitControlTraced e.answering (frameHeader s.rx.seq .nak) s
  else do
    note (.rxRewind s.rx.packet.len)
    let s := { s with rx.packet.len := s.rx.packet.len - sfpCrcSize }
    if sfpCrcGood ≠ s.rx.crc then
      sfpTransmitControlTraced e.answering (frameHeader s.rx.seq .nak) s
    else
      match getFrameType s.rx.header with
      | .usr => sfpHandleUSRTraced e s
      | .rtx => sfpHandleUSRTraced e s
      | .nak => sfpHandleNAKTraced e s
      | .syn => sfpHandleSYNTraced e s

def sfpDeliverOctetTraced (octet : UInt8) (s : Sfp ω) : Traced SfpAccess (Sfp ω) :=
  if octet = sfpFlag then do
    let s ← if s.rx.frameState = .receiving then sfpHandleFrameTraced e s else pure s
    return sfpResetReceiver s
  else if octet = sfpEsc then pure { s with rx.escapeState := .escaping }
  else
    let octet := if s.rx.escapeState = .escaping then octet ^^^ sfpEscFlipBit else octet
    let s := { s with rx.escapeState := .normal }
    let s := { s with rx.crc := crcCcittUpdate s.rx.crc octet }
    if s.rx.frameState = .new then pure { s with rx.header := octet, rx.frameState := .receiving }
    else sfpBufferOctetTraced octet s

def sfpCallTraced (s : Sfp ω) : SfpCall → Traced SfpAccess (Sfp ω)
  | .octet octet => sfpDeliverOctetTraced e octet s
  | .connect => sfpConnectTraced e s
  | .write octets => do
    let r ← sfpWritePacketTraced e.answering octets s
    return r.2

end Receive

section Value

variable (cb : Callbacks ω)

@[simp] theorem sfpBufferedWriteTraced_value (octet : UInt8) (r : Nat × Sfp ω) :
    (sfpBufferedWriteTraced cb octet r).value = sfpBufferedWrite cb octet r := rfl

@[simp] theorem sfpWriteNoCRCTraced_value (octet : UInt8) (r : Nat × Sfp ω) :
    (sfpWriteNoCRCTraced cb octet r).value = sfpWriteNoCRC cb octet r :=
  Traced.value_ite _ _ _

@[simp] theorem sfpWriteTraced_value (octet : UInt8) (r : Nat × Sfp ω) :
    (sfpWriteTraced cb octet r).value = sfpWrite cb octet r :=
  sfpWriteNoCRCTraced_value cb octet _

@[simp] theorem sfpTransmitFrameWithHeaderTraced_value (header : UInt8)
    (packet : Option SFPpacket) (s : Sfp ω) :
    (sfpTransmitFrameWithHeaderTraced cb header packet s).value =
      sfpTransmitFrameWithHeader cb header packet s := by
  simp [sfpTransmitFrameWithHeaderTraced, sfpTransmitFrameWithHeader, Traced.value_foldlM]

@[simp] theorem sfpTransmitControlTraced_value (header : UInt8) (s : Sfp ω) :
    (sfpTransmitControlTraced cb header s).value = sfpTransmitControl cb header s := by
  simp [sfpTransmitControlTraced, sfpTransmitControl]

@[simp] theorem sfpTransmitFrameImplTraced_value (packet : SFPpacket) (retransmit : Bool)
    (s : Sfp ω) : (sfpTransmitFrameImplTraced cb packet retransmit s).value =
      sfpTransmitFrameImpl cb packet retransmit s := by
  simp [sfpTransmitFrameImplTraced, sfpTransmitFrameImpl]

@[simp] theorem sfpWritePacketTraced_value (octets : List UInt8) (s : Sfp ω) :
    (sfpWritePacketTraced cb octets s).value = sfpWritePacket cb octets s := by
  simp [sfpWritePacketTraced, sfpWritePacket, sfpTransmitUSR]

@[simp] theorem sfpTransmitHistoryTraced_value (s : Sfp ω) :
    (sfpTransmitHistoryTraced cb s).value = sfpTransmitHistory cb s := by
  simp [sfpTransmitHistoryTraced, sfpTransmitHistory, sfpTransmitRTX, Traced.value_foldlM]

@[simp] theorem sfpPopHistoryTraced_value (n : Nat) (s : Sfp ω) :
    (sfpPopHistoryTraced n s).value = { s with tx.history := sfpPopHistory n s.tx.history } := by
  induction n generalizing s with
  | zero => rfl
  | succ n ih => exact ih _

@[simp] theorem sfpTransmitHistoryFromSeqTraced_value (seq : UInt8) (s : Sfp ω) :
    (sfpTransmitHistoryFromSeqTraced cb seq s).value = sfpTransmitHistoryFromSeq cb seq s := by
  unfold sfpTransmitHistoryFromSeqTraced sfpTransmitHistoryFromSeq
  dsimp only
  split
  · simp
  · simp

@[simp] theorem sfpClearHistoryTraced_value (s : Sfp ω) :
    (sfpClearHistoryTraced s).value = sfpClearHistory s := by
  unfold sfpClearHistoryTraced sfpClearHistory
  generalize 2 * sfpConfigHistoryCapacity = n
  induction n generalizing s with
  | zero => rfl
  | succ n ih =>
    rw [sfpClearHistoryLoopTraced, sfpClearHistoryLoop, Traced.value_ite]
    split
    · rfl
    · exact ih _

variable (e : Endpoint ω)

@[simp] theorem Endpoint.runScriptTraced_value (script : Script ω) (s : Sfp ω) :
    (e.runScriptTraced script s).value = e.runScript script s := by
  induction script generalizing s with
  | done data => rfl
  | write data octets next ih =>
    rw [runScriptTraced, Traced.value_bind, ih, sfpWritePacketTraced_value]
    rfl

@[simp] theorem sfpConnectTraced_value (s : Sfp ω) :
    (sfpConnectTraced e s).value = sfpConnect e.answering s := by
  simp [sfpConnectTraced, sfpConnect, sfpTransmitSYN0]

@[simp] theorem sfpBufferOctetTraced_value (octet : UInt8) (s : Sfp ω) :
    (sfpBufferOctetTraced octet s).value = sfpBufferOctet octet s := by
  unfold sfpBufferOctetTraced sfpBufferOctet
  split
  · rfl
  · rfl

@[simp] theorem sfpHandleUSRTraced_value (s : Sfp ω) :
    (sfpHandleUSRTraced e s).value = sfpHandleUSR e.answering s := by
  unfold sfpHandleUSRTraced sfpHandleUSR
  cases s.connectState with
  | disconnected | sentSyn0 | sentSyn1 => exact sfpTransmitControlTraced_value ..
  | connected =>
    dsimp only
    split
    · split
      · exact sfpTransmitControlTraced_value ..
      · rfl
    · simp [Endpoint.answering]

@[simp] theorem sfpHandleSYN0Traced_value (s : Sfp ω) :
    (sfpHandleSYN0Traced e s).value = sfpHandleSYN0 e.answering s := by
  simp [sfpHandleSYN0Traced, sfpHandleSYN0, sfpTransmitSYN1]

@[simp] theorem resendTraced_value (s : Sfp ω) :
    (resendTraced e s).value = resendAll e.answering s := by
  simp [resendTraced, resendAll]

@[simp] theorem sfpHandleSYN1Traced_value (s : Sfp ω) :
    (sfpHandleSYN1Traced e s).value = sfpHandleSYN1 e.answering s := by
  unfold sfpHandleSYN1Traced sfpHandleSYN1
  split
  · exact sfpTransmitControlTraced_value ..
  · simp only [Traced.value_bind, Traced.value_pure, sfpTransmitControlTraced_value,
      resendTraced_value]
    rfl

@[simp] theorem sfpHandleSYN2Traced_value (s : Sfp ω) :
    (sfpHandleSYN2Traced e s).value = sfpHandleSYN2 e.answering s := by
  unfold sfpHandleSYN2Traced sfpHandleSYN2
  split
  · exact sfpTransmitControlTraced_value ..
  split
  · exact sfpTransmitControlTraced_value ..
  · simp only [Traced.value_bind, Traced.value_pure, resendTraced_value]
    rfl

@[simp] theorem sfpHandleNAKTraced_value (s : Sfp ω) :
    (sfpHandleNAKTraced e s).value = sfpHandleNAK e.answering s := by
  unfold sfpHandleNAKTraced sfpHandleNAK
  cases s.connectState with
  | disconnected | sentSyn0 | sentSyn1 => exact sfpTransmitControlTraced_value ..
  | connected => simp

@[simp] theorem sfpHandleSYNTraced_value (s : Sfp ω) :
    (sfpHandleSYNTraced e s).value = sfpHandleSYN e.answering s := by
  simp [sfpHandleSYNTraced, sfpHandleSYN]

@[simp] theorem sfpHandleFrameTraced_value (s : Sfp ω) :
    (sfpHandleFrameTraced e s).value = sfpHandleFrame e.answering s := by
  unfold sfpHandleFrameTraced sfpHandleFrame
  split
  · simp [sfpTransmitNAK]
  rw [Traced.value_bind]
  dsimp only
  split
  · simp [sfpTransmitNAK]
  cases getFrameType s.rx.header with
  | usr | rtx => exact sfpHandleUSRTraced_value ..
  | nak => exact sfpHandleNAKTraced_value ..
  | syn => exact sfpHandleSYNTraced_value ..

@[simp] theorem sfpDeliverOctetTraced_value (octet : UInt8) (s : Sfp ω) :
    (sfpDeliverOctetTraced e octet s).value = sfpDeliverOctet e.answering octet s := by
  unfold sfpDeliverOctetTraced sfpDeliverOctet
  split
  · split
    · simp
    · rfl
  split
  · rfl
  dsimp only
  split
  · rfl
  · simp

theorem sfpCallTraced_value (s : Sfp ω) (call : SfpCall) :
    (sfpCallTraced e s call).value = sfpCall e.answering s call := by
  cases call with
  | octet octet => exact sfpDeliverOctetTraced_value e octet s
  | connect => exact sfpConnectTraced_value e s
  | write octets => exact congrArg Prod.snd (sfpWritePacketTraced_value e.answering octets s)

end Value

end TurningPoint
