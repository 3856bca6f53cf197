import TurningPoint.Sfp.FrameLaws
import TurningPoint.Sfp.History
import TurningPoint.Sfp.Peer

/-! The code refines the frame by frame view: what `serial_framing_protocol.c` does to a context is
what `Peer` does to the end that the context represents. -/

namespace TurningPoint

namespace SeqNum

def octet (seq : SeqNum) : UInt8 := UInt8.ofNat seq.val

theorem octet_toNat (seq : SeqNum) : (octet seq).toNat = seq.val := by
  simpa [octet] using Nat.mod_eq_of_lt ((ZMod.val_lt seq).trans (show 64 < 256 by decide))

theorem octet_lt (seq : SeqNum) : octet seq < 64 := by
  rw [UInt8.lt_iff_toNat_lt, octet_toNat]
  exact ZMod.val_lt seq

@[simp] theorem octet_inj {a b : SeqNum} : octet a = octet b ↔ a = b := by
  refine ⟨fun h => ZMod.val_injective 64 ?_, congrArg octet⟩
  rw [← octet_toNat, ← octet_toNat, h]

theorem nextSeq_octet : ∀ seq : SeqNum, nextSeq (octet seq) = octet (seq + 1) := by
  decide

@[simp] theorem getFrameSeq_header (seq : SeqNum) (type : SFPframetype) :
    getFrameSeq (frameHeader (octet seq) type) = octet seq :=
  getFrameSeq_frameHeader (octet_lt seq) type

@[simp] theorem getFrameType_header (seq : SeqNum) (type : SFPframetype) :
    getFrameType (frameHeader (octet seq) type) = type :=
  getFrameType_frameHeader (octet_lt seq) type

theorem sfpFastforward_octet (seq txSeq : SeqNum) (size : Nat) :
    sfpFastforward (octet seq) (octet txSeq) size =
      (seq - (txSeq - size)).val := by
  have hand : ∀ n : Nat, n &&& 63 = n % 64 := fun n => Nat.and_two_pow_sub_one_eq_mod n 6
  have hval : (seq - (txSeq - size)).val =
      (64 - (64 - size % 64 + txSeq.val) % 64 + seq.val) % 64 := rfl
  rw [hval]
  simp only [sfpFastforward, UInt32.toNat_and, UInt32.toNat_sub, UInt8.toNat_toUInt32, octet_toNat,
    UInt32.toNat_ofNat', UInt32.reduceToNat, hand]
  omega

end SeqNum

namespace Frame

def header (frame : Frame) : UInt8 := frameHeader (SeqNum.octet frame.seq) frame.type

def wire (frame : Frame) : List UInt8 := wireFrame frame.header frame.payload

end Frame

/-- What one end of a link shows: the octets on the line that the other end has not yet taken off,
all octets it ever put there, and the packets that its deliver callback got. -/
structure Port where
  line : List UInt8
  sent : List UInt8
  delivered : List (List UInt8)

def Port.put (octets : List UInt8) (port : Port) : Port :=
  { port with line := port.line ++ octets, sent := port.sent ++ octets }

def endpoint : Callbacks Port where
  write octets s := { s with user := s.user.put octets }
  deliver := some fun buf len s =>
    { s with user.delivered := s.user.delivered ++ [buf.take len] }

theorem endpoint_plain : endpoint.Plain Port.put where
  write_eq _ _ := rfl
  out_nil port := by simp [Port.put]
  out_append a b port := by simp [Port.put]

/-- The context `s` is the end `p`, of whose line the other end has taken off the octets `taken`
without being through with the frame they belong to. -/
structure Represents (s : Sfp Port) (p : Peer) (taken : List UInt8) : Prop where
  connectState : s.connectState = p.connectState
  txSeq : s.tx.seq = SeqNum.octet p.txSeq
  rxSeq : s.rx.seq = SeqNum.octet p.rxSeq
  writebuf : s.tx.writebuf = []
  history : ∃ packets, s.tx.history.Holds sfpConfigHistoryCapacity packets ∧
    packets.map SFPpacket.octets = p.history
  line : taken ++ s.user.line = p.line.flatMap Frame.wire
  sent : s.user.sent = p.sent.flatMap Frame.wire
  delivered : s.user.delivered = p.delivered

namespace Represents

variable {s : Sfp Port} {p : Peer} {taken : List UInt8}

theorem size_eq (h : Represents s p taken) :
    potRingbufferSize sfpConfigHistoryCapacity s.tx.history = p.history.length := by
  obtain ⟨packets, hholds, hmap⟩ := h.history
  rw [hholds.size_eq historyCapacity, ← hmap, List.length_map]

theorem set_rx (h : Represents s p taken) (rx : SFPreceiver) (hseq : rx.seq = s.rx.seq) :
    Represents { s with rx := rx } p taken :=
  { h with rxSeq := hseq.trans h.rxSeq }

theorem resetReceiver (h : Represents s p taken) : Represents (sfpResetReceiver s) p taken :=
  h.set_rx _ rfl

theorem set_connectState (h : Represents s p taken) (c : SFPconnectstate) :
    Represents { s with connectState := c } { p with connectState := c } taken :=
  { h with connectState := rfl }

theorem send (h : Represents s p taken) (frame : Frame) (packet : Option SFPpacket)
    (hpacket : packetOctets packet = frame.payload) :
    Represents (sfpTransmitFrameWithHeader endpoint frame.header packet s).2 (p.send frame) taken := by
  rw [endpoint_plain.transmitFrameWithHeader_fresh _ _ h.writebuf, hpacket]
  refine { h with line := ?_, sent := ?_ }
  · simp [Port.put, Peer.send, Frame.wire, ← h.line]
  · simp [Port.put, Peer.send, Frame.wire, h.sent]

theorem control (h : Represents s p taken) (type : SFPframetype) (seq : SeqNum) :
    Represents (sfpTransmitControl endpoint (frameHeader (SeqNum.octet seq) type) s)
      (p.control type seq) taken :=
  h.send ⟨type, seq, []⟩ none rfl

theorem nak (h : Represents s p taken) :
    Represents (sfpTransmitNAK endpoint s.rx.seq s) p.nak taken := by
  rw [h.rxSeq]
  exact h.control .nak p.rxSeq

theorem dis (h : Represents s p taken) : Represents (sfpTransmitDIS endpoint s) p.dis taken :=
  h.control .syn 3

theorem syn0 (h : Represents s p taken) : Represents (sfpTransmitSYN0 endpoint s) p.syn0 taken :=
  h.control .syn 0

theorem syn1 (h : Represents s p taken) : Represents (sfpTransmitSYN1 endpoint s) p.syn1 taken :=
  h.control .syn 1

theorem syn2 (h : Represents s p taken) : Represents (sfpTransmitSYN2 endpoint s) p.syn2 taken :=
  h.control .syn 2

theorem advance (h : Represents s p taken) :
    Represents { s with tx.seq := nextSeq s.tx.seq } { p with txSeq := p.txSeq + 1 } taken :=
  { h with txSeq := by rw [h.txSeq, SeqNum.nextSeq_octet] }

theorem transmitRTX (h : Represents s p taken) (packet : SFPpacket) :
    Represents (sfpTransmitRTX endpoint packet s) (p.transmit .rtx packet.octets) taken := by
  have hsend := h.send ⟨.rtx, p.txSeq, packet.octets⟩ (some packet) rfl
  simp only [Frame.header, ← h.txSeq] at hsend
  exact hsend.advance

theorem transmitRTX_history (h : Represents s p taken) (packet : SFPpacket) :
    (sfpTransmitRTX endpoint packet s).tx.history = s.tx.history := by
  simp [sfpTransmitRTX, sfpTransmitFrameImpl,
    endpoint_plain.transmitFrameWithHeader_fresh _ _ h.writebuf]

theorem pushBack (h : Represents s p taken) (packet : SFPpacket) :
    Represents
      { s with tx.history := potRingbufferPushBack sfpConfigHistoryCapacity s.tx.history packet }
      { p with history := Peer.remember packet.octets p.history } taken := by
  obtain ⟨packets, hholds, hmap⟩ := h.history
  refine { h with history := ⟨_, hholds.pushBack historyCapacity packet, ?_⟩ }
  rw [Peer.remember, ← hmap, List.length_map]
  split <;> simp

theorem write (h : Represents s p taken) (octets : List UInt8) :
    Represents (sfpWritePacket endpoint octets s).2 (p.write octets) taken := by
  have hoctets : SFPpacket.octets ⟨octets, octets.length⟩ = octets := List.take_length
  have hpush := h.pushBack ⟨octets, octets.length⟩
  rw [hoctets] at hpush
  have hsend := hpush.send ⟨.usr, p.txSeq, octets⟩ (some ⟨octets, octets.length⟩) hoctets
  simp only [Frame.header, ← h.txSeq] at hsend
  exact hsend.advance

theorem resend_loop (h : Represents s p taken) (turns : List Nat) :
    Represents
      (turns.foldl (fun s i => sfpTransmitRTX endpoint
        (potRingbufferAt sfpConfigHistoryCapacity s.tx.history i) s) s)
      ((turns.map fun i =>
          (potRingbufferAt sfpConfigHistoryCapacity s.tx.history i).octets).foldl
        (fun p payload => p.transmit .rtx payload) p) taken := by
  induction turns generalizing s p with
  | nil => exact h
  | cons i turns ih =>
    have hnext := ih (h.transmitRTX (potRingbufferAt sfpConfigHistoryCapacity s.tx.history i))
    rw [h.transmitRTX_history] at hnext
    exact hnext

theorem history_eq (h : Represents s p taken) :
    ((List.range p.history.length).map fun i =>
      (potRingbufferAt sfpConfigHistoryCapacity s.tx.history i).octets) = p.history := by
  obtain ⟨packets, hholds, hmap⟩ := h.history
  refine List.ext_getElem (by simp) fun i hi _ => ?_
  have hpackets : i < packets.length := by simpa [← hmap] using hi
  simp [hholds.at_eq historyCapacity hpackets, ← hmap]

theorem resend (h : Represents s p taken) :
    Represents (sfpTransmitHistory endpoint s) p.resend taken := by
  have hloop := h.resend_loop (List.range p.history.length)
  rw [h.history_eq] at hloop
  simpa only [sfpTransmitHistory, h.size_eq, Peer.resend] using hloop

theorem resendFrom (h : Represents s p taken) (seq : SeqNum) :
    Represents (sfpTransmitHistoryFromSeq endpoint (SeqNum.octet seq) s) (p.resendFrom seq) taken := by
  have hlag : sfpFastforward (SeqNum.octet seq) s.tx.seq p.history.length = (p.lag seq).val := by
    rw [h.txSeq, SeqNum.sfpFastforward_octet, Peer.lag]
  obtain ⟨packets, hholds, hmap⟩ := h.history
  have hlength : packets.length = p.history.length := by rw [← hmap, List.length_map]
  rw [sfpTransmitHistoryFromSeq, Peer.resendFrom]
  simp only [h.size_eq, hlag]
  apply resend
  split
  next hlt =>
    refine { h with txSeq := rfl, history := ⟨_, hholds.popHistory (hlength ▸ Nat.le_of_lt hlt), ?_⟩ }
    rw [List.map_drop, hmap]
  next hge =>
    refine { h with txSeq := rfl, history := ⟨packets, hholds, ?_⟩ }
    simp [hmap]

theorem restart (h : Represents s p taken) :
    Represents
      (sfpClearHistory
        { sfpResetReceiver s with rx.seq := sfpInitialSeq, tx.seq := sfpInitialSeq })
      p.restart taken := by
  obtain ⟨packets, hholds, -⟩ := h.history
  have hfuel : packets.length ≤ 2 * sfpConfigHistoryCapacity :=
    hholds.length_le.trans (by decide)
  exact { h with txSeq := rfl, rxSeq := rfl, history := ⟨[], hholds.clearHistory hfuel, rfl⟩ }

theorem connect (h : Represents s p taken) : Represents (sfpConnect endpoint s) p.connect taken :=
  h.restart.syn0.set_connectState .sentSyn0

theorem establish (h : Represents s p taken) :
    Represents
      { if sfpInitialSeq ≠ s.tx.seq then sfpTransmitHistoryFromSeq endpoint sfpInitialSeq s else s with
        connectState := .connected }
      p.establish taken := by
  have hzero : (sfpInitialSeq ≠ s.tx.seq) = (p.txSeq ≠ 0) := by
    rw [h.txSeq, show sfpInitialSeq = SeqNum.octet 0 from rfl, Ne, SeqNum.octet_inj,
      @eq_comm _ 0]
  rw [Peer.establish]
  apply set_connectState (p := if p.txSeq ≠ 0 then p.resendFrom 0 else p)
  simp only [hzero]
  split
  · exact h.resendFrom 0
  · exact h

theorem handleUSR (h : Represents s p taken) {frame : Frame} (hheader : s.rx.header = frame.header)
    (hpacket : s.rx.packet.octets = frame.payload) :
    Represents (sfpHandleUSR endpoint s) (p.handleUSR frame) taken := by
  have hstate := h.connectState
  rw [sfpHandleUSR, Peer.handleUSR]
  cases hp : p.connectState <;> simp only [hstate, hp, reduceCtorEq, if_false, Peer.remind]
  · exact h.dis
  · exact h.syn0
  · exact h.syn1
  · simp only [hheader, Frame.header, SeqNum.getFrameSeq_header, SeqNum.getFrameType_header, h.rxSeq,
      ne_eq, SeqNum.octet_inj, if_true, ite_not]
    split
    · have hdelivered : Represents
          { s with user.delivered := s.user.delivered ++ [s.rx.packet.octets] }
          { p with delivered := p.delivered ++ [frame.payload] } taken :=
        { h with delivered := by simp only [h.delivered, hpacket] }
      have hrxSeq : nextSeq s.rx.seq = SeqNum.octet (p.rxSeq + 1) := by
        rw [h.rxSeq, SeqNum.nextSeq_octet]
      exact { hdelivered with connectState := hstate.trans hp, rxSeq := hrxSeq }
    · split
      · simpa only [h.rxSeq] using h.nak
      · exact h

theorem handleNAK (h : Represents s p taken) {frame : Frame} (hheader : s.rx.header = frame.header) :
    Represents (sfpHandleNAK endpoint s) (p.handleNAK frame.seq) taken := by
  have hstate := h.connectState
  rw [sfpHandleNAK, Peer.handleNAK]
  cases hp : p.connectState <;> simp only [hstate, hp, reduceCtorEq, if_false, Peer.remind]
  · exact h.dis
  · exact h.syn0
  · exact h.syn1
  · simp only [hheader, Frame.header, SeqNum.getFrameSeq_header, h.txSeq, ne_eq, SeqNum.octet_inj,
      if_true, ite_not]
    split
    · exact h
    · exact h.resendFrom _

theorem handleSYN (h : Represents s p taken) {frame : Frame} (hheader : s.rx.header = frame.header) :
    Represents (sfpHandleSYN endpoint s) (p.handleSYN frame.seq) taken := by
  have hstate := h.connectState
  have hsyn : ∀ seq : SeqNum, (SeqNum.octet frame.seq = SeqNum.octet seq) = (frame.seq = seq) :=
    fun _ => propext SeqNum.octet_inj
  simp only [sfpHandleSYN, Peer.handleSYN, hheader, Frame.header, SeqNum.getFrameSeq_header,
    show sfpSeqSyn0 = SeqNum.octet 0 from rfl, show sfpSeqSyn1 = SeqNum.octet 1 from rfl,
    show sfpSeqSyn2 = SeqNum.octet 2 from rfl, show sfpSeqSynDis = SeqNum.octet 3 from rfl, hsyn]
  split
  · exact h.restart.syn1.set_connectState .sentSyn1
  split
  · rw [sfpHandleSYN1, hstate]
    split
    · exact h.dis
    · exact h.syn2.establish
  split
  · rw [sfpHandleSYN2, hstate, Peer.remind]
    cases hp : p.connectState <;> simp only [reduceCtorEq, if_true, if_false, or_false, or_true]
    · exact h.dis
    · exact h.syn0
    · exact h.establish
    · exact h.establish
  split
  · exact h.set_connectState .disconnected
  · exact h

theorem handleFrame (h : Represents s p taken) {frame : Frame}
    (hrx : s.rx.Holds frame.header frame.payload) :
    Represents (sfpDeliverOctet endpoint sfpFlag s) (p.handle frame) taken := by
  have hlen : ¬ sfpCrcSize > s.rx.packet.len := by
    rw [hrx.len]
    omega
  have hcrc : ¬ sfpCrcGood ≠ s.rx.crc := not_not_intro hrx.crc.symm
  have htype : getFrameType s.rx.header = frame.type := by
    rw [hrx.header, Frame.header, SeqNum.getFrameType_header]
  have hrewound := h.set_rx { s.rx with packet.len := s.rx.packet.len - sfpCrcSize } rfl
  rw [sfpDeliverOctet_flag, if_pos hrx.frameState, sfpHandleFrame, if_neg hlen]
  apply resetReceiver
  simp only [hcrc, if_false, htype, Peer.handle]
  cases frame.type with
  | usr => exact hrewound.handleUSR hrx.header hrx.octets
  | rtx => exact hrewound.handleUSR hrx.header hrx.octets
  | nak => exact hrewound.handleNAK hrx.header
  | syn => exact hrewound.handleSYN hrx.header

end Represents

end TurningPoint
