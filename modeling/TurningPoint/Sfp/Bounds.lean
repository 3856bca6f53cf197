import TurningPoint.Sfp.Accesses
import TurningPoint.Lib.Run

universe u

namespace TurningPoint

open Lib (Traced)

/-- The receiver, the write buffer and the history, which stands for `packets`, are within their
sizes. -/
structure Bounded (packets : List SFPpacket) (c : SFPcontext) : Prop where
  len_le : c.rx.packet.len ≤ sfpConfigMaxPacketSize
  writebuf_le : c.tx.writebuf.length ≤ sfpConfigWritebufSize
  holds : c.tx.history.Holds sfpConfigHistoryCapacity packets
  packets_le : ∀ packet ∈ packets, packet.len ≤ sfpConfigMaxPacketSize

def SFPcontext.InBounds (c : SFPcontext) : Prop := ∃ packets, Bounded packets c

theorem SFPcontext.InBounds.of_tx_eq {c c' : SFPcontext} (h : c.InBounds)
    (hlen : c'.rx.packet.len ≤ c.rx.packet.len) (htx : c'.tx = c.tx) : c'.InBounds := by
  obtain ⟨packets, h⟩ := h
  exact ⟨packets, hlen.trans h.len_le, htx ▸ h.writebuf_le, htx ▸ h.holds, h.packets_le⟩

variable {ω : Type u}

abbrev KeepsPackets (packets : List SFPpacket) (m : Traced SfpAccess (Sfp ω)) : Prop :=
  m.Ensures SfpAccess.InBounds fun s => Bounded packets s.toSFPcontext

abbrev KeepsPacketsWriting (packets : List SFPpacket) (m : Traced SfpAccess (Nat × Sfp ω)) : Prop :=
  m.Ensures SfpAccess.InBounds fun r => Bounded packets r.2.toSFPcontext

abbrev Safe (m : Traced SfpAccess (Sfp ω)) : Prop :=
  m.Ensures SfpAccess.InBounds fun s => s.InBounds

section Transmit

variable {cb : Callbacks ω} {packets : List SFPpacket} {s : Sfp ω} {r : Nat × Sfp ω}

variable (hcb : ∀ octets (s : Sfp ω), (cb.write octets s).toSFPcontext = s.toSFPcontext)
include hcb

theorem sfpFlushWriteBuffer_bounded (h : Bounded packets s.toSFPcontext) :
    Bounded packets (sfpFlushWriteBuffer cb s).toSFPcontext := by
  have hwritten := hcb s.tx.writebuf s
  rw [← hwritten] at h
  exact ⟨h.len_le, Nat.zero_le _, h.holds, h.packets_le⟩

theorem sfpBufferedWriteTraced_safe (octet : UInt8) (h : Bounded packets r.2.toSFPcontext) :
    KeepsPacketsWriting packets (sfpBufferedWriteTraced cb octet r) := by
  obtain ⟨outlen, s⟩ := r
  have hroom : ∃ s', (if sfpConfigWritebufSize ≤ s.tx.writebuf.length then
      sfpFlushWriteBuffer cb s else s) = s' ∧ Bounded packets s'.toSFPcontext ∧
        s'.tx.writebuf.length < sfpConfigWritebufSize := by
    split
    · exact ⟨_, rfl, sfpFlushWriteBuffer_bounded hcb h, Nat.zero_lt_succ _⟩
    next hfree => exact ⟨_, rfl, h, Nat.not_le.mp hfree⟩
  obtain ⟨s', hs', hbounded, hlt⟩ := hroom
  rw [sfpBufferedWriteTraced]
  dsimp only
  rw [hs']
  refine .note_bind ?_ (.pure ?_)
  · exact hlt
  · exact ⟨hbounded.len_le, by simpa using hlt, hbounded.holds, hbounded.packets_le⟩

theorem sfpWriteNoCRCTraced_safe (octet : UInt8) (h : Bounded packets r.2.toSFPcontext) :
    KeepsPacketsWriting packets (sfpWriteNoCRCTraced cb octet r) := by
  refine .ite (fun _ => ?_) fun _ => sfpBufferedWriteTraced_safe hcb octet h
  exact (sfpBufferedWriteTraced_safe hcb sfpEsc h).bind fun _ h =>
    sfpBufferedWriteTraced_safe hcb _ h

theorem sfpWriteTraced_safe (octet : UInt8) (h : Bounded packets r.2.toSFPcontext) :
    KeepsPacketsWriting packets (sfpWriteTraced cb octet r) :=
  sfpWriteNoCRCTraced_safe hcb octet ⟨h.len_le, h.writebuf_le, h.holds, h.packets_le⟩

omit hcb in
theorem notePacket_bind_safe {packet : Option SFPpacket} {m : Traced SfpAccess (Nat × Sfp ω)}
    (hpacket : ∀ p ∈ packet, p.len ≤ sfpConfigMaxPacketSize) (hm : KeepsPacketsWriting packets m) :
    KeepsPacketsWriting packets (notePacket packet >>= fun _ => m) := by
  cases packet with
  | none => exact hm
  | some packet =>
    refine .note_bind ?_ hm
    exact hpacket packet rfl

theorem sfpTransmitFrameWithHeaderTraced_safe (header : UInt8) {packet : Option SFPpacket}
    (hpacket : ∀ p ∈ packet, p.len ≤ sfpConfigMaxPacketSize)
    (h : Bounded packets s.toSFPcontext) :
    KeepsPacketsWriting packets (sfpTransmitFrameWithHeaderTraced cb header packet s) := by
  have hstart : Bounded packets { s with tx.crc := sfpCrcPreset }.toSFPcontext :=
    ⟨h.len_le, h.writebuf_le, h.holds, h.packets_le⟩
  refine (sfpBufferedWriteTraced_safe hcb (r := (0, _)) sfpFlag hstart).bind fun r h => ?_
  refine (sfpWriteTraced_safe hcb header h).bind fun r h => ?_
  refine notePacket_bind_safe hpacket ?_
  refine Traced.Ensures.bind (.foldlM (fun r h octet _ => sfpWriteTraced_safe hcb octet h) h)
    fun r h => ?_
  refine (sfpWriteNoCRCTraced_safe hcb _ h).bind fun r h => ?_
  refine (sfpWriteNoCRCTraced_safe hcb _ h).bind fun r h => ?_
  refine (sfpBufferedWriteTraced_safe hcb sfpFlag h).bind fun r h => ?_
  exact .pure (sfpFlushWriteBuffer_bounded hcb h)

theorem sfpTransmitControlTraced_safe (header : UInt8) (h : Bounded packets s.toSFPcontext) :
    KeepsPackets packets (sfpTransmitControlTraced cb header s) := by
  have hnone : ∀ p ∈ (none : Option SFPpacket), p.len ≤ sfpConfigMaxPacketSize :=
    fun _ hp => absurd hp (Option.not_mem_none _)
  exact (sfpTransmitFrameWithHeaderTraced_safe hcb header hnone h).bind fun _ h => .pure h

theorem sfpTransmitFrameImplTraced_rtx_safe {packet : SFPpacket} (hpacket : packet ∈ packets)
    (h : Bounded packets s.toSFPcontext) :
    KeepsPacketsWriting packets (sfpTransmitFrameImplTraced cb packet true s) := by
  refine (sfpTransmitFrameWithHeaderTraced_safe hcb _ ?_ h).bind fun r h => .pure ?_
  · rintro _ ⟨⟩
    exact h.packets_le packet hpacket
  · exact ⟨h.len_le, h.writebuf_le, h.holds, h.packets_le⟩

theorem sfpWritePacketTraced_safe {octets : List UInt8}
    (hoctets : octets.length ≤ sfpConfigMaxPacketSize) (h : Bounded packets s.toSFPcontext) :
    (sfpWritePacketTraced cb octets s).Ensures SfpAccess.InBounds fun r => r.2.InBounds := by
  refine .note_bind ?_ ?_
  · exact hoctets
  have hpushed := h.holds.pushBack historyCapacity ⟨octets, octets.length⟩
  have hkept : ∀ packet ∈ (if packets.length = sfpConfigHistoryCapacity then packets.tail
      else packets) ++ [⟨octets, octets.length⟩], packet.len ≤ sfpConfigMaxPacketSize := by
    intro packet hmem
    rcases List.mem_append.mp hmem with hmem | hmem
    · refine h.packets_le packet ?_
      split at hmem
      · exact List.mem_of_mem_tail hmem
      · exact hmem
    · obtain rfl := List.mem_singleton.mp hmem
      exact hoctets
  have hpushing : Bounded _ { s with
      tx.history := potRingbufferPushBack sfpConfigHistoryCapacity s.tx.history
        ⟨octets, octets.length⟩ }.toSFPcontext :=
    ⟨h.len_le, h.writebuf_le, hpushed, hkept⟩
  refine (sfpTransmitFrameWithHeaderTraced_safe hcb _ ?_ hpushing).bind fun r h => .pure ?_
  · rintro _ ⟨⟩
    exact hoctets
  · exact ⟨_, h.len_le, h.writebuf_le, h.holds, h.packets_le⟩

theorem sfpTransmitHistoryTraced_safe (h : Bounded packets s.toSFPcontext) :
    KeepsPackets packets (sfpTransmitHistoryTraced cb s) := by
  refine .foldlM (fun s h' i hi => ?_) h
  have hlt : i < packets.length := by
    rw [List.mem_range, h.holds.size_eq historyCapacity] at hi
    exact hi
  have hsize := h'.holds.size_eq historyCapacity
  refine .note_bind ?_ ?_
  · exact hsize.symm ▸ hlt
  rw [h'.holds.at_eq historyCapacity hlt]
  exact (sfpTransmitFrameImplTraced_rtx_safe hcb (List.getElem_mem hlt) h').bind fun _ h => .pure h

end Transmit

section History

variable {packets : List SFPpacket} {s : Sfp ω}

theorem popHistoryTraced_safe (hne : packets ≠ []) (h : Bounded packets s.toSFPcontext) :
    KeepsPackets packets.tail (popHistoryTraced s) := by
  have hsize := h.holds.size_eq historyCapacity
  have hpos : 0 < potRingbufferSize sfpConfigHistoryCapacity s.tx.history :=
    hsize.symm ▸ List.length_pos_of_ne_nil hne
  refine .note_bind ?_ (.pure ?_)
  · exact hpos
  · exact ⟨h.len_le, h.writebuf_le, h.holds.popFront historyCapacity hne,
      fun packet hmem => h.packets_le packet (List.mem_of_mem_tail hmem)⟩

theorem sfpPopHistoryTraced_safe {n : Nat} (hn : n ≤ packets.length)
    (h : Bounded packets s.toSFPcontext) :
    KeepsPackets (packets.drop n) (sfpPopHistoryTraced n s) := by
  induction n generalizing packets s with
  | zero => exact .pure h
  | succ n ih =>
    have hne : packets ≠ [] := List.ne_nil_of_length_pos (by omega)
    refine (popHistoryTraced_safe hne h).bind fun s h => ?_
    rw [← List.drop_tail]
    exact ih (by rw [List.length_tail]; omega) h

theorem sfpClearHistoryTraced_safe (h : Bounded packets s.toSFPcontext) :
    Safe (sfpClearHistoryTraced s) := by
  unfold sfpClearHistoryTraced
  generalize 2 * sfpConfigHistoryCapacity = n
  induction n generalizing packets s with
  | zero => exact .pure ⟨packets, h⟩
  | succ n ih =>
    refine .ite (fun _ => .pure ⟨packets, h⟩) fun hempty => ?_
    have hne : packets ≠ [] := fun e => hempty ((h.holds.empty_iff historyCapacity).mpr e)
    exact (popHistoryTraced_safe hne h).bind fun s h => ih h

end History

theorem Lib.Traced.Ensures.safe {packets : List SFPpacket} {m : Traced SfpAccess (Sfp ω)}
    (h : KeepsPackets packets m) : Safe m :=
  h.mono fun hm => ⟨packets, hm⟩

theorem sfpTransmitHistoryFromSeqTraced_safe {cb : Callbacks ω} {s : Sfp ω}
    (hcb : ∀ octets (s : Sfp ω), (cb.write octets s).toSFPcontext = s.toSFPcontext)
    (seq : UInt8) (h : s.InBounds) : Safe (sfpTransmitHistoryFromSeqTraced cb seq s) := by
  obtain ⟨packets, h⟩ := h
  have hresend : ∀ (packets : List SFPpacket) (s : Sfp ω), Bounded packets s.toSFPcontext →
      Safe (sfpTransmitHistoryTraced cb { s with tx.seq := seq }) := fun packets s h =>
    (sfpTransmitHistoryTraced_safe hcb
      (s := { s with tx.seq := seq }) ⟨h.len_le, h.writebuf_le, h.holds, h.packets_le⟩).safe
  unfold sfpTransmitHistoryFromSeqTraced
  dsimp only
  split
  next hreach =>
    rw [h.holds.size_eq historyCapacity] at hreach ⊢
    exact (sfpPopHistoryTraced_safe hreach.le h).bind fun s h => hresend _ s h
  · exact hresend packets s h

/-- Each packet that a script writes fits the buffer of a packet. -/
def Script.Fits : Script ω → Prop
  | .done _ => True
  | .write _ octets next => octets.length ≤ sfpConfigMaxPacketSize ∧ ∀ data, (next data).Fits

def Endpoint.Fits (e : Endpoint ω) : Prop :=
  ∀ buf len data, len ≤ sfpConfigMaxPacketSize → (e.react buf len data).Fits

def SfpCall.Fits : SfpCall → Prop
  | .octet _ | .connect => True
  | .write octets => octets.length ≤ sfpConfigMaxPacketSize

namespace Endpoint

variable (e : Endpoint ω) {s : Sfp ω}

theorem writePacket_safe {octets : List UInt8} (hoctets : octets.length ≤ sfpConfigMaxPacketSize)
    (h : s.InBounds) : (sfpWritePacketTraced e.writing octets s).Ensures SfpAccess.InBounds
      fun r => r.2.InBounds := by
  obtain ⟨packets, h⟩ := h
  exact sfpWritePacketTraced_safe (fun _ _ => rfl) hoctets h

theorem runScript_safe {script : Script ω} (hscript : script.Fits) (h : s.InBounds) :
    Safe (e.runScriptTraced script s) := by
  induction script generalizing s with
  | done data => exact .pure h
  | write data octets next ih =>
    exact (e.writePacket_safe (s := { s with user := data }) hscript.1 h).bind
      fun r h => ih _ (hscript.2 _) h

theorem control_safe (header : UInt8) (h : s.InBounds) :
    Safe (sfpTransmitControlTraced e.answering header s) := by
  obtain ⟨packets, h⟩ := h
  exact (sfpTransmitControlTraced_safe (fun _ _ => rfl) header h).safe

theorem resendFrom_safe (seq : UInt8) (h : s.InBounds) :
    Safe (sfpTransmitHistoryFromSeqTraced e.answering seq s) :=
  sfpTransmitHistoryFromSeqTraced_safe (fun _ _ => rfl) seq h

theorem restart_safe (header : UInt8) (connectState : SFPconnectstate) (h : s.InBounds) :
    Safe (do
      let s ← sfpClearHistoryTraced
        { sfpResetReceiver s with
          rx.seq := sfpInitialSeq, tx.seq := sfpInitialSeq }
      let s ← sfpTransmitControlTraced e.answering header s
      return { s with connectState := connectState }) := by
  obtain ⟨packets, h⟩ := h
  have hstart : Bounded packets { sfpResetReceiver s with
      rx.seq := sfpInitialSeq, tx.seq := sfpInitialSeq }.toSFPcontext :=
    ⟨Nat.zero_le _, h.writebuf_le, h.holds, h.packets_le⟩
  exact (sfpClearHistoryTraced_safe hstart).bind fun s h =>
    (e.control_safe header h).bind fun s h => .pure (h.of_tx_eq le_rfl rfl)

theorem resend_safe (h : s.InBounds) : Safe (resendTraced e s) :=
  .ite (fun _ => e.resendFrom_safe _ h) fun _ => .pure h

theorem handleNAK_safe (h : s.InBounds) : Safe (sfpHandleNAKTraced e s) := by
  unfold sfpHandleNAKTraced
  cases s.connectState with
  | disconnected | sentSyn0 | sentSyn1 => exact e.control_safe _ h
  | connected => exact .ite (fun _ => e.resendFrom_safe _ h) fun _ => .pure h

theorem handleSYN1_safe (h : s.InBounds) : Safe (sfpHandleSYN1Traced e s) := by
  refine .ite (fun _ => e.control_safe _ h) fun _ => ?_
  refine (e.control_safe _ h).bind fun s h => ?_
  exact (e.resend_safe h).bind fun s h => .pure (h.of_tx_eq le_rfl rfl)

theorem handleSYN2_safe (h : s.InBounds) : Safe (sfpHandleSYN2Traced e s) := by
  refine .ite (fun _ => e.control_safe _ h) fun _ => ?_
  refine .ite (fun _ => e.control_safe _ h) fun _ => ?_
  exact (e.resend_safe h).bind fun s h => .pure (h.of_tx_eq le_rfl rfl)

theorem handleSYN0_safe (h : s.InBounds) : Safe (sfpHandleSYN0Traced e s) := by
  unfold sfpHandleSYN0Traced
  exact e.restart_safe _ .sentSyn1 h

theorem handleSYN_safe (h : s.InBounds) : Safe (sfpHandleSYNTraced e s) := by
  refine .ite (fun _ => e.handleSYN0_safe h) fun _ => ?_
  refine .ite (fun _ => e.handleSYN1_safe h) fun _ => ?_
  refine .ite (fun _ => e.handleSYN2_safe h) fun _ => ?_
  exact .ite (fun _ => .pure (h.of_tx_eq le_rfl rfl)) fun _ => .pure h

variable (hfits : e.Fits)
include hfits

theorem handleUSR_safe (h : s.InBounds) : Safe (sfpHandleUSRTraced e s) := by
  unfold sfpHandleUSRTraced
  cases s.connectState with
  | disconnected | sentSyn0 | sentSyn1 => exact e.control_safe _ h
  | connected =>
    refine .ite (fun _ => .ite (fun _ => e.control_safe _ h) fun _ => .pure h) fun _ => ?_
    have hlen : s.rx.packet.len ≤ sfpConfigMaxPacketSize := h.choose_spec.len_le
    exact (e.runScript_safe (hfits _ _ _ hlen) h).bind fun s h => .pure (h.of_tx_eq le_rfl rfl)

theorem handleFrame_safe (h : s.InBounds) : Safe (sfpHandleFrameTraced e s) := by
  refine .ite (fun _ => e.control_safe _ h) fun hlong => ?_
  refine .note_bind ?_ ?_
  · exact Nat.not_lt.mp hlong
  have hrewound : SFPcontext.InBounds { s with
      rx.packet.len := s.rx.packet.len - sfpCrcSize }.toSFPcontext :=
    h.of_tx_eq (Nat.sub_le _ _) rfl
  refine .ite (fun _ => e.control_safe _ hrewound) fun _ => ?_
  dsimp only
  cases getFrameType s.rx.header with
  | usr | rtx => exact e.handleUSR_safe hfits hrewound
  | nak => exact e.handleNAK_safe hrewound
  | syn => exact e.handleSYN_safe hrewound

omit e hfits in
theorem bufferOctet_safe (octet : UInt8) (h : s.InBounds) :
    Safe (sfpBufferOctetTraced octet s) := by
  refine .ite (fun _ => .pure (h.of_tx_eq (Nat.zero_le _) rfl)) fun hroom => ?_
  refine .note_bind ?_ (.pure ?_)
  · exact Nat.not_le.mp hroom
  obtain ⟨packets, h⟩ := h
  unfold sfpBufferOctet
  rw [if_neg hroom]
  exact ⟨packets, Nat.not_le.mp hroom, h.writebuf_le, h.holds, h.packets_le⟩

theorem deliverOctet_safe (octet : UInt8) (h : s.InBounds) :
    Safe (sfpDeliverOctetTraced e octet s) := by
  unfold sfpDeliverOctetTraced
  refine .ite (fun _ => ?_) fun _ => .ite (fun _ => .pure (h.of_tx_eq le_rfl rfl)) fun _ => ?_
  · refine .ite (fun _ => ?_) fun _ => .pure (h.of_tx_eq (Nat.zero_le _) rfl)
    exact (e.handleFrame_safe hfits h).bind fun s h => .pure (h.of_tx_eq (Nat.zero_le _) rfl)
  · exact .ite (fun _ => .pure (h.of_tx_eq le_rfl rfl)) fun _ =>
      bufferOctet_safe _ (h.of_tx_eq le_rfl rfl)

theorem call_safe {call : SfpCall} (hcall : call.Fits) (h : s.InBounds) :
    Safe (sfpCallTraced e s call) := by
  cases call with
  | octet octet => exact e.deliverOctet_safe hfits octet h
  | connect => exact e.restart_safe _ .sentSyn0 h
  | write octets =>
    obtain ⟨packets, h⟩ := h
    exact (sfpWritePacketTraced_safe (fun _ _ => rfl) hcall h).bind fun r h => .pure h

end Endpoint

theorem sfpInit_inBounds (s : Sfp ω) : (sfpInit s).InBounds :=
  ⟨[], Nat.zero_le _, Nat.zero_le _, .init historyCapacity _, fun _ hmem => by cases hmem⟩

/-- In a run of calls from `sfpInit`, with its record of accesses, every access is in bounds, and the
packet in the receiver never outgrows its buffer. -/
theorem sfp_accesses_inBounds (e : Endpoint ω) (he : e.Fits) (s : Sfp ω) (calls : List SfpCall)
    (hcalls : ∀ call ∈ calls, call.Fits) :
    let run := calls.foldlM (sfpCallTraced e) (sfpInit s)
    run.value = calls.foldl (sfpCall e.answering) (sfpInit s) ∧
      (∀ access ∈ run.events, access.InBounds) ∧
      run.value.rx.packet.len ≤ sfpConfigMaxPacketSize := by
  have hsafe : Safe (calls.foldlM (sfpCallTraced e) (sfpInit s)) :=
    .foldlM (fun s h call hmem => e.call_safe he (hcalls call hmem) h) (sfpInit_inBounds s)
  obtain ⟨packets, hbounded⟩ := hsafe.value
  refine ⟨?_, hsafe.events, hbounded.len_le⟩
  simp only [Traced.value_foldlM, sfpCallTraced_value]

def echo : Endpoint Unit where
  put _ data := data
  react buf len data := .write data (buf.take len) .done

theorem echo_fits : echo.Fits :=
  fun buf len _ hlen => ⟨(List.length_take_le len buf).trans hlen, fun _ => trivial⟩

theorem sfp_accesses_inBounds_echo :
    let run := handshakeCalls.foldlM (sfpCallTraced echo) (sfpInit ⟨.zero, ()⟩)
    run.value = handshakeCalls.foldl (sfpCall echo.answering) (sfpInit ⟨.zero, ()⟩) ∧
      (∀ access ∈ run.events, access.InBounds) ∧
      run.value.rx.packet.len ≤ sfpConfigMaxPacketSize :=
  sfp_accesses_inBounds echo echo_fits ⟨.zero, ()⟩ handshakeCalls
    (List.forall_mem_map.mpr fun _ _ => trivial)

end TurningPoint
