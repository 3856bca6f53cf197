import TurningPoint.Sfp.History
import TurningPoint.Sfp.Receive

universe u

namespace TurningPoint

variable {ω : Type u} {cb : Callbacks ω} {P : Sfp ω → Prop} {s : Sfp ω}

/-- `P` survives the transmitter: what is written, and what the transmitter stores. -/
structure Transmits (cb : Callbacks ω) (P : Sfp ω → Prop) : Prop where
  write : ∀ octets s, P s → P (cb.write octets s)
  tx : ∀ tx s, P s → P { s with tx := tx }

namespace Transmits

variable (hP : Transmits cb P)
include hP

theorem sfpFlushWriteBuffer_keeps (hs : P s) : P (sfpFlushWriteBuffer cb s) :=
  hP.tx _ _ (hP.write _ _ hs)

theorem sfpBufferedWrite_keeps (octet : UInt8) {r : Nat × Sfp ω} (hr : P r.2) :
    P (sfpBufferedWrite cb octet r).2 := by
  refine hP.tx _ _ ?_
  split
  · exact hP.sfpFlushWriteBuffer_keeps hr
  · exact hr

theorem sfpWriteNoCRC_keeps (octet : UInt8) {r : Nat × Sfp ω} (hr : P r.2) :
    P (sfpWriteNoCRC cb octet r).2 := by
  unfold sfpWriteNoCRC
  split
  · exact hP.sfpBufferedWrite_keeps _ (hP.sfpBufferedWrite_keeps _ hr)
  · exact hP.sfpBufferedWrite_keeps _ hr

theorem sfpWrite_keeps (octet : UInt8) {r : Nat × Sfp ω} (hr : P r.2) :
    P (sfpWrite cb octet r).2 :=
  hP.sfpWriteNoCRC_keeps _ (hP.tx _ _ hr)

theorem sfpTransmitFrameWithHeader_keeps (header : UInt8) (packet : Option SFPpacket) (hs : P s) :
    P (sfpTransmitFrameWithHeader cb header packet s).2 := by
  have hpacket (octets : List UInt8) {r : Nat × Sfp ω} (hr : P r.2) :
      P (octets.foldl (fun r octet => sfpWrite cb octet r) r).2 :=
    List.foldlRecOn (motive := fun r : Nat × Sfp ω => P r.2) octets _ hr fun _ hr octet _ =>
      hP.sfpWrite_keeps octet hr
  have hopen := hP.sfpBufferedWrite_keeps sfpFlag (r := (0, { s with tx.crc := sfpCrcPreset }))
    (hP.tx _ _ hs)
  exact hP.sfpFlushWriteBuffer_keeps (hP.sfpBufferedWrite_keeps _ (hP.sfpWriteNoCRC_keeps _
    (hP.sfpWriteNoCRC_keeps _ (hpacket _ (hP.sfpWrite_keeps header hopen)))))

theorem sfpTransmitControl_keeps (header : UInt8) (hs : P s) :
    P (sfpTransmitControl cb header s) :=
  hP.sfpTransmitFrameWithHeader_keeps header none hs

theorem sfpTransmitFrameImpl_keeps (packet : SFPpacket) (retransmit : Bool) (hs : P s) :
    P (sfpTransmitFrameImpl cb packet retransmit s).2 := by
  refine hP.tx _ _ (hP.sfpTransmitFrameWithHeader_keeps _ _ ?_)
  split
  · exact hs
  · exact hP.tx _ _ hs

theorem sfpWritePacket_keeps (octets : List UInt8) (hs : P s) :
    P (sfpWritePacket cb octets s).2 :=
  hP.sfpTransmitFrameImpl_keeps _ _ hs

theorem sfpTransmitHistory_keeps (hs : P s) : P (sfpTransmitHistory cb s) :=
  List.foldlRecOn _ _ hs fun _ hs _ _ => hP.sfpTransmitFrameImpl_keeps _ _ hs

theorem sfpTransmitHistoryFromSeq_keeps (seq : UInt8) (hs : P s) :
    P (sfpTransmitHistoryFromSeq cb seq s) := by
  refine hP.sfpTransmitHistory_keeps (hP.tx _ _ ?_)
  split
  · exact hP.tx _ _ hs
  · exact hs

theorem resend_keeps (hs : P s) : P (if sfpInitialSeq ≠ s.tx.seq then
    sfpTransmitHistoryFromSeq cb sfpInitialSeq s else s) := by
  split
  · exact hP.sfpTransmitHistoryFromSeq_keeps _ hs
  · exact hs

end Transmits

structure Handles (cb : Callbacks ω) (P : Sfp ω → Prop) : Prop extends Transmits cb P where
  rx : ∀ rx s, P s → P { s with rx := rx }
  connectState : ∀ connectState s, P s → P { s with connectState := connectState }

def Delivers (cb : Callbacks ω) (P : Sfp ω → Prop) (s : Sfp ω) : Prop :=
  ∀ deliver rx, cb.deliver = some deliver → s.connectState = .connected →
    P (deliver rx.packet.buf rx.packet.len { s with rx := rx })

def SFPreceiver.Intact (rx : SFPreceiver) : Prop :=
  sfpCrcSize ≤ rx.packet.len ∧ sfpCrcGood = rx.crc

instance : DecidablePred SFPreceiver.Intact := fun _ => inferInstanceAs (Decidable (_ ∧ _))

/-- The number from which the frame in the receiver has packets sent again, if it does. -/
def SFPcontext.asked (s : SFPcontext) : Option UInt8 :=
  match getFrameType s.rx.header with
  | .nak => if s.connectState = .connected then some (getFrameSeq s.rx.header) else none
  | .syn =>
    if getFrameSeq s.rx.header = sfpSeqSyn1 ∧ s.connectState ≠ .disconnected ∨
        getFrameSeq s.rx.header = sfpSeqSyn2 ∧ s.connectState ≠ .disconnected ∧
          s.connectState ≠ .sentSyn0 then
      some sfpInitialSeq
    else none
  | .usr | .rtx => none

theorem SFPcontext.asked_lt {s : SFPcontext} {seq : UInt8} (h : seq ∈ s.asked) : seq < 64 := by
  unfold SFPcontext.asked at h
  split at h
  · split at h
    · obtain rfl := Option.some_inj.mp h
      exact and_seqMask_lt _
    · cases h
  · split at h
    · obtain rfl := Option.some_inj.mp h
      decide
    · cases h
  · cases h
  · cases h

theorem SFPcontext.asked_cases {s : SFPcontext} {seq : UInt8} (h : seq ∈ s.asked) :
    s.connectState = .connected ∨ getFrameType s.rx.header = .syn ∧ seq = sfpInitialSeq := by
  unfold SFPcontext.asked at h
  split at h
  · split at h
    case isTrue hconnected => exact .inl hconnected
    case isFalse => cases h
  case h_2 htype =>
    split at h
    · exact .inr ⟨htype, (Option.some_inj.mp h).symm⟩
    · cases h
  · cases h
  · cases h

theorem sfpHandleFrame_syn (cb : Callbacks ω) (hintact : s.rx.Intact)
    (htype : getFrameType s.rx.header = .syn) : sfpHandleFrame cb s =
      sfpHandleSYN cb { s with rx.packet.len := s.rx.packet.len - sfpCrcSize } := by
  unfold sfpHandleFrame
  rw [if_neg (Nat.not_lt.mpr hintact.1)]
  dsimp only
  rw [if_neg (not_not.mpr hintact.2), htype]

theorem sfpHandleFrame_user (cb : Callbacks ω) (hintact : s.rx.Intact)
    (htype : getFrameType s.rx.header = .usr ∨ getFrameType s.rx.header = .rtx) :
    sfpHandleFrame cb s =
      sfpHandleUSR cb { s with rx.packet.len := s.rx.packet.len - sfpCrcSize } := by
  unfold sfpHandleFrame
  rw [if_neg (Nat.not_lt.mpr hintact.1)]
  dsimp only
  rw [if_neg (not_not.mpr hintact.2)]
  rcases htype with htype | htype
  · rw [htype]
  · rw [htype]

theorem sfpHandleUSR_delivers {cb : Callbacks ω} {deliver : List UInt8 → Nat → Sfp ω → Sfp ω}
    (hcb : cb.deliver = some deliver) (hconnected : s.connectState = .connected)
    (hseq : getFrameSeq s.rx.header = s.rx.seq) :
    let delivered := deliver s.rx.packet.buf s.rx.packet.len s
    sfpHandleUSR cb s = { delivered with rx.seq := nextSeq delivered.rx.seq } := by
  unfold sfpHandleUSR
  rw [hconnected]
  dsimp only
  rw [if_neg (not_not.mpr hseq), hcb]

theorem sfpHandleFrame_completes (cb : Callbacks ω) (hintact : s.rx.Intact)
    (htype : getFrameType s.rx.header = .syn) (hasked : sfpInitialSeq ∈ s.asked) :
    (getFrameSeq s.rx.header = sfpSeqSyn1 ∨ getFrameSeq s.rx.header = sfpSeqSyn2) ∧
      (sfpHandleFrame cb s).connectState = .connected := by
  simp only [SFPcontext.asked, htype] at hasked
  rw [sfpHandleFrame_syn cb hintact htype]
  unfold sfpHandleSYN
  dsimp only
  split at hasked
  case isFalse => cases hasked
  case isTrue hcase =>
    rcases hcase with ⟨hseq, hdisconnected⟩ | ⟨hseq, hdisconnected, hsyn0⟩
    · refine ⟨.inl hseq, ?_⟩
      rw [hseq, if_neg (by decide), if_pos rfl, sfpHandleSYN1, if_neg hdisconnected]
    · refine ⟨.inr hseq, ?_⟩
      rw [hseq, if_neg (by decide), if_neg (by decide), if_pos rfl, sfpHandleSYN2,
        if_neg hdisconnected, if_neg hsyn0]

structure Handling (cb : Callbacks ω) (s : Sfp ω) (B : Sfp ω → Prop) : Prop where
  rx : ∀ rx s, B s → B { s with rx := rx }
  connectState : ∀ connectState s, B s → B { s with connectState := connectState }
  quiet : ∀ rx, B { s with rx := rx }
  control : ∀ rx header, getFrameType header = .nak ∨ getFrameType header = .syn →
    B (sfpTransmitControl cb header { s with rx := rx })
  deliver : Delivers cb B s
  resend : s.rx.Intact → ∀ rx, ∀ seq ∈ s.asked, seq ≠ s.tx.seq →
    B (sfpTransmitHistoryFromSeq cb seq { s with rx := rx })
  restart : s.rx.Intact → getFrameType s.rx.header = .syn →
    getFrameSeq s.rx.header = sfpSeqSyn0 → ∀ rx,
      B (sfpTransmitSYN1 cb (sfpClearHistory { s with rx := rx, tx.seq := sfpInitialSeq }))
  confirm : s.rx.Intact → getFrameType s.rx.header = .syn → sfpInitialSeq ∈ s.asked → ∀ rx,
    sfpInitialSeq ≠ (sfpTransmitSYN2 cb { s with rx := rx }).tx.seq →
      B (sfpTransmitHistoryFromSeq cb sfpInitialSeq (sfpTransmitSYN2 cb { s with rx := rx }))

namespace Handling

variable {B : Sfp ω → Prop} (h : Handling cb s B) (rx : SFPreceiver)
include h

theorem nak (seq : UInt8) : B (sfpTransmitNAK cb seq { s with rx := rx }) :=
  h.control rx _ (getFrameType_control seq (.inl rfl))

theorem handleUSR : B (sfpHandleUSR cb { s with rx := rx }) := by
  unfold sfpHandleUSR
  split
  · exact h.control rx _ (by decide)
  · exact h.control rx _ (by decide)
  · exact h.control rx _ (by decide)
  case h_4 hconnected =>
    split_ifs
    · exact h.nak rx _
    · exact h.quiet rx
    · refine h.rx _ _ ?_
      split
      case h_1 deliver heq => exact h.deliver deliver rx heq hconnected
      case h_2 => exact h.quiet rx

variable (hintact : s.rx.Intact)
include hintact

theorem handleNAK (htype : getFrameType s.rx.header = .nak) (hheader : rx.header = s.rx.header) :
    B (sfpHandleNAK cb { s with rx := rx }) := by
  unfold sfpHandleNAK
  split
  · exact h.control rx _ (by decide)
  · exact h.control rx _ (by decide)
  · exact h.control rx _ (by decide)
  case h_4 hconnected =>
    have hconnected : s.connectState = .connected := hconnected
    have hasked : s.asked = some (getFrameSeq rx.header) := by
      simp only [SFPcontext.asked, htype, if_pos hconnected, hheader]
    dsimp only
    split
    case isTrue hne => exact h.resend hintact rx _ hasked hne
    case isFalse => exact h.quiet rx

theorem handleSYN0 (htype : getFrameType s.rx.header = .syn)
    (hseq : getFrameSeq s.rx.header = sfpSeqSyn0) : B (sfpHandleSYN0 cb { s with rx := rx }) :=
  h.connectState _ _ (h.restart hintact htype hseq _)

theorem handleSYN1 (htype : getFrameType s.rx.header = .syn)
    (hseq : getFrameSeq s.rx.header = sfpSeqSyn1) : B (sfpHandleSYN1 cb { s with rx := rx }) := by
  unfold sfpHandleSYN1
  split
  · exact h.control rx _ (by decide)
  case isFalse hdisconnected =>
    have hasked : s.asked = some sfpInitialSeq := by
      simp only [SFPcontext.asked, htype]
      exact if_pos (.inl ⟨hseq, hdisconnected⟩)
    refine h.connectState _ _ ?_
    split
    case isTrue hne => exact h.confirm hintact htype hasked rx hne
    case isFalse => exact h.control rx _ (by decide)

theorem handleSYN2 (htype : getFrameType s.rx.header = .syn)
    (hseq : getFrameSeq s.rx.header = sfpSeqSyn2) : B (sfpHandleSYN2 cb { s with rx := rx }) := by
  unfold sfpHandleSYN2
  split
  · exact h.control rx _ (by decide)
  case isFalse hdisconnected =>
    split
    · exact h.control rx _ (by decide)
    case isFalse hsyn0 =>
      have hasked : s.asked = some sfpInitialSeq := by
        simp only [SFPcontext.asked, htype]
        exact if_pos (.inr ⟨hseq, hdisconnected, hsyn0⟩)
      refine h.connectState _ _ ?_
      split
      case isTrue hne => exact h.resend hintact rx _ hasked hne
      case isFalse => exact h.quiet rx

theorem handleSYN (htype : getFrameType s.rx.header = .syn) (hheader : rx.header = s.rx.header) :
    B (sfpHandleSYN cb { s with rx := rx }) := by
  unfold sfpHandleSYN
  dsimp only
  rw [hheader]
  split_ifs with h0 h1 h2
  · exact h.handleSYN0 rx hintact htype h0
  · exact h.handleSYN1 rx hintact htype h1
  · exact h.handleSYN2 rx hintact htype h2
  · exact h.connectState _ _ (h.quiet rx)
  · exact h.quiet rx

omit hintact

theorem handleFrame : B (sfpHandleFrame cb s) := by
  unfold sfpHandleFrame
  split
  case isTrue => exact h.nak s.rx _
  case isFalse hlong =>
    dsimp only
    split
    case isTrue => exact h.nak _ _
    case isFalse hgood =>
      have hintact : s.rx.Intact := ⟨Nat.not_lt.mp hlong, not_not.mp hgood⟩
      split
      · exact h.handleUSR _
      · exact h.handleUSR _
      case h_3 htype => exact h.handleNAK _ hintact htype rfl
      case h_4 htype => exact h.handleSYN _ hintact htype rfl

end Handling

namespace Handles

variable (hP : Handles cb P)
include hP

theorem handling (hdeliver : Delivers cb P s) (hs : P s) : Handling cb s P where
  rx := hP.rx
  connectState := hP.connectState
  quiet rx := hP.rx rx s hs
  control rx header _ := hP.sfpTransmitControl_keeps header (hP.rx rx s hs)
  deliver := hdeliver
  resend _ rx seq _ _ := hP.sfpTransmitHistoryFromSeq_keeps seq (hP.rx rx s hs)
  restart _ _ _ rx := hP.sfpTransmitControl_keeps _ (hP.tx _ _ (hP.tx _ _ (hP.rx rx s hs)))
  confirm _ _ _ rx _ := hP.sfpTransmitHistoryFromSeq_keeps _
    (hP.sfpTransmitControl_keeps _ (hP.rx rx s hs))

theorem sfpBufferOctet_keeps (octet : UInt8) (hs : P s) : P (sfpBufferOctet octet s) := by
  unfold sfpBufferOctet
  split
  · exact hP.rx _ _ hs
  · exact hP.rx _ _ hs

theorem sfpDeliverOctet_keeps (octet : UInt8) (hdeliver : Delivers cb P s) (hs : P s) :
    P (sfpDeliverOctet cb octet s) := by
  unfold sfpDeliverOctet
  dsimp only
  split
  · refine hP.rx _ _ ?_
    split
    · exact (hP.handling hdeliver hs).handleFrame
    · exact hs
  split
  · exact hP.rx _ _ hs
  split
  · exact hP.rx _ _ hs
  · exact hP.sfpBufferOctet_keeps _ (hP.rx _ _ hs)

end Handles

end TurningPoint
