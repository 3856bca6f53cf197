import TurningPoint.Sfp.Preserve
import TurningPoint.Sfp.TransmitLaws

universe u

namespace TurningPoint

variable {ω : Type u} {cb : Callbacks ω} {wire : ω → List UInt8} {ok : ω → Prop}

/-- Where it ends up `ok`, the write callback has left the context alone and put its octets on the
wire. -/
structure Callbacks.Passes (cb : Callbacks ω) (wire : ω → List UInt8) (ok : ω → Prop) : Prop where
  ok_before : ∀ octets s, ok (cb.write octets s).user → ok s.user
  context_eq : ∀ octets s, ok (cb.write octets s).user →
    (cb.write octets s).toSFPcontext = s.toSFPcontext
  wire_eq : ∀ octets s, ok (cb.write octets s).user →
    wire (cb.write octets s).user = wire s.user ++ octets

def SFPcontext.buffering (writebuf : List UInt8) (c : SFPcontext) : SFPcontext :=
  { c with tx.writebuf := writebuf }

def Sfp.emitted (wire : ω → List UInt8) (s : Sfp ω) : List UInt8 := wire s.user ++ s.tx.writebuf

/-- The writes from `s` to `r` have emitted the octets, and counted them. -/
structure Emission (wire : ω → List UInt8) (ok : ω → Prop) (s : Sfp ω) (octets : List UInt8)
    (crc : UInt16) (r : Nat × Sfp ω) : Prop where
  ok_before : ok s.user
  outlen_eq : r.1 = octets.length
  context_eq : r.2.toSFPcontext =
    { s.toSFPcontext with tx.crc := crc }.buffering r.2.tx.writebuf
  emitted_eq : r.2.emitted wire = s.emitted wire ++ octets

def Emits (wire : ω → List UInt8) (ok : ω → Prop) (s : Sfp ω) (octets : List UInt8)
    (crc : UInt16) (r : Nat × Sfp ω) : Prop :=
  ok r.2.user → Emission wire ok s octets crc r

theorem emitted_wire {s s' : Sfp ω} {octets : List UInt8}
    (h : s'.emitted wire = s.emitted wire ++ octets) (hs : s.tx.writebuf = [])
    (hs' : s'.tx.writebuf = []) : wire s'.user = wire s.user ++ octets := by
  rwa [Sfp.emitted, Sfp.emitted, hs, hs', List.append_nil, List.append_nil] at h

namespace Callbacks.Passes

variable {s : Sfp ω} {octets : List UInt8} {crc : UInt16} {r : Nat × Sfp ω}

theorem transmits_not (h : cb.Passes wire ok) : Transmits cb (fun s => ¬ ok s.user) :=
  ⟨fun octets s => mt (h.ok_before octets s), fun _ _ hs => hs⟩

theorem flush (h : cb.Passes wire ok) (s : Sfp ω) (hok : ok (sfpFlushWriteBuffer cb s).user) :
    ok s.user ∧
      (sfpFlushWriteBuffer cb s).toSFPcontext = s.toSFPcontext.buffering [] ∧
      wire (sfpFlushWriteBuffer cb s).user = s.emitted wire :=
  ⟨h.ok_before _ s hok, congrArg (SFPcontext.buffering []) (h.context_eq _ s hok),
    h.wire_eq _ s hok⟩

theorem emits_start (s : Sfp ω) :
    Emits wire ok s [] sfpCrcPreset (0, { s with tx.crc := sfpCrcPreset }) :=
  fun hok => ⟨hok, rfl, rfl, (List.append_nil _).symm⟩

theorem emits_bufferedWrite (h : cb.Passes wire ok) (hr : Emits wire ok s octets crc r)
    (octet : UInt8) : Emits wire ok s (octets ++ [octet]) crc (sfpBufferedWrite cb octet r) := by
  obtain ⟨outlen, s'⟩ := r
  have hcount (hr : Emission wire ok s octets crc (outlen, s')) :
      outlen + 1 = (octets ++ [octet]).length := by
    rw [List.length_append, ← hr.outlen_eq]
    rfl
  unfold sfpBufferedWrite
  dsimp only
  split
  · intro hok
    obtain ⟨hbefore, hcontext, hwire⟩ := h.flush s' hok
    have hr := hr hbefore
    refine ⟨hr.ok_before, hcount hr, ?_, ?_⟩
    · have hflushed := hcontext.trans (congrArg (SFPcontext.buffering []) hr.context_eq)
      have hbuffered := congrArg (SFPcontext.buffering [octet]) hflushed
      exact hbuffered
    · rw [← List.append_assoc, ← hr.emitted_eq]
      exact congrArg (· ++ [octet]) hwire
  · intro hok
    have hr := hr hok
    refine ⟨hr.ok_before, hcount hr, ?_, ?_⟩
    · have hbuffered := congrArg (SFPcontext.buffering (s'.tx.writebuf ++ [octet])) hr.context_eq
      exact hbuffered
    · rw [← List.append_assoc, ← hr.emitted_eq]
      exact (List.append_assoc ..).symm

theorem writing (h : cb.Passes wire ok) (s : Sfp ω) : Writing cb (Emits wire ok s) where
  octet _ _ _ octet hr := h.emits_bufferedWrite hr octet
  crc octets crc outlen s' octet hr := by
    intro hok
    have hr := hr hok
    have heq : s'.tx.crc = crc := congrArg (fun c : SFPcontext => c.tx.crc) hr.context_eq
    refine ⟨hr.ok_before, hr.outlen_eq, ?_, hr.emitted_eq⟩
    have hchecked := congrArg
      (fun c : SFPcontext => { c with tx.crc := crcCcittUpdate crc octet }) hr.context_eq
    rw [heq]
    exact hchecked

/-- A frame puts exactly its octets on the wire, behind whatever was still in the buffer, and leaves
the buffer empty. -/
theorem transmitFrameWithHeader (h : cb.Passes wire ok) (header : UInt8)
    (packet : Option SFPpacket) (s : Sfp ω)
    (hok : ok (sfpTransmitFrameWithHeader cb header packet s).2.user) :
    Emission wire ok s (wireFrame header (packetOctets packet)) (crcOf (header :: packetOctets packet))
      (sfpTransmitFrameWithHeader cb header packet s) ∧
    (sfpTransmitFrameWithHeader cb header packet s).2.tx.writebuf = [] := by
  have hopened := (h.writing s).openFrame header (packetOctets packet) s (emits_start s)
  have hnot := h.transmits_not
  have hbefore := by_contra fun hbad => hnot.sfpFlushWriteBuffer_keeps
    (hnot.sfpBufferedWrite_keeps sfpFlag (hnot.sfpWriteNoCRC_keeps _
      (hnot.sfpWriteNoCRC_keeps _ hbad))) hok
  have hcrc : _ = crcOf (header :: packetOctets packet) :=
    congrArg (fun c : SFPcontext => c.tx.crc) (hopened hbefore).context_eq
  have hframe := (h.writing s).closeFrame hopened
  rw [sfpTransmitFrameWithHeader_eq] at hok ⊢
  dsimp only at hok ⊢
  rw [hcrc] at hok ⊢
  obtain ⟨hok, hcontext, hwire⟩ := h.flush _ hok
  have hframe := hframe hok
  refine ⟨⟨hframe.ok_before, hframe.outlen_eq, ?_, ?_⟩, rfl⟩
  · have hflushed := hcontext.trans (congrArg (SFPcontext.buffering []) hframe.context_eq)
    exact hflushed
  · rw [← hframe.emitted_eq, ← hwire]
    exact List.append_nil _

end Callbacks.Passes

end TurningPoint
