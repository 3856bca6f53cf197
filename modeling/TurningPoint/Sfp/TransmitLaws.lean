import TurningPoint.Sfp.Transmit
import TurningPoint.Sfp.Crc
import TurningPoint.Lib.Coding

universe u

namespace TurningPoint

def sfpStuffing : Lib.Stuffing UInt8 where
  flag := sfpFlag
  esc := sfpEsc
  flip x := x ^^^ sfpEscFlipBit
  flag_ne_esc := by decide
  flip_flip x := by rw [UInt8.xor_assoc, UInt8.xor_self, UInt8.xor_zero]
  flip_flag := by decide
  flip_esc := by decide

def frameOctets (header : UInt8) (payload : List UInt8) : List UInt8 :=
  header :: payload ++ crcOctets (crcOf (header :: payload))

def frameBody (header : UInt8) (payload : List UInt8) : List UInt8 :=
  (frameOctets header payload).flatMap sfpStuffing.stuff

def wireFrame (header : UInt8) (payload : List UInt8) : List UInt8 :=
  sfpFlag :: frameBody header payload ++ [sfpFlag]

theorem wireFrame_eq (header : UInt8) (payload : List UInt8) :
    wireFrame header payload =
      [sfpFlag] ++ (header :: payload).flatMap sfpStuffing.stuff ++
        sfpStuffing.stuff (~~~crcOf (header :: payload) &&& (0x00ff : UInt16)).toUInt8 ++
        sfpStuffing.stuff ((~~~crcOf (header :: payload) >>> 8) &&& (0x00ff : UInt16)).toUInt8 ++
        [sfpFlag] := by
  simp [wireFrame, frameBody, frameOctets, crcOctets]

theorem flag_not_mem_frameBody (header : UInt8) (payload : List UInt8) :
    sfpFlag ∉ frameBody header payload :=
  sfpStuffing.flag_not_mem_stuffed _

theorem isReservedOctet_iff (octet : UInt8) :
    isReservedOctet octet = true ↔ sfpStuffing.Reserved octet := by
  simp [isReservedOctet, Lib.Stuffing.Reserved, sfpStuffing, or_comm]

variable {ω : Type u} {cb : Callbacks ω}

theorem sfpWriteNoCRC_eq (cb : Callbacks ω) (octet : UInt8) (r : Nat × Sfp ω) :
    sfpWriteNoCRC cb octet r =
      (sfpStuffing.stuff octet).foldl (fun r octet => sfpBufferedWrite cb octet r) r := by
  unfold sfpWriteNoCRC Lib.Stuffing.stuff
  by_cases hreserved : sfpStuffing.Reserved octet
  · rw [if_pos hreserved, if_pos ((isReservedOctet_iff octet).mpr hreserved)]
    rfl
  · rw [if_neg hreserved, if_neg (mt (isReservedOctet_iff octet).mp hreserved)]
    rfl

def openFrame (cb : Callbacks ω) (header : UInt8) (payload : List UInt8) (s : Sfp ω) : Nat × Sfp ω :=
  payload.foldl (fun r octet => sfpWrite cb octet r)
    (sfpWrite cb header (sfpBufferedWrite cb sfpFlag (0, { s with tx.crc := sfpCrcPreset })))

def closeFrame (cb : Callbacks ω) (crc : UInt16) (r : Nat × Sfp ω) : Nat × Sfp ω :=
  sfpBufferedWrite cb sfpFlag
    ((crcOctets crc).foldl (fun r octet => sfpWriteNoCRC cb octet r) r)

theorem sfpTransmitFrameWithHeader_eq (cb : Callbacks ω) (header : UInt8) (packet : Option SFPpacket)
    (s : Sfp ω) :
    sfpTransmitFrameWithHeader cb header packet s =
      let opened := openFrame cb header (packetOctets packet) s
      let closed := closeFrame cb opened.2.tx.crc opened
      (closed.1, sfpFlushWriteBuffer cb closed.2) := rfl

/-- `R` says of the octets written so far, and of the CRC of them, what they have come to; each octet
on its own keeps it up. -/
structure Writing (cb : Callbacks ω) (R : List UInt8 → UInt16 → Nat × Sfp ω → Prop) : Prop where
  octet : ∀ octets crc r octet, R octets crc r →
    R (octets ++ [octet]) crc (sfpBufferedWrite cb octet r)
  crc : ∀ octets crc outlen s octet, R octets crc (outlen, s) →
    R octets (crcCcittUpdate crc octet)
      (outlen, { s with tx.crc := crcCcittUpdate s.tx.crc octet })

namespace Writing

variable {R : List UInt8 → UInt16 → Nat × Sfp ω → Prop} {octets : List UInt8} {crc : UInt16}
  {r : Nat × Sfp ω}

theorem writeNoCRC (hW : Writing cb R) (hr : R octets crc r) (octet : UInt8) :
    R (octets ++ sfpStuffing.stuff octet) crc (sfpWriteNoCRC cb octet r) := by
  rw [sfpWriteNoCRC_eq]
  generalize sfpStuffing.stuff octet = stuffed
  induction stuffed generalizing octets r with
  | nil => rwa [List.append_nil]
  | cons octet stuffed ih =>
    rw [List.append_cons]
    exact ih (hW.octet octets crc r octet hr)

theorem write (hW : Writing cb R) (hr : R octets crc r) (octet : UInt8) :
    R (octets ++ sfpStuffing.stuff octet) (crcCcittUpdate crc octet) (sfpWrite cb octet r) :=
  hW.writeNoCRC (hW.crc octets crc r.1 r.2 octet hr) octet

theorem writeAll (hW : Writing cb R) (hr : R octets crc r) (payload : List UInt8) :
    R (octets ++ payload.flatMap sfpStuffing.stuff) (payload.foldl crcCcittUpdate crc)
      (payload.foldl (fun r octet => sfpWrite cb octet r) r) := by
  induction payload generalizing octets crc r with
  | nil => rwa [List.flatMap_nil, List.append_nil]
  | cons octet payload ih =>
    rw [List.flatMap_cons, ← List.append_assoc]
    exact ih (hW.write hr octet)

theorem openFrame (hW : Writing cb R) (header : UInt8) (payload : List UInt8) (s : Sfp ω)
    (hstart : R [] sfpCrcPreset (0, { s with tx.crc := sfpCrcPreset })) :
    R ([sfpFlag] ++ (header :: payload).flatMap sfpStuffing.stuff) (crcOf (header :: payload))
      (openFrame cb header payload s) :=
  hW.writeAll (hW.octet [] sfpCrcPreset _ sfpFlag hstart) (header :: payload)

theorem closeFrame (hW : Writing cb R) {header : UInt8} {payload : List UInt8}
    (hr : R ([sfpFlag] ++ (header :: payload).flatMap sfpStuffing.stuff)
      (crcOf (header :: payload)) r) :
    R (wireFrame header payload) (crcOf (header :: payload))
      (closeFrame cb (crcOf (header :: payload)) r) := by
  have hclosed := hW.octet _ _ _ sfpFlag (hW.writeNoCRC (hW.writeNoCRC hr
    (~~~crcOf (header :: payload) &&& (0x00ff : UInt16)).toUInt8)
    ((~~~crcOf (header :: payload) >>> 8) &&& (0x00ff : UInt16)).toUInt8)
  rw [wireFrame_eq]
  exact hclosed

end Writing

def Buffered (s : Sfp ω) (octets : List UInt8) (crc : UInt16) (r : Nat × Sfp ω) : Prop :=
  octets.length ≤ sfpConfigWritebufSize → r.2 = { s with tx.crc := crc, tx.writebuf := octets }

theorem buffered_writing (cb : Callbacks ω) (s : Sfp ω) : Writing cb (Buffered s) where
  octet octets crc r octet hr hroom := by
    obtain ⟨outlen, s'⟩ := r
    rw [List.length_append, List.length_singleton] at hroom
    obtain rfl := hr (Nat.le_of_succ_le hroom)
    have hfits : ¬ sfpConfigWritebufSize ≤ octets.length := Nat.not_le.mpr hroom
    unfold sfpBufferedWrite
    dsimp only
    rw [if_neg hfits]
  crc octets crc outlen s' octet hr hroom := by
    obtain rfl := hr hroom
    rfl

theorem buffered_start {s : Sfp ω} (hempty : s.tx.writebuf = []) :
    Buffered s [] sfpCrcPreset (0, { s with tx.crc := sfpCrcPreset }) := by
  intro hroom
  rw [← hempty]

theorem sfpTransmitFrameWithHeader_short (cb : Callbacks ω) {header : UInt8}
    {packet : Option SFPpacket} {s : Sfp ω} (hempty : s.tx.writebuf = [])
    (hroom : (wireFrame header (packetOctets packet)).length ≤ sfpConfigWritebufSize) :
    (sfpTransmitFrameWithHeader cb header packet s).2 =
      sfpFlushWriteBuffer cb { s with
        tx.crc := crcOf (header :: packetOctets packet)
        tx.writebuf := wireFrame header (packetOctets packet) } := by
  have hW := buffered_writing cb s
  have hopened := hW.openFrame header (packetOctets packet) s (buffered_start hempty)
  have hlen : ([sfpFlag] ++ (header :: packetOctets packet).flatMap sfpStuffing.stuff).length ≤
      (wireFrame header (packetOctets packet)).length := by
    simp only [wireFrame_eq, List.length_append]
    omega
  have hcrc := congrArg (fun s : Sfp ω => s.tx.crc) (hopened (hlen.trans hroom))
  rw [sfpTransmitFrameWithHeader_eq]
  dsimp only at hcrc ⊢
  rw [hcrc]
  exact congrArg (sfpFlushWriteBuffer cb) (hW.closeFrame hopened hroom)

variable {out : List UInt8 → ω → ω}

structure Callbacks.Plain (cb : Callbacks ω) (out : List UInt8 → ω → ω) : Prop where
  write_eq : ∀ octets s, cb.write octets s = { s with user := out octets s.user }
  out_nil : ∀ u, out [] u = u
  out_append : ∀ a b u, out (a ++ b) u = out b (out a u)

def Sfp.settled (out : List UInt8 → ω → ω) (s : Sfp ω) : Sfp ω :=
  { s with tx.writebuf := [], user := out s.tx.writebuf s.user }

/-- Starting from `s`, the writes that led to `r` have put out `octets` and left the CRC `crc`,
once the buffer is flushed. -/
def Sent (out : List UInt8 → ω → ω) (s : Sfp ω) (octets : List UInt8) (crc : UInt16)
    (r : Nat × Sfp ω) : Prop :=
  r.2.settled out =
    { s.settled out with tx.crc := crc, user := out octets (s.settled out).user }

theorem Sent.crc_eq {s : Sfp ω} {octets : List UInt8} {crc : UInt16} {r : Nat × Sfp ω}
    (hr : Sent out s octets crc r) : r.2.tx.crc = crc :=
  congrArg (fun s : Sfp ω => s.tx.crc) hr

namespace Callbacks.Plain

variable {s : Sfp ω} {octets : List UInt8} {crc : UInt16} {r : Nat × Sfp ω}

theorem flush_eq (h : cb.Plain out) (s : Sfp ω) : sfpFlushWriteBuffer cb s = s.settled out := by
  rw [sfpFlushWriteBuffer, h.write_eq, Sfp.settled]

theorem settled_of_empty (h : cb.Plain out) (hs : s.tx.writebuf = []) : s.settled out = s := by
  obtain ⟨⟨⟨seq, crc, history, writebuf⟩, rx, connectState⟩, user⟩ := s
  simp only at hs
  subst hs
  simp [Sfp.settled, h.out_nil]

theorem sent_bufferedWrite (h : cb.Plain out) (hr : Sent out s octets crc r) (octet : UInt8) :
    Sent out s (octets ++ [octet]) crc (sfpBufferedWrite cb octet r) := by
  obtain ⟨outlen, s'⟩ := r
  have hout : (sfpBufferedWrite cb octet (outlen, s')).2.settled out =
      { s'.settled out with user := out [octet] (s'.settled out).user } := by
    simp only [sfpBufferedWrite, h.flush_eq]
    split
    · rfl
    · simp [Sfp.settled, h.out_append]
  unfold Sent at hr ⊢
  rw [hout, hr, h.out_append]

theorem writing (h : cb.Plain out) (s : Sfp ω) : Writing cb (Sent out s) where
  octet _ _ _ octet hr := h.sent_bufferedWrite hr octet
  crc octets crc outlen s' octet hr := by
    have hcrc : s'.tx.crc = crc := hr.crc_eq
    have hset : s'.settled out =
        { s.settled out with tx.crc := crc, user := out octets (s.settled out).user } := hr
    calc
      Sfp.settled out { s' with tx.crc := crcCcittUpdate s'.tx.crc octet } =
          { s'.settled out with tx.crc := crcCcittUpdate crc octet } := by rw [hcrc]; rfl
      _ = _ := by rw [hset]

theorem transmitFrameWithHeader_eq (h : cb.Plain out) (header : UInt8) (packet : Option SFPpacket)
    (s : Sfp ω) :
    (sfpTransmitFrameWithHeader cb header packet s).2 =
      { s.settled out with
        tx.crc := crcOf (header :: packetOctets packet)
        user := out (wireFrame header (packetOctets packet)) (s.settled out).user } := by
  have hstart : Sent out s [] sfpCrcPreset (0, { s with tx.crc := sfpCrcPreset }) := by
    simp [Sent, Sfp.settled, h.out_nil]
  have hopened := (h.writing s).openFrame header (packetOctets packet) s hstart
  rw [sfpTransmitFrameWithHeader_eq]
  dsimp only
  rw [h.flush_eq, hopened.crc_eq]
  exact (h.writing s).closeFrame hopened

theorem transmitFrameWithHeader_fresh (h : cb.Plain out) (header : UInt8)
    (packet : Option SFPpacket) (hs : s.tx.writebuf = []) :
    (sfpTransmitFrameWithHeader cb header packet s).2 =
      { s with
        tx.crc := crcOf (header :: packetOctets packet)
        user := out (wireFrame header (packetOctets packet)) s.user } := by
  rw [h.transmitFrameWithHeader_eq, h.settled_of_empty hs]

end Callbacks.Plain

end TurningPoint
