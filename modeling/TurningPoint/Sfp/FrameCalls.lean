import TurningPoint.Sfp.TransmitLaws

universe u

namespace TurningPoint

def begunHeader : List UInt8 → Option UInt8
  | flag :: octet :: octets =>
    if flag ≠ sfpFlag then none
    else if octet = sfpEsc then octets.head?.map (· ^^^ sfpEscFlipBit)
    else some octet
  | _ => none

theorem begunHeader_first (header : UInt8) (rest : List UInt8) :
    begunHeader (sfpFlag :: sfpStuffing.stuff header ++ rest) = some header := by
  unfold Lib.Stuffing.stuff
  split
  case isTrue => exact congrArg some (sfpStuffing.flip_flip header)
  case isFalse hplain =>
    have hesc : header ≠ sfpEsc := (not_or.mp hplain).2
    simp [begunHeader, hesc]

theorem begunHeader_later {octets : List UInt8} (h : sfpFlag ∉ octets) :
    begunHeader octets = none := by
  unfold begunHeader
  split
  case h_1 =>
    rw [if_pos]
    exact Ne.symm (List.ne_of_not_mem_cons h)
  case h_2 => rfl

theorem begunHeader_last {octets : List UInt8} (h : sfpFlag ∉ octets) :
    begunHeader (octets ++ [sfpFlag]) = none := by
  cases octets with
  | nil => rfl
  | cons octet octets =>
    have hne : octet ≠ sfpFlag := Ne.symm (List.ne_of_not_mem_cons h)
    cases octets with
    | nil => exact if_pos hne
    | cons octet' octets => exact if_pos hne

variable {ω : Type u}

/-- `Q` comes with the first call for a frame that `s` begins, and survives the others. -/
structure Conveys (cb : Callbacks ω) (header : UInt8) (s : Sfp ω) (Q : Sfp ω → Prop) : Prop where
  first : ∀ rest crc, Q (cb.write (sfpFlag :: sfpStuffing.stuff header ++ rest)
    { s with tx.crc := crc, tx.writebuf := sfpFlag :: sfpStuffing.stuff header ++ rest })
  later : ∀ octets s, begunHeader octets = none → Q s → Q (cb.write octets s)
  buffer : ∀ crc writebuf s, Q s → Q { s with tx.crc := crc, tx.writebuf := writebuf }

def Underway (header : UInt8) (s : Sfp ω) (Q : Sfp ω → Prop) (r : Nat × Sfp ω) : Prop :=
  (∃ rest crc, sfpFlag ∉ rest ∧ r.2 =
      { s with tx.crc := crc, tx.writebuf := sfpFlag :: sfpStuffing.stuff header ++ rest }) ∨
    Q r.2 ∧ sfpFlag ∉ r.2.tx.writebuf

namespace Conveys

variable {cb : Callbacks ω} {header : UInt8} {s : Sfp ω} {Q : Sfp ω → Prop} {r : Nat × Sfp ω}

theorem flush (hc : Conveys cb header s Q) (hr : Underway header s Q r) :
    Q (sfpFlushWriteBuffer cb r.2) := by
  obtain ⟨rest, crc, -, heq⟩ | ⟨hQ, hflag⟩ := hr
  · rw [heq]
    exact hc.buffer _ [] _ (hc.first rest crc)
  · exact hc.buffer _ [] _ (hc.later _ _ (begunHeader_later hflag) hQ)

theorem bufferedWrite (hc : Conveys cb header s Q) {octet : UInt8} (hne : octet ≠ sfpFlag)
    (hr : Underway header s Q r) : Underway header s Q (sfpBufferedWrite cb octet r) := by
  have hsingle : sfpFlag ∉ [octet] := fun hmem => hne (List.mem_singleton.mp hmem).symm
  have happend {rest : List UInt8} (hrest : sfpFlag ∉ rest) : sfpFlag ∉ rest ++ [octet] :=
    fun hmem => (List.mem_append.mp hmem).elim hrest hsingle
  obtain ⟨outlen, s'⟩ := r
  unfold sfpBufferedWrite
  dsimp only
  split
  · exact .inr ⟨hc.buffer _ [octet] _ (hc.flush hr), hsingle⟩
  · obtain ⟨rest, crc, hrest, rfl⟩ | ⟨hQ, hflag⟩ := hr
    · refine .inl ⟨rest ++ [octet], crc, happend hrest, ?_⟩
      simp only [List.cons_append, List.append_assoc]
    · exact .inr ⟨hc.buffer _ _ _ hQ, happend hflag⟩

theorem writeNoCRC (hc : Conveys cb header s Q) (octet : UInt8) (hr : Underway header s Q r) :
    Underway header s Q (sfpWriteNoCRC cb octet r) := by
  unfold sfpWriteNoCRC isReservedOctet
  split
  case isTrue hreserved =>
    have hflip : octet ^^^ sfpEscFlipBit ≠ sfpFlag := by
      rcases (Bool.or_eq_true _ _).mp hreserved with h | h
      · rw [beq_iff_eq.mp h]
        decide
      · rw [beq_iff_eq.mp h]
        decide
    exact hc.bufferedWrite hflip (hc.bufferedWrite (by decide) hr)
  case isFalse hplain =>
    refine hc.bufferedWrite (fun heq => hplain ?_) hr
    rw [heq]
    rfl

theorem write (hc : Conveys cb header s Q) (octet : UInt8) (hr : Underway header s Q r) :
    Underway header s Q (sfpWrite cb octet r) := by
  refine hc.writeNoCRC octet ?_
  obtain ⟨rest, crc, hrest, heq⟩ | ⟨hQ, hflag⟩ := hr
  · exact .inl ⟨rest, crcCcittUpdate r.2.tx.crc octet, hrest, by rw [heq]⟩
  · exact .inr ⟨hc.buffer _ _ _ hQ, hflag⟩

theorem start (s : Sfp ω) (hs : s.tx.writebuf = []) :
    Underway header s Q (sfpWrite cb header
      (sfpBufferedWrite cb sfpFlag (0, { s with tx.crc := sfpCrcPreset }))) := by
  refine .inl ⟨[], crcCcittUpdate sfpCrcPreset header, List.not_mem_nil, ?_⟩
  have hW := buffered_writing cb s
  have hlen : ([] ++ [sfpFlag] ++ sfpStuffing.stuff header).length ≤ sfpConfigWritebufSize := by
    unfold Lib.Stuffing.stuff
    split
    · exact show 3 ≤ sfpConfigWritebufSize by decide
    · exact show 2 ≤ sfpConfigWritebufSize by decide
  have hwritten := hW.write (hW.octet [] sfpCrcPreset _ sfpFlag (buffered_start hs)) header hlen
  rwa [List.append_nil]

theorem finish (hc : Conveys cb header s Q) (hr : Underway header s Q r) :
    Q (sfpFlushWriteBuffer cb (sfpBufferedWrite cb sfpFlag r).2) := by
  obtain ⟨outlen, s'⟩ := r
  unfold sfpBufferedWrite
  dsimp only
  split
  · exact hc.buffer _ [] _ (hc.later [sfpFlag] _ rfl (hc.buffer _ [sfpFlag] _ (hc.flush hr)))
  · obtain ⟨rest, crc, hrest, rfl⟩ | ⟨hQ, hflag⟩ := hr
    · have hfirst := hc.first (rest ++ [sfpFlag]) crc
      simp only [← List.append_assoc] at hfirst
      exact hc.buffer _ [] _ hfirst
    · exact hc.buffer _ [] _ (hc.later _ _ (begunHeader_last hflag) (hc.buffer _ _ _ hQ))

theorem transmitFrame (hc : Conveys cb header s Q) (packet : Option SFPpacket)
    (hs : s.tx.writebuf = []) : Q (sfpTransmitFrameWithHeader cb header packet s).2 := by
  have hpacket : Underway header s Q ((packetOctets packet).foldl
      (fun r octet => sfpWrite cb octet r) (sfpWrite cb header
        (sfpBufferedWrite cb sfpFlag (0, { s with tx.crc := sfpCrcPreset })))) :=
    List.foldlRecOn _ _ (start s hs) fun _ hr octet _ => hc.write octet hr
  exact hc.finish (hc.writeNoCRC _ (hc.writeNoCRC _ hpacket))

end Conveys

end TurningPoint
