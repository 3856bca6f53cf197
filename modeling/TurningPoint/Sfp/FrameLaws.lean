import TurningPoint.Sfp.Receive
import TurningPoint.Sfp.TransmitLaws

universe u

namespace TurningPoint

namespace SFPreceiver

def reset (rx : SFPreceiver) : SFPreceiver :=
  { rx with
    crc := sfpCrcPreset
    escapeState := .normal
    frameState := .new
    packet.len := 0 }

def buffer (rx : SFPreceiver) (octet : UInt8) : SFPreceiver :=
  { rx with
    packet.buf := rx.packet.buf.take rx.packet.len ++ octet :: rx.packet.buf.drop (rx.packet.len + 1)
    packet.len := rx.packet.len + 1 }

def plain (rx : SFPreceiver) (octet : UInt8) : SFPreceiver :=
  let rx := { rx with crc := crcCcittUpdate rx.crc octet }
  if rx.frameState = .new then { rx with header := octet, frameState := .receiving }
  else if sfpConfigMaxPacketSize ≤ rx.packet.len then rx.reset
  else rx.buffer octet

def mark (escaping : Bool) (rx : SFPreceiver) : SFPreceiver :=
  { rx with escapeState := if escaping then .escaping else .normal }

def step (rx : SFPreceiver) (octet : UInt8) : SFPreceiver :=
  if octet = sfpEsc then rx.mark true
  else
    ((rx.mark false).plain
      (if rx.escapeState = .escaping then octet ^^^ sfpEscFlipBit else octet))

def steps (rx : SFPreceiver) (octets : List UInt8) : SFPreceiver := octets.foldl step rx

theorem mark_plain (rx : SFPreceiver) (octet : UInt8) :
    ((rx.mark false).plain octet) = (rx.plain octet).mark false := by
  by_cases hnew : rx.frameState = .new
  · simp [plain, mark, hnew]
  · by_cases hlen : sfpConfigMaxPacketSize ≤ rx.packet.len
    · simp [plain, mark, hnew, hlen, reset]
    · simp [plain, mark, hnew, hlen, buffer]

theorem mark_mark (a b : Bool) (rx : SFPreceiver) : (rx.mark a).mark b = rx.mark b := rfl

theorem mark_reset (rx : SFPreceiver) : rx.reset.mark false = rx.reset := rfl

theorem steps_stuffed (rx : SFPreceiver) (octets : List UInt8) :
    (rx.mark false).steps (octets.flatMap sfpStuffing.stuff) =
      (octets.foldl plain rx).mark false := by
  refine sfpStuffing.foldl_stuffed mark ?_ ?_ octets rx
  · intro escaping rx
    simp [step, sfpStuffing, mark_mark]
  · intro escaping rx octet hres
    have hesc : octet ≠ sfpEsc := (not_or.mp hres).2
    simp only [step, if_neg hesc, mark_mark, mark_plain]
    cases escaping <;> rfl

theorem length_buffer (rx : SFPreceiver) (octet : UInt8) :
    (rx.buffer octet).packet.len = rx.packet.len + 1 := rfl

theorem take_buffer (rx : SFPreceiver) (octet : UInt8) (h : rx.packet.len ≤ rx.packet.buf.length) :
    (rx.buffer octet).packet.buf.take (rx.packet.len + 1) =
      rx.packet.buf.take rx.packet.len ++ [octet] := by
  have htake : (rx.packet.buf.take rx.packet.len).length = rx.packet.len := by simp [h]
  rw [buffer, List.take_append, htake, Nat.add_sub_cancel_left,
    List.take_of_length_le (by omega), List.take_succ_cons, List.take_zero]

theorem drop_buffer (rx : SFPreceiver) (octet : UInt8) (h : rx.packet.len ≤ rx.packet.buf.length)
    (n : Nat) :
    (rx.buffer octet).packet.buf.drop (rx.packet.len + 1 + n) =
      rx.packet.buf.drop (rx.packet.len + 1 + n) := by
  have htake : (rx.packet.buf.take rx.packet.len).length = rx.packet.len := by simp [h]
  rw [buffer, List.drop_append, htake, List.drop_of_length_le (by omega), List.nil_append,
    show rx.packet.len + 1 + n - rx.packet.len = n + 1 by omega, List.drop_succ_cons,
    List.drop_drop]

theorem foldl_plain_receiving (rx : SFPreceiver) (octets : List UInt8)
    (hstate : rx.frameState = .receiving) (hbuf : rx.packet.len ≤ rx.packet.buf.length)
    (hlen : rx.packet.len + octets.length ≤ sfpConfigMaxPacketSize) :
    octets.foldl plain rx =
      { rx with
        crc := octets.foldl crcCcittUpdate rx.crc
        packet.buf := rx.packet.buf.take rx.packet.len ++ octets ++
          rx.packet.buf.drop (rx.packet.len + octets.length)
        packet.len := rx.packet.len + octets.length } := by
  induction octets generalizing rx with
  | nil => simp
  | cons octet octets ih =>
    simp only [List.length_cons] at hlen
    have hplain : rx.plain octet =
        { rx with crc := crcCcittUpdate rx.crc octet }.buffer octet := by
      rw [plain, if_neg (by simp [hstate]), if_neg (by simp only; omega)]
    have hnext := ih ({ rx with crc := crcCcittUpdate rx.crc octet }.buffer octet) hstate
      (by simp [buffer]; omega) (by simp [buffer]; omega)
    have htake := take_buffer { rx with crc := crcCcittUpdate rx.crc octet } octet hbuf
    have hdrop := drop_buffer { rx with crc := crcCcittUpdate rx.crc octet } octet hbuf octets.length
    rw [List.foldl_cons, hplain, hnext]
    simp only [length_buffer, htake, hdrop]
    simp [buffer, Nat.add_assoc, Nat.add_comm 1]

def received (rx : SFPreceiver) (header : UInt8) (payload : List UInt8) : SFPreceiver :=
  let octets := payload ++ crcOctets (crcOf (header :: payload))
  { rx with
    crc := sfpCrcGood
    escapeState := .normal
    frameState := .receiving
    header := header
    packet := ⟨octets ++ rx.packet.buf.drop octets.length, octets.length⟩ }

theorem length_crcOctets (crc : UInt16) : (crcOctets crc).length = sfpCrcSize := rfl

theorem steps_frameBody (rx : SFPreceiver) (header : UInt8) (payload : List UInt8)
    (hlen : payload.length + sfpCrcSize ≤ sfpConfigMaxPacketSize) :
    rx.reset.steps (frameBody header payload) = rx.received header payload := by
  have hheader : rx.reset.plain header =
      { rx.reset with
        crc := crcCcittUpdate sfpCrcPreset header, header := header, frameState := .receiving } :=
    rfl
  have hcrc : (payload ++ crcOctets (crcOf (header :: payload))).foldl crcCcittUpdate
      (crcCcittUpdate sfpCrcPreset header) = sfpCrcGood := by
    rw [List.foldl_append]
    exact crc_residue _
  rw [frameBody, ← mark_reset, steps_stuffed, frameOctets, List.cons_append, List.foldl_cons,
    hheader, foldl_plain_receiving _ _ rfl (Nat.zero_le _) (by simpa [reset, length_crcOctets])]
  simp only [hcrc]
  simp [received, mark, reset]

theorem plain_seq (rx : SFPreceiver) (octet : UInt8) : (rx.plain octet).seq = rx.seq := by
  simp only [plain]
  split
  · rfl
  · split <;> rfl

theorem step_seq (rx : SFPreceiver) (octet : UInt8) : (rx.step octet).seq = rx.seq := by
  unfold step
  split
  · rfl
  · exact plain_seq _ _

theorem steps_seq (rx : SFPreceiver) (octets : List UInt8) : (rx.steps octets).seq = rx.seq := by
  induction octets generalizing rx with
  | nil => rfl
  | cons octet octets ih => exact (ih (rx.step octet)).trans (rx.step_seq octet)

theorem foldl_plain_overflow (rx : SFPreceiver) (header octet : UInt8) (octets : List UInt8)
    (hlen : octets.length = sfpConfigMaxPacketSize) :
    ∃ rx' : SFPreceiver, (header :: octets ++ [octet]).foldl plain rx.reset = rx'.reset := by
  have hempty : (rx.reset.plain header).packet.len = 0 := rfl
  have hfull := foldl_plain_receiving (rx.reset.plain header) octets rfl (Nat.zero_le _)
    (by rw [hempty, hlen, Nat.zero_add])
  have hlast : ∀ rx : SFPreceiver, rx.frameState = .receiving →
      rx.packet.len = sfpConfigMaxPacketSize → ∃ rx' : SFPreceiver, rx.plain octet = rx'.reset := by
    intro rx hstate hlen
    rw [plain, if_neg (by simp [hstate]), if_pos (by simp [hlen])]
    exact ⟨_, rfl⟩
  rw [List.foldl_append, List.foldl_cons, List.foldl_cons, List.foldl_nil, hfull]
  exact hlast _ rfl (by simp only [hempty, hlen, Nat.zero_add])

theorem steps_frameBody_overflow (rx : SFPreceiver) (header : UInt8) (payload : List UInt8)
    (hlt : sfpConfigMaxPacketSize < payload.length + sfpCrcSize)
    (hle : payload.length ≤ sfpConfigMaxPacketSize) :
    let after := rx.reset.steps (frameBody header payload)
    (payload.length + sfpCrcSize = sfpConfigMaxPacketSize + 1 → after.frameState = .new) ∧
    (payload.length + sfpCrcSize ≠ sfpConfigMaxPacketSize + 1 →
      after.frameState = .receiving ∧ after.packet.len = 0) := by
  intro after
  have hafter : after = ((frameOctets header payload).foldl plain rx.reset).mark false := by
    rw [← steps_stuffed, mark_reset]
    rfl
  set octets := payload ++ crcOctets (crcOf (header :: payload)) with hoctets
  have hlength : octets.length = payload.length + sfpCrcSize := by simp [octets, length_crcOctets]
  have hsplit : frameOctets header payload =
      (header :: octets.take sfpConfigMaxPacketSize ++ [octets[sfpConfigMaxPacketSize]]) ++
        octets.drop (sfpConfigMaxPacketSize + 1) := by
    rw [List.cons_append, List.take_append_getElem, List.cons_append, List.take_append_drop]
    rfl
  obtain ⟨rx', hrx'⟩ := rx.foldl_plain_overflow header octets[sfpConfigMaxPacketSize]
    (octets.take sfpConfigMaxPacketSize) (by simp; omega)
  rw [hafter, hsplit, List.foldl_append, hrx']
  refine ⟨fun hone => ?_, fun hmore => ?_⟩
  · rw [List.drop_of_length_le (by omega)]
    rfl
  · obtain ⟨last, hlast⟩ := List.length_eq_one_iff.mp
      (show (octets.drop (sfpConfigMaxPacketSize + 1)).length = 1 by
        rw [List.length_drop, hlength]
        unfold sfpCrcSize sfpConfigMaxPacketSize at *
        omega)
    rw [hlast]
    exact ⟨rfl, rfl⟩

end SFPreceiver

variable {ω : Type u} (cb : Callbacks ω)

theorem sfpDeliverOctet_flag (s : Sfp ω) :
    sfpDeliverOctet cb sfpFlag s =
      sfpResetReceiver (if s.rx.frameState = .receiving then sfpHandleFrame cb s else s) := by
  rw [sfpDeliverOctet, if_pos rfl]

theorem sfpDeliverOctet_of_ne (s : Sfp ω) {octet : UInt8} (h : octet ≠ sfpFlag) :
    sfpDeliverOctet cb octet s = { s with rx := s.rx.step octet } := by
  rw [sfpDeliverOctet, if_neg h, SFPreceiver.step]
  split
  · rfl
  · by_cases hnew : s.rx.frameState = .new
    · simp [SFPreceiver.plain, SFPreceiver.mark, hnew]
    · by_cases hlen : sfpConfigMaxPacketSize ≤ s.rx.packet.len
      · simp [SFPreceiver.plain, SFPreceiver.mark, sfpBufferOctet, sfpResetReceiver,
          SFPreceiver.reset, hnew, hlen]
      · simp [SFPreceiver.plain, SFPreceiver.mark, sfpBufferOctet, SFPreceiver.buffer, hnew, hlen]

theorem sfpDeliverOctets_append (a b : List UInt8) (s : Sfp ω) :
    sfpDeliverOctets cb (a ++ b) s = sfpDeliverOctets cb b (sfpDeliverOctets cb a s) :=
  List.foldl_append

theorem sfpDeliverOctets_of_not_mem (s : Sfp ω) {octets : List UInt8} (h : sfpFlag ∉ octets) :
    sfpDeliverOctets cb octets s = { s with rx := s.rx.steps octets } := by
  induction octets generalizing s with
  | nil => rfl
  | cons octet octets ih =>
    have hne : octet ≠ sfpFlag := (List.ne_of_not_mem_cons h).symm
    rw [sfpDeliverOctets, List.foldl_cons, sfpDeliverOctet_of_ne cb s hne]
    exact ih _ (List.not_mem_of_not_mem_cons h)

theorem sfpDeliverOctet_flag_rx (s : Sfp ω) :
    ∃ rx : SFPreceiver, (sfpDeliverOctet cb sfpFlag s).rx = rx.reset :=
  ⟨_, congrArg (fun s : Sfp ω => s.rx) (sfpDeliverOctet_flag cb s)⟩

/-- The receiver stands before the closing flag of a frame with this header and payload. -/
structure SFPreceiver.Holds (rx : SFPreceiver) (header : UInt8) (payload : List UInt8) : Prop where
  frameState : rx.frameState = .receiving
  escapeState : rx.escapeState = .normal
  header : rx.header = header
  crc : rx.crc = sfpCrcGood
  len : rx.packet.len = payload.length + sfpCrcSize
  octets : { rx.packet with len := rx.packet.len - sfpCrcSize }.octets = payload

theorem SFPreceiver.received_holds (rx : SFPreceiver) (header : UInt8) (payload : List UInt8) :
    (rx.received header payload).Holds header payload where
  frameState := rfl
  escapeState := rfl
  header := rfl
  crc := rfl
  len := by simp [received, length_crcOctets]
  octets := by simp [received, SFPpacket.octets, length_crcOctets]

def recorder : Callbacks (List UInt8) where
  write octets s := { s with user := s.user ++ octets }
  deliver := none

theorem recorder_plain : recorder.Plain (fun octets line => line ++ octets) where
  write_eq _ _ := rfl
  out_nil := List.append_nil
  out_append a b line := (List.append_assoc line a b).symm

/-- Fed to a receiver in state `s`, the octets of `line` are a single frame that reaches
`sfpHandleFrame` whole, at its closing flag. -/
def Decodes (cb : Callbacks ω) (header : UInt8) (payload line : List UInt8) (s : Sfp ω) : Prop :=
  ∃ body s',
    line = sfpFlag :: body ++ [sfpFlag] ∧
    sfpFlag ∉ body ∧
    sfpDeliverOctets cb (sfpFlag :: body) s = s' ∧
    s'.rx.Holds header payload ∧
    sfpDeliverOctet cb sfpFlag s' = sfpResetReceiver (sfpHandleFrame cb s') ∧
    (sfpDeliverOctets cb line s).rx.frameState = .new ∧
    (sfpDeliverOctets cb line s).rx.escapeState = .normal

theorem decodes_wireFrame (header : UInt8) (payload : List UInt8)
    (hlen : payload.length + sfpCrcSize ≤ sfpConfigMaxPacketSize) (s : Sfp ω) :
    Decodes cb header payload (wireFrame header payload) s := by
  obtain ⟨rx, hrx⟩ := sfpDeliverOctet_flag_rx cb s
  have hholds :
      (sfpDeliverOctets cb (sfpFlag :: frameBody header payload) s).rx.Holds header payload := by
    rw [sfpDeliverOctets, List.foldl_cons, ← sfpDeliverOctets,
      sfpDeliverOctets_of_not_mem cb _ (flag_not_mem_frameBody _ _)]
    simp only [hrx, rx.steps_frameBody header _ hlen]
    exact rx.received_holds header _
  have hclose : sfpDeliverOctets cb (wireFrame header payload) s =
      sfpDeliverOctet cb sfpFlag (sfpDeliverOctets cb (sfpFlag :: frameBody header payload) s) :=
    sfpDeliverOctets_append cb _ [sfpFlag] s
  refine ⟨_, _, rfl, flag_not_mem_frameBody _ _, rfl, hholds, ?_, ?_, ?_⟩
  · rw [sfpDeliverOctet_flag, if_pos hholds.frameState]
  · rw [hclose, sfpDeliverOctet_flag]
    rfl
  · rw [hclose, sfpDeliverOctet_flag]
    rfl

/-- A frame decodes to its header and payload from any state `s` of any receiver.  Octets left over
in the write buffer of `t` go out before the frame. -/
theorem frame_decodes (header : UInt8) (packet : Option SFPpacket)
    (hlen : (packetOctets packet).length + sfpCrcSize ≤ sfpConfigMaxPacketSize)
    (t : Sfp (List UInt8)) (s : Sfp ω) :
    ∃ line, (sfpTransmitFrameWithHeader recorder header packet t).2.user =
        t.user ++ t.tx.writebuf ++ line ∧
      Decodes cb header (packetOctets packet) line s := by
  refine ⟨wireFrame header (packetOctets packet), ?_, decodes_wireFrame cb header _ hlen s⟩
  rw [recorder_plain.transmitFrameWithHeader_eq]
  rfl

theorem frame_decodes_reserved :
    ∃ line, (sfpTransmitFrameWithHeader recorder 0x7d (some ⟨[0x7e, 0x7d], 2⟩)
        { SFPcontext.zero with user := [] }).2.user = line ∧
      Decodes recorder 0x7d [0x7e, 0x7d] line
        { SFPcontext.zero with rx.frameState := .receiving, rx.escapeState := .escaping, user := [] } :=
  frame_decodes recorder 0x7d (some ⟨[0x7e, 0x7d], 2⟩) (by decide) _ _

end TurningPoint
