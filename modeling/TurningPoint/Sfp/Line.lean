import TurningPoint.Sfp.PeerLaws

namespace TurningPoint

namespace Frame

theorem fits_control (type : SFPframetype) (seq : SeqNum) : Fits ⟨type, seq, []⟩ :=
  show 0 + sfpCrcSize ≤ sfpConfigMaxPacketSize by decide

def body (frame : Frame) : List UInt8 := frameBody frame.header frame.payload

theorem wire_eq (frame : Frame) : frame.wire = sfpFlag :: frame.body ++ [sfpFlag] := rfl

theorem flag_not_mem_body (frame : Frame) : sfpFlag ∉ frame.body := flag_not_mem_frameBody _ _

end Frame

/-- The receiver has read the octets `taken` since it last was between two frames. -/
inductive Reading : SFPreceiver → List UInt8 → Prop
  | between (rx : SFPreceiver) : Reading rx.reset []
  | inside (rx : SFPreceiver) {body : List UInt8} (hbody : sfpFlag ∉ body) :
      Reading (rx.reset.steps body) (sfpFlag :: body)

namespace Represents

variable {s : Sfp Port} {p : Peer} {taken : List UInt8}

theorem take (h : Represents s p taken) {octet : UInt8} {line : List UInt8}
    (hline : s.user.line = octet :: line) :
    Represents { s with user.line := line } p (taken ++ [octet]) := by
  refine { h with line := ?_ }
  rw [← h.line, hline, List.append_assoc]
  rfl

theorem finish (h : Represents s p taken) {frame : Frame} {frames : List Frame}
    (hline : p.line = frame :: frames) (htaken : taken = frame.wire) :
    Represents s { p with line := frames } [] := by
  refine { h with line := ?_ }
  have hline' := h.line
  rw [hline, List.flatMap_cons, htaken] at hline'
  exact List.append_cancel_left hline'

theorem write_rx (h : Represents s p taken) (octets : List UInt8) :
    (sfpWritePacket endpoint octets s).2.rx = s.rx := by
  have hpush := (h.pushBack ⟨octets, octets.length⟩).writebuf
  simp only [sfpWritePacket, sfpTransmitUSR, sfpTransmitFrameImpl, Bool.false_eq_true, if_false]
  rw [endpoint_plain.transmitFrameWithHeader_fresh _ _ hpush]

end Represents

theorem Frame.body_eq {frame : Frame} {body line rest : List UInt8} (hbody : sfpFlag ∉ body)
    (h : sfpFlag :: body ++ sfpFlag :: line = frame.wire ++ rest) : body = frame.body := by
  rw [Frame.wire_eq, List.append_assoc] at h
  exact (Lib.append_cons_inj hbody frame.flag_not_mem_body (List.tail_eq_of_cons_eq h)).1

theorem Reading.holds {rx : SFPreceiver} {frame : Frame} (hfits : frame.Fits) :
    (rx.reset.steps frame.body).Holds frame.header frame.payload := by
  rw [Frame.body, rx.steps_frameBody _ _ hfits]
  exact rx.received_holds _ _

theorem Reading.deliver_close (s : Sfp Port) :
    Reading (sfpDeliverOctet endpoint sfpFlag s).rx [] := by
  obtain ⟨rx, hrx⟩ := sfpDeliverOctet_flag_rx endpoint s
  exact hrx ▸ .between rx

theorem Reading.deliver_open (s : Sfp Port) :
    Reading (sfpDeliverOctet endpoint sfpFlag s).rx [sfpFlag] := by
  obtain ⟨rx, hrx⟩ := sfpDeliverOctet_flag_rx endpoint s
  exact hrx ▸ .inside rx List.not_mem_nil

theorem Represents.connect_rx {s : Sfp Port} {p : Peer} {taken : List UInt8}
    (h : Represents s p taken) : ∃ rx : SFPreceiver, (sfpConnect endpoint s).rx = rx.reset := by
  refine ⟨{ s.rx with seq := sfpInitialSeq }, ?_⟩
  rw [sfpConnect, sfpTransmitSYN0, sfpTransmitControl,
    endpoint_plain.transmitFrameWithHeader_fresh _ _ h.restart.writebuf]
  rfl

theorem Reading.deliver_inside {s : Sfp Port} {rx : SFPreceiver} {body : List UInt8} {octet : UInt8}
    (hbody : sfpFlag ∉ body) (hrx : s.rx = rx.reset.steps body) (hne : octet ≠ sfpFlag) :
    Reading (sfpDeliverOctet endpoint octet s).rx (sfpFlag :: body ++ [octet]) := by
  have hsteps : (sfpDeliverOctet endpoint octet s).rx = rx.reset.steps (body ++ [octet]) := by
    rw [sfpDeliverOctet_of_ne endpoint s hne, hrx]
    simp [SFPreceiver.steps]
  rw [hsteps, List.cons_append]
  exact .inside rx (by simpa [hbody] using hne.symm)

theorem Represents.deliver_of_ne {s : Sfp Port} {p : Peer} {taken : List UInt8}
    (h : Represents s p taken) {octet : UInt8} (hne : octet ≠ sfpFlag) :
    Represents (sfpDeliverOctet endpoint octet s) p taken := by
  rw [sfpDeliverOctet_of_ne endpoint s hne]
  exact h.set_rx _ (s.rx.step_seq octet)

/-- A whole frame, even one that overflows the packet buffer, is received as the frame it is. -/
theorem Represents.receive {s : Sfp Port} {p : Peer} {taken : List UInt8} (h : Represents s p taken)
    (hread : Reading s.rx []) {frame : Frame}
    (hpayload : frame.payload.length ≤ sfpConfigMaxPacketSize) :
    Represents (sfpDeliverOctets endpoint frame.wire s) (p.receive frame) taken ∧
      Reading (sfpDeliverOctets endpoint frame.wire s).rx [] := by
  have hnew : s.rx.frameState = .new := by
    generalize s.rx = rx at hread
    cases hread
    rfl
  have hbody : sfpDeliverOctets endpoint (sfpFlag :: frame.body) s =
      { s with rx := s.rx.reset.steps frame.body } := by
    rw [sfpDeliverOctets, List.foldl_cons, ← sfpDeliverOctets, sfpDeliverOctet_flag, hnew,
      if_neg (by decide), sfpDeliverOctets_of_not_mem endpoint _ frame.flag_not_mem_body]
    rfl
  have hinside := h.set_rx (s.rx.reset.steps frame.body) (s.rx.reset.steps_seq frame.body)
  have hwire : sfpDeliverOctets endpoint frame.wire s =
      sfpDeliverOctet endpoint sfpFlag { s with rx := s.rx.reset.steps frame.body } := by
    rw [← hbody]
    exact sfpDeliverOctets_append endpoint (sfpFlag :: frame.body) [sfpFlag] s
  rw [hwire]
  refine ⟨?_, Reading.deliver_close _⟩
  by_cases hfits : frame.Fits
  · rw [Peer.receive, if_pos hfits]
    exact hinside.handleFrame (Reading.holds hfits)
  · obtain ⟨hone, hmore⟩ := s.rx.steps_frameBody_overflow frame.header frame.payload
      (not_le.mp hfits) hpayload
    rw [Peer.receive, if_neg hfits, sfpDeliverOctet_flag]
    split_ifs with hreceiving hlen hlen
    · exact absurd ((hone hlen).symm.trans hreceiving) (by decide)
    · have hshort : sfpCrcSize > (s.rx.reset.steps frame.body).packet.len := by
        rw [Frame.body, (hmore hlen).2]
        decide
      rw [sfpHandleFrame, if_pos hshort]
      exact hinside.nak.resetReceiver
    · exact hinside.resetReceiver
    · exact absurd (hmore hlen).1 hreceiving

theorem deliver_octet {x y : Sfp Port} {p q : Peer} {taken taken' line : List UInt8} {octet : UInt8}
    (hx : Represents x p taken) (hread : Reading y.rx taken) (hy : Represents y q taken')
    (hfits : ∀ frame ∈ p.line, frame.Fits) (hline : x.user.line = octet :: line) :
    (∃ taken, Represents { x with user.line := line } p taken ∧
      Reading (sfpDeliverOctet endpoint octet y).rx taken ∧
      Represents (sfpDeliverOctet endpoint octet y) q taken') ∨
    (∃ frame frames, p.line = frame :: frames ∧
      Represents { x with user.line := line } { p with line := frames } [] ∧
      Reading (sfpDeliverOctet endpoint octet y).rx [] ∧
      Represents (sfpDeliverOctet endpoint octet y) (q.handle frame) taken') := by
  obtain ⟨frame, frames, hframes⟩ : ∃ frame frames, p.line = frame :: frames := by
    refine List.exists_cons_of_ne_nil fun hnil => ?_
    simpa [hnil, hline] using hx.line
  have hwire := hx.line
  rw [hline, hframes, List.flatMap_cons] at hwire
  have htake := hx.take hline
  generalize hrx : y.rx = rx at hread
  cases hread with
  | between rx =>
    -- The octet is the opening flag, which a receiver between two frames ignores.
    obtain rfl : octet = sfpFlag := List.head_eq_of_cons_eq hwire
    refine .inl ⟨_, htake, Reading.deliver_open y, ?_⟩
    rw [sfpDeliverOctet_flag, if_neg (by simp [hrx, SFPreceiver.reset])]
    exact hy.resetReceiver
  | @inside rx body hbody =>
    by_cases hflag : octet = sfpFlag
    · subst hflag
      obtain rfl := Frame.body_eq hbody hwire
      have hholds : y.rx.Holds frame.header frame.payload :=
        hrx ▸ Reading.holds (hfits frame (hframes ▸ List.mem_cons_self))
      exact .inr ⟨frame, frames, hframes, htake.finish hframes rfl,
        Reading.deliver_close y, hy.handleFrame hholds⟩
    · exact .inl ⟨_, htake, Reading.deliver_inside hbody hrx hflag, hy.deliver_of_ne hflag⟩

def Joined (x y : Sfp Port) (p q : Peer) : Prop :=
  ∃ taken taken', Represents x p taken ∧ Reading y.rx taken ∧
    Represents y q taken' ∧ Reading x.rx taken'

namespace Joined

variable {x y : Sfp Port} {p q : Peer}

theorem symm (h : Joined x y p q) : Joined y x q p := by
  obtain ⟨taken, taken', hx, hy, hy', hx'⟩ := h
  exact ⟨taken', taken, hy', hx', hx, hy⟩

theorem write (h : Joined x y p q) (octets : List UInt8) :
    Joined (sfpWritePacket endpoint octets x).2 y (p.write octets) q := by
  obtain ⟨taken, taken', hx, hy, hy', hx'⟩ := h
  exact ⟨taken, taken', hx.write octets, hy, hy', (hx.write_rx octets).symm ▸ hx'⟩

theorem connect (h : Joined x y p q) (hline : q.line = []) :
    Joined (sfpConnect endpoint x) y p.connect q := by
  obtain ⟨taken, taken', hx, hy, hy', -⟩ := h
  have hnil : taken' = [] := by
    have hline' := hy'.line
    rw [hline, List.flatMap_nil] at hline'
    exact (List.append_eq_nil_iff.mp hline').1
  obtain ⟨rx, hrx⟩ := hx.connect_rx
  exact ⟨taken, taken', hx.connect, hy, hy', by rw [hrx, hnil]; exact .between rx⟩

/-- An octet that arrives either changes nothing in the frame by frame view or completes a frame. -/
theorem deliver (h : Joined x y p q) (hfits : ∀ frame ∈ p.line, frame.Fits) {octet : UInt8}
    {line : List UInt8} (hline : x.user.line = octet :: line) :
    Joined { x with user.line := line } (sfpDeliverOctet endpoint octet y) p q ∨
    ∃ frame frames, p.line = frame :: frames ∧
      Joined { x with user.line := line } (sfpDeliverOctet endpoint octet y)
        { p with line := frames } (q.handle frame) := by
  obtain ⟨taken, taken', hx, hy, hy', hx'⟩ := h
  rcases deliver_octet hx hy hy' hfits hline with
    ⟨taken, hx, hy, hy'⟩ | ⟨frame, frames, hframes, hx, hy, hy'⟩
  · exact .inl ⟨taken, taken', hx, hy, hy', hx'⟩
  · exact .inr ⟨frame, frames, hframes, [], taken', hx, hy, hy', hx'⟩

theorem line_nil (h : Joined x y p q) (hline : x.user.line = []) : p.line = [] := by
  obtain ⟨taken, taken', hx, hy, -, -⟩ := h
  have htaken := hx.line
  rw [hline, List.append_nil] at htaken
  rcases hp : p.line with _ | ⟨frame, frames⟩
  · rfl
  · rw [hp, List.flatMap_cons, Frame.wire_eq] at htaken
    generalize y.rx = rx at hy
    cases hy with
    | between rx => simp at htaken
    | inside rx hbody =>
      -- What the receiver has read stops short of a closing flag.
      exact absurd (by simp [List.tail_eq_of_cons_eq htaken]) hbody

end Joined

structure Link where
  ctx : Bool → Sfp Port
  written : Bool → List (List UInt8)

def Link.init (memory : Bool → SFPcontext) : Link where
  ctx side := sfpInit { memory side with user := ⟨[], [], []⟩ }
  written _ := []

def Peer.init : Peer := ⟨.disconnected, 0, 0, [], [], [], []⟩

theorem Represents.init (memory : SFPcontext) :
    Represents (sfpInit { memory with user := ⟨[], [], []⟩ }) Peer.init [] where
  connectState := rfl
  txSeq := rfl
  rxSeq := rfl
  writebuf := rfl
  history := ⟨[], .init historyCapacity _, rfl⟩
  line := rfl
  sent := rfl
  delivered := rfl

end TurningPoint
