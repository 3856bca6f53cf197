import TurningPoint.Sfp.FrameLaws

universe u

namespace TurningPoint

/-- The octets of a frame with the escapes removed; `escaping` says that one was just dropped. -/
def unescape (escaping : Bool) : List UInt8 → List UInt8
  | [] => []
  | octet :: octets =>
    if octet = sfpEsc then unescape true octets
    else (if escaping then octet ^^^ sfpEscFlipBit else octet) :: unescape false octets

inductive FrameEvent
  | nak (seq : UInt8)
  | frame (header : UInt8) (payload : List UInt8)
  deriving DecidableEq

def GoodFrame (octets : List UInt8) : Prop :=
  3 ≤ octets.length ∧ octets.length ≤ 1 + sfpConfigMaxPacketSize ∧ crcOf octets = sfpCrcGood

instance (octets : List UInt8) : Decidable (GoodFrame octets) :=
  inferInstanceAs (Decidable (_ ∧ _ ∧ _))

/-- The specification: what the octets between two flags, unescaped, set off at an end that waits
for `seq`. -/
def frameSpec (seq : UInt8) : List UInt8 → List FrameEvent
  | [] => []
  | header :: octets =>
    if GoodFrame (header :: octets) then [.frame header (octets.take (octets.length - sfpCrcSize))]
    else [.nak seq]

def SFPreceiver.verdict (rx : SFPreceiver) : FrameEvent :=
  if sfpCrcSize > rx.packet.len ∨ sfpCrcGood ≠ rx.crc then .nak rx.seq
  else .frame rx.header (rx.packet.buf.take (rx.packet.len - sfpCrcSize))

def SFPreceiver.events (rx : SFPreceiver) (octet : UInt8) : List FrameEvent :=
  if octet = sfpFlag ∧ rx.frameState = .receiving then [rx.verdict] else []

variable {ω : Type u} (cb : Callbacks ω)

def sfpDispatchFrame (s : Sfp ω) : Sfp ω :=
  match getFrameType s.rx.header with
  | .usr => sfpHandleUSR cb s
  | .rtx => sfpHandleUSR cb s
  | .nak => sfpHandleNAK cb s
  | .syn => sfpHandleSYN cb s

def observe (r : Sfp ω × List FrameEvent) (octet : UInt8) : Sfp ω × List FrameEvent :=
  (sfpDeliverOctet cb octet r.1, r.2 ++ r.1.rx.events octet)

theorem sfpHandleFrame_nak {s : Sfp ω} {seq : UInt8} (h : s.rx.verdict = .nak seq) :
    ∃ len, sfpHandleFrame cb s = sfpTransmitNAK cb seq { s with rx.packet.len := len } := by
  unfold SFPreceiver.verdict at h
  split at h
  case isTrue hbad =>
    cases h
    unfold sfpHandleFrame
    by_cases hlen : sfpCrcSize > s.rx.packet.len
    · exact ⟨s.rx.packet.len, if_pos hlen⟩
    · refine ⟨s.rx.packet.len - sfpCrcSize, ?_⟩
      rw [if_neg hlen]
      exact if_pos (hbad.resolve_left hlen)
  case isFalse => cases h

theorem sfpHandleFrame_frame {s : Sfp ω} {header : UInt8} {payload : List UInt8}
    (h : s.rx.verdict = .frame header payload) :
    sfpHandleFrame cb s =
        sfpDispatchFrame cb { s with rx.packet.len := s.rx.packet.len - sfpCrcSize } ∧
      s.rx.header = header ∧
      { s.rx.packet with len := s.rx.packet.len - sfpCrcSize }.octets = payload := by
  unfold SFPreceiver.verdict at h
  split at h
  · cases h
  case isFalse hgood =>
    cases h
    obtain ⟨hlen, hcrc⟩ := not_or.mp hgood
    refine ⟨?_, rfl, rfl⟩
    unfold sfpHandleFrame
    rw [if_neg hlen]
    exact if_neg hcrc

theorem sfpDeliverOctet_event {s : Sfp ω} {event : FrameEvent}
    (h : s.rx.events sfpFlag = [event]) :
    s.rx.verdict = event ∧
      sfpDeliverOctet cb sfpFlag s = sfpResetReceiver (sfpHandleFrame cb s) := by
  unfold SFPreceiver.events at h
  split at h
  case isTrue hreceiving =>
    refine ⟨List.singleton_inj.mp h, ?_⟩
    rw [sfpDeliverOctet_flag, if_pos hreceiving.2]
  case isFalse => cases h

theorem sfpDeliverOctet_idle {s : Sfp ω} (h : s.rx.events sfpFlag = []) :
    sfpDeliverOctet cb sfpFlag s = sfpResetReceiver s := by
  unfold SFPreceiver.events at h
  split at h
  · cases h
  case isFalse hidle => rw [sfpDeliverOctet_flag, if_neg fun hreceiving => hidle ⟨rfl, hreceiving⟩]

namespace SFPreceiver

theorem steps_unescape (rx : SFPreceiver) (escaping : Bool) (octets : List UInt8) :
    ∃ escaping', (rx.mark escaping).steps octets =
      ((unescape escaping octets).foldl plain rx).mark escaping' := by
  induction octets generalizing rx escaping with
  | nil => exact ⟨escaping, rfl⟩
  | cons octet octets ih =>
    rw [steps, List.foldl_cons, ← steps, unescape]
    split
    case isTrue hesc =>
      rw [hesc]
      exact ih rx true
    case isFalse hne =>
      have hstep : (rx.mark escaping).step octet =
          (rx.plain (if escaping then octet ^^^ sfpEscFlipBit else octet)).mark false := by
        rw [step, if_neg hne, mark_mark, mark_plain]
        cases escaping <;> rfl
      rw [hstep]
      exact ih _ false

theorem foldl_plain_seq (rx : SFPreceiver) (octets : List UInt8) :
    (octets.foldl plain rx).seq = rx.seq := by
  induction octets generalizing rx with
  | nil => rfl
  | cons octet octets ih => exact (ih (rx.plain octet)).trans (rx.plain_seq octet)

end SFPreceiver

/-- What is left of the octets once every run of them that overflows the packet buffer is gone: the
octet that does not fit goes with it, and the next one passes for a header. -/
def lastFrame (octets : List UInt8) : List UInt8 :=
  octets.drop ((sfpConfigMaxPacketSize + 2) * (octets.length / (sfpConfigMaxPacketSize + 2)))

theorem lastFrame_of_le {octets : List UInt8} (hlen : octets.length ≤ 1 + sfpConfigMaxPacketSize) :
    lastFrame octets = octets := by
  rw [lastFrame, Nat.div_eq_of_lt (by omega), Nat.mul_zero, List.drop_zero]

theorem lastFrame_drop {octets : List UInt8} (hlen : sfpConfigMaxPacketSize + 2 ≤ octets.length) :
    lastFrame (octets.drop (sfpConfigMaxPacketSize + 2)) = lastFrame octets := by
  unfold lastFrame
  rw [List.drop_drop, List.length_drop, Nat.div_eq_sub_div (Nat.succ_pos _) hlen, Nat.mul_succ,
    Nat.add_comm]

theorem length_lastFrame_le (octets : List UInt8) :
    (lastFrame octets).length ≤ 1 + sfpConfigMaxPacketSize := by
  rw [lastFrame, List.length_drop]
  have := Nat.mod_add_div octets.length (sfpConfigMaxPacketSize + 2)
  have := Nat.mod_lt octets.length (show 0 < sfpConfigMaxPacketSize + 2 by decide)
  omega

namespace SFPreceiver

theorem foldl_plain_lastFrame (rx : SFPreceiver) (octets : List UInt8) :
    ∃ rx' : SFPreceiver, rx'.seq = rx.seq ∧
      octets.foldl plain rx.reset = (lastFrame octets).foldl plain rx'.reset := by
  induction hn : octets.length using Nat.strong_induction_on generalizing rx octets with
  | h n ih =>
    by_cases hlen : octets.length ≤ 1 + sfpConfigMaxPacketSize
    · exact ⟨rx, rfl, by rw [lastFrame_of_le hlen]⟩
    · have hlong : sfpConfigMaxPacketSize + 2 ≤ octets.length := by omega
      cases octets with
      | nil => cases hlong
      | cons header octets =>
        have hlast : sfpConfigMaxPacketSize < octets.length := by
          rw [List.length_cons] at hlong
          omega
        have hsplit : header :: octets =
            (header :: octets.take sfpConfigMaxPacketSize ++ [octets[sfpConfigMaxPacketSize]]) ++
              octets.drop (sfpConfigMaxPacketSize + 1) := by
          rw [List.cons_append, List.take_append_getElem, List.cons_append, List.take_append_drop]
        obtain ⟨mid, hmid⟩ := rx.foldl_plain_overflow header octets[sfpConfigMaxPacketSize]
          (octets.take sfpConfigMaxPacketSize) (by rw [List.length_take]; omega)
        have hseq : mid.seq = rx.seq := by
          have h := rx.reset.foldl_plain_seq
            (header :: octets.take sfpConfigMaxPacketSize ++ [octets[sfpConfigMaxPacketSize]])
          rwa [hmid] at h
        obtain ⟨rx', hseq', heq⟩ := ih (octets.drop (sfpConfigMaxPacketSize + 1)).length
          (by rw [List.length_drop, ← hn, List.length_cons]; omega) mid
          (octets.drop (sfpConfigMaxPacketSize + 1)) rfl
        refine ⟨rx', hseq'.trans hseq, ?_⟩
        rw [← lastFrame_drop hlong]
        change _ = (lastFrame (octets.drop (sfpConfigMaxPacketSize + 1))).foldl plain rx'.reset
        rw [← heq, ← hmid, ← List.foldl_append, ← hsplit]

theorem events_eq (rx : SFPreceiver) (escaping : Bool) {octets : List UInt8}
    (hlen : octets.length ≤ 1 + sfpConfigMaxPacketSize) :
    ((octets.foldl plain rx.reset).mark escaping).events sfpFlag = frameSpec rx.seq octets := by
  cases octets with
  | nil => rfl
  | cons header octets =>
    rw [List.length_cons, Nat.add_comm] at hlen
    have hfull := foldl_plain_receiving (rx.reset.plain header) octets rfl (Nat.zero_le _)
      (by change 0 + octets.length ≤ _; omega)
    have hempty : (rx.reset.plain header).packet.len = 0 := rfl
    rw [List.foldl_cons, hfull, hempty, Nat.zero_add, List.take_zero, List.nil_append]
    by_cases hgood : GoodFrame (header :: octets)
    · obtain ⟨hthree, -, hcrc⟩ := id hgood
      have hlong : sfpCrcSize ≤ octets.length := Nat.le_of_succ_le_succ hthree
      have hnot : ¬ (sfpCrcSize > octets.length ∨ sfpCrcGood ≠ crcOf (header :: octets)) :=
        not_or.mpr ⟨Nat.not_lt.mpr hlong, not_not.mpr hcrc.symm⟩
      rw [frameSpec, if_pos hgood, events, if_pos ⟨rfl, rfl⟩, verdict]
      refine congrArg (fun event => [event]) ((if_neg hnot).trans ?_)
      exact congrArg (FrameEvent.frame header) (List.take_append_of_le_length (Nat.sub_le _ _))
    · have hbad : sfpCrcSize > octets.length ∨ sfpCrcGood ≠ crcOf (header :: octets) := by
        by_contra hnot
        obtain ⟨hlong, hcrc⟩ := not_or.mp hnot
        refine hgood ⟨Nat.succ_le_succ (Nat.not_lt.mp hlong), ?_, (not_not.mp hcrc).symm⟩
        rwa [List.length_cons, Nat.add_comm]
      rw [frameSpec, if_neg hgood, events, if_pos ⟨rfl, rfl⟩, verdict]
      exact congrArg (fun event => [event]) (if_pos hbad)

end SFPreceiver

theorem observe_of_not_mem (r : Sfp ω × List FrameEvent) {octets : List UInt8}
    (h : sfpFlag ∉ octets) :
    octets.foldl (observe cb) r = ({ r.1 with rx := r.1.rx.steps octets }, r.2) := by
  induction octets generalizing r with
  | nil => rfl
  | cons octet octets ih =>
    have hne : octet ≠ sfpFlag := (List.ne_of_not_mem_cons h).symm
    have hevents : r.1.rx.events octet = [] := if_neg fun hflag => hne hflag.1
    rw [List.foldl_cons, ih _ (List.not_mem_of_not_mem_cons h), observe, hevents, List.append_nil,
      sfpDeliverOctet_of_ne cb r.1 hne]
    rfl

theorem observe_fst (octets : List UInt8) (r : Sfp ω × List FrameEvent) :
    (octets.foldl (observe cb) r).1 = sfpDeliverOctets cb octets r.1 := by
  induction octets generalizing r with
  | nil => rfl
  | cons octet octets ih => exact ih (observe cb r octet)

theorem unescape_stuffed (octets : List UInt8) :
    unescape false (octets.flatMap sfpStuffing.stuff) = octets := by
  induction octets with
  | nil => rfl
  | cons octet octets ih =>
    rw [List.flatMap_cons, Lib.Stuffing.stuff]
    split
    case isTrue hreserved =>
      have hne : sfpStuffing.flip octet ≠ sfpEsc :=
        (not_or.mp (sfpStuffing.flip_not_reserved hreserved)).2
      change unescape false (sfpEsc :: sfpStuffing.flip octet :: octets.flatMap sfpStuffing.stuff) = _
      rw [unescape, if_pos rfl, unescape, if_neg hne, ih]
      exact congrArg (· :: octets) (sfpStuffing.flip_flip octet)
    case isFalse hplain =>
      have hne : octet ≠ sfpEsc := (not_or.mp hplain).2
      change unescape false (octet :: octets.flatMap sfpStuffing.stuff) = _
      rw [unescape, if_neg hne, ih]
      rfl

def SFPreceiver.Between (rx : SFPreceiver) : Prop := rx.reset = rx

/-- The frame between two flags, read as the specification says.  What is refused costs a NAK and
nothing else; what is accepted is handled once. -/
structure MeetsFrameSpec (out : List UInt8 → ω → ω) (s : Sfp ω) (octets : List UInt8)
    (r : Sfp ω × List FrameEvent) : Prop where
  events : r.2 = frameSpec s.rx.seq (unescape false octets)
  nothing : unescape false octets = [] → r.1 = s
  refused : r.2 = [.nak s.rx.seq] →
    r.1.connectState = s.connectState ∧ r.1.rx.seq = s.rx.seq ∧ r.1.tx.seq = s.tx.seq ∧
      r.1.user = out (wireFrame (frameHeader s.rx.seq .nak) []) (out s.tx.writebuf s.user)
  handled : ∀ header payload, r.2 = [.frame header payload] →
    ∃ rx : SFPreceiver, rx.header = header ∧ rx.packet.octets = payload ∧ rx.seq = s.rx.seq ∧
      r.1 = sfpResetReceiver (sfpDispatchFrame cb { s with rx := rx })

/-- The octets fit the packet buffer, or what is left of them behind the last overflow is something,
and no frame. -/
def ReadWhole (octets : List UInt8) : Prop :=
  octets.length ≤ 1 + sfpConfigMaxPacketSize ∨
    lastFrame octets ≠ [] ∧ ¬ GoodFrame (lastFrame octets)

theorem frameSpec_lastFrame (seq : UInt8) (octets : List UInt8) :
    frameSpec seq (lastFrame octets) = frameSpec seq octets ↔ ReadWhole octets := by
  by_cases hlen : octets.length ≤ 1 + sfpConfigMaxPacketSize
  · rw [lastFrame_of_le hlen]
    exact iff_of_true rfl (.inl hlen)
  · have hbad : frameSpec seq octets = [.nak seq] := by
      cases octets with
      | nil => exact absurd (Nat.zero_le _) hlen
      | cons header octets => exact if_neg fun hgood => hlen hgood.2.1
    rw [hbad, ReadWhole, or_iff_right hlen]
    cases lastFrame octets with
    | nil => simp [frameSpec]
    | cons header octets =>
      by_cases hgood : GoodFrame (header :: octets) <;> simp [frameSpec, hgood]

theorem observe_frame {s : Sfp ω} (hs : s.rx.Between) {octets : List UInt8}
    (hflag : sfpFlag ∉ octets) :
    ∃ rx : SFPreceiver, rx.seq = s.rx.seq ∧
      (unescape false octets = [] → { s with rx := rx.reset } = s) ∧
      rx.events sfpFlag = frameSpec s.rx.seq (lastFrame (unescape false octets)) ∧
      (octets ++ [sfpFlag]).foldl (observe cb) (s, []) =
        (sfpDeliverOctet cb sfpFlag { s with rx := rx }, rx.events sfpFlag) := by
  obtain ⟨escaping, hsteps⟩ := s.rx.reset.steps_unescape false octets
  obtain ⟨rx', hseq, hplain⟩ := s.rx.foldl_plain_lastFrame (unescape false octets)
  have hrx : s.rx.steps octets = ((unescape false octets).foldl SFPreceiver.plain s.rx).mark escaping := by
    rw [SFPreceiver.mark_reset, hs] at hsteps
    exact hsteps
  refine ⟨s.rx.steps octets, s.rx.steps_seq octets, fun hnil => ?_, ?_, ?_⟩
  · rw [hrx, hnil]
    change { s with rx := s.rx.reset } = s
    rw [hs]
  · rw [hs] at hplain
    rw [hrx, hplain, ← hseq]
    exact rx'.events_eq escaping (length_lastFrame_le _)
  · rw [List.foldl_append, observe_of_not_mem cb _ hflag]
    rfl

variable {cb}

/-- From between two frames on, the octets up to the next flag are read as the specification says
exactly when they are read whole. -/
theorem frame_spec_iff {out : List UInt8 → ω → ω} (hcb : cb.Plain out) {s : Sfp ω}
    (hs : s.rx.Between) {octets : List UInt8} (hflag : sfpFlag ∉ octets) :
    MeetsFrameSpec cb out s octets ((octets ++ [sfpFlag]).foldl (observe cb) (s, [])) ↔
      ReadWhole (unescape false octets) := by
  obtain ⟨rx, hseq, hnothing, hevents, hrun⟩ := observe_frame cb hs hflag
  rw [← frameSpec_lastFrame s.rx.seq, ← hevents, hrun]
  refine ⟨fun h => h.events, fun hspec => ⟨hspec, ?_, ?_, ?_⟩⟩
  · intro hnil
    rw [hnil] at hspec
    exact (sfpDeliverOctet_idle cb (s := { s with rx := rx }) hspec).trans (hnothing hnil)
  · intro hnak
    obtain ⟨hverdict, hdeliver⟩ := sfpDeliverOctet_event cb (s := { s with rx := rx }) hnak
    obtain ⟨len, hframe⟩ := sfpHandleFrame_nak cb (s := { s with rx := rx }) hverdict
    dsimp only
    rw [hdeliver, hframe, sfpTransmitNAK, sfpTransmitControl, hcb.transmitFrameWithHeader_eq]
    exact ⟨rfl, hseq, rfl, rfl⟩
  · intro header payload hframe
    obtain ⟨hverdict, hdeliver⟩ := sfpDeliverOctet_event cb (s := { s with rx := rx }) hframe
    obtain ⟨hdispatch, hheader, hpayload⟩ :=
      sfpHandleFrame_frame cb (s := { s with rx := rx }) hverdict
    exact ⟨{ rx with packet.len := rx.packet.len - sfpCrcSize }, hheader, hpayload, hseq,
      hdeliver.trans (congrArg sfpResetReceiver hdispatch)⟩

theorem frame_spec_iff_nak :
    let s : Sfp (List UInt8) := { SFPcontext.zero with rx.crc := sfpCrcPreset, user := [] }
    MeetsFrameSpec recorder (fun octets line => line ++ octets) s [0x7d, 0x20, 1]
      (([0x7d, 0x20, 1] ++ [sfpFlag]).foldl (observe recorder) (s, [])) := by
  intro s
  exact (frame_spec_iff recorder_plain (s := s) rfl (by decide)).mpr (.inl (by decide))

/-- A frame of 256 octets and the checksum overflows the packet buffer, and nothing more is heard
of it. -/
theorem not_frame_spec_overflow :
    let octets := List.replicate 258 0
    ¬ MeetsFrameSpec recorder (fun octets line => line ++ octets)
      { SFPcontext.zero with rx.crc := sfpCrcPreset, user := [] } octets
      ((octets ++ [sfpFlag]).foldl (observe recorder)
        ({ SFPcontext.zero with rx.crc := sfpCrcPreset, user := [] }, [])) := by
  intro octets h
  have hevents := h.events
  revert hevents
  decide +kernel

end TurningPoint
