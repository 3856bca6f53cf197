import TurningPoint.Sfp.Line

namespace TurningPoint

inductive PerfectAction
  | connect (side : Bool)
  | write (side : Bool) (packet : List UInt8)
  | deliver (side : Bool)

def PerfectAction.IsConnect : PerfectAction → Bool
  | .connect _ => true
  | _ => false

namespace Link

def connect (side : Bool) (l : Link) : Link :=
  { l with ctx := Function.update l.ctx side (sfpConnect endpoint (l.ctx side)) }

/-- A packet is written only while `sfpIsConnected`, and only if it leaves room for the checksum. -/
def writeConnected (side : Bool) (packet : List UInt8) (l : Link) : Link :=
  if sfpIsConnected (l.ctx side).toSFPcontext = true ∧
      packet.length ≤ sfpConfigMaxPacketSize - sfpCrcSize then
    { ctx := Function.update l.ctx side (sfpWritePacket endpoint packet (l.ctx side)).2
      written := Function.update l.written side (l.written side ++ [packet]) }
  else l

def deliverOctet (side : Bool) (l : Link) : Link :=
  match (l.ctx !side).user.line with
  | [] => l
  | octet :: line =>
    let ctx := Function.update l.ctx (!side) { l.ctx (!side) with user.line := line }
    { l with ctx := Function.update ctx side (sfpDeliverOctet endpoint octet (ctx side)) }

def perfectStep (l : Link) : PerfectAction → Link
  | .connect side => l.connect side
  | .write side packet => l.writeConnected side packet
  | .deliver side => l.deliverOctet side

end Link

theorem numbered_append (type : SFPframetype) (seq : SeqNum) (a b : List (List UInt8)) :
    numbered type seq (a ++ b) = numbered type seq a ++ numbered type (seq + a.length) b := by
  induction a generalizing seq with
  | nil => simp [numbered]
  | cons payload a ih =>
    simp only [List.cons_append, numbered, ih, List.length_cons, Nat.cast_succ]
    rw [add_assoc, add_comm 1]

theorem numbered_fits {type : SFPframetype} {seq : SeqNum} {payloads : List (List UInt8)}
    (h : ∀ payload ∈ payloads, payload.length + sfpCrcSize ≤ sfpConfigMaxPacketSize) :
    ∀ frame ∈ numbered type seq payloads, frame.Fits := by
  induction payloads generalizing seq with
  | nil => simp [numbered]
  | cons payload payloads ih =>
    rw [List.forall_mem_cons] at h
    exact List.forall_mem_cons.mpr ⟨h.1, ih h.2⟩

inductive Stage
  | idle | called | answered | confirmed | established
  deriving DecidableEq

namespace Stage

def caller : Stage → SFPconnectstate
  | idle => .disconnected
  | called => .sentSyn0
  | answered => .sentSyn0
  | confirmed => .connected
  | established => .connected

def callee : Stage → SFPconnectstate
  | idle => .disconnected
  | called => .disconnected
  | answered => .sentSyn1
  | confirmed => .sentSyn1
  | established => .connected

def fromCaller : Stage → List Frame
  | called => [⟨.syn, 0, []⟩]
  | confirmed => [.syn2]
  | _ => []

def fromCallee : Stage → List Frame
  | answered => [⟨.syn, 1, []⟩]
  | _ => []

end Stage

/-- From `x` to `y` packets of the log `log` are on their way, behind what is left of the
handshake. -/
structure Flow (x y : Peer) (log : List (List UInt8)) (handshake : List Frame)
    (pending : List (List UInt8)) : Prop where
  line : x.line = handshake ++ numbered .usr y.rxSeq pending
  txSeq : x.txSeq = y.rxSeq + pending.length
  log_eq : y.delivered ++ pending = log
  fits : ∀ payload ∈ pending, payload.length + sfpCrcSize ≤ sfpConfigMaxPacketSize
  sent : ∀ frame ∈ x.sent, frame.type = .usr ∨ frame.type = .syn
  quiet : x.connectState ≠ .connected → log = [] ∧ x.txSeq = 0

namespace Peer

variable {p : Peer}

theorem handle_syn0 : p.handle ⟨.syn, 0, []⟩ = { p.restart.syn1 with connectState := .sentSyn1 } := by
  simp [handle, handleSYN]

theorem handle_syn1 (hstate : p.connectState = .sentSyn0) (hseq : p.txSeq = 0) :
    p.handle ⟨.syn, 1, []⟩ = { p.syn2 with connectState := .connected } := by
  have h10 : (1 : SeqNum) ≠ 0 := by decide
  have hseq2 : p.syn2.txSeq = 0 := hseq
  simp [handle, handleSYN, hstate, establish, hseq2, h10]

theorem handle_syn2 (hstate : p.connectState = .sentSyn1) (hseq : p.txSeq = 0) :
    p.handle ⟨.syn, 2, []⟩ = { p with connectState := .connected } := by
  have h21 : (2 : SeqNum) ≠ 1 := by decide
  have h20 : (2 : SeqNum) ≠ 0 := by decide
  simp [handle, handleSYN, hstate, establish, hseq, h21, h20]

end Peer

namespace Flow

variable {x y : Peer} {log pending : List (List UInt8)} {next : Frame} {handshake : List Frame}

theorem write (h : Flow x y log handshake pending) (hstate : x.connectState = .connected)
    {packet : List UInt8} (hpacket : packet.length + sfpCrcSize ≤ sfpConfigMaxPacketSize) :
    Flow (x.write packet) y (log ++ [packet]) handshake (pending ++ [packet]) where
  line := by
    simp [Peer.write, Peer.transmit, Peer.send, h.line, numbered_append, numbered, h.txSeq]
  txSeq := by
    simp [Peer.write, Peer.transmit, Peer.send, h.txSeq, add_assoc]
  log_eq := by rw [← List.append_assoc, h.log_eq]
  fits := by simpa [or_imp, forall_and] using ⟨h.fits, hpacket⟩
  sent := by
    intro frame hmem
    rcases List.mem_append.mp hmem with hmem | hmem
    · exact h.sent frame hmem
    · rw [List.mem_singleton.mp hmem]
      exact .inl rfl
  quiet hne := absurd hstate hne

theorem write_far (h : Flow x y log handshake pending) (packet : List UInt8) :
    Flow x (y.write packet) log handshake pending :=
  { h with }

theorem pending_nil (h : Flow x y log handshake pending) (hstate : x.connectState ≠ .connected) :
    pending = [] :=
  (List.append_eq_nil_iff.mp (h.log_eq.trans (h.quiet hstate).1)).2

theorem line_fits (h : Flow x y log handshake pending)
    (hhandshake : ∀ frame ∈ handshake, frame.Fits) : ∀ frame ∈ x.line, frame.Fits := by
  rw [h.line]
  simpa [or_imp, forall_and] using ⟨hhandshake, numbered_fits h.fits⟩

theorem pop (h : Flow x y log (next :: handshake) pending) {frame : Frame} {frames : List Frame}
    (hline : x.line = frame :: frames) :
    frame = next ∧ Flow { x with line := frames } y log handshake pending := by
  have hframes := hline.symm.trans h.line
  exact ⟨List.head_eq_of_cons_eq hframes, { h with line := List.tail_eq_of_cons_eq hframes }⟩

theorem pop_far (h : Flow x y log handshake pending) (frames : List Frame) :
    Flow x { y with line := frames } log handshake pending :=
  { h with }

theorem restart (h : Flow x y log handshake []) (hx : x.connectState ≠ .connected) (seq : SeqNum)
    (c : SFPconnectstate) :
    Flow { x.restart.control .syn seq with connectState := c } y log
      (handshake ++ [⟨.syn, seq, []⟩]) [] := by
  refine { h with line := ?_, txSeq := ?_, sent := ?_, quiet := ?_ }
  · simp [Peer.control, Peer.send, Peer.restart, h.line, numbered]
  · exact (h.quiet hx).2.symm.trans h.txSeq
  · simpa [Peer.control, Peer.send, Peer.restart, or_imp, forall_and] using h.sent
  · exact fun _ => ⟨(h.quiet hx).1, rfl⟩

theorem restart_far (h : Flow x y log handshake []) (hx : x.connectState ≠ .connected)
    (seq : SeqNum) (c : SFPconnectstate) :
    Flow x { y.restart.control .syn seq with connectState := c } log handshake [] :=
  { h with line := h.line, txSeq := (h.quiet hx).2 }

theorem confirm (h : Flow x y log handshake []) :
    Flow { x.syn2 with connectState := .connected } y log (handshake ++ [⟨.syn, 2, []⟩]) [] := by
  refine { h with line := ?_, sent := ?_, quiet := fun hne => absurd rfl hne }
  · simp [Peer.syn2, Peer.control, Peer.send, h.line, numbered]
  · simpa [Peer.syn2, Peer.control, Peer.send, or_imp, forall_and] using h.sent

theorem establish (h : Flow x y log handshake pending) :
    Flow { x with connectState := .connected } y log handshake pending :=
  { h with quiet := fun hne => absurd rfl hne }

theorem deliver (h : Flow x y log [] pending) {frame : Frame} {frames : List Frame}
    (hline : x.line = frame :: frames) (hstate : y.connectState = .connected) :
    y.handle frame =
      { y with delivered := y.delivered ++ [frame.payload], rxSeq := y.rxSeq + 1 } ∧
    ∃ pending, Flow { x with line := frames } (y.handle frame) log [] pending := by
  have hnumbered := hline.symm.trans h.line
  rcases pending with _ | ⟨payload, pending⟩
  · simp [numbered] at hnumbered
  · obtain ⟨rfl, rfl⟩ := List.cons_eq_cons.mp hnumbered
    have hhandle : y.handle ⟨.usr, y.rxSeq, payload⟩ =
        { y with delivered := y.delivered ++ [payload], rxSeq := y.rxSeq + 1 } := by
      simp [Peer.handle, Peer.handleUSR, hstate]
    refine ⟨hhandle, pending, ?_⟩
    rw [hhandle]
    exact { h with
      line := rfl
      txSeq := by
        simp only [h.txSeq, List.length_cons, Nat.cast_succ]
        ring
      log_eq := by simpa using h.log_eq
      fits := (List.forall_mem_cons.mp h.fits).2 }

end Flow

/-- Two ends between which `a` sets up the connection, and what was written at each. -/
structure Perfect (stage : Stage) (a b : Peer) (logA logB : List (List UInt8)) : Prop where
  caller : a.connectState = stage.caller
  callee : b.connectState = stage.callee
  out : ∃ pending, Flow a b logA stage.fromCaller pending
  back : ∃ pending, Flow b a logB stage.fromCallee pending

namespace Perfect

variable {stage : Stage} {a b : Peer} {logA logB : List (List UInt8)}

theorem init : Perfect .idle Peer.init Peer.init [] [] := by
  have hflow : Flow Peer.init Peer.init [] [] [] :=
    ⟨rfl, rfl, rfl, by simp, by simp [Peer.init], fun _ => ⟨rfl, rfl⟩⟩
  exact ⟨rfl, rfl, ⟨[], hflow⟩, ⟨[], hflow⟩⟩

theorem symm_idle (h : Perfect .idle a b logA logB) : Perfect .idle b a logB logA :=
  ⟨h.callee, h.caller, h.back, h.out⟩

theorem out_nil (h : Perfect stage a b logA logB) (hstate : a.connectState ≠ .connected) :
    Flow a b logA stage.fromCaller [] := by
  obtain ⟨pending, hflow⟩ := h.out
  exact hflow.pending_nil hstate ▸ hflow

theorem back_nil (h : Perfect stage a b logA logB) (hstate : b.connectState ≠ .connected) :
    Flow b a logB stage.fromCallee [] := by
  obtain ⟨pending, hflow⟩ := h.back
  exact hflow.pending_nil hstate ▸ hflow

theorem line_fits (h : Perfect stage a b logA logB) : ∀ frame ∈ a.line, frame.Fits := by
  obtain ⟨pending, hflow⟩ := h.out
  refine hflow.line_fits ?_
  cases stage <;> simp [Stage.fromCaller, Frame.fits_control]

theorem line_fits_back (h : Perfect stage a b logA logB) : ∀ frame ∈ b.line, frame.Fits := by
  obtain ⟨pending, hflow⟩ := h.back
  refine hflow.line_fits ?_
  cases stage <;> simp [Stage.fromCallee, Frame.fits_control]

theorem write (h : Perfect stage a b logA logB) (hstate : a.connectState = .connected)
    {packet : List UInt8} (hpacket : packet.length + sfpCrcSize ≤ sfpConfigMaxPacketSize) :
    Perfect stage (a.write packet) b (logA ++ [packet]) logB := by
  obtain ⟨pending, hout⟩ := h.out
  obtain ⟨pending', hback⟩ := h.back
  exact ⟨h.caller, h.callee, ⟨_, hout.write hstate hpacket⟩, ⟨_, hback.write_far packet⟩⟩

theorem write_back (h : Perfect stage a b logA logB) (hstate : b.connectState = .connected)
    {packet : List UInt8} (hpacket : packet.length + sfpCrcSize ≤ sfpConfigMaxPacketSize) :
    Perfect stage a (b.write packet) logA (logB ++ [packet]) := by
  obtain ⟨pending, hout⟩ := h.out
  obtain ⟨pending', hback⟩ := h.back
  exact ⟨h.caller, h.callee, ⟨_, hout.write_far packet⟩, ⟨_, hback.write hstate hpacket⟩⟩

theorem connect (h : Perfect .idle a b logA logB) : Perfect .called a.connect b logA logB := by
  have ha : a.connectState ≠ .connected := by simp [h.caller, Stage.caller]
  have hb : b.connectState ≠ .connected := by simp [h.callee, Stage.callee]
  exact ⟨rfl, h.callee, ⟨[], (h.out_nil ha).restart ha 0 _⟩,
    ⟨[], (h.back_nil hb).restart_far hb 0 _⟩⟩

theorem deliver (h : Perfect stage a b logA logB) {frame : Frame} {frames : List Frame}
    (hline : a.line = frame :: frames) :
    stage ≠ .idle ∧ ∃ stage', stage' ≠ .idle ∧
      Perfect stage' { a with line := frames } (b.handle frame) logA logB := by
  cases stage with
  | idle =>
    have hout := h.out_nil (by simp [h.caller, Stage.caller])
    simp [hout.line, Stage.fromCaller, numbered] at hline
  | called =>
    have ha : a.connectState ≠ .connected := by simp [h.caller, Stage.caller]
    have hb : b.connectState ≠ .connected := by simp [h.callee, Stage.callee]
    obtain ⟨rfl, hpop⟩ := (h.out_nil ha).pop hline
    rw [Peer.handle_syn0]
    exact ⟨by decide, .answered, by decide, h.caller, rfl, ⟨[], hpop.restart_far ha 1 _⟩,
      ⟨[], ((h.back_nil hb).restart hb 1 _).pop_far frames⟩⟩
  | answered =>
    have hout := h.out_nil (by simp [h.caller, Stage.caller])
    simp [hout.line, Stage.fromCaller, numbered] at hline
  | confirmed =>
    have hb : b.connectState ≠ .connected := by simp [h.callee, Stage.callee]
    have hback := h.back_nil hb
    obtain ⟨pending, hout⟩ := h.out
    obtain ⟨rfl, hpop⟩ := hout.pop hline
    rw [Peer.handle_syn2 h.callee (hback.quiet hb).2]
    exact ⟨by decide, .established, by decide, h.caller, rfl, ⟨pending, { hpop with }⟩,
      ⟨[], hback.establish.pop_far frames⟩⟩
  | established =>
    obtain ⟨pending, hout⟩ := h.out
    obtain ⟨pending', hback⟩ := h.back
    obtain ⟨hhandle, hdeliver⟩ := hout.deliver hline h.callee
    refine ⟨by decide, .established, by decide, h.caller, ?_, hdeliver, pending', ?_⟩
    · rw [hhandle]
      exact h.callee
    · rw [hhandle]
      exact { hback with }

theorem deliver_back (h : Perfect stage a b logA logB) {frame : Frame} {frames : List Frame}
    (hline : b.line = frame :: frames) :
    stage ≠ .idle ∧ ∃ stage', stage' ≠ .idle ∧
      Perfect stage' (a.handle frame) { b with line := frames } logA logB := by
  cases stage with
  | answered =>
    have ha : a.connectState ≠ .connected := by simp [h.caller, Stage.caller]
    have hb : b.connectState ≠ .connected := by simp [h.callee, Stage.callee]
    have hout := h.out_nil ha
    obtain ⟨rfl, hpop⟩ := (h.back_nil hb).pop hline
    rw [Peer.handle_syn1 h.caller (hout.quiet ha).2]
    exact ⟨by decide, .confirmed, by decide, rfl, h.callee, ⟨[], hout.confirm.pop_far frames⟩,
      ⟨[], { hpop with }⟩⟩
  | established =>
    obtain ⟨pending, hout⟩ := h.out
    obtain ⟨pending', hback⟩ := h.back
    obtain ⟨hhandle, hdeliver⟩ := hback.deliver hline h.caller
    refine ⟨by decide, .established, by decide, ?_, h.callee, ⟨pending, ?_⟩, hdeliver⟩
    · rw [hhandle]
      exact h.caller
    · rw [hhandle]
      exact { hout with }
  | _ =>
    have hback := h.back_nil (by simp [h.callee, Stage.callee])
    simp [hback.line, Stage.fromCallee, numbered] at hline

end Perfect

def Link.At (l : Link) (caller : Bool) (stage : Stage) : Prop :=
  ∃ a b, Joined (l.ctx caller) (l.ctx !caller) a b ∧
    Perfect stage a b (l.written caller) (l.written !caller)

namespace Link.At

variable {l : Link} {caller : Bool} {stage : Stage}

theorem init (memory : Bool → SFPcontext) (caller : Bool) : (Link.init memory).At caller .idle :=
  ⟨Peer.init, Peer.init, ⟨[], [], .init _, .between _, .init _, .between _⟩, .init⟩

theorem symm_idle (h : l.At caller .idle) : l.At (!caller) .idle := by
  obtain ⟨a, b, hjoined, hperfect⟩ := h
  exact ⟨b, a, (Bool.not_not caller).symm ▸ hjoined.symm,
    (Bool.not_not caller).symm ▸ hperfect.symm_idle⟩

theorem connect (h : l.At caller .idle) : (l.connect caller).At caller .called := by
  obtain ⟨a, b, hjoined, hperfect⟩ := h
  have hline : b.line = [] := (hperfect.back_nil (by simp [hperfect.callee, Stage.callee])).line
  exact ⟨a.connect, b, by simpa [Link.connect] using hjoined.connect hline,
    by simpa [Link.connect] using hperfect.connect⟩

theorem isConnected_eq {x y : Sfp Port} {p q : Peer} (h : Joined x y p q) :
    sfpIsConnected x.toSFPcontext = true ↔ p.connectState = .connected := by
  obtain ⟨_, _, hx, -⟩ := h
  rw [sfpIsConnected, hx.connectState, beq_iff_eq]

theorem write (h : l.At caller stage) (side : Bool) (packet : List UInt8) :
    (l.writeConnected side packet).At caller stage := by
  unfold Link.writeConnected
  split
  next hguard =>
    obtain ⟨a, b, hjoined, hperfect⟩ := h
    have hpacket : packet.length + sfpCrcSize ≤ sfpConfigMaxPacketSize :=
      (Nat.le_sub_iff_add_le (by decide)).mp hguard.2
    rcases Bool.eq_or_eq_not side caller with rfl | rfl
    · have hstate := (isConnected_eq hjoined).mp hguard.1
      exact ⟨_, _, by simpa using hjoined.write packet, by simpa using hperfect.write hstate hpacket⟩
    · have hstate := (isConnected_eq hjoined.symm).mp hguard.1
      exact ⟨_, _, by simpa using (hjoined.symm.write packet).symm,
        by simpa using hperfect.write_back hstate hpacket⟩
  next => exact h

theorem deliver (h : l.At caller stage) (side : Bool) :
    ∃ stage', (stage' = .idle ↔ stage = .idle) ∧ (l.deliverOctet side).At caller stage' := by
  unfold Link.deliverOctet
  split
  next => exact ⟨stage, .rfl, h⟩
  next octet line hline =>
    obtain ⟨a, b, hjoined, hperfect⟩ := h
    rcases Bool.eq_or_eq_not side caller with rfl | rfl
    · rcases hjoined.symm.deliver hperfect.line_fits_back hline with
        hsame | ⟨frame, frames, hframes, hnext⟩
      · exact ⟨stage, .rfl, a, b, by simpa using hsame.symm, hperfect⟩
      · obtain ⟨hstage, stage', hstage', hperfect'⟩ := hperfect.deliver_back hframes
        exact ⟨stage', iff_of_false hstage' hstage, _, _, by simpa using hnext.symm, hperfect'⟩
    · rw [Bool.not_not] at hline
      rcases hjoined.deliver hperfect.line_fits hline with
        hsame | ⟨frame, frames, hframes, hnext⟩
      · exact ⟨stage, .rfl, a, b, by simpa using hsame, hperfect⟩
      · obtain ⟨hstage, stage', hstage', hperfect'⟩ := hperfect.deliver hframes
        exact ⟨stage', iff_of_false hstage' hstage, _, _, by simpa using hnext, hperfect'⟩

/-- Once someone has called, a run without another call stays within the stages of that call. -/
theorem run (h : l.At caller stage) {actions : List PerfectAction}
    (hactions : actions.countP PerfectAction.IsConnect ≤ if stage = .idle then 1 else 0) :
    ∃ caller stage, (actions.foldl Link.perfectStep l).At caller stage := by
  induction actions generalizing l caller stage with
  | nil => exact ⟨caller, stage, h⟩
  | cons action actions ih =>
    cases action with
    | connect side =>
      obtain rfl : stage = .idle := by
        by_contra hstage
        simp [hstage, PerfectAction.IsConnect] at hactions
      have hside : l.At side .idle := by
        rcases Bool.eq_or_eq_not side caller with rfl | rfl
        · exact h
        · exact h.symm_idle
      rw [List.countP_cons_of_pos rfl, if_pos rfl] at hactions
      exact ih hside.connect (Nat.le_of_succ_le_succ hactions)
    | write side packet =>
      rw [List.countP_cons_of_neg Bool.false_ne_true] at hactions
      exact ih (h.write side packet) hactions
    | deliver side =>
      obtain ⟨stage', hstage', hnext⟩ := h.deliver side
      rw [List.countP_cons_of_neg Bool.false_ne_true] at hactions
      exact ih hnext (by simpa only [hstage'] using hactions)

theorem flow (h : l.At caller stage) (side : Bool) :
    ∃ p q handshake pending, Joined (l.ctx side) (l.ctx !side) p q ∧
      Flow p q (l.written side) handshake pending := by
  obtain ⟨a, b, hjoined, hperfect⟩ := h
  rcases Bool.eq_or_eq_not side caller with rfl | rfl
  · obtain ⟨pending, hout⟩ := hperfect.out
    exact ⟨a, b, _, pending, hjoined, hout⟩
  · obtain ⟨pending, hback⟩ := hperfect.back
    exact ⟨b, a, _, pending, (Bool.not_not caller).symm ▸ hjoined.symm, hback⟩

end Link.At

theorem numbered_eq_nil {type : SFPframetype} {seq : SeqNum} {payloads : List (List UInt8)}
    (h : numbered type seq payloads = []) : payloads = [] := by
  cases payloads with
  | nil => rfl
  | cons payload payloads => simp [numbered] at h

/-- Whatever the order of octets arriving and packets written, once either side calls the other:
what has arrived is a prefix of what was written, all of it when the line is empty, and only user
and handshake frames were ever sent. -/
theorem perfect_line_delivers (memory : Bool → SFPcontext) (actions : List PerfectAction)
    (hcalls : actions.countP PerfectAction.IsConnect ≤ 1) (side : Bool) :
    let l := actions.foldl Link.perfectStep (Link.init memory)
    (l.ctx !side).user.delivered <+: l.written side ∧
    ((l.ctx side).user.line = [] → (l.ctx !side).user.delivered = l.written side) ∧
    ∃ frames : List Frame, (l.ctx side).user.sent = frames.flatMap Frame.wire ∧
      ∀ frame ∈ frames, frame.type ≠ .nak ∧ frame.type ≠ .rtx := by
  intro l
  obtain ⟨caller, stage, hat⟩ := (Link.At.init memory true).run hcalls
  obtain ⟨p, q, handshake, pending, hjoined, hflow⟩ := hat.flow side
  have hnil : (l.ctx side).user.line = [] → p.line = [] := hjoined.line_nil
  obtain ⟨taken, taken', hx, -, hy, -⟩ := hjoined
  have hdelivered : (l.ctx !side).user.delivered ++ pending = l.written side := by
    rw [hy.delivered]
    exact hflow.log_eq
  refine ⟨⟨pending, hdelivered⟩, fun hline => ?_, p.sent, hx.sent, fun frame hmem => ?_⟩
  · have hempty := hflow.line.symm.trans (hnil hline)
    rwa [numbered_eq_nil (List.append_eq_nil_iff.mp hempty).2, List.append_nil] at hdelivered
  · rcases hflow.sent frame hmem with h | h <;> simp [h]

def exchange : List PerfectAction :=
  .connect true :: List.replicate 5 (.deliver false) ++ List.replicate 5 (.deliver true) ++
    List.replicate 5 (.deliver false) ++ [.write true [1], .write false [2], .write true [3]] ++
    List.replicate 12 (.deliver false) ++ List.replicate 6 (.deliver true)

theorem perfect_line_delivers_call :
    let l := exchange.foldl Link.perfectStep (Link.init fun _ => SFPcontext.zero)
    (l.ctx !true).user.delivered = [[1], [3]] ∧ (l.ctx !false).user.delivered = [[2]] ∧
    ∀ side, ∃ frames : List Frame, (l.ctx side).user.sent = frames.flatMap Frame.wire ∧
      ∀ frame ∈ frames, frame.type ≠ .nak ∧ frame.type ≠ .rtx := by
  have hdelivers := perfect_line_delivers (fun _ => SFPcontext.zero) exchange (by decide +kernel)
  have hempty : ∀ side, ((exchange.foldl Link.perfectStep
      (Link.init fun _ => SFPcontext.zero)).ctx side).user.line = [] := by decide +kernel
  have hwritten : ∀ side, (exchange.foldl Link.perfectStep
      (Link.init fun _ => SFPcontext.zero)).written side = if side then [[1], [3]] else [[2]] := by
    decide +kernel
  generalize exchange.foldl Link.perfectStep (Link.init fun _ => SFPcontext.zero) = l at *
  refine ⟨?_, ?_, fun side => (hdelivers side).2.2⟩
  · exact ((hdelivers true).2.1 (hempty true)).trans (hwritten true)
  · exact ((hdelivers false).2.1 (hempty false)).trans (hwritten false)

end TurningPoint
