import TurningPoint.Lib.Window
import TurningPoint.Sfp.Line

/-! Retransmission out of the history, frame by frame: what one direction of a lossy line keeps as
long as no stale NAK makes the sender renumber its packets. -/

namespace TurningPoint

def Frame.isUser (frame : Frame) : Bool := frame.type == .usr || frame.type == .rtx

structure Frame.IsTraffic (frame : Frame) : Prop where
  kind : frame.isUser = true ∨ ∃ seq, frame = ⟨.nak, seq, []⟩
  bound : frame.payload.length ≤ sfpConfigMaxPacketSize

theorem foldl_transmit (type : SFPframetype) (payloads : List (List UInt8)) (p : Peer) :
    payloads.foldl (fun p payload => p.transmit type payload) p =
      { p with
        txSeq := p.txSeq + payloads.length
        line := p.line ++ numbered type p.txSeq payloads
        sent := p.sent ++ numbered type p.txSeq payloads } := by
  induction payloads generalizing p with
  | nil => simp [numbered]
  | cons payload payloads ih =>
    have hseq : p.txSeq + 1 + payloads.length = p.txSeq + (payloads.length + 1) := by ring
    rw [List.foldl_cons, ih]
    simp [Peer.transmit, Peer.send, numbered, hseq]

theorem Peer.resend_eq (p : Peer) :
    p.resend =
      { p with
        txSeq := p.txSeq + p.history.length
        line := p.line ++ numbered .rtx p.txSeq p.history
        sent := p.sent ++ numbered .rtx p.txSeq p.history } :=
  foldl_transmit .rtx p.history p

theorem mem_numbered {type : SFPframetype} {seq : SeqNum} {payloads : List (List UInt8)} :
    ∀ frame ∈ numbered type seq payloads, frame.type = type ∧ frame.payload ∈ payloads := by
  induction payloads generalizing seq with
  | nil => simp [numbered]
  | cons payload payloads ih =>
    rw [numbered, List.forall_mem_cons]
    refine ⟨⟨rfl, List.mem_cons_self⟩, fun frame hmem => ?_⟩
    exact ⟨(ih frame hmem).1, List.mem_cons_of_mem _ (ih frame hmem).2⟩

theorem numbered_zipIdx (type : SFPframetype) (d : SeqNum) {log payloads : List (List UInt8)}
    {i : Nat} (h : payloads = log.drop i) :
    ∀ t ∈ (numbered type (i + d) payloads).zipIdx i,
      t.1.seq = t.2 + d ∧ log[t.2]? = some t.1.payload ∧ i ≤ t.2 := by
  induction payloads generalizing i with
  | nil => simp [numbered]
  | cons payload payloads ih =>
    have hnext : payloads = log.drop (i + 1) := by
      rw [← List.drop_drop, ← h, List.drop_one, List.tail_cons]
    have hhead : log[i]? = some payload := by
      rw [← List.head?_drop, ← h, List.head?_cons]
    have hseq : (i : SeqNum) + d + 1 = ((i + 1 : Nat) : SeqNum) + d := by
      push_cast
      ring
    rw [numbered, hseq, List.zipIdx_cons, List.forall_mem_cons]
    refine ⟨⟨rfl, hhead, le_rfl⟩, fun t ht => ?_⟩
    obtain ⟨ht1, ht2, ht3⟩ := ih hnext t ht
    exact ⟨ht1, ht2, by omega⟩

structure Peer.Busy (p : Peer) : Prop where
  connectState : p.connectState = .connected
  traffic : ∀ frame ∈ p.line, frame.IsTraffic
  history_bound : ∀ payload ∈ p.history, payload.length ≤ sfpConfigMaxPacketSize

/-- All that a busy end can do with a frame. -/
theorem Peer.receive_cases {p : Peer} {frame : Frame} (hstate : p.connectState = .connected)
    (h : frame.IsTraffic) :
    p.receive frame = p ∨ p.receive frame = p.nak ∨
    (frame.isUser = true ∧ frame.seq = p.rxSeq ∧
      p.receive frame =
        { p with delivered := p.delivered ++ [frame.payload], rxSeq := p.rxSeq + 1 }) ∨
    (∃ seq, frame = ⟨.nak, seq, []⟩ ∧ seq ≠ p.txSeq ∧ p.receive frame = p.resendFrom seq) := by
  rcases h.kind with huser | ⟨seq, rfl⟩
  · have hhandle : p.handle frame = p.handleUSR frame := by
      rcases frame with ⟨type, seq, payload⟩
      cases type <;> first | rfl | exact absurd huser (by simp [Frame.isUser])
    rw [receive, hhandle, handleUSR, if_pos hstate]
    split_ifs with hfits hseq htype
    · exact .inr (.inr (.inl ⟨huser, hseq, rfl⟩))
    · exact .inr (.inl rfl)
    · exact .inl rfl
    · exact .inl rfl
    · exact .inr (.inl rfl)
  · have hhandle : p.receive ⟨.nak, seq, []⟩ = p.handleNAK seq := by
      rw [receive, if_pos (Frame.fits_control _ _), handle]
    rw [hhandle, handleNAK, if_pos hstate]
    split_ifs with hseq
    · exact .inl rfl
    · exact .inr (.inr (.inr ⟨seq, rfl, hseq, rfl⟩))

namespace Peer.Busy

variable {p : Peer}

theorem shrink (h : p.Busy) {frames : List Frame} (hsub : frames.Sublist p.line) :
    Peer.Busy { p with line := frames } :=
  { h with traffic := fun frame hmem => h.traffic frame (hsub.subset hmem) }

theorem nak (h : p.Busy) : p.nak.Busy := by
  have hnak : Frame.IsTraffic ⟨.nak, p.rxSeq, []⟩ := ⟨.inr ⟨p.rxSeq, rfl⟩, Nat.zero_le _⟩
  refine { h with traffic := ?_ }
  simpa [Peer.nak, Peer.control, Peer.send, or_imp, forall_and] using ⟨h.traffic, hnak⟩

theorem write (h : p.Busy) {packet : List UInt8} (hpacket : packet.length ≤ sfpConfigMaxPacketSize) :
    (p.write packet).Busy := by
  have hframe : Frame.IsTraffic ⟨.usr, p.txSeq, packet⟩ := ⟨.inl rfl, hpacket⟩
  refine { h with traffic := ?_, history_bound := ?_ }
  · simpa [Peer.write, Peer.transmit, Peer.send, or_imp, forall_and] using ⟨h.traffic, hframe⟩
  · intro payload hmem
    rcases List.mem_append.mp hmem with hmem | hmem
    · refine h.history_bound payload ?_
      split at hmem
      · exact List.mem_of_mem_tail hmem
      · exact hmem
    · rwa [List.mem_singleton.mp hmem]

theorem resend (h : p.Busy) : p.resend.Busy := by
  rw [Peer.resend_eq]
  refine { h with traffic := ?_ }
  intro frame hmem
  rcases List.mem_append.mp hmem with hmem | hmem
  · exact h.traffic frame hmem
  · obtain ⟨htype, hpayload⟩ := mem_numbered frame hmem
    exact ⟨.inl (by simp [Frame.isUser, htype]), h.history_bound _ hpayload⟩

theorem resendFrom (h : p.Busy) (seq : SeqNum) : (p.resendFrom seq).Busy := by
  rw [Peer.resendFrom]
  split
  · have hdrop : Peer.Busy { p with history := p.history.drop (p.lag seq).val, txSeq := seq } :=
      { h with history_bound := fun payload hmem => h.history_bound payload (List.mem_of_mem_drop hmem) }
    exact hdrop.resend
  · have hsame : Peer.Busy { p with txSeq := seq } := { h with }
    exact hsame.resend

theorem receive (h : p.Busy) {frame : Frame} (hframe : frame.IsTraffic) : (p.receive frame).Busy := by
  rcases Peer.receive_cases h.connectState hframe with
    heq | heq | ⟨-, -, heq⟩ | ⟨seq, -, -, heq⟩ <;> rw [heq]
  · exact h
  · exact h.nak
  · exact { h with }
  · exact h.resendFrom seq

end Peer.Busy

/-- From `x` to `y`, packets of `log`.  Numbers are indices of the log off by `d`, `y` waits for the
packet at `e`, and the user frames on the line are first some `dead` ones, which it will turn down,
then `live` ones with the indices of their packets. -/
structure GoBackN (x y : Peer) (log : List (List UInt8)) (d : SeqNum) (e : Nat)
    (dead : List Frame) (live : List (Frame × Nat)) : Prop where
  line : x.line.filter Frame.isUser = dead ++ live.map Prod.fst
  history : x.history <:+ log
  capacity : x.history.length ≤ sfpConfigHistoryCapacity
  txSeq : x.txSeq = log.length + d
  rxSeq : y.rxSeq = e + d
  le_length : e ≤ log.length
  dead_ne : ∀ frame ∈ dead, frame.seq ≠ y.rxSeq
  seq_eq : ∀ t ∈ live, t.1.seq = t.2 + d
  payload_eq : ∀ t ∈ live, log[t.2]? = some t.1.payload
  trailing : Lib.Trailing sfpConfigHistoryCapacity e (live.map Prod.snd)
  delivered : y.delivered.Sublist (log.take e)

namespace GoBackN

variable {x y : Peer} {log : List (List UInt8)} {d : SeqNum} {e : Nat} {dead : List Frame}
  {live : List (Frame × Nat)}

theorem index_lt (h : GoBackN x y log d e dead live) : ∀ i ∈ live.map Prod.snd, i < log.length := by
  simp only [List.mem_map, forall_exists_index, and_imp]
  rintro _ t ht rfl
  exact (List.getElem?_eq_some_iff.mp (h.payload_eq t ht)).1

theorem far (h : GoBackN x y log d e dead live) {z : Peer} (hrxSeq : z.rxSeq = y.rxSeq)
    (hdelivered : z.delivered = y.delivered) : GoBackN x z log d e dead live :=
  { h with
    rxSeq := hrxSeq.trans h.rxSeq
    dead_ne := hrxSeq.symm ▸ h.dead_ne
    delivered := hdelivered.symm ▸ h.delivered }

theorem shrink (h : GoBackN x y log d e dead live) {frames : List Frame}
    (hsub : frames.Sublist x.line) :
    ∃ dead live, GoBackN { x with line := frames } y log d e dead live := by
  have hfilter : (frames.filter Frame.isUser).Sublist (dead ++ live.map Prod.fst) :=
    h.line ▸ hsub.filter _
  obtain ⟨dead', rest, hsplit, hdead, hrest⟩ := List.sublist_append_iff.mp hfilter
  obtain ⟨live', hlive, rfl⟩ := List.sublist_map_iff.mp hrest
  exact ⟨dead', live', { h with
    line := hsplit
    dead_ne := fun frame hmem => h.dead_ne frame (hdead.subset hmem)
    seq_eq := fun t ht => h.seq_eq t (hlive.subset ht)
    payload_eq := fun t ht => h.payload_eq t (hlive.subset ht)
    trailing := h.trailing.sublist (hlive.map _) }⟩

theorem nak (h : GoBackN x y log d e dead live) : GoBackN x.nak y log d e dead live where
  __ := h
  line := by
    rw [← h.line]
    simp [Peer.nak, Peer.control, Peer.send, Frame.isUser]

theorem remember_suffix {payload : List UInt8} {history : List (List UInt8)}
    (h : history <:+ log) : Peer.remember payload history <:+ log ++ [payload] := by
  have htail : (if history.length = sfpConfigHistoryCapacity then history.tail else history) <:+ log := by
    split
    · exact (List.tail_suffix _).trans h
    · exact h
  obtain ⟨before, hbefore⟩ := htail
  exact ⟨before, by rw [Peer.remember, ← List.append_assoc, hbefore]⟩

theorem length_remember_le {payload : List UInt8} {history : List (List UInt8)}
    (h : history.length ≤ sfpConfigHistoryCapacity) :
    (Peer.remember payload history).length ≤ sfpConfigHistoryCapacity := by
  have hpos : 0 < sfpConfigHistoryCapacity := by decide
  rw [Peer.remember]
  split <;> simp <;> omega

theorem write (h : GoBackN x y log d e dead live) (packet : List UInt8) :
    GoBackN (x.write packet) y (log ++ [packet]) d e dead
      (live ++ [(⟨.usr, x.txSeq, packet⟩, log.length)]) where
  line := by
    simp [Peer.write, Peer.transmit, Peer.send, h.line, Frame.isUser]
  history := remember_suffix h.history
  capacity := length_remember_le h.capacity
  txSeq := by
    simp only [Peer.write, Peer.transmit, Peer.send, h.txSeq, List.length_append, List.length_singleton]
    push_cast
    ring
  rxSeq := h.rxSeq
  le_length := by
    rw [List.length_append]
    exact h.le_length.trans (Nat.le_add_right _ _)
  dead_ne := h.dead_ne
  seq_eq := by simpa [or_imp, forall_and] using ⟨fun a b => h.seq_eq (a, b), h.txSeq⟩
  payload_eq := by
    intro t ht
    rcases List.mem_append.mp ht with ht | ht
    · have hi := h.index_lt t.2 (List.mem_map_of_mem ht)
      rw [List.getElem?_append_left hi]
      exact h.payload_eq t ht
    · rw [List.mem_singleton.mp ht]
      simp
  trailing := by
    rw [List.map_append]
    exact h.trailing.append h.index_lt h.le_length (by simp) (by simp)
  delivered := by
    rw [List.take_append_of_le_length h.le_length]
    exact h.delivered

theorem resend (h : GoBackN x y log d e dead live) {seq : SeqNum}
    (hseq : seq = (log.length - x.history.length : Nat) + d) :
    GoBackN { x with txSeq := seq }.resend y log d e dead
      (live ++ (numbered .rtx seq x.history).zipIdx (log.length - x.history.length)) := by
  have hle : x.history.length ≤ log.length := h.history.length_le
  have hdrop : x.history = log.drop (log.length - x.history.length) :=
    List.suffix_iff_eq_drop.mp h.history
  have hframes := numbered_zipIdx .rtx d hdrop
  rw [← hseq] at hframes
  have huser : ∀ frame ∈ numbered .rtx seq x.history, frame.isUser = true := by
    intro frame hframe
    simp [Frame.isUser, (mem_numbered frame hframe).1]
  rw [Peer.resend_eq]
  exact {
    line := by
      rw [List.filter_append, h.line, List.filter_eq_self.mpr huser]
      simp
    history := h.history
    capacity := h.capacity
    txSeq := by
      simp only [hseq]
      rw [Nat.cast_sub hle]
      ring
    rxSeq := h.rxSeq
    le_length := h.le_length
    dead_ne := h.dead_ne
    seq_eq := by
      intro t ht
      rcases List.mem_append.mp ht with ht | ht
      · exact h.seq_eq t ht
      · exact (hframes t ht).1
    payload_eq := by
      intro t ht
      rcases List.mem_append.mp ht with ht | ht
      · exact h.payload_eq t ht
      · exact (hframes t ht).2.1
    trailing := by
      rw [List.map_append]
      refine h.trailing.append h.index_lt h.le_length ?_ ?_
      · have := h.capacity
        simp [List.zipIdx_map_snd]
        omega
      · rw [List.zipIdx_map_snd]
        exact (List.pairwise_lt_range' 1).imp fun hij => by omega
    delivered := h.delivered }

theorem resend_window (h : GoBackN x y log d e dead live) {seq : SeqNum}
    (hlag : (x.lag seq).val < x.history.length) :
    ∃ live, GoBackN (x.resendFrom seq) y log d e dead live := by
  have hle : x.history.length ≤ log.length := h.history.length_le
  have hdrop : GoBackN { x with history := x.history.drop (x.lag seq).val } y log d e dead live :=
    { h with
      history := (List.drop_suffix _ _).trans h.history
      capacity := by
        have := h.capacity
        simp
        omega }
  have hseq : seq = (log.length - (x.history.drop (x.lag seq).val).length : Nat) + d := by
    have hval : ((x.lag seq).val : SeqNum) = x.lag seq := ZMod.natCast_zmod_val _
    rw [List.length_drop, Nat.cast_sub (by omega), Nat.cast_sub hlag.le, hval, Peer.lag, h.txSeq]
    ring
  rw [Peer.resendFrom, if_pos hlag]
  exact ⟨_, hdrop.resend hseq⟩

/-- A NAK for a number outside the window that `y` does wait for, with no frame of that number on
the way: the history goes out under new numbers, and everything older on the line is dead. -/
theorem resend_renumbered (h : GoBackN x y log d e dead live) {seq : SeqNum}
    (hlag : ¬ (x.lag seq).val < x.history.length) (hne : seq ≠ x.txSeq) (hrxSeq : seq = y.rxSeq)
    (hline : ∀ frame ∈ x.line, frame.isUser = true → frame.seq ≠ seq) :
    ∃ d e dead live, GoBackN (x.resendFrom seq) y log d e dead live := by
  have hle : x.history.length ≤ log.length := h.history.length_le
  -- What `y` waits for has dropped out of the history.
  have hpast : e ≤ log.length - x.history.length := by
    by_contra hlt
    have hlag_eq : x.lag seq = (e - (log.length - x.history.length) : Nat) := by
      rw [Nat.cast_sub (by omega), Nat.cast_sub hle, Peer.lag, hrxSeq, h.rxSeq, h.txSeq]
      ring
    have hcapacity := h.capacity
    have hlength := h.le_length
    rw [hlag_eq, ZMod.val_natCast, Nat.mod_eq_of_lt (by omega)] at hlag
    refine hne ?_
    rw [hrxSeq, h.rxSeq, h.txSeq, show e = log.length by omega]
  have hdead : ∀ frame ∈ x.line.filter Frame.isUser, frame.seq ≠ y.rxSeq := by
    intro frame hmem
    obtain ⟨hmem, huser⟩ := List.mem_filter.mp hmem
    exact hrxSeq ▸ hline frame hmem huser
  have hrenumbered : GoBackN { x with txSeq := log.length + (seq - (log.length - x.history.length : Nat)) }
      y log (seq - (log.length - x.history.length : Nat)) (log.length - x.history.length)
      (x.line.filter Frame.isUser) [] :=
    { h with
      line := by simp
      txSeq := rfl
      rxSeq := by rw [← hrxSeq]; ring
      le_length := Nat.sub_le _ _
      dead_ne := hdead
      seq_eq := by simp
      payload_eq := by simp
      trailing := .nil _ _
      delivered := h.delivered.trans (List.take_prefix_take_left hpast).sublist }
  rw [Peer.resendFrom, if_neg hlag]
  exact ⟨_, _, _, _, hrenumbered.resend (by ring)⟩

theorem accept (h : GoBackN x y log d e dead live) {frame : Frame} {frames : List Frame}
    (hline : x.line = frame :: frames) (huser : frame.isUser = true) (hseq : frame.seq = y.rxSeq) :
    ∃ e live, GoBackN { x with line := frames }
      { y with delivered := y.delivered ++ [frame.payload], rxSeq := y.rxSeq + 1 } log d e [] live := by
  have hfilter := h.line
  rw [hline, List.filter_cons_of_pos huser] at hfilter
  rcases dead with _ | ⟨frame', dead⟩
  · rcases live with _ | ⟨⟨frame', i⟩, live⟩
    · simp at hfilter
    · obtain ⟨rfl, hframes⟩ := List.cons_eq_cons.mp hfilter
      have hpayload : log[i]? = some frame.payload := h.payload_eq _ List.mem_cons_self
      have hcast : (i : SeqNum) = e := by
        have hi : frame.seq = i + d := h.seq_eq _ List.mem_cons_self
        exact add_right_cancel (hi.symm.trans (hseq.trans h.rxSeq))
      have htrailing := h.trailing
      rw [List.map_cons] at htrailing
      refine ⟨i + 1, live, { h with
        line := hframes
        rxSeq := ?_
        le_length := (List.getElem?_eq_some_iff.mp hpayload).1
        dead_ne := by simp
        seq_eq := fun t ht => h.seq_eq t (List.mem_cons_of_mem _ ht)
        payload_eq := fun t ht => h.payload_eq t (List.mem_cons_of_mem _ ht)
        trailing := htrailing.advance
        delivered := Lib.sublist_take_succ h.delivered
          (htrailing.le_of_cast_eq (by decide) hcast) hpayload }⟩
      simp only [h.rxSeq, ← hcast]
      push_cast
      ring
  · obtain ⟨rfl, -⟩ := List.cons_eq_cons.mp hfilter
    exact absurd hseq (h.dead_ne frame List.mem_cons_self)

theorem receive (h : GoBackN x y log d e dead live) {frame : Frame} {frames : List Frame}
    (hline : x.line = frame :: frames) (hstate : y.connectState = .connected)
    (hframe : frame.IsTraffic) :
    ∃ e dead live, GoBackN { x with line := frames } (y.receive frame) log d e dead live := by
  obtain ⟨dead', live', hpop⟩ := h.shrink (hline ▸ List.sublist_cons_self frame frames)
  rcases Peer.receive_cases hstate hframe with
    heq | heq | ⟨huser, hseq, heq⟩ | ⟨seq, -, -, heq⟩ <;> rw [heq]
  · exact ⟨e, dead', live', hpop⟩
  · exact ⟨e, dead', live', hpop.far rfl rfl⟩
  · obtain ⟨e, live, haccept⟩ := h.accept hline huser hseq
    exact ⟨e, [], live, haccept⟩
  · exact ⟨e, dead', live', hpop.far (by simp [Peer.resendFrom, Peer.resend_eq])
      (by simp [Peer.resendFrom, Peer.resend_eq])⟩

end GoBackN

/-- A NAK that `y` sent for `seq` does not make `x` give the number to a packet that `y` cannot want:
`x` need not renumber, or `y` still waits for `seq` and no frame of that number is on its way. -/
def Peer.NakCurrent (seq : SeqNum) (x y : Peer) : Prop :=
  seq = x.txSeq ∨ (x.lag seq).val < x.history.length ∨
    (seq = y.rxSeq ∧ ∀ frame ∈ x.line, frame.isUser = true → frame.seq ≠ seq)

theorem GoBackN.send_receive {x y : Peer} {log : List (List UInt8)} {d : SeqNum} {e : Nat}
    {dead : List Frame} {live : List (Frame × Nat)} (h : GoBackN x y log d e dead live)
    {frame : Frame} (hstate : x.connectState = .connected) (hframe : frame.IsTraffic)
    (hnak : ∀ seq, frame = ⟨.nak, seq, []⟩ → Peer.NakCurrent seq x y) :
    ∃ d e dead live, GoBackN (x.receive frame) y log d e dead live := by
  rcases Peer.receive_cases hstate hframe with
    heq | heq | ⟨-, -, heq⟩ | ⟨seq, rfl, hne, heq⟩ <;> rw [heq]
  · exact ⟨d, e, dead, live, h⟩
  · exact ⟨d, e, dead, live, h.nak⟩
  · exact ⟨d, e, dead, live, { h with }⟩
  · by_cases hlag : (x.lag seq).val < x.history.length
    · obtain ⟨live, hresend⟩ := h.resend_window hlag
      exact ⟨d, e, dead, live, hresend⟩
    · rcases hnak seq rfl with heq | hlt | ⟨hrxSeq, hline⟩
      · exact absurd heq hne
      · exact absurd hlt hlag
      · exact h.resend_renumbered hlag hne hrxSeq hline

end TurningPoint
