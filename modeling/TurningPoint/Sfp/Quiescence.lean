import TurningPoint.Sfp.LossyLine

namespace TurningPoint

/-- A user frame may be answered by a NAK, and a NAK by the whole history. -/
def Frame.cost (frame : Frame) : Nat :=
  match frame.type with
  | .usr => 10
  | .nak => 9
  | .rtx => 1
  | .syn => 1

theorem Frame.cost_pos (frame : Frame) : 0 < frame.cost := by
  rcases frame with ⟨type, seq, payload⟩
  cases type <;> simp [Frame.cost]

theorem Frame.cost_le (frame : Frame) : frame.cost ≤ 10 := by
  rcases frame with ⟨type, seq, payload⟩
  cases type <;> simp [Frame.cost]

def Peer.cost (p : Peer) : Nat := (p.line.map Frame.cost).sum

theorem Peer.cost_le (p : Peer) : p.cost ≤ 10 * p.line.length := by
  have h := List.sum_le_card_nsmul (p.line.map Frame.cost) 10
    (List.forall_mem_map.mpr fun frame _ => frame.cost_le)
  rw [List.length_map, smul_eq_mul] at h
  rw [Peer.cost]
  omega

theorem numbered_cost (seq : SeqNum) (payloads : List (List UInt8)) :
    ((numbered .rtx seq payloads).map Frame.cost).sum = payloads.length := by
  induction payloads generalizing seq with
  | nil => rfl
  | cons payload payloads ih =>
    rw [numbered, List.map_cons, List.sum_cons, ih, List.length_cons]
    exact Nat.add_comm ..

structure Peer.Fitting (p : Peer) : Prop extends p.Busy where
  capacity : p.history.length ≤ sfpConfigHistoryCapacity
  line_fits : ∀ frame ∈ p.line, frame.Fits
  history_fits : ∀ payload ∈ p.history, payload.length + sfpCrcSize ≤ sfpConfigMaxPacketSize

namespace Peer.Fitting

variable {p : Peer}

theorem shrink (h : p.Fitting) {frames : List Frame} (hsub : frames.Sublist p.line) :
    Peer.Fitting { p with line := frames } :=
  { h with
    toBusy := h.toBusy.shrink hsub
    line_fits := fun frame hmem => h.line_fits frame (hsub.subset hmem) }

theorem nak (h : p.Fitting) : p.nak.Fitting :=
  { h with
    toBusy := h.toBusy.nak
    line_fits := by
      have hnak := Frame.fits_control .nak p.rxSeq
      simpa [Peer.nak, Peer.control, Peer.send, or_imp, forall_and] using ⟨h.line_fits, hnak⟩ }

theorem remember_fits {packet : List UInt8} {history : List (List UInt8)}
    (h : ∀ payload ∈ history, payload.length + sfpCrcSize ≤ sfpConfigMaxPacketSize)
    (hpacket : packet.length + sfpCrcSize ≤ sfpConfigMaxPacketSize) :
    ∀ payload ∈ Peer.remember packet history,
      payload.length + sfpCrcSize ≤ sfpConfigMaxPacketSize := by
  intro payload hmem
  rcases List.mem_append.mp hmem with hmem | hmem
  · refine h payload ?_
    split at hmem
    · exact List.mem_of_mem_tail hmem
    · exact hmem
  · rwa [List.mem_singleton.mp hmem]

theorem write (h : p.Fitting) {packet : List UInt8}
    (hpacket : packet.length + sfpCrcSize ≤ sfpConfigMaxPacketSize) : (p.write packet).Fitting where
  toBusy := h.toBusy.write ((Nat.le_add_right _ _).trans hpacket)
  capacity := GoBackN.length_remember_le h.capacity
  line_fits := by
    have hframe : Frame.Fits ⟨.usr, p.txSeq, packet⟩ := hpacket
    simpa [Peer.write, Peer.transmit, Peer.send, or_imp, forall_and] using ⟨h.line_fits, hframe⟩
  history_fits := remember_fits h.history_fits hpacket

theorem resend (h : p.Fitting) :
    p.resend.Fitting ∧ p.resend.cost ≤ p.cost + sfpConfigHistoryCapacity := by
  have hbusy := h.toBusy.resend
  rw [Peer.resend_eq] at hbusy ⊢
  refine ⟨{ h with toBusy := hbusy, line_fits := ?_ }, ?_⟩
  · intro frame hmem
    rcases List.mem_append.mp hmem with hmem | hmem
    · exact h.line_fits frame hmem
    · exact h.history_fits _ (mem_numbered frame hmem).2
  · simp only [Peer.cost, List.map_append, List.sum_append, numbered_cost]
    exact Nat.add_le_add_left h.capacity _

theorem resendFrom (h : p.Fitting) (seq : SeqNum) :
    (p.resendFrom seq).Fitting ∧ (p.resendFrom seq).cost ≤ p.cost + sfpConfigHistoryCapacity := by
  rw [Peer.resendFrom]
  split
  · have hdrop : Peer.Fitting { p with history := p.history.drop (p.lag seq).val, txSeq := seq } :=
      { h with
        history_bound := fun payload hmem => h.history_bound payload (List.mem_of_mem_drop hmem)
        capacity := (List.drop_sublist ..).length_le.trans h.capacity
        history_fits := fun payload hmem => h.history_fits payload (List.mem_of_mem_drop hmem) }
    exact hdrop.resend
  · have hsame : Peer.Fitting { p with txSeq := seq } := { h with }
    exact hsame.resend

/-- What a frame sets off costs less than the frame. -/
theorem receive (h : p.Fitting) {frame : Frame} (hframe : frame.IsTraffic) (hfits : frame.Fits) :
    (p.receive frame).Fitting ∧ (p.receive frame).cost < p.cost + frame.cost := by
  have hpos := frame.cost_pos
  rw [Peer.receive, if_pos hfits]
  rcases hframe.kind with huser | ⟨seq, rfl⟩
  · have hhandle : p.handle frame = p.handleUSR frame := by
      rcases frame with ⟨type, seq, payload⟩
      cases type <;> first | rfl | exact absurd huser (by simp [Frame.isUser])
    rw [hhandle, Peer.handleUSR, if_pos h.connectState]
    split
    · exact ⟨{ h with }, by simpa [Peer.cost] using hpos⟩
    · split
      next htype =>
        refine ⟨h.nak, ?_⟩
        have hcost : frame.cost = 10 := by rw [Frame.cost, htype]
        have hnak : p.nak.cost = p.cost + 9 := by
          simp [Peer.cost, Peer.nak, Peer.control, Peer.send, Frame.cost]
        omega
      next => exact ⟨h, by omega⟩
  · have hcost : Frame.cost ⟨.nak, seq, []⟩ = 9 := rfl
    have hcapacity : sfpConfigHistoryCapacity = 8 := rfl
    have hhandle : p.handle ⟨.nak, seq, []⟩ = p.handleNAK seq := rfl
    rw [hhandle, Peer.handleNAK, if_pos h.connectState]
    split
    · exact ⟨h, by omega⟩
    · obtain ⟨hfitting, hle⟩ := h.resendFrom seq
      exact ⟨hfitting, by omega⟩

end Peer.Fitting

namespace Ends

def Fitting (t : Ends) : Prop := ∀ side, (t.peer side).Fitting

def cost (t : Ends) : Nat := (t.peer true).cost + (t.peer false).cost

theorem cost_eq (t : Ends) (side : Bool) : t.cost = (t.peer side).cost + (t.peer !side).cost := by
  cases side
  · exact Nat.add_comm ..
  · rfl

def Takes (t : Ends) : LossyAction → Prop
  | .write _ _ => False
  | .deliver side => (t.peer !side).line ≠ []
  | .lose side k => k < (t.peer side).line.length

namespace Fitting

variable {t : Ends}

theorem established : Ends.established.Fitting := fun _ =>
  { connectState := rfl
    traffic := by simp [Ends.established, Peer.init]
    history_bound := by simp [Ends.established, Peer.init]
    capacity := Nat.zero_le _
    line_fits := by simp [Ends.established, Peer.init]
    history_fits := by simp [Ends.established, Peer.init] }

theorem write (h : t.Fitting) {packet : List UInt8}
    (hpacket : packet.length + sfpCrcSize ≤ sfpConfigMaxPacketSize) (side : Bool) :
    (t.write side packet).Fitting := by
  rw [Ends.write, if_pos ((Nat.le_add_right _ _).trans hpacket)]
  refine (forall_side side).mpr ⟨?_, ?_⟩
  · simpa using (h side).write hpacket
  · simpa using h !side

theorem deliver (h : t.Fitting) (side : Bool) :
    (t.deliver side).Fitting ∧ (t.Takes (.deliver side) → (t.deliver side).cost < t.cost) := by
  unfold Ends.deliver
  rcases hline : (t.peer !side).line with _ | ⟨frame, frames⟩
  · exact ⟨h, fun htakes => absurd hline htakes⟩
  · have hmem : frame ∈ (t.peer !side).line := hline ▸ List.mem_cons_self
    have hsub : frames.Sublist (t.peer !side).line := hline ▸ List.sublist_cons_self frame frames
    obtain ⟨hfitting, hlt⟩ :=
      (h side).receive ((h !side).traffic frame hmem) ((h !side).line_fits frame hmem)
    refine ⟨(forall_side side).mpr ⟨?_, ?_⟩, fun _ => ?_⟩
    · simpa using hfitting
    · simpa using (h !side).shrink hsub
    · have hrest : (t.peer !side).cost = frame.cost + (frames.map Frame.cost).sum := by
        rw [Peer.cost, hline, List.map_cons, List.sum_cons]
      rw [cost_eq _ side, cost_eq t side, hrest]
      have hpop : Peer.cost { t.peer !side with line := frames } = (frames.map Frame.cost).sum := rfl
      simp only [Function.update_self, Function.update_of_ne (Bool.not_ne_self side),
        Function.update_of_ne (Bool.not_ne_self side).symm, hpop]
      omega

theorem lose (h : t.Fitting) (side : Bool) (k : Nat) :
    (t.lose side k).Fitting ∧ (t.Takes (.lose side k) → (t.lose side k).cost < t.cost) := by
  unfold Ends.lose
  refine ⟨(forall_side side).mpr ⟨?_, ?_⟩, fun hk => ?_⟩
  · simpa using (h side).shrink (List.eraseIdx_sublist _ k)
  · simpa using h !side
  · have hperm := (List.getElem_cons_eraseIdx_perm hk).map Frame.cost
    have hsum := hperm.sum_eq
    rw [List.map_cons, List.sum_cons] at hsum
    have hpos := Frame.cost_pos ((t.peer side).line[k])
    rw [cost_eq _ side, cost_eq t side]
    simp [Peer.cost]
    omega

theorem takes (h : t.Fitting) {action : LossyAction} (htakes : t.Takes action) :
    (t.step action).Fitting ∧ (t.step action).cost < t.cost := by
  cases action with
  | write side packet => exact htakes.elim
  | deliver side => exact (h.deliver side).imp_right fun hlt => hlt htakes
  | lose side k => exact (h.lose side k).imp_right fun hlt => hlt htakes

theorem step (h : t.Fitting) {action : LossyAction}
    (hfits : ∀ side packet, action = .write side packet →
      packet.length + sfpCrcSize ≤ sfpConfigMaxPacketSize) : (t.step action).Fitting := by
  cases action with
  | write side packet => exact h.write (hfits side packet rfl) side
  | deliver side => exact (h.deliver side).1
  | lose side k => exact (h.lose side k).1

end Fitting

end Ends

namespace Link

def Takes (l : Link) : LossyAction → Prop
  | .write _ _ => False
  | .deliver side => framesOn none (l.ctx !side).user.line ≠ []
  | .lose side k => k < (framesOn none (l.ctx side).user.line).length

instance (l : Link) : (action : LossyAction) → Decidable (l.Takes action)
  | .write _ _ => .isFalse id
  | .deliver _ => inferInstanceAs (Decidable (_ ≠ _))
  | .lose _ _ => inferInstanceAs (Decidable (_ < _))

theorem Shows.takes {l : Link} {t : Ends} (h : l.Shows t) {action : LossyAction}
    (htakes : l.Takes action) : t.Takes action := by
  cases action with
  | write side packet => exact htakes
  | deliver side => simpa [Takes, Ends.Takes, h.framesOn_eq] using htakes
  | lose side k => simpa [Takes, Ends.Takes, h.framesOn_eq] using htakes

/-- Once nobody writes, the lines run empty: no more frames come off them than ten for each that is
on them, whichever are delivered and whichever are lost. -/
theorem runs_empty (memory : Bool → SFPcontext) (before after : List LossyAction)
    (hfits : ∀ side packet, .write side packet ∈ before →
      packet.length + sfpCrcSize ≤ sfpConfigMaxPacketSize)
    (htakes : Lib.Along Takes lossyStep (before.foldl lossyStep (established memory)) after) :
    let l := before.foldl lossyStep (established memory)
    after.length ≤ 10 * ((framesOn none (l.ctx true).user.line).length +
      (framesOn none (l.ctx false).user.line).length) := by
  intro l
  have hshows := (Shows.established memory).run before
  have hfitting : (before.foldl Ends.step .established).Fitting := by
    refine List.foldlRecOn before Ends.step Ends.Fitting.established fun t h action hmem => ?_
    exact h.step fun side packet heq => hfits side packet (heq ▸ hmem)
  have hstep : ∀ (l : Link) (action : LossyAction) (n : Nat),
      (∃ t, l.Shows t ∧ t.Fitting ∧ t.cost = n) → l.Takes action →
      ∃ m < n, ∃ t, (l.lossyStep action).Shows t ∧ t.Fitting ∧ t.cost = m := by
    rintro l action _ ⟨t, hshows, hfitting, rfl⟩ htakes
    obtain ⟨hnext, hlt⟩ := hfitting.takes (hshows.takes htakes)
    exact ⟨_, hlt, t.step action, hshows.step action, hnext, rfl⟩
  have hlength := htakes.length_le hstep ⟨_, hshows, hfitting, rfl⟩
  have htrue := Peer.cost_le ((before.foldl Ends.step .established).peer true)
  have hfalse := Peer.cost_le ((before.foldl Ends.step .established).peer false)
  rw [hshows.framesOn_eq, hshows.framesOn_eq, List.length_map, List.length_map]
  rw [Ends.cost] at hlength
  omega

theorem runs_empty_resent :
    let l := [.write true [0], .lose true 0, .write true [1], .deliver false].foldl lossyStep
      (established fun _ => SFPcontext.zero)
    [LossyAction.deliver true, .deliver false, .deliver false].length ≤
      10 * ((framesOn none (l.ctx true).user.line).length +
        (framesOn none (l.ctx false).user.line).length) :=
  runs_empty (fun _ => SFPcontext.zero) [.write true [0], .lose true 0, .write true [1], .deliver false]
    [.deliver true, .deliver false, .deliver false] (by simp [sfpCrcSize, sfpConfigMaxPacketSize])
    (by decide +kernel)

end Link

end TurningPoint
