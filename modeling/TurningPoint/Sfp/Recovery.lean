import TurningPoint.Sfp.Window

namespace TurningPoint

namespace Link

/-- A packet that is written fits a frame with its checksum.  If the history is full, the other end
has delivered the oldest packet in it, and no NAK on its way asks for that one. -/
def KeepsWindow (l : Link) : LossyAction → Prop
  | .write side packet =>
    let tx := (l.ctx side).tx
    let size := potRingbufferSize sfpConfigHistoryCapacity tx.history
    packet.length + sfpCrcSize ≤ sfpConfigMaxPacketSize ∧
      (size = sfpConfigHistoryCapacity →
        (l.written side).length < (l.ctx !side).user.delivered.length + size ∧
        ∀ seq : SeqNum, (Frame.nak seq).wire ∈ framesOn none (l.ctx !side).user.line →
          sfpFastforward (SeqNum.octet seq) tx.seq size ≠ 0)
  | _ => True

end Link

namespace Ends

def KeepsWindow (t : Ends) : LossyAction → Prop
  | .write side packet =>
    packet.length + sfpCrcSize ≤ sfpConfigMaxPacketSize ∧
      ((t.peer side).history.length = sfpConfigHistoryCapacity →
        (t.written side).length < (t.peer !side).delivered.length + sfpConfigHistoryCapacity ∧
        ∀ seq, Frame.nak seq ∈ (t.peer !side).line → (t.peer side).lag seq ≠ 0)
  | _ => True

end Ends

theorem Link.Shows.keepsWindow {l : Link} {t : Ends} (h : l.Shows t) {action : LossyAction}
    (hkeeps : l.KeepsWindow action) : t.KeepsWindow action := by
  cases action with
  | deliver side => trivial
  | lose side k => trivial
  | write side packet =>
    have hx := (h.ctx side).1
    have hy := (h.ctx !side).1
    obtain ⟨hfits, hwindow⟩ := hkeeps
    rw [hx.size_eq, hx.txSeq, hy.delivered, h.written] at hwindow
    refine ⟨hfits, fun hfull => ?_⟩
    obtain ⟨hlen, hnaks⟩ := hwindow hfull
    refine ⟨hfull ▸ hlen, fun seq hmem hlag => ?_⟩
    have hframe : (Frame.nak seq).wire ∈ framesOn none (l.ctx !side).user.line := by
      rw [h.framesOn_eq]
      exact List.mem_map_of_mem hmem
    refine hnaks seq hframe ?_
    rw [SeqNum.sfpFastforward_octet]
    exact (ZMod.val_eq_zero _).mpr hlag

namespace Ends

abbrev Toward (t : Ends) (side : Bool) (live : List (Frame × Nat)) (naks : List Nat) : Prop :=
  Window (t.peer side) (t.peer !side) (t.written side) live naks

abbrev Awaits (t : Ends) (side : Bool) (live : List (Frame × Nat)) (naks : List Nat) : Prop :=
  Pending (t.written side).length (t.peer !side).delivered.length live naks

/-- In both directions nothing that is wanted has been given up. -/
structure Windowed (t : Ends) : Prop where
  busy : ∀ side, (t.peer side).Busy
  window : ∀ side, ∃ live naks, t.Toward side live naks

def Recovers (t : Ends) (side : Bool) : Prop :=
  ∃ live naks, t.Toward side live naks ∧ t.Awaits side live naks

namespace Windowed

variable {t : Ends}

theorem established : Ends.established.Windowed where
  busy side := ⟨rfl, by simp [Ends.established, Peer.init], by simp [Ends.established, Peer.init]⟩
  window side := ⟨[], [], {
    line := rfl
    history := List.nil_suffix
    capacity := Nat.zero_le _
    txSeq := by simp [Ends.established, Peer.init]
    rxSeq := by simp [Ends.established, Peer.init]
    le_length := le_rfl
    dead_ne := by simp
    seq_eq := by simp
    payload_eq := by simp
    trailing := .nil _ _
    delivered := List.Sublist.refl _
    nak_line := rfl
    delivered_ge := le_rfl
    nak_ge := by simp
    nak_le := by simp
    nak_sorted := .nil
    fits := by simp [Ends.established] }⟩

theorem toward_deliver (h : t.Windowed) (side s : Bool) {live : List (Frame × Nat)}
    {naks : List Nat} (hs : t.Toward s live naks) :
    ∃ live' naks', (t.deliver side).Toward s live' naks' ∧
      (t.Awaits s live naks → (t.deliver side).Awaits s live' naks') := by
  unfold Ends.deliver
  rcases hline : (t.peer !side).line with _ | ⟨frame, frames⟩
  · exact ⟨live, naks, hs, id⟩
  · have hstate := (h.busy side).connectState
    have htraffic : frame.IsTraffic := (h.busy !side).traffic frame (hline ▸ List.mem_cons_self)
    rcases Bool.eq_or_eq_not s side with rfl | rfl
    · obtain ⟨live', naks', hsend, hpending⟩ := hs.send_receive hline htraffic hstate
      exact ⟨live', naks', by simpa [Toward] using hsend, by simpa [Awaits] using hpending⟩
    · rw [Toward, Bool.not_not] at hs
      obtain ⟨live', naks', hreceive, hpending⟩ := hs.receive hline htraffic hstate
      exact ⟨live', naks', by simpa [Toward] using hreceive, by simpa [Awaits] using hpending⟩

theorem busy_deliver (h : t.Windowed) (side : Bool) : ∀ s, ((t.deliver side).peer s).Busy := by
  unfold Ends.deliver
  rcases hline : (t.peer !side).line with _ | ⟨frame, frames⟩
  · exact h.busy
  · have htraffic : frame.IsTraffic := (h.busy !side).traffic frame (hline ▸ List.mem_cons_self)
    have hsub : frames.Sublist (t.peer !side).line := hline ▸ List.sublist_cons_self frame frames
    refine (forall_side side).mpr ⟨?_, ?_⟩
    · simpa using (h.busy side).receive htraffic
    · simpa using (h.busy !side).shrink hsub

theorem deliver (h : t.Windowed) (side : Bool) : (t.deliver side).Windowed where
  busy := h.busy_deliver side
  window s := by
    obtain ⟨live, naks, hs⟩ := h.window s
    obtain ⟨live', naks', hs', -⟩ := h.toward_deliver side s hs
    exact ⟨live', naks', hs'⟩

theorem recovers_deliver (h : t.Windowed) (side : Bool) {s : Bool} (hs : t.Recovers s) :
    (t.deliver side).Recovers s := by
  obtain ⟨live, naks, hs, hpending⟩ := hs
  obtain ⟨live', naks', hs', hpending'⟩ := h.toward_deliver side s hs
  exact ⟨live', naks', hs', hpending' hpending⟩

theorem toward_write (h : t.Windowed) {side : Bool} {packet : List UInt8}
    (hkeeps : t.KeepsWindow (.write side packet)) : (t.write side packet).Recovers side := by
  obtain ⟨hpacket, hfull⟩ := hkeeps
  have hle : packet.length ≤ sfpConfigMaxPacketSize := (Nat.le_add_right _ _).trans hpacket
  obtain ⟨live, naks, hs⟩ := h.window side
  obtain ⟨live', hwrite, hbrings⟩ := hs.write hpacket hfull
  rw [Ends.write, if_pos hle]
  exact ⟨live', naks, by simpa [Toward] using hwrite, .inr (by simpa using hbrings)⟩

theorem toward_write_not {side : Bool} (packet : List UInt8) {live : List (Frame × Nat)}
    {naks : List Nat} (hs : t.Toward (!side) live naks) :
    (t.write side packet).Toward (!side) live naks := by
  rw [Toward, Bool.not_not] at hs
  unfold Ends.write
  split
  next =>
    have hnaks : ((t.peer side).write packet).line.filter Frame.isNak =
        (t.peer side).line.filter Frame.isNak := by
      simp [Peer.write, Peer.transmit, Peer.send, Frame.isNak]
    have hwrite : Window (t.peer !side) ((t.peer side).write packet) _ live naks :=
      hs.congr rfl rfl rfl rfl rfl hnaks
    simpa [Toward] using hwrite
  next => simpa [Toward] using hs

theorem write (h : t.Windowed) {side : Bool} {packet : List UInt8}
    (hkeeps : t.KeepsWindow (.write side packet)) : (t.write side packet).Windowed where
  busy := by
    have hle : packet.length ≤ sfpConfigMaxPacketSize := (Nat.le_add_right _ _).trans hkeeps.1
    rw [Ends.write, if_pos hle]
    refine (forall_side side).mpr ⟨?_, ?_⟩
    · simpa using (h.busy side).write hle
    · simpa using h.busy !side
  window := by
    obtain ⟨live, naks, hside, -⟩ := h.toward_write hkeeps
    obtain ⟨live', naks', hs⟩ := h.window !side
    exact (forall_side side).mpr ⟨⟨live, naks, hside⟩, ⟨live', naks', toward_write_not packet hs⟩⟩

theorem recovers_write (h : t.Windowed) {side : Bool} {packet : List UInt8}
    (hkeeps : t.KeepsWindow (.write side packet)) {s : Bool} (hs : t.Recovers s) :
    (t.write side packet).Recovers s := by
  rcases Bool.eq_or_eq_not s side with rfl | rfl
  · exact h.toward_write hkeeps
  · obtain ⟨live, naks, hs, hpending⟩ := hs
    refine ⟨live, naks, toward_write_not packet hs, ?_⟩
    unfold Ends.write
    split
    next => simpa [Awaits, Peer.write, Peer.transmit, Peer.send] using hpending
    next => exact hpending

theorem lose (h : t.Windowed) (side : Bool) (k : Nat) : (t.lose side k).Windowed := by
  unfold Ends.lose
  have hsub := List.eraseIdx_sublist (t.peer side).line k
  obtain ⟨⟨live, naks, hout⟩, ⟨live', naks', hback⟩⟩ := (forall_side side).mp h.window
  rw [Toward, Bool.not_not] at hback
  obtain ⟨live, hout⟩ := hout.lose hsub
  obtain ⟨naks', hback⟩ := hback.lose_nak hsub
  refine ⟨(forall_side side).mpr ⟨?_, ?_⟩, (forall_side side).mpr ⟨⟨live, naks, ?_⟩, ⟨live', naks', ?_⟩⟩⟩
  · simpa using (h.busy side).shrink hsub
  · simpa using h.busy !side
  · simpa [Toward] using hout
  · simpa [Toward] using hback

theorem step (h : t.Windowed) {action : LossyAction} (hkeeps : t.KeepsWindow action) :
    (t.step action).Windowed := by
  cases action with
  | write side packet => exact h.write hkeeps
  | deliver side => exact h.deliver side
  | lose side k => exact h.lose side k

end Windowed

end Ends

namespace Link

instance (l : Link) : (action : LossyAction) → Decidable (l.KeepsWindow action)
  | .write _ _ => inferInstanceAs (Decidable (_ ∧ (_ → _ ∧ ∀ _ : SeqNum, _ → _)))
  | .deliver _ => .isTrue trivial
  | .lose _ _ => .isTrue trivial

theorem windowed (memory : Bool → SFPcontext) {actions : List LossyAction}
    (hkeeps : Lib.Along KeepsWindow lossyStep (established memory) actions) :
    ∃ t, (actions.foldl lossyStep (established memory)).Shows t ∧ t.Windowed := by
  have hstep : ∀ (l : Link) (action : LossyAction), (∃ t, l.Shows t ∧ t.Windowed) →
      l.KeepsWindow action → ∃ t, (l.lossyStep action).Shows t ∧ t.Windowed := by
    rintro l action ⟨t, hshows, hwindowed⟩ hkeeps
    exact ⟨t.step action, hshows.step action, hwindowed.step (hshows.keepsWindow hkeeps)⟩
  exact hkeeps.invariant hstep ⟨_, .established memory, .established⟩

/-- However many frames are lost, what has been delivered is where the packets written begin. -/
theorem delivered_prefix (memory : Bool → SFPcontext) (actions : List LossyAction)
    (hkeeps : Lib.Along KeepsWindow lossyStep (established memory) actions) (side : Bool) :
    let l := actions.foldl lossyStep (established memory)
    (l.ctx !side).user.delivered <+: l.written side := by
  intro l
  obtain ⟨t, hshows, hwindowed⟩ := windowed memory hkeeps
  obtain ⟨live, naks, hwindow⟩ := hwindowed.window side
  rw [(hshows.ctx !side).1.delivered, hshows.written, hwindow.delivered_eq]
  exact List.take_prefix _ _

theorem delivered_prefix_resent :
    let l := resentRun.foldl lossyStep (established fun _ => SFPcontext.zero)
    (l.ctx !true).user.delivered <+: l.written true :=
  delivered_prefix (fun _ => SFPcontext.zero) resentRun (by decide +kernel) true

/-- A packet written after the last loss brings back everything before it: when the lines have run
empty, the other end has got all that was written. -/
theorem delivers_all (memory : Bool → SFPcontext) (before after : List LossyAction) (side : Bool)
    (packet : List UInt8)
    (hkeeps : Lib.Along KeepsWindow lossyStep (established memory)
      (before ++ .write side packet :: after))
    (hlose : ∀ s k, .lose s k ∉ after) :
    let l := (before ++ .write side packet :: after).foldl lossyStep (established memory)
    (∀ s, (l.ctx s).user.line = []) → (l.ctx !side).user.delivered = l.written side := by
  intro l hempty
  obtain ⟨hbefore, hwrite, hafter⟩ := Lib.Along.append.mp hkeeps
  obtain ⟨t, hshows, hwindowed⟩ := windowed memory hbefore
  have hkeeps' := hshows.keepsWindow hwrite
  have hstep : ∀ (l : Link) (action : LossyAction),
      (∃ t, l.Shows t ∧ t.Windowed ∧ t.Recovers side) →
      (l.KeepsWindow action ∧ ∀ s k, action ≠ .lose s k) →
      ∃ t, (l.lossyStep action).Shows t ∧ t.Windowed ∧ t.Recovers side := by
    rintro l action ⟨t, hshows, hwindowed, hrecovers⟩ ⟨hkeeps, hreliable⟩
    have hkeeps' := hshows.keepsWindow hkeeps
    refine ⟨t.step action, hshows.step action, hwindowed.step hkeeps', ?_⟩
    cases action with
    | write s packet => exact hwindowed.recovers_write hkeeps' hrecovers
    | deliver s => exact hwindowed.recovers_deliver s hrecovers
    | lose s k => exact absurd rfl (hreliable s k)
  have hreliable : ∀ action ∈ after, ∀ s k, action ≠ .lose s k := by
    rintro _ hmem s k rfl
    exact hlose s k hmem
  have hrun := (hafter.and_mem hreliable).invariant hstep
    ⟨_, hshows.step _, hwindowed.step hkeeps', hwindowed.toward_write hkeeps'⟩
  rw [← List.foldl_cons, ← List.foldl_append] at hrun
  obtain ⟨t, hshows, -, live, naks, hwindow, hpending⟩ := hrun
  have hline : ∀ s, (t.peer s).line = [] := by
    intro s
    have hframes := hshows.framesOn_eq s
    rw [hempty s] at hframes
    exact List.map_eq_nil_iff.mp hframes.symm
  rw [(hshows.ctx !side).1.delivered, hshows.written]
  exact hwindow.all_delivered hpending (hline side) (hline !side)

theorem delivers_all_resent :
    let l := resentRun.foldl lossyStep (established fun _ => SFPcontext.zero)
    (l.ctx !true).user.delivered = [[0], [1]] := by
  have hdelivers := delivers_all (fun _ => SFPcontext.zero) [.write true [0], .lose true 0]
    [.deliver false, .deliver true, .deliver false, .deliver false] true [1] (by decide +kernel)
    (by simp)
  have hempty : ∀ s, ((resentRun.foldl lossyStep
      (established fun _ => SFPcontext.zero)).ctx s).user.line = [] := by decide +kernel
  exact (hdelivers hempty).trans (by decide +kernel)

end Link

end TurningPoint
