import TurningPoint.Lib.Run
import TurningPoint.Sfp.GoBackN

namespace TurningPoint

inductive LossyAction
  | write (side : Bool) (packet : List UInt8)
  | deliver (side : Bool)
  | lose (side : Bool) (k : Nat)

def framesOn : Option (List UInt8) → List UInt8 → List (List UInt8)
  | _, [] => []
  | none, octet :: line => framesOn (some [octet]) line
  | some frame, octet :: line =>
    if octet = sfpFlag then (frame ++ [octet]) :: framesOn none line
    else framesOn (some (frame ++ [octet])) line

theorem framesOn_body (frame : List UInt8) {body : List UInt8} (hbody : sfpFlag ∉ body)
    (line : List UInt8) :
    framesOn (some frame) (body ++ sfpFlag :: line) =
      (frame ++ body ++ [sfpFlag]) :: framesOn none line := by
  induction body generalizing frame with
  | nil => simp [framesOn]
  | cons octet body ih =>
    have hne : octet ≠ sfpFlag := (List.ne_of_not_mem_cons hbody).symm
    rw [List.cons_append, framesOn, if_neg hne, ih _ (List.not_mem_of_not_mem_cons hbody)]
    simp

theorem framesOn_wire (frames : List Frame) :
    framesOn none (frames.flatMap Frame.wire) = frames.map Frame.wire := by
  induction frames with
  | nil => rfl
  | cons frame frames ih =>
    rw [List.flatMap_cons, Frame.wire_eq, List.append_assoc, List.cons_append, framesOn,
      List.singleton_append, framesOn_body _ frame.flag_not_mem_body, ih, List.map_cons,
      Frame.wire_eq]
    rfl

namespace Link

def established (memory : Bool → SFPcontext) : Link where
  ctx side := { sfpInit { memory side with user := ⟨[], [], []⟩ } with connectState := .connected }
  written _ := []

/-- `sfpWritePacket` copies the packet into a buffer of `SFP_CONFIG_MAX_PACKET_SIZE` octets. -/
def write (side : Bool) (packet : List UInt8) (l : Link) : Link :=
  if packet.length ≤ sfpConfigMaxPacketSize then
    { ctx := Function.update l.ctx side (sfpWritePacket endpoint packet (l.ctx side)).2
      written := Function.update l.written side (l.written side ++ [packet]) }
  else l

def deliverFrame (side : Bool) (l : Link) : Link :=
  match framesOn none (l.ctx !side).user.line with
  | [] => l
  | frame :: frames =>
    let ctx := Function.update l.ctx (!side) { l.ctx (!side) with user.line := frames.flatten }
    { l with ctx := Function.update ctx side (sfpDeliverOctets endpoint frame (ctx side)) }

def loseFrame (side : Bool) (k : Nat) (l : Link) : Link :=
  let frames := (framesOn none (l.ctx side).user.line).eraseIdx k
  { l with ctx := Function.update l.ctx side { l.ctx side with user.line := frames.flatten } }

def lossyStep (l : Link) : LossyAction → Link
  | .write side packet => l.write side packet
  | .deliver side => l.deliverFrame side
  | .lose side k => l.loseFrame side k

/-- If the next frame to arrive at `side` is a NAK, its number is `tx.seq`, or that of a packet in
the history, or else it is the number that the other end waits for and no user frame of that number
is on the way there. -/
def NakCurrent (l : Link) : LossyAction → Prop
  | .deliver side => ∀ seq : SeqNum,
    (framesOn none (l.ctx !side).user.line).head? = some (Frame.wire ⟨.nak, seq, []⟩) →
      let tx := (l.ctx side).tx
      let size := potRingbufferSize sfpConfigHistoryCapacity tx.history
      SeqNum.octet seq = tx.seq ∨ sfpFastforward (SeqNum.octet seq) tx.seq size < size ∨
        (SeqNum.octet seq = (l.ctx !side).rx.seq ∧ ∀ type payload,
          type = .usr ∨ type = .rtx →
            Frame.wire ⟨type, seq, payload⟩ ∉ framesOn none (l.ctx side).user.line)
  | _ => True

end Link

/-- The same link, frame by frame. -/
structure Ends where
  peer : Bool → Peer
  written : Bool → List (List UInt8)

namespace Ends

def established : Ends := ⟨fun _ => { Peer.init with connectState := .connected }, fun _ => []⟩

def write (side : Bool) (packet : List UInt8) (t : Ends) : Ends :=
  if packet.length ≤ sfpConfigMaxPacketSize then
    { peer := Function.update t.peer side ((t.peer side).write packet)
      written := Function.update t.written side (t.written side ++ [packet]) }
  else t

def deliver (side : Bool) (t : Ends) : Ends :=
  match (t.peer !side).line with
  | [] => t
  | frame :: frames =>
    let peer := Function.update t.peer (!side) { t.peer (!side) with line := frames }
    { t with peer := Function.update peer side ((peer side).receive frame) }

def lose (side : Bool) (k : Nat) (t : Ends) : Ends :=
  { t with
    peer := Function.update t.peer side
      { t.peer side with line := (t.peer side).line.eraseIdx k } }

def step (t : Ends) : LossyAction → Ends
  | .write side packet => t.write side packet
  | .deliver side => t.deliver side
  | .lose side k => t.lose side k

def NakCurrent (t : Ends) : LossyAction → Prop
  | .deliver side => ∀ seq, (t.peer !side).line.head? = some ⟨.nak, seq, []⟩ →
    Peer.NakCurrent seq (t.peer side) (t.peer !side)
  | _ => True

end Ends

theorem forall_side (side : Bool) {p : Bool → Prop} : (∀ s, p s) ↔ p side ∧ p (!side) := by
  cases side <;> simp [and_comm]

structure Link.Shows (l : Link) (t : Ends) : Prop where
  written : l.written = t.written
  ctx : ∀ side, Represents (l.ctx side) (t.peer side) [] ∧ Reading (l.ctx side).rx [] ∧
    (t.peer side).Busy

namespace Link.Shows

variable {l : Link} {t : Ends}

theorem established (memory : Bool → SFPcontext) :
    (Link.established memory).Shows Ends.established where
  written := rfl
  ctx side := ⟨(Represents.init (memory side)).set_connectState .connected, .between _,
    rfl, by simp [Ends.established, Peer.init], by simp [Ends.established, Peer.init]⟩

theorem framesOn_eq (h : l.Shows t) (side : Bool) :
    framesOn none (l.ctx side).user.line = (t.peer side).line.map Frame.wire := by
  rw [← framesOn_wire, ← (h.ctx side).1.line, List.nil_append]

end Link.Shows

theorem Represents.set_line {s : Sfp Port} {p : Peer} (h : Represents s p []) (frames : List Frame) :
    Represents { s with user.line := (frames.map Frame.wire).flatten } { p with line := frames } [] :=
  { h with line := (List.nil_append _).trans (List.flatMap_def ..).symm }

namespace Link.Shows

variable {l : Link} {t : Ends}

theorem write (h : l.Shows t) (side : Bool) (packet : List UInt8) :
    (l.write side packet).Shows (t.write side packet) := by
  unfold Link.write Ends.write
  split
  next hpacket =>
    obtain ⟨⟨hx, hread, hbusy⟩, hother⟩ := (forall_side side).mp h.ctx
    refine ⟨by rw [h.written], (forall_side side).mpr ⟨?_, by simpa using hother⟩⟩
    simp only [Function.update_self]
    exact ⟨hx.write packet, (hx.write_rx packet).symm ▸ hread, hbusy.write hpacket⟩
  next => exact h

theorem deliver (h : l.Shows t) (side : Bool) : (l.deliverFrame side).Shows (t.deliver side) := by
  unfold Link.deliverFrame Ends.deliver
  rw [h.framesOn_eq]
  rcases hline : (t.peer !side).line with _ | ⟨frame, frames⟩
  · exact h
  · obtain ⟨⟨hx, hread, hbusy⟩, hx', hread', hbusy'⟩ := (forall_side side).mp h.ctx
    have htraffic : frame.IsTraffic := hbusy'.traffic frame (hline ▸ List.mem_cons_self)
    obtain ⟨hreceive, hbetween⟩ := hx.receive hread htraffic.bound
    refine ⟨h.written, (forall_side side).mpr ⟨?_, ?_⟩⟩
    · simpa using ⟨hreceive, hbetween, hbusy.receive htraffic⟩
    · simpa using ⟨hx'.set_line frames, hread',
        hbusy'.shrink (hline ▸ List.sublist_cons_self frame frames)⟩

theorem lose (h : l.Shows t) (side : Bool) (k : Nat) : (l.loseFrame side k).Shows (t.lose side k) := by
  unfold Link.loseFrame Ends.lose
  rw [h.framesOn_eq, List.eraseIdx_map]
  obtain ⟨⟨hx, hread, hbusy⟩, hother⟩ := (forall_side side).mp h.ctx
  refine ⟨h.written, (forall_side side).mpr ⟨?_, by simpa using hother⟩⟩
  simpa using ⟨hx.set_line _, hread, hbusy.shrink (List.eraseIdx_sublist _ k)⟩

theorem step (h : l.Shows t) (action : LossyAction) : (l.lossyStep action).Shows (t.step action) := by
  cases action with
  | write side packet => exact h.write side packet
  | deliver side => exact h.deliver side
  | lose side k => exact h.lose side k

theorem run (h : l.Shows t) (actions : List LossyAction) :
    (actions.foldl Link.lossyStep l).Shows (actions.foldl Ends.step t) :=
  Lib.foldl_simulates Link.Shows (fun _ _ action h => step h action) h actions

theorem nakCurrent (h : l.Shows t) {action : LossyAction} (hnak : l.NakCurrent action) :
    t.NakCurrent action := by
  cases action with
  | write side packet => trivial
  | lose side k => trivial
  | deliver side =>
    intro seq hhead
    have hx := (h.ctx side).1
    have hy := (h.ctx !side).1
    rcases hnak seq (by rw [h.framesOn_eq, List.head?_map, hhead]; rfl) with hseq | hlag | ⟨hseq, hline⟩
    · exact .inl (SeqNum.octet_inj.mp (hseq.trans hx.txSeq))
    · refine .inr (.inl ?_)
      rwa [hx.size_eq, hx.txSeq, SeqNum.sfpFastforward_octet] at hlag
    · refine .inr (.inr ⟨SeqNum.octet_inj.mp (hseq.trans hy.rxSeq), ?_⟩)
      rintro frame hmem huser rfl
      refine hline frame.type frame.payload (by simpa [Frame.isUser] using huser) ?_
      rw [h.framesOn_eq]
      exact List.mem_map_of_mem hmem

end Link.Shows

structure Ends.Orderly (t : Ends) : Prop where
  busy : ∀ side, (t.peer side).Busy
  order : ∀ side, ∃ d e dead live,
    GoBackN (t.peer side) (t.peer !side) (t.written side) d e dead live

namespace Ends.Orderly

variable {t : Ends}

theorem established : Ends.established.Orderly where
  busy side := ⟨rfl, by simp [Ends.established, Peer.init], by simp [Ends.established, Peer.init]⟩
  order side := ⟨0, 0, [], [], {
    line := rfl
    history := List.nil_suffix
    capacity := Nat.zero_le _
    txSeq := by simp [Ends.established, Peer.init]
    rxSeq := by simp [Ends.established, Peer.init]
    le_length := le_rfl
    dead_ne := by simp
    seq_eq := by simp
    payload_eq := by simp
    trailing := .nil _ _
    delivered := List.Sublist.refl _ }⟩

theorem write (h : t.Orderly) (side : Bool) (packet : List UInt8) :
    (t.write side packet).Orderly := by
  unfold Ends.write
  split
  next hpacket =>
    obtain ⟨hbusy, hbusy'⟩ := (forall_side side).mp h.busy
    obtain ⟨⟨d, e, dead, live, hout⟩, ⟨d', e', dead', live', hback⟩⟩ := (forall_side side).mp h.order
    rw [Bool.not_not] at hback
    refine ⟨(forall_side side).mpr ⟨?_, ?_⟩, (forall_side side).mpr ⟨?_, ?_⟩⟩
    · simpa using hbusy.write hpacket
    · simpa using hbusy'
    · exact ⟨d, e, dead, _, by simpa using hout.write packet⟩
    · exact ⟨d', e', dead', live', by simpa using hback.far (z := (t.peer side).write packet) rfl rfl⟩
  next => exact h

theorem lose (h : t.Orderly) (side : Bool) (k : Nat) : (t.lose side k).Orderly := by
  unfold Ends.lose
  obtain ⟨hbusy, hbusy'⟩ := (forall_side side).mp h.busy
  obtain ⟨⟨d, e, dead, live, hout⟩, ⟨d', e', dead', live', hback⟩⟩ := (forall_side side).mp h.order
  rw [Bool.not_not] at hback
  have hsub := List.eraseIdx_sublist (t.peer side).line k
  obtain ⟨dead, live, hshrink⟩ := hout.shrink hsub
  refine ⟨(forall_side side).mpr ⟨?_, ?_⟩, (forall_side side).mpr ⟨?_, ?_⟩⟩
  · simpa using hbusy.shrink hsub
  · simpa using hbusy'
  · exact ⟨d, e, dead, live, by simpa using hshrink⟩
  · exact ⟨d', e', dead', live',
      by simpa using hback.far (z := { t.peer side with line := (t.peer side).line.eraseIdx k }) rfl rfl⟩

theorem deliver (h : t.Orderly) (side : Bool) (hnak : t.NakCurrent (.deliver side)) :
    (t.deliver side).Orderly := by
  unfold Ends.deliver
  rcases hline : (t.peer !side).line with _ | ⟨frame, frames⟩
  · exact h
  · obtain ⟨hbusy, hbusy'⟩ := (forall_side side).mp h.busy
    obtain ⟨⟨d, e, dead, live, hout⟩, ⟨d', e', dead', live', hback⟩⟩ := (forall_side side).mp h.order
    rw [Bool.not_not] at hback
    have htraffic : frame.IsTraffic := hbusy'.traffic frame (hline ▸ List.mem_cons_self)
    have hcurrent : ∀ seq, frame = ⟨.nak, seq, []⟩ →
        Peer.NakCurrent seq (t.peer side) (t.peer !side) :=
      fun seq hframe => hnak seq (by rw [hline, hframe]; rfl)
    obtain ⟨d, e, dead, live, hsend⟩ := hout.send_receive hbusy.connectState htraffic hcurrent
    obtain ⟨e', dead', live', hreceive⟩ := hback.receive hline hbusy.connectState htraffic
    have hsub : frames.Sublist (t.peer !side).line := hline ▸ List.sublist_cons_self frame frames
    refine ⟨(forall_side side).mpr ⟨?_, ?_⟩, (forall_side side).mpr ⟨?_, ?_⟩⟩
    · simpa using hbusy.receive htraffic
    · simpa using hbusy'.shrink hsub
    · exact ⟨d, e, dead, live,
        by simpa using hsend.far (z := { t.peer (!side) with line := frames }) rfl rfl⟩
    · exact ⟨d', e', dead', live', by simpa using hreceive⟩

theorem step (h : t.Orderly) {action : LossyAction} (hnak : t.NakCurrent action) :
    (t.step action).Orderly := by
  cases action with
  | write side packet => exact h.write side packet
  | deliver side => exact h.deliver side hnak
  | lose side k => exact h.lose side k

end Ends.Orderly

/-- Packet 0 is lost and two NAKs ask for it.  The second one arrives when the history no longer
reaches back to it, just before a NAK for packet 10. -/
def staleNakRun : List LossyAction :=
  [.write true [0], .lose true 0, .write true [1], .write true [2],
    .deliver false, .deliver false, .deliver true, .deliver false, .deliver false, .deliver false,
    .write true [3], .write true [4], .write true [5], .write true [6], .write true [7],
    .write true [8], .write true [9],
    .deliver false, .deliver false, .deliver false, .deliver false, .deliver false, .deliver false,
    .deliver false,
    .write true [10], .lose true 0, .write true [11], .deliver false,
    .deliver true, .deliver true,
    .deliver false, .deliver false, .deliver false, .deliver false, .deliver false, .deliver false,
    .deliver false, .deliver false, .deliver false]

/-- Both NAKs make the sender renumber its history, and packet 4 is delivered a second time. -/
theorem lossy_line_delivers_twice :
    let l := staleNakRun.foldl Link.lossyStep (Link.established fun _ => SFPcontext.zero)
    (l.ctx false).user.delivered =
        [[0], [1], [2], [3], [4], [5], [6], [7], [8], [9], [4]] ∧
      ¬ (l.ctx false).user.delivered.Sublist (l.written true) := by
  have hshows := (Link.Shows.established fun _ => SFPcontext.zero).run staleNakRun
  intro l
  rw [(hshows.ctx false).1.delivered, hshows.written]
  decide +kernel

/-- Over a line that loses frames, and with current NAKs only, the packets delivered are a
subsequence of the packets written. -/
theorem lossy_line_delivers (memory : Bool → SFPcontext) (actions : List LossyAction)
    (hnak : Lib.Along Link.NakCurrent Link.lossyStep (Link.established memory) actions) (side : Bool) :
    let l := actions.foldl Link.lossyStep (Link.established memory)
    (l.ctx !side).user.delivered.Sublist (l.written side) := by
  intro l
  have hrun : ∃ t, l.Shows t ∧ t.Orderly := by
    have hstep : ∀ (l : Link) (action : LossyAction), (∃ t, l.Shows t ∧ t.Orderly) →
        l.NakCurrent action → ∃ t, (l.lossyStep action).Shows t ∧ t.Orderly := by
      rintro l action ⟨t, hshows, horderly⟩ hcurrent
      exact ⟨t.step action, hshows.step action, horderly.step (hshows.nakCurrent hcurrent)⟩
    exact hnak.invariant hstep ⟨_, .established memory, .established⟩
  obtain ⟨t, hshows, horderly⟩ := hrun
  obtain ⟨d, e, dead, live, horder⟩ := horderly.order side
  rw [(hshows.ctx !side).1.delivered, hshows.written]
  exact horder.delivered.trans (List.take_sublist _ _)

def resentRun : List LossyAction :=
  [.write true [0], .lose true 0, .write true [1], .deliver false, .deliver true, .deliver false,
    .deliver false]

theorem lossy_line_delivers_resent :
    let l := resentRun.foldl Link.lossyStep (Link.established fun _ => SFPcontext.zero)
    (l.ctx !true).user.delivered = [[0], [1]] ∧
      (l.ctx !true).user.delivered.Sublist (l.written true) := by
  let before (n : Nat) : Link :=
    (resentRun.take n).foldl Link.lossyStep (Link.established fun _ => SFPcontext.zero)
  have huser : ∀ n ∈ [3, 5, 6], ∀ seq : SeqNum,
      ¬ (framesOn none ((before n).ctx true).user.line).head? =
        some (Frame.wire ⟨.nak, seq, []⟩) := by
    decide +kernel
  have hnak : ∀ seq : SeqNum, (framesOn none ((before 4).ctx false).user.line).head? =
      some (Frame.wire ⟨.nak, seq, []⟩) →
      let tx := ((before 4).ctx true).tx
      let size := potRingbufferSize sfpConfigHistoryCapacity tx.history
      SeqNum.octet seq = tx.seq ∨ sfpFastforward (SeqNum.octet seq) tx.seq size < size := by
    decide +kernel
  have hcurrent : Lib.Along Link.NakCurrent Link.lossyStep
      (Link.established fun _ => SFPcontext.zero) resentRun := by
    refine And.intro trivial (And.intro trivial (And.intro trivial (And.intro ?_
      (And.intro ?_ (And.intro ?_ (And.intro ?_ trivial))))))
    · exact fun seq h => absurd h (huser 3 (by decide) seq)
    · exact fun seq h => (hnak seq h).imp_right .inl
    · exact fun seq h => absurd h (huser 5 (by decide) seq)
    · exact fun seq h => absurd h (huser 6 (by decide) seq)
  have hdelivered : ((resentRun.foldl Link.lossyStep
      (Link.established fun _ => SFPcontext.zero)).ctx !true).user.delivered = [[0], [1]] := by
    decide +kernel
  exact ⟨hdelivered, lossy_line_delivers (fun _ => SFPcontext.zero) resentRun hcurrent true⟩

end TurningPoint
