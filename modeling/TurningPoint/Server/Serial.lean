import TurningPoint.Server.Writes
import TurningPoint.Sfp.Resend

universe u

namespace TurningPoint

abbrev SerialDriver := List UInt8 → Board → Nat × Board

structure SerialDriver.TakesPrefix (driver : SerialDriver) : Prop where
  count_le : ∀ octets board, (driver octets board).1 ≤ octets.length
  wire_eq : ∀ octets board,
    (driver octets board).2.wire = board.wire ++ octets.take (driver octets board).1

def sdReluctantWrite : SerialDriver := fun octets board =>
  let wlen := min octets.length (board.room 0)
  (wlen, { board with
    room := fun n => board.room (n + 1)
    wire := board.wire ++ octets.take wlen })

theorem sdReluctantWrite_takesPrefix : SerialDriver.TakesPrefix sdReluctantWrite :=
  ⟨fun _ _ => Nat.min_le_left _ _, fun _ _ => rfl⟩

theorem sdAsynchronousWrite_takesPrefix : SerialDriver.TakesPrefix sdAsynchronousWrite :=
  ⟨fun _ _ => Nat.min_le_left _ _, fun _ _ => rfl⟩

/-- The loop in `serverWrite` as long as it has turns left; the flag says that it has ended. -/
def serverWriteTurns (driver : SerialDriver) :
    Nat → List UInt8 → Nat → Nat → Nat → Board → Bool × Nat × Board
  | 0, _, len, _, wcnt, board => (len == 0, wcnt, board)
  | turns + 1, octets, len, wlen, wcnt, board =>
    if len > 0 then
      let octets := octets.drop wlen
      let (wlen, board) := driver (octets.take len) board
      serverWriteTurns driver turns octets (len - wlen) wlen (wcnt + wlen) board
    else (true, wcnt, board)

def serverWriteOver (driver : SerialDriver) (turns : Nat) (octets : List UInt8) (s : Server) :
    Bool × Nat × Server :=
  let len := octets.length
  let (wlen, board) := driver octets s.board
  let (ended, wcnt, board) := serverWriteTurns driver turns octets (len - wlen) wlen wlen board
  let written := ⟨octets, s.rpc, s.board, s.outer.sfp, s.outer.state, s.outer.resets⟩
  (ended, wcnt,
    serverCheckConnection { s with board := board, outer.writes := s.outer.writes ++ [written] })

/-- The callbacks over such a driver.  The flag beside the rest of the server stays set as long as
every loop has ended in its turns and no call has reset the session. -/
def serialCallbacks (driver : SerialDriver) (turns : Nat) : Callbacks (Rest × Bool) where
  write octets c :=
    let s := ofSfp ⟨c.toSFPcontext, c.user.1⟩
    let (ended, _, s') := serverWriteOver driver turns octets s
    { (toSfp s').toSFPcontext with
      user := ((toSfp s').user, c.user.2 && ended && s'.outer.resets == s.outer.resets) }
  deliver := none

variable {driver : SerialDriver}

/-- Whatever the driver takes in each turn, a loop that ends has passed on the rest of the octets,
and counted them. -/
theorem serverWriteTurns_wire (h : driver.TakesPrefix) {turns : Nat} {octets : List UInt8}
    {len wlen wcnt : Nat} {board : Board} (hlen : len = (octets.drop wlen).length)
    (hended : (serverWriteTurns driver turns octets len wlen wcnt board).1 = true) :
    (serverWriteTurns driver turns octets len wlen wcnt board).2.1 = wcnt + len ∧
      (serverWriteTurns driver turns octets len wlen wcnt board).2.2.wire =
        board.wire ++ octets.drop wlen := by
  have hdone {octets : List UInt8} {len wlen wcnt : Nat} {board : Board}
      (hlen : len = (octets.drop wlen).length) (hzero : len = 0) :
      wcnt = wcnt + len ∧ board.wire = board.wire ++ octets.drop wlen := by
    rw [List.eq_nil_of_length_eq_zero (hlen.symm.trans hzero), List.append_nil]
    exact ⟨hzero ▸ rfl, rfl⟩
  induction turns generalizing octets len wlen wcnt board with
  | zero => exact hdone hlen (beq_iff_eq.mp hended)
  | succ turns ih =>
    unfold serverWriteTurns at hended ⊢
    split at hended
    case isFalse hzero =>
      rw [if_neg hzero]
      exact hdone hlen (Nat.eq_zero_of_not_pos hzero)
    case isTrue hpos =>
      rw [if_pos hpos]
      dsimp only at hended ⊢
      have htake : (octets.drop wlen).take len = octets.drop wlen :=
        List.take_of_length_le (Nat.le_of_eq hlen.symm)
      rw [htake] at hended ⊢
      have hcount := h.count_le (octets.drop wlen) board
      obtain ⟨hwcnt, hwire⟩ := ih (by rw [List.length_drop, hlen]) hended
      refine ⟨by omega, hwire.trans ?_⟩
      rw [h.wire_eq, List.append_assoc, List.take_append_drop]

theorem serverCheckConnection_wire (s : Server) :
    (serverCheckConnection s).board.wire = s.board.wire := by
  unfold serverCheckConnection
  dsimp only [chTimeElapsedSince]
  repeat' split
  all_goals rfl

theorem serverWriteOver_wire (h : driver.TakesPrefix) {turns : Nat} {octets : List UInt8} {s : Server}
    (hended : (serverWriteOver driver turns octets s).1 = true) :
    (serverWriteOver driver turns octets s).2.1 = octets.length ∧
      (serverWriteOver driver turns octets s).2.2.board.wire = s.board.wire ++ octets := by
  have hcount := h.count_le octets s.board
  obtain ⟨hwcnt, hwire⟩ := serverWriteTurns_wire h (List.length_drop ..).symm hended
  have hlen : (driver octets s.board).1 + (octets.length - (driver octets s.board).1) =
      octets.length := by omega
  refine ⟨hwcnt.trans hlen, (serverCheckConnection_wire _).trans (hwire.trans ?_)⟩
  rw [h.wire_eq, List.append_assoc, List.take_append_drop]

theorem serverWriteOver_sfp (turns : Nat) (octets : List UInt8) (s : Server)
    (hresets : (serverWriteOver driver turns octets s).2.2.outer.resets = s.outer.resets) :
    (serverWriteOver driver turns octets s).2.2.outer.sfp = s.outer.sfp := by
  unfold serverWriteOver at hresets ⊢
  dsimp only at hresets ⊢
  obtain ⟨-, state, houter⟩ | ⟨-, houter⟩ := serverCheckConnection_outer _ octets
  · rw [houter]
  · rw [houter] at hresets
    exact absurd hresets (Nat.succ_ne_self _)

theorem serialCallbacks_passes (h : driver.TakesPrefix) (turns : Nat) :
    (serialCallbacks driver turns).Passes (fun u => u.1.board.wire) (fun u => u.2 = true) := by
  have hsplit (octets : List UInt8) (c : Sfp (Rest × Bool))
      (hok : ((serialCallbacks driver turns).write octets c).user.2 = true) :
      (c.user.2 = true ∧ (serverWriteOver driver turns octets (ofSfp ⟨c.toSFPcontext, c.user.1⟩)).1) ∧
        (serverWriteOver driver turns octets (ofSfp ⟨c.toSFPcontext, c.user.1⟩)).2.2.outer.resets =
          c.user.1.resets := by
    simpa [serialCallbacks, ofSfp, toSfp] using hok
  exact {
    ok_before := fun octets c hok => (hsplit octets c hok).1.1
    context_eq := fun octets c hok => serverWriteOver_sfp turns octets _ (hsplit octets c hok).2
    wire_eq := fun octets c hok => (serverWriteOver_wire h (hsplit octets c hok).1.2).2 }

theorem serverWriteTurns_eq {turns n : Nat} {octets : List UInt8} {len wlen wcnt : Nat} {board : Board}
    (hlen : len = (octets.drop wlen).length) (hturns : len ≤ turns) (hn : len ≤ n) :
    serverWriteTurns sdAsynchronousWrite turns octets len wlen wcnt board =
      (true, wcnt + len, serverWriteLoop n (octets.drop wlen) board) := by
  induction n generalizing turns octets len wlen wcnt board with
  | zero =>
    obtain rfl := Nat.le_zero.mp hn
    cases turns <;> rfl
  | succ n ih =>
    rw [serverWriteLoop]
    by_cases hnil : octets.drop wlen = []
    · rw [if_pos hnil]
      obtain rfl : len = 0 := by rw [hlen, hnil, List.length_nil]
      cases turns <;> rfl
    · have hpos : 0 < len := hlen ▸ List.length_pos_iff.mpr hnil
      obtain ⟨turns, rfl⟩ := Nat.exists_eq_add_one_of_ne_zero (show turns ≠ 0 by omega)
      have htake : (octets.drop wlen).take len = octets.drop wlen :=
        List.take_of_length_le (Nat.le_of_eq hlen.symm)
      have hcount := sdAsynchronousWrite_takesPrefix.count_le (octets.drop wlen) board
      have htaken : 0 < (sdAsynchronousWrite (octets.drop wlen) board).1 := by
        rw [sdAsynchronousWrite, ← hlen]
        exact Nat.lt_min.mpr ⟨hpos, Nat.succ_pos _⟩
      rw [if_neg hnil, serverWriteTurns, if_pos hpos]
      dsimp only
      rw [htake, ih (by rw [List.length_drop, hlen]) (by omega) (by omega)]
      refine congrArg (fun wcnt => (true, wcnt, _)) ?_
      omega

theorem serverWriteOver_eq {turns : Nat} {octets : List UInt8} (hturns : octets.length ≤ turns)
    (s : Server) : serverWriteOver sdAsynchronousWrite turns octets s =
      (true, octets.length, serverWrite octets s) := by
  have hcount := sdAsynchronousWrite_takesPrefix.count_le octets s.board
  unfold serverWriteOver serverWrite
  dsimp only
  rw [serverWriteTurns_eq (n := octets.length) (List.length_drop ..).symm (by omega) (by omega),
    Nat.add_sub_of_le hcount]

/-- The wire carries exactly the octets of the frame, and they have been counted, whatever the
driver takes from call to call. -/
theorem wire_carries_frame (hdriver : driver.TakesPrefix) (turns : Nat) (header : UInt8)
    (packet : Option SFPpacket) {c : Sfp (Rest × Bool)} (hempty : c.tx.writebuf = []) :
    let r := sfpTransmitFrameWithHeader (serialCallbacks driver turns) header packet c
    r.2.user.2 = true →
    r.2.user.1.board.wire = c.user.1.board.wire ++ wireFrame header (packetOctets packet) ∧
      r.1 = (wireFrame header (packetOctets packet)).length ∧
      r.2.tx.writebuf = [] := by
  intro r hended
  obtain ⟨hframe, hwritebuf⟩ :=
    (serialCallbacks_passes hdriver turns).transmitFrameWithHeader header packet c hended
  exact ⟨emitted_wire hframe.emitted_eq hempty hwritebuf, hframe.outlen_eq, hwritebuf⟩

def Board.Relents (board : Board) : Prop := ∀ n, 0 < board.room n ∨ 0 < board.room (n + 1)

theorem serverWriteTurns_ends {turns : Nat} {octets : List UInt8} {len wlen wcnt : Nat}
    {board : Board} (hroom : board.Relents) (hlen : len = (octets.drop wlen).length)
    (hturns : 2 * len ≤ turns + if 0 < board.room 0 then 1 else 0) :
    (serverWriteTurns sdReluctantWrite turns octets len wlen wcnt board).1 = true ∧
      (serverWriteTurns sdReluctantWrite turns octets len wlen wcnt board).2.2.Relents := by
  induction turns generalizing octets len wlen wcnt board with
  | zero =>
    have hzero : len = 0 := by
      split at hturns <;> omega
    exact ⟨beq_iff_eq.mpr hzero, hroom⟩
  | succ turns ih =>
    unfold serverWriteTurns
    split
    case isFalse => exact ⟨rfl, hroom⟩
    case isTrue hpos =>
      have htake : (octets.drop wlen).take len = octets.drop wlen :=
        List.take_of_length_le (Nat.le_of_eq hlen.symm)
      have hwlen : (sdReluctantWrite (octets.drop wlen) board).1 = min len (board.room 0) := by
        rw [hlen]
        rfl
      dsimp only
      rw [htake]
      refine ih (fun n => hroom (n + 1)) (by rw [List.length_drop, hlen]) ?_
      rw [hwlen]
      change _ ≤ turns + if 0 < board.room 1 then 1 else 0
      have hnext := hroom 0
      rw [Nat.zero_add] at hnext
      split <;> split at hturns <;> omega

structure Relenting (c : Sfp (Rest × Bool)) : Prop where
  writebuf_le : c.tx.writebuf.length ≤ sfpConfigWritebufSize
  ended : c.user.2 = true
  state_eq : c.user.1.state = .disconnected
  connected_eq : sfpIsConnected c.toSFPcontext = false
  relents : c.user.1.board.Relents

theorem serverCheckConnection_disconnected {s : Server} (hstate : s.outer.state = .disconnected)
    (hconnected : sfpIsConnected s.outer.sfp = false) : serverCheckConnection s = s := by
  unfold serverCheckConnection
  rw [hstate, hconnected]
  rfl

theorem serverWriteOver_ends {octets : List UInt8} {s : Server}
    (hlen : octets.length ≤ sfpConfigWritebufSize) (hrelents : s.board.Relents)
    (hstate : s.outer.state = .disconnected) (hconnected : sfpIsConnected s.outer.sfp = false) :
    let r := serverWriteOver sdReluctantWrite 1024 octets s
    r.1 = true ∧ r.2.2.board.Relents ∧ r.2.2.outer.state = .disconnected ∧
      r.2.2.outer.sfp = s.outer.sfp ∧ r.2.2.outer.resets = s.outer.resets := by
  intro r
  let wlen := (sdReluctantWrite octets s.board).1
  have hturns : 2 * (octets.length - wlen) ≤
      1024 + if 0 < (sdReluctantWrite octets s.board).2.room 0 then 1 else 0 := by
    change octets.length ≤ 512 at hlen
    omega
  obtain ⟨hended, hrelents⟩ := @serverWriteTurns_ends 1024 octets _ wlen wlen
    (sdReluctantWrite octets s.board).2 (fun n => hrelents (n + 1)) (List.length_drop ..).symm hturns
  let t := serverWriteTurns sdReluctantWrite 1024 octets (octets.length - wlen) wlen wlen
    (sdReluctantWrite octets s.board).2
  let written : Server := { s with
    board := t.2.2
    outer.writes := s.outer.writes ++
      [⟨octets, s.rpc, s.board, s.outer.sfp, s.outer.state, s.outer.resets⟩] }
  have hsame : serverCheckConnection written = written :=
    serverCheckConnection_disconnected hstate hconnected
  have hr : r = (t.1, t.2.1, written) := congrArg (fun s => (t.1, t.2.1, s)) hsame
  rw [hr]
  exact ⟨hended, hrelents, hstate, rfl, rfl⟩

namespace Relenting

variable {c : Sfp (Rest × Bool)}

theorem flush (h : Relenting c) :
    Relenting (sfpFlushWriteBuffer (serialCallbacks sdReluctantWrite 1024) c) := by
  let s := ofSfp ⟨c.toSFPcontext, c.user.1⟩
  obtain ⟨hended, hrelents, hstate, hsfp, hresets⟩ :=
    @serverWriteOver_ends _ s h.writebuf_le h.relents h.state_eq h.connected_eq
  have hflag : (c.user.2 && (serverWriteOver sdReluctantWrite 1024 c.tx.writebuf s).1 &&
      (serverWriteOver sdReluctantWrite 1024 c.tx.writebuf s).2.2.outer.resets ==
        s.outer.resets) = true := by
    rw [h.ended, hended, hresets, beq_self_eq_true]
    rfl
  refine ⟨Nat.zero_le _, hflag, hstate, ?_, hrelents⟩
  exact (congrArg sfpIsConnected hsfp).trans h.connected_eq

theorem bufferedWrite {r : Nat × Sfp (Rest × Bool)} (h : Relenting r.2) (octet : UInt8) :
    Relenting (sfpBufferedWrite (serialCallbacks sdReluctantWrite 1024) octet r).2 := by
  have hpush {c : Sfp (Rest × Bool)} (h : Relenting c)
      (hroom : c.tx.writebuf.length < sfpConfigWritebufSize) :
      Relenting { c with tx.writebuf := c.tx.writebuf ++ [octet] } := by
    refine { h with writebuf_le := ?_ }
    rw [List.length_append]
    exact hroom
  unfold sfpBufferedWrite
  dsimp only
  split
  case isTrue => exact hpush h.flush (show 0 < 512 by decide)
  case isFalse hfull => exact hpush h (Nat.not_le.mp hfull)

theorem writing : Writing (serialCallbacks sdReluctantWrite 1024) fun _ _ r => Relenting r.2 where
  octet _ _ _ octet hr := hr.bufferedWrite octet
  crc _ _ _ _ _ hr := { hr with }

theorem writeNoCRC {r : Nat × Sfp (Rest × Bool)} (h : Relenting r.2) (octet : UInt8) :
    Relenting (sfpWriteNoCRC (serialCallbacks sdReluctantWrite 1024) octet r).2 :=
  @Writing.writeNoCRC _ _ _ [] 0 r writing h octet

theorem closeFrame {r : Nat × Sfp (Rest × Bool)} (h : Relenting r.2) (crc : UInt16) :
    Relenting (closeFrame (serialCallbacks sdReluctantWrite 1024) crc r).2 :=
  ((h.writeNoCRC _).writeNoCRC _).bufferedWrite sfpFlag

end Relenting

/-- Every frame goes out on a port that finds room every other time. -/
theorem reluctant_ends {c : Sfp (Rest × Bool)} (h : Relenting c) (header : UInt8)
    (packet : Option SFPpacket) :
    (sfpTransmitFrameWithHeader (serialCallbacks sdReluctantWrite 1024) header packet
      c).2.user.2 = true := by
  have hopened := Relenting.writing.openFrame header (packetOctets packet) c { h with }
  rw [sfpTransmitFrameWithHeader_eq]
  exact (hopened.closeFrame _).flush.ended

def reluctantSfp : Sfp (Rest × Bool) :=
  ⟨SFPcontext.zero,
    (toSfp (serverInit { Board.still with room := fun n => if n % 2 = 0 then 0 else 3 })).user, true⟩

theorem reluctantSfp_relenting : Relenting reluctantSfp := by
  refine ⟨by decide, rfl, rfl, by decide, fun n => ?_⟩
  change 0 < (if n % 2 = 0 then 0 else 3) ∨ 0 < if (n + 1) % 2 = 0 then 0 else 3
  split <;> split <;> omega

def escapedPacket : SFPpacket := ⟨List.replicate 254 sfpEsc, 254⟩

theorem wire_carries_frame_reluctant :
    let r := sfpTransmitFrameWithHeader (serialCallbacks sdReluctantWrite 1024)
      (frameHeader 5 .usr) (some escapedPacket) reluctantSfp
    r.2.user.1.board.wire =
        reluctantSfp.user.1.board.wire ++ wireFrame (frameHeader 5 .usr) escapedPacket.octets ∧
      r.1 = 513 := by
  have hlen : (wireFrame (frameHeader 5 .usr) escapedPacket.octets).length = 513 := by
    decide +kernel
  obtain ⟨hwire, houtlen, -⟩ := wire_carries_frame sdReluctantWrite_takesPrefix 1024
    (frameHeader 5 .usr) (some escapedPacket) (c := reluctantSfp) rfl
    (reluctant_ends reluctantSfp_relenting _ _)
  exact ⟨hwire, houtlen.trans hlen⟩

end TurningPoint
