import TurningPoint.Rpc.Session
import TurningPoint.Server.InSession

namespace TurningPoint

/-- After `n` readings of the clock the session that `s` is in still stands. -/
structure Standing (s : Server) (n : Nat) (s' : Server) : Prop where
  state_eq : s'.outer.state = .connected
  connectState_eq : s'.outer.sfp.connectState = .connected
  clock_eq : s'.board.clock = fun i => s.board.clock (n + i)
  timestamp_eq : s'.rpc.timestamp = s.rpc.timestamp

structure Alive (s : Server) (n : Nat) (s' : Server) : Prop extends Standing s n s' where
  heartbeat_eq : s'.rpc.heartbeat = s.rpc.heartbeat
  subs_eq : s'.rpc.subs = s.rpc.subs

def Lost (s : Server) : Prop :=
  s.outer.state = .disconnected ∧ s.outer.sfp.connectState = .disconnected

/-- Between two frames, after `n` readings: the session is alive if `ok`, and lost if not. -/
def Course (s : Server) (ok : Prop) (n : Nat) (s' : Server) : Prop :=
  ok ∧ Alive s n s' ∧ s'.outer.sfp.tx.writebuf = [] ∨ ¬ ok ∧ Lost s'

def Server.Beats (s : Server) (n : Nat) : Prop := s.board.clock n - s.rpc.heartbeat ≤ 5000

def Server.Young (s : Server) (n : Nat) : Prop :=
  ∀ i < n, s.board.clock i - s.rpc.timestamp ≤ 2147483647

theorem Lost.check {s : Server} (h : Lost s) : Lost (serverCheckConnection s) := by
  have hnot : ¬ sfpIsConnected s.outer.sfp = true := by
    rw [sfpIsConnected_iff, h.2]
    decide
  unfold serverCheckConnection
  rw [h.1]
  dsimp only
  rwa [if_neg hnot]

theorem writes_lost : Writes Lost where
  check _ hs := hs.check
  port _ _ _ _ hs := hs
  clock _ hs := hs
  outBuf _ _ hs := hs
  tx _ _ hs := hs

variable {s s' : Server} {n : Nat} {ok : Prop}

theorem Alive.check (h : Alive s n s') (hyoung : s.Young (n + 2)) :
    s.Beats n ∧ Alive s (n + 2) (serverCheckConnection s') ∧
        (serverCheckConnection s').outer = s'.outer ∨
      ¬ s.Beats n ∧ Lost (serverCheckConnection s') := by
  have hconnected : sfpIsConnected s'.outer.sfp = true := (sfpIsConnected_iff _).mpr h.connectState_eq
  have hheartbeat : s'.board.clock 0 - s'.rpc.heartbeat = s.board.clock n - s.rpc.heartbeat := by
    rw [h.clock_eq, h.heartbeat_eq]
    rfl
  have htimestamp : s'.board.clock (0 + 1) - s'.rpc.timestamp =
      s.board.clock (n + 1) - s.rpc.timestamp := by
    rw [h.clock_eq, h.timestamp_eq]
  have hold : ¬ s.board.clock (n + 1) - s.rpc.timestamp > 2147483647 := by
    have := hyoung (n + 1) (by omega)
    exact UInt32.not_lt.mpr this
  unfold serverCheckConnection
  rw [h.state_eq]
  dsimp only [chTimeElapsedSince, chTimeNow]
  rw [hconnected, if_neg (by decide), hheartbeat, htimestamp, if_neg hold]
  by_cases hbeats : s.Beats n
  · left
    rw [if_neg (UInt32.not_lt.mpr hbeats)]
    have hclock : (fun i => s'.board.clock (i + 1 + 1)) = fun i => s.board.clock (n + 2 + i) := by
      funext i
      rw [h.clock_eq]
      exact congrArg s.board.clock (by omega)
    exact ⟨hbeats, { h with clock_eq := hclock }, rfl⟩
  · right
    rw [if_pos (UInt32.not_le.mp hbeats)]
    exact ⟨hbeats, rfl, rfl⟩

theorem length_stuffed_le (octets : List UInt8) :
    (octets.flatMap sfpStuffing.stuff).length ≤ 2 * octets.length := by
  induction octets with
  | nil => exact Nat.le_refl _
  | cons octet octets ih =>
    have hone : (sfpStuffing.stuff octet).length ≤ 2 := by
      unfold Lib.Stuffing.stuff
      split <;> simp
    rw [List.flatMap_cons, List.length_append, List.length_cons]
    omega

theorem length_wireFrame_le (header : UInt8) (payload : List UInt8) :
    (wireFrame header payload).length ≤ 2 * payload.length + 8 := by
  have hstuffed := length_stuffed_le (frameOctets header payload)
  have hoctets : (frameOctets header payload).length = payload.length + 3 := by
    simp [frameOctets, crcOctets]
  rw [wireFrame, frameBody, List.length_append, List.length_cons, List.length_singleton]
  omega

theorem Course.store (h : Course s ok n s') {s'' : Server} (hstate : s''.outer.state = s'.outer.state)
    (hconnectState : s''.outer.sfp.connectState = s'.outer.sfp.connectState)
    (hwritebuf : s''.outer.sfp.tx.writebuf = s'.outer.sfp.tx.writebuf)
    (hclock : s''.board.clock = s'.board.clock) (hheartbeat : s''.rpc.heartbeat = s'.rpc.heartbeat)
    (htimestamp : s''.rpc.timestamp = s'.rpc.timestamp) (hsubs : s''.rpc.subs = s'.rpc.subs) :
    Course s ok n s'' := by
  rcases h with ⟨hok, halive, hempty⟩ | ⟨hok, hlost⟩
  · exact .inl ⟨hok, {
      state_eq := hstate.trans halive.state_eq
      connectState_eq := hconnectState.trans halive.connectState_eq
      clock_eq := hclock.trans halive.clock_eq
      timestamp_eq := htimestamp.trans halive.timestamp_eq
      heartbeat_eq := hheartbeat.trans halive.heartbeat_eq
      subs_eq := hsubs.trans halive.subs_eq }, hwritebuf.trans hempty⟩
  · exact .inr ⟨hok, hstate.trans hlost.1, hconnectState.trans hlost.2⟩

theorem Course.frame {c : Sfp Rest} (h : Course s ok n (ofSfp c)) (hyoung : s.Young (n + 2))
    {header : UInt8} {packet : Option SFPpacket}
    (hroom : (wireFrame header (packetOctets packet)).length ≤ sfpConfigWritebufSize) :
    Course s (ok ∧ s.Beats n) (n + 2)
      (ofSfp (sfpTransmitFrameWithHeader serverTransmitCallbacks header packet c).2) := by
  rcases h with ⟨hok, halive, hempty⟩ | ⟨hok, hlost⟩
  · rw [sfpTransmitFrameWithHeader_short _ hempty hroom]
    obtain ⟨room, wire, hwrite⟩ := serverWrite_eq (wireFrame header (packetOctets packet))
      (ofSfp { c with
        tx.crc := crcOf (header :: packetOctets packet)
        tx.writebuf := wireFrame header (packetOctets packet) })
    rw [sfpFlushWriteBuffer, serverTransmitCallbacks_write]
    dsimp only
    rw [hwrite]
    have hrecorded : Alive s n (Server.recordWrite (wireFrame header (packetOctets packet)) room wire
        (ofSfp { c with
          tx.crc := crcOf (header :: packetOctets packet)
          tx.writebuf := wireFrame header (packetOctets packet) })) := { halive with }
    rcases hrecorded.check hyoung with ⟨hbeats, hchecked, -⟩ | ⟨hbeats, hlost⟩
    · exact .inl ⟨⟨hok, hbeats⟩, { hchecked with }, rfl⟩
    · exact .inr ⟨fun h => hbeats h.2, hlost⟩
  · exact .inr ⟨fun h => hok h.1,
      (writes_lost.transmits fun _ _ => rfl).sfpTransmitFrameWithHeader_keeps header packet hlost⟩

theorem Course.writePacket (h : Course s ok n s') (hyoung : s.Young (n + 2)) {octets : List UInt8}
    (hlen : octets.length ≤ 252) :
    Course s (ok ∧ s.Beats n) (n + 2)
      (ofSfp (sfpWritePacket serverTransmitCallbacks octets (toSfp s')).2) := by
  have hwire := length_wireFrame_le (frameHeader s'.outer.sfp.tx.seq .usr) octets
  have hroom : (wireFrame (frameHeader s'.outer.sfp.tx.seq .usr)
      (packetOctets (some ⟨octets, octets.length⟩))).length ≤ sfpConfigWritebufSize := by
    rw [packetOctets, SFPpacket.octets, List.take_length]
    unfold sfpConfigWritebufSize
    omega
  let pushed : Sfp Rest := { toSfp s' with
    tx.history := potRingbufferPushBack sfpConfigHistoryCapacity s'.outer.sfp.tx.history
      ⟨octets, octets.length⟩ }
  have hpushed : Course s ok n (ofSfp pushed) := h.store rfl rfl rfl rfl rfl rfl rfl
  exact (hpushed.frame hyoung hroom).store rfl rfl rfl rfl rfl rfl rfl

theorem Course.rpcSend (h : Course s ok n s') (hyoung : s.Young (n + 2)) {message : MessageAny}
    (hpos : messageGetsizeof message ≠ 0) (hsize : messageGetsizeof message ≤ 252) :
    Course s (ok ∧ s.Beats n) (n + 2) (rpcSend serverWritePacket message s') := by
  rw [serverWritePacket, rpcSend_some hpos (hsize.trans (by decide))]
  have hstored : Course s ok n { s' with rpc.outBuf := messageStores s'.rpc.outBuf message } :=
    h.store rfl rfl rfl rfl rfl rfl rfl
  exact hstored.writePacket hyoung (by rwa [messageOctets_length])

theorem Course.chTimeNow (h : Course s ok n s') : Course s ok (n + 1) (chTimeNow s').2 := by
  rcases h with ⟨hok, halive, hempty⟩ | ⟨hok, hlost⟩
  · have hclock : (TurningPoint.chTimeNow s').2.board.clock = fun i => s.board.clock (n + 1 + i) := by
      funext i
      change s'.board.clock (i + 1) = _
      rw [halive.clock_eq]
      exact congrArg s.board.clock (by omega)
    exact .inl ⟨hok, { halive with clock_eq := hclock }, hempty⟩
  · exact .inr ⟨hok, hlost⟩

theorem Course.rpcSendData (h : Course s ok n s') (hyoung : s.Young (n + 3)) (reqId : UInt16)
    (topic subtopic flag : UInt8) {value : List UInt8} (hvalue : value.length ≤ 241) :
    Course s (ok ∧ s.Beats (n + 1)) (n + 3)
      (rpcSendData serverWritePacket reqId topic subtopic flag value s') := by
  obtain ⟨hsized, hsize⟩ := data_fits reqId topic subtopic flag
    (s'.board.clock 0 - s'.rpc.timestamp) (hvalue.trans (by decide))
  exact h.chTimeNow.rpcSend hyoung (messageGetsizeof_ne_zero hsized)
    (hsize.trans_le (Nat.add_le_add_left hvalue 11))

end TurningPoint
