import TurningPoint.Server.Runs
import TurningPoint.Sfp.FrameLaws

namespace TurningPoint

variable {c : UInt32} {s : Server}

/-- The clock stands at `c`, and so does every timer that counts. -/
structure Steady (c : UInt32) (s : Server) : Prop where
  clock : s.board.clock = fun _ => c
  timestamp : s.rpc.timestamp = c
  timers : s.outer.state = .connected →
    s.rpc.heartbeat = c ∧ s.rpc.published = c ∧ s.rpc.sendstats = c

def Settled (s : Server) : Prop :=
  s.outer.state = .connected ↔ s.outer.sfp.connectState = .connected

instance : DecidablePred Settled := fun s =>
  inferInstanceAs (Decidable (s.outer.state = .connected ↔ s.outer.sfp.connectState = .connected))

theorem sfpIsConnected_iff (s : SFPcontext) : sfpIsConnected s = true ↔ s.connectState = .connected :=
  beq_iff_eq

theorem sfpIsConnected_eq_false (s : SFPcontext) :
    sfpIsConnected s = false ↔ s.connectState ≠ .connected :=
  beq_eq_false_iff_ne

theorem chTimeNow_steady (hclock : s.board.clock = fun _ => c) : chTimeNow s = (c, s) := by
  simp only [chTimeNow, hclock]
  rw [← hclock]

theorem chTimeElapsedSince_steady (hclock : s.board.clock = fun _ => c) :
    chTimeElapsedSince c s = (0, s) := by
  simp only [chTimeElapsedSince, chTimeNow_steady hclock, UInt32.sub_self]

theorem serverReset_steady (hclock : s.board.clock = fun _ => c) : Steady c (serverReset s) := by
  refine ⟨?_, ?_, fun hstate => by cases hstate⟩
  · change (fun n => s.board.clock (n + 1)) = _
    rw [hclock]
  · change s.board.clock 0 = c
    rw [hclock]

theorem serverReset_settled (s : Server) : Settled (serverReset s) :=
  Iff.intro (fun hstate => by cases hstate) fun hconnected => by cases hconnected

theorem Steady.check_settled (hs : Steady c s) (hsettled : Settled s) :
    serverCheckConnection s = s := by
  unfold serverCheckConnection
  cases hstate : s.outer.state with
  | disconnected =>
    have hnot : ¬ sfpIsConnected s.outer.sfp = true := fun hconnected => by
      rw [hsettled.mpr ((sfpIsConnected_iff _).mp hconnected)] at hstate
      cases hstate
    exact if_neg hnot
  | connected =>
    have hconnected := (sfpIsConnected_iff _).mpr (hsettled.mp hstate)
    simp only [hconnected, (hs.timers hstate).1, hs.timestamp, chTimeElapsedSince_steady hs.clock,
      Bool.true_eq_false, if_false]
    rw [if_neg (by decide), if_neg (by decide)]

def startSession (c : UInt32) (s : Server) : Server :=
  { s with
    rpc.timestamp := c
    rpc.heartbeat := c
    rpc.published := c
    rpc.sendstats := c
    rpc.subs := fun _ => .empty
    rpc.cassette := 0xff
    rpc.fp := .null
    outer.state := .connected }

theorem Steady.check_new (hs : Steady c s) (hstate : s.outer.state = .disconnected)
    (hconnected : s.outer.sfp.connectState = .connected) :
    serverCheckConnection s = startSession c s := by
  unfold serverCheckConnection
  rw [hstate]
  dsimp only
  rw [if_pos ((sfpIsConnected_iff _).mpr hconnected), chTimeNow_steady hs.clock]
  rfl

theorem serverCheckConnection_lost (hstate : s.outer.state = .connected)
    (hconnected : s.outer.sfp.connectState ≠ .connected) :
    serverCheckConnection s = serverReset s := by
  unfold serverCheckConnection
  rw [hstate]
  exact if_pos ((sfpIsConnected_eq_false _).mpr hconnected)

theorem Steady.check_cases (hs : Steady c s) :
    Settled s ∧ serverCheckConnection s = s ∨
    s.outer.state = .disconnected ∧ s.outer.sfp.connectState = .connected ∧
      serverCheckConnection s = startSession c s ∨
    s.outer.state = .connected ∧ s.outer.sfp.connectState ≠ .connected ∧
      serverCheckConnection s = serverReset s := by
  by_cases hconnected : s.outer.sfp.connectState = .connected <;> cases hstate : s.outer.state
  · have hsettled : Settled s := iff_of_true hstate hconnected
    exact .inl ⟨hsettled, hs.check_settled hsettled⟩
  · exact .inr (.inl ⟨rfl, hconnected, hs.check_new hstate hconnected⟩)
  · exact .inr (.inr ⟨rfl, hconnected, serverCheckConnection_lost hstate hconnected⟩)
  · have hsettled : Settled s := iff_of_false (by rw [hstate]; decide) hconnected
    exact .inl ⟨hsettled, hs.check_settled hsettled⟩

theorem Steady.check (hs : Steady c s) : Steady c (serverCheckConnection s) := by
  obtain ⟨-, heq⟩ | ⟨-, -, heq⟩ | ⟨-, -, heq⟩ := hs.check_cases <;> rw [heq]
  · exact hs
  · exact ⟨hs.clock, rfl, fun _ => ⟨rfl, rfl, rfl⟩⟩
  · exact serverReset_steady hs.clock

theorem Steady.settled_check (hs : Steady c s) : Settled (serverCheckConnection s) := by
  obtain ⟨hsettled, heq⟩ | ⟨-, hconnected, heq⟩ | ⟨-, -, heq⟩ := hs.check_cases <;> rw [heq]
  · exact hsettled
  · exact iff_of_true rfl hconnected
  · exact serverReset_settled s

theorem Steady.wake (hs : Steady c s) : Steady c (chTimeNow s).2 := by
  rwa [chTimeNow_steady hs.clock]

theorem frames_steady (c : UInt32) : Frames (Steady c) where
  check _ hs := hs.check
  port _ _ _ _ hs := ⟨hs.clock, hs.timestamp, hs.timers⟩
  clock _ hs := hs.wake
  outBuf _ _ hs := ⟨hs.clock, hs.timestamp, hs.timers⟩
  tx _ _ hs := ⟨hs.clock, hs.timestamp, hs.timers⟩
  rx _ _ hs := ⟨hs.clock, hs.timestamp, hs.timers⟩
  connectState _ _ hs := ⟨hs.clock, hs.timestamp, hs.timers⟩

section Recv

variable {Q : Outer → Prop} (hw : Writes fun s => Steady c s ∧ Q s.outer)
include hw

theorem replies_steady : Replies serverWritePacket (fun s => Steady c s ∧ Q s.outer) where
  toSends := hw.sends
  seqId _ _ hs := ⟨⟨hs.1.clock, hs.1.timestamp, hs.1.timers⟩, hs.2⟩
  ipv4 _ _ hs := ⟨⟨hs.1.clock, hs.1.timestamp, hs.1.timers⟩, hs.2⟩
  motors _ _ hs := ⟨⟨hs.1.clock, hs.1.timestamp, hs.1.timers⟩, hs.2⟩
  heartbeat s hs := by
    rw [chTimeNow_steady hs.1.clock]
    exact ⟨⟨hs.1.clock, hs.1.timestamp, fun hstate => ⟨rfl, (hs.1.timers hstate).2⟩⟩, hs.2⟩

theorem records_steady : Records serverWritePacket (fun s => Steady c s ∧ Q s.outer) where
  toSends := hw.sends
  cassette _ _ _ hs := ⟨⟨hs.1.clock, hs.1.timestamp, hs.1.timers⟩, hs.2⟩
  flash := .of_any fun _ _ _ hs => ⟨⟨hs.1.clock, hs.1.timestamp, hs.1.timers⟩, hs.2⟩

theorem rpcRecv_steady (message : MessageAny) (hs : Steady c s ∧ Q s.outer) :
    Steady c (rpcRecv serverWritePacket message s) ∧
      Q (rpcRecv serverWritePacket message s).outer := by
  have hreplies := replies_steady hw
  have hrecords := records_steady hw
  have hset (i : Fin rpcSubMax) (sub : RpcSubscription) (s : Server)
      (hs : Steady c s ∧ Q s.outer) : Steady c (setSub i sub s) ∧ Q (setSub i sub s).outer :=
    ⟨⟨hs.1.clock, hs.1.timestamp, hs.1.timers⟩, hs.2⟩
  refine hreplies.rpcRecv_keeps hs ?_ ?_ ?_ ?_ ?_
  · exact fun read _ _ => hreplies.rpcRecvReadMotor_keeps
      (fun _ _ hs => ⟨⟨hs.1.clock, hs.1.timestamp, hs.1.timers⟩, hs.2⟩) read hs
  · exact fun read _ _ => hrecords.rpcRecvReadCassette_keeps hrecords.flash read hs
  · exact fun write _ _ => hrecords.rpcRecvWriteCassette_keeps write hs
  · exact fun m _ => hw.sends.rpcRecvSubscribe_keeps hset m hs
  · exact fun m _ => hw.sends.rpcRecvUnsubscribe_keeps (fun i s hs => hset i .empty s hs) m hs

end Recv

theorem writes_steady (c : UInt32) : Writes (fun s => Steady c s ∧ True) where
  check _ hs := ⟨hs.1.check, trivial⟩
  port _ _ _ _ hs := ⟨(frames_steady c).port _ _ _ _ hs.1, trivial⟩
  clock _ hs := ⟨hs.1.wake, trivial⟩
  outBuf _ _ hs := ⟨(frames_steady c).outBuf _ _ hs.1, trivial⟩
  tx _ _ hs := ⟨(frames_steady c).tx _ _ hs.1, trivial⟩

theorem Steady.read (hs : Steady c s) (buf : List UInt8) (len : Nat) :
    Steady c (serverRead buf len s) := by
  unfold serverRead
  dsimp only
  split
  · have hkept := (rpcRecv_steady (Q := fun _ => True) (writes_steady c)
      (messageDeserialize (.ping ⟨0⟩) buf len).2 ⟨hs, trivial⟩).1.check
    exact ⟨hkept.clock, hkept.timestamp, hkept.timers⟩
  · exact hs.check

theorem Steady.deliverOctet (hs : Steady c s) (octet : UInt8) :
    Steady c (serverDeliverOctet octet s) :=
  (frames_steady c).serverDeliverOctet_keeps octet
    (fun rx _ => ((frames_steady c).rx rx s hs).read _ _) hs

theorem Steady.rpcLoop_eq (hs : Steady c s) (hstate : s.outer.state = .connected) :
    rpcLoop serverWritePacket s = s := by
  obtain ⟨-, hpublished, hsendstats⟩ := hs.timers hstate
  have hpublish : rpcLoopPublish serverWritePacket s = s := by
    simp only [rpcLoopPublish, hpublished, chTimeElapsedSince_steady hs.clock]
    exact if_neg (by decide)
  rw [rpcLoop, hpublish]
  simp only [rpcLoopStats, hsendstats, chTimeElapsedSince_steady hs.clock]
  exact if_neg (by decide)

theorem Steady.serverThreadTurn_eq (hs : Steady c s) :
    serverThreadTurn s = serverCheckConnection s := by
  unfold serverThreadTurn
  dsimp only
  split
  case isTrue hstate => exact hs.check.rpcLoop_eq hstate
  case isFalse => rfl

end TurningPoint
