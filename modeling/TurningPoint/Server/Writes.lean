import TurningPoint.Server.Runs
import TurningPoint.Sfp.FrameCalls

namespace TurningPoint

def Server.written (octets : List UInt8) (s : Server) : Written :=
  ⟨octets, s.rpc, s.board, s.outer.sfp, s.outer.state, s.outer.resets⟩

def newWrites (s s' : Server) : List Written := s'.outer.writes.drop s.outer.writes.length

namespace Written

def frameType (w : Written) : Option SFPframetype := (begunHeader w.octets).map getFrameType

def BeginsUser (w : Written) : Prop := w.frameType = some .usr ∨ w.frameType = some .rtx

def BeginsControl (w : Written) : Prop := w.frameType = some .nak ∨ w.frameType = some .syn

/-- `serverCheckConnection` finds that the session is lost or has timed out. -/
def Lapses (w : Written) : Prop :=
  w.state = .connected ∧ (sfpIsConnected w.sfp = false ∨ w.board.clock 0 - w.rpc.heartbeat > 5000 ∨
    w.board.clock 1 - w.rpc.timestamp > 2147483647)

instance : DecidablePred BeginsUser := fun _ => inferInstanceAs (Decidable (_ ∨ _))
instance : DecidablePred BeginsControl := fun _ => inferInstanceAs (Decidable (_ ∨ _))
instance : DecidablePred Lapses := fun _ => inferInstanceAs (Decidable (_ ∧ _))

end Written

def Outer.reset (o : Outer) : Outer :=
  { o with
    sfp := (sfpInit (⟨o.sfp, ()⟩ : Sfp Unit)).toSFPcontext
    state := .disconnected
    resets := o.resets + 1 }

theorem serverCheckConnection_outer (s : Server) (octets : List UInt8) :
    ¬ (s.written octets).Lapses ∧
        (∃ state, (serverCheckConnection s).outer = { s.outer with state := state }) ∨
      (s.written octets).Lapses ∧ (serverCheckConnection s).outer = s.outer.reset := by
  unfold serverCheckConnection Written.Lapses Server.written
  dsimp only [chTimeElapsedSince]
  cases hstate : s.outer.state with
  | disconnected =>
    refine .inl ⟨fun h => ServerState.noConfusion h.1, ?_⟩
    dsimp only
    split
    · exact ⟨.connected, rfl⟩
    · exact ⟨.disconnected, by rw [← hstate]⟩
  | connected =>
    dsimp only
    split
    case isTrue hlost => exact .inr ⟨⟨rfl, .inl hlost⟩, rfl⟩
    case isFalse hheld =>
      split
      case isTrue hheartbeat => exact .inr ⟨⟨rfl, .inr (.inl hheartbeat)⟩, rfl⟩
      case isFalse hheartbeat =>
        split
        case isTrue htimestamp => exact .inr ⟨⟨rfl, .inr (.inr htimestamp)⟩, rfl⟩
        case isFalse htimestamp =>
          refine .inl ⟨?_, .connected, by rw [← hstate]; rfl⟩
          rintro ⟨-, h | h | h⟩
          · exact hheld h
          · exact hheartbeat h
          · exact htimestamp h

/-- A call of `serverWrite` is recorded, and ends the session exactly if that has lapsed. -/
theorem serverWrite_outer (octets : List UInt8) (s : Server) :
    ¬ (s.written octets).Lapses ∧ (∃ state, (serverWrite octets s).outer =
        { s.outer with state := state, writes := s.outer.writes ++ [s.written octets] }) ∨
      (s.written octets).Lapses ∧ (serverWrite octets s).outer =
        { s.outer.reset with writes := s.outer.writes ++ [s.written octets] } := by
  obtain ⟨room, wire, heq⟩ := serverWrite_eq octets s
  rw [heq]
  exact serverCheckConnection_outer (Server.recordWrite octets room wire s) octets

theorem serverCallbacks_write (octets : List UInt8) (c : Sfp Rest) :
    serverCallbacks.write octets c = toSfp (serverWrite octets (ofSfp c)) := rfl

theorem serverTransmitCallbacks_write (octets : List UInt8) (c : Sfp Rest) :
    serverTransmitCallbacks.write octets c = toSfp (serverWrite octets (ofSfp c)) := rfl

theorem serverDeliverOctet_flag {s : Server} (h : s.outer.sfp.rx.frameState = .receiving) :
    serverDeliverOctet sfpFlag s =
      ofSfp (sfpResetReceiver (sfpHandleFrame serverCallbacks (toSfp s))) := by
  unfold serverDeliverOctet sfpDeliverOctet
  rw [if_pos rfl]
  exact congrArg (fun s => ofSfp (sfpResetReceiver s)) (if_pos h)

theorem serverDeliverOctet_rx {s : Server} {octet : UInt8}
    (h : ¬ (octet = sfpFlag ∧ s.outer.sfp.rx.frameState = .receiving)) :
    ∃ rx, serverDeliverOctet octet s = { s with outer.sfp.rx := rx } := by
  unfold serverDeliverOctet sfpDeliverOctet sfpBufferOctet
  by_cases hflag : octet = sfpFlag
  · have hnew : ¬ (toSfp s).rx.frameState = .receiving := fun hreceiving => h ⟨hflag, hreceiving⟩
    simp only [if_pos hflag, if_neg hnew]
    exact ⟨_, rfl⟩
  · rw [if_neg hflag]
    dsimp only
    split_ifs <;> exact ⟨_, rfl⟩

end TurningPoint
