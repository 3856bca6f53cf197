import TurningPoint.Rpc.Preserve
import TurningPoint.Server.Defs
import TurningPoint.Sfp.Preserve

namespace TurningPoint

variable {P : Server → Prop} {s : Server}

theorem serverWriteLoop_eq (n : Nat) (octets : List UInt8) (board : Board) :
    ∃ room wire, serverWriteLoop n octets board = { board with room := room, wire := wire } := by
  induction n generalizing octets board with
  | zero => exact ⟨_, _, rfl⟩
  | succ n ih =>
    rw [serverWriteLoop]
    split
    · exact ⟨_, _, rfl⟩
    · obtain ⟨room, wire, heq⟩ := ih (octets.drop (sdAsynchronousWrite octets board).1)
        (sdAsynchronousWrite octets board).2
      exact ⟨room, wire, heq⟩

def Server.recordWrite (octets : List UInt8) (room : Nat → Nat) (wire : List UInt8) (s : Server) :
    Server :=
  { s with
    board.room := room
    board.wire := wire
    outer.writes := s.outer.writes ++
      [⟨octets, s.rpc, s.board, s.outer.sfp, s.outer.state, s.outer.resets⟩] }

theorem serverWrite_eq (octets : List UInt8) (s : Server) :
    ∃ room wire, serverWrite octets s =
      serverCheckConnection (Server.recordWrite octets room wire s) := by
  obtain ⟨room, wire, heq⟩ := serverWriteLoop_eq octets.length
    (octets.drop (sdAsynchronousWrite octets s.board).1) (sdAsynchronousWrite octets s.board).2
  refine ⟨room, wire, ?_⟩
  unfold serverWrite
  dsimp only
  rw [heq]
  rfl

structure Writes (P : Server → Prop) : Prop where
  check : ∀ s, P s → P (serverCheckConnection s)
  port : ∀ room wire written s, P s → P { s with
    board.room := room, board.wire := wire, outer.writes := s.outer.writes ++ [written] }
  clock : ∀ s, P s → P (chTimeNow s).2
  outBuf : ∀ buf s, P s → P { s with rpc.outBuf := buf }
  tx : ∀ tx s, P s → P { s with outer.sfp.tx := tx }

namespace Writes

theorem serverWrite_keeps (hP : Writes P) (octets : List UInt8) (hs : P s) :
    P (serverWrite octets s) := by
  obtain ⟨room, wire, heq⟩ := serverWrite_eq octets s
  rw [heq]
  exact hP.check _ (hP.port room wire _ s hs)

theorem transmits (hP : Writes P) {cb : Callbacks Rest}
    (hcb : ∀ octets c, cb.write octets c = toSfp (serverWrite octets (ofSfp c))) :
    Transmits cb (fun c => P (ofSfp c)) := by
  refine ⟨fun octets c hc => ?_, fun tx c hc => hP.tx tx _ hc⟩
  rw [hcb]
  exact hP.serverWrite_keeps octets hc

theorem sends (hP : Writes P) : Sends serverWritePacket P := by
  refine ⟨?_, hP.clock, hP.outBuf⟩
  rintro _ packet s ⟨⟩ hs
  exact (hP.transmits fun _ _ => rfl).sfpWritePacket_keeps packet (s := toSfp s) hs

end Writes

theorem serverCheckConnection_handled (s : Server) :
    (serverCheckConnection s).outer.handled = s.outer.handled := by
  unfold serverCheckConnection
  dsimp only [chTimeElapsedSince]
  repeat' split
  all_goals rfl

theorem writes_handled (handled : List Handled) : Writes (fun s => s.outer.handled = handled) where
  check s hs := (serverCheckConnection_handled s).trans hs
  port _ _ _ _ hs := hs
  clock _ hs := hs
  outBuf _ _ hs := hs
  tx _ _ hs := hs

theorem beyond_handled (handled : List Handled) :
    Beyond serverWritePacket (fun s => s.outer.handled = handled) :=
  ⟨(writes_handled handled).sends.write, fun _ _ _ hs => hs⟩

structure Frames (P : Server → Prop) : Prop extends Writes P where
  rx : ∀ rx s, P s → P { s with outer.sfp.rx := rx }
  connectState : ∀ connectState s, P s → P { s with outer.sfp.connectState := connectState }

theorem Frames.serverDeliverOctet_keeps (hP : Frames P) (octet : UInt8)
    (hread : ∀ rx : SFPreceiver, s.outer.sfp.connectState = .connected →
      P (serverRead rx.packet.buf rx.packet.len { s with outer.sfp.rx := rx }))
    (hs : P s) : P (serverDeliverOctet octet s) := by
  have hhandles : Handles serverCallbacks (fun c => P (ofSfp c)) :=
    ⟨hP.transmits fun _ _ => rfl, fun rx _ hc => hP.rx rx _ hc,
      fun connectState _ hc => hP.connectState connectState _ hc⟩
  refine hhandles.sfpDeliverOctet_keeps octet (s := toSfp s) ?_ hs
  rintro _ rx ⟨⟩ hconnected
  exact hread rx hconnected

end TurningPoint
