import TurningPoint.Messages.Serialize
import TurningPoint.Server.Preserve
import TurningPoint.Sfp.TransmitLaws

namespace TurningPoint

/-- What happens to the server: its thread starts, wakes to read, delivers an octet, comes to the end
of a turn of its loop, or stops; and the motors change. -/
inductive ServerAction
  | start
  | wake
  | octet (octet : UInt8)
  | turn
  | stop
  | motors (motors : Fin kVexMotorNum → Int8)

def serverStep (s : Server) : ServerAction → Server
  | .start => serverThreadStart s
  | .wake => (chTimeNow s).2
  | .octet octet => serverDeliverOctet octet s
  | .turn => serverThreadTurn s
  | .stop => serverReset s
  | .motors motors => { s with board.motors := motors }

def iterationActions (chunk : List UInt8) : List ServerAction :=
  .wake :: chunk.map .octet ++ [.turn]

theorem serverIteration_eq (s : Server) (chunk : List UInt8) :
    serverIteration s chunk = (iterationActions chunk).foldl serverStep s := by
  rw [iterationActions, List.cons_append, List.foldl_cons, List.foldl_append, List.foldl_map]
  rfl

variable {P : Server → Prop} {s : Server}

structure Serves (P : Server → Prop) : Prop extends Frames P where
  read : ∀ buf len s, s.outer.sfp.connectState = .connected → P s → P (serverRead buf len s)
  loop : ∀ s, P s → P (rpcLoop serverWritePacket s)
  timers : ∀ now s, P s → P { s with
    rpc.timestamp := now, rpc.heartbeat := now, rpc.published := now, rpc.sendstats := now }
  reset : ∀ s, P s → P (serverReset s)
  motors : ∀ motors s, P s → P { s with board.motors := motors }

namespace Serves

variable (hP : Serves P)
include hP

theorem serverDeliverOctet_keeps (octet : UInt8) (hs : P s) : P (serverDeliverOctet octet s) :=
  hP.toFrames.serverDeliverOctet_keeps octet
    (fun rx hconnected => hP.read _ _ _ hconnected (hP.rx rx s hs)) hs

theorem serverStep_keeps (action : ServerAction) (hs : P s) : P (serverStep s action) := by
  cases action with
  | start => exact hP.timers _ _ (hP.clock _ hs)
  | wake => exact hP.clock _ hs
  | octet octet => exact hP.serverDeliverOctet_keeps octet hs
  | turn =>
    have hcheck := hP.check s hs
    rw [serverStep, serverThreadTurn]
    split
    · exact hP.loop _ hcheck
    · exact hcheck
  | stop => exact hP.reset _ hs
  | motors motors => exact hP.motors _ _ hs

end Serves

def clientSyn0 : List UInt8 := wireFrame (frameHeader sfpSeqSyn0 .syn) []

def clientSyn2 : List UInt8 := wireFrame (frameHeader sfpSeqSyn2 .syn) []

def clientMessage (seq : UInt8) (message : MessageAny) : List UInt8 :=
  wireFrame (frameHeader seq .usr) (messageOctets message)

end TurningPoint
