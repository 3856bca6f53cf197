import TurningPoint.Rpc.NullAccess
import TurningPoint.Server.Runs

namespace TurningPoint

variable {s : Server}

theorem serverCheckConnection_nullAccess (s : Server) :
    (serverCheckConnection s).board.nullAccess = s.board.nullAccess := by
  unfold serverCheckConnection
  dsimp only [chTimeElapsedSince]
  repeat' split
  all_goals rfl

theorem writes_nullAccess (b : Bool) : Writes (NullAccessIs b) where
  check s hs := (serverCheckConnection_nullAccess s).trans hs
  port _ _ _ _ hs := hs
  clock _ hs := hs
  outBuf _ _ hs := hs
  tx _ _ hs := hs

theorem sendsNullFree_serverWritePacket : SendsNullFree serverWritePacket :=
  fun b => (writes_nullAccess b).sends

/-- NULL was accessed exactly if one of the messages handled so far made its handler do so. -/
def NullTracked (s : Server) : Prop :=
  s.board.nullAccess = true ↔ ∃ handled ∈ s.outer.handled, NullBlock handled.found handled.message

theorem NullTracked.of_eq {s s' : Server} (hs : NullTracked s)
    (hnull : s'.board.nullAccess = s.board.nullAccess)
    (hhandled : s'.outer.handled = s.outer.handled) : NullTracked s' := by
  rwa [NullTracked, hnull, hhandled]

theorem serverRead_nullTracked (buf : List UInt8) (len : Nat) (hs : NullTracked s) :
    NullTracked (serverRead buf len s) := by
  unfold serverRead
  dsimp only
  split
  · generalize (messageDeserialize (.ping ⟨0⟩) buf len).2 = message
    have hnull := serverCheckConnection_nullAccess (rpcRecv serverWritePacket message s)
    have hhandled := serverCheckConnection_handled (rpcRecv serverWritePacket message s)
    have hrecv := (beyond_handled s.outer.handled).rpcRecv_keeps message rfl
    simp only [NullTracked, hnull, hhandled, hrecv, List.mem_append, List.mem_singleton, or_and_right,
      exists_or, exists_eq_left, rpcRecv_nullAccess sendsNullFree_serverWritePacket]
    exact or_congr_left hs
  · exact hs.of_eq (serverCheckConnection_nullAccess s) (serverCheckConnection_handled s)

theorem serves_nullTracked : Serves NullTracked where
  check s hs := hs.of_eq (serverCheckConnection_nullAccess s) (serverCheckConnection_handled s)
  port _ _ _ _ hs := hs
  clock _ hs := hs
  outBuf _ _ hs := hs
  tx _ _ hs := hs
  rx _ _ hs := hs
  connectState _ _ hs := hs
  read buf len _ _ hs := serverRead_nullTracked buf len hs
  loop _ hs := hs.of_eq
    ((publishes_nullAccess sendsNullFree_serverWritePacket _).rpcLoop_keeps rfl)
    ((beyond_handled _).rpcLoop_keeps rfl)
  timers _ _ hs := hs
  reset _ hs := hs.of_eq rfl rfl
  motors _ _ hs := hs

/-- In every run from boot, every block that is accessed is non-NULL exactly if no message was
handled in a state in which it needs one that is not there. -/
theorem null_free_iff (board : Board) (actions : List ServerAction) :
    (actions.foldl serverStep (serverInit board)).board.nullAccess = false ↔
      ∀ handled ∈ (actions.foldl serverStep (serverInit board)).outer.handled,
        ¬ NullBlock handled.found handled.message := by
  have hboot : NullTracked (serverInit board) := by
    refine Iff.intro (fun hnull => by cases hnull) ?_
    rintro ⟨_, hmem, _⟩
    cases hmem
  have hrun : NullTracked (actions.foldl serverStep (serverInit board)) :=
    List.foldlRecOn actions serverStep hboot fun s hs action _ =>
      serves_nullTracked.serverStep_keeps action hs
  unfold NullTracked at hrun
  rw [← Bool.not_eq_true, hrun]
  push Not
  rfl

def askOpen : List (List UInt8) :=
  [clientSyn0, clientSyn2,
    clientMessage 0 (.write ⟨1, messagesTopicCassette, messagesTopicCassetteSubtopicOpen, 1, [0]⟩),
    clientMessage 1 (.read ⟨2, messagesTopicCassette, messagesTopicCassetteSubtopicOpen⟩)]

theorem not_null_free_askOpen :
    ((askOpen.flatMap iterationActions).foldl serverStep
      (serverInit .still)).board.nullAccess = true := by
  decide +kernel

end TurningPoint
