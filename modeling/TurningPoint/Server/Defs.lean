import TurningPoint.Rpc.Receive
import TurningPoint.Sfp.Receive

/-! `server.c`: the session between the framing protocol below and the remote procedure calls
above. -/

namespace TurningPoint

inductive ServerState
  | connected
  | disconnected
  deriving DecidableEq

/-- A message that `serverRead` has handed to `rpcRecv`: the record that was found, what `rpcRecv`
left of it, and the record, the state and the number of resets when `serverRead` returned. -/
structure Handled where
  message : MessageAny
  found : Rpc
  left : Rpc
  kept : Rpc
  state : ServerState
  resets : Nat

/-- A call of `serverWrite`: what it is to write, and the server as it finds it. -/
structure Written where
  octets : List UInt8
  rpc : Rpc
  board : Board
  sfp : SFPcontext
  state : ServerState
  resets : Nat

/-- The fields of `server_t` beside `rpc`.  The rest records the run: the messages that were
handled, how often `serverReset` was called, and the calls of `serverWrite`. -/
structure Outer where
  sfp : SFPcontext
  state : ServerState
  handled : List Handled
  resets : Nat
  writes : List Written

abbrev Server := Host Outer

structure Rest where
  rpc : Rpc
  board : Board
  state : ServerState
  handled : List Handled
  resets : Nat
  writes : List Written

def toSfp (s : Server) : Sfp Rest :=
  { toSFPcontext := s.outer.sfp
    user := ⟨s.rpc, s.board, s.outer.state, s.outer.handled, s.outer.resets, s.outer.writes⟩ }

def ofSfp (c : Sfp Rest) : Server :=
  ⟨c.user.rpc, c.user.board,
    ⟨c.toSFPcontext, c.user.state, c.user.handled, c.user.resets, c.user.writes⟩⟩

def serverReset (s : Server) : Server :=
  let s : Server := { s with outer.state := .disconnected, rpc.seqId := 0 }
  let (now, s) := chTimeNow s
  let s : Server := { s with
    rpc.timestamp := now
    rpc.subs := fun _ => .empty
    rpc.ipv4 := [0, 0, 0, 0]
    outer.resets := s.outer.resets + 1 }
  ofSfp (sfpInit (toSfp s))

def serverCheckConnection (s : Server) : Server :=
  match s.outer.state with
  | .disconnected =>
    if sfpIsConnected s.outer.sfp then
      let (now, s) := chTimeNow s
      { s with
        rpc.timestamp := now
        rpc.heartbeat := now
        rpc.published := now
        rpc.sendstats := now
        rpc.subs := fun _ => .empty
        rpc.cassette := 0xff
        rpc.fp := .null
        outer.state := .connected }
    else s
  | .connected =>
    if sfpIsConnected s.outer.sfp = false then serverReset s
    else
      let (elapsed, s) := chTimeElapsedSince s.rpc.heartbeat s
      if elapsed > 5000 then serverReset s
      else
        let (elapsed, s) := chTimeElapsedSince s.rpc.timestamp s
        if elapsed > 2147483647 then serverReset s else s

/-- The loop in `serverWrite`.  Every call takes an octet, so there are at most as many turns as
octets. -/
def serverWriteLoop : Nat → List UInt8 → Board → Board
  | 0, _, board => board
  | n + 1, octets, board =>
    if octets = [] then board
    else
      let (wlen, board) := sdAsynchronousWrite octets board
      serverWriteLoop n (octets.drop wlen) board

def serverWrite (octets : List UInt8) (s : Server) : Server :=
  let (wlen, board) := sdAsynchronousWrite octets s.board
  let board := serverWriteLoop octets.length (octets.drop wlen) board
  let written := ⟨octets, s.rpc, s.board, s.outer.sfp, s.outer.state, s.outer.resets⟩
  serverCheckConnection { s with board := board, outer.writes := s.outer.writes ++ [written] }

/-- The callbacks as the transmitter uses them: it never delivers. -/
def serverTransmitCallbacks : Callbacks Rest where
  write octets c := toSfp (serverWrite octets (ofSfp c))
  deliver := none

def serverWritePacket : WritePacket Outer :=
  some fun octets s => ofSfp (sfpWritePacket serverTransmitCallbacks octets (toSfp s)).2

/-- The union that `message_deserialize` fills is not kept: what it held before is never read. -/
def serverRead (buf : List UInt8) (len : Nat) (s : Server) : Server :=
  let (retval, message) := messageDeserialize (.ping ⟨0⟩) buf len
  if retval = 0 then
    let left := rpcRecv serverWritePacket message s
    let kept := serverCheckConnection left
    { kept with outer.handled :=
        kept.outer.handled ++ [⟨message, s.rpc, left.rpc, kept.rpc, kept.outer.state, kept.outer.resets⟩] }
  else serverCheckConnection s

def serverCallbacks : Callbacks Rest where
  write octets c := toSfp (serverWrite octets (ofSfp c))
  deliver := some fun buf len c => toSfp (serverRead buf len (ofSfp c))

def serverDeliverOctet (octet : UInt8) (s : Server) : Server :=
  ofSfp (sfpDeliverOctet serverCallbacks octet (toSfp s))

def serverThreadStart (s : Server) : Server :=
  let (now, s) := chTimeNow s
  { s with rpc.timestamp := now, rpc.heartbeat := now, rpc.published := now, rpc.sendstats := now }

def serverThreadTurn (s : Server) : Server :=
  let s := serverCheckConnection s
  if s.outer.state = .connected then rpcLoop serverWritePacket s else s

def serverIteration (s : Server) (chunk : List UInt8) : Server :=
  -- The reading goes to `serverThreadDeadTimer`.
  let (_, s) := chTimeNow s
  serverThreadTurn (chunk.foldl (fun s octet => serverDeliverOctet octet s) s)

/-- The server in static storage, after `serverSetup`: nothing has been accessed. -/
def Server.zero (board : Board) : Server where
  rpc :=
    { seqId := 0, ipv4 := [0, 0, 0, 0], motor := fun _ => 0, cassette := 0, fp := .null
      outBuf := List.replicate sfpConfigMaxPacketSize 0
      timestamp := 0, heartbeat := 0, published := 0, sendstats := 0, subs := fun _ => .empty }
  board := { board with nullAccess := false }
  outer := ⟨.zero, .connected, [], 0, []⟩

def serverInit (board : Board) : Server := serverReset (.zero board)

end TurningPoint
