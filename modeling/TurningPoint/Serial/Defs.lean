import TurningPoint.Lib.Queue

/-! The queues of `chqueues.c` without the threads that wait on them, and the serial driver of
`serial.c` and `serial_lld.c` over the registers of its USART. -/

namespace TurningPoint

abbrev serialBuffersSize : Nat := 64

/-- `q_rdptr` and `q_wrptr` count from `q_buffer`. -/
structure GenericQueue extends Lib.Ring UInt8 where
  counter : Nat

namespace GenericQueue

def store (b : UInt8) (q : GenericQueue) : GenericQueue := { q with toRing := q.toRing.store b }

def fetch (q : GenericQueue) : UInt8 × GenericQueue :=
  (q.toRing.fetch.1, { q with toRing := q.toRing.fetch.2 })

end GenericQueue

def chIQInit (buffer : Nat → UInt8) (size : Nat) : GenericQueue := ⟨⟨size, 0, 0, buffer⟩, 0⟩

def chIQIsEmptyI (q : GenericQueue) : Bool := q.counter ≤ 0

def chIQIsFullI (q : GenericQueue) : Bool := q.wr = q.rd ∧ q.counter ≠ 0

def chIQPutI (b : UInt8) (q : GenericQueue) : Bool × GenericQueue :=
  if chIQIsFullI q then (false, q) else (true, { q.store b with counter := q.counter + 1 })

def chIQGetImmediate (q : GenericQueue) : Option UInt8 × GenericQueue :=
  if chIQIsEmptyI q then (none, q)
  else (some q.fetch.1, { q.fetch.2 with counter := q.counter - 1 })

def chOQInit (buffer : Nat → UInt8) (size : Nat) : GenericQueue := ⟨⟨size, 0, 0, buffer⟩, size⟩

def chOQIsFullI (q : GenericQueue) : Bool := q.counter ≤ 0

def chOQIsEmptyI (q : GenericQueue) : Bool := q.wr = q.rd ∧ q.counter ≠ 0

def chOQGetFullI (q : GenericQueue) : Nat := q.size - q.counter

/-- One turn of the loop of `chOQWriteTimeout` with `TIME_IMMEDIATE`, but for the notification, and
whether the octet was taken. -/
def chOQPutImmediate (b : UInt8) (q : GenericQueue) : Bool × GenericQueue :=
  if chOQIsFullI q then (false, q) else (true, { q.store b with counter := q.counter - 1 })

def chOQGetI (q : GenericQueue) : Option UInt8 × GenericQueue :=
  if chOQIsEmptyI q then (none, q)
  else (some q.fetch.1, { q.fetch.2 with counter := q.counter + 1 })

/-- The registers of a USART that matter: the data registers with the flags TXE and RXNE, which are
whether they are empty and full, the flag TC, the two interrupt enables that change, the shift
register and what has left it. -/
structure Usart where
  tdr : Option UInt8
  rdr : Option UInt8
  tc : Bool
  txeie : Bool
  tcie : Bool
  shift : Option UInt8
  line : List UInt8

namespace Usart

def writeDR (b : UInt8) (u : Usart) : Usart := { u with tdr := some b, tc := false }

def load (u : Usart) : Usart :=
  match u.shift, u.tdr with
  | none, some b => { u with shift := some b, tdr := none }
  | _, _ => u

def finish (u : Usart) : Usart :=
  match u.shift with
  | some b => { u with shift := none, line := u.line ++ [b], tc := u.tc || u.tdr.isNone }
  | none => u

def receive (b : UInt8) (u : Usart) : Usart :=
  match u.rdr with
  | none => { u with rdr := some b }
  | some _ => u

end Usart

structure SerialPort where
  iqueue : GenericQueue
  oqueue : GenericQueue
  usart : Usart
  written : List UInt8
  incoming : List UInt8
  read : List UInt8

namespace SerialPort

def init (ib ob : Nat → UInt8) : SerialPort where
  iqueue := chIQInit ib serialBuffersSize
  oqueue := chOQInit ob serialBuffersSize
  usart := ⟨none, none, false, false, false, none, []⟩
  written := []
  incoming := []
  read := []

/-- One octet of `sdAsynchronousWrite`, with the notification that enables the interrupt. -/
def put (b : UInt8) (s : SerialPort) : SerialPort :=
  match chOQPutImmediate b s.oqueue with
  | (true, q) => { s with oqueue := q, usart.txeie := true, written := s.written ++ [b] }
  | (false, _) => s

def get (s : SerialPort) : Option UInt8 × SerialPort :=
  match chIQGetImmediate s.iqueue with
  | (some b, q) => (some b, { s with iqueue := q, read := s.read ++ [b] })
  | (none, _) => (none, s)

def sdIncomingDataI (b : UInt8) (s : SerialPort) : SerialPort :=
  match chIQPutI b s.iqueue with
  | (true, q) => { s with iqueue := q, incoming := s.incoming ++ [b] }
  | (false, _) => s

def serveReceive (s : SerialPort) : SerialPort :=
  match s.usart.rdr with
  | some b => { s.sdIncomingDataI b with usart.rdr := none }
  | none => s

def serveTransmit (s : SerialPort) : SerialPort :=
  if s.usart.txeie ∧ s.usart.tdr.isNone then
    match chOQGetI s.oqueue with
    | (some b, q) => { s with oqueue := q, usart := s.usart.writeDR b }
    | (none, _) => { s with usart.txeie := false, usart.tcie := true }
  else s

/-- Interrupts are not nested and the line stands still meanwhile.  Whether the transmission has
ended is read at the start. -/
def serveInterrupt (s : SerialPort) : SerialPort :=
  let tc := s.usart.tc
  let s := s.serveReceive.serveTransmit
  if tc then { s with usart.txeie := false, usart.tcie := false, usart.tc := false } else s

end SerialPort

inductive SerialAction
  | put (b : UInt8)
  | get
  | load
  | finish
  | receive (b : UInt8)
  | interrupt

def SerialPort.step (s : SerialPort) : SerialAction → SerialPort
  | .put b => s.put b
  | .get => s.get.2
  | .load => { s with usart := s.usart.load }
  | .finish => { s with usart := s.usart.finish }
  | .receive b => { s with usart := s.usart.receive b }
  | .interrupt => s.serveInterrupt

end TurningPoint
