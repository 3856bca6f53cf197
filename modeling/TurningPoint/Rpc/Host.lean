import TurningPoint.Messages.Defs
import TurningPoint.Sfp.Context

/-! The record of `rpc.h`, the parts of the robot that `rpc.c` and `cassette.c` reach, and the
drivers for them: system clock, motors, serial port and user parameters in flash. -/

universe u

namespace TurningPoint

abbrev rpcSubMax : Nat := 10
abbrev rpcPubTimeout : UInt32 := 25
abbrev rpcInfoTimeout : UInt32 := 1000

abbrev kVexMotorNum : Nat := 10

abbrev flashSuccess : Int := 1
abbrev flashErrorWriteLimit : Int := -2
abbrev flashError : Int := -5
abbrev userParamMaxWrite : Nat := 32
abbrev userParamBlocks : Nat := 56
abbrev userParamSize : Nat := 32

/-- A `user_param *`: NULL, or the one block the driver has. -/
inductive UserParam
  | null
  | params
  deriving DecidableEq

abbrev UserData := { octets : List UInt8 // octets.length = userParamSize }

def UserData.erased : UserData := ⟨List.replicate userParamSize 0xff, rfl⟩

def UserData.store (data : UserData) (i : Nat) (octet : UInt8) : UserData :=
  ⟨data.1.set i octet, by rw [List.length_set, data.2]⟩

/-- `params.data`, the blocks written to the page since it was last erased, and the count of writes
in this run. -/
structure Flash where
  data : UserData
  blocks : List UserData
  writeCount : Nat

def vexFlashUserParamRead (flash : Flash) : UserParam × Flash :=
  (.params, { flash with data := flash.blocks.getLast?.getD .erased })

def vexFlashUserParamWrite : UserParam → Flash → Int × Flash
  | .null, flash => (flashError, flash)
  | .params, flash =>
    if userParamMaxWrite ≤ flash.writeCount then (flashErrorWriteLimit, flash)
    else
      -- A full page is erased first.
      let blocks := if userParamBlocks ≤ flash.blocks.length then [] else flash.blocks
      (flashSuccess, { flash with
        blocks := blocks ++ [flash.data]
        writeCount := flash.writeCount + 1 })

/-- `clock` lists what the coming calls of `chTimeNow` return and `room` how many octets beyond the
first the coming calls of `sdAsynchronousWrite` find room for; calls that find none are left out.
`wire` is everything written to the port.  `nullAccess` is set once `data[]` of a NULL block has been
accessed. -/
structure Board where
  clock : Nat → UInt32
  motors : Fin kVexMotorNum → Int8
  flash : Flash
  mainBattery : UInt16
  backupBattery : UInt16
  room : Nat → Nat
  wire : List UInt8
  nullAccess : Bool

def Board.still : Board where
  clock _ := 0
  motors _ := 0
  flash := ⟨.erased, [], 0⟩
  mainBattery := 0
  backupBattery := 0
  room _ := 0
  wire := []
  nullAccess := false

structure RpcSubscription where
  active : Bool
  reqId : UInt16
  topic : UInt8
  subtopic : UInt8
  deriving DecidableEq

/-- `writePacket` is a parameter of the functions on the record; `tmp` and the `in` buffers only
carry octets from one place to another and are not kept. -/
structure Rpc where
  seqId : UInt8
  ipv4 : List UInt8
  motor : Fin kVexMotorNum → Int8
  cassette : UInt8
  fp : UserParam
  outBuf : List UInt8
  timestamp : UInt32
  heartbeat : UInt32
  published : UInt32
  sendstats : UInt32
  subs : Fin rpcSubMax → RpcSubscription

/-- The record with all that its functions can reach; `outer` is what only `writePacket` knows. -/
structure Host (ρ : Type u) where
  rpc : Rpc
  board : Board
  outer : ρ

abbrev WritePacket (ρ : Type u) := Option (List UInt8 → Host ρ → Host ρ)

variable {ρ : Type u}

def chTimeNow (h : Host ρ) : UInt32 × Host ρ :=
  (h.board.clock 0, { h with board.clock := fun n => h.board.clock (n + 1) })

def chTimeElapsedSince (start : UInt32) (h : Host ρ) : UInt32 × Host ρ :=
  let (now, h) := chTimeNow h
  (now - start, h)

def vexMotorGet (index : Fin kVexMotorNum) (h : Host ρ) : Int8 := h.board.motors index

def vexMotorSet (index : Fin kVexMotorNum) (value : Int8) (h : Host ρ) : Host ρ :=
  { h with board.motors :=
      Function.update h.board.motors index (if value < -127 then -127 else value) }

def sdAsynchronousWrite (octets : List UInt8) (board : Board) : Nat × Board :=
  let wlen := min octets.length (board.room 0 + 1)
  (wlen, { board with
    room := fun n => board.room (n + 1)
    wire := board.wire ++ octets.take wlen })

/-- `fp->data[i]`; the read through NULL is modelled as zero. -/
def loadData (fp : UserParam) (i : Nat) (h : Host ρ) : UInt8 × Host ρ :=
  match fp with
  | .null => (0, { h with board.nullAccess := true })
  | .params => (octetAt h.board.flash.data.1 i, h)

def storeData (fp : UserParam) (i : Nat) (octet : UInt8) (h : Host ρ) : Host ρ :=
  match fp with
  | .null => { h with board.nullAccess := true }
  | .params => { h with board.flash.data := h.board.flash.data.store i octet }

def readFlash (h : Host ρ) : UserParam × Host ρ :=
  let (fp, flash) := vexFlashUserParamRead h.board.flash
  (fp, { h with board.flash := flash })

def writeFlash (fp : UserParam) (h : Host ρ) : Host ρ :=
  { h with board.flash := (vexFlashUserParamWrite fp h.board.flash).2 }

abbrev cassetteMax : UInt8 := 1

def cassetteOpenWrite (index : UInt8) (h : Host ρ) : UserParam × Host ρ :=
  if index ≥ cassetteMax then (.null, h)
  else
    let (fp, h) := readFlash h
    (fp, storeData fp 0 0 h)

def cassetteOpenRead (index : UInt8) (h : Host ρ) : UserParam × Host ρ :=
  if index ≥ cassetteMax then (.null, h)
  else
    let (fp, h) := readFlash h
    let (n, h) := loadData fp 0 h
    if n = 0 ∨ n > 31 then (.null, h) else (fp, h)

def cassetteCount (h : Host ρ) : UInt8 × Host ρ :=
  let (fp, h) := cassetteOpenRead 0 h
  (if fp = .null then 0 else 1, h)

def cassetteFree (h : Host ρ) : UInt8 × Host ρ :=
  let (count, h) := cassetteCount h
  (cassetteMax - count, h)

end TurningPoint
