import TurningPoint.Rpc.Host

/-! `vexspi.c` and the system task of `vexcortex.c`: the messages exchanged with the master
processor. -/

namespace TurningPoint

/-- `spiTxPacket`, whose octets `data[6]` to `data[13]` are those of `motor`. -/
structure SpiTxPacket where
  h1 : UInt8
  h2 : UInt8
  state : UInt8
  reserved : List UInt8
  type : UInt8
  motor : Fin 8 → UInt8
  pad : List UInt8
  revLsb : UInt8
  revMsb : UInt8
  id : UInt8

namespace SpiTxPacket

def init : SpiTxPacket where
  h1 := 0x17
  h2 := 0xC9
  state := 0x02
  reserved := [0x00, 0x00]
  type := 0x00
  motor _ := 0x7F
  pad := List.replicate 15 0x00
  revLsb := 0x00
  revMsb := 0x01
  id := 0x00

def octets (tx : SpiTxPacket) : List UInt8 :=
  [tx.h1, tx.h2, tx.state] ++ tx.reserved ++ [tx.type] ++ List.ofFn tx.motor ++ tx.pad ++
    [tx.revLsb, tx.revMsb, tx.id]

def words (tx : SpiTxPacket) : List UInt16 :=
  (List.range 16).map fun i => load16 (tx.octets.drop (2 * i))

end SpiTxPacket

structure SpiData where
  txdata : SpiTxPacket
  rxdata : List UInt8
  online : Bool
  errors : UInt32

def SpiData.init : SpiData := ⟨.init, List.replicate 32 0, false, 0⟩

def copyTeamName : Nat → List UInt8 → List UInt8
  | 0, _ => []
  | n + 1, [] => 0x20 :: copyTeamName n []
  | n + 1, c :: p => if c ≠ 0 then c :: copyTeamName n p else 0x20 :: copyTeamName n (c :: p)

def SpiTxPacket.configure (status : UInt8) (tx : SpiTxPacket) : SpiTxPacket :=
  if tx.state &&& 0x0E = 0x02 then
    let tx := if status &&& 0x0F = 0x02 then { tx with state := 0x03 } else tx
    let tx := if status &&& 0x0F = 0x03 then { tx with state := 0x08, type := 0 } else tx
    if status &&& 0x0C ≠ 0x00 then { tx with state := 0x08, type := 0 } else tx
  else tx

def spiReceived (master : Fin 16 → UInt16) : List UInt8 := (List.ofFn master).flatMap memory16

def vexSpiSend (spiTeamName : List UInt8) (master : Fin 16 → UInt16) (s : SpiData) :
    List UInt16 × SpiData :=
  let tx := s.txdata
  let tx := if tx.state = 0x03 then
      { tx with type := 0x55, motor := fun i => octetAt (copyTeamName 8 spiTeamName) i }
    else tx
  let rxdata := spiReceived master
  let s := { s with txdata := { tx with id := tx.id + 1 } }
  if octetAt rxdata 0 = 0x17 ∧ octetAt rxdata 1 = 0xC9 then
    (tx.words, { s with
      txdata := s.txdata.configure (octetAt rxdata 2)
      rxdata := rxdata
      online := if octetAt rxdata 2 &&& 0x0F = 0x08 then true else s.online })
  else (tx.words, { s with errors := s.errors + 1 })

def spiMotor (data : Int) (reversed : Bool) : UInt8 :=
  let m : UInt8 := if data > 127 then 255 else if data < -127 then 0 else .ofNat (data + 127).toNat
  if reversed then 255 - m else m

def vexSpiSetMotor (index : Fin 8) (data : Int) (reversed : Bool) (s : SpiData) : SpiData :=
  { s with txdata.motor := Function.update s.txdata.motor index (spiMotor data reversed) }

/-- One turn of `vexCortexSystemTask`: what it finds of the motors, and what the master sends. -/
structure SpiTurn where
  value : Fin kVexMotorNum → Int
  reversed : Fin kVexMotorNum → Bool
  master : Fin 16 → UInt16

def spiPort (m : Fin 8) : Fin kVexMotorNum := ⟨m.val + 1, show m.val + 1 < 10 by omega⟩

def SpiTurn.setMotors (turn : SpiTurn) (s : SpiData) : SpiData :=
  (List.finRange 8).foldl
    (fun s m => vexSpiSetMotor m (turn.value (spiPort m)) (turn.reversed (spiPort m)) s) s

def vexCortexSystemTurn (spiTeamName : List UInt8) (t : List (List UInt16) × SpiData)
    (turn : SpiTurn) : List (List UInt16) × SpiData :=
  let (words, s) := vexSpiSend spiTeamName turn.master (turn.setMotors t.2)
  (t.1 ++ [words], s)

end TurningPoint
