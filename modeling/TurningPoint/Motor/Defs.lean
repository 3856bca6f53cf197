import TurningPoint.Lib.Traced
import TurningPoint.Lib.Run
import TurningPoint.Autonomous.Defs

/-! From a command to a motor: `SetMotor` and the slew rate task of `smartmotor.c`, the values of
`vexmotor.c`, and the timer interrupt that drives the two H-bridges. -/

namespace TurningPoint

abbrev smlibMotorMaxCmdUndefined : Int := 255
abbrev smlibMotorDefaultSlewRate : Int := 10

inductive PwmPort
  | t0
  | t9
  deriving DecidableEq

def PwmPort.motor : PwmPort → Fin kVexMotorNum
  | t0 => ⟨0, by decide⟩
  | t9 => ⟨9, by decide⟩

structure HBridge where
  ccrP : Nat
  ccrN : Nat
  eblP : Bool
  eblN : Bool
  deriving DecidableEq

/-- Computations that record an H-bridge after each write to a register or a pin. -/
abbrev Driving (α : Type) := Lib.Traced (PwmPort × HBridge) α

def HBridge.write (port : PwmPort) (bridge : HBridge) : Driving HBridge :=
  ⟨[(port, bridge)], bridge⟩

def vexMotorPwmSet (port : PwmPort) (value : Int) (b : HBridge) : Driving HBridge :=
  if value > 0 then do
    let b ← HBridge.write port { b with ccrN := 0 }
    let b ← HBridge.write port { b with eblN := false }
    let b ← HBridge.write port { b with eblP := true }
    HBridge.write port { b with ccrP := (value % 128).toNat }
  else if value < 0 then do
    let b ← HBridge.write port { b with ccrP := 0 }
    let b ← HBridge.write port { b with eblP := false }
    let b ← HBridge.write port { b with eblN := true }
    HBridge.write port { b with ccrN := (-value % 128).toNat }
  else do
    let b ← HBridge.write port { b with ccrP := 0 }
    let b ← HBridge.write port { b with ccrN := 0 }
    let b ← HBridge.write port { b with eblN := false }
    HBridge.write port { b with eblP := false }

def vexMotorPwmSet0 : Int → HBridge → Driving HBridge := vexMotorPwmSet .t0
def vexMotorPwmSet9 : Int → HBridge → Driving HBridge := vexMotorPwmSet .t9

structure PwmMotor where
  bridge : HBridge
  curValue : Int

def PwmMotor.check (set : Int → HBridge → Driving HBridge) (newValue : Int) (m : PwmMotor) :
    Driving PwmMotor :=
  if m.curValue = newValue then pure m
  else do
    let value :=
      if newValue = 0 then 0
      else if newValue > 0 then if m.curValue ≥ 0 then newValue else 0
      else if m.curValue ≤ 0 then newValue else 0
    let bridge ← set value m.bridge
    return ⟨bridge, value⟩

structure PwmTimer where
  m0 : PwmMotor
  m9 : PwmMotor

def PwmTimer.motor (timer : PwmTimer) : PwmPort → PwmMotor
  | .t0 => timer.m0
  | .t9 => timer.m9

/-- `Motors` with what else the tasks keep of each motor: of the monitor task the limit it leaves and
whether limits count at all, of the slew rate task the request and the rate. -/
structure SmartMotors extends Motors where
  motorReq : Fin kVexMotorNum → Int
  motorSlew : Fin kVexMotorNum → Int
  limitCmd : Fin kVexMotorNum → Int
  limitEnabled : Bool
  reversed : Fin kVexMotorNum → Bool
  timer : PwmTimer

namespace SmartMotors

def init (reversed : Fin kVexMotorNum → Bool) : SmartMotors where
  motorCmd _ := 0
  value _ := 0
  calls := []
  motorReq _ := 0
  motorSlew _ := smlibMotorDefaultSlewRate
  limitCmd _ := smlibMotorMaxCmdUndefined
  limitEnabled := false
  reversed := reversed
  timer := ⟨⟨⟨0, 0, false, false⟩, 0⟩, ⟨⟨0, 0, false, false⟩, 0⟩⟩

variable (i : Fin kVexMotorNum)

def vexMotorSet (value : Int) (s : SmartMotors) : SmartMotors :=
  { s with value := Function.update s.value i (limitMotor value) }

def vexMotorStopAll (s : SmartMotors) : SmartMotors :=
  (List.finRange kVexMotorNum).foldl (fun s i => s.vexMotorSet i 0) s

def request (s : SmartMotors) : Int :=
  if s.limitEnabled ∧ s.limitCmd i ≠ smlibMotorMaxCmdUndefined then
    if (s.motorCmd i).natAbs > (s.limitCmd i).natAbs then
      -- A motor that is to change direction is not limited.
      if (s.motorCmd i).sign = (s.limitCmd i).sign then s.limitCmd i else s.motorCmd i
    else s.motorCmd i
  else s.motorCmd i

/-- One turn of the loop over the motors in `SmartMotorSlewRateTask`, as one step.  Between the reads
of `motor_cmd` and `limit_cmd` a thread of a higher priority could store to them; that is left out.
-/
def slewTurn (s : SmartMotors) : SmartMotors :=
  let motorTmp := s.value i
  let req := s.request i
  let s := { s with motorReq := Function.update s.motorReq i req }
  if motorTmp ≠ req then
    let motorTmp := if req > motorTmp then min (motorTmp + s.motorSlew i) req else motorTmp
    let motorTmp := if req < motorTmp then max (motorTmp - s.motorSlew i) req else motorTmp
    s.vexMotorSet i motorTmp
  else s

def newValue (s : SmartMotors) : Int := if s.reversed i then -s.value i else s.value i

def tim4IRQHandler (s : SmartMotors) : Driving PwmTimer := do
  let m0 ← s.timer.m0.check vexMotorPwmSet0 (s.newValue PwmPort.t0.motor)
  let m9 ← s.timer.m9.check vexMotorPwmSet9 (s.newValue PwmPort.t9.motor)
  return ⟨m0, m9⟩

end SmartMotors

/-- What happens to the motors.  `limit` and `enable` are up to the monitor task, `direct` to
`rpc.c`, and the others to the robot's own threads and the interrupt. -/
inductive MotorAction
  | set (i : Fin kVexMotorNum) (value : Int) (immediate : Bool)
  | direct (i : Fin kVexMotorNum) (value : Int)
  | stopAll
  | enable (enabled : Bool)
  | limit (i : Fin kVexMotorNum) (cmd : Int)
  | slew (i : Fin kVexMotorNum)
  | interrupt
  deriving DecidableEq

namespace SmartMotors

def step (s : SmartMotors) : MotorAction → SmartMotors
  | .set i value immediate => { s with toMotors := setMotor i value immediate s.toMotors }
  | .direct i value => s.vexMotorSet i value
  | .stopAll => s.vexMotorStopAll
  | .enable enabled => { s with limitEnabled := enabled }
  | .limit i cmd => { s with limitCmd := Function.update s.limitCmd i cmd }
  | .slew i => s.slewTurn i
  | .interrupt => { s with timer := s.tim4IRQHandler.value }

end SmartMotors

end TurningPoint
