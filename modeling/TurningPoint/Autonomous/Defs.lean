import TurningPoint.Autonomous.Timer
import TurningPoint.Rpc.Host

namespace TurningPoint

inductive RobotSystem
  | arm
  | drive
  | intake
  | flipper
  | lift
  | setter
  deriving DecidableEq

namespace RobotSystem

def all : List RobotSystem := [arm, drive, intake, flipper, lift, setter]

def flag : RobotSystem → UInt32
  | arm => 0x01
  | drive => 0x02
  | intake => 0x04
  | flipper => 0x06
  | lift => 0x08
  | setter => 0x10

end RobotSystem

structure Drive where
  northeast : Fin kVexMotorNum
  northwest : Fin kVexMotorNum
  southeast : Fin kVexMotorNum
  southwest : Fin kVexMotorNum

structure RobotMotors where
  arm : Fin kVexMotorNum
  drive : Drive
  intake : Fin kVexMotorNum
  flipper : Fin kVexMotorNum
  lift : Fin kVexMotorNum
  setter : Fin kVexMotorNum

def RobotMotors.motors (r : RobotMotors) : RobotSystem → List (Fin kVexMotorNum)
  | .arm => [r.arm]
  | .drive => [r.drive.northeast, r.drive.northwest, r.drive.southeast, r.drive.southwest]
  | .intake => [r.intake]
  | .flipper => [r.flipper]
  | .lift => [r.lift]
  | .setter => [r.setter]

structure RobotSetup extends RobotMotors where
  disjoint : ∀ a b motor, motor ∈ toRobotMotors.motors a → motor ∈ toRobotMotors.motors b → a = b

def vexUserMotors : RobotMotors where
  arm := 2
  drive := ⟨1, 8, 7, 0⟩
  flipper := 3
  intake := 6
  lift := 5
  setter := 4

theorem vexUserMotors_disjoint (a b : RobotSystem) (motor : Fin kVexMotorNum) :
    motor ∈ vexUserMotors.motors a → motor ∈ vexUserMotors.motors b → a = b := by
  revert motor
  cases a <;> cases b <;> decide

def vexUserSetup : RobotSetup := ⟨vexUserMotors, vexUserMotors_disjoint⟩

abbrev smlibMotorMaxCmd : Int := 127
abbrev smlibMotorMinCmd : Int := -127
abbrev smlibMotorDeadband : Nat := 10

/-- The `motor_cmd` of each smart motor, the `value` of each motor, and the calls of `SetMotor` so
far.  The slew rate task, which moves `value` towards the command, is left out here. -/
structure Motors where
  motorCmd : Fin kVexMotorNum → Int
  value : Fin kVexMotorNum → Int
  calls : List (Fin kVexMotorNum × Int)

def limitMotor (value : Int) : Int :=
  if value > 127 then 127 else if value < -127 then -127 else value

def setMotor (index : Fin kVexMotorNum) (value : Int) (immediate : Bool) (m : Motors) : Motors where
  motorCmd := Function.update m.motorCmd index <|
    if value > smlibMotorMaxCmd then smlibMotorMaxCmd
    else if value < smlibMotorMinCmd then smlibMotorMinCmd
    else if value.natAbs ≥ smlibMotorDeadband then value
    else 0
  value := if immediate then Function.update m.value index (limitMotor value) else m.value
  calls := m.calls ++ [(index, value)]

def driveSpeedTable : List Nat :=
  [0,  0,  0,  0,  0,  0,  0,  0,  0,  0,  0,  21, 21, 21, 22, 22,  22,  23, 24, 24, 25, 25,
   25, 25, 26, 27, 27, 28, 28, 28, 28, 29, 30, 30, 30, 31, 31, 32,  32,  32, 33, 33, 34, 34,
   35, 35, 35, 36, 36, 37, 37, 37, 37, 38, 38, 39, 39, 39, 40, 40,  41,  41, 42, 42, 43, 44,
   44, 45, 45, 46, 46, 47, 47, 48, 48, 49, 50, 50, 51, 52, 52, 53,  54,  55, 56, 57, 57, 58,
   59, 60, 61, 62, 63, 64, 65, 66, 67, 67, 68, 70, 71, 72, 72, 73,  74,  76, 77, 78, 79, 79,
   80, 81, 83, 84, 84, 86, 86, 87, 87, 88, 88, 89, 89, 90, 90, 127, 127, 127]

def driveSpeed (speed : Int) : Int :=
  let speed := if speed > 127 then 127 else if speed < -127 then -127 else speed
  speed.sign * driveSpeedTable.getD speed.natAbs 0

variable (r : RobotMotors)

def armMove (cmd : Int) (immediate : Bool) : Motors → Motors := setMotor r.arm cmd immediate

def driveMove (x y : Int) (immediate : Bool) (m : Motors) : Motors :=
  let m := setMotor r.drive.northeast (driveSpeed (y - x)) immediate m
  let m := setMotor r.drive.northwest (driveSpeed (y + x)) immediate m
  let m := setMotor r.drive.southeast (driveSpeed (y - x)) immediate m
  setMotor r.drive.southwest (driveSpeed (y + x)) immediate m

def intakeMove (cmd : Int) (immediate : Bool) : Motors → Motors := setMotor r.intake cmd immediate
def flipperMove (cmd : Int) (immediate : Bool) : Motors → Motors := setMotor r.flipper cmd immediate
def liftMove (cmd : Int) (immediate : Bool) : Motors → Motors := setMotor r.lift cmd immediate
def setterMove (cmd : Int) (immediate : Bool) : Motors → Motors := setMotor r.setter cmd immediate

def stopMovementTurn (robot : UInt32) (m : Motors) : Motors :=
  let m := if robot &&& RobotSystem.arm.flag ≠ 0 then armMove r 0 true m else m
  let m := if robot &&& RobotSystem.drive.flag ≠ 0 then driveMove r 0 0 true m else m
  let m := if robot &&& RobotSystem.intake.flag ≠ 0 then intakeMove r 0 true m else m
  let m := if robot &&& RobotSystem.flipper.flag ≠ 0 then flipperMove r 0 true m else m
  let m := if robot &&& RobotSystem.lift.flag ≠ 0 then liftMove r 0 true m else m
  if robot &&& RobotSystem.setter.flag ≠ 0 then setterMove r 0 true m else m

def stopMovementOf (robot timeout : UInt32) (now : Nat → UInt32) (fuel : Nat) (m : Motors) :
    Option (TimerRun Motors) :=
  timerRun now timeout (stopMovementTurn r robot) fuel m

end TurningPoint
