import TurningPoint.Autonomous.Stop
import TurningPoint.Lib.Run

/-! The threads of the systems, which move them for the operator, beside the autonomous thread.
Either may run between any two calls of `SetMotor`, locks and clock readings of the other. -/

namespace TurningPoint

structure MotorCall where
  index : Fin kVexMotorNum
  value : Int
  immediate : Bool
  deriving DecidableEq

def MotorCall.make (m : Motors) (call : MotorCall) : Motors :=
  setMotor call.index call.value call.immediate m

inductive Move
  | arm (cmd : Int) (immediate : Bool)
  | drive (x y : Int) (immediate : Bool)
  | intake (cmd : Int) (immediate : Bool)
  | flipper (cmd : Int) (immediate : Bool)
  | lift (cmd : Int) (immediate : Bool)
  | setter (cmd : Int) (immediate : Bool)
  deriving DecidableEq

namespace Move

variable (r : RobotMotors)

def run : Move → Motors → Motors
  | arm cmd immediate => armMove r cmd immediate
  | drive x y immediate => driveMove r x y immediate
  | intake cmd immediate => intakeMove r cmd immediate
  | flipper cmd immediate => flipperMove r cmd immediate
  | lift cmd immediate => liftMove r cmd immediate
  | setter cmd immediate => setterMove r cmd immediate

def calls : Move → List MotorCall
  | arm cmd immediate => [⟨r.arm, cmd, immediate⟩]
  | drive x y immediate =>
    [⟨r.drive.northeast, driveSpeed (y - x), immediate⟩,
      ⟨r.drive.northwest, driveSpeed (y + x), immediate⟩,
      ⟨r.drive.southeast, driveSpeed (y - x), immediate⟩,
      ⟨r.drive.southwest, driveSpeed (y + x), immediate⟩]
  | intake cmd immediate => [⟨r.intake, cmd, immediate⟩]
  | flipper cmd immediate => [⟨r.flipper, cmd, immediate⟩]
  | lift cmd immediate => [⟨r.lift, cmd, immediate⟩]
  | setter cmd immediate => [⟨r.setter, cmd, immediate⟩]

theorem run_eq (move : Move) (m : Motors) : move.run r m = (move.calls r).foldl MotorCall.make m := by
  cases move <;> rfl

end Move

/-- What the threads read: the two joysticks as `vexControllerGet` gives them, and the limit of the
lift. -/
structure Controls where
  ch3 : Int
  ch4 : Int
  ch2Xmtr2 : Int
  btn5U : Bool
  btn6U : Bool
  btn6D : Bool
  btn8D : Bool
  btn8L : Bool
  btn8R : Bool
  btn5UXmtr2 : Bool
  btn6UXmtr2 : Bool
  btn6DXmtr2 : Bool
  btn7DXmtr2 : Bool
  btn7UXmtr2 : Bool
  btn7RXmtr2 : Bool
  btn8DXmtr2 : Bool
  btn8LXmtr2 : Bool
  btn8RXmtr2 : Bool
  liftLimit : Bool
  deriving Inhabited

def armSpeed : Int → Int := driveSpeed
def intakeSpeed : Int → Int := driveSpeed
def flipperSpeed : Int → Int := driveSpeed
def liftSpeed : Int → Int := driveSpeed

def setterSpeed (speed : Int) : Int :=
  let speed := if speed > 50 then 50 else if speed < -50 then -50 else speed
  speed.sign * driveSpeedTable.getD speed.natAbs 0

def limitSpeed (speed limit : Int) : Int := if speed.natAbs ≤ limit then 0 else speed

def buttonCmd (second buttonIn buttonOut buttonInXmtr2 buttonOutXmtr2 : Bool) : Int :=
  let buttonIn := if second then buttonInXmtr2 else buttonIn
  let buttonOut := if second then buttonOutXmtr2 else buttonOut
  if buttonIn then 127 else if buttonOut then -127 else 0

namespace Controls

variable (c : Controls)

def armTurn : Move :=
  .arm (armSpeed (buttonCmd c.btn5UXmtr2 c.btn8R c.btn8D c.btn8RXmtr2 c.btn8DXmtr2)) false

def driveTurn : Move :=
  let halve (v : Int) : Int := if v.natAbs > 64 then (if v ≥ 0 then 1 else -1) * 64 else v
  let driveX := if c.btn5U then halve c.ch4 else c.ch4
  let driveY := if c.btn5U then halve c.ch3 else c.ch3
  .drive (driveSpeed driveX) (driveSpeed driveY) true

def intakeTurn : Move :=
  .intake (intakeSpeed (buttonCmd c.btn5UXmtr2 c.btn6U c.btn6D c.btn6UXmtr2 c.btn6DXmtr2)) false

def flipperTurn : Move :=
  .flipper (flipperSpeed (buttonCmd c.btn5UXmtr2 c.btn8D c.btn8L c.btn8DXmtr2 c.btn8LXmtr2)) false

def liftTurn : Move :=
  if c.btn7UXmtr2 then .lift (liftSpeed 0) true
  else if c.btn7DXmtr2 then .lift (liftSpeed 127) true
  else if c.liftLimit then .lift (liftSpeed 15) true
  else .lift (liftSpeed 127) false

def setterTurn : Move :=
  let setterCmd := if ¬ c.btn7RXmtr2 then c.ch2Xmtr2 else 20
  .setter (setterSpeed (limitSpeed setterCmd 20)) true

/-- One turn of the loop of a system's thread, while it is locked. -/
def turn : RobotSystem → Move
  | .arm => c.armTurn
  | .drive => c.driveTurn
  | .intake => c.intakeTurn
  | .flipper => c.flipperTurn
  | .lift => c.liftTurn
  | .setter => c.setterTurn

end Controls

inductive AutonomousStatement
  | lock (system : RobotSystem)
  | unlock (system : RobotSystem)
  | timerRun (target : UInt32) (code : List Move)
  deriving DecidableEq

/-- Where it is in a statement: before it, before the test of its loop, or in the body with the calls
that are left. -/
inductive AutonomousPhase
  | ready
  | testing
  | turning (calls : List MotorCall)

structure AutonomousThread where
  timer : AutonomousTimer
  phase : AutonomousPhase
  program : List AutonomousStatement

/-- `pending` are the calls a system's thread is about to make after it has found its system locked;
`log` has all calls with the system whose thread made them, or none. -/
structure Threads where
  locked : RobotSystem → Bool
  pending : RobotSystem → List MotorCall
  auton : AutonomousThread
  motors : Motors
  log : List (Option RobotSystem × MotorCall)

namespace Threads

variable (r : RobotMotors)

def call (thread : Option RobotSystem) (call : MotorCall) (s : Threads) : Threads :=
  { s with motors := call.make s.motors, log := s.log ++ [(thread, call)] }

def autonStep (now : UInt32) (s : Threads) : Threads :=
  match s.auton.phase, s.auton.program with
  | .ready, .lock system :: rest =>
    { s with locked := Function.update s.locked system true, auton.program := rest }
  | .ready, .unlock system :: rest =>
    { s with locked := Function.update s.locked system false, auton.program := rest }
  | .ready, .timerRun target _ :: _ =>
    { s with auton.timer := timerSetTimeout now target, auton.phase := .testing }
  | .testing, .timerRun _ code :: rest =>
    if timerIsActive s.auton.timer then
      { s with auton.phase := .turning (code.flatMap (·.calls r)) }
    else { s with auton.phase := .ready, auton.program := rest }
  | .turning (call :: calls), _ => { s.call none call with auton.phase := .turning calls }
  | .turning [], _ =>
    { s with auton.timer := timerTick now s.auton.timer, auton.phase := .testing }
  | _, _ => s

section

variable {r : RobotMotors} {now target : UInt32} {s : Threads} {system : RobotSystem}
  {code : List Move} {rest : List AutonomousStatement} {call : MotorCall} {calls : List MotorCall}

theorem autonStep_lock (hphase : s.auton.phase = .ready)
    (hprogram : s.auton.program = .lock system :: rest) : s.autonStep r now =
      { s with locked := Function.update s.locked system true, auton.program := rest } := by
  rw [autonStep, hphase, hprogram]

theorem autonStep_unlock (hphase : s.auton.phase = .ready)
    (hprogram : s.auton.program = .unlock system :: rest) : s.autonStep r now =
      { s with locked := Function.update s.locked system false, auton.program := rest } := by
  rw [autonStep, hphase, hprogram]

theorem autonStep_begin (hphase : s.auton.phase = .ready)
    (hprogram : s.auton.program = .timerRun target code :: rest) : s.autonStep r now =
      { s with auton.timer := timerSetTimeout now target, auton.phase := .testing } := by
  rw [autonStep, hphase, hprogram]

theorem autonStep_test (hphase : s.auton.phase = .testing)
    (hprogram : s.auton.program = .timerRun target code :: rest) : s.autonStep r now =
      if timerIsActive s.auton.timer then
        { s with auton.phase := .turning (code.flatMap (·.calls r)) }
      else { s with auton.phase := .ready, auton.program := rest } := by
  rw [autonStep, hphase, hprogram]

theorem autonStep_call (hphase : s.auton.phase = .turning (call :: calls)) : s.autonStep r now =
    { s.call none call with auton.phase := .turning calls } := by
  rw [autonStep, hphase]

theorem autonStep_tick (hphase : s.auton.phase = .turning []) : s.autonStep r now =
    { s with auton.timer := timerTick now s.auton.timer, auton.phase := .testing } := by
  rw [autonStep, hphase]

end

def decide (system : RobotSystem) (c : Controls) (s : Threads) : Threads :=
  if s.locked system ∧ s.pending system = [] then
    { s with pending := Function.update s.pending system ((c.turn system).calls r) }
  else s

def move (system : RobotSystem) (s : Threads) : Threads :=
  match s.pending system with
  | call :: calls =>
    { s.call (some system) call with pending := Function.update s.pending system calls }
  | [] => s

end Threads

inductive ThreadAction
  | auton (now : UInt32)
  | decide (system : RobotSystem) (c : Controls)
  | move (system : RobotSystem)

def Threads.step (r : RobotMotors) (s : Threads) : ThreadAction → Threads
  | .auton now => s.autonStep r now
  | .decide system c => s.decide r system c
  | .move system => s.move system

end TurningPoint
