import TurningPoint.Autonomous.Straight
import TurningPoint.Lcd.Defs

namespace TurningPoint

abbrev robotDrive : UInt32 := RobotSystem.drive.flag

abbrev robotAll : UInt32 :=
  RobotSystem.arm.flag ||| RobotSystem.drive.flag ||| RobotSystem.intake.flag |||
    RobotSystem.flipper.flag ||| RobotSystem.lift.flag ||| RobotSystem.setter.flag

def Move.stop : RobotSystem → Move
  | .arm => .arm 0 true
  | .drive => .drive 0 0 true
  | .intake => .intake 0 true
  | .flipper => .flipper 0 true
  | .lift => .lift 0 true
  | .setter => .setter 0 true

def stopMoves (robot : UInt32) : List Move :=
  (RobotSystem.all.filter fun system => robot &&& system.flag ≠ 0).map Move.stop

theorem foldl_stopMoves (r : RobotMotors) (robot : UInt32) (m : Motors) :
    (stopMoves robot).foldl (fun m move => move.run r m) m = stopMovementTurn r robot m := by
  rw [stopMoves, List.foldl_map, List.foldl_filter]
  simp only [stopMovementTurn, decide_eq_true_eq]
  rfl

def AutonomousStatement.stopMovementOf (robot timeout : UInt32) : AutonomousStatement :=
  .timerRun timeout (stopMoves robot)

def autonomousMode0 : List AutonomousStatement :=
  systemUnlockAll ++
  ([.stopMovementOf robotDrive 150,
    .timerRun 400 [.drive 0 127 true],
    .stopMovementOf robotDrive 100,
    .stopMovementOf robotAll 25,
    .timerRun 250 [.drive (-127) 0 true],
    .stopMovementOf robotDrive 25,
    .timerRun 250 [.drive 0 (-127) true],
    .stopMovementOf robotDrive 100,
    .timerRun 1600 [.drive 0 127 true],
    .stopMovementOf robotAll 1000] : List AutonomousStatement)

def autonomousMode1 : List AutonomousStatement :=
  systemUnlockAll ++
  ([.stopMovementOf robotDrive 150,
    .timerRun 400 [.drive 0 127 true],
    .stopMovementOf robotDrive 100,
    .stopMovementOf robotAll 25,
    .timerRun 250 [.drive 127 0 true],
    .stopMovementOf robotDrive 25,
    .timerRun 250 [.drive 0 (-127) true],
    .stopMovementOf robotDrive 100,
    .timerRun 1600 [.drive 0 127 true],
    .stopMovementOf robotAll 1000] : List AutonomousStatement)

def autonomousMode2 : List AutonomousStatement :=
  systemUnlockAll ++
  ([.stopMovementOf robotDrive 150,
    .timerRun 375 [.drive 0 127 true],
    .stopMovementOf robotDrive 100,
    .stopMovementOf robotAll 25,
    .timerRun 250 [.drive 127 0 true],
    .stopMovementOf robotDrive 25,
    .timerRun 250 [.drive 0 (-127) true],
    .stopMovementOf robotDrive 100,
    .timerRun 2800 [.drive 0 100 true],
    .stopMovementOf robotAll 1000] : List AutonomousStatement)

def autonomousMode3 : List AutonomousStatement :=
  systemUnlockAll ++
  ([.stopMovementOf robotAll 150,
    .timerRun 2500 [.lift 127 true],
    .stopMovementOf robotAll 100,
    .timerRun 1500 [.drive 18 127 true],
    .stopMovementOf robotAll 50,
    .timerRun 1125 [.drive (-12) (-127) true],
    .stopMovementOf robotDrive 50,
    .timerRun 350 [.drive (-100) 0 true],
    .stopMovementOf robotDrive 50,
    .timerRun 500 [.drive 0 (-100) true],
    .stopMovementOf robotDrive 50,
    .stopMovementOf robotDrive 50,
    .timerRun 1350 [.drive 5 100 true, .intake 127 true],
    .stopMovementOf robotDrive 75,
    .timerRun 1500 [.drive (-10) (-100) true, .intake 127 true],
    .stopMovementOf robotDrive 80,
    .timerRun 95 [.drive 0 100 true],
    .stopMovementOf robotDrive 50,
    .timerRun 185 [.drive 127 0 true, .intake (-127) true],
    .stopMovementOf robotDrive 60,
    .timerRun 100 [.intake 127 true],
    .timerRun 2500 [.setter 30 true, .lift 127 true, .intake 127 true],
    .stopMovementOf robotDrive 150,
    .timerRun 390 [.drive 25 (-127) true],
    .stopMovementOf robotDrive 100,
    .stopMovementOf robotAll 25,
    .timerRun 250 [.drive (-127) 0 true],
    .stopMovementOf robotDrive 25,
    .timerRun 250 [.drive 0 (-127) true],
    .stopMovementOf robotDrive 100,
    .timerRun 1800 [.drive 0 100 true],
    .stopMovementOf robotAll 1000] : List AutonomousStatement)

def autonomousMode4 : List AutonomousStatement :=
  systemUnlockAll ++
  ([.stopMovementOf robotAll 150,
    .timerRun 2500 [.lift 127 true],
    .stopMovementOf robotAll 100,
    .timerRun 310 [.drive (-100) 0 true, .intake 127 true],
    .stopMovementOf robotAll 75,
    .timerRun 200 [.drive 0 (-127) true],
    .timerRun 30 [.drive 0 (-30) true],
    .stopMovementOf robotDrive 50,
    .timerRun 1360 [.drive 5 100 true, .intake 127 true],
    .stopMovementOf robotDrive 75,
    .timerRun 1500 [.drive (-5) (-95) true, .intake 127 true],
    .stopMovementOf robotDrive 120,
    .timerRun 30 [.drive 7 (-30) true],
    .stopMovementOf robotDrive 20,
    .timerRun 95 [.drive 0 100 true],
    .stopMovementOf robotDrive 50,
    .timerRun 635 [.drive 40 0 true, .intake 127 true],
    .stopMovementOf robotDrive 60,
    .timerRun 300 [.intake (-127) true],
    .timerRun 200 [.intake 127 true],
    .timerRun 2500 [.setter (-30) true, .lift 127 true, .intake 127 true]] : List AutonomousStatement)

def autonomousMode5 : List AutonomousStatement :=
  systemUnlockAll ++
  ([.stopMovementOf robotAll 150,
    .timerRun 2500 [.lift 127 true],
    .stopMovementOf robotAll 100,
    .timerRun 310 [.drive 100 0 true, .intake 127 true],
    .stopMovementOf robotAll 75,
    .timerRun 200 [.drive 0 (-127) true],
    .timerRun 30 [.drive 0 (-30) true],
    .stopMovementOf robotDrive 50,
    .timerRun 1360 [.drive 5 100 true, .intake 127 true],
    .stopMovementOf robotDrive 75,
    .timerRun 1500 [.drive (-5) (-95) true, .intake 127 true],
    .stopMovementOf robotDrive 120,
    .timerRun 30 [.drive (-10) (-30) true],
    .stopMovementOf robotDrive 20,
    .timerRun 95 [.drive (-5) 100 true],
    .stopMovementOf robotDrive 50,
    .timerRun 635 [.drive (-40) 0 true, .intake 127 true],
    .stopMovementOf robotDrive 60,
    .timerRun 300 [.intake (-127) true],
    .timerRun 200 [.intake 127 true],
    .timerRun 2500 [.setter (-30) true, .lift 127 true, .intake 127 true]] : List AutonomousStatement)

def autonomousMode6 : List AutonomousStatement :=
  systemUnlockAll ++
  ([.stopMovementOf robotAll 150,
    .timerRun 2500 [.lift 127 true],
    .stopMovementOf robotAll 100,
    .timerRun 310 [.drive (-100) 0 true, .intake 127 true],
    .stopMovementOf robotAll 75,
    .timerRun 220 [.drive 0 (-127) true],
    .stopMovementOf robotDrive 50,
    .timerRun 1350 [.drive 0 100 true, .intake 127 true],
    .stopMovementOf robotDrive 75,
    .timerRun 1500 [.drive (-5) (-95) true, .intake 127 true],
    .stopMovementOf robotDrive 120,
    .timerRun 95 [.drive 0 100 true],
    .stopMovementOf robotDrive 50,
    .timerRun 405 [.drive 75 0 true, .intake 127 true],
    .stopMovementOf robotDrive 60,
    .timerRun 300 [.intake (-127) true],
    .timerRun 200 [.intake 127 true],
    .timerRun 2500 [.setter 30 true, .lift 127 true, .intake 127 true],
    .timerRun 1500 [.drive (-12) 127 true],
    .stopMovementOf robotAll 50] : List AutonomousStatement)

def autonomousMode7 : List AutonomousStatement :=
  systemUnlockAll ++
  ([.stopMovementOf robotAll 150,
    .timerRun 2500 [.lift 127 true],
    .stopMovementOf robotAll 100,
    .timerRun 310 [.drive 100 0 true, .intake 127 true],
    .stopMovementOf robotAll 75,
    .timerRun 220 [.drive 0 (-127) true],
    .stopMovementOf robotDrive 50,
    .timerRun 1350 [.drive 0 100 true, .intake 127 true],
    .stopMovementOf robotDrive 75,
    .timerRun 1500 [.drive (-5) (-95) true, .intake 127 true],
    .stopMovementOf robotDrive 120,
    .timerRun 95 [.drive 0 100 true],
    .stopMovementOf robotDrive 50,
    .timerRun 405 [.drive (-75) 0 true, .intake 127 true],
    .stopMovementOf robotDrive 60,
    .timerRun 300 [.intake (-127) true],
    .timerRun 200 [.intake 127 true],
    .timerRun 2500 [.setter 30 true, .lift 127 true, .intake 127 true],
    .timerRun 2800 [.drive (-12) 127 true],
    .stopMovementOf robotAll 50] : List AutonomousStatement)

def autonomousMode8 : List AutonomousStatement :=
  systemUnlockAll ++
  ([.stopMovementOf robotAll 150,
    .timerRun 2500 [.lift 127 true],
    .stopMovementOf robotAll 100,
    .timerRun 310 [.drive (-100) 0 true, .intake 127 true],
    .stopMovementOf robotAll 75,
    .timerRun 200 [.drive 0 (-127) true],
    .timerRun 30 [.drive 0 (-30) true],
    .stopMovementOf robotDrive 50,
    .timerRun 1360 [.drive 0 100 true, .intake 127 true],
    .stopMovementOf robotDrive 75,
    .timerRun 1500 [.drive (-5) (-95) true, .intake 127 true],
    .stopMovementOf robotDrive 120,
    .timerRun 30 [.drive 7 (-30) true],
    .stopMovementOf robotDrive 20,
    .timerRun 95 [.drive 0 100 true],
    .stopMovementOf robotDrive 50,
    .timerRun 655 [.drive 40 0 true, .intake 127 true],
    .stopMovementOf robotDrive 60,
    .timerRun 300 [.intake (-127) true],
    .timerRun 200 [.intake 127 true],
    .timerRun 2500 [.setter (-30) true, .lift 127 true, .intake 127 true],
    .timerRun 17 [.drive (-127) 0 true],
    .stopMovementOf robotDrive 150,
    .timerRun 470 [.drive 7 (-127) true],
    .stopMovementOf robotDrive 120,
    .stopMovementOf robotAll 25,
    .timerRun 400 [.drive 100 0 true],
    .stopMovementOf robotDrive 25,
    .timerRun 400 [.drive 0 (-127) true],
    .stopMovementOf robotDrive 150,
    .timerRun 2800 [.drive 0 100 true],
    .stopMovementOf robotAll 1000] : List AutonomousStatement)

def autonomousMode9 : List AutonomousStatement :=
  systemUnlockAll ++
  ([.stopMovementOf robotAll 150,
    .timerRun 2500 [.lift 127 true],
    .stopMovementOf robotAll 100,
    .timerRun 310 [.drive 100 0 true, .intake 127 true],
    .stopMovementOf robotAll 75,
    .timerRun 200 [.drive 0 (-127) true],
    .timerRun 30 [.drive 0 (-30) true],
    .stopMovementOf robotDrive 50,
    .timerRun 1360 [.drive 5 100 true, .intake 127 true],
    .stopMovementOf robotDrive 75,
    .timerRun 1500 [.drive (-5) (-95) true, .intake 127 true],
    .stopMovementOf robotDrive 120,
    .timerRun 30 [.drive (-10) (-30) true],
    .stopMovementOf robotDrive 20,
    .timerRun 95 [.drive (-5) 100 true],
    .stopMovementOf robotDrive 50,
    .timerRun 620 [.drive (-40) 0 true, .intake 127 true],
    .stopMovementOf robotDrive 60,
    .timerRun 300 [.intake (-127) true],
    .timerRun 200 [.intake 127 true],
    .timerRun 2500 [.setter (-30) true, .lift 127 true, .intake 127 true],
    .timerRun 17 [.drive (-127) 0 true],
    .stopMovementOf robotDrive 150,
    .timerRun 585 [.drive 7 (-127) true],
    .stopMovementOf robotDrive 120,
    .stopMovementOf robotAll 25,
    .timerRun 400 [.drive 100 0 true],
    .stopMovementOf robotDrive 25,
    .timerRun 300 [.drive 0 (-127) true],
    .stopMovementOf robotDrive 150,
    .timerRun 2950 [.drive 0 100 true],
    .stopMovementOf robotAll 1000] : List AutonomousStatement)

def autonomousMode : LcdMode → List AutonomousStatement
  | 0 => autonomousMode0
  | 1 => autonomousMode1
  | 2 => autonomousMode2
  | 3 => autonomousMode3
  | 4 => autonomousMode4
  | 5 => autonomousMode5
  | 6 => autonomousMode6
  | 7 => autonomousMode7
  | 8 => autonomousMode8
  | 9 => autonomousMode9
  | _ => []

def vexAutonomous (mode : LcdMode) : List AutonomousStatement :=
  systemLockAll ++ autonomousMode mode ++ systemLockAll

/-- What a routine leaves each system with: two of them go on. -/
def endCmd (mode : LcdMode) (system : RobotSystem) : Int :=
  if mode = 4 ∨ mode = 5 then
    match system with
    | .intake => 127
    | .lift => 127
    | .setter => -30
    | _ => 0
  else 0

theorem lock_notMem_autonomousMode (mode : LcdMode) (system : RobotSystem) :
    .lock system ∉ autonomousMode mode := by
  unfold autonomousMode
  split
  case h_11 => exact List.not_mem_nil
  all_goals cases system <;> decide

def Motors.Commanded (m : Motors) (motor : Fin kVexMotorNum) (cmd : Int) : Prop :=
  m.motorCmd motor = cmd ∧ m.value motor = cmd

theorem Motors.Commanded.of_cell {m m' : Motors} {motor : Fin kVexMotorNum} {cmd : Int}
    (h : m.Commanded motor cmd) (hcell : m'.cell = m.cell) : m'.Commanded motor cmd :=
  ⟨(congrFun hcell (.inl motor)).trans h.1, (congrFun hcell (.inr motor)).trans h.2⟩

theorem setMotor_commanded {cmd : Int} (hle : cmd.natAbs ≤ 127)
    (hdead : cmd = 0 ∨ smlibMotorDeadband ≤ cmd.natAbs) (motor : Fin kVexMotorNum) (m : Motors) :
    (setMotor motor cmd true m).Commanded motor cmd := by
  have hmax : ¬ cmd > 127 := by omega
  have hmin : ¬ cmd < -127 := by omega
  constructor
  · simp only [setMotor, Function.update_self]
    rw [if_neg hmax, if_neg hmin]
    rcases hdead with rfl | hdead
    · rfl
    · exact if_pos hdead
  · simp only [setMotor, if_true, Function.update_self]
    rw [limitMotor, if_neg hmax, if_neg hmin]

theorem MotorCall.foldl_commanded {calls : List MotorCall} {m : Motors} {motor : Fin kVexMotorNum}
    {cmd : Int} (h : m.Commanded motor cmd) (hne : ∀ call ∈ calls, motor ≠ call.index) :
    (calls.foldl make m).Commanded motor cmd := by
  induction calls generalizing m with
  | nil => exact h
  | cons call calls ih =>
    obtain ⟨hhead, htail⟩ := List.forall_mem_cons.mp hne
    refine ih ⟨(Function.update_of_ne hhead ..).trans h.1, ?_⟩ htail
    simp only [make, setMotor]
    split
    · exact (Function.update_of_ne hhead ..).trans h.2
    · exact h.2

namespace Move

def system : Move → RobotSystem
  | .arm .. => RobotSystem.arm
  | .drive .. => RobotSystem.drive
  | .intake .. => RobotSystem.intake
  | .flipper .. => RobotSystem.flipper
  | .lift .. => RobotSystem.lift
  | .setter .. => RobotSystem.setter

def settlesAt (cmd : Int) (immediate : Bool) : Option Int :=
  if immediate ∧ cmd.natAbs ≤ 127 ∧ (cmd = 0 ∨ smlibMotorDeadband ≤ cmd.natAbs) then some cmd
  else none

def settles : Move → Option Int
  | .drive x y immediate => if x = 0 ∧ y = 0 ∧ immediate then some 0 else none
  | .arm cmd immediate | .intake cmd immediate | .flipper cmd immediate | .lift cmd immediate
  | .setter cmd immediate => settlesAt cmd immediate

theorem setMotor_settlesAt {cmd v : Int} {immediate : Bool} (h : settlesAt cmd immediate = some v)
    (motor : Fin kVexMotorNum) (m : Motors) :
    (setMotor motor cmd immediate m).Commanded motor v := by
  rw [settlesAt] at h
  split at h
  next hcmd =>
    obtain ⟨rfl, hle, hdead⟩ := hcmd
    obtain rfl := Option.some.inj h
    exact setMotor_commanded hle hdead motor m
  next => exact absurd h.symm (Option.some_ne_none v)

theorem run_settles {move : Move} {v : Int} (h : move.settles = some v) (r : RobotMotors)
    (m : Motors) : ∀ motor ∈ r.motors move.system, (move.run r m).Commanded motor v := by
  cases move with
  | drive x y immediate =>
    simp only [settles] at h
    split at h
    next hzero =>
      obtain ⟨rfl, rfl, rfl⟩ := hzero
      obtain rfl := Option.some.inj h
      exact fun motor hmotor => Motors.stopped_foldl (.inr hmotor)
    next => exact absurd h.symm (Option.some_ne_none v)
  | arm cmd immediate | intake cmd immediate | flipper cmd immediate | lift cmd immediate
  | setter cmd immediate =>
    refine List.forall_mem_singleton.mpr ?_
    exact setMotor_settlesAt h _ m

theorem index_mem {move : Move} {r : RobotMotors} {call : MotorCall} (h : call ∈ move.calls r) :
    call.index ∈ r.motors move.system := by
  cases move with
  | drive x y immediate =>
    simp only [calls, List.mem_cons, List.not_mem_nil, or_false] at h
    rcases h with rfl | rfl | rfl | rfl <;> simp [system, RobotMotors.motors]
  | arm cmd immediate | intake cmd immediate | flipper cmd immediate | lift cmd immediate
  | setter cmd immediate =>
    obtain rfl := List.mem_singleton.mp h
    exact List.mem_cons_self

end Move

abbrev Known := RobotSystem → Option Int

def Known.after (known : Known) (move : Move) : Known :=
  Function.update known move.system move.settles

def AutonomousStatement.known (known : Known) : AutonomousStatement → Known
  | .timerRun _ code => code.foldl Known.after known
  | .lock _ | .unlock _ => known

def Known.Of (known : Known) (r : RobotMotors) (m : Motors) : Prop :=
  ∀ system cmd, known system = some cmd → ∀ motor ∈ r.motors system, m.Commanded motor cmd

namespace Known.Of

variable {known : Known} {r : RobotSetup} {m : Motors}

theorem move (h : known.Of r.toRobotMotors m) (move : Move) :
    (known.after move).Of r.toRobotMotors (move.run r.toRobotMotors m) := by
  intro system cmd hcmd motor hmotor
  by_cases heq : system = move.system
  · subst heq
    rw [Known.after, Function.update_self] at hcmd
    exact Move.run_settles hcmd _ m motor hmotor
  · rw [Known.after, Function.update_of_ne heq] at hcmd
    rw [Move.run_eq]
    refine MotorCall.foldl_commanded (h system cmd hcmd motor hmotor) fun call hcall hindex => ?_
    exact heq (r.disjoint system move.system motor hmotor (hindex ▸ Move.index_mem hcall))

theorem statement (h : known.Of r.toRobotMotors m) (statement : AutonomousStatement) :
    (statement.known known).Of r.toRobotMotors (statement.once r.toRobotMotors m) := by
  cases statement with
  | lock system | unlock system => exact h
  | timerRun target code =>
    simp only [AutonomousStatement.known, AutonomousStatement.once]
    induction code generalizing known m with
    | nil => exact h
    | cons move code ih => exact ih (h.move move)

theorem straight (h : known.Of r.toRobotMotors m) (program : List AutonomousStatement) :
    (program.foldl AutonomousStatement.known known).Of r.toRobotMotors
      (straight r.toRobotMotors program m) := by
  induction program generalizing known m with
  | nil => exact h
  | cons statement program ih => exact ih (h.statement statement)

end Known.Of

def AutonomousStatement.stopsAll : AutonomousStatement → Bool
  | .timerRun _ code => code = stopMoves robotAll
  | .lock _ | .unlock _ => false

/-- After every statement that stops all systems the rest of a routine leaves the same commands. -/
theorem known_autonomousMode (mode : LcdMode) : ∀ todo ∈ (autonomousMode mode).tails,
    todo.head?.any AutonomousStatement.stopsAll = true → ∀ system ∈ RobotSystem.all,
      todo.foldl AutonomousStatement.known (fun _ => none) system = some (endCmd mode system) := by
  unfold autonomousMode
  split
  case h_11 => simp
  all_goals decide +kernel

theorem straight_append (r : RobotMotors) (program program' : List AutonomousStatement)
    (m : Motors) : straight r (program ++ program') m = straight r program' (straight r program m) :=
  List.foldl_append

theorem straight_autonomousMode (r : RobotSetup) {mode : LcdMode}
    {todo : List AutonomousStatement} (hsuffix : todo <:+ autonomousMode mode)
    (hstop : ∃ timeout, .stopMovementOf robotAll timeout ∈ todo) (m : Motors)
    (system : RobotSystem) : ∀ motor ∈ r.motors system,
      (straight r.toRobotMotors todo m).Commanded motor (endCmd mode system) := by
  obtain ⟨timeout, hmem⟩ := hstop
  obtain ⟨before, after, rfl⟩ := List.append_of_mem hmem
  have hafter := (List.suffix_append before _).trans hsuffix
  have hknown := known_autonomousMode mode _ ((List.mem_tails _ _).mpr hafter)
    (by simp [AutonomousStatement.stopsAll, AutonomousStatement.stopMovementOf]) system
    system.mem_all
  have hnone : Known.Of (fun _ => none) r.toRobotMotors (straight r.toRobotMotors before m) :=
    fun _ cmd hcmd => absurd hcmd.symm (Option.some_ne_none cmd)
  rw [straight_append]
  exact hnone.straight _ system _ hknown

/-- A routine leaves the motors of every system as it says, whatever came before, however often its
loops turn and whatever the operator does: from when the threads have come round after the unlocking
and all systems have still to be stopped once, until the systems are locked again. -/
theorem autonomousMode_ends (r : RobotSetup) {s : Threads} {mode : LcdMode}
    {todo : List AutonomousStatement} (hdown : ∀ system, s.locked system = false)
    (hquiet : ∀ system, s.pending system = []) (hphase : s.auton.phase = .ready)
    (hprogram : s.auton.program = todo ++ systemLockAll) (hsuffix : todo <:+ autonomousMode mode)
    (hstop : ∃ timeout, .stopMovementOf robotAll timeout ∈ todo) (actions : List ThreadAction)
    (hwrap : Lib.Along (fun s action => s.noWrap action) (Threads.step r.toRobotMotors) s actions)
    (hend : (actions.foldl (Threads.step r.toRobotMotors) s).auton.program = systemLockAll) :
    ∀ system, ∀ motor ∈ r.motors system,
      (actions.foldl (Threads.step r.toRobotMotors) s).motors.Commanded motor
        (endCmd mode system) := by
  intro system motor hmotor
  have hlocks : ∀ system, .lock system ∉ todo := fun system hmem =>
    lock_notMem_autonomousMode mode system (hsuffix.subset hmem)
  exact (straight_autonomousMode r hsuffix hstop s.motors system motor hmotor).of_cell
    (Threads.cell_of_end r.toRobotMotors hdown hquiet hphase hprogram hlocks actions hwrap hend)

theorem autonomousMode_ends_intake :
    let todo := (autonomousMode 4).drop 10
    let s : Threads := ⟨fun _ => false, fun _ => [], ⟨⟨0, 0⟩, .ready, todo ++ systemLockAll⟩,
      ⟨fun _ => 90, fun _ => 90, []⟩, []⟩
    let actions : List ThreadAction :=
      .decide .arm default :: .move .arm ::
        (List.range 143).map fun turn => .auton (UInt32.ofNat (3000 * turn))
    ∀ motor ∈ vexUserSetup.motors .intake,
      (actions.foldl (Threads.step vexUserMotors) s).motors.Commanded motor 127 := by
  intro todo s actions
  exact autonomousMode_ends vexUserSetup (fun _ => rfl) (fun _ => rfl) rfl rfl
    (List.drop_suffix 10 (autonomousMode 4)) ⟨75, by decide +kernel +revert⟩ actions
    (by decide +kernel +revert) (by decide +kernel +revert) .intake

end TurningPoint
