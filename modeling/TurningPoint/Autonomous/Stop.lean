import TurningPoint.Autonomous.Defs

namespace TurningPoint

def robotFlags (S : Finset RobotSystem) : UInt32 :=
  (RobotSystem.all.filter (· ∈ S)).foldr (fun system flags => system.flag ||| flags) 0

namespace RobotSystem

theorem mem_all (system : RobotSystem) : system ∈ all := by cases system <;> decide

theorem flag_and_flag_ne_zero {a b : RobotSystem} : a.flag &&& b.flag ≠ 0 ↔
    a = b ∨ a = flipper ∧ (b = drive ∨ b = intake) ∨ b = flipper ∧ (a = drive ∨ a = intake) := by
  cases a <;> cases b <;> decide

end RobotSystem

theorem or_and_ne_zero {a b f : UInt32} : (a ||| b) &&& f ≠ 0 ↔ a &&& f ≠ 0 ∨ b &&& f ≠ 0 := by
  have hor : (a ||| b) &&& f = a &&& f ||| b &&& f := by
    rw [← UInt32.toNat_inj]
    simp only [UInt32.toNat_and, UInt32.toNat_or, Nat.and_or_distrib_right]
  rw [hor, Ne, UInt32.or_eq_zero_iff]
  tauto

theorem foldr_flags_and_ne_zero (systems : List RobotSystem) (f : UInt32) :
    systems.foldr (fun system flags => system.flag ||| flags) 0 &&& f ≠ 0 ↔
      ∃ system ∈ systems, system.flag &&& f ≠ 0 := by
  induction systems with
  | nil => simp
  | cons system systems ih =>
    simp only [List.foldr_cons, or_and_ne_zero, ih, List.mem_cons, exists_eq_or_imp]

theorem robotFlags_and_ne_zero {S : Finset RobotSystem} {f : UInt32} :
    robotFlags S &&& f ≠ 0 ↔ ∃ system ∈ S, system.flag &&& f ≠ 0 := by
  rw [robotFlags, foldr_flags_and_ne_zero]
  simp [RobotSystem.mem_all]

variable {r : RobotMotors} {robot : UInt32}

def stoppedMotors (r : RobotMotors) (robot : UInt32) : List (Fin kVexMotorNum) :=
  (RobotSystem.all.filter fun system => robot &&& system.flag ≠ 0).flatMap r.motors

theorem driveMove_zero (m : Motors) : driveMove r 0 0 true m =
    (r.motors .drive).foldl (fun m motor => setMotor motor 0 true m) m := rfl

theorem stopMovementTurn_eq (m : Motors) : stopMovementTurn r robot m =
    (stoppedMotors r robot).foldl (fun m motor => setMotor motor 0 true m) m := by
  rw [stoppedMotors, List.foldl_flatMap, List.foldl_filter]
  simp only [stopMovementTurn, driveMove_zero, decide_eq_true_eq]
  rfl

theorem mem_stoppedMotors {motor : Fin kVexMotorNum} : motor ∈ stoppedMotors r robot ↔
    ∃ system : RobotSystem, robot &&& system.flag ≠ 0 ∧ motor ∈ r.motors system := by
  simp [stoppedMotors, RobotSystem.mem_all]

theorem RobotMotors.exists_mem_motors (r : RobotMotors) (system : RobotSystem) :
    ∃ motor, motor ∈ r.motors system := by
  cases system <;> exact ⟨_, List.mem_cons_self⟩

def Motors.Stopped (m : Motors) (motor : Fin kVexMotorNum) : Prop :=
  m.motorCmd motor = 0 ∧ m.value motor = 0

theorem Motors.stopped_setMotor {m : Motors} {motor i : Fin kVexMotorNum}
    (h : m.Stopped motor ∨ motor = i) : (setMotor i 0 true m).Stopped motor := by
  by_cases heq : motor = i
  · subst heq
    exact ⟨Function.update_self .., Function.update_self ..⟩
  · have hbefore := h.resolve_right heq
    exact ⟨(Function.update_of_ne heq ..).trans hbefore.1,
      (Function.update_of_ne heq ..).trans hbefore.2⟩

theorem Motors.stopped_foldl {m : Motors} {motor : Fin kVexMotorNum}
    {motors : List (Fin kVexMotorNum)} (h : m.Stopped motor ∨ motor ∈ motors) :
    (motors.foldl (fun m motor => setMotor motor 0 true m) m).Stopped motor := by
  induction motors generalizing m with
  | nil => exact h.resolve_right (List.not_mem_nil)
  | cons i motors ih =>
    rw [List.mem_cons, ← or_assoc] at h
    exact ih (h.imp_left stopped_setMotor)

theorem Motors.calls_foldl (m : Motors) (motors : List (Fin kVexMotorNum)) :
    (motors.foldl (fun m motor => setMotor motor 0 true m) m).calls =
      m.calls ++ motors.map (·, 0) := by
  induction motors generalizing m with
  | nil => exact (List.append_nil _).symm
  | cons i motors ih => exact (ih _).trans (List.append_cons _ _ _).symm

theorem stopped_of_turns {n : Nat} (hn : 0 < n) (m : Motors) {motor : Fin kVexMotorNum}
    (h : motor ∈ stoppedMotors r robot) : ((stopMovementTurn r robot)^[n] m).Stopped motor := by
  obtain ⟨n, rfl⟩ := Nat.exists_eq_add_one.mpr hn
  rw [Function.iterate_succ_apply', stopMovementTurn_eq]
  exact Motors.stopped_foldl (.inr h)

theorem mem_calls_turns {n : Nat} {m : Motors} {call : Fin kVexMotorNum × Int} :
    call ∈ ((stopMovementTurn r robot)^[n] m).calls ↔
      call ∈ m.calls ∨ 0 < n ∧ call ∈ (stoppedMotors r robot).map (·, 0) := by
  induction n with
  | zero => simp
  | succ n ih =>
    rw [Function.iterate_succ_apply', stopMovementTurn_eq, Motors.calls_foldl, List.mem_append, ih]
    constructor
    · rintro ((h | ⟨-, h⟩) | h)
      · exact .inl h
      · exact .inr ⟨n.succ_pos, h⟩
      · exact .inr ⟨n.succ_pos, h⟩
    · rintro (h | ⟨-, h⟩)
      · exact .inl (.inl h)
      · exact .inr h

theorem mem_stoppedMotors_iff {r : RobotSetup} {system : RobotSystem} {motor : Fin kVexMotorNum}
    (h : motor ∈ r.motors system) :
    motor ∈ stoppedMotors r.toRobotMotors robot ↔ robot &&& system.flag ≠ 0 := by
  rw [mem_stoppedMotors]
  constructor
  · rintro ⟨other, hflag, hmem⟩
    rwa [r.disjoint other system motor hmem h] at hflag
  · exact fun hflag => ⟨system, hflag, h⟩

structure StopsExactly (r : RobotMotors) (S : Finset RobotSystem) (m : Motors) : Prop where
  stopped : ∀ system ∈ S, ∀ motor ∈ r.motors system, m.Stopped motor
  spared : ∀ system, system ∉ S → ∀ motor ∈ r.motors system, ∀ value, (motor, value) ∉ m.calls

theorem robotFlags_spares_iff {S : Finset RobotSystem} :
    (∀ system, system ∉ S → ¬robotFlags S &&& system.flag ≠ 0) ↔
      (.flipper ∈ S ↔ .drive ∈ S) ∧ (.flipper ∈ S ↔ .intake ∈ S) := by
  simp only [robotFlags_and_ne_zero, RobotSystem.flag_and_flag_ne_zero]
  constructor
  · intro h
    have hdrive := h .drive
    have hintake := h .intake
    have hflipper := h .flipper
    grind
  · rintro ⟨hdrive, hintake⟩ system hsystem ⟨other, hother, hshared⟩
    grind

/-- A call stops exactly the systems it names just if these are all three or none of flipper, drive
and intake. -/
theorem stopMovementOf_exact_iff (r : RobotSetup) (S : Finset RobotSystem) (timeout : UInt32)
    (now : Nat → UInt32) (fuel : Nat) (motorCmd value : Fin kVexMotorNum → Int)
    {run : TimerRun Motors} (hticks : 0 < run.ticks)
    (hrun : stopMovementOf r.toRobotMotors (robotFlags S) timeout now fuel ⟨motorCmd, value, []⟩ =
      some run) :
    StopsExactly r.toRobotMotors S run.state ↔
      (.flipper ∈ S ↔ .drive ∈ S) ∧ (.flipper ∈ S ↔ .intake ∈ S) := by
  rw [← robotFlags_spares_iff]
  have hstate := timerRun_state hrun
  constructor
  · intro h system hsystem hflag
    obtain ⟨motor, hmotor⟩ := r.exists_mem_motors system
    refine h.spared system hsystem motor hmotor 0 ?_
    rw [hstate, mem_calls_turns]
    exact .inr ⟨hticks, List.mem_map_of_mem ((mem_stoppedMotors_iff hmotor).mpr hflag)⟩
  · intro h
    constructor
    · intro system hsystem motor hmotor
      rw [hstate]
      refine stopped_of_turns hticks _ ((mem_stoppedMotors_iff hmotor).mpr ?_)
      refine robotFlags_and_ne_zero.mpr ⟨system, hsystem, ?_⟩
      exact RobotSystem.flag_and_flag_ne_zero.mpr (.inl rfl)
    · intro system hsystem motor hmotor value hcall
      rw [hstate, mem_calls_turns] at hcall
      obtain ⟨-, hmem⟩ := hcall.resolve_left List.not_mem_nil
      obtain ⟨i, hi, heq⟩ := List.mem_map.mp hmem
      obtain ⟨rfl, -⟩ := Prod.mk.inj heq
      exact h system hsystem ((mem_stoppedMotors_iff hmotor).mp hi)

def polledFrom (start : UInt32) (k : Nat) : UInt32 := start + 25 * UInt32.ofNat k

theorem stopMovementOf_arm : ∃ run,
    stopMovementOf vexUserMotors (robotFlags {.arm}) 25 (polledFrom 1000) 3
      ⟨fun _ => 90, fun _ => 90, []⟩ = some run ∧ StopsExactly vexUserMotors {.arm} run.state := by
  refine ⟨_, rfl, ?_⟩
  exact (stopMovementOf_exact_iff vexUserSetup {.arm} 25 (polledFrom 1000) 3 (fun _ => 90)
    (fun _ => 90) (by decide) rfl).mpr (by decide)

theorem stopMovementOf_drive_stops_flipper : ∃ run,
    stopMovementOf vexUserMotors (robotFlags {.drive}) 25 (polledFrom 1000) 3
        ⟨fun _ => 90, fun _ => 90, []⟩ = some run ∧
      0 < run.ticks ∧ ¬StopsExactly vexUserMotors {.drive} run.state := by
  refine ⟨_, rfl, by decide, fun h => ?_⟩
  exact h.spared .flipper (by decide) 3 (by decide) 0 (by decide)

end TurningPoint
