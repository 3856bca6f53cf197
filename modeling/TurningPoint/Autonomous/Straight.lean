import TurningPoint.Autonomous.Threads
import TurningPoint.Lib.Run

namespace TurningPoint

def Motors.cell (m : Motors) : Fin kVexMotorNum ⊕ Fin kVexMotorNum → Int :=
  Sum.elim m.motorCmd m.value

namespace MotorCall

def writes (call : MotorCall) : List ((Fin kVexMotorNum ⊕ Fin kVexMotorNum) × Int) :=
  (.inl call.index,
    if call.value > smlibMotorMaxCmd then smlibMotorMaxCmd
    else if call.value < smlibMotorMinCmd then smlibMotorMinCmd
    else if call.value.natAbs ≥ smlibMotorDeadband then call.value
    else 0) ::
  if call.immediate then [(.inr call.index, limitMotor call.value)] else []

theorem cell_make (call : MotorCall) (m : Motors) :
    (call.make m).cell = Lib.assign call.writes m.cell := by
  cases h : call.immediate <;>
    simp only [make, setMotor, writes, Motors.cell, h, if_true, Bool.false_eq_true, if_false,
      Lib.assign, Sum.update_elim_inl, Sum.update_elim_inr]

theorem cell_foldl (calls : List MotorCall) (m : Motors) :
    (calls.foldl make m).cell = Lib.assign (calls.flatMap writes) m.cell := by
  induction calls generalizing m with
  | nil => rfl
  | cons call calls ih =>
    rw [List.foldl_cons, ih, cell_make, List.flatMap_cons, Lib.assign_append]

end MotorCall

def codeCalls (r : RobotMotors) (code : List Move) : List MotorCall := code.flatMap (·.calls r)

namespace AutonomousStatement

variable (r : RobotMotors)

def once : AutonomousStatement → Motors → Motors
  | .timerRun _ code => fun m => code.foldl (fun m move => move.run r m) m
  | .lock _ | .unlock _ => id

def writes : AutonomousStatement → List ((Fin kVexMotorNum ⊕ Fin kVexMotorNum) × Int)
  | .timerRun _ code => (codeCalls r code).flatMap MotorCall.writes
  | .lock _ | .unlock _ => []

theorem cell_once (statement : AutonomousStatement) (m : Motors) :
    (statement.once r m).cell = Lib.assign (statement.writes r) m.cell := by
  cases statement with
  | lock system | unlock system => rfl
  | timerRun target code =>
    rw [writes, ← MotorCall.cell_foldl, codeCalls, List.foldl_flatMap]
    simp only [once, Move.run_eq]

end AutonomousStatement

def straight (r : RobotMotors) (program : List AutonomousStatement) (m : Motors) : Motors :=
  program.foldl (fun m statement => statement.once r m) m

theorem cell_straight (r : RobotMotors) (program : List AutonomousStatement) (m : Motors) :
    (straight r program m).cell = Lib.assign (program.flatMap (·.writes r)) m.cell := by
  induction program generalizing m with
  | nil => rfl
  | cons statement program ih =>
    rw [List.flatMap_cons, Lib.assign_append, ← statement.cell_once]
    exact ih _

def systemLockAll : List AutonomousStatement := RobotSystem.all.map .lock
def systemUnlockAll : List AutonomousStatement := RobotSystem.all.map .unlock

namespace Threads

/-- A loop that begins has a deadline that the counter has not gone round to. -/
def noWrap (s : Threads) : ThreadAction → Bool
  | .auton now =>
    match s.auton.phase, s.auton.program with
    | .ready, .timerRun target _ :: _ => now ≤ now + target
    | _, _ => true
  | _ => true

def Phased (r : RobotMotors) (s : Threads) (todo : List AutonomousStatement) : Prop :=
  match s.auton.phase with
  | .ready => True
  | .testing => ∃ target code rest, todo = .timerRun target code :: rest ∧
      (timerIsActive s.auton.timer = true ∨
        Lib.assign ((codeCalls r code).flatMap MotorCall.writes) s.motors.cell = s.motors.cell)
  | .turning calls => ∃ target code rest, todo = .timerRun target code :: rest ∧
      ∃ made f, codeCalls r code = made ++ calls ∧
        Lib.assign (made.flatMap MotorCall.writes) f = s.motors.cell

/-- The systems are unlocked and their threads quiet, and the statements to do lead to where they
led at the start. -/
structure Underway (r : RobotMotors) (goal : Fin kVexMotorNum ⊕ Fin kVexMotorNum → Int)
    (s : Threads) (todo : List AutonomousStatement) : Prop where
  down : ∀ system, s.locked system = false
  quiet : ∀ system, s.pending system = []
  program : s.auton.program = todo ++ systemLockAll
  locks : ∀ system, .lock system ∉ todo
  phased : s.Phased r todo
  goal : Lib.assign (todo.flatMap (·.writes r)) s.motors.cell = goal

namespace Underway

variable {r : RobotMotors} {goal : Fin kVexMotorNum ⊕ Fin kVexMotorNum → Int} {s : Threads}
  {todo : List AutonomousStatement}

theorem decide_eq (h : s.Underway r goal todo) (system : RobotSystem) (c : Controls) :
    s.decide r system c = s := by
  rw [decide, if_neg]
  simp [h.down system]

theorem move_eq (h : s.Underway r goal todo) (system : RobotSystem) : s.move system = s := by
  rw [move, h.quiet system]

theorem make {target : UInt32} {code : List Move} {rest : List AutonomousStatement}
    (h : s.Underway r goal (.timerRun target code :: rest)) {call : MotorCall}
    (hcall : call ∈ codeCalls r code) :
    Lib.assign ((AutonomousStatement.timerRun target code :: rest).flatMap (·.writes r))
      (call.make s.motors).cell = goal := by
  have hcells : call.writes.map Prod.fst ⊆
      ((codeCalls r code).flatMap MotorCall.writes).map Prod.fst :=
    List.map_subset _ fun w hw => List.mem_flatMap.mpr ⟨call, hcall, hw⟩
  have hgoal := h.goal
  rw [List.flatMap_cons, Lib.assign_append, AutonomousStatement.writes] at hgoal ⊢
  rw [MotorCall.cell_make, Lib.assign_assign hcells, hgoal]

theorem ready (h : s.Underway r goal todo) (hphase : s.auton.phase = .ready) {now : UInt32}
    (hwrap : s.noWrap (.auton now)) :
    (∃ todo', (s.autonStep r now).Underway r goal todo') ∨
      (s.autonStep r now).auton.program.length < systemLockAll.length := by
  have hprogram := h.program
  rcases todo with - | ⟨⟨system⟩ | ⟨system⟩ | ⟨target, code⟩, rest⟩
  · -- The first of the last locks.
    right
    rw [autonStep_lock hphase hprogram]
    exact Nat.lt_succ_self _
  · exact absurd List.mem_cons_self (h.locks system)
  · left
    rw [autonStep_unlock hphase hprogram]
    refine ⟨rest, { h with down := fun other => ?_, program := rfl, locks := ?_, phased := ?_ }⟩
    · rcases eq_or_ne other system with rfl | hne
      · exact Function.update_self ..
      · exact (Function.update_of_ne hne ..).trans (h.down other)
    · exact fun other hmem => h.locks other (List.mem_cons_of_mem _ hmem)
    · simp only [Phased, hphase]
  · left
    rw [List.cons_append] at hprogram
    rw [noWrap, hphase, hprogram] at hwrap
    rw [autonStep_begin hphase hprogram]
    exact ⟨_, { h with phased := ⟨target, code, rest, rfl, .inl hwrap⟩ }⟩

theorem test (h : s.Underway r goal todo) (hphase : s.auton.phase = .testing) (now : UInt32) :
    ∃ todo', (s.autonStep r now).Underway r goal todo' := by
  have hphased := h.phased
  rw [Phased, hphase] at hphased
  obtain ⟨target, code, rest, rfl, hlast⟩ := hphased
  rw [autonStep_test hphase h.program]
  split
  case isTrue =>
    exact ⟨_, { h with phased := ⟨target, code, rest, rfl, [], s.motors.cell, rfl, rfl⟩ }⟩
  case isFalse hactive =>
    have hfixed := hlast.resolve_left hactive
    refine ⟨rest, { h with program := rfl, locks := ?_, phased := trivial, goal := ?_ }⟩
    · exact fun other hmem => h.locks other (List.mem_cons_of_mem _ hmem)
    · have hgoal := h.goal
      rwa [List.flatMap_cons, Lib.assign_append, AutonomousStatement.writes, hfixed] at hgoal

theorem tick (h : s.Underway r goal todo) (hphase : s.auton.phase = .turning []) (now : UInt32) :
    ∃ todo', (s.autonStep r now).Underway r goal todo' := by
  have hphased := h.phased
  rw [Phased, hphase] at hphased
  obtain ⟨target, code, rest, rfl, made, f, hmade, hcell⟩ := hphased
  rw [List.append_nil] at hmade
  rw [autonStep_tick hphase]
  refine ⟨_, { h with phased := ⟨target, code, rest, rfl, .inr ?_⟩ }⟩
  simp only [← hcell, hmade]
  exact Lib.assign_assign (List.Subset.refl _) f

theorem call {call : MotorCall} {calls : List MotorCall} (h : s.Underway r goal todo)
    (hphase : s.auton.phase = .turning (call :: calls)) (now : UInt32) :
    ∃ todo', (s.autonStep r now).Underway r goal todo' := by
  have hphased := h.phased
  rw [Phased, hphase] at hphased
  obtain ⟨target, code, rest, rfl, made, f, hmade, hcell⟩ := hphased
  have hcall : call ∈ codeCalls r code := hmade ▸ List.mem_append_right _ List.mem_cons_self
  rw [autonStep_call hphase]
  refine ⟨_, { h with
    phased := ⟨target, code, rest, rfl, made ++ [call], f, ?_, ?_⟩, goal := h.make hcall }⟩
  · rw [hmade, List.append_assoc, List.singleton_append]
  · rw [List.flatMap_append, Lib.assign_append, hcell, List.flatMap_singleton]
    exact (call.cell_make s.motors).symm

theorem autonStep (h : s.Underway r goal todo) {now : UInt32} (hwrap : s.noWrap (.auton now)) :
    (∃ todo', (s.autonStep r now).Underway r goal todo') ∨
      (s.autonStep r now).auton.program.length < systemLockAll.length := by
  rcases hphase : s.auton.phase with - | - | ⟨- | ⟨call, calls⟩⟩
  case ready => exact h.ready hphase hwrap
  case testing => exact .inl (h.test hphase now)
  case turning.nil => exact .inl (h.tick hphase now)
  case turning.cons => exact .inl (h.call hphase now)

theorem step (h : s.Underway r goal todo) {action : ThreadAction} (hwrap : s.noWrap action) :
    (∃ todo', (s.step r action).Underway r goal todo') ∨
      (s.step r action).auton.program.length < systemLockAll.length := by
  cases action with
  | auton now => exact h.autonStep hwrap
  | decide system c =>
    rw [Threads.step, h.decide_eq]
    exact .inl ⟨todo, h⟩
  | move system =>
    rw [Threads.step, h.move_eq]
    exact .inl ⟨todo, h⟩

end Underway

theorem step_program_le (r : RobotMotors) (s : Threads) (action : ThreadAction) :
    (s.step r action).auton.program.length ≤ s.auton.program.length := by
  cases action with
  | auton now =>
    rw [step, autonStep]
    split <;> try split
    all_goals simp_all [call]
  | decide system c =>
    rw [step, decide]
    split <;> rfl
  | move system =>
    rw [step, move]
    split <;> rfl

end Threads

theorem Threads.cell_of_end (r : RobotMotors) {s : Threads} {todo : List AutonomousStatement}
    (hdown : ∀ system, s.locked system = false) (hquiet : ∀ system, s.pending system = [])
    (hphase : s.auton.phase = .ready) (hprogram : s.auton.program = todo ++ systemLockAll)
    (hlocks : ∀ system, .lock system ∉ todo) (actions : List ThreadAction)
    (hwrap : Lib.Along (fun s action => s.noWrap action) (Threads.step r) s actions)
    (hend : (actions.foldl (Threads.step r) s).auton.program = systemLockAll) :
    (actions.foldl (Threads.step r) s).motors.cell = (straight r todo s.motors).cell := by
  have hstart : s.Underway r (straight r todo s.motors).cell todo := by
    refine ⟨hdown, hquiet, hprogram, hlocks, ?_, (cell_straight r todo s.motors).symm⟩
    rw [Threads.Phased, hphase]
    trivial
  have hstep : ∀ (s' : Threads) action,
      (∃ todo', s'.Underway r (straight r todo s.motors).cell todo') ∨
        s'.auton.program.length < systemLockAll.length → s'.noWrap action →
      (∃ todo', (s'.step r action).Underway r (straight r todo s.motors).cell todo') ∨
        (s'.step r action).auton.program.length < systemLockAll.length := by
    rintro s' action (⟨todo', h⟩ | hlt) hwrap
    · exact h.step hwrap
    · exact .inr ((s'.step_program_le r action).trans_lt hlt)
  rcases Lib.Along.invariant hstep hwrap (.inl ⟨todo, hstart⟩) with ⟨todo', h⟩ | hlt
  · have hnil : todo' = [] := List.append_left_eq_self.mp (h.program.symm.trans hend)
    have hgoal := h.goal
    rwa [hnil] at hgoal
  · rw [hend] at hlt
    exact absurd hlt (Nat.lt_irrefl _)

/-- From where the systems are unlocked and their threads have come round, until the autonomous
thread locks them again, the motors end as the statements between say, each loop turning once. -/
theorem autonomous_straight (r : RobotMotors) {s : Threads} {todo : List AutonomousStatement}
    (hdown : ∀ system, s.locked system = false) (hquiet : ∀ system, s.pending system = [])
    (hphase : s.auton.phase = .ready) (hprogram : s.auton.program = todo ++ systemLockAll)
    (hlocks : ∀ system, .lock system ∉ todo) (actions : List ThreadAction)
    (hwrap : Lib.Along (fun s action => s.noWrap action) (Threads.step r) s actions)
    (hend : (actions.foldl (Threads.step r) s).auton.program = systemLockAll) :
    (actions.foldl (Threads.step r) s).motors.motorCmd = (straight r todo s.motors).motorCmd ∧
      (actions.foldl (Threads.step r) s).motors.value = (straight r todo s.motors).value := by
  have hcell := Threads.cell_of_end r hdown hquiet hphase hprogram hlocks actions hwrap hend
  exact ⟨funext fun motor => congrFun hcell (.inl motor),
    funext fun motor => congrFun hcell (.inr motor)⟩

theorem autonomous_straight_lift :
    let s : Threads := ⟨fun _ => false, fun _ => [],
      ⟨⟨0, 0⟩, .ready, [.timerRun 25 [.lift 30 true]] ++ systemLockAll⟩,
      ⟨fun _ => 0, fun _ => 0, []⟩, []⟩
    let actions : List ThreadAction :=
      [.auton 0, .auton 0, .decide .lift default, .auton 0, .move .lift, .auton 50, .auton 50]
    let straight := straight vexUserMotors [.timerRun 25 [.lift 30 true]] s.motors
    (actions.foldl (Threads.step vexUserMotors) s).motors.motorCmd = straight.motorCmd ∧
      (actions.foldl (Threads.step vexUserMotors) s).motors.value = straight.value :=
  autonomous_straight vexUserMotors (fun _ => rfl) (fun _ => rfl) rfl rfl (by simp) _ (by decide)
    (by decide)

end TurningPoint
