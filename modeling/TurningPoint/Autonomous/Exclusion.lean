import TurningPoint.Autonomous.Threads

namespace TurningPoint

namespace Threads

def madeBy (system : RobotSystem) (s : Threads) : List MotorCall :=
  (s.log.filter (·.1 = some system)).map Prod.snd

def boot (locked : RobotSystem → Bool) (program : List AutonomousStatement) (m : Motors) :
    Threads where
  locked := locked
  pending := fun _ => []
  auton := ⟨⟨0, 0⟩, .ready, program⟩
  motors := m
  log := []

variable {r : RobotMotors} {s : Threads} {system : RobotSystem}

theorem madeBy_call_self (call : MotorCall) :
    (s.call (some system) call).madeBy system = s.madeBy system ++ [call] := by
  simp [madeBy, Threads.call, List.filter_append]

theorem madeBy_call_of_ne {thread : Option RobotSystem} (hne : thread ≠ some system)
    (call : MotorCall) : (s.call thread call).madeBy system = s.madeBy system := by
  simp [madeBy, Threads.call, List.filter_append, hne]

theorem autonStep_keeps (system : RobotSystem) (now : UInt32) :
    (s.autonStep r now).pending = s.pending ∧
    (s.autonStep r now).madeBy system = s.madeBy system := by
  rw [autonStep]
  split
  case h_5 call calls _ => exact ⟨rfl, madeBy_call_of_ne (Option.some_ne_none system).symm call⟩
  case h_4 => split <;> exact ⟨rfl, rfl⟩
  all_goals exact ⟨rfl, rfl⟩

theorem decide_keeps (other : RobotSystem) (c : Controls) :
    (s.decide r other c).madeBy system = s.madeBy system := by
  rw [decide]
  split <;> rfl

theorem decide_pending (hdown : s.locked system = false) (other : RobotSystem) (c : Controls) :
    (s.decide r other c).pending system = s.pending system := by
  rw [decide]
  split
  next h =>
    refine Function.update_of_ne (fun heq => ?_) ..
    rw [← heq, hdown] at h
    exact Bool.false_ne_true h.1
  next => rfl

theorem move_owed (system other : RobotSystem) : ∃ made,
    (s.move other).madeBy system = s.madeBy system ++ made ∧
      s.pending system = made ++ (s.move other).pending system := by
  rw [move]
  split
  next call calls hpending =>
    by_cases heq : other = system
    · subst heq
      refine ⟨[call], madeBy_call_self call, ?_⟩
      simp only [hpending, Function.update_self, List.singleton_append]
    · refine ⟨[], ?_, (Function.update_of_ne (Ne.symm heq) ..).symm⟩
      rw [List.append_nil]
      exact madeBy_call_of_ne (fun h => heq (Option.some.inj h)) call
  next => exact ⟨[], (List.append_nil _).symm, rfl⟩

theorem step_owed (hdown : s.locked system = false) (action : ThreadAction) : ∃ made,
    (s.step r action).madeBy system = s.madeBy system ++ made ∧
      s.pending system = made ++ (s.step r action).pending system := by
  cases action with
  | auton now =>
    obtain ⟨hpending, hmade⟩ := s.autonStep_keeps (r := r) system now
    exact ⟨[], by rw [step, hmade, List.append_nil], by rw [step, hpending, List.nil_append]⟩
  | decide other c =>
    refine ⟨[], by rw [step, decide_keeps, List.append_nil], ?_⟩
    rw [step, decide_pending hdown, List.nil_append]
  | move other => exact move_owed system other

theorem run_owed {actions : List ThreadAction}
    (hdown : Lib.Along (fun s _ => s.locked system = false) (step r) s actions) : ∃ made,
    (actions.foldl (step r) s).madeBy system = s.madeBy system ++ made ∧
      s.pending system = made ++ (actions.foldl (step r) s).pending system := by
  induction actions generalizing s with
  | nil => exact ⟨[], (List.append_nil _).symm, rfl⟩
  | cons action actions ih =>
    obtain ⟨first, hfirst, howed⟩ := step_owed (r := r) hdown.1 action
    obtain ⟨made, hmade, hrest⟩ := ih hdown.2
    exact ⟨first ++ made, by rw [List.foldl_cons, hmade, hfirst, List.append_assoc],
      by rw [howed, hrest, List.append_assoc, List.foldl_cons]⟩

def OfTurns (r : RobotMotors) (s : Threads) : Prop :=
  ∀ system, ∃ c : Controls, s.pending system <:+ (c.turn system).calls r

theorem OfTurns.step (h : s.OfTurns r) (action : ThreadAction) : (s.step r action).OfTurns r := by
  intro system
  cases action with
  | auton now =>
    rw [Threads.step, (s.autonStep_keeps system now).1]
    exact h system
  | decide other c =>
    rw [Threads.step, decide]
    split
    · rcases eq_or_ne system other with rfl | hne
      · simp only [Function.update_self]
        exact ⟨c, List.suffix_refl _⟩
      · simp only [Function.update_of_ne hne]
        exact h system
    · exact h system
  | move other =>
    obtain ⟨made, -, howed⟩ := move_owed (s := s) system other
    obtain ⟨c, hc⟩ := h system
    exact ⟨c, (List.suffix_append made _).trans (howed ▸ hc)⟩

end Threads

/-- From when a system is unlocked until it is locked again, its thread makes no more than a part of
one turn that it had begun before, whatever the others do. -/
theorem unlocked_calls (r : RobotMotors) (system : RobotSystem) (locked : RobotSystem → Bool)
    (program : List AutonomousStatement) (m : Motors) (before after : List ThreadAction)
    (hdown : Lib.Along (fun s _ => s.locked system = false) (Threads.step r)
      (before.foldl (Threads.step r) (.boot locked program m)) after) :
    let s := before.foldl (Threads.step r) (.boot locked program m)
    ∃ (c : Controls) (made rest : List MotorCall), s.pending system <:+ (c.turn system).calls r ∧
      s.pending system = made ++ rest ∧
      ((before ++ after).foldl (Threads.step r) (.boot locked program m)).madeBy system =
        s.madeBy system ++ made := by
  intro s
  have hboot : (Threads.boot locked program m).OfTurns r := fun _ => ⟨default, List.nil_suffix⟩
  have hturns : s.OfTurns r :=
    List.foldlRecOn (motive := (·.OfTurns r)) before (Threads.step r) hboot
      fun _ h action _ => h.step action
  obtain ⟨made, hmade, howed⟩ := Threads.run_owed hdown
  obtain ⟨c, hc⟩ := hturns system
  exact ⟨c, made, _, hc, howed, by rw [List.foldl_append, hmade]⟩

theorem unlocked_calls_drive :
    let start : Threads := .boot (fun _ => true) [.unlock .drive] ⟨fun _ => 0, fun _ => 0, []⟩
    let before : List ThreadAction := [.decide .drive default, .move .drive, .auton 0]
    let after : List ThreadAction := [.move .drive, .decide .drive default, .move .drive]
    let s := before.foldl (Threads.step vexUserMotors) start
    ∃ (c : Controls) (made rest : List MotorCall),
      s.pending .drive <:+ (c.turn .drive).calls vexUserMotors ∧
      s.pending .drive = made ++ rest ∧
      ((before ++ after).foldl (Threads.step vexUserMotors) start).madeBy .drive =
        s.madeBy .drive ++ made :=
  unlocked_calls vexUserMotors .drive _ _ _ _ _ (by decide)

end TurningPoint
