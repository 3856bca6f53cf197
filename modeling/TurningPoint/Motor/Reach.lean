import TurningPoint.Motor.Slew

namespace TurningPoint

namespace SmartMotors

variable {s : SmartMotors} {i : Fin kVexMotorNum}

/-- The slew rate task, which goes on after the other threads have been stopped, takes every motor
back from rest to the command it had. -/
theorem stopAll_undone (reversed : Fin kVexMotorNum → Bool) (before after : List MotorAction)
    (hcommands : ∀ action ∈ after, ¬ action.Commands i)
    (hlimit : Lib.Along (Unlimited i) step ((before.foldl step (init reversed)).step .stopAll) after)
    (hturns : 13 ≤ after.count (.slew i)) :
    let s := before.foldl step (init reversed)
    (s.step .stopAll).value i = 0 ∧ (after.foldl step (s.step .stopAll)).value i = s.motorCmd i := by
  intro s
  have hcommanded : s.Commanded := Commanded.run reversed before
  have hstop : s.step .stopAll = { s with value := fun _ => 0 } := s.vexMotorStopAll_eq
  have hdist := (turns_dist (hcommanded.step .stopAll) hcommands hlimit).2
  have hcmd := hcommanded.motorCmd i
  rw [hstop] at hdist ⊢
  dsimp only at hdist ⊢
  exact ⟨rfl, by omega⟩

theorem stopAll_undone_lift :
    let s := [.set 5 127 true].foldl step (init fun _ => false)
    (s.step .stopAll).value 5 = 0 ∧
      ((List.replicate 13 (.slew 5)).foldl step (s.step .stopAll)).value 5 = s.motorCmd 5 :=
  stopAll_undone (fun _ => false) [.set 5 127 true] (List.replicate 13 (.slew 5))
    (by simp [MotorAction.Commands]) (by decide) (by decide)

theorem step_reversed (s : SmartMotors) (action : MotorAction) :
    (s.step action).reversed = s.reversed := by
  cases action with
  | stopAll => rw [step, vexMotorStopAll_eq]
  | slew j =>
    unfold step slewTurn
    simp only
    split <;> rfl
  | _ => rfl

theorem run_reversed (s : SmartMotors) (actions : List MotorAction) :
    (actions.foldl step s).reversed = s.reversed :=
  List.foldlRecOn (motive := fun t : SmartMotors => t.reversed = s.reversed) actions step rfl
    fun t h action _ => (step_reversed t action).trans h

theorem step_timer (s : SmartMotors) {action : MotorAction} (h : action ≠ .interrupt) :
    (s.step action).timer = s.timer := by
  cases action with
  | stopAll => rw [step, vexMotorStopAll_eq]
  | slew j =>
    unfold step slewTurn
    simp only
    split <;> rfl
  | interrupt => exact absurd rfl h
  | _ => rfl

structure Arrived (i : Fin kVexMotorNum) (cmd : Int) (s : SmartMotors) : Prop
    extends s.Commanded where
  cmd_eq : s.motorCmd i = cmd
  value_eq : s.value i = cmd

theorem Arrived.step {cmd : Int} (h : s.Arrived i cmd) {action : MotorAction}
    (hcommands : ¬ action.Commands i) (hlimit : s.Unlimited i action) :
    (s.step action).Arrived i cmd where
  toCommanded := h.toCommanded.step action
  cmd_eq := (step_motorCmd s hcommands).trans h.cmd_eq
  value_eq := by
    by_cases hslew : action = .slew i
    · have hreq := hlimit hslew
      subst hslew
      have hturn := h.toCommanded.slewTurn_value i
      have hdist :=
        slewValue_dist (by decide : 0 ≤ smlibMotorDefaultSlewRate) (s.value i) (s.request i)
      have hvalue := h.value_eq
      have hcmd := h.cmd_eq
      rw [SmartMotors.step]
      omega
    · exact (step_value s hcommands hslew).trans h.value_eq

theorem Arrived.newValue_step {cmd : Int} (h : s.Arrived i cmd) {action : MotorAction}
    (hcommands : ¬ action.Commands i) (hlimit : s.Unlimited i action) :
    (s.step action).newValue i = s.newValue i := by
  rw [newValue, newValue, step_reversed, (h.step hcommands hlimit).value_eq, h.value_eq]

theorem Arrived.interrupts {port : PwmPort} {cmd : Int} (h : s.Arrived port.motor cmd)
    {after : List MotorAction} (hcommands : ∀ action ∈ after, ¬ action.Commands port.motor)
    (hlimit : Lib.Along (Unlimited port.motor) SmartMotors.step s after) :
    ((after.foldl SmartMotors.step s).timer.motor port).curValue =
      (towards · (s.newValue port.motor))^[after.count .interrupt]
        (s.timer.motor port).curValue := by
  induction after generalizing s with
  | nil => rfl
  | cons action after ih =>
    obtain ⟨hhead, htail⟩ := List.forall_mem_cons.mp hcommands
    rw [List.foldl_cons, ih (h.step hhead hlimit.1) htail hlimit.2, h.newValue_step hhead hlimit.1,
      List.count_cons]
    by_cases hinterrupt : action = .interrupt
    · subst hinterrupt
      rw [beq_self_eq_true, if_pos rfl, Function.iterate_succ_apply]
      exact congrArg _ (h.toDriven.interrupt.value port).2
    · rw [step_timer s hinterrupt, beq_false_of_ne hinterrupt]
      rfl

theorem iterate_towards {n : Nat} (hn : 2 ≤ n) (value newValue : Int) :
    (towards · newValue)^[n] value = newValue := by
  obtain ⟨n, rfl⟩ := Nat.exists_eq_add_of_le' hn
  rw [Function.iterate_add_apply]
  have htwo : (towards · newValue)^[2] value = newValue := towards_towards value newValue
  have hstay : towards newValue newValue = newValue := if_neg (mul_self_nonneg newValue).not_gt
  rw [htwo]
  exact Function.iterate_fixed (f := (towards · newValue)) hstay n

def command (value : Int) : Int :=
  if value > smlibMotorMaxCmd then smlibMotorMaxCmd
  else if value < smlibMotorMinCmd then smlibMotorMinCmd
  else if value.natAbs ≥ smlibMotorDeadband then value
  else 0

theorem motorCmd_set (s : SmartMotors) (i : Fin kVexMotorNum) (value : Int) (immediate : Bool) :
    (s.step (.set i value immediate)).motorCmd i = command value := by
  simp [SmartMotors.step, setMotor, command]

/-- After a command, 26 turns of the slew rate task and then two interrupts, in whatever order with
what is done to other motors, set the registers and pins of the bridge to the command. -/
theorem command_reaches_bridge (reversed : Fin kVexMotorNum → Bool)
    (before turns interrupts : List MotorAction) (port : PwmPort) (value : Int) (immediate : Bool)
    (hcommands : ∀ action ∈ turns ++ interrupts, ¬ action.Commands port.motor)
    (hlimit : Lib.Along (Unlimited port.motor) step
      ((before.foldl step (init reversed)).step (.set port.motor value immediate))
      (turns ++ interrupts))
    (hturns : 26 ≤ turns.count (.slew port.motor)) (hinterrupts : 2 ≤ interrupts.count .interrupt) :
    let s := (before.foldl step (init reversed)).step (.set port.motor value immediate)
    (((turns ++ interrupts).foldl step s).timer.motor port).bridge =
      .ofValue (if reversed port.motor then -command value else command value) := by
  intro s
  have hs : s.Commanded := (Commanded.run reversed before).step _
  have hreversed : s.reversed = reversed :=
    (step_reversed _ _).trans (run_reversed (init reversed) before)
  have hcmd : s.motorCmd port.motor = command value := motorCmd_set ..
  obtain ⟨hcommands, hcommands'⟩ := List.forall_mem_append.mp hcommands
  obtain ⟨hlimit, hlimit'⟩ := Lib.Along.append.mp hlimit
  obtain ⟨hcmd', hdist⟩ := turns_dist hs hcommands hlimit
  have ht : (turns.foldl step s).Commanded :=
    List.foldlRecOn turns step hs fun _ h action _ => h.step action
  have harrived : (turns.foldl step s).Arrived port.motor (command value) := by
    have hvalue := hs.value port.motor
    have hbound := hs.motorCmd port.motor
    exact ⟨ht, hcmd'.trans hcmd, by omega⟩
  have hfinal : (interrupts.foldl step (turns.foldl step s)).Commanded :=
    List.foldlRecOn interrupts step ht fun _ h action _ => h.step action
  rw [List.foldl_append, (hfinal.timer port).bridge, harrived.interrupts hcommands' hlimit',
    iterate_towards hinterrupts, newValue, run_reversed, hreversed, harrived.value_eq]

theorem command_reaches_bridge_reversed :
    let s := (init fun i => i = 0).step (.set 0 120 false)
    let turns : List MotorAction := List.replicate 26 (.slew 0)
    let interrupts : List MotorAction := [.interrupt, .set 3 50 true, .interrupt]
    (((turns ++ interrupts).foldl step s).timer.motor .t0).bridge =
      .ofValue (if decide ((0 : Fin kVexMotorNum) = 0) then -command 120 else command 120) :=
  command_reaches_bridge (fun i => i = 0) [] (List.replicate 26 (.slew 0))
    [.interrupt, .set 3 50 true, .interrupt] .t0 120 false
    (by simp [MotorAction.Commands, PwmPort.motor]) (by decide) (by decide) (by decide)

end SmartMotors

end TurningPoint
