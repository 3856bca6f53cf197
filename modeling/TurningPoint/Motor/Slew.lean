import TurningPoint.Motor.Bridge

namespace TurningPoint

def slewValue (rate value req : Int) : Int :=
  if req > value then min (value + rate) req else max (value - rate) req

theorem slewValue_dist {rate : Int} (hrate : 0 ≤ rate) (value req : Int) :
    (slewValue rate value req - req).natAbs = (value - req).natAbs - rate.toNat := by
  unfold slewValue
  split <;> omega

theorem slewValue_between {rate : Int} (hrate : 0 ≤ rate) (value req : Int) :
    min value req ≤ slewValue rate value req ∧ slewValue rate value req ≤ max value req := by
  unfold slewValue
  split <;> omega

theorem slewValue_eq {rate : Int} (hrate : 0 ≤ rate) (value req : Int) :
    (let motorTmp := if req > value then min (value + rate) req else value
      if req < motorTmp then max (motorTmp - rate) req else motorTmp) = slewValue rate value req := by
  unfold slewValue
  dsimp only
  split_ifs <;> omega

theorem limitMotor_of_le {value : Int} (h : value.natAbs ≤ 127) : limitMotor value = value := by
  unfold limitMotor
  rw [if_neg (by omega), if_neg (by omega)]

def MotorAction.Commands (i : Fin kVexMotorNum) : MotorAction → Prop
  | .set j _ _ => j = i
  | .direct j _ => j = i
  | .stopAll => True
  | _ => False

namespace SmartMotors

variable {s : SmartMotors} {i : Fin kVexMotorNum}

structure Commanded (s : SmartMotors) : Prop extends s.Driven where
  motorCmd : ∀ i, (s.motorCmd i).natAbs ≤ 127
  motorSlew : ∀ i, s.motorSlew i = smlibMotorDefaultSlewRate

theorem request_between (s : SmartMotors) (i : Fin kVexMotorNum) :
    min 0 (s.motorCmd i) ≤ s.request i ∧ s.request i ≤ max 0 (s.motorCmd i) := by
  unfold request
  split_ifs with hlimit habs hsign
  · rcases lt_trichotomy (s.motorCmd i) 0 with hneg | hzero | hpos
    · rw [Int.sign_eq_neg_one_of_neg hneg] at hsign
      have := Int.sign_eq_neg_one_iff_neg.mp hsign.symm
      omega
    · omega
    · rw [Int.sign_eq_one_of_pos hpos] at hsign
      have := Int.sign_eq_one_iff_pos.mp hsign.symm
      omega
  all_goals omega

theorem foldl_vexMotorSet_zero (motors : List (Fin kVexMotorNum)) (s : SmartMotors) :
    motors.foldl (fun s i => s.vexMotorSet i 0) s =
      { s with value := fun i => if i ∈ motors then 0 else s.value i } := by
  induction motors generalizing s with
  | nil => simp
  | cons j motors ih =>
    rw [List.foldl_cons, ih]
    refine congrArg (fun value => { s with value := value }) (funext fun i => ?_)
    rcases eq_or_ne i j with rfl | hne
    · simp [vexMotorSet, limitMotor]
    · simp [vexMotorSet, hne]

theorem vexMotorStopAll_eq (s : SmartMotors) :
    s.vexMotorStopAll = { s with value := fun _ => 0 } := by
  rw [vexMotorStopAll, foldl_vexMotorSet_zero]
  simp

namespace Commanded

theorem request_le (h : s.Commanded) (i : Fin kVexMotorNum) : (s.request i).natAbs ≤ 127 := by
  have hcmd := h.motorCmd i
  have hreq := s.request_between i
  omega

theorem slewTurn_value (h : s.Commanded) (i : Fin kVexMotorNum) :
    (s.slewTurn i).value i = slewValue smlibMotorDefaultSlewRate (s.value i) (s.request i) := by
  have hrate : 0 ≤ smlibMotorDefaultSlewRate := by decide
  have hbetween := slewValue_between hrate (s.value i) (s.request i)
  have hle : (slewValue smlibMotorDefaultSlewRate (s.value i) (s.request i)).natAbs ≤ 127 := by
    have hvalue := h.value i
    have hreq := h.request_le i
    omega
  have hlimit := limitMotor_of_le hle
  have heq := slewValue_eq hrate (s.value i) (s.request i)
  unfold slewTurn
  simp only [h.motorSlew] at heq ⊢
  split
  next hne =>
    rw [heq]
    simpa [vexMotorSet] using hlimit
  next hsame =>
    rw [not_not] at hsame
    unfold slewValue
    simp only [hsame]
    simp

theorem step (h : s.Commanded) (action : MotorAction) : (s.step action).Commanded where
  toDriven := h.toDriven.step action
  motorCmd j := by
    have hj := h.motorCmd j
    cases action with
    | set i value immediate =>
      unfold SmartMotors.step setMotor
      have hmax : smlibMotorMaxCmd = 127 := rfl
      have hmin : smlibMotorMinCmd = -127 := rfl
      rcases eq_or_ne j i with rfl | hne
      · simp only [Function.update_self]
        split_ifs <;> omega
      · simpa [hne] using hj
    | stopAll => rwa [SmartMotors.step, vexMotorStopAll_eq]
    | slew i =>
      unfold SmartMotors.step slewTurn
      simp only
      split <;> exact hj
    | _ => exact hj
  motorSlew j := by
    have hj := h.motorSlew j
    cases action with
    | stopAll => rwa [SmartMotors.step, vexMotorStopAll_eq]
    | slew i =>
      unfold SmartMotors.step slewTurn
      simp only
      split <;> exact hj
    | _ => exact hj

theorem init (reversed : Fin kVexMotorNum → Bool) : (SmartMotors.init reversed).Commanded where
  toDriven := .init reversed
  motorCmd _ := Nat.zero_le _
  motorSlew _ := rfl

theorem run (reversed : Fin kVexMotorNum → Bool) (actions : List MotorAction) :
    (actions.foldl SmartMotors.step (SmartMotors.init reversed)).Commanded :=
  List.foldlRecOn actions _ (Commanded.init reversed) fun _ h action _ => h.step action

end Commanded

theorem step_motorCmd (s : SmartMotors) {action : MotorAction} (h : ¬ action.Commands i) :
    (s.step action).motorCmd i = s.motorCmd i := by
  cases action with
  | set j value immediate =>
    have hne : i ≠ j := fun heq => h heq.symm
    simp [step, setMotor, hne]
  | stopAll => exact absurd trivial h
  | slew j =>
    unfold step slewTurn
    simp only
    split <;> rfl
  | _ => rfl

theorem step_value (s : SmartMotors) {action : MotorAction} (h : ¬ action.Commands i)
    (hslew : action ≠ .slew i) : (s.step action).value i = s.value i := by
  cases action with
  | set j value immediate =>
    have hne : i ≠ j := fun heq => h heq.symm
    cases immediate <;> simp [step, setMotor, hne]
  | direct j value =>
    have hne : i ≠ j := fun heq => h heq.symm
    simp [step, vexMotorSet, hne]
  | stopAll => exact absurd trivial h
  | slew j =>
    have hne : i ≠ j := fun heq => hslew (congrArg _ heq.symm)
    unfold step slewTurn
    simp only
    split <;> simp [vexMotorSet, hne]
  | _ => rfl

/-- The slew rate task, if it comes to the motor, finds no limit that matters. -/
def Unlimited (i : Fin kVexMotorNum) (s : SmartMotors) (action : MotorAction) : Prop :=
  action = .slew i → s.request i = s.motorCmd i

instance (i : Fin kVexMotorNum) (s : SmartMotors) (action : MotorAction) :
    Decidable (s.Unlimited i action) := inferInstanceAs (Decidable (_ → _))

/-- However the limits change, a motor that gets no new command stays between the value it has, its
command and rest: no limit turns it round or makes it faster. -/
theorem value_between (reversed : Fin kVexMotorNum → Bool) (before after : List MotorAction)
    (hcommands : ∀ action ∈ after, ¬ action.Commands i) :
    let s := before.foldl step (init reversed)
    let s' := after.foldl step s
    min (s.value i) (min 0 (s.motorCmd i)) ≤ s'.value i ∧
      s'.value i ≤ max (s.value i) (max 0 (s.motorCmd i)) := by
  intro s s'
  let Between (t : SmartMotors) : Prop := t.Commanded ∧ t.motorCmd i = s.motorCmd i ∧
    min (s.value i) (min 0 (s.motorCmd i)) ≤ t.value i ∧
      t.value i ≤ max (s.value i) (max 0 (s.motorCmd i))
  have hrun : Between s' := by
    refine List.foldlRecOn after step ⟨Commanded.run reversed before, rfl, by omega, by omega⟩ ?_
    rintro t ⟨hcommanded, hcmd, hge, hle⟩ action hmem
    have hcmd' := (step_motorCmd t (hcommands action hmem)).trans hcmd
    refine ⟨hcommanded.step action, hcmd', ?_⟩
    by_cases hslew : action = .slew i
    · have hvalue := hcommanded.slewTurn_value i
      have hbetween := slewValue_between (by decide : 0 ≤ smlibMotorDefaultSlewRate) (t.value i)
        (t.request i)
      have hreq := t.request_between i
      rw [hslew, step, hvalue]
      omega
    · rw [step_value t (hcommands action hmem) hslew]
      exact ⟨hge, hle⟩
  exact hrun.2.2

theorem value_between_limited :
    let s := [.set 3 100 false, .slew 3].foldl step (init fun _ => false)
    let s' := [.enable true, .limit 3 5, .slew 3, .interrupt].foldl step s
    min (s.value 3) (min 0 (s.motorCmd 3)) ≤ s'.value 3 ∧
      s'.value 3 ≤ max (s.value 3) (max 0 (s.motorCmd 3)) :=
  value_between (fun _ => false) [.set 3 100 false, .slew 3]
    [.enable true, .limit 3 5, .slew 3, .interrupt] (by simp [MotorAction.Commands])

theorem turns_dist {s : SmartMotors} (h : s.Commanded) {after : List MotorAction}
    (hcommands : ∀ action ∈ after, ¬ action.Commands i)
    (hlimit : Lib.Along (Unlimited i) step s after) :
    (after.foldl step s).motorCmd i = s.motorCmd i ∧
      ((after.foldl step s).value i - s.motorCmd i).natAbs =
        (s.value i - s.motorCmd i).natAbs - 10 * after.count (.slew i) := by
  induction after generalizing s with
  | nil => exact ⟨rfl, rfl⟩
  | cons action after ih =>
    obtain ⟨hhead, htail⟩ := List.forall_mem_cons.mp hcommands
    have hcmd := step_motorCmd s hhead
    obtain ⟨hcmd', hdist⟩ := ih (h.step action) htail hlimit.2
    rw [hcmd] at hcmd' hdist
    refine ⟨hcmd', ?_⟩
    rw [List.foldl_cons, hdist, List.count_cons]
    by_cases hslew : action = .slew i
    · have hturn := slewValue_dist (by decide : 0 ≤ smlibMotorDefaultSlewRate) (s.value i)
        (s.motorCmd i)
      have hrate : smlibMotorDefaultSlewRate.toNat = 10 := rfl
      have hreq := hlimit.1 hslew
      subst hslew
      rw [step, h.slewTurn_value, hreq, hturn, hrate, Nat.sub_sub, beq_self_eq_true, if_pos rfl,
        Nat.mul_add, Nat.add_comm]
    · rw [step_value s hhead hslew]
      simp [hslew]

/-- Between two commands a motor comes nearer to the first one by the slew rate at every turn that
the task gives it, whatever happens to the other motors. -/
theorem value_dist (reversed : Fin kVexMotorNum → Bool) (before after : List MotorAction)
    (hcommands : ∀ action ∈ after, ¬ action.Commands i)
    (hlimit : Lib.Along (Unlimited i) step (before.foldl step (init reversed)) after) :
    let s := before.foldl step (init reversed)
    ((after.foldl step s).value i - s.motorCmd i).natAbs =
      (s.value i - s.motorCmd i).natAbs - 10 * after.count (.slew i) :=
  (turns_dist (Commanded.run reversed before) hcommands hlimit).2

theorem value_dist_slewed :
    let s := [.set 3 100 false, .slew 3].foldl step (init fun _ => false)
    let after := [.slew 4, .slew 3, .interrupt, .slew 3]
    ((after.foldl step s).value 3 - s.motorCmd 3).natAbs =
      (s.value 3 - s.motorCmd 3).natAbs - 10 * after.count (.slew 3) :=
  value_dist (fun _ => false) [.set 3 100 false, .slew 3] [.slew 4, .slew 3, .interrupt, .slew 3]
    (by simp [MotorAction.Commands]) (by decide)

end SmartMotors

end TurningPoint
