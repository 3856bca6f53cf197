import TurningPoint.Motor.Defs

namespace TurningPoint

namespace HBridge

def ofValue (value : Int) : HBridge :=
  if value > 0 then ⟨value.toNat, 0, true, false⟩
  else if value < 0 then ⟨0, (-value).toNat, false, true⟩
  else ⟨0, 0, false, false⟩

structure Safe (b : HBridge) : Prop where
  ebl : ¬ (b.eblP = true ∧ b.eblN = true)
  ccr : b.ccrP = 0 ∨ b.ccrN = 0

structure Agrees (b b' : HBridge) : Prop where
  p : b.eblP = true → b'.eblN = false
  n : b.eblN = true → b'.eblP = false

theorem ofValue_pos {value : Int} (h : 0 < value) : ofValue value = ⟨value.toNat, 0, true, false⟩ :=
  if_pos h

theorem ofValue_neg {value : Int} (h : value < 0) :
    ofValue value = ⟨0, (-value).toNat, false, true⟩ := by
  rw [ofValue, if_neg h.le.not_gt, if_pos h]

@[simp] theorem ofValue_zero : ofValue 0 = ⟨0, 0, false, false⟩ := rfl

end HBridge

def towards (value newValue : Int) : Int := if value * newValue < 0 then 0 else newValue

theorem towards_towards (value newValue : Int) :
    towards (towards value newValue) newValue = newValue := by
  unfold towards
  split
  · simp
  · exact if_neg (mul_self_nonneg newValue).not_gt

section Write

variable {P : PwmPort × HBridge → Prop} {Q : HBridge → Prop} {port : PwmPort} {b : HBridge}

theorem HBridge.write_ensures (hwrite : P (port, b)) (hvalue : Q b) :
    (HBridge.write port b).Ensures P Q :=
  ⟨List.forall_mem_singleton.mpr hwrite, hvalue⟩

theorem HBridge.write_bind {f : HBridge → Driving HBridge} (hwrite : P (port, b))
    (hf : (f b).Ensures P Q) : (HBridge.write port b >>= f).Ensures P Q :=
  .event_bind hwrite hf

theorem vexMotorPwmSet_pos {value : Int} (hpos : 0 < value) (hvalue : value ≤ 127)
    (hb : b.eblN = false) :
    (vexMotorPwmSet port value b).Ensures
      (fun e => e.1 = port ∧ e.2.ccrN = 0 ∧ e.2.eblN = false) (· = .ofValue value) := by
  have hmod : value % 128 = value := Int.emod_eq_of_lt hpos.le (by omega)
  rw [vexMotorPwmSet, if_pos hpos]
  refine HBridge.write_bind ⟨rfl, rfl, hb⟩ (HBridge.write_bind ⟨rfl, rfl, rfl⟩
    (HBridge.write_bind ⟨rfl, rfl, rfl⟩ (HBridge.write_ensures ⟨rfl, rfl, rfl⟩ ?_)))
  rw [HBridge.ofValue_pos hpos, hmod]

theorem vexMotorPwmSet_neg {value : Int} (hneg : value < 0) (hvalue : -127 ≤ value)
    (hb : b.eblP = false) :
    (vexMotorPwmSet port value b).Ensures
      (fun e => e.1 = port ∧ e.2.ccrP = 0 ∧ e.2.eblP = false) (· = .ofValue value) := by
  have hmod : -value % 128 = -value := Int.emod_eq_of_lt (by omega) (by omega)
  rw [vexMotorPwmSet, if_neg hneg.le.not_gt, if_pos hneg]
  refine HBridge.write_bind ⟨rfl, rfl, hb⟩ (HBridge.write_bind ⟨rfl, rfl, rfl⟩
    (HBridge.write_bind ⟨rfl, rfl, rfl⟩ (HBridge.write_ensures ⟨rfl, rfl, rfl⟩ ?_)))
  rw [HBridge.ofValue_neg hneg, hmod]

theorem vexMotorPwmSet_zero :
    (vexMotorPwmSet port 0 b).Ensures
      (fun e => e.1 = port ∧ (e.2.ccrP = 0) ∧ (e.2.eblP = true → b.eblP = true) ∧
        (e.2.eblN = true → b.eblN = true)) (· = .ofValue 0) := by
  refine HBridge.write_bind ⟨rfl, rfl, id, id⟩ (HBridge.write_bind ⟨rfl, rfl, id, id⟩
    (HBridge.write_bind ⟨rfl, rfl, id, nofun⟩ (HBridge.write_ensures ⟨rfl, rfl, nofun, nofun⟩ rfl)))

end Write

/-- What may follow a bridge on a port: only one side is driven, and not the other way round. -/
def HBridge.Follows (b : HBridge) (port : PwmPort) (e : PwmPort × HBridge) : Prop :=
  e.1 = port ∧ e.2.Safe ∧ b.Agrees e.2

theorem HBridge.ofValue_safe (value : Int) : (HBridge.ofValue value).Safe := by
  unfold HBridge.ofValue
  split_ifs <;> exact ⟨by simp, by simp⟩

theorem HBridge.ofValue_eblP {value : Int} (h : value ≤ 0) :
    (HBridge.ofValue value).eblP = false := by
  rw [HBridge.ofValue, if_neg h.not_gt]
  split <;> rfl

theorem HBridge.ofValue_eblN {value : Int} (h : 0 ≤ value) :
    (HBridge.ofValue value).eblN = false := by
  unfold HBridge.ofValue
  split_ifs with hpos hneg
  · rfl
  · exact absurd hneg h.not_gt
  · rfl

theorem vexMotorPwmSet_ensures (port : PwmPort) {cur value : Int} (hvalue : value.natAbs ≤ 127)
    (hcur : 0 ≤ cur * value) :
    (vexMotorPwmSet port value (.ofValue cur)).Ensures
      ((HBridge.ofValue cur).Follows port) (· = .ofValue value) := by
  rcases lt_trichotomy value 0 with hneg | rfl | hpos
  · have hidle := HBridge.ofValue_eblP (nonpos_of_mul_nonneg_left hcur hneg)
    refine (vexMotorPwmSet_neg hneg (by omega) hidle).imp ?_
    rintro ⟨_, b⟩ ⟨rfl, hccr, hebl⟩
    dsimp only at hccr hebl
    exact ⟨rfl, ⟨by simp [hebl], .inl hccr⟩, ⟨by simp [hidle], fun _ => hebl⟩⟩
  · have hsafe := (HBridge.ofValue_safe cur).ebl
    refine vexMotorPwmSet_zero.imp ?_
    rintro ⟨_, b⟩ ⟨rfl, hccr, hp, hn⟩
    dsimp only at hccr hp hn
    refine ⟨rfl, ⟨fun h => hsafe ⟨hp h.1, hn h.2⟩, .inl hccr⟩, ⟨fun h => ?_, fun h => ?_⟩⟩
    · exact Bool.eq_false_iff.mpr fun h' => hsafe ⟨h, hn h'⟩
    · exact Bool.eq_false_iff.mpr fun h' => hsafe ⟨hp h', h⟩
  · have hidle := HBridge.ofValue_eblN (nonneg_of_mul_nonneg_left hcur hpos)
    refine (vexMotorPwmSet_pos hpos (by omega) hidle).imp ?_
    rintro ⟨_, b⟩ ⟨rfl, hccr, hebl⟩
    dsimp only at hccr hebl
    exact ⟨rfl, ⟨by simp [hebl], .inr hccr⟩, ⟨fun _ => hebl, by simp [hidle]⟩⟩

structure PwmMotor.Set (m : PwmMotor) : Prop where
  bridge : m.bridge = .ofValue m.curValue
  bound : m.curValue.natAbs ≤ 127

theorem natAbs_towards_le {value newValue : Int} :
    (towards value newValue).natAbs ≤ newValue.natAbs := by
  unfold towards
  split
  · exact Nat.zero_le _
  · exact le_rfl

theorem mul_towards_nonneg (value newValue : Int) : 0 ≤ value * towards value newValue := by
  unfold towards
  split
  · exact (mul_zero value).ge
  next h => exact not_lt.mp h

theorem towards_eq (value newValue : Int) :
    (if newValue = 0 then 0
      else if newValue > 0 then if value ≥ 0 then newValue else 0
      else if value ≤ 0 then newValue else 0) = towards value newValue := by
  unfold towards
  rcases lt_trichotomy newValue 0 with hneg | rfl | hpos
  · rw [if_neg hneg.ne, if_neg hneg.le.not_gt]
    by_cases hvalue : value ≤ 0
    · rw [if_pos hvalue, if_neg (mul_nonneg_of_nonpos_of_nonpos hvalue hneg.le).not_gt]
    · rw [if_neg hvalue, if_pos (mul_neg_of_pos_of_neg (not_le.mp hvalue) hneg)]
  · simp
  · rw [if_neg hpos.ne', if_pos hpos]
    by_cases hvalue : value ≥ 0
    · rw [if_pos hvalue, if_neg (mul_nonneg hvalue hpos.le).not_gt]
    · rw [if_neg hvalue, if_pos (mul_neg_of_neg_of_pos (not_le.mp hvalue) hpos)]

theorem PwmMotor.check_ensures (port : PwmPort) {m : PwmMotor} (h : m.Set) {newValue : Int}
    (hnew : newValue.natAbs ≤ 127) :
    (m.check (vexMotorPwmSet port) newValue).Ensures (m.bridge.Follows port)
      (fun m' => m'.Set ∧ m'.curValue = towards m.curValue newValue) := by
  unfold PwmMotor.check
  refine .ite (fun heq => ?_) fun hne => ?_
  · refine .pure ⟨h, ?_⟩
    rw [← heq, towards, if_neg (mul_self_nonneg m.curValue).not_gt]
  · rw [towards_eq, h.bridge]
    have hle : (towards m.curValue newValue).natAbs ≤ 127 := natAbs_towards_le.trans hnew
    refine (vexMotorPwmSet_ensures port hle (mul_towards_nonneg ..)).bind fun b hb => .pure ?_
    exact ⟨⟨hb, hle⟩, rfl⟩

theorem natAbs_limitMotor_le (value : Int) : (limitMotor value).natAbs ≤ 127 := by
  unfold limitMotor
  split_ifs <;> omega

namespace SmartMotors

structure Driven (s : SmartMotors) : Prop where
  value : ∀ i, (s.value i).natAbs ≤ 127
  timer : ∀ port, (s.timer.motor port).Set

namespace Driven

variable {s : SmartMotors}

theorem init (reversed : Fin kVexMotorNum → Bool) : (SmartMotors.init reversed).Driven where
  value i := Nat.zero_le _
  timer port := by cases port <;> exact ⟨rfl, Nat.zero_le _⟩

theorem vexMotorSet (h : s.Driven) (i : Fin kVexMotorNum) (value : Int) :
    (s.vexMotorSet i value).Driven :=
  { h with
    value := fun j => by
      unfold SmartMotors.vexMotorSet
      rcases eq_or_ne j i with rfl | hne
      · simpa using natAbs_limitMotor_le value
      · simpa [hne] using h.value j }

theorem vexMotorStopAll (h : s.Driven) : s.vexMotorStopAll.Driven := by
  unfold SmartMotors.vexMotorStopAll
  exact List.foldlRecOn (motive := Driven) (List.finRange kVexMotorNum)
    (fun s i => s.vexMotorSet i 0) h fun _ h i _ => h.vexMotorSet i 0

theorem newValue_le (h : s.Driven) (i : Fin kVexMotorNum) : (s.newValue i).natAbs ≤ 127 := by
  unfold SmartMotors.newValue
  split
  · rw [Int.natAbs_neg]
    exact h.value i
  · exact h.value i

theorem interrupt (h : s.Driven) :
    s.tim4IRQHandler.Ensures (fun e => e.2.Safe ∧ (s.timer.motor e.1).bridge.Agrees e.2)
      (fun timer => ∀ port, (timer.motor port).Set ∧
        (timer.motor port).curValue =
          towards (s.timer.motor port).curValue (s.newValue port.motor)) := by
  have h0 := PwmMotor.check_ensures .t0 (h.timer .t0) (h.newValue_le PwmPort.t0.motor)
  have h9 := PwmMotor.check_ensures .t9 (h.timer .t9) (h.newValue_le PwmPort.t9.motor)
  unfold SmartMotors.tim4IRQHandler
  refine (h0.imp ?_).bind fun m0 hm0 => (h9.imp ?_).bind fun m9 hm9 => .pure fun port => ?_
  · rintro ⟨_, b⟩ ⟨rfl, hb⟩
    exact hb
  · rintro ⟨_, b⟩ ⟨rfl, hb⟩
    exact hb
  · cases port with
    | t0 => exact hm0
    | t9 => exact hm9

theorem step (h : s.Driven) (action : MotorAction) : (s.step action).Driven := by
  cases action with
  | set i value immediate =>
    cases immediate with
    | false => exact { h with }
    | true => exact { h.vexMotorSet i value with }
  | direct i value => exact h.vexMotorSet i value
  | stopAll => exact h.vexMotorStopAll
  | enable enabled => exact { h with }
  | limit i cmd => exact { h with }
  | slew i =>
    simp only [SmartMotors.step, SmartMotors.slewTurn]
    split
    · exact vexMotorSet (s := { s with motorReq := Function.update s.motorReq i (s.request i) })
        { h with } i _
    · exact { h with }
  | interrupt => exact { h with timer := fun port => (h.interrupt.value port).1 }

theorem run (reversed : Fin kVexMotorNum → Bool) (actions : List MotorAction) :
    (actions.foldl SmartMotors.step (SmartMotors.init reversed)).Driven :=
  List.foldlRecOn actions _ (Driven.init reversed) fun _ h action _ => h.step action

end Driven

/-- In every run and after every single write of the interrupt handler, a bridge has at most one side
driven, and not the side opposite to the one driven before the interrupt. -/
theorem bridges_safe (reversed : Fin kVexMotorNum → Bool) (actions : List MotorAction) :
    let s := actions.foldl step (init reversed)
    ∀ e ∈ s.tim4IRQHandler.events, e.2.Safe ∧ (s.timer.motor e.1).bridge.Agrees e.2 :=
  (Driven.run reversed actions).interrupt.events

end SmartMotors

end TurningPoint
