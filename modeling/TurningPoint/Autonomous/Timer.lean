import TurningPoint.Lib.Run
import Mathlib.Tactic

universe u

namespace TurningPoint

structure AutonomousTimer where
  actual : UInt32
  target : UInt32

def timerSetTimeout (now target : UInt32) : AutonomousTimer := ⟨now, now + target⟩

def timerIsActive (timer : AutonomousTimer) : Bool := timer.actual ≤ timer.target

def timerTick (now : UInt32) (timer : AutonomousTimer) : AutonomousTimer :=
  { timer with actual := now }

variable {σ : Type u}

structure TimerRun (σ : Type u) where
  timer : AutonomousTimer
  ticks : Nat
  state : σ

def timerTurn (now : Nat → UInt32) (body : σ → σ) (run : TimerRun σ) : TimerRun σ where
  timer := timerTick (now (run.ticks + 1)) run.timer
  ticks := run.ticks + 1
  state := body run.state

/-- `now k` is what `chTimeNow` returns after `k` ticks; `fuel` bounds how often it is tested. -/
def timerRun (now : Nat → UInt32) (target : UInt32) (body : σ → σ) (fuel : Nat) (s : σ) :
    Option (TimerRun σ) :=
  Lib.whileLoop (fun run => timerIsActive run.timer) (timerTurn now body) fuel
    ⟨timerSetTimeout (now 0) target, 0, s⟩

section

variable {now : Nat → UInt32} {target : UInt32} {body : σ → σ} {s : σ}

theorem timerTurn_iterate (k : Nat) :
    (timerTurn now body)^[k] ⟨timerSetTimeout (now 0) target, 0, s⟩ =
      ⟨⟨now k, now 0 + target⟩, k, body^[k] s⟩ := by
  induction k with
  | zero => rfl
  | succ k ih =>
    rw [Function.iterate_succ_apply', ih, Function.iterate_succ_apply']
    rfl

theorem timerIsActive_iterate (k : Nat) :
    timerIsActive ((timerTurn now body)^[k] ⟨timerSetTimeout (now 0) target, 0, s⟩).timer = true ↔
      now k ≤ now 0 + target := by
  rw [timerTurn_iterate]
  exact decide_eq_true_iff

theorem timerRun_state {fuel : Nat} {run : TimerRun σ}
    (h : timerRun now target body fuel s = some run) : run.state = body^[run.ticks] s := by
  obtain ⟨k, -, rfl, -⟩ := Lib.whileLoop_eq_some.mp h
  rw [timerTurn_iterate]

theorem timerRun_ends_iff {n : Nat} :
    (∃ fuel run, timerRun now target body fuel s = some run ∧ run.ticks = n ∧
        run.state = body^[n] s) ↔
      ¬now n ≤ now 0 + target ∧ ∀ k < n, now k ≤ now 0 + target := by
  constructor
  · rintro ⟨fuel, run, hrun, rfl, -⟩
    obtain ⟨k, -, rfl, hlast, hall⟩ := Lib.whileLoop_eq_some.mp hrun
    rw [timerTurn_iterate]
    refine ⟨fun hle => ?_, fun i hi => timerIsActive_iterate i |>.mp (hall i hi)⟩
    rw [timerIsActive_iterate k |>.mpr hle] at hlast
    cases hlast
  · rintro ⟨hlast, hall⟩
    refine ⟨n + 1, _, Lib.whileLoop_eq_some.mpr ⟨n, n.lt_succ_self, rfl, ?_, ?_⟩, ?_, ?_⟩
    · exact Bool.eq_false_iff.mpr fun h => hlast (timerIsActive_iterate n |>.mp h)
    · exact fun k hk => timerIsActive_iterate k |>.mpr (hall k hk)
    · rw [timerTurn_iterate]
    · rw [timerTurn_iterate]

theorem timerRun_never_ends (h : ∀ k, now k ≤ now 0 + target) (fuel : Nat) :
    timerRun now target body fuel s = none :=
  Lib.whileLoop_eq_none (fun k => timerIsActive_iterate k |>.mpr (h k)) fuel

end

/-- The real ticks at the start and after each sleep of `timerTick`. -/
structure PollTimes where
  tick : Nat → Nat
  increasing : ∀ k, tick k < tick (k + 1)
  gap_lt : ∀ k, tick (k + 1) < tick k + 2 ^ 31

namespace PollTimes

variable (p : PollTimes) (T : Nat)

def elapsed (k : Nat) : Nat := p.tick k - p.tick 0

def now (k : Nat) : UInt32 := UInt32.ofNat (p.tick k)

theorem tick_eq (k : Nat) : p.tick k = p.tick 0 + p.elapsed k := by
  have hmono := (strictMono_nat_of_lt_succ p.increasing).monotone (Nat.zero_le k)
  unfold elapsed
  omega

theorem le_elapsed (k : Nat) : k ≤ p.elapsed k := by
  induction k with
  | zero => exact Nat.zero_le _
  | succ k ih =>
    have hnext := p.increasing k
    rw [p.tick_eq k, p.tick_eq (k + 1)] at hnext
    omega

theorem exists_late : ∃ k, T < p.elapsed k := ⟨T + 1, p.le_elapsed (T + 1)⟩

def firstLate : Nat := Nat.find (p.exists_late T)

theorem lt_elapsed_firstLate : T < p.elapsed (p.firstLate T) := Nat.find_spec (p.exists_late T)

theorem elapsed_le_of_lt {k : Nat} (h : k < p.firstLate T) : p.elapsed k ≤ T :=
  Nat.le_of_not_lt (Nat.find_min (p.exists_late T) h)

theorem firstLate_pos : 0 < p.firstLate T := by
  refine Nat.pos_of_ne_zero fun h => ?_
  have hlate := p.lt_elapsed_firstLate T
  rw [h, elapsed, Nat.sub_self] at hlate
  omega

theorem elapsed_firstLate_lt : p.elapsed (p.firstLate T) < T + 2 ^ 31 := by
  have hpos := p.firstLate_pos T
  have hgap := p.gap_lt (p.firstLate T - 1)
  have hbefore := p.elapsed_le_of_lt T (show p.firstLate T - 1 < p.firstLate T by omega)
  rw [Nat.sub_add_cancel hpos, p.tick_eq (p.firstLate T), p.tick_eq (p.firstLate T - 1)] at hgap
  omega

/-- The body runs at the start and after each tick that comes at most `T` ticks later, and the loop
ends at the first tick that comes later still. -/
def RunsFor (body : σ → σ) (s : σ) : Prop :=
  ∃ fuel run, timerRun p.now (UInt32.ofNat T) body fuel s = some run ∧
    run.ticks = p.firstLate T ∧ run.state = body^[p.firstLate T] s

variable {T}

theorem now_le_iff (k : Nat) : p.now k ≤ p.now 0 + UInt32.ofNat T ↔
    (p.tick 0 + p.elapsed k) % 2 ^ 32 ≤ (p.tick 0 + T) % 2 ^ 32 := by
  rw [← p.tick_eq, UInt32.le_iff_toNat_le, UInt32.toNat_add, now, now]
  simp only [UInt32.toNat_ofNat']
  rw [← Nat.add_mod]

theorem skips_of_wrapped_deadline (hT : T < 2 ^ 31) (hwrap : 2 ^ 32 ≤ p.tick 0 % 2 ^ 32 + T)
    (body : σ → σ) (s : σ) : ∃ fuel run,
      timerRun p.now (UInt32.ofNat T) body fuel s = some run ∧ run.ticks = 0 ∧ run.state = s := by
  refine timerRun_ends_iff.mpr ⟨?_, fun k hk => absurd hk (Nat.not_lt_zero k)⟩
  rw [now_le_iff, elapsed, Nat.sub_self]
  omega

theorem never_ends_at_largest_deadline (hlargest : (p.tick 0 + T) % 2 ^ 32 = 2 ^ 32 - 1)
    (body : σ → σ) (s : σ) (fuel : Nat) :
    timerRun p.now (UInt32.ofNat T) body fuel s = none := by
  refine timerRun_never_ends (fun k => ?_) fuel
  rw [now_le_iff, hlargest]
  omega

/-- A run keeps its timeout exactly if the counter does not wrap before the first late poll. -/
theorem runsFor_iff (hT : T < 2 ^ 31) (body : σ → σ) (s : σ) :
    p.RunsFor T body s ↔ p.tick 0 % 2 ^ 32 + p.elapsed (p.firstLate T) < 2 ^ 32 := by
  have hlate := p.lt_elapsed_firstLate T
  have hbound := p.elapsed_firstLate_lt T
  rw [RunsFor, timerRun_ends_iff, now_le_iff]
  constructor
  · rintro ⟨hlast, hall⟩
    have hfirst := hall 0 (p.firstLate_pos T)
    rw [now_le_iff, elapsed, Nat.sub_self] at hfirst
    omega
  · intro hwrap
    refine ⟨by omega, fun k hk => ?_⟩
    have hbefore := p.elapsed_le_of_lt T hk
    rw [now_le_iff]
    omega

theorem tick_increasing (start k : Nat) : start + 25 * k < start + 25 * (k + 1) := by omega

theorem tick_gap_lt (start k : Nat) : start + 25 * (k + 1) < start + 25 * k + 2 ^ 31 := by omega

def sleeping (start : Nat) : PollTimes where
  tick k := start + 25 * k
  increasing := tick_increasing start
  gap_lt := tick_gap_lt start

theorem runsFor_sleeping : (sleeping 1000).RunsFor 25 (· + 1) 0 := by
  have hbound := (sleeping 1000).elapsed_firstLate_lt 25
  refine ((sleeping 1000).runsFor_iff (by decide) (· + 1) 0).mpr ?_
  rw [show (sleeping 1000).tick 0 = 1000 from rfl]
  omega

/-- Six ticks before the counter wraps, the deadline of a timeout of 25 lies behind the start. -/
theorem not_runsFor_wrapping :
    25 < 2 ^ 31 ∧ ¬(sleeping 4294967290).RunsFor 25 (· + 1) 0 := by
  refine ⟨by decide, fun hruns => ?_⟩
  obtain ⟨-, hactive⟩ := timerRun_ends_iff.mp hruns
  have hfirst := hactive 0 ((sleeping 4294967290).firstLate_pos 25)
  exact absurd hfirst (by decide)

end PollTimes

end TurningPoint
