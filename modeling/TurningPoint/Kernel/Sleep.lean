import TurningPoint.Kernel.Sched

universe u

namespace TurningPoint.Kernel

open Lib.Delta

variable {τ : Type u}

def ticksOf : KernelAction τ → Nat
  | .tick => 1
  | _ => 0

def ticks (actions : List (KernelAction τ)) : Nat :=
  (actions.map ticksOf).sum

def Undisturbed (t : τ) (s : Kernel τ) : KernelAction τ → Prop
  | .ready tp _ | .wakeup tp _ | .create tp _ => s.currp ≠ t ∧ tp ≠ t
  | _ => s.currp ≠ t

instance Undisturbed.decidable [DecidableEq τ] (t : τ) (s : Kernel τ) :
    (action : KernelAction τ) → Decidable (Undisturbed t s action)
  | .ready .. | .wakeup .. | .create .. => inferInstanceAs (Decidable (_ ∧ _))
  | .lock | .reschedule | .sleep _ | .sleepTimeout .. | .yield | .interrupt | .tick | .turn
  | .leave => inferInstanceAs (Decidable (s.currp ≠ t))

structure Asleep (t : τ) (newstate : ThreadState) (k d : Nat) (s : Kernel τ) : Prop where
  state : s.p_state t = newstate
  due : (t, d) ∈ due k s.vtlist.timers

structure Awake (t : τ) (s : Kernel τ) : Prop where
  state : s.p_state t = .ready ∨ s.p_state t = .current
  msg : s.rdymsg t = rdyTimeout

variable {idle t tp : τ} {s : Kernel τ} {newstate : ThreadState} {k d : Nat} {l : List τ}

theorem Undisturbed.ne {action : KernelAction τ} (h : Undisturbed t s action) : s.currp ≠ t := by
  cases action with
  | ready tp msg => exact h.1
  | wakeup tp msg => exact h.1
  | create tp prio => exact h.1
  | _ => exact h

/-- What a thread that does not run is left by a call that another one makes: it is switched to if
it is in the ready list, and only then returns. -/
structure Frame (t : τ) (s s' : Kernel τ) : Prop where
  away : t ∉ s.r_queue → s'.p_state t = s.p_state t
  ready : s.p_state t = .ready ∨ s.p_state t = .current →
    s'.p_state t = .ready ∨ s'.p_state t = .current
  msg : s'.rdymsg t = s.rdymsg t
  due : ∀ {k d}, s'.currp ≠ t → (t, d) ∈ due k s.vtlist.timers → (t, d) ∈ due k s'.vtlist.timers

theorem Frame.rfl : Frame t s s :=
  ⟨fun _ => .refl _, id, .refl _, fun _ => id⟩

variable [DecidableEq τ]

theorem Frame.resume {s' : Kernel τ} (h : Frame t s s') (hgood : s'.vtlist.Good)
    (hdue : ∀ {k d}, (t, d) ∈ Lib.Delta.due k s.vtlist.timers →
      (t, d) ∈ Lib.Delta.due k s'.vtlist.timers) : Frame t s s'.resume where
  away hnot := (congrFun resume_p_state t).trans (h.away hnot)
  ready hready := by
    rw [resume_p_state]
    exact h.ready hready
  msg := (congrFun resume_rdymsg t).trans h.msg
  due := by
    intro k d hne hmem
    rw [resume_currp] at hne
    rw [Kernel.resume]
    split
    · show (t, d) ∈ Lib.Delta.due k (if _ then _ else _ : VTList τ).timers
      split
      · rw [hgood.due_reset]
        exact (List.mem_eraseP_of_neg (p := fun e : τ × Nat => e.1 = s'.currp)
          fun hdec => hne (of_decide_eq_true hdec).symm).mpr (hdue hmem)
      · exact hdue hmem
    · exact hdue hmem

theorem frame_goSleep (newstate : ThreadState) (hgood : s.vtlist.Good) (hne : s.currp ≠ t)
    (hqueue : s.r_queue = tp :: l) :
    Frame t s (s.chSchGoSleepS newstate) := by
  rw [goSleep_of_cons hqueue]
  refine Frame.resume ⟨fun hnot => ?_, fun hready => ?_, rfl, fun _ => id⟩ hgood id
  · rw [hqueue] at hnot
    grind [Function.update_apply]
  · grind [Function.update_apply]

theorem Sound.frame_behind (h : Sound idle s) (hne : s.currp ≠ t)
    (hprio : s.firstprio ≥ s.p_prio s.currp) : Frame t s s.chSchDoRescheduleBehind := by
  obtain ⟨tp, l, hqueue, -⟩ :=
    exists_first_of_firstprio (Nat.lt_of_lt_of_le h.runs.pos_currp hprio)
  rw [behind_of_cons hqueue]
  refine Frame.resume ⟨fun hnot => ?_, fun hready => ?_, rfl, fun _ => id⟩ h.timed.good id
  · rw [hqueue] at hnot
    grind [Function.update_apply]
  · grind [Function.update_apply]

theorem Sound.frame_ahead (h : Sound idle s) (hne : s.currp ≠ t)
    (hprio : s.firstprio > s.p_prio s.currp) : Frame t s s.chSchDoRescheduleAhead := by
  obtain ⟨tp, l, hqueue, -⟩ := exists_first_of_firstprio (Nat.zero_lt_of_lt hprio)
  rw [ahead_of_cons hqueue]
  refine Frame.resume ⟨fun hnot => ?_, fun hready => ?_, rfl, fun _ => id⟩ h.timed.good id
  · rw [hqueue] at hnot
    grind [Function.update_apply]
  · grind [Function.update_apply]

theorem frame_readyI (msg : Int) (hne : tp ≠ t) :
    Frame t s ({ s with rdymsg := Function.update s.rdymsg tp msg }.chSchReadyI tp) where
  away _ := Function.update_of_ne hne.symm _ _
  ready hready := by
    show Function.update s.p_state tp .ready t = _ ∨ Function.update s.p_state tp .ready t = _
    rwa [Function.update_of_ne hne.symm]
  msg := Function.update_of_ne hne.symm _ _
  due _ := id

theorem frame_wakeup (hne : tp ≠ t) : Frame t s (s.wakeup tp) := by
  rw [Kernel.wakeup]
  split
  · exact .rfl
  · exact frame_readyI rdyTimeout hne

theorem frame_wakeupS (msg : Int) (hgood : s.vtlist.Good) (hne : s.currp ≠ t) (htp : tp ≠ t) :
    Frame t s (s.chSchWakeupS tp msg) := by
  rw [chSchWakeupS]
  split
  · exact frame_readyI msg htp
  · have hmsg : Function.update s.rdymsg tp msg t = s.rdymsg t :=
      Function.update_of_ne htp.symm _ _
    refine Frame.resume ⟨fun hnot => ?_, fun hready => ?_, hmsg, fun _ => id⟩ hgood id
    · simp only [chSchReadyI]
      grind [Function.update_apply]
    · simp only [chSchReadyI]
      grind [Function.update_apply]

theorem Sound.frame_reschedule (h : Sound idle s) (hne : s.currp ≠ t) :
    Frame t s s.chSchRescheduleS := by
  rw [chSchRescheduleS]
  split
  · next hprio => exact h.frame_ahead hne hprio
  · exact .rfl

theorem Sound.frame_yield (h : Sound idle s) (hne : s.currp ≠ t) : Frame t s s.chSchDoYieldS := by
  rw [chSchDoYieldS]
  split
  · next hprio => exact h.frame_behind hne hprio
  · exact .rfl

theorem Sound.frame_epilogue (h : Sound idle s) (hne : s.currp ≠ t) : Frame t s s.epilogue := by
  rw [Kernel.epilogue]
  split
  · next hrequired =>
    rw [chSchDoReschedule]
    rw [chSchIsPreemptionRequired] at hrequired
    split
    · next hzero =>
      rw [if_neg (not_not_intro hzero)] at hrequired
      exact h.frame_behind hne (of_decide_eq_true hrequired)
    · next hzero =>
      rw [if_pos hzero] at hrequired
      exact h.frame_ahead hne (of_decide_eq_true hrequired)
  · exact .rfl

theorem Sound.frame_goSleep (h : Sound idle s) (hne : s.currp ≠ t) (hidle : s.currp ≠ idle) :
    Frame t s (s.chSchGoSleepS newstate) := by
  obtain ⟨tp, l, hqueue⟩ := h.runs.exists_first hidle
  exact Kernel.frame_goSleep newstate h.timed.good hne hqueue

theorem Sound.frame_goSleepTimeout {time : Nat} (h : Sound idle s) (hne : s.currp ≠ t)
    (hidle : s.currp ≠ idle) (hpos : 0 < time) (hlt : time < 2 ^ 32) :
    Frame t s (s.chSchGoSleepTimeoutS newstate time) := by
  rw [chSchGoSleepTimeoutS]
  split
  · obtain ⟨tp, l, hqueue⟩ := h.runs.exists_first hidle
    have hunarmed : s.vtlist.chVTIsArmedI s.currp = false :=
      Bool.eq_false_of_not_eq_true fun harmed =>
        absurd (h.timed.armed s.currp harmed) (Bool.eq_false_iff.mp h.own)
    obtain ⟨haway, hready, hmsg, hdue⟩ := Kernel.frame_goSleep newstate
      (s := { s with
        vtlist := s.vtlist.chVTSetI s.currp time
        timed := Function.update s.timed s.currp true })
      (h.timed.good.set hunarmed hpos hlt) hne hqueue
    exact ⟨haway, hready, hmsg, fun hne hmem => hdue hne (mem_due_insert.mpr (.inr hmem))⟩
  · exact h.frame_goSleep hne hidle

theorem frame_turn (hother : s.vtlist.callback ≠ some t) : Frame t s s.turn := by
  rw [Kernel.turn]
  cases hcallback : s.vtlist.callback with
  | none =>
    refine ⟨fun _ => rfl, id, rfl, fun _ hmem => ?_⟩
    show _ ∈ due _ s.vtlist.turn.timers
    rwa [VTList.turn_of_none hcallback]
  | some tp =>
    have htp : tp ≠ t := fun heq => hother (hcallback.trans (congrArg some heq))
    obtain ⟨l, hl, hturn⟩ := VTList.turn_of_callback hcallback
    obtain ⟨haway, hready, hmsg, hdue⟩ :=
      frame_wakeup (s := { s with vtlist := s.vtlist.turn }) htp
    refine ⟨haway, hready, hmsg, fun hne hmem => hdue hne ?_⟩
    rw [hl] at hmem
    rw [hturn]
    obtain heq | hmem := List.mem_cons.mp hmem
    · exact absurd (congrArg Prod.fst heq).symm htp
    · exact hmem

theorem Good.frame {action : KernelAction τ} (h : Good idle s) (hrule : Rule idle s action)
    (hcalm : Undisturbed t s action) (htick : action ≠ .tick)
    (hturn : action = .turn → s.vtlist.callback ≠ some t) :
    Frame t s (s.step action) := by
  have hne := hcalm.ne
  have hlevel : ∀ {level : KernelLevel} {s' : Kernel τ},
      Frame t { s with level := level } s' → Frame t s s' :=
    fun hframe => ⟨hframe.away, hframe.ready, hframe.msg, hframe.due⟩
  cases action with
  | lock => exact hlevel (.rfl (s := { s with level := .system }))
  | ready tp msg => exact frame_readyI msg hcalm.2
  | reschedule => exact hlevel (h.toSound.level.frame_reschedule hne)
  | sleep newstate => exact hlevel (h.toSound.level.frame_goSleep hne hrule.2.1)
  | sleepTimeout newstate time =>
    obtain ⟨-, hidle, -, -, -, hpos, hlt⟩ := hrule
    exact hlevel (h.toSound.level.frame_goSleepTimeout hne hidle hpos hlt)
  | wakeup tp msg => exact frame_wakeupS msg h.timed.good hne hcalm.2
  | create tp prio =>
    have hstate : Function.update s.p_state tp .suspended t = s.p_state t :=
      Function.update_of_ne hcalm.2.symm _ _
    obtain ⟨haway, hready, hmsg, hdue⟩ := frame_wakeupS rdyOk
      (s := { s with
        p_prio := Function.update s.p_prio tp prio
        p_state := Function.update s.p_state tp .suspended
        p_preempt := Function.update s.p_preempt tp timeQuantum }) h.timed.good hne hcalm.2
    refine ⟨fun hnot => (haway hnot).trans hstate, fun hold => hready ?_, hmsg, hdue⟩
    rwa [← hstate] at hold
  | yield => exact h.toSound.frame_yield hne
  | interrupt => exact hlevel (.rfl (s := { s with level := .isr }))
  | tick => exact absurd rfl htick
  | turn => exact frame_turn (hturn rfl)
  | leave => exact hlevel (h.toSound.level.frame_epilogue hne)

/-- A thread that sleeps until the tick `time`, or that its timer has woken up since. -/
def Sleeper (t : τ) (newstate : ThreadState) (k time : Nat) (s : Kernel τ) : Prop :=
  Asleep t newstate k time s ∨ time ≤ k ∧ Awake t s

section Step

variable {time : Nat} (hready : newstate ≠ .ready)
include hready

theorem Sleeper.of_frame {s' : Kernel τ} (hcurrent : newstate ≠ .current)
    (h : Sleeper t newstate k time s) (hgood : Good idle s) (hgood' : Good idle s')
    (hframe : Frame t s s') : Sleeper t newstate k time s' := by
  obtain ⟨hstate, hdue⟩ | ⟨hle, hstate, hmsg⟩ := h
  · have hnot : t ∉ s.r_queue := fun hmem =>
      hready (hstate.symm.trans ((hgood.runs.queued t).mpr hmem))
    have hstate' := (hframe.away hnot).trans hstate
    have hne : s'.currp ≠ t := fun heq =>
      hcurrent (hstate'.symm.trans ((hgood'.runs.running t).mpr heq.symm))
    exact .inl ⟨hstate', hframe.due hne hdue⟩
  · exact .inr ⟨hle, hframe.ready hstate, hframe.msg.trans hmsg⟩

theorem Sleeper.turn (h : Sleeper t newstate k time s) (hgood : Good idle s) (hne : s.currp ≠ t)
    (hcallback : s.vtlist.callback = some t) : Sleeper t newstate k time s.turn := by
  simp only [Kernel.turn, hcallback, Kernel.wakeup]
  obtain ⟨hstate, hdue⟩ | ⟨hle, hstate, hmsg⟩ := h
  · -- The timer comes at its time, and finds the thread asleep.
    have heq := (hgood.timed.good.due_now hdue).2.2 hcallback
    have hasleep : s.p_state t ≠ .ready := hstate ▸ hready
    rw [if_neg hasleep]
    exact .inr ⟨Nat.le_of_eq heq, .inl (Function.update_self ..), Function.update_self ..⟩
  · have hstate' : s.p_state t = .ready := by
      refine hstate.resolve_right fun hrun => ?_
      exact hne ((hgood.runs.running t).mp hrun).symm
    rw [if_pos hstate']
    exact .inr ⟨hle, hstate, hmsg⟩

theorem Sleeper.step {action : KernelAction τ} (hcurrent : newstate ≠ .current)
    (h : Sleeper t newstate k time s) (hgood : Good idle s) (hrule : Rule idle s action)
    (hcalm : Undisturbed t s action) :
    Sleeper t newstate (k + ticksOf action) time (s.step action) := by
  by_cases htick : action = .tick
  · subst htick
    refine h.imp (fun h => ⟨h.state, ?_⟩) fun h => ⟨Nat.le_succ_of_le h.1, h.2.state, h.2.msg⟩
    show (t, time) ∈ due (k + 1) s.vtlist.chVTDoTickI.timers
    rw [hgood.timed.good.due_tick hrule.2]
    exact h.due
  · have hk : k + ticksOf action = k := by
      cases action with
      | tick => exact absurd rfl htick
      | _ => rfl
    rw [hk]
    by_cases hwoken : action = .turn ∧ s.vtlist.callback = some t
    · obtain ⟨rfl, hcallback⟩ := hwoken
      exact h.turn hready hgood hcalm hcallback
    · exact h.of_frame hready hcurrent hgood (hgood.step hrule)
        (hgood.frame hrule hcalm htick fun hturn hcallback => hwoken ⟨hturn, hcallback⟩)

theorem Sleeper.run {actions : List (KernelAction τ)} (hcurrent : newstate ≠ .current)
    (h : Sleeper t newstate k time s) (hgood : Good idle s)
    (hrules : Lib.Along (Rule idle) Kernel.step s actions)
    (hcalm : Lib.Along (Undisturbed t) Kernel.step s actions) :
    Sleeper t newstate (k + ticks actions) time (actions.foldl Kernel.step s) := by
  induction actions generalizing s k with
  | nil => exact h
  | cons action actions ih =>
    have hstep := ih (h.step hready hcurrent hgood hrules.1 hcalm.1) (hgood.step hrules.1)
      hrules.2 hcalm.2
    have hticks : k + ticks (action :: actions) = k + ticksOf action + ticks actions := by
      rw [ticks, List.map_cons, List.sum_cons, ← Nat.add_assoc]
      rfl
    rwa [hticks]

end Step

theorem Good.asleep {time : Nat} (h : Good idle s)
    (hrule : Rule idle s (.sleepTimeout newstate time)) (htime : time < timeInfinite) :
    Asleep s.currp newstate 0 time (s.step (.sleepTimeout newstate time)) := by
  obtain ⟨-, hidle, -, -, hfinal, hpos, hlt⟩ := hrule
  obtain ⟨tp, l, hqueue⟩ := h.runs.exists_first hidle
  have hne : tp ≠ s.currp := by
    rintro rfl
    exact h.runs.notMem (hqueue ▸ List.mem_cons_self)
  have hgood := (h.timed.set h.own hpos hlt hfinal).good
  have hdue : (s.currp, time) ∈ due 0 (s.vtlist.chVTSetI s.currp time).timers :=
    mem_due_insert.mpr (.inl (by rw [Nat.zero_add]))
  have hstate : Function.update (Function.update s.p_state s.currp newstate) tp .current s.currp =
      newstate := by
    rw [Function.update_of_ne hne.symm, Function.update_self]
  let s' : Kernel τ :=
    { s with
      vtlist := s.vtlist.chVTSetI s.currp time
      timed := Function.update s.timed s.currp true
      level := .thread }
  have hstep : s.step (.sleepTimeout newstate time) = s'.chSchGoSleepS newstate :=
    if_pos (Nat.ne_of_lt htime)
  rw [hstep, goSleep_of_cons (s := s') hqueue]
  exact ⟨(congrFun resume_p_state s.currp).trans hstate,
    (Frame.rfl.resume hgood id).due (by rwa [resume_currp]) hdue⟩

/-- A thread that sleeps for a number of ticks, until it is switched to again and if nothing else
wakes it up, sleeps through fewer ticks than that and into the loop of the last one, and is woken up
in this one, by its timer. -/
theorem sleeps_on_time {main idle t : τ} {newstate : ThreadState} {time : Nat}
    {before after : List (KernelAction τ)} (hne : main ≠ idle)
    (hrules : Lib.Along (Rule idle) Kernel.step (init main idle)
      (before ++ KernelAction.sleepTimeout newstate time :: after))
    (htime : time < timeInfinite)
    (hcurrp : (before.foldl Kernel.step (init main idle)).currp = t)
    (hcalm : Lib.Along (Undisturbed t) Kernel.step
      ((before.foldl Kernel.step (init main idle)).step (.sleepTimeout newstate time)) after) :
    let s := (before ++ KernelAction.sleepTimeout newstate time :: after).foldl Kernel.step
      (init main idle)
    (s.p_state t = newstate →
        ticks after ≤ time ∧ (ticks after = time → s.vtlist.ticking = true)) ∧
      (s.p_state t ≠ newstate → time ≤ ticks after ∧ s.rdymsg t = rdyTimeout) := by
  intro s
  obtain ⟨hbefore, hsleep, hafter⟩ := Lib.Along.append.mp hrules
  have hgood := good_run hne hbefore
  obtain ⟨-, -, hready, hcurrent, -⟩ := id hsleep
  have hasleep := hgood.asleep hsleep htime
  rw [hcurrp] at hasleep
  have hrun := Sleeper.run hready hcurrent (.inl hasleep) (hgood.step hsleep) hafter hcalm
  have hs : after.foldl Kernel.step
      ((before.foldl Kernel.step (init main idle)).step (.sleepTimeout newstate time)) = s := by
    simp only [s, List.foldl_append, List.foldl_cons]
  rw [hs, Nat.zero_add] at hrun
  obtain ⟨hstate, hdue⟩ | ⟨hle, hstate, hmsg⟩ := hrun
  · obtain ⟨hle, hloop, -⟩ := (good_run hne hrules).timed.good.due_now hdue
    exact ⟨fun _ => ⟨hle, fun heq => hloop heq.symm⟩, fun hwoken => absurd hstate hwoken⟩
  · refine ⟨fun hsleeps => ?_, fun _ => ⟨hle, hmsg⟩⟩
    obtain hawake | hawake := hstate
    · exact absurd (hsleeps.symm.trans hawake) hready
    · exact absurd (hsleeps.symm.trans hawake) hcurrent

theorem sleeps_on_time_ready :
    let s := [.lock, .sleepTimeout .sleeping 2, .tick, .turn, .leave, .tick, .turn].foldl Kernel.step
      (init 0 1)
    s.rdymsg 0 = rdyTimeout :=
  ((@sleeps_on_time Nat _ 0 1 0 .sleeping 2 [.lock] [.tick, .turn, .leave, .tick, .turn] (by decide)
    (by decide) (by decide) rfl (by decide)).2 (by decide)).2

end TurningPoint.Kernel
