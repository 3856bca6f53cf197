import TurningPoint.Kernel.Defs

universe u

namespace TurningPoint.Kernel

variable {τ : Type u}

structure Runs (idle : τ) (prio : τ → Nat) (state : τ → ThreadState) (queue : List τ)
    (currp : τ) : Prop where
  running : ∀ tp, state tp = .current ↔ tp = currp
  queued : ∀ tp, state tp = .ready ↔ tp ∈ queue
  nodup : queue.Nodup
  sorted : queue.Pairwise fun tp tp' => prio tp' ≤ prio tp
  idle : idle = currp ∨ idle ∈ queue
  pos : ∀ tp, state tp ≠ .final → 0 < prio tp

def Highest (prio : τ → Nat) (queue : List τ) (currp : τ) : Prop :=
  ∀ tp ∈ queue, prio tp ≤ prio currp

/-- Only threads in `chSchGoSleepTimeoutS` have timers in the list, and those that sleep there all
have. -/
structure Timed [DecidableEq τ] (vtlist : VTList τ) (timed : τ → Bool) (state : τ → ThreadState) :
    Prop where
  good : vtlist.Good
  armed : ∀ tp, vtlist.chVTIsArmedI tp = true → timed tp = true
  alive : ∀ tp, timed tp = true → state tp ≠ .final
  asleep : ∀ tp, timed tp = true → state tp ≠ .ready → state tp ≠ .current →
    vtlist.chVTIsArmedI tp = true

variable {idle tp tp' currp : τ} {prio : τ → Nat} {state : τ → ThreadState} {queue l : List τ}
variable {passes : τ → Bool}

theorem enqueue_perm : (enqueue passes tp l).Perm (tp :: l) := by
  induction l with
  | nil => exact .refl _
  | cons cp l ih =>
    rw [enqueue]
    split
    · exact (ih.cons cp).trans (.swap tp cp l)
    · exact .refl _

theorem mem_enqueue : tp' ∈ enqueue passes tp l ↔ tp' = tp ∨ tp' ∈ l :=
  enqueue_perm.mem_iff.trans List.mem_cons

theorem enqueue_sorted (hpass : ∀ cp, passes cp = true → prio tp ≤ prio cp)
    (hstop : ∀ cp, passes cp = false → prio cp ≤ prio tp)
    (h : l.Pairwise fun tp tp' => prio tp' ≤ prio tp) :
    (enqueue passes tp l).Pairwise fun tp tp' => prio tp' ≤ prio tp := by
  induction l with
  | nil => exact List.pairwise_singleton _ _
  | cons cp l ih =>
    obtain ⟨hcp, hl⟩ := List.pairwise_cons.mp h
    rw [enqueue]
    split
    · next hpasses =>
      refine List.pairwise_cons.mpr ⟨fun c hc => ?_, ih hl⟩
      obtain rfl | hc := mem_enqueue.mp hc
      · exact hpass cp hpasses
      · exact hcp c hc
    · next hpasses =>
      have hle := hstop cp (Bool.eq_false_of_not_eq_true hpasses)
      refine List.pairwise_cons.mpr ⟨List.forall_mem_cons.mpr ⟨hle, fun c hc => ?_⟩, h⟩
      exact Nat.le_trans (hcp c hc) hle

theorem Runs.notMem (h : Runs idle prio state queue currp) : currp ∉ queue := by
  intro hmem
  have hready := (h.queued currp).mpr hmem
  rw [(h.running currp).mpr rfl] at hready
  cases hready

theorem Runs.pos_currp (h : Runs idle prio state queue currp) : 0 < prio currp := by
  refine h.pos currp ?_
  rw [(h.running currp).mpr rfl]
  exact nofun

theorem Runs.first (h : Runs idle prio state (tp :: l) currp) : Highest prio l tp :=
  (List.pairwise_cons.mp h.sorted).1

theorem Runs.ne_of_final (h : Runs idle prio state queue currp) (hfinal : state tp = .final) :
    tp ≠ currp ∧ tp ∉ queue := by
  constructor
  · rintro rfl
    exact nomatch hfinal.symm.trans ((h.running tp).mpr rfl)
  · intro hmem
    exact nomatch hfinal.symm.trans ((h.queued tp).mpr hmem)

theorem Highest.enqueue (h : Highest prio l currp) (hle : prio tp ≤ prio currp) :
    Highest prio (enqueue passes tp l) currp := by
  intro c hc
  obtain rfl | hc := mem_enqueue.mp hc
  · exact hle
  · exact h c hc

theorem Highest.of_le (h : Highest prio queue currp) (hle : prio currp ≤ prio tp) :
    Highest prio queue tp :=
  fun c hc => Nat.le_trans (h c hc) hle

variable {s : Kernel τ}

theorem Runs.exists_first (h : Runs idle prio state queue currp) (hidle : currp ≠ idle) :
    ∃ tp l, queue = tp :: l := by
  obtain heq | hmem := h.idle
  · exact absurd heq.symm hidle
  · exact List.exists_cons_of_ne_nil (List.ne_nil_of_mem hmem)

theorem exists_first_of_firstprio (h : 0 < s.firstprio) :
    ∃ tp l, s.r_queue = tp :: l ∧ s.firstprio = s.p_prio tp := by
  unfold firstprio at h ⊢
  cases hqueue : s.r_queue with
  | nil => rw [hqueue] at h; exact absurd h (Nat.lt_irrefl 0)
  | cons tp l => exact ⟨tp, l, rfl, rfl⟩

theorem highest_of_firstprio (hruns : Runs idle s.p_prio s.p_state s.r_queue s.currp)
    (h : s.firstprio ≤ s.p_prio s.currp) : Highest s.p_prio s.r_queue s.currp := by
  unfold firstprio at h
  obtain ⟨-, -, -, hsorted, -, -⟩ := hruns
  cases hqueue : s.r_queue with
  | nil => exact List.forall_mem_nil _
  | cons tp l =>
    rw [hqueue] at h hsorted
    exact List.forall_mem_cons.mpr ⟨h, fun c hc =>
      Nat.le_trans ((List.pairwise_cons.mp hsorted).1 c hc) h⟩

variable [DecidableEq τ]

theorem Runs.sleep {newstate : ThreadState} (h : Runs idle prio state (tp :: l) currp)
    (hidle : currp ≠ idle) (hready : newstate ≠ .ready) (hcurrent : newstate ≠ .current) :
    Runs idle prio (Function.update (Function.update state currp newstate) tp .current) l tp := by
  obtain ⟨hrunning, hqueued, hnodup, hsorted, hkept, hpos⟩ := h
  obtain ⟨htp, hl⟩ := List.nodup_cons.mp hnodup
  refine ⟨fun c => ?_, fun c => ?_, hl, hsorted.of_cons, ?_, fun c hc => ?_⟩
  · have := hrunning c
    grind [Function.update_apply]
  · have := hrunning c
    have := hqueued c
    grind [Function.update_apply]
  · have := hkept
    grind
  · have := hpos c
    have := hrunning c
    have := hqueued c
    grind [Function.update_apply]

theorem Runs.ready (h : Runs idle prio state queue currp) (hready : state tp ≠ .ready)
    (hcurrent : state tp ≠ .current) (hfinal : state tp ≠ .final)
    (hpass : ∀ cp, passes cp = true → prio tp ≤ prio cp)
    (hstop : ∀ cp, passes cp = false → prio cp ≤ prio tp) :
    Runs idle prio (Function.update state tp .ready) (enqueue passes tp queue) currp := by
  obtain ⟨hrunning, hqueued, hnodup, hsorted, hkept, hpos⟩ := h
  have htp : tp ∉ queue := fun hmem => hready ((hqueued tp).mpr hmem)
  refine ⟨fun c => ?_, fun c => ?_, ?_, enqueue_sorted hpass hstop hsorted, ?_, fun c hc => ?_⟩
  · have := hrunning c
    grind [Function.update_apply]
  · have := hqueued c
    grind [Function.update_apply, mem_enqueue]
  · exact enqueue_perm.nodup_iff.mpr (List.nodup_cons.mpr ⟨htp, hnodup⟩)
  · exact hkept.imp_right fun hmem => mem_enqueue.mpr (.inr hmem)
  · have := hpos c
    grind [Function.update_apply]

theorem Runs.switch (h : Runs idle prio state queue currp) (hready : state tp ≠ .ready)
    (hcurrent : state tp ≠ .current) (hfinal : state tp ≠ .final)
    (hpass : ∀ cp, passes cp = true → prio currp ≤ prio cp)
    (hstop : ∀ cp, passes cp = false → prio cp ≤ prio currp) :
    Runs idle prio (Function.update (Function.update state currp .ready) tp .current)
      (enqueue passes currp queue) tp := by
  have hnot := h.notMem
  obtain ⟨hrunning, hqueued, hnodup, hsorted, hkept, hpos⟩ := h
  refine ⟨fun c => ?_, fun c => ?_, ?_, enqueue_sorted hpass hstop hsorted, ?_, fun c hc => ?_⟩
  · have := hrunning c
    grind [Function.update_apply]
  · have := hqueued c
    have := hrunning c
    grind [Function.update_apply, mem_enqueue]
  · exact enqueue_perm.nodup_iff.mpr (List.nodup_cons.mpr ⟨hnot, hnodup⟩)
  · exact .inr (mem_enqueue.mpr hkept)
  · have := hpos c
    have := hrunning c
    grind [Function.update_apply]

theorem Runs.requeue (h : Runs idle prio state (tp :: l) currp)
    (hpass : ∀ cp, passes cp = true → prio currp ≤ prio cp)
    (hstop : ∀ cp, passes cp = false → prio cp ≤ prio currp) :
    Runs idle prio (Function.update (Function.update state tp .current) currp .ready)
      (enqueue passes currp l) tp := by
  have hnot := h.notMem
  obtain ⟨hrunning, hqueued, hnodup, hsorted, hkept, hpos⟩ := h
  obtain ⟨htp, hl⟩ := List.nodup_cons.mp hnodup
  have hnot' : currp ∉ l := fun hmem => hnot (List.mem_cons_of_mem tp hmem)
  refine ⟨fun c => ?_, fun c => ?_, ?_, enqueue_sorted hpass hstop hsorted.of_cons, ?_,
    fun c hc => ?_⟩
  · have := hrunning c
    grind [Function.update_apply]
  · have := hqueued c
    have := hrunning c
    grind [Function.update_apply, mem_enqueue]
  · exact enqueue_perm.nodup_iff.mpr (List.nodup_cons.mpr ⟨hnot', hl⟩)
  · have := hkept
    grind [mem_enqueue]
  · have := hpos c
    have := hrunning c
    have := hqueued c
    grind [Function.update_apply]

section Timed

variable {vtlist : VTList τ} {timed : τ → Bool} {newstate : ThreadState} {time : Nat}

theorem Timed.update (h : Timed vtlist timed state)
    (hstate : newstate = .ready ∨ newstate = .current) :
    Timed vtlist timed (Function.update state tp newstate) where
  good := h.good
  armed := h.armed
  alive c hc := by
    have := h.alive c hc
    grind [Function.update_apply]
  asleep c hc hready hcurrent := by
    have := h.asleep c hc
    grind [Function.update_apply]

theorem Timed.untimed (h : Timed vtlist timed state) (hown : timed tp = false) :
    Timed vtlist timed (Function.update state tp newstate) where
  good := h.good
  armed := h.armed
  alive c hc := by
    have := h.alive c hc
    grind [Function.update_apply]
  asleep c hc hready hcurrent := by
    have := h.asleep c hc
    grind [Function.update_apply]

theorem Timed.set (h : Timed vtlist timed state) (hown : timed tp = false) (hpos : 0 < time)
    (hlt : time < 2 ^ 32) (hfinal : newstate ≠ .final) :
    Timed (vtlist.chVTSetI tp time) (Function.update timed tp true)
      (Function.update state tp newstate) where
  good := by
    refine h.good.set (Bool.eq_false_of_not_eq_true fun harmed => ?_) hpos hlt
    exact absurd (hown.symm.trans (h.armed tp harmed)) nofun
  armed c hc := by
    have := h.armed c
    have := VTList.isArmed_set.mp hc
    grind [Function.update_apply]
  alive c hc := by
    have := h.alive c
    grind [Function.update_apply]
  asleep c hc hready hcurrent := by
    have := h.asleep c
    refine VTList.isArmed_set.mpr ?_
    grind [Function.update_apply]

theorem Timed.reset (h : Timed vtlist timed state) :
    Timed (if vtlist.chVTIsArmedI tp then vtlist.chVTResetI tp else vtlist)
      (Function.update timed tp false) state := by
  by_cases harmed : vtlist.chVTIsArmedI tp = true
  · rw [if_pos harmed]
    refine ⟨h.good.reset, fun c hc => ?_, fun c hc => ?_, fun c hc hready hcurrent => ?_⟩
    · obtain ⟨hne, hc⟩ := h.good.isArmed_reset.mp hc
      rw [Function.update_of_ne hne]
      exact h.armed c hc
    · have := h.alive c
      grind [Function.update_apply]
    · refine h.good.isArmed_reset.mpr ?_
      have := h.asleep c
      grind [Function.update_apply]
  · rw [if_neg harmed]
    refine ⟨h.good, fun c hc => ?_, fun c hc => ?_, fun c hc hready hcurrent => ?_⟩
    · have hne : c ≠ tp := fun heq => harmed (heq ▸ hc)
      rw [Function.update_of_ne hne]
      exact h.armed c hc
    · have := h.alive c
      grind [Function.update_apply]
    · have := h.asleep c
      grind [Function.update_apply]

theorem Timed.tick (h : Timed vtlist timed state) (hticking : vtlist.ticking = false) :
    Timed vtlist.chVTDoTickI timed state where
  good := h.good.tick hticking
  armed c hc := h.armed c (VTList.isArmed_tick.symm.trans hc)
  alive := h.alive
  asleep c hc hready hcurrent := VTList.isArmed_tick.trans (h.asleep c hc hready hcurrent)

theorem Timed.fire (h : Timed vtlist timed state) (hcallback : vtlist.callback = some tp) :
    Timed vtlist.turn timed (Function.update state tp .ready) where
  good := h.good.turn (VTList.callback_eq_some.mp hcallback).1
  armed c hc := h.armed c ((h.good.isArmed_turn hcallback).mp hc).2
  alive c hc := by
    have := h.alive c hc
    grind [Function.update_apply]
  asleep c hc hready hcurrent := by
    refine (h.good.isArmed_turn hcallback).mpr ?_
    have := h.asleep c hc
    grind [Function.update_apply]

theorem Timed.finish (h : Timed vtlist timed state) (hcallback : vtlist.callback = none)
    (hticking : vtlist.ticking = true) : Timed vtlist.turn timed state where
  good := h.good.turn hticking
  armed c hc := h.armed c (by rwa [VTList.turn_of_none hcallback] at hc)
  alive := h.alive
  asleep c hc hready hcurrent := by
    rw [VTList.turn_of_none hcallback]
    exact h.asleep c hc hready hcurrent

end Timed

theorem Runs.create {p : Nat} (h : Runs idle prio state queue currp) (hfinal : state tp = .final)
    (hpos : 0 < p) :
    Runs idle (Function.update prio tp p) (Function.update state tp .suspended) queue currp := by
  obtain ⟨hcurrp, hqueue⟩ := h.ne_of_final hfinal
  obtain ⟨hrunning, hqueued, hnodup, hsorted, hkept, hprio⟩ := h
  refine ⟨fun c => ?_, fun c => ?_, hnodup, ?_, hkept, fun c hc => ?_⟩
  · have := hrunning c
    grind [Function.update_apply]
  · have := hqueued c
    grind [Function.update_apply]
  · refine hsorted.imp_of_mem fun {c c'} hc hc' hle => ?_
    rwa [Function.update_of_ne (ne_of_mem_of_not_mem hc hqueue),
      Function.update_of_ne (ne_of_mem_of_not_mem hc' hqueue)]
  · have := hprio c
    grind [Function.update_apply]

theorem Runs.create_highest {p : Nat} (h : Runs idle prio state queue currp)
    (hfinal : state tp = .final) (hhighest : Highest prio queue currp) :
    Highest (Function.update prio tp p) queue currp := by
  obtain ⟨hcurrp, hqueue⟩ := h.ne_of_final hfinal
  intro c hc
  rw [Function.update_of_ne (ne_of_mem_of_not_mem hc hqueue), Function.update_of_ne hcurrp.symm]
  exact hhighest c hc

/-- What holds wherever a thread may be interrupted, and while it has the system locked. -/
structure Sound (idle : τ) (s : Kernel τ) : Prop where
  runs : Runs idle s.p_prio s.p_state s.r_queue s.currp
  found : s.lost = false
  timed : Timed s.vtlist s.timed s.p_state
  own : s.timed s.currp = false

structure Good (idle : τ) (s : Kernel τ) : Prop extends Sound idle s where
  highest : s.level = .thread → Highest s.p_prio s.r_queue s.currp
  loop : s.vtlist.ticking = true → s.level = .isr

@[simp] theorem resume_p_prio : s.resume.p_prio = s.p_prio := by
  unfold resume; split <;> rfl

@[simp] theorem resume_p_state : s.resume.p_state = s.p_state := by
  unfold resume; split <;> rfl

@[simp] theorem resume_rdymsg : s.resume.rdymsg = s.rdymsg := by
  unfold resume; split <;> rfl

@[simp] theorem resume_r_queue : s.resume.r_queue = s.r_queue := by
  unfold resume; split <;> rfl

@[simp] theorem resume_currp : s.resume.currp = s.currp := by
  unfold resume; split <;> rfl

@[simp] theorem resume_lost : s.resume.lost = s.lost := by
  unfold resume; split <;> rfl

@[simp] theorem resume_ticking : s.resume.vtlist.ticking = s.vtlist.ticking := by
  unfold resume
  split
  · show (if _ then _ else _ : VTList τ).ticking = _
    split <;> rfl
  · rfl

theorem sound_resume (hruns : Runs idle s.p_prio s.p_state s.r_queue s.currp)
    (hfound : s.lost = false) (htimed : Timed s.vtlist s.timed s.p_state) :
    Sound idle s.resume where
  runs := by simpa using hruns
  found := by simpa using hfound
  timed := by
    rw [resume_p_state, resume]
    split
    · exact htimed.reset
    · exact htimed
  own := by
    rw [resume_currp, resume]
    split
    · exact Function.update_self s.currp false s.timed
    · next hown => exact Bool.eq_false_of_not_eq_true hown

theorem setFirst_of_cons (h : s.r_queue = tp :: l) :
    s.setFirst =
      { s with
        p_state := Function.update s.p_state tp .current
        r_queue := l
        currp := tp } := by
  rw [setFirst, h]

theorem goSleep_of_cons {newstate : ThreadState} (h : s.r_queue = tp :: l) :
    s.chSchGoSleepS newstate =
      { s with
        p_state := Function.update (Function.update s.p_state s.currp newstate) tp .current
        p_preempt := Function.update s.p_preempt s.currp timeQuantum
        r_queue := l
        currp := tp }.resume :=
  congrArg resume (setFirst_of_cons h)

theorem behind_of_cons (h : s.r_queue = tp :: l) :
    s.chSchDoRescheduleBehind =
      { s with
        p_state := Function.update (Function.update s.p_state tp .current) s.currp .ready
        p_preempt := Function.update s.p_preempt s.currp timeQuantum
        r_queue := enqueue (fun cp => s.p_prio s.currp ≤ s.p_prio cp) s.currp l
        currp := tp }.resume := by
  rw [chSchDoRescheduleBehind, setFirst_of_cons h]
  rfl

theorem ahead_of_cons (h : s.r_queue = tp :: l) :
    s.chSchDoRescheduleAhead =
      { s with
        p_state := Function.update (Function.update s.p_state tp .current) s.currp .ready
        r_queue := enqueue (fun cp => s.p_prio s.currp < s.p_prio cp) s.currp l
        currp := tp }.resume := by
  rw [chSchDoRescheduleAhead, setFirst_of_cons h]

theorem sound_goSleep {newstate : ThreadState}
    (hruns : Runs idle s.p_prio s.p_state s.r_queue s.currp) (hfound : s.lost = false)
    (htimed : Timed s.vtlist s.timed (Function.update s.p_state s.currp newstate))
    (hidle : s.currp ≠ idle) (hready : newstate ≠ .ready) (hcurrent : newstate ≠ .current) :
    Sound idle (s.chSchGoSleepS newstate) ∧
      Highest s.p_prio (s.chSchGoSleepS newstate).r_queue (s.chSchGoSleepS newstate).currp := by
  obtain ⟨tp, l, hqueue⟩ := hruns.exists_first hidle
  rw [hqueue] at hruns
  rw [goSleep_of_cons hqueue]
  constructor
  · exact sound_resume (hruns.sleep hidle hready hcurrent) hfound (htimed.update (.inr rfl))
  · rw [resume_r_queue, resume_currp]
    exact hruns.first

theorem Sound.behind (h : Sound idle s) (hprio : s.firstprio ≥ s.p_prio s.currp) :
    Sound idle s.chSchDoRescheduleBehind ∧
      Highest s.p_prio s.chSchDoRescheduleBehind.r_queue s.chSchDoRescheduleBehind.currp := by
  obtain ⟨hruns, hfound, htimed, -⟩ := h
  obtain ⟨tp, l, hqueue, hfirst⟩ :=
    exists_first_of_firstprio (Nat.lt_of_lt_of_le hruns.pos_currp hprio)
  rw [hqueue] at hruns
  rw [hfirst] at hprio
  rw [behind_of_cons hqueue]
  constructor
  · refine sound_resume (hruns.requeue ?_ ?_) hfound
      ((htimed.update (.inr rfl)).update (.inl rfl))
    · exact fun cp hpass => of_decide_eq_true hpass
    · exact fun cp hstop => Nat.le_of_not_le (of_decide_eq_false hstop)
  · rw [resume_r_queue, resume_currp]
    exact hruns.first.enqueue hprio

theorem Sound.ahead (h : Sound idle s) (hprio : s.firstprio > s.p_prio s.currp) :
    Sound idle s.chSchDoRescheduleAhead ∧
      Highest s.p_prio s.chSchDoRescheduleAhead.r_queue s.chSchDoRescheduleAhead.currp := by
  obtain ⟨hruns, hfound, htimed, -⟩ := h
  obtain ⟨tp, l, hqueue, hfirst⟩ := exists_first_of_firstprio (Nat.zero_lt_of_lt hprio)
  rw [hqueue] at hruns
  rw [hfirst] at hprio
  rw [ahead_of_cons hqueue]
  constructor
  · refine sound_resume (hruns.requeue ?_ ?_) hfound
      ((htimed.update (.inr rfl)).update (.inl rfl))
    · exact fun cp hpass => Nat.le_of_lt (of_decide_eq_true hpass)
    · exact fun cp hstop => Nat.le_of_not_lt (of_decide_eq_false hstop)
  · rw [resume_r_queue, resume_currp]
    exact hruns.first.enqueue (Nat.le_of_lt hprio)

theorem Sound.readyI (h : Sound idle s) (hwaits : s.Waits tp) : Sound idle (s.chSchReadyI tp) where
  runs := by
    refine h.runs.ready hwaits.1 hwaits.2.1 hwaits.2.2 ?_ ?_
    · exact fun cp hpass => of_decide_eq_true hpass
    · exact fun cp hstop => Nat.le_of_not_le (of_decide_eq_false hstop)
  found := h.found
  timed := h.timed.update (.inl rfl)
  own := h.own

theorem Sound.wakeupS (tp : τ) (msg : Int) (h : Sound idle s) (hwaits : s.Waits tp)
    (hhighest : Highest s.p_prio s.r_queue s.currp) :
    Sound idle (s.chSchWakeupS tp msg) ∧
      Highest s.p_prio (s.chSchWakeupS tp msg).r_queue (s.chSchWakeupS tp msg).currp := by
  rw [chSchWakeupS]
  split
  · next hle =>
    have h' : Sound idle { s with rdymsg := Function.update s.rdymsg tp msg } :=
      ⟨h.runs, h.found, h.timed, h.own⟩
    exact ⟨h'.readyI hwaits, hhighest.enqueue hle⟩
  · next hlt =>
    have hle := Nat.le_of_not_le hlt
    constructor
    · refine sound_resume (h.runs.switch hwaits.1 hwaits.2.1 hwaits.2.2 ?_ ?_) h.found
        ((h.timed.update (.inl rfl)).update (.inr rfl))
      · exact fun cp hpass => of_decide_eq_true hpass
      · exact fun cp hstop => Nat.le_of_not_le (of_decide_eq_false hstop)
    · rw [resume_r_queue, resume_currp]
      exact (hhighest.of_le hle).enqueue hle

@[simp] theorem setFirst_vtlist : s.setFirst.vtlist = s.vtlist := by
  unfold setFirst; split <;> rfl

@[simp] theorem goSleep_ticking {newstate : ThreadState} :
    (s.chSchGoSleepS newstate).vtlist.ticking = s.vtlist.ticking := by
  simp [chSchGoSleepS]

@[simp] theorem behind_ticking : s.chSchDoRescheduleBehind.vtlist.ticking = s.vtlist.ticking := by
  simp [chSchDoRescheduleBehind, chSchReadyI]

@[simp] theorem ahead_ticking : s.chSchDoRescheduleAhead.vtlist.ticking = s.vtlist.ticking := by
  simp [chSchDoRescheduleAhead]

@[simp] theorem wakeupS_ticking {msg : Int} :
    (s.chSchWakeupS tp msg).vtlist.ticking = s.vtlist.ticking := by
  rw [chSchWakeupS]
  split
  · rfl
  · exact resume_ticking

@[simp] theorem wakeupS_p_prio {msg : Int} : (s.chSchWakeupS tp msg).p_prio = s.p_prio := by
  rw [chSchWakeupS]
  split
  · rfl
  · exact resume_p_prio

@[simp] theorem setFirst_p_prio : s.setFirst.p_prio = s.p_prio := by
  unfold setFirst; split <;> rfl

@[simp] theorem goSleep_p_prio {newstate : ThreadState} :
    (s.chSchGoSleepS newstate).p_prio = s.p_prio := by
  simp [chSchGoSleepS]

@[simp] theorem behind_p_prio : s.chSchDoRescheduleBehind.p_prio = s.p_prio := by
  simp [chSchDoRescheduleBehind, chSchReadyI]

@[simp] theorem ahead_p_prio : s.chSchDoRescheduleAhead.p_prio = s.p_prio := by
  simp [chSchDoRescheduleAhead]

theorem Sound.level {level : KernelLevel} (h : Sound idle s) :
    Sound idle { s with level := level } :=
  ⟨h.runs, h.found, h.timed, h.own⟩

theorem Sound.good (h : Sound idle s) (hhighest : Highest s.p_prio s.r_queue s.currp)
    (hticking : s.vtlist.ticking = false) : Good idle s :=
  ⟨h, fun _ => hhighest, fun hloop => absurd (hticking.symm.trans hloop) nofun⟩

theorem Good.ticking (h : Good idle s) (hlevel : s.level ≠ .isr) : s.vtlist.ticking = false :=
  Bool.eq_false_of_not_eq_true fun hloop => hlevel (h.loop hloop)

theorem Sound.reschedule (h : Sound idle s) (hticking : s.vtlist.ticking = false) :
    Good idle s.chSchRescheduleS := by
  rw [chSchRescheduleS]
  split
  · next hprio =>
    obtain ⟨hsound, hhighest⟩ := h.ahead hprio
    exact hsound.good (by rwa [ahead_p_prio]) (ahead_ticking.trans hticking)
  · next hprio =>
    exact h.good (highest_of_firstprio h.runs (Nat.le_of_not_lt hprio)) hticking

theorem Sound.goSleep {newstate : ThreadState} (h : Sound idle s)
    (hticking : s.vtlist.ticking = false) (hidle : s.currp ≠ idle) (hready : newstate ≠ .ready)
    (hcurrent : newstate ≠ .current) : Good idle (s.chSchGoSleepS newstate) := by
  obtain ⟨hsound, hhighest⟩ :=
    sound_goSleep h.runs h.found (h.timed.untimed h.own) hidle hready hcurrent
  exact hsound.good (by rwa [goSleep_p_prio]) (goSleep_ticking.trans hticking)

theorem Sound.goSleepTimeout {newstate : ThreadState} {time : Nat} (h : Sound idle s)
    (hticking : s.vtlist.ticking = false) (hidle : s.currp ≠ idle) (hready : newstate ≠ .ready)
    (hcurrent : newstate ≠ .current) (hfinal : newstate ≠ .final) (hpos : 0 < time)
    (hlt : time < 2 ^ 32) : Good idle (s.chSchGoSleepTimeoutS newstate time) := by
  rw [chSchGoSleepTimeoutS]
  split
  · obtain ⟨hsound, hhighest⟩ := sound_goSleep
      (s := { s with
        vtlist := s.vtlist.chVTSetI s.currp time
        timed := Function.update s.timed s.currp true })
      h.runs h.found (h.timed.set h.own hpos hlt hfinal) hidle hready hcurrent
    exact hsound.good (by rwa [goSleep_p_prio]) (goSleep_ticking.trans hticking)
  · exact h.goSleep hticking hidle hready hcurrent

theorem Good.yield (h : Good idle s) (hlevel : s.level = .thread) :
    Good idle s.chSchDoYieldS := by
  have hticking := h.ticking (by rw [hlevel]; exact nofun)
  rw [chSchDoYieldS]
  split
  · next hprio =>
    obtain ⟨hsound, hhighest⟩ := h.toSound.behind hprio
    exact hsound.good (by rwa [behind_p_prio]) (behind_ticking.trans hticking)
  · exact h

theorem Sound.epilogue (h : Sound idle s) (hticking : s.vtlist.ticking = false) :
    Good idle s.epilogue := by
  rw [Kernel.epilogue]
  split
  · next hrequired =>
    rw [chSchDoReschedule]
    rw [chSchIsPreemptionRequired] at hrequired
    split
    · next hzero =>
      rw [if_neg (not_not_intro hzero)] at hrequired
      obtain ⟨hsound, hhighest⟩ := h.behind (of_decide_eq_true hrequired)
      exact hsound.good (by rwa [behind_p_prio]) (behind_ticking.trans hticking)
    · next hzero =>
      rw [if_pos hzero] at hrequired
      obtain ⟨hsound, hhighest⟩ := h.ahead (of_decide_eq_true hrequired)
      exact hsound.good (by rwa [ahead_p_prio]) (ahead_ticking.trans hticking)
  · next hrequired =>
    refine h.good (highest_of_firstprio h.runs ?_) hticking
    rw [chSchIsPreemptionRequired] at hrequired
    split at hrequired
    · exact Nat.le_of_not_lt fun hlt => hrequired (decide_eq_true hlt)
    · exact Nat.le_of_not_le fun hle => hrequired (decide_eq_true hle)

theorem Good.create {tp : τ} {prio : Nat} (h : Good idle s) (hlevel : s.level = .thread)
    (hfinal : s.p_state tp = .final) (hpos : 0 < prio) :
    Good idle (s.chThdCreateStatic tp prio) := by
  have hticking := h.ticking (by rw [hlevel]; exact nofun)
  have hown : s.timed tp = false :=
    Bool.eq_false_of_not_eq_true fun htimed => h.timed.alive tp htimed hfinal
  have hsound : Sound idle
      { s with
        p_prio := Function.update s.p_prio tp prio
        p_state := Function.update s.p_state tp .suspended
        p_preempt := Function.update s.p_preempt tp timeQuantum } :=
    ⟨h.runs.create hfinal hpos, h.found, h.timed.untimed hown, h.own⟩
  have hhighest := h.runs.create_highest (p := prio) hfinal (h.highest hlevel)
  obtain ⟨hsound, hhighest⟩ := hsound.wakeupS tp rdyOk (by simp [Waits]) hhighest
  exact hsound.good (by rwa [wakeupS_p_prio]) (wakeupS_ticking.trans hticking)

theorem Good.turn (h : Good idle s) (hticking : s.vtlist.ticking = true) : Good idle s.turn := by
  have hlevel := h.loop hticking
  have hthread : s.level ≠ .thread := by rw [hlevel]; exact nofun
  obtain ⟨⟨hruns, hfound, htimed, hown⟩, -, -⟩ := h
  rw [Kernel.turn]
  cases hcallback : s.vtlist.callback with
  | none =>
    exact ⟨⟨hruns, hfound, htimed.finish hcallback hticking, hown⟩,
      fun h => absurd h hthread, fun _ => hlevel⟩
  | some tp =>
    have htp := htimed.armed tp (VTList.isArmed_of_callback hcallback)
    have hcurrent : s.p_state tp ≠ .current := fun hstate => by
      obtain rfl := (hruns.running tp).mp hstate
      exact absurd (hown.symm.trans htp) nofun
    have hfire := htimed.fire hcallback
    simp only [Kernel.wakeup]
    split
    · next hready =>
      rw [Function.update_eq_self_iff.mpr hready.symm] at hfire
      exact ⟨⟨hruns, hfound, hfire, hown⟩, fun h => absurd h hthread, fun _ => hlevel⟩
    · next hready =>
      refine ⟨⟨hruns.ready hready hcurrent (htimed.alive tp htp) ?_ ?_, hfound, hfire, hown⟩,
        fun h => absurd h hthread, fun _ => hlevel⟩
      · exact fun cp hpass => of_decide_eq_true hpass
      · exact fun cp hstop => Nat.le_of_not_le (of_decide_eq_false hstop)

theorem Good.step {action : KernelAction τ} (h : Good idle s) (hrule : Rule idle s action) :
    Good idle (s.step action) := by
  cases action with
  | lock =>
    have hlevel : s.level = .thread := hrule
    exact ⟨h.toSound.level, nofun, fun hloop => absurd ((h.loop hloop).symm.trans hlevel) nofun⟩
  | ready tp msg =>
    have hsound : Sound idle { s with rdymsg := Function.update s.rdymsg tp msg } :=
      ⟨h.runs, h.found, h.timed, h.own⟩
    exact ⟨hsound.readyI hrule.2, fun hthread => absurd hthread hrule.1, h.loop⟩
  | reschedule =>
    have hlevel : s.level = .system := hrule
    exact h.toSound.level.reschedule (h.ticking (by rw [hlevel]; exact nofun))
  | sleep newstate =>
    obtain ⟨hlevel, hidle, hready, hcurrent⟩ := hrule
    have hticking := h.ticking (by rw [hlevel]; exact nofun)
    exact h.toSound.level.goSleep hticking hidle hready hcurrent
  | sleepTimeout newstate time =>
    obtain ⟨hlevel, hidle, hready, hcurrent, hfinal, hpos, hlt⟩ := hrule
    have hticking := h.ticking (by rw [hlevel]; exact nofun)
    exact h.toSound.level.goSleepTimeout hticking hidle hready hcurrent hfinal hpos hlt
  | wakeup tp msg =>
    obtain ⟨hlevel, hwaits⟩ := hrule
    have hticking := h.ticking (by rw [hlevel]; exact nofun)
    obtain ⟨hsound, hhighest⟩ := h.toSound.wakeupS tp msg hwaits (h.highest hlevel)
    exact hsound.good (by rwa [wakeupS_p_prio]) (wakeupS_ticking.trans hticking)
  | create tp prio => exact h.create hrule.1 hrule.2.1 hrule.2.2
  | yield => exact h.yield hrule
  | interrupt => exact ⟨h.toSound.level, nofun, fun _ => rfl⟩
  | tick =>
    have hticking : s.vtlist.ticking = false := hrule.2
    exact ⟨⟨h.runs, h.found, h.timed.tick hticking, h.own⟩, nofun, fun _ => rfl⟩
  | turn => exact h.turn hrule
  | leave => exact h.toSound.level.epilogue hrule.2

theorem init_good {main idle : τ} (hne : main ≠ idle) : Good idle (init main idle) where
  runs := by
    refine ⟨fun tp => ?_, fun tp => ?_, List.nodup_singleton idle, List.pairwise_singleton _ _,
      .inr (List.mem_singleton_self idle), fun tp _ => ?_⟩
    · simp only [init]
      grind
    · simp only [init]
      grind
    · simp only [init]
      split <;> decide
  found := rfl
  timed := ⟨VTList.init_good, nofun, nofun, nofun⟩
  own := rfl
  highest _ tp hmem := by
    obtain rfl := List.mem_singleton.mp hmem
    simp [init, hne.symm]
  loop := nofun

theorem good_run {main idle : τ} {actions : List (KernelAction τ)} (hne : main ≠ idle)
    (hrules : Lib.Along (Rule idle) Kernel.step (init main idle) actions) :
    Good idle (actions.foldl Kernel.step (init main idle)) :=
  hrules.invariant (fun _ _ h hrule => h.step hrule) (init_good hne)

/-- In every run the ready list holds each ready thread once, those of higher priority first, there
always is a thread to switch to, and wherever the system is not locked no ready thread has a higher
priority than the one that runs. -/
theorem highest_runs {main idle : τ} {actions : List (KernelAction τ)} (hne : main ≠ idle)
    (hrules : Lib.Along (Rule idle) Kernel.step (init main idle) actions) :
    let s := actions.foldl Kernel.step (init main idle)
    s.lost = false ∧ s.r_queue.Nodup ∧ (∀ tp, tp ∈ s.r_queue ↔ s.p_state tp = .ready) ∧
      s.r_queue.Pairwise (fun tp tp' => s.p_prio tp' ≤ s.p_prio tp) ∧
      (∀ tp, tp = s.currp ↔ s.p_state tp = .current) ∧
      (s.level = .thread → ∀ tp, s.p_state tp = .ready → s.p_prio tp ≤ s.p_prio s.currp) := by
  intro s
  have h := good_run hne hrules
  refine ⟨h.found, h.runs.nodup, fun tp => (h.runs.queued tp).symm, h.runs.sorted,
    fun tp => (h.runs.running tp).symm, fun hlevel tp hready => ?_⟩
  exact h.highest hlevel tp ((h.runs.queued tp).mp hready)

theorem highest_runs_again :
    let s := [.create 2 65, .lock, .sleepTimeout .sleeping 1, .tick, .turn, .turn, .leave].foldl
      Kernel.step (init 0 1)
    s.currp = 2 ∧ s.p_prio 0 ≤ s.p_prio s.currp :=
  ⟨by decide, (highest_runs (by decide) (by decide)).2.2.2.2.2 (by decide) 0 (by decide)⟩

/-- In every run a timer is in the list only while its thread is in the call that it is a variable
of, once, and never when the thread runs; the threads that sleep in the call all have theirs in the
list. -/
theorem timers_in_calls {main idle : τ} {actions : List (KernelAction τ)} (hne : main ≠ idle)
    (hrules : Lib.Along (Rule idle) Kernel.step (init main idle) actions) :
    let s := actions.foldl Kernel.step (init main idle)
    (s.vtlist.timers.map Prod.fst).Nodup ∧
      (∀ tp, s.vtlist.chVTIsArmedI tp = true → s.timed tp = true) ∧
      (∀ tp, s.timed tp = true → tp ≠ s.currp) ∧
      (∀ tp, s.timed tp = true → s.p_state tp ≠ .ready → s.vtlist.chVTIsArmedI tp = true) := by
  intro s
  have h := good_run hne hrules
  have hcurrp : ∀ tp, s.timed tp = true → tp ≠ s.currp := by
    rintro tp htimed rfl
    exact nomatch h.own.symm.trans htimed
  refine ⟨h.timed.good.nodup, h.timed.armed, hcurrp, fun tp htimed hready => ?_⟩
  exact h.timed.asleep tp htimed hready fun hcurrent =>
    hcurrp tp htimed ((h.runs.running tp).mp hcurrent)

theorem timers_in_calls_ready :
    let s := [.create 2 65, .lock, .sleepTimeout .sleeping 5, .interrupt, .ready 2 0].foldl
      Kernel.step (init 0 1)
    s.vtlist.chVTIsArmedI 2 = true ∧ s.timed 2 = true :=
  ⟨by decide, (timers_in_calls (by decide) (by decide)).2.1 2 (by decide)⟩

end TurningPoint.Kernel
