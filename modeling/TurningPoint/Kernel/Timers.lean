import TurningPoint.Lib.Delta
import TurningPoint.Lib.Run

universe u

namespace TurningPoint

open Lib.Delta

/-- `timers` is the list from `vt_next` on, with the `vt_time` of each timer; one that is not in it
has no `vt_func`.  `ticking` says that the loop of `chVTDoTickI` is under way. -/
structure VTList (ι : Type u) where
  timers : List (ι × Nat)
  vt_systime : Nat
  ticking : Bool

namespace VTList

variable {ι : Type u}

def init : VTList ι where
  timers := []
  vt_systime := 0
  ticking := false

def chVTSetI (vtp : ι) (time : Nat) (s : VTList ι) : VTList ι :=
  { s with timers := insert vtp time s.timers }

def addFirst (time : Nat) : List (ι × Nat) → List (ι × Nat)
  | [] => []
  | (next, t) :: l => (next, (t + time) % 2 ^ 32) :: l

def decrement : List (ι × Nat) → List (ι × Nat)
  | [] => []
  | (first, t) :: l => (first, (t + (2 ^ 32 - 1)) % 2 ^ 32) :: l

def chVTDoTickI (s : VTList ι) : VTList ι where
  timers := decrement s.timers
  vt_systime := (s.vt_systime + 1) % 2 ^ 32
  ticking := !s.timers.isEmpty

def callback (s : VTList ι) : Option ι :=
  match s.ticking, s.timers with
  | true, (vtp, 0) :: _ => some vtp
  | _, _ => none

def turn (s : VTList ι) : VTList ι :=
  match s.callback with
  | some _ => { s with timers := s.timers.tail }
  | none => { s with ticking := false }

variable [DecidableEq ι]

def chVTIsArmedI (vtp : ι) (s : VTList ι) : Bool :=
  vtp ∈ s.timers.map Prod.fst

def remove (vtp : ι) : List (ι × Nat) → List (ι × Nat)
  | [] => []
  | (j, t) :: l => if j = vtp then addFirst t l else (j, t) :: remove vtp l

def chVTResetI (vtp : ι) (s : VTList ι) : VTList ι :=
  { s with timers := remove vtp s.timers }

end VTList

/-- Between two turns of the loop the functions called, and interrupts, may set and reset timers. -/
inductive VTAction (ι : Type u)
  | set (vtp : ι) (time : Nat)
  | reset (vtp : ι)
  | tick
  | turn

namespace VTList

section Step

variable {ι : Type u} [DecidableEq ι]

def step (s : VTList ι) : VTAction ι → VTList ι
  | .set vtp time => s.chVTSetI vtp time
  | .reset vtp => s.chVTResetI vtp
  | .tick => s.chVTDoTickI
  | .turn => s.turn

/-- `TIME_IMMEDIATE` is not allowed, a timer is set while it is not in the list and reset while it
is, and the next tick comes when the loop is over. -/
def Rule (s : VTList ι) : VTAction ι → Prop
  | .set vtp time => s.chVTIsArmedI vtp = false ∧ 0 < time ∧ time < 2 ^ 32
  | .reset vtp => s.chVTIsArmedI vtp = true
  | .tick => s.ticking = false
  | .turn => s.ticking = true

instance Rule.decidable (s : VTList ι) : (action : VTAction ι) → Decidable (Rule s action)
  | .set vtp time =>
    inferInstanceAs (Decidable (s.chVTIsArmedI vtp = false ∧ 0 < time ∧ time < 2 ^ 32))
  | .reset vtp => inferInstanceAs (Decidable (s.chVTIsArmedI vtp = true))
  | .tick => inferInstanceAs (Decidable (s.ticking = false))
  | .turn => inferInstanceAs (Decidable (s.ticking = true))

end Step

/-- No timer is twice in the list, all times to go fit `systime_t`, and outside the loop none has
come. -/
structure Good {ι : Type u} (s : VTList ι) : Prop where
  nodup : (s.timers.map Prod.fst).Nodup
  bounded : ∀ e ∈ due 0 s.timers, e.2 < 2 ^ 32
  later : s.ticking = false → ∀ e ∈ due 0 s.timers, 0 < e.2

variable {ι : Type u} {s : VTList ι} {i vtp : ι} {k time : Nat} {l : List (ι × Nat)}

theorem init_good : (init : VTList ι).Good :=
  ⟨List.nodup_nil, List.forall_mem_nil _, fun _ => List.forall_mem_nil _⟩

theorem callback_eq_some :
    s.callback = some i ↔ s.ticking = true ∧ ∃ l, s.timers = (i, 0) :: l := by
  obtain ⟨timers, vt_systime, ticking⟩ := s
  cases ticking with
  | false => exact iff_of_false nofun fun h => nomatch h.1
  | true =>
    match timers with
    | [] => exact iff_of_false nofun fun ⟨_, _, h⟩ => nomatch h
    | (j, 0) :: l =>
      constructor
      · rintro ⟨⟩
        exact ⟨rfl, l, rfl⟩
      · rintro ⟨-, l, ⟨⟩⟩
        rfl
    | (j, t + 1) :: l => exact iff_of_false nofun fun ⟨_, _, h⟩ => nomatch h

theorem pos_of_callback (hcallback : s.callback = none) (hticking : s.ticking = true) :
    ∀ e ∈ due 0 s.timers, 0 < e.2 := by
  obtain ⟨timers, vt_systime, ticking⟩ := s
  obtain rfl : ticking = true := hticking
  match timers with
  | [] => exact List.forall_mem_nil _
  | (j, 0) :: l => cases hcallback
  | (j, t + 1) :: l =>
    refine List.forall_mem_cons.mpr ⟨by omega, fun e he => ?_⟩
    have := le_of_mem_due he
    omega

theorem turn_of_callback (hcallback : s.callback = some i) :
    ∃ l, s.timers = (i, 0) :: l ∧ s.turn = { s with timers := l } := by
  obtain ⟨_, l, hl⟩ := callback_eq_some.mp hcallback
  refine ⟨l, hl, ?_⟩
  rw [turn, hcallback]
  exact congrArg (fun timers => { s with timers := timers }) (congrArg List.tail hl)

theorem turn_of_none (hcallback : s.callback = none) : s.turn = { s with ticking := false } := by
  rw [turn, hcallback]

theorem Good.due_tick (h : s.Good) (hticking : s.ticking = false) :
    due (k + 1) s.chVTDoTickI.timers = due k s.timers := by
  show due (k + 1) (decrement s.timers) = _
  have hlater := h.later hticking
  have hbounded := h.bounded
  revert hlater hbounded
  cases s.timers with
  | nil => exact fun _ _ => rfl
  | cons e l =>
    intro hlater hbounded
    obtain ⟨j, t⟩ := e
    have hpos : 0 < 0 + t := hlater (j, 0 + t) List.mem_cons_self
    have hlt : 0 + t < 2 ^ 32 := hbounded (j, 0 + t) List.mem_cons_self
    have hmod : (t + (2 ^ 32 - 1)) % 2 ^ 32 = t - 1 := by omega
    have hsum : k + 1 + (t - 1) = k + t := by omega
    rw [decrement, hmod, due, due, hsum]

theorem Good.tick (h : s.Good) (hticking : s.ticking = false) : s.chVTDoTickI.Good where
  nodup := by
    have hmap : s.chVTDoTickI.timers.map Prod.fst = s.timers.map Prod.fst := by
      rw [← map_fst_due 1, ← map_fst_due 0 (l := s.timers), h.due_tick hticking]
    exact hmap ▸ h.nodup
  bounded e he := by
    have hmem : (e.1, e.2 + 1) ∈ due (0 + 1) s.chVTDoTickI.timers :=
      due_add 0 1 ▸ List.mem_map_of_mem he
    have := h.bounded _ (h.due_tick hticking ▸ hmem)
    exact Nat.lt_of_succ_lt this
  later hdone := by
    have hempty : s.timers = [] := List.isEmpty_iff.mp (by simpa [chVTDoTickI] using hdone)
    rw [chVTDoTickI, hempty]
    exact List.forall_mem_nil _

theorem Good.turn (h : s.Good) (hticking : s.ticking = true) : s.turn.Good := by
  cases hcallback : s.callback with
  | none =>
    have hpos := pos_of_callback hcallback hticking
    rw [turn_of_none hcallback]
    exact ⟨h.nodup, h.bounded, fun _ => hpos⟩
  | some i =>
    obtain ⟨l, hl, hturn⟩ := turn_of_callback hcallback
    rw [hturn]
    obtain ⟨hnodup, hbounded, -⟩ := h
    rw [hl] at hnodup hbounded
    refine ⟨hnodup.of_cons, fun e he => hbounded e (List.mem_cons_of_mem _ he), fun hdone => ?_⟩
    exact absurd (hticking.symm.trans hdone) nofun

theorem Good.due_now {d : Nat} (h : s.Good) (hdue : (i, d) ∈ due k s.timers) :
    k ≤ d ∧ (d = k → s.ticking = true) ∧ (s.callback = some i → d = k) := by
  refine ⟨le_of_mem_due hdue, fun heq => ?_, fun hcallback => ?_⟩
  · by_contra hticking
    rw [← Nat.zero_add k, due_add] at hdue
    obtain ⟨e, he, hpair⟩ := List.mem_map.mp hdue
    have hpos := h.later (Bool.eq_false_of_not_eq_true hticking) e he
    have hd : e.2 + k = d := congrArg Prod.snd hpair
    omega
  · obtain ⟨_, l, hl⟩ := callback_eq_some.mp hcallback
    have hnodup := h.nodup
    rw [hl] at hdue hnodup
    obtain heq | hmem := List.mem_cons.mp hdue
    · exact congrArg Prod.snd heq
    · exact absurd (mem_of_mem_due hmem) (List.nodup_cons.mp hnodup).1

def turnsLeft (s : VTList ι) : Nat :=
  if s.ticking then (due 0 s.timers).countP (fun e => e.2 = 0) + 1 else 0

theorem countP_set (hpos : 0 < time) :
    (due 0 (s.chVTSetI vtp time).timers).countP (fun e => e.2 = 0) =
      (due 0 s.timers).countP (fun e => e.2 = 0) := by
  have hne : ¬ decide (0 + time = 0) = true := by simp [Nat.ne_of_gt hpos]
  show (due 0 (insert vtp time s.timers)).countP (fun e => e.2 = 0) = _
  rw [due_insert, (List.perm_orderedInsert _ _ _).countP_eq]
  exact List.countP_cons_of_neg (p := fun e : ι × Nat => e.2 = 0) hne

variable [DecidableEq ι]

theorem isArmed_iff : s.chVTIsArmedI i = true ↔ i ∈ s.timers.map Prod.fst :=
  decide_eq_true_iff

theorem not_isArmed_iff : s.chVTIsArmedI i = false ↔ i ∉ s.timers.map Prod.fst :=
  decide_eq_false_iff_not

theorem due_remove {base : Nat} (h : ∀ e ∈ due base l, e.2 < base + 2 ^ 32) :
    due base (remove vtp l) = (due base l).eraseP fun e => e.1 = vtp := by
  induction l generalizing base with
  | nil => rfl
  | cons e l ih =>
    obtain ⟨j, t⟩ := e
    by_cases hj : j = vtp
    · rw [remove, if_pos hj, due,
        List.eraseP_cons_of_pos (p := fun e : ι × Nat => e.1 = vtp) (decide_eq_true hj)]
      cases l with
      | nil => rfl
      | cons e l =>
        obtain ⟨k, u⟩ := e
        have hk : base + t + u < base + 2 ^ 32 :=
          h (k, base + t + u) (List.mem_cons_of_mem _ List.mem_cons_self)
        have hmod : (u + t) % 2 ^ 32 = u + t := Nat.mod_eq_of_lt (by omega)
        have hsum : base + (u + t) = base + t + u := by omega
        rw [addFirst, hmod, due, due, hsum]
    · have hj' : ¬ decide (j = vtp) = true := fun hdec => hj (of_decide_eq_true hdec)
      rw [remove, if_neg hj, due, due,
        List.eraseP_cons_of_neg (p := fun e : ι × Nat => e.1 = vtp) hj', ih]
      intro e he
      have := h e (List.mem_cons_of_mem _ he)
      omega

theorem Good.due_reset (h : s.Good) :
    due k (s.chVTResetI vtp).timers = (due k s.timers).eraseP fun e => e.1 = vtp := by
  refine due_remove fun e he => ?_
  rw [← Nat.zero_add k, due_add] at he
  obtain ⟨e', he', rfl⟩ := List.mem_map.mp he
  have := h.bounded e' he'
  show e'.2 + k < k + 2 ^ 32
  omega

theorem remove_map_fst : (remove vtp l).map Prod.fst = (l.map Prod.fst).erase vtp := by
  induction l with
  | nil => rfl
  | cons e l ih =>
    obtain ⟨j, t⟩ := e
    by_cases hj : j = vtp
    · rw [remove, if_pos hj, List.map_cons, hj, List.erase_cons_head]
      cases l <;> rfl
    · rw [remove, if_neg hj, List.map_cons, List.map_cons, ih,
        List.erase_cons_tail (by simpa using hj)]

theorem isArmed_set :
    (s.chVTSetI vtp time).chVTIsArmedI i = true ↔ i = vtp ∨ s.chVTIsArmedI i = true := by
  rw [isArmed_iff, isArmed_iff]
  exact map_fst_insert.mem_iff.trans List.mem_cons

theorem Good.isArmed_reset (h : s.Good) :
    (s.chVTResetI vtp).chVTIsArmedI i = true ↔ i ≠ vtp ∧ s.chVTIsArmedI i = true := by
  rw [isArmed_iff, isArmed_iff]
  show i ∈ (remove vtp s.timers).map Prod.fst ↔ _
  rw [remove_map_fst]
  exact h.nodup.mem_erase_iff

theorem isArmed_tick : s.chVTDoTickI.chVTIsArmedI i = s.chVTIsArmedI i := by
  have hmap : (decrement s.timers).map Prod.fst = s.timers.map Prod.fst := by
    cases s.timers with
    | nil => rfl
    | cons e l => simp only [decrement, List.map_cons]
  show decide (i ∈ (decrement s.timers).map Prod.fst) = _
  rw [hmap]
  rfl

theorem Good.isArmed_turn (h : s.Good) (hcallback : s.callback = some vtp) :
    s.turn.chVTIsArmedI i = true ↔ i ≠ vtp ∧ s.chVTIsArmedI i = true := by
  obtain ⟨l, hl, hturn⟩ := turn_of_callback hcallback
  have hnodup := h.nodup
  rw [hl] at hnodup
  rw [isArmed_iff, isArmed_iff, hturn, hl]
  show i ∈ l.map Prod.fst ↔ i ≠ vtp ∧ i ∈ vtp :: l.map Prod.fst
  refine ⟨fun hmem => ⟨?_, List.mem_cons_of_mem vtp hmem⟩, fun ⟨hne, hmem⟩ => ?_⟩
  · rintro rfl
    exact (List.nodup_cons.mp hnodup).1 hmem
  · exact List.mem_of_ne_of_mem hne hmem

theorem isArmed_of_callback (hcallback : s.callback = some vtp) : s.chVTIsArmedI vtp = true := by
  obtain ⟨_, l, hl⟩ := callback_eq_some.mp hcallback
  rw [isArmed_iff, hl]
  exact List.mem_cons_self

theorem Good.set (h : s.Good) (harmed : s.chVTIsArmedI vtp = false) (hpos : 0 < time)
    (hlt : time < 2 ^ 32) : (s.chVTSetI vtp time).Good where
  nodup := by
    refine (map_fst_insert.nodup_iff).mpr (List.nodup_cons.mpr ⟨?_, h.nodup⟩)
    exact not_isArmed_iff.mp harmed
  bounded := by
    intro e he
    obtain rfl | he := mem_due_insert.mp he
    · exact (Nat.zero_add time).symm ▸ hlt
    · exact h.bounded e he
  later := by
    intro hticking e he
    obtain rfl | he := mem_due_insert.mp he
    · exact (Nat.zero_add time).symm ▸ hpos
    · exact h.later hticking e he

theorem Good.reset (h : s.Good) : (s.chVTResetI vtp).Good where
  nodup := by
    show ((remove vtp s.timers).map Prod.fst).Nodup
    rw [remove_map_fst]
    exact h.nodup.erase vtp
  bounded e he := h.bounded e (List.mem_of_mem_eraseP (h.due_reset ▸ he))
  later hticking e he := h.later hticking e (List.mem_of_mem_eraseP (h.due_reset ▸ he))

theorem Good.step {action : VTAction ι} (h : s.Good) (hrule : Rule s action) :
    (s.step action).Good := by
  cases action with
  | set vtp time => exact h.set hrule.1 hrule.2.1 hrule.2.2
  | reset vtp => exact h.reset
  | tick => exact h.tick hrule
  | turn => exact h.turn hrule

def ticksOf : VTAction ι → Nat
  | .tick => 1
  | _ => 0

def ticks (actions : List (VTAction ι)) : Nat :=
  (actions.map ticksOf).sum

def Keeps (i : ι) (s : VTList ι) : VTAction ι → Prop
  | .reset vtp => vtp ≠ i
  | .turn => s.callback ≠ some i
  | _ => True

instance Keeps.decidable (i : ι) (s : VTList ι) :
    (action : VTAction ι) → Decidable (Keeps i s action)
  | .set .. | .tick => .isTrue trivial
  | .reset vtp => inferInstanceAs (Decidable (vtp ≠ i))
  | .turn => inferInstanceAs (Decidable (s.callback ≠ some i))

theorem Good.due_step {action : VTAction ι} {d : Nat} (h : s.Good) (hrule : Rule s action)
    (hkeeps : Keeps i s action) (hdue : (i, d) ∈ due k s.timers) :
    (i, d) ∈ due (k + ticksOf action) (s.step action).timers := by
  cases action with
  | set vtp time => exact mem_due_insert.mpr (.inr hdue)
  | reset vtp =>
    have hne : ¬ decide (i = vtp) = true := fun hdec => hkeeps (of_decide_eq_true hdec).symm
    show (i, d) ∈ due k (s.chVTResetI vtp).timers
    rw [h.due_reset]
    exact (List.mem_eraseP_of_neg (p := fun e => e.1 = vtp) hne).mpr hdue
  | tick =>
    show (i, d) ∈ due (k + 1) s.chVTDoTickI.timers
    rwa [h.due_tick hrule]
  | turn =>
    show (i, d) ∈ due k s.turn.timers
    cases hcallback : s.callback with
    | none => exact (turn_of_none hcallback).symm ▸ hdue
    | some j =>
      obtain ⟨l, hl, hturn⟩ := turn_of_callback hcallback
      rw [hturn]
      rw [hl] at hdue
      obtain heq | hdue := List.mem_cons.mp hdue
      · exact absurd (hcallback.trans (congrArg some (congrArg Prod.fst heq).symm)) hkeeps
      · exact hdue

theorem Good.due_run {actions : List (VTAction ι)} {d : Nat} (h : s.Good)
    (hrules : Lib.Along Rule VTList.step s actions)
    (hkeeps : Lib.Along (Keeps i) VTList.step s actions)
    (hdue : (i, d) ∈ due k s.timers) :
    (i, d) ∈ due (k + ticks actions) (actions.foldl VTList.step s).timers := by
  induction actions generalizing s k with
  | nil => exact hdue
  | cons action actions ih =>
    have hstep := ih (h.step hrules.1) hrules.2 hkeeps.2 (h.due_step hrules.1 hkeeps.1 hdue)
    have hticks : k + ticks (action :: actions) = k + ticksOf action + ticks actions := by
      rw [ticks, List.map_cons, List.sum_cons, ← Nat.add_assoc]
      rfl
    rwa [hticks]

theorem good_run {actions : List (VTAction ι)} (hrules : Lib.Along Rule VTList.step init actions) :
    (actions.foldl VTList.step init).Good :=
  hrules.invariant (fun _ _ h hrule => h.step hrule) init_good

/-- The function of a timer is called in the tick that is as many ticks after the timer was set as
it was set for: as long as the timer is neither reset nor comes, no more ticks go by, the loop of
the last of them does not end, and where the function is called next it is the last one. -/
theorem fires_on_time {before after : List (VTAction ι)} {vtp : ι} {time : Nat}
    (hrules : Lib.Along Rule VTList.step init (before ++ VTAction.set vtp time :: after))
    (hkeeps : Lib.Along (Keeps vtp) VTList.step
      ((before.foldl VTList.step init).step (.set vtp time)) after) :
    let s := (before ++ VTAction.set vtp time :: after).foldl VTList.step init
    ticks after ≤ time ∧ (ticks after = time → s.ticking = true) ∧
      (s.callback = some vtp → ticks after = time) := by
  intro s
  obtain ⟨hbefore, hset, hafter⟩ := Lib.Along.append.mp hrules
  have hstart := (good_run hbefore).step hset
  have hdue : (vtp, 0 + time) ∈ due 0 ((before.foldl VTList.step init).step (.set vtp time)).timers :=
    mem_due_insert.mpr (.inl rfl)
  have hrun := hstart.due_run hafter hkeeps hdue
  have hs : after.foldl VTList.step ((before.foldl VTList.step init).step (.set vtp time)) = s := by
    simp only [s, List.foldl_append, List.foldl_cons]
  rw [hs, Nat.zero_add, Nat.zero_add] at hrun
  obtain ⟨hle, hloop, hcall⟩ := (good_run hrules).due_now hrun
  exact ⟨hle, fun heq => hloop heq.symm, fun hcallback => (hcall hcallback).symm⟩

theorem fires_on_time_last :
    let s := [.set 0 2, .tick, .turn, .set 1 1, .tick].foldl VTList.step (init : VTList Nat)
    s.callback = some 1 ∧ ticks [(.tick : VTAction Nat)] = 1 :=
  ⟨by decide, (@fires_on_time Nat _ [.set 0 2, .tick, .turn] [.tick] 1 1 (by decide)
    (by decide)).2.2 (by decide)⟩

def turnsOf : VTAction ι → Nat
  | .turn => 1
  | _ => 0

def turns (actions : List (VTAction ι)) : Nat :=
  (actions.map turnsOf).sum

theorem Good.turnsLeft_step {action : VTAction ι} (h : s.Good) (hrule : Rule s action)
    (htick : ticksOf action = 0) : turnsLeft (s.step action) + turnsOf action ≤ turnsLeft s := by
  cases action with
  | set vtp time =>
    refine Nat.le_of_eq ?_
    simp only [turnsOf, turnsLeft, VTList.step, countP_set hrule.2.1]
    rfl
  | reset vtp =>
    have hle : (due 0 (s.chVTResetI vtp).timers).countP (fun e => e.2 = 0) ≤
        (due 0 s.timers).countP (fun e => e.2 = 0) :=
      h.due_reset ▸ List.eraseP_sublist.countP_le
    show turnsLeft (s.chVTResetI vtp) ≤ turnsLeft s
    simp only [turnsLeft]
    show (if s.ticking then _ else 0) ≤ _
    split
    · exact Nat.succ_le_succ hle
    · exact Nat.le_refl 0
  | tick => cases htick
  | turn =>
    have hticking : s.ticking = true := hrule
    show turnsLeft s.turn + 1 ≤ turnsLeft s
    cases hcallback : s.callback with
    | none =>
      rw [turn_of_none hcallback, turnsLeft, turnsLeft, hticking]
      exact Nat.le_add_left 1 _
    | some i =>
      obtain ⟨l, hl, hturn⟩ := turn_of_callback hcallback
      rw [hturn, turnsLeft, turnsLeft, hticking, hl]
      exact Nat.le_of_eq (congrArg (· + 1) (List.countP_cons_of_pos rfl).symm)

theorem Good.turns_le {actions : List (VTAction ι)} (h : s.Good)
    (hrules : Lib.Along Rule VTList.step s actions) (hticks : ticks actions = 0) :
    turns actions ≤ turnsLeft s := by
  induction actions generalizing s with
  | nil => exact Nat.zero_le _
  | cons action actions ih =>
    obtain ⟨htick, hrest⟩ := Nat.add_eq_zero_iff.mp hticks
    have hstep := h.turnsLeft_step hrules.1 htick
    have hleft := ih (h.step hrules.1) hrules.2 hrest
    have hturns : turns (action :: actions) = turnsOf action + turns actions := rfl
    omega

/-- Whatever is set and reset meanwhile, the loop of a tick turns at most once more than there are
timers in the list when the tick comes. -/
theorem loop_ends {before after : List (VTAction ι)}
    (hrules : Lib.Along Rule VTList.step init (before ++ .tick :: after)) (hticks : ticks after = 0) :
    turns after ≤ (before.foldl VTList.step init).timers.length + 1 := by
  obtain ⟨hbefore, htick, hafter⟩ := Lib.Along.append.mp hrules
  have hgood := good_run hbefore
  refine Nat.le_trans ((hgood.step htick).turns_le hafter hticks) ?_
  show turnsLeft (before.foldl VTList.step init).chVTDoTickI ≤ _
  rw [turnsLeft]
  split
  · refine Nat.succ_le_succ (Nat.le_trans List.countP_le_length ?_)
    rw [← List.length_map (f := Prod.fst), map_fst_due 0, ← map_fst_due 1,
      hgood.due_tick htick, map_fst_due, List.length_map]
  · exact Nat.zero_le _

theorem loop_ends_again :
    turns [.turn, .set 0 1, (.turn : VTAction Nat)] ≤
      ([.set 0 1, .set 1 2].foldl VTList.step (init : VTList Nat)).timers.length + 1 :=
  @loop_ends Nat _ [.set 0 1, .set 1 2] [.turn, .set 0 1, .turn] (by decide) rfl

end VTList

end TurningPoint
