import TurningPoint.Lib.Run
import Mathlib.Tactic

namespace TurningPoint

/-- Where a server thread stands: before `vexTaskRegister`, at the test of its loop, between the
store of the dead timer and the sleep of that turn, or in the sleep until a tick. -/
inductive ServerPhase
  | created
  | loopTest
  | working
  | sleeping (wake : Nat)
  deriving DecidableEq

/-- A live thread, its flag `THD_TERMINATE`, and whether a `task_terminate` event waits for it. -/
structure ServerThread where
  phase : ServerPhase
  shouldTerminate : Bool
  terminateEvent : Bool
  deriving DecidableEq

/-- A `Thread *`: NULL, or the one working area. -/
inductive ThreadPointer
  | null
  | waserver
  deriving DecidableEq

structure ServerTask where
  now : Nat
  serverThreadPointer : ThreadPointer
  serverThreadDeadTimer : UInt32
  threads : List ServerThread

namespace ServerTask

def boot (now : Nat) : ServerTask := ⟨now, .null, 0, []⟩

def timerAge (s : ServerTask) : UInt32 := UInt32.ofNat s.now - s.serverThreadDeadTimer

def serverStart (s : ServerTask) : ServerTask :=
  let s := if s.timerAge > 300 then { s with serverThreadPointer := .null } else s
  if s.serverThreadPointer ≠ .null then s
  else { s with
    serverThreadPointer := .waserver
    threads := s.threads ++ [⟨.created, false, false⟩] }

/-- The end of a thread in `chThdExit`, which skips what follows the loop. -/
def exit (i : Nat) (s : ServerTask) : ServerTask := { s with threads := s.threads.eraseIdx i }

def enter (i : Nat) (thread : ServerThread) (phase : ServerPhase) (s : ServerTask) : ServerTask :=
  { s with threads := s.threads.set i { thread with phase := phase } }

/-- `serverThread` from one of its phases to the next.  What follows the loop, the two stores and
`chThdExit`, is one step. -/
def serverThread (i : Nat) (thread : ServerThread) (s : ServerTask) : ServerTask :=
  match thread.phase with
  | .created => s.enter i thread .loopTest
  | .loopTest =>
    if thread.shouldTerminate then
      { s.exit i with serverThreadPointer := .null, serverThreadDeadTimer := 0 }
    else { s.enter i thread .working with serverThreadDeadTimer := UInt32.ofNat s.now }
  | .working => s.enter i thread (.sleeping (s.now + 500))
  | .sleeping wake =>
    if thread.terminateEvent then s.exit i
    else if s.now < wake then s
    else if thread.shouldTerminate then s.exit i
    else s.enter i thread .loopTest

def serverWriteSleep (i : Nat) (thread : ServerThread) (s : ServerTask) : ServerTask :=
  if thread.phase = .working ∧ (thread.terminateEvent ∨ thread.shouldTerminate) then s.exit i else s

end ServerTask

inductive TaskEvent
  | pass (ticks : Nat)
  | start
  | run (i : Nat)
  | writeSleep (i : Nat)
  | terminate (i : Nat)
  | broadcast
  deriving DecidableEq

namespace ServerTask

def onThread (i : Nat) (f : ServerThread → ServerTask → ServerTask) (s : ServerTask) : ServerTask :=
  match s.threads[i]? with
  | none => s
  | some thread => f thread s

def step (s : ServerTask) : TaskEvent → ServerTask
  | .pass ticks => { s with now := s.now + ticks }
  | .start => s.serverStart
  | .run i => s.onThread i (serverThread i)
  | .writeSleep i => s.onThread i (serverWriteSleep i)
  | .terminate i =>
    { s with threads := s.threads.modify i fun thread => { thread with shouldTerminate := true } }
  | .broadcast => { s with
    threads := s.threads.map fun thread =>
      { thread with terminateEvent := thread.terminateEvent || thread.phase ≠ .created } }

def StartsAlone (s : ServerTask) (event : TaskEvent) : Prop :=
  event = .start → s.threads.length < (s.step event).threads.length → s.threads = []

/-- A call while a thread is alive comes at most 300 ticks after the dead timer was last stored. -/
def StartsInTime (s : ServerTask) (event : TaskEvent) : Prop :=
  event = .start → s.threads ≠ [] → s.timerAge ≤ 300

structure Guarded (s : ServerTask) : Prop where
  threads_le : s.threads.length ≤ 1
  pointer : s.threads ≠ [] → s.serverThreadPointer = .waserver

variable {s : ServerTask}

theorem Guarded.boot (now : Nat) : (boot now).Guarded := ⟨Nat.zero_le 1, fun h => absurd rfl h⟩

theorem Guarded.threads_eq (h : s.Guarded) {i : Nat} {thread : ServerThread}
    (hi : s.threads[i]? = some thread) : i = 0 ∧ s.threads = [thread] := by
  have hle := h.threads_le
  obtain ⟨hlt, hget⟩ := List.getElem?_eq_some_iff.mp hi
  obtain rfl : i = 0 := by omega
  refine ⟨rfl, ?_⟩
  obtain ⟨only, honly⟩ := List.length_eq_one_iff.mp (show s.threads.length = 1 by omega)
  simp only [honly, List.getElem_cons_zero] at hget
  rw [honly, hget]

theorem Guarded.of_threads_nil (h : s.threads = []) : s.Guarded := by
  refine ⟨?_, fun hne => absurd h hne⟩
  rw [h]
  exact Nat.zero_le 1

theorem Guarded.of_length_eq (h : s.Guarded) {s' : ServerTask}
    (hlength : s'.threads.length = s.threads.length)
    (hpointer : s'.serverThreadPointer = s.serverThreadPointer) : s'.Guarded := by
  refine ⟨hlength ▸ h.threads_le, fun hne => hpointer ▸ h.pointer fun hnil => hne ?_⟩
  rw [hnil] at hlength
  exact List.length_eq_zero_iff.mp hlength

theorem Guarded.enter (h : s.Guarded) (i : Nat) (thread : ServerThread) (phase : ServerPhase) :
    (s.enter i thread phase).Guarded :=
  h.of_length_eq List.length_set rfl

theorem Guarded.exit_nil (h : s.Guarded) {i : Nat} {thread : ServerThread}
    (hi : s.threads[i]? = some thread) : (s.exit i).threads = [] := by
  obtain ⟨rfl, hthreads⟩ := h.threads_eq hi
  rw [ServerTask.exit, hthreads]
  rfl

theorem Guarded.serverThread (h : s.Guarded) {i : Nat} {thread : ServerThread}
    (hi : s.threads[i]? = some thread) : (s.serverThread i thread).Guarded := by
  have hexit := of_threads_nil (h.exit_nil hi)
  unfold ServerTask.serverThread
  split
  · exact h.enter i thread _
  · split
    · exact of_threads_nil (h.exit_nil hi)
    · exact h.of_length_eq List.length_set rfl
  · exact h.enter i thread _
  · split
    · exact hexit
    split
    · exact h
    split
    · exact hexit
    · exact h.enter i thread _

theorem Guarded.serverWriteSleep (h : s.Guarded) {i : Nat} {thread : ServerThread}
    (hi : s.threads[i]? = some thread) : (s.serverWriteSleep i thread).Guarded := by
  unfold ServerTask.serverWriteSleep
  split
  · exact of_threads_nil (h.exit_nil hi)
  · exact h

theorem Guarded.onThread (h : s.Guarded) {i : Nat} {f : ServerThread → ServerTask → ServerTask}
    (hf : ∀ thread, s.threads[i]? = some thread → (f thread s).Guarded) :
    (s.onThread i f).Guarded := by
  unfold ServerTask.onThread
  split
  · exact h
  next thread hi => exact hf thread hi

theorem Guarded.serverStart_eq (h : s.Guarded) (halive : s.threads ≠ []) (hage : s.timerAge ≤ 300) :
    s.serverStart = s := by
  have hpointer := h.pointer halive
  simp [ServerTask.serverStart, UInt32.not_lt.mpr hage, hpointer]

theorem serverStart_threads_of_late (hage : ¬s.timerAge ≤ 300) :
    s.serverStart.threads = s.threads ++ [⟨.created, false, false⟩] := by
  simp [serverStart, UInt32.not_le.mp hage]

theorem Guarded.startsAlone_iff (h : s.Guarded) (event : TaskEvent) :
    s.StartsAlone event ↔ s.StartsInTime event := by
  constructor
  · rintro halone rfl hne
    by_contra hage
    refine hne (halone rfl ?_)
    rw [step, serverStart_threads_of_late hage, List.length_append]
    exact Nat.lt_succ_self _
  · rintro hintime rfl hgrows
    by_contra hne
    rw [step, h.serverStart_eq hne (hintime rfl hne)] at hgrows
    exact absurd hgrows (Nat.lt_irrefl _)

theorem Guarded.serverStart_of_nil (h : s.threads = []) : s.serverStart.Guarded := by
  have hstart : ∀ s : ServerTask, s.threads = [] →
      (if s.serverThreadPointer ≠ .null then s
        else { s with
          serverThreadPointer := .waserver
          threads := s.threads ++ [⟨.created, false, false⟩] }).Guarded := by
    intro s h
    split
    · exact of_threads_nil h
    · exact ⟨by simp [h], fun _ => rfl⟩
  unfold ServerTask.serverStart
  split
  · exact hstart { s with serverThreadPointer := .null } h
  · exact hstart s h

theorem Guarded.step (h : s.Guarded) {event : TaskEvent} (hevent : s.StartsInTime event) :
    (s.step event).Guarded := by
  cases event with
  | pass ticks => exact h.of_length_eq rfl rfl
  | start =>
    by_cases hne : s.threads = []
    · exact serverStart_of_nil hne
    · rw [ServerTask.step, h.serverStart_eq hne (hevent rfl hne)]
      exact h
  | run i => exact h.onThread fun thread hi => h.serverThread hi
  | writeSleep i => exact h.onThread fun thread hi => h.serverWriteSleep hi
  | terminate i => exact h.of_length_eq (List.length_modify ..) rfl
  | broadcast => exact h.of_length_eq (List.length_map _) rfl

end ServerTask

open Lib (Along)

/-- No call in the run creates a thread beside another, so at most one is ever alive. -/
structure OneServerThread (s : ServerTask) (events : List TaskEvent) : Prop where
  starts : Along ServerTask.StartsAlone ServerTask.step s events
  alive : ∀ before, before <+: events → (before.foldl ServerTask.step s).threads.length ≤ 1

/-- A run from boot keeps to one thread exactly if each call made while it is alive is in time. -/
theorem oneServerThread_iff (now : Nat) (events : List TaskEvent) :
    OneServerThread (.boot now) events ↔
      Along ServerTask.StartsInTime ServerTask.step (.boot now) events := by
  have hboot := ServerTask.Guarded.boot now
  constructor
  · intro h
    exact h.starts.imp_while (fun s event h => (h.startsAlone_iff event).mp)
      (fun s event h hevent => h.step ((h.startsAlone_iff event).mp hevent)) hboot
  intro h
  refine ⟨?_, ?_⟩
  · exact h.imp_while (fun s event h => (h.startsAlone_iff event).mpr)
      (fun s event h hevent => h.step hevent) hboot
  · rintro before ⟨after, rfl⟩
    have hbefore := (Along.append.mp h).1
    exact (hbefore.invariant (fun s event h hevent => h.step hevent) hboot).threads_le

/-- A call in the last 200 ticks of a sleep, 390 ticks after the store of the dead timer. -/
theorem not_oneServerThread_late_call : ¬OneServerThread (.boot 10)
    [.start, .run 0, .run 0, .run 0, .pass 390, .start] := by
  intro h
  exact absurd (h.alive _ (List.prefix_refl _)) (by decide)

namespace ServerTask

theorem not_timerAge_le_of_late {s : ServerTask} {start elapsed : Nat}
    (hnow : s.now = start + elapsed) (htimer : s.serverThreadDeadTimer = UInt32.ofNat start)
    (hlate : 300 < elapsed) (hwrap : elapsed < 2 ^ 32) : ¬s.timerAge ≤ 300 := by
  rw [timerAge, hnow, htimer, ← UInt32.ofNat_sub (Nat.le_add_right _ _), Nat.add_sub_cancel_left,
    UInt32.le_iff_toNat_le, UInt32.toNat_ofNat', Nat.mod_eq_of_lt hwrap]
  exact Nat.not_le.mpr hlate

/-- In every turn of the loop a call that comes more than 300 ticks after the store creates a second
thread, since the sleep alone lasts 500. -/
theorem late_call_creates {s : ServerTask} {thread : ServerThread} (hthreads : s.threads = [thread])
    (hphase : thread.phase = .loopTest) (hflag : thread.shouldTerminate = false) {work slept : Nat}
    (hlate : 300 < work + slept) (hwrap : work + slept < 2 ^ 32) :
    ([.run 0, .pass work, .run 0, .pass slept, .start].foldl step s).threads.length = 2 := by
  have hstore : s.step (.run 0) = { s with
      threads := [{ thread with phase := .working }]
      serverThreadDeadTimer := UInt32.ofNat s.now } := by
    simp [step, onThread, serverThread, enter, hthreads, hphase, hflag]
  have hage := not_timerAge_le_of_late
    (s := { s with
      now := s.now + work + slept
      threads := [{ thread with phase := .sleeping (s.now + work + 500) }]
      serverThreadDeadTimer := UInt32.ofNat s.now })
    (Nat.add_assoc s.now work slept) rfl hlate hwrap
  simp only [List.foldl_cons, List.foldl_nil, hstore]
  simp only [step, onThread, List.getElem?_cons_zero, serverThread, enter, List.set_cons_zero]
  rw [serverStart_threads_of_late hage]
  rfl

end ServerTask

end TurningPoint
