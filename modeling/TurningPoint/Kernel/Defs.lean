import TurningPoint.Kernel.Timers

/-! The scheduler of `chschd.c`, with the ticks of `chsys.c` and the threads that sleep until their
virtual timers come. -/

universe u

namespace TurningPoint

inductive ThreadState
  | ready | current | suspended | wtsem | wtmtx | wtcond | sleeping | wtexit | wtorevt | wtandevt
  | sndmsgq | sndmsg | wtmsg | wtqueue | final
  deriving DecidableEq

inductive KernelLevel
  | thread | system | isr
  deriving DecidableEq

abbrev timeQuantum : Nat := 20

abbrev timeInfinite : Nat := 2 ^ 32 - 1

abbrev rdyOk : Int := 0

abbrev rdyTimeout : Int := -1

/-- `r_queue` and `currp` are those of `rlist`.  Each thread has one virtual timer, on its stack,
and `timed` says that the thread is in `chSchGoSleepTimeoutS` and has set it.  Memory that is no
thread yet is `final`.  `lost` is set where the first thread is taken off an empty ready list. -/
structure Kernel (τ : Type u) where
  p_prio : τ → Nat
  p_state : τ → ThreadState
  p_preempt : τ → Nat
  rdymsg : τ → Int
  r_queue : List τ
  currp : τ
  vtlist : VTList τ
  timed : τ → Bool
  level : KernelLevel
  lost : Bool

namespace Kernel

variable {τ : Type u}

def firstprio (s : Kernel τ) : Nat :=
  match s.r_queue with
  | [] => 0
  | tp :: _ => s.p_prio tp

def enqueue (passes : τ → Bool) (tp : τ) : List τ → List τ
  | [] => [tp]
  | cp :: l => if passes cp then cp :: enqueue passes tp l else tp :: cp :: l

variable [DecidableEq τ]

def init (main idle : τ) : Kernel τ where
  p_prio := fun tp => if tp = main then 64 else 1
  p_state := fun tp => if tp = main then .current else if tp = idle then .ready else .final
  p_preempt := fun _ => timeQuantum
  rdymsg := fun _ => rdyOk
  r_queue := [idle]
  currp := main
  vtlist := .init
  timed := fun _ => false
  level := .thread
  lost := false

def chSchReadyI (tp : τ) (s : Kernel τ) : Kernel τ :=
  { s with
    p_state := Function.update s.p_state tp .ready
    r_queue := enqueue (fun cp => s.p_prio tp ≤ s.p_prio cp) tp s.r_queue }

/-- The rest of `chSchGoSleepTimeoutS`, for the thread that has been switched to. -/
def resume (s : Kernel τ) : Kernel τ :=
  if s.timed s.currp then
    { s with
      timed := Function.update s.timed s.currp false
      vtlist :=
        if s.vtlist.chVTIsArmedI s.currp then s.vtlist.chVTResetI s.currp else s.vtlist }
  else s

def setFirst (s : Kernel τ) : Kernel τ :=
  match s.r_queue with
  | [] => { s with lost := true }
  | tp :: l =>
    { s with
      p_state := Function.update s.p_state tp .current
      r_queue := l
      currp := tp }

def chSchGoSleepS (newstate : ThreadState) (s : Kernel τ) : Kernel τ :=
  { s with
    p_state := Function.update s.p_state s.currp newstate
    p_preempt := Function.update s.p_preempt s.currp timeQuantum }.setFirst.resume

def chSchGoSleepTimeoutS (newstate : ThreadState) (time : Nat) (s : Kernel τ) : Kernel τ :=
  if time ≠ timeInfinite then
    { s with
      vtlist := s.vtlist.chVTSetI s.currp time
      timed := Function.update s.timed s.currp true }.chSchGoSleepS newstate
  else s.chSchGoSleepS newstate

def chSchWakeupS (ntp : τ) (msg : Int) (s : Kernel τ) : Kernel τ :=
  let s := { s with rdymsg := Function.update s.rdymsg ntp msg }
  if s.p_prio ntp ≤ s.p_prio s.currp then s.chSchReadyI ntp
  else
    let s := s.chSchReadyI s.currp
    { s with
      p_state := Function.update s.p_state ntp .current
      currp := ntp }.resume

def chSchDoRescheduleBehind (s : Kernel τ) : Kernel τ :=
  let otp := s.currp
  let s := s.setFirst
  ({ s with p_preempt := Function.update s.p_preempt otp timeQuantum }.chSchReadyI otp).resume

def chSchDoRescheduleAhead (s : Kernel τ) : Kernel τ :=
  let otp := s.currp
  let s := s.setFirst
  { s with
    p_state := Function.update s.p_state otp .ready
    r_queue := enqueue (fun cp => s.p_prio otp < s.p_prio cp) otp s.r_queue }.resume

def chSchRescheduleS (s : Kernel τ) : Kernel τ :=
  if s.firstprio > s.p_prio s.currp then s.chSchDoRescheduleAhead else s

def chSchDoYieldS (s : Kernel τ) : Kernel τ :=
  if s.firstprio ≥ s.p_prio s.currp then s.chSchDoRescheduleBehind else s

def chSchIsPreemptionRequired (s : Kernel τ) : Bool :=
  if s.p_preempt s.currp ≠ 0 then s.firstprio > s.p_prio s.currp
  else s.firstprio ≥ s.p_prio s.currp

def chSchDoReschedule (s : Kernel τ) : Kernel τ :=
  if s.p_preempt s.currp = 0 then s.chSchDoRescheduleBehind else s.chSchDoRescheduleAhead

def chThdCreateStatic (tp : τ) (prio : Nat) (s : Kernel τ) : Kernel τ :=
  { s with
    p_prio := Function.update s.p_prio tp prio
    p_state := Function.update s.p_state tp .suspended
    p_preempt := Function.update s.p_preempt tp timeQuantum }.chSchWakeupS tp rdyOk

/-- The function of the virtual timers, which also takes the thread off the queue it waits in. -/
def wakeup (tp : τ) (s : Kernel τ) : Kernel τ :=
  if s.p_state tp = .ready then s
  else { s with rdymsg := Function.update s.rdymsg tp rdyTimeout }.chSchReadyI tp

/-- Up to the loop of `chVTDoTickI`. -/
def chSysTimerHandlerI (s : Kernel τ) : Kernel τ :=
  { s with
    p_preempt := Function.update s.p_preempt s.currp (s.p_preempt s.currp - 1)
    vtlist := s.vtlist.chVTDoTickI }

def turn (s : Kernel τ) : Kernel τ :=
  match s.vtlist.callback with
  | some tp => { s with vtlist := s.vtlist.turn }.wakeup tp
  | none => { s with vtlist := s.vtlist.turn }

def epilogue (s : Kernel τ) : Kernel τ :=
  if s.chSchIsPreemptionRequired then s.chSchDoReschedule else s

end Kernel

/-- What the threads and the interrupts do, in any order.  `ready` is what objects of the kernel do
with threads that wait at them, before the thread that has locked the system reschedules or goes to
sleep, or in an interrupt; several interrupts end together. -/
inductive KernelAction (τ : Type u)
  | lock
  | ready (tp : τ) (msg : Int)
  | reschedule
  | sleep (newstate : ThreadState)
  | sleepTimeout (newstate : ThreadState) (time : Nat)
  | wakeup (tp : τ) (msg : Int)
  | create (tp : τ) (prio : Nat)
  | yield
  | interrupt
  | tick
  | turn
  | leave

namespace Kernel

variable {τ : Type u} [DecidableEq τ]

def step (s : Kernel τ) : KernelAction τ → Kernel τ
  | .lock => { s with level := .system }
  | .ready tp msg => { s with rdymsg := Function.update s.rdymsg tp msg }.chSchReadyI tp
  | .reschedule => { s with level := .thread }.chSchRescheduleS
  | .sleep newstate => { s with level := .thread }.chSchGoSleepS newstate
  | .sleepTimeout newstate time => { s with level := .thread }.chSchGoSleepTimeoutS newstate time
  | .wakeup tp msg => s.chSchWakeupS tp msg
  | .create tp prio => s.chThdCreateStatic tp prio
  | .yield => s.chSchDoYieldS
  | .interrupt => { s with level := .isr }
  | .tick => { s with level := .isr }.chSysTimerHandlerI
  | .turn => s.turn
  | .leave => { s with level := .thread }.epilogue

def Waits (s : Kernel τ) (tp : τ) : Prop :=
  s.p_state tp ≠ .ready ∧ s.p_state tp ≠ .current ∧ s.p_state tp ≠ .final

instance (s : Kernel τ) (tp : τ) : Decidable (s.Waits tp) :=
  inferInstanceAs (Decidable (_ ∧ _ ∧ _))

/-- What the kernel asks of those that call it, and when interrupts come: only threads that wait are
woken up, the idle thread never sleeps, and a thread that locks the system is not interrupted. -/
def Rule (idle : τ) (s : Kernel τ) : KernelAction τ → Prop
  | .lock | .yield | .interrupt => s.level = .thread
  | .ready tp _ => s.level ≠ .thread ∧ s.Waits tp
  | .reschedule => s.level = .system
  | .sleep newstate =>
    s.level = .system ∧ s.currp ≠ idle ∧ newstate ≠ .ready ∧ newstate ≠ .current
  | .sleepTimeout newstate time =>
    s.level = .system ∧ s.currp ≠ idle ∧ newstate ≠ .ready ∧ newstate ≠ .current ∧
      newstate ≠ .final ∧ 0 < time ∧ time < 2 ^ 32
  | .wakeup tp _ => s.level = .thread ∧ s.Waits tp
  | .create tp prio => s.level = .thread ∧ s.p_state tp = .final ∧ 0 < prio
  | .tick => s.level ≠ .system ∧ s.vtlist.ticking = false
  | .turn => s.vtlist.ticking = true
  | .leave => s.level = .isr ∧ s.vtlist.ticking = false

instance Rule.decidable (idle : τ) (s : Kernel τ) :
    (action : KernelAction τ) → Decidable (Rule idle s action)
  | .lock | .yield | .interrupt => inferInstanceAs (Decidable (s.level = .thread))
  | .ready .. | .wakeup .. | .tick | .leave => inferInstanceAs (Decidable (_ ∧ _))
  | .reschedule => inferInstanceAs (Decidable (s.level = .system))
  | .sleep _ => inferInstanceAs (Decidable (_ ∧ _ ∧ _ ∧ _))
  | .sleepTimeout .. => inferInstanceAs (Decidable (_ ∧ _ ∧ _ ∧ _ ∧ _ ∧ _ ∧ _))
  | .create .. => inferInstanceAs (Decidable (_ ∧ _ ∧ _))
  | .turn => inferInstanceAs (Decidable (s.vtlist.ticking = true))

end Kernel

end TurningPoint
