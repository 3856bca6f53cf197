import TurningPoint.Lib.Chain

/-! The register of the user threads in `vexcortex.c` and the event source that tells them to end,
with its listeners of `chevents.c`. -/

universe u

namespace TurningPoint

abbrev maxThread : Nat := 20

/-- `tp` and `persistent` are the fields of the slots of `myThreads`, `listener` and `next` those of
their listeners, where nothing stands for `task_terminate`.  Of each thread `pending` says whether
its events are set, and `alive` that it has been created and has not ended.  `hung` is set where a
walk along the listeners does not end, which is with the system locked. -/
structure Tasks (τ : Type u) where
  tp : Fin maxThread → Option τ
  persistent : Fin maxThread → Bool
  listener : Fin maxThread → Option τ
  next : Option (Fin maxThread) → Option (Fin maxThread)
  pending : τ → Bool
  alive : τ → Bool
  hung : Bool

namespace Tasks

variable {τ : Type u} [DecidableEq τ]

def init : Tasks τ where
  tp := fun _ => none
  persistent := fun _ => false
  listener := fun _ => none
  next := fun _ => none
  pending := fun _ => false
  alive := fun _ => false
  hung := false

def create (t : τ) (s : Tasks τ) : Tasks τ :=
  { s with
    pending := Function.update s.pending t false
    alive := Function.update s.alive t true }

def slotOf (tp : Option τ) (s : Tasks τ) : Option (Fin maxThread) :=
  (List.finRange maxThread).find? fun i => s.tp i = tp

def chEvtRegisterMask (t : τ) (i : Fin maxThread) (s : Tasks τ) : Tasks τ :=
  { s with
    next := Lib.push i s.next
    listener := Function.update s.listener i (some t) }

def vexTaskRegisterPersistant (t : τ) (p : Bool) (s : Tasks τ) : Tasks τ :=
  match s.slotOf (some t) with
  | some i => { s with persistent := Function.update s.persistent i p }
  | none =>
    match s.slotOf none with
    | some i =>
      { s with
        tp := Function.update s.tp i (some t)
        persistent := Function.update s.persistent i p }.chEvtRegisterMask t i
    | none => s

/-- Walks are given up after a number of turns. -/
def chEvtUnregister (turns : Nat) (i : Fin maxThread) (s : Tasks τ) : Tasks τ :=
  match Lib.unlink i s.next turns none with
  | some next => { s with next := next }
  | none => { s with hung := true }

def chThdExit (t : τ) (s : Tasks τ) : Tasks τ :=
  { s with alive := Function.update s.alive t false }

/-- The thread wakes up in `vexSleep`.  Nothing calls `chThdTerminate` for it. -/
def vexSleep (turns : Nat) (t : τ) (s : Tasks τ) : Tasks τ :=
  if s.pending t then
    let s := { s with pending := Function.update s.pending t false }
    match s.slotOf (some t) with
    | some i => if s.persistent i then s else (s.chEvtUnregister turns i).chThdExit t
    | none => s.chThdExit t
  else s

def chEvtSignalI (i : Fin maxThread) (s : Tasks τ) : Tasks τ :=
  match s.listener i with
  | some t => { s with pending := Function.update s.pending t true }
  | none => s

def chEvtBroadcastI (turns : Nat) (s : Tasks τ) : Tasks τ :=
  match Lib.visit s.next turns none with
  | some listeners => listeners.foldl (fun s i => s.chEvtSignalI i) s
  | none => { s with hung := true }

/-- The monitor empties a slot when it has waited for its thread. -/
def collect (i : Fin maxThread) (s : Tasks τ) : Tasks τ :=
  match s.tp i with
  | some t =>
    if s.persistent i = false ∧ s.alive t = false then
      { s with tp := Function.update s.tp i none }
    else s
  | none => s

end Tasks

/-- What the threads and the monitor do, in any order; `returns` is the end of a thread's own
function. -/
inductive TasksAction (τ : Type u)
  | create (t : τ)
  | register (t : τ) (p : Bool)
  | sleep (t : τ)
  | returns (t : τ)
  | broadcast
  | collect (i : Fin maxThread)

/-- Only threads that are alive do anything, and nothing after a walk that does not end. -/
def Tasks.step {τ : Type u} [DecidableEq τ] (turns : Nat) (s : Tasks τ) : TasksAction τ → Tasks τ
  | .create t => if s.hung then s else s.create t
  | .register t p => if s.hung ∨ ¬ s.alive t then s else s.vexTaskRegisterPersistant t p
  | .sleep t => if s.hung ∨ ¬ s.alive t then s else s.vexSleep turns t
  | .returns t => if s.hung ∨ ¬ s.alive t then s else s.chThdExit t
  | .broadcast => if s.hung then s else s.chEvtBroadcastI turns
  | .collect i => if s.hung then s else s.collect i

end TurningPoint
