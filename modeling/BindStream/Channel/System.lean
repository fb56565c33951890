import BindStream.Channel.Basic

namespace BindStream

/-! Any number of tasks on one channel, and the single steps in which they interleave: a pass
through the lock, a notification, a wake-up, the end of a wait. -/

/-- How tasks come by their requests and what they make of the replies. -/
structure Client (ρ σ : Type) where
  /-- The next request; `none` once the task has ended. -/
  request : σ → Option (Request ρ)
  resume : σ → Reply ρ → σ

/-- A request under way, with the time until which it waits. -/
structure Call (ρ : Type) where
  request : Request ρ
  deadline : Option Nat
  deriving DecidableEq, Repr

inductive Wake
  | first
  | notified
  | expired
  | spurious
  deriving DecidableEq, Repr

inductive Phase (ρ : Type)
  | ready
  | entering (call : Call ρ) (wake : Wake)
  /-- Asleep, and not notified. -/
  | asleep (call : Call ρ) (condition : Condition)
  /-- Through the lock, with signals to send. -/
  | signalling (signals : List Signal) (reply : Reply ρ)
  deriving DecidableEq, Repr

structure Task (ρ σ : Type) where
  job : σ
  phase : Phase ρ
  deriving DecidableEq, Repr

structure System (ρ σ : Type) where
  channel : Channel ρ
  clock : Nat
  tasks : List (Task ρ σ)
  deriving DecidableEq, Repr

inductive Move
  /-- A task takes its next step; if that is to notify one sleeper, then the one that is named. -/
  | advance (task : Nat) (sleeper : Option Nat)
  | expire (task : Nat)
  | disturb (task : Nat)
  | pass (time : Nat)
  deriving DecidableEq, Repr

namespace Call

variable {ρ : Type}

/-- A call begins. Its deadline is taken to be a time that the clock can show. -/
def start (request : Request ρ) (clock : Nat) : Call ρ :=
  ⟨request, request.within?.map (clock + ·)⟩

/-- A pass through the lock. A call that would have to wait beyond its deadline looks again at
once, its time over. -/
def enter (call : Call ρ) (channel : Channel ρ) (wake : Wake) (clock : Nat) : Verdict ρ :=
  match channel.attempt call.request (wake == .expired) with
  | .wait condition =>
    if call.deadline.any (· < clock) then channel.attempt call.request true else .wait condition
  | verdict => verdict

end Call

namespace Task

variable {ρ σ : Type}

def start (job : σ) : Task ρ σ := ⟨job, .ready⟩

def sleepsOn (task : Task ρ σ) (condition : Condition) : Bool :=
  match task.phase with
  | .asleep _ c => c == condition
  | _ => false

def wake (task : Task ρ σ) (cause : Wake) : Task ρ σ :=
  match task.phase with
  | .asleep call _ => { task with phase := .entering call cause }
  | _ => task

def deadline? (task : Task ρ σ) : Option Nat :=
  match task.phase with
  | .asleep call _ => call.deadline
  | _ => none

def isAsleep (task : Task ρ σ) : Bool :=
  match task.phase with
  | .asleep _ _ => true
  | _ => false

def hasEnded (client : Client ρ σ) (task : Task ρ σ) : Bool :=
  match task.phase with
  | .ready => (client.request task.job).isNone
  | _ => false

end Task

namespace System

variable {ρ σ : Type}

def initial (capacity : Capacity) (jobs : List σ) : System ρ σ :=
  ⟨.empty capacity, 0, jobs.map Task.start⟩

def setTask (system : System ρ σ) (i : Nat) (task : Task ρ σ) : System ρ σ :=
  { system with tasks := system.tasks.set i task }

/-- Delivers a signal. One sleeper is notified if there is any; which one is not determined. -/
def deliver (system : System ρ σ) (signal : Signal) (sleeper : Option Nat) :
    Option (System ρ σ) :=
  match signal, sleeper with
  | .all condition, _ =>
    some { system with
      tasks := system.tasks.map fun task =>
        if task.sleepsOn condition then task.wake .notified else task }
  | .one condition, some j => do
    let task ← system.tasks[j]?
    if task.sleepsOn condition then some (system.setTask j (task.wake .notified)) else none
  | .one condition, none =>
    if system.tasks.any (·.sleepsOn condition) then none else some system

def advance (client : Client ρ σ) (system : System ρ σ) (i : Nat) (sleeper : Option Nat) :
    Option (System ρ σ) := do
  let task ← system.tasks[i]?
  match task.phase with
  | .ready =>
    let request ← client.request task.job
    some (system.setTask i
      { task with phase := .entering (.start request system.clock) .first })
  | .entering call wake =>
    match call.enter system.channel wake system.clock with
    | .wait condition => some (system.setTask i { task with phase := .asleep call condition })
    | .reply channel signals reply =>
      some { system.setTask i { task with phase := .signalling signals reply } with
        channel := channel }
  | .asleep _ _ => none
  | .signalling [] reply => some (system.setTask i ⟨client.resume task.job reply, .ready⟩)
  | .signalling (signal :: signals) reply =>
    (system.setTask i { task with phase := .signalling signals reply }).deliver signal sleeper

def expire (system : System ρ σ) (i : Nat) : Option (System ρ σ) := do
  let task ← system.tasks[i]?
  if task.deadline?.any (· ≤ system.clock) then
    some (system.setTask i (task.wake .expired))
  else none

def disturb (system : System ρ σ) (i : Nat) : Option (System ρ σ) := do
  let task ← system.tasks[i]?
  if task.isAsleep then some (system.setTask i (task.wake .spurious)) else none

def pass (system : System ρ σ) (time : Nat) : System ρ σ :=
  { system with clock := system.clock + time }

/-- The system after a move; `none` if the move is not possible. -/
def move (client : Client ρ σ) (system : System ρ σ) : Move → Option (System ρ σ)
  | .advance i sleeper => system.advance client i sleeper
  | .expire i => system.expire i
  | .disturb i => system.disturb i
  | .pass time => some (system.pass time)

def Step (client : Client ρ σ) (system next : System ρ σ) : Prop :=
  ∃ move, system.move client move = some next

/-- The systems that some interleaving leads to. -/
inductive Reachable (client : Client ρ σ) (start : System ρ σ) : System ρ σ → Prop
  | start : Reachable client start start
  | step {system next : System ρ σ} :
      Reachable client start system → Step client system next → Reachable client start next

end System

end BindStream
