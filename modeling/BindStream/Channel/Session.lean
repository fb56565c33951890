import BindStream.Channel.Schedule
import BindStream.Channel.Worker

namespace BindStream

/-! A channel with a worker in the foreground and workers that it starts. -/

structure Session (ρ : Type) where
  system : System ρ (Worker ρ)
  started : List (String × Nat)

namespace Session

variable {ρ : Type}

def initial (capacity : Capacity) : Session ρ :=
  ⟨.initial capacity [.start []], []⟩

def foreground (session : Session ρ) : Worker ρ :=
  (session.system.tasks.head?.map Task.job).getD (.start [])

/-- The rounds that a run is given: in proportion to the operations ahead, the rows that wait and
the tasks. -/
def fuel (session : Session ρ) : Nat :=
  let operations := session.system.tasks.map fun task => task.job.todo.length + 1
  16 * (operations.foldl (· + ·) 0 + session.system.channel.queue.length + 1)

def runUntil (session : Session ρ) (task : Nat) : Session ρ :=
  { session with
    system := session.system.run Worker.client (System.hasEnded Worker.client task) none
      session.fuel }

def perform (session : Session ρ) (operations : List (Operation ρ)) :
    List (Outcome ρ) × Session ρ :=
  let task : Task ρ (Worker ρ) := .start (session.foreground.assign operations)
  let done := { session with system := session.system.setTask 0 task }.runUntil 0
  (done.foreground.outcomes, done)

/-- Starts a worker, under a name by which it can be joined. -/
def spawn (session : Session ρ) (name : String) (operations : List (Operation ρ)) : Session ρ :=
  let tasks := session.system.tasks
  { system := { session.system with tasks := tasks ++ [.start (.start operations)] }
    started := (name, tasks.length) :: session.started }

/-- Waits for a worker; `none` if there is none of that name. -/
def join (session : Session ρ) (name : String) : Option (List (Outcome ρ) × Session ρ) := do
  let task ← session.started.lookup name
  let done := session.runUntil task
  let worker ← done.system.tasks[task]?
  return (worker.job.outcomes, { done with started := done.started.filter (·.1 != name) })

/-- Whether a worker is still at work after `time`; `none` if there is none of that name. -/
def isBlocked (session : Session ρ) (name : String) (time : Nat) :
    Option (Bool × Session ρ) := do
  let task ← session.started.lookup name
  let horizon := session.system.clock + time
  let run := session.system.run Worker.client (fun _ => false) (some horizon) session.fuel
  let later := run.passTo Worker.client horizon
  return (!later.hasEnded Worker.client task, { session with system := later })

end Session

end BindStream
