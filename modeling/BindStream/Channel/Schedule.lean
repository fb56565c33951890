import BindStream.Channel.System

namespace BindStream.System

/-! One schedule: tasks take turns, a notification reaches the first sleeper, and time passes only
when no task can move. -/

variable {ρ σ : Type}

def sleeperFor (system : System ρ σ) (i : Nat) : Option Nat := do
  let task ← system.tasks[i]?
  match task.phase with
  | .signalling (.one condition :: _) _ => system.tasks.findIdx? (·.sleepsOn condition)
  | _ => none

def turn (client : Client ρ σ) (system : System ρ σ) (i : Nat) : Option (System ρ σ) :=
  system.move client (.advance i (system.sleeperFor i))

/-- One turn for each of some tasks; `none` if none of them can move. -/
def turns (client : Client ρ σ) (system : System ρ σ) : List Nat → Option (System ρ σ)
  | [] => none
  | i :: rest =>
    match system.turn client i with
    | none => system.turns client rest
    | some next => some ((next.turns client rest).getD next)

def round (client : Client ρ σ) (system : System ρ σ) : Option (System ρ σ) :=
  system.turns client (List.range system.tasks.length)

def nextDeadline (system : System ρ σ) : Option Nat :=
  (system.tasks.filterMap Task.deadline?).min?

/-- Time passes up to `time`, and the waits that end by then are over. -/
def passTo (client : Client ρ σ) (system : System ρ σ) (time : Nat) : System ρ σ :=
  let later := (system.move client (.pass (time - system.clock))).getD system
  (List.range later.tasks.length).foldl (fun s i => (s.move client (.expire i)).getD s) later

/-- Runs until `stop` holds or no task can move before the time `horizon`, for at most `fuel`
rounds. -/
def run (client : Client ρ σ) (stop : System ρ σ → Bool) (horizon : Option Nat) :
    Nat → System ρ σ → System ρ σ
  | 0, system => system
  | fuel + 1, system =>
    if stop system then system
    else
      match system.round client with
      | some next => run client stop horizon fuel next
      | none =>
        match system.nextDeadline with
        | none => system
        | some deadline =>
          if horizon.all (deadline ≤ ·) then
            run client stop horizon fuel (system.passTo client deadline)
          else system

def hasEnded (client : Client ρ σ) (i : Nat) (system : System ρ σ) : Bool :=
  system.tasks[i]?.all (·.hasEnded client)

end BindStream.System
