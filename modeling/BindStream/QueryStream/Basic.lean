import BindStream.Channel.Display
import BindStream.Channel.Schedule
import BindStream.Channel.Worker
import BindStream.QueryStream.Producer

namespace BindStream

/-! The rows of a statement, streamed from a producer to a consumer. -/

inductive StreamTask
  | consumer (worker : Worker Row)
  | producer (state : Producer)
  deriving DecidableEq, Repr

namespace StreamTask

def request : StreamTask → Option (Request Row)
  | consumer worker => worker.request
  | producer state => state.request

def resume (task : StreamTask) (reply : Reply Row) : StreamTask :=
  match task with
  | consumer worker => consumer (worker.resume reply)
  | producer state => producer (state.resume reply)

def client : Client Row StreamTask := ⟨request, resume⟩

def workload : StreamTask → Nat
  | consumer worker => worker.todo.length
  | producer state => state.remaining

end StreamTask

/-- The consumer is the first task of the system and the producer the second. -/
structure QueryStream where
  system : System Row StreamTask
  deriving DecidableEq, Repr

namespace QueryStream

def start (capacity : Capacity) (actions : List Action) : QueryStream :=
  ⟨.initial capacity [.consumer (.start []), .producer (.start actions)]⟩

/-- Binds values to a statement and starts an executor on it. There is always a thread for the
producer, so that binding is all that can fail. -/
def spawn {α : Type} [ToValue α] (executor : Executor) (statement : Statement)
    (values : List α) (capacity : Nat) : Except BindError QueryStream := do
  let bound ← (statement.bind values).1
  return start (.ofNat capacity) (executor (statement.text.getD "") bound)

def job? (stream : QueryStream) (i : Nat) : Option StreamTask :=
  stream.system.tasks[i]?.map Task.job

def consumer (stream : QueryStream) : Worker Row :=
  match stream.job? 0 with
  | some (.consumer worker) => worker
  | _ => .start []

def ending? (stream : QueryStream) : Option Ending :=
  match stream.job? 1 with
  | some (.producer state) => state.ending?
  | _ => none

/-- The stream reads through one cursor. -/
def cursorName : String := "rows"

def cursor (stream : QueryStream) : Cursor Row := stream.consumer.cursor cursorName

def buffered (stream : QueryStream) : Nat :=
  stream.system.channel.queue.length + if stream.cursor.isBuffered then 1 else 0

/-- The rounds that a run is given in which `rows` rows may pass: in proportion to these, to the
rows that wait and to what the tasks have ahead. -/
def fuel (stream : QueryStream) (rows : Nat) : Nat :=
  let workloads := stream.system.tasks.map fun task => task.job.workload + 1
  16 * (workloads.foldl (· + ·) 0 + stream.system.channel.queue.length + rows + 1)

def runUntil (stream : QueryStream) (rows : Nat) (stop : QueryStream → Bool) : QueryStream :=
  ⟨stream.system.run StreamTask.client (fun system => stop ⟨system⟩) none (stream.fuel rows)⟩

def consumerDone (stream : QueryStream) : Bool :=
  stream.system.hasEnded StreamTask.client 0

def perform (stream : QueryStream) (operations : List (Operation Row)) :
    List (Outcome Row) × QueryStream :=
  let task : Task Row StreamTask := .start (.consumer (stream.consumer.assign operations))
  let done := QueryStream.runUntil ⟨stream.system.setTask 0 task⟩ 0 consumerDone
  (done.consumer.outcomes, done)

def rowOf? : Outcome Row → Option Row
  | .answer (.row row) => row
  | _ => none

def take (stream : QueryStream) (count : Nat) : List Row × QueryStream :=
  let (outcomes, next) := stream.perform (List.replicate count (.query cursorName .next))
  (outcomes.filterMap rowOf?, next)

def next (stream : QueryStream) : Option Row × QueryStream :=
  let (rows, next) := stream.take 1
  (rows.head?, next)

def drain (stream : QueryStream) : List Row × QueryStream :=
  let (outcomes, next) := stream.perform [.collect cursorName]
  let rows := outcomes.flatMap fun
    | .rows rows => rows
    | _ => []
  (rows, next)

/-- Gives up; rows already queued can still be read. -/
def cancel (stream : QueryStream) : QueryStream := (stream.perform [.ask .cancel]).2

def awaitBuffered (stream : QueryStream) (count : Nat) : QueryStream :=
  stream.runUntil count fun s => count ≤ s.buffered

/-- Gives up and waits for the producer; unread rows are lost. -/
def finish (stream : QueryStream) : Option Ending :=
  (stream.cancel.runUntil 0 fun s => s.ending?.isSome).ending?

def display (stream : QueryStream) : String :=
  displayFields "QueryStream" [
    ("cursor", stream.system.channel.displayCursor stream.cursor),
    ("running", displayFlag stream.ending?.isNone)]

end QueryStream

end BindStream
