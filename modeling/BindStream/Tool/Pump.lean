import BindStream.Channel.Schedule
import BindStream.Tool.Input
import BindStream.Tool.Output

namespace BindStream

/-! Lines pumped from a feed through a channel to an output. -/

/-- The task that reads. Each state but the last knows the number of lines read. -/
inductive Reader
  | reading (line : String) (rest : List String) (failure : Option DeviceError) (produced : Nat)
  | closing (failure : Option DeviceError) (produced : Nat)
  | ended (failure : Option DeviceError) (produced : Nat)
  deriving DecidableEq, Repr

namespace Reader

def start (lines : List String) (failure : Option DeviceError) (produced : Nat) : Reader :=
  match lines with
  | [] => closing failure produced
  | line :: rest => reading line rest failure (produced + 1)

def request : Reader → Option (Request String)
  | reading line _ _ _ => some (.put line none)
  | closing _ _ => some .cancel
  | ended _ _ => none

/-- A refused line ends the reading, and what follows it is never read. -/
def resume (reader : Reader) (reply : Reply String) : Reader :=
  match reader, reply with
  | reading _ _ _ produced, .refused _ _ => closing none produced
  | reading _ rest failure produced, _ => start rest failure produced
  | closing failure produced, _ => ended failure produced
  | ended failure produced, _ => ended failure produced

def produced : Reader → Nat
  | reading _ _ _ produced => produced
  | closing _ produced => produced
  | ended _ produced => produced

def failure? : Reader → Option DeviceError
  | reading _ _ failure _ => failure
  | closing failure _ => failure
  | ended failure _ => failure

def workload : Reader → Nat
  | reading _ rest _ _ => rest.length + 1
  | _ => 0

end Reader

inductive Stop
  | ranDry
  | limitReached
  | outputFull
  deriving DecidableEq, Repr

inductive Writer.Stage
  | draining
  | closing (stop : Stop)
  | ended (stop : Stop)
  deriving DecidableEq, Repr

structure Writer where
  limit : Option Nat
  consumed : Nat
  output : Output
  stage : Writer.Stage
  deriving DecidableEq, Repr

namespace Writer

/-- The writer before its next row, unless it has written enough. -/
def next (limit : Option Nat) (consumed : Nat) (output : Output) : Writer :=
  let stage := if limit.all (consumed < ·) then .draining else .closing .limitReached
  ⟨limit, consumed, output, stage⟩

def request (writer : Writer) : Option (Request String) :=
  match writer.stage with
  | .draining => some (.take none)
  | .closing _ => some .cancel
  | .ended _ => none

def resume (writer : Writer) (reply : Reply String) : Writer :=
  match writer.stage, reply with
  | .draining, .row line =>
    match writer.output.write (line ++ "\n") with
    | (output, true) => next writer.limit (writer.consumed + 1) output
    | (output, false) => { writer with output := output, stage := .closing .outputFull }
  | .draining, _ => { writer with stage := .closing .ranDry }
  | .closing stop, _ => { writer with stage := .ended stop }
  | .ended _, _ => writer

def stop? (writer : Writer) : Option Stop :=
  match writer.stage with
  | .ended stop => some stop
  | _ => none

end Writer

inductive PumpTask
  | writer (writer : Writer)
  | reader (state : Reader)
  deriving DecidableEq, Repr

namespace PumpTask

def request : PumpTask → Option (Request String)
  | writer w => w.request
  | reader r => r.request

def resume (task : PumpTask) (reply : Reply String) : PumpTask :=
  match task with
  | writer w => writer (w.resume reply)
  | reader r => reader (r.resume reply)

def client : Client String PumpTask := ⟨request, resume⟩

end PumpTask

/-- What a pump has moved. How many lines were read is not determined when the limit ends it. -/
structure PumpSummary where
  consumed : Nat
  produced : Option Nat
  deriving DecidableEq, Repr

/-- The writer is the first task of the system and the reader the second. -/
structure Pump where
  system : System String PumpTask
  deriving DecidableEq, Repr

namespace Pump

/-- A pump begins. There is always a thread for the reader. -/
def start (lines : List String) (failure : Option DeviceError) (output : Output)
    (capacity : Capacity) (limit : Option Nat) : Pump :=
  ⟨.initial capacity [
    .writer (.next limit 0 output), .reader (.start lines failure 0)]⟩

def job? (pump : Pump) (i : Nat) : Option PumpTask := pump.system.tasks[i]?.map Task.job

def writer? (pump : Pump) : Option Writer :=
  match pump.job? 0 with
  | some (.writer w) => some w
  | _ => none

def reader? (pump : Pump) : Option Reader :=
  match pump.job? 1 with
  | some (.reader r) => some r
  | _ => none

/-- What has been written when the writer has ended, and the summary or the error. A pump that
ran dry waits for its reader and takes over its failure. -/
def result? (pump : Pump) : Option (Output × Except ToolError PumpSummary) := do
  let writer ← pump.writer?
  match ← writer.stop? with
  | .outputFull => some (writer.output, .error (.device .full))
  | .limitReached => some (writer.output, .ok ⟨writer.consumed, none⟩)
  | .ranDry =>
    match ← pump.reader? with
    | .ended none produced => some (writer.output, .ok ⟨writer.consumed, some produced⟩)
    | .ended (some cause) _ => some (writer.output, .error (.device cause))
    | _ => none

/-- A bound on the rounds in which a pump of some lines ends. -/
def fuel (lines : Nat) : Nat := 16 * (lines + 4)

def run (pump : Pump) (fuel : Nat) : Pump :=
  ⟨pump.system.run PumpTask.client (fun system => (result? ⟨system⟩).isSome) none fuel⟩

end Pump

/-- Pumps the lines of a feed through a channel to an output. -/
def pump (feed : Feed) (output : Output) (capacity : Nat) (limit : Option Nat) :
    Output × Except ToolError PumpSummary :=
  let (lines, failure) := feed.lines
  let start := Pump.start (lines.map String.ofList) failure output (.ofNat capacity) limit
  ((start.run (Pump.fuel lines.length)).result?).getD (output, .ok ⟨0, none⟩)

end BindStream
