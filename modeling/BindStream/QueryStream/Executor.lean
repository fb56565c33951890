import BindStream.Binding
import BindStream.Channel.Basic

namespace BindStream

/-! What an executor does with the channel of a stream, and how it ends. -/

inductive ExecuteError
  | bind (cause : BindError)
  | channel (cause : ChannelError)
  | driver (message : String)
  | spawn (message : String)
  | producerPanicked
  deriving DecidableEq, Repr

def ExecuteError.message : ExecuteError → String
  | bind cause => cause.message
  | channel cause => "Result channel closed: " ++ cause.message
  | driver message => "Driver error: " ++ message
  | spawn message => "Failed to spawn producer thread: " ++ message
  | producerPanicked => "Producer thread panicked"

inductive Ending
  | finished
  | failed (error : ExecuteError)
  | panicked
  deriving DecidableEq, Repr

/-- The error that an ending is reported as; a panic shows only as such. -/
def Ending.error? : Ending → Option ExecuteError
  | finished => none
  | failed error => some error
  | panicked => some .producerPanicked

inductive Action
  /-- Pushes a row; a refusal ends the execution. -/
  | push (row : Row)
  /-- Pushes a row and ignores a refusal. -/
  | offer (row : Row)
  /-- Pushes a row that tells whether the consumer has given up. -/
  | pushCancelled
  /-- Pushes rows of one number each, counting up, until one is refused. -/
  | pushFrom (number : Nat)
  /-- Waits until the consumer gives up, and then fails. -/
  | awaitCancel (message : String)
  | fail (error : ExecuteError)
  | panic
  deriving DecidableEq, Repr

/-- An executor, by what it does with a statement text and the values bound to it. -/
abbrev Executor := String → List BoundValue → List Action

def Row.ofNat (n : Nat) : Row := ⟨[.int (.ofNat n)]⟩

/-- The steps of an executor that follows a script. -/
inductive Directive
  | row (values : List Value)
  | rows (count : Nat)
  | swallow (count : Nat)
  | endless
  | params
  | bound
  | sql
  | cancelled
  | waitCancel (message : String)
  | fail (message : String)
  | failTimeout
  | panic
  deriving DecidableEq, Repr

/-- A bound value as a row: ordinal, column, place of the marker, value. -/
def BoundValue.row (bound : BoundValue) : Row :=
  ⟨[.int (.ofNat bound.parameter.ordinal), .text bound.parameter.column,
    .int (.ofNat bound.parameter.span.start), bound.value]⟩

def Directive.actions (sql : String) (bound : List BoundValue) : Directive → List Action
  | row values => [.push ⟨values⟩]
  | rows count => (List.range count).map fun n => .push (.ofNat n)
  | swallow count => (List.range count).map fun n => .offer (.ofNat n)
  | endless => [.pushFrom 0]
  | params => [.push ⟨bound.map BoundValue.value⟩]
  | .bound => bound.map fun b => .push b.row
  | .sql => [.push ⟨[.text sql]⟩]
  | cancelled => [.pushCancelled]
  | waitCancel message => [.awaitCancel message]
  | fail message => [.fail (.driver message)]
  | failTimeout => [.fail (.channel .timedOut)]
  | panic => [.panic]

def Executor.ofScript (script : List Directive) : Executor := fun sql bound =>
  script.flatMap (Directive.actions sql bound)

end BindStream
