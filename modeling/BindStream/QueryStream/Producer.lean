import BindStream.Channel.System
import BindStream.QueryStream.Executor

namespace BindStream

/-! The task that runs an executor and then closes the channel. -/

inductive Producer
  | executing (actions : List Action)
  /-- The executor has returned, and the channel is to be cancelled. -/
  | closing (ending : Ending)
  | ended (ending : Ending)
  deriving DecidableEq, Repr

namespace Producer

/-- A producer with some actions ahead. An executor that panics takes its task with it, and the
channel is left as it is. -/
def start : List Action → Producer
  | [] => closing .finished
  | .fail error :: _ => closing (.failed error)
  | .panic :: _ => ended .panicked
  | actions => executing actions

def request : Producer → Option (Request Row)
  | executing (.push row :: _) => some (.put row none)
  | executing (.offer row :: _) => some (.put row none)
  | executing (.pushFrom n :: _) => some (.put (.ofNat n) none)
  | executing (.pushCancelled :: _) => some .inspect
  | executing (.awaitCancel _ :: _) => some .inspect
  | executing _ => none
  | closing _ => some .cancel
  | ended _ => none

def resume (producer : Producer) (reply : Reply Row) : Producer :=
  match producer with
  | executing (.push _ :: rest) =>
    match reply with
    | .refused _ cause => closing (.failed (.channel cause))
    | _ => start rest
  | executing (.offer _ :: rest) => start rest
  | executing (.pushFrom n :: rest) =>
    match reply with
    | .refused _ cause => closing (.failed (.channel cause))
    | _ => executing (.pushFrom (n + 1) :: rest)
  | executing (.pushCancelled :: rest) =>
    match reply with
    | .status _ cancelled => executing (.push ⟨[.bool cancelled]⟩ :: rest)
    | _ => start rest
  | executing (.awaitCancel message :: rest) =>
    match reply with
    | .status _ true => closing (.failed (.driver message))
    | _ => executing (.awaitCancel message :: rest)
  | executing [] => closing .finished
  | executing (.fail error :: _) => closing (.failed error)
  | executing (.panic :: _) => ended .panicked
  | closing ending => ended ending
  | ended ending => ended ending

def ending? : Producer → Option Ending
  | ended ending => some ending
  | _ => none

def remaining : Producer → Nat
  | executing actions => actions.length
  | _ => 0

end Producer

end BindStream
