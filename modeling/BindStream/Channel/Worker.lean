import BindStream.Channel.Cursor
import BindStream.Channel.System

namespace BindStream

/-! A task that carries out a list of operations, with cursors of its own. -/

inductive Operation (ρ : Type)
  | ask (request : Request ρ)
  | openCursor (name : String)
  | dropCursor (name : String)
  | query (name : String) (query : Cursor.Query)
  /-- Takes all rows through a cursor, which is then gone. -/
  | collect (name : String)
  deriving DecidableEq, Repr

inductive Outcome (ρ : Type)
  | reply (reply : Reply ρ)
  | opened
  | dropped (existed : Bool)
  | answer (answer : Cursor.Answer ρ)
  | rows (rows : List ρ)
  deriving DecidableEq, Repr

structure Worker (ρ : Type) where
  todo : List (Operation ρ)
  cursors : List (String × Cursor ρ)
  collected : List ρ
  outcomes : List (Outcome ρ)
  deriving DecidableEq, Repr

namespace Worker

variable {ρ : Type}

/-- A cursor by name; one that was never opened is empty. -/
def cursor (worker : Worker ρ) (name : String) : Cursor ρ :=
  (worker.cursors.lookup name).getD .empty

def removeCursor (worker : Worker ρ) (name : String) : Worker ρ :=
  { worker with cursors := worker.cursors.filter (·.1 != name) }

def setCursor (worker : Worker ρ) (name : String) (cursor : Cursor ρ) : Worker ρ :=
  { worker with cursors := (name, cursor) :: (worker.removeCursor name).cursors }

def report (worker : Worker ρ) (outcome : Outcome ρ) : Worker ρ :=
  { worker with outcomes := worker.outcomes ++ [outcome] }

/-- Carries out operations up to the first that needs the channel. -/
def settle (worker : Worker ρ) : List (Operation ρ) → Worker ρ
  | [] => { worker with todo := [] }
  | .openCursor name :: rest => ((worker.setCursor name .empty).report .opened).settle rest
  | .dropCursor name :: rest =>
    let existed := (worker.cursors.lookup name).isSome
    ((worker.removeCursor name).report (.dropped existed)).settle rest
  | .query name query :: rest =>
    match (worker.cursor name).answer? query with
    | some (answer, cursor) => ((worker.setCursor name cursor).report (.answer answer)).settle rest
    | none => { worker with todo := .query name query :: rest }
  | .collect name :: rest =>
    { worker.setCursor name .empty with
      todo := .collect name :: rest
      collected := (worker.cursor name).lookahead.toList }
  | .ask request :: rest => { worker with todo := .ask request :: rest }

def start (operations : List (Operation ρ)) : Worker ρ :=
  settle ⟨[], [], [], []⟩ operations

/-- The worker with new operations and without the outcomes of the last ones. -/
def assign (worker : Worker ρ) (operations : List (Operation ρ)) : Worker ρ :=
  { worker with outcomes := [] }.settle operations

def request (worker : Worker ρ) : Option (Request ρ) :=
  match worker.todo with
  | [] => none
  | .ask request :: _ => some request
  | .query _ query :: _ => some (Cursor.request query)
  | .collect _ :: _ => some (.take none)
  | .openCursor _ :: _ => none
  | .dropCursor _ :: _ => none

def resume (worker : Worker ρ) (reply : Reply ρ) : Worker ρ :=
  match worker.todo with
  | .ask _ :: rest => (worker.report (.reply reply)).settle rest
  | .query name query :: rest =>
    let (answer, cursor) := Cursor.receive query reply
    ((worker.setCursor name cursor).report (.answer answer)).settle rest
  | .collect name :: rest =>
    match reply with
    | .row row => { worker with collected := worker.collected ++ [row] }
    | _ =>
      let finished := (worker.removeCursor name).report (.rows worker.collected)
      { finished with collected := [] }.settle rest
  | _ => worker

def client : Client ρ (Worker ρ) := ⟨request, resume⟩

end Worker

end BindStream
