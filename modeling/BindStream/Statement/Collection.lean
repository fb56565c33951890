import BindStream.Binding

namespace BindStream

/-! Numbered statements, one of them current. -/

structure Statements where
  all : List Statement
  current : Nat
  deriving DecidableEq, Repr

inductive Statements.Request
  | new
  | ofText (text : String)
  | clone
  | select (index : Nat)
  | set (text : String)
  | text
  | count
  | parameters
  | columns
  | bind (values : List Value)
  deriving DecidableEq, Repr

inductive Statements.Reply
  | done
  | index (index : Nat)
  | text (text : Option String)
  | count (count : Nat)
  | parameters (result : Except ResolveError (List Parameter))
  | columns (result : Except ResolveError (List String))
  | bound (result : Except BindError (List BoundValue))

namespace Statements

def initial : Statements := ⟨[.unset], 0⟩

def get (statements : Statements) : Statement := statements.all.getD statements.current .unset

def put (statements : Statements) (statement : Statement) : Statements :=
  { statements with all := statements.all.set statements.current statement }

def add (statements : Statements) (statement : Statement) : Reply × Statements :=
  let index := statements.all.length
  (.index index, ⟨statements.all ++ [statement], index⟩)

/-- Answers from the current statement and keeps what it has become. -/
def ask {α : Type} (statements : Statements) (question : Statement → α × Statement)
    (reply : α → Reply) : Reply × Statements :=
  let (result, statement) := question statements.get
  (reply result, statements.put statement)

def answer (statements : Statements) : Request → Reply × Statements
  | .new => statements.add .unset
  | .ofText text => statements.add (.ofText text)
  | .clone => statements.add statements.get
  | .select index => (.index index, { statements with current := index })
  | .set text => (.done, statements.put (statements.get.setText text))
  | .text => (.text statements.get.text, statements)
  | .count => (.count statements.get.countMarkers, statements)
  | .parameters => statements.ask Statement.parameters .parameters
  | .columns => statements.ask Statement.columnNames .columns
  | .bind values => statements.ask (·.bind values) .bound

def answers (statements : Statements) : List Request → List Reply
  | [] => []
  | request :: requests =>
    let (reply, next) := statements.answer request
    reply :: next.answers requests

end Statements

end BindStream
