import BindStream.Proofs.Token.Name

namespace BindStream

/-! Statements that insert rows, with the columns to which their markers are to bind. -/

/-- A marker, a literal or a call of a function on such. -/
inductive Expression
  | marker
  | literal (value : Literal)
  | call (function : Name) (arguments : List Expression)

namespace Expression

mutual

def lexemes : Expression → List Lexeme
  | marker => [.marker]
  | literal value => [value.lexeme]
  | call function arguments =>
    function.lexeme :: .opening :: (commaSeparated (lexemesAmong arguments) ++ [.closing])

def lexemesAmong : List Expression → List (List Lexeme)
  | [] => []
  | argument :: arguments => argument.lexemes :: lexemesAmong arguments

end

mutual

def markers : Expression → Nat
  | marker => 1
  | literal _ => 0
  | call _ arguments => markersAmong arguments

def markersAmong : List Expression → Nat
  | [] => 0
  | argument :: arguments => argument.markers + markersAmong arguments

end

theorem lexemesAmong_eq_map (arguments : List Expression) :
    lexemesAmong arguments = arguments.map lexemes := by
  induction arguments with
  | nil => rfl
  | cons argument arguments ih => rw [lexemesAmong, ih, List.map_cons]

theorem replicate_markersAmong (arguments : List Expression) (column : String) :
    List.replicate (markersAmong arguments) column =
      arguments.flatMap fun argument => List.replicate argument.markers column := by
  induction arguments with
  | nil => rfl
  | cons argument arguments ih =>
      rw [markersAmong, List.flatMap_cons, ← ih, List.replicate_append_replicate]

/-- Induction in which a property of a call may be derived from that of its arguments. -/
@[induction_eliminator]
theorem induction {motive : Expression → Prop} (marker : motive marker)
    (literal : ∀ value, motive (literal value))
    (call : ∀ function arguments, (∀ argument ∈ arguments, motive argument) →
      motive (call function arguments))
    (expression : Expression) : motive expression :=
  match expression with
  | .marker => marker
  | .literal value => literal value
  | .call function arguments =>
    call function arguments fun argument _ => induction marker literal call argument

end Expression

/-- What an insertion does about a row that is there already. -/
structure Upsert where
  target : Name
  assignments : List (Name × Expression)
  assigns : assignments ≠ []

structure Insertion where
  table : Name
  columns : List Name
  named : columns ≠ []
  rows : List (List Expression)
  filled : rows ≠ []
  shaped : ∀ row ∈ rows, row.length = columns.length
  upsert : Option Upsert

namespace Upsert

def conflictWord : Name := .word 'C' ['O', 'N', 'F', 'L', 'I', 'C', 'T'] rfl

def doWord : Name := .word 'D' ['O'] rfl

def assignment (pair : Name × Expression) : List Lexeme :=
  pair.1.lexeme :: Operator.equals.lexeme :: pair.2.lexemes

def lexemes (upsert : Upsert) : List Lexeme :=
  [Keyword.ON.lexeme, conflictWord.lexeme, .opening, upsert.target.lexeme, .closing,
    doWord.lexeme, Keyword.UPDATE.lexeme, Keyword.SET.lexeme] ++
      commaSeparated (upsert.assignments.map assignment)

end Upsert

namespace Insertion

def rowLexemes (row : List Expression) : List Lexeme :=
  .opening :: (commaSeparated (row.map Expression.lexemes) ++ [.closing])

def lexemes (insertion : Insertion) : List Lexeme :=
  [Keyword.INSERT.lexeme, Keyword.INTO.lexeme, insertion.table.lexeme, .opening] ++
    commaSeparated (insertion.columns.map fun column => [column.lexeme]) ++
    [.closing, Keyword.VALUES.lexeme] ++
    commaSeparated (insertion.rows.map rowLexemes) ++
    insertion.upsert.elim [] Upsert.lexemes

/-- Columns with the expressions that are written to them, each column once for each marker. -/
def bound (pairs : List (Name × Expression)) : List String :=
  pairs.flatMap fun (column, expression) => List.replicate expression.markers column.column

/-- The markers of a row bind by position, and those of an assignment to the column assigned. -/
def boundColumns (insertion : Insertion) : List String :=
  (insertion.rows.flatMap fun row => bound (insertion.columns.zip row)) ++
    insertion.upsert.elim [] fun upsert => bound upsert.assignments

end Insertion

end BindStream
