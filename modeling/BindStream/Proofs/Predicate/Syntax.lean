import BindStream.Proofs.Token.Name

namespace BindStream

/-! Predicates on columns, and the statements that end in one. -/

/-- Calls of functions, one in the other, around a name. -/
inductive Nest
  | name (inner : Name)
  | call (function : Name) (argument : Nest)

/-- What a predicate compares: a column, qualified or in calls. -/
inductive Operand
  | qualified (qualifiers : List Name) (name : Name)
  | nest (calls : Nest)

inductive Argument
  | marker
  | literal (value : Literal)

inductive Comparand
  | plain (argument : Argument)
  | call (function : Name) (arguments : List Argument)

inductive Atom
  | compare (operand : Operand) (operator : Operator) (comparand : Comparand)
  /-- `IN`, with one marker and some others. -/
  | isIn (operand : Operand) (others : Nat)
  | between (operand : Operand)
  | like (operand : Operand)

inductive Predicate
  | atom (leaf : Atom)
  | not (predicate : Predicate)
  | and (left right : Predicate)
  | or (left right : Predicate)
  | parenthesized (predicate : Predicate)

inductive Head
  | select (table : Name)
  | delete (table : Name)
  | update (table : Name) (assigned : List Name)

namespace Nest

def lexemes : Nest → List Lexeme
  | name inner => [inner.lexeme]
  | call function argument => function.lexeme :: .opening :: (argument.lexemes ++ [.closing])

def column : Nest → String
  | name inner => inner.column
  | call _ argument => argument.column

end Nest

namespace Operand

def qualifier (name : Name) : List Lexeme := [name.lexeme, Operator.dot.lexeme]

def lexemes : Operand → List Lexeme
  | qualified qualifiers name => qualifiers.flatMap qualifier ++ [name.lexeme]
  | nest calls => calls.lexemes

def column : Operand → String
  | qualified _ name => name.column
  | nest calls => calls.column

end Operand

def Argument.lexeme : Argument → Lexeme
  | marker => .marker
  | literal value => value.lexeme

def Comparand.lexemes : Comparand → List Lexeme
  | plain argument => [argument.lexeme]
  | call function arguments =>
    function.lexeme :: .opening ::
      (commaSeparated (arguments.map fun argument => [argument.lexeme]) ++ [.closing])

namespace Atom

def operand : Atom → Operand
  | compare operand _ _ => operand
  | isIn operand _ => operand
  | between operand => operand
  | like operand => operand

def test : Atom → List Lexeme
  | compare _ operator comparand => operator.lexeme :: comparand.lexemes
  | isIn _ others =>
    Keyword.IN.lexeme :: .opening ::
      (commaSeparated (List.replicate (others + 1) [.marker]) ++ [.closing])
  | between _ => [Keyword.BETWEEN.lexeme, .marker, Keyword.AND.lexeme, .marker]
  | like _ => [Keyword.LIKE.lexeme, .marker]

def lexemes (atom : Atom) : List Lexeme := atom.operand.lexemes ++ atom.test

/-- The column of the operand, once for each marker. -/
def columns (atom : Atom) : List String :=
  List.replicate (atom.lexemes.countP Lexeme.isMarker) atom.operand.column

end Atom

namespace Predicate

def lexemes : Predicate → List Lexeme
  | atom leaf => leaf.lexemes
  | not predicate => Keyword.NOT.lexeme :: predicate.lexemes
  | and left right => left.lexemes ++ Keyword.AND.lexeme :: right.lexemes
  | or left right => left.lexemes ++ Keyword.OR.lexeme :: right.lexemes
  | parenthesized predicate => .opening :: (predicate.lexemes ++ [.closing])

def columns : Predicate → List String
  | atom leaf => leaf.columns
  | not predicate => predicate.columns
  | and left right => left.columns ++ right.columns
  | or left right => left.columns ++ right.columns
  | parenthesized predicate => predicate.columns

end Predicate

namespace Head

def assignment (name : Name) : List Lexeme := [name.lexeme, Operator.equals.lexeme, .marker]

def lexemes : Head → List Lexeme
  | select table =>
    [Keyword.SELECT.lexeme, Operator.star.lexeme, Keyword.FROM.lexeme, table.lexeme,
      Keyword.WHERE.lexeme]
  | delete table =>
    [Keyword.DELETE.lexeme, Keyword.FROM.lexeme, table.lexeme, Keyword.WHERE.lexeme]
  | update table assigned =>
    [Keyword.UPDATE.lexeme, table.lexeme, Keyword.SET.lexeme] ++
      (commaSeparated (assigned.map assignment) ++ [Keyword.WHERE.lexeme])

def columns : Head → List String
  | select _ => []
  | delete _ => []
  | update _ assigned => assigned.map Name.column

end Head

/-- The text of a statement, with at least one space between any two tokens. -/
def statementText (gaps : Nat → Nat) (head : Head) (predicate : Predicate) : String :=
  String.ofList (Lexeme.spaced gaps (head.lexemes ++ predicate.lexemes))

end BindStream
