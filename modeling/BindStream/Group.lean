import BindStream.Span

namespace BindStream

/-! Parenthesized groups and the columns seen in them. -/

/-- The column of each comma-separated item, if it names one. -/
abbrev Columns := List (Option String)

inductive GroupKind
  /-- A statement outside all parentheses. -/
  | root
  | nested
  | call
  | columnList
  | valuesTuple
  /-- A tuple compared with one of these columns. -/
  | rowTuple (columns : Columns)
  deriving DecidableEq, Repr

/-- What a group has shown up to here. -/
structure Group where
  kind : GroupKind
  opened : Span
  /-- The last column since the last boundary of a clause. -/
  nearest : Option String
  /-- The first column anywhere in the group. -/
  firstColumn : Option String
  /-- The first column of each item, as far as one has been seen. -/
  items : Columns
  item : Nat
  betweenPending : Bool
  /-- A boundary of a clause lies in the group, so that its markers do not look outside. -/
  bounded : Bool
  /-- The items of the group that has just closed, if it had several. -/
  tuple : Option Columns
  deriving DecidableEq, Repr

/-- Puts a column at index `i` unless one is there; indices before it without any stay empty. -/
def Columns.fill (items : Columns) (i : Nat) (column : String) : Columns :=
  let padded := items ++ List.replicate (i + 1 - items.length) none
  if padded[i]? = some none then padded.set i (some column) else padded

namespace Group

def start (kind : GroupKind) (opened : Span) : Group where
  kind := kind
  opened := opened
  nearest := none
  firstColumn := none
  items := []
  item := 0
  betweenPending := false
  bounded := false
  tuple := none

def clearWindow (group : Group) : Group :=
  { group with nearest := none, betweenPending := false, tuple := none }

def boundary (group : Group) : Group := { group.clearWindow with bounded := true }

def push (group : Group) (column : String) : Group :=
  { group with
    nearest := some column
    firstColumn := group.firstColumn.or (some column)
    items := group.items.fill group.item column
    tuple := none }

def nextItem (group : Group) : Group := { group.clearWindow with item := group.item + 1 }

/-- An `AND` ends a pending `BETWEEN`, and else a condition. -/
def conjunction (group : Group) : Group :=
  if group.betweenPending then { group with betweenPending := false } else group.boundary

/-- The columns of all items up to the current one. -/
def columns (group : Group) : Columns :=
  group.items ++ List.replicate (group.item + 1 - group.items.length) none

/-- The columns that the group's items bind to by position, given those of the `INSERT`. -/
def positional (insertColumns : Columns) (group : Group) : Option Columns :=
  if group.bounded then none
  else
    match group.kind with
    | .valuesTuple => some insertColumns
    | .rowTuple columns => some columns
    | _ => none

/-- What a group is after the group `inner` in it has closed: the inner group stands for its
first column, and its items, if several and not arguments, may be compared with a tuple. -/
def absorb (group inner : Group) : Group :=
  let cleared := { group with nearest := none }
  let named :=
    match inner.firstColumn with
    | some column => cleared.push column
    | none => cleared
  if 0 < inner.item ∧ inner.kind ≠ .call then { named with tuple := some inner.columns }
  else named

end Group

end BindStream
