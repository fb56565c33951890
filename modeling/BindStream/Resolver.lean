import BindStream.Group
import BindStream.Parameter

namespace BindStream

/-! Binding each marker of a statement to a column.

A marker binds to the nearest column before it in its group, and looks outside the group only if
no boundary of a clause lies between. In a row of `VALUES` and in a tuple compared with another,
markers bind by position. -/

/-- What an `INSERT` has shown up to here. -/
structure InsertHead where
  columns : Option Columns
  clause : Option Keyword
  deriving DecidableEq, Repr

structure Resolver where
  current : Group
  /-- The groups around the current one, innermost first; the statement itself is last. -/
  outer : List Group
  insert : Option InsertHead
  /-- The token before this one named a function. -/
  callPending : Bool
  parameters : List Parameter
  deriving DecidableEq, Repr

/-- The column of a marker in the innermost of some groups. -/
def columnIn (insertColumns : Columns) : List Group → Option String
  | [] => none
  | group :: outer =>
    match group.positional insertColumns with
    | some columns => columns[group.item]?.join
    | none =>
      match group.nearest with
      | some column => some column
      | none => if group.bounded then none else columnIn insertColumns outer

namespace Resolver

def initial : Resolver where
  current := .start .root default
  outer := []
  insert := none
  callPending := false
  parameters := []

def atRoot (resolver : Resolver) : Bool := resolver.outer.isEmpty

def groups (resolver : Resolver) : List Group := resolver.current :: resolver.outer

def mapCurrent (f : Group → Group) (resolver : Resolver) : Resolver :=
  { resolver with current := f resolver.current }

def insertColumns (resolver : Resolver) : Columns :=
  (resolver.insert.bind InsertHead.columns).getD []

def column? (resolver : Resolver) : Option String :=
  columnIn resolver.insertColumns resolver.groups

def name (resolver : Resolver) (token : Token) (callFollows : Bool) : Resolver :=
  if callFollows then { resolver with callPending := true }
  else
    match token.columnName with
    | some column => resolver.mapCurrent (·.push column)
    | none => resolver

def openClause (resolver : Resolver) (keyword : Keyword) : Resolver :=
  let bounded := resolver.mapCurrent Group.boundary
  if resolver.atRoot then
    { bounded with insert := resolver.insert.map ({ · with clause := some keyword }) }
  else bounded

def beginInsert (resolver : Resolver) : Resolver :=
  { resolver with insert := resolver.insert.or (some ⟨none, none⟩) }

def keyword (resolver : Resolver) (keyword : Keyword) : Resolver :=
  match keyword with
  | .AND => resolver.mapCurrent Group.conjunction
  | .OR => resolver.mapCurrent Group.boundary
  | .BETWEEN => resolver.mapCurrent ({ · with betweenPending := true })
  | .INSERT => if resolver.atRoot then resolver.beginInsert else resolver
  | keyword => if keyword.opensClause then resolver.openClause keyword else resolver

def marker (resolver : Resolver) (span : Span) : Except ResolveError Resolver :=
  let ordinal := resolver.parameters.length
  match resolver.column? with
  | some column =>
    .ok { resolver with parameters := resolver.parameters ++ [⟨ordinal, column, span⟩] }
  | none => .error (.unresolvedMarker ordinal span)

/-- The kind of a group that opens at the top of an `INSERT`, where it differs from others. -/
def insertKind? (resolver : Resolver) : Option GroupKind :=
  if resolver.atRoot then
    match resolver.insert with
    | some ⟨_, some .VALUES⟩ => some .valuesTuple
    | some ⟨none, none⟩ => some .columnList
    | _ => none
  else none

/-- The kind of a group by the group around it: the rows of a tuple's list bind as the tuple
does. -/
def innerKind (group : Group) : GroupKind :=
  match group.kind, group.tuple with
  | .rowTuple columns, _ => .rowTuple columns
  | _, some columns => .rowTuple columns
  | _, none => .nested

def enter (resolver : Resolver) (parent : Group) (kind : GroupKind) (span : Span) : Resolver :=
  { resolver with
    current := .start kind span
    outer := parent :: resolver.outer
    callPending := false }

def openGroup (resolver : Resolver) (span : Span) : Resolver :=
  match resolver.insertKind? with
  | some kind => resolver.enter resolver.current kind span
  | none =>
    if resolver.callPending then resolver.enter resolver.current .call span
    else
      resolver.enter { resolver.current with tuple := none } (innerKind resolver.current) span

def closeGroup (resolver : Resolver) (span : Span) : Except ResolveError Resolver :=
  match resolver.outer with
  | [] => .error (.unbalancedParenthesis span)
  | parent :: outer =>
    let closed := resolver.current
    .ok { resolver with
      current := parent.absorb closed
      outer := outer
      insert :=
        if closed.kind = .columnList then
          resolver.insert.map ({ · with columns := some closed.columns })
        else resolver.insert }

def endStatement (resolver : Resolver) : Resolver :=
  let ended := resolver.mapCurrent Group.boundary
  if resolver.atRoot then { ended with insert := none } else ended

/-- The state after a token; `callFollows` says that the next token opens a group. -/
def accept (resolver : Resolver) (token : Token) (callFollows : Bool) :
    Except ResolveError Resolver :=
  match token.kind with
  | .identifier => .ok (resolver.name token callFollows)
  | .quotedIdentifier => .ok (resolver.name token callFollows)
  | .keyword k => .ok (resolver.keyword k)
  | .marker => resolver.marker token.span
  | .leftParen => .ok (resolver.openGroup token.span)
  | .rightParen => resolver.closeGroup token.span
  | .comma => .ok (resolver.mapCurrent Group.nextItem)
  | .semicolon => .ok resolver.endStatement
  | .operator => .ok resolver
  | .quoted => .ok resolver
  | .number => .ok resolver

def opensGroup (tokens : List Token) : Bool :=
  tokens.head?.any (·.kind == .leftParen)

def run (resolver : Resolver) : List Token → Except ResolveError Resolver
  | [] => .ok resolver
  | token :: tokens => do
    let next ← resolver.accept token (opensGroup tokens)
    next.run tokens

def finish (resolver : Resolver) : Except ResolveError (List Parameter) :=
  if resolver.atRoot then .ok resolver.parameters
  else .error (.unbalancedParenthesis resolver.current.opened)

end Resolver

def resolveTokens (tokens : List Token) : Except ResolveError (List Parameter) :=
  Resolver.initial.run tokens >>= Resolver.finish

/-- The parameters of a statement text, in the order of its markers. -/
def resolve (text : String) : Except ResolveError (List Parameter) :=
  match tokenize text with
  | .error failure => .error (.unterminatedLiteral failure.span)
  | .ok tokens => resolveTokens tokens

end BindStream
