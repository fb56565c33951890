import BindStream.Proofs.Resolver.Run

namespace BindStream

/-! Spans are carried along and decide nothing: to move every span of the tokens is to move every
span of the outcome. -/

variable (f : Span → Span)

def Token.mapSpan (token : Token) : Token := { token with span := f token.span }

def Parameter.mapSpan (parameter : Parameter) : Parameter :=
  { parameter with span := f parameter.span }

def Group.mapSpan (group : Group) : Group := { group with opened := f group.opened }

def ResolveError.mapSpan : ResolveError → ResolveError
  | noExpression => noExpression
  | unterminatedLiteral span => unterminatedLiteral (f span)
  | unresolvedMarker ordinal span => unresolvedMarker ordinal (f span)
  | unbalancedParenthesis span => unbalancedParenthesis (f span)

def mapOutcome {α β : Type} (g : α → β) :
    Except ResolveError α → Except ResolveError β
  | .ok value => .ok (g value)
  | .error failure => .error (failure.mapSpan f)

namespace Resolver

variable {resolver : Resolver} {token : Token} {tokens rest : List Token}
variable {callFollows : Bool}

def mapSpans (resolver : Resolver) : Resolver :=
  { resolver with
    current := resolver.current.mapSpan f
    outer := resolver.outer.map (Group.mapSpan f)
    parameters := resolver.parameters.map (Parameter.mapSpan f) }

theorem columnIn_map_mapSpan (insertColumns : Columns) (groups : List Group) :
    columnIn insertColumns (groups.map (Group.mapSpan f)) =
      columnIn insertColumns groups := by
  induction groups with
  | nil => rfl
  | cons group groups ih =>
      rw [List.map_cons, columnIn, columnIn, ih]
      rfl

@[simp] theorem atRoot_mapSpans : (resolver.mapSpans f).atRoot = resolver.atRoot :=
  List.isEmpty_map

@[simp] theorem column?_mapSpans : (resolver.mapSpans f).column? = resolver.column? :=
  columnIn_map_mapSpan f resolver.insertColumns resolver.groups

theorem mapSpans_mapCurrent (g : Group → Group)
    (indifferent : ∀ group, g (group.mapSpan f) = (g group).mapSpan f) :
    (resolver.mapSpans f).mapCurrent g = (resolver.mapCurrent g).mapSpans f := by
  simp only [mapSpans, mapCurrent, indifferent]

theorem conjunction_mapSpan (group : Group) :
    (group.mapSpan f).conjunction = group.conjunction.mapSpan f := by
  unfold Group.conjunction
  change (if group.betweenPending then _ else _) = _
  split <;> rfl

theorem absorb_mapSpan (group inner : Group) :
    (group.mapSpan f).absorb (inner.mapSpan f) = (group.absorb inner).mapSpan f := by
  obtain ⟨kind, opened, nearest, firstColumn, items, item, between, bounded, tuple⟩ := inner
  unfold Group.absorb
  change (if 0 < item ∧ kind ≠ .call then _ else _) = Group.mapSpan f (if _ then _ else _)
  cases firstColumn <;> split <;> rfl

theorem name_mapSpans :
    (resolver.mapSpans f).name (token.mapSpan f) callFollows =
      (resolver.name token callFollows).mapSpans f := by
  cases callFollows with
  | true => rfl
  | false =>
      have same : (token.mapSpan f).columnName = token.columnName := rfl
      unfold name
      rw [same]
      cases token.columnName <;> rfl

theorem openClause_mapSpans (keyword : Keyword) :
    (resolver.mapSpans f).openClause keyword =
      (resolver.openClause keyword).mapSpans f := by
  unfold openClause
  rw [atRoot_mapSpans]
  cases resolver.atRoot <;> rfl

theorem keyword_mapSpans (keyword : Keyword) :
    (resolver.mapSpans f).keyword keyword = (resolver.keyword keyword).mapSpans f := by
  unfold Resolver.keyword
  split
  · exact mapSpans_mapCurrent f _ (conjunction_mapSpan f)
  · rfl
  · rfl
  · rw [atRoot_mapSpans]
    cases resolver.atRoot <;> rfl
  · split
    · exact openClause_mapSpans f keyword
    · rfl

theorem marker_mapSpans (span : Span) :
    (resolver.mapSpans f).marker (f span) =
      mapOutcome f (mapSpans f) (resolver.marker span) := by
  unfold marker
  rw [column?_mapSpans]
  cases resolver.column? with
  | none => simp [mapSpans, mapOutcome, ResolveError.mapSpan]
  | some column => simp [mapSpans, mapOutcome, Parameter.mapSpan]

theorem openGroup_mapSpans (span : Span) :
    (resolver.mapSpans f).openGroup (f span) = (resolver.openGroup span).mapSpans f := by
  have sameKind : (resolver.mapSpans f).insertKind? = resolver.insertKind? := by
    unfold insertKind?
    rw [atRoot_mapSpans]
    rfl
  unfold openGroup
  rw [sameKind]
  cases resolver.insertKind? with
  | some kind => rfl
  | none =>
      change (if resolver.callPending = true then _ else _) = _
      cases resolver.callPending <;> rfl

theorem closeGroup_mapSpans (span : Span) :
    (resolver.mapSpans f).closeGroup (f span) =
      mapOutcome f (mapSpans f) (resolver.closeGroup span) := by
  obtain ⟨current, outer, insert, callPending, parameters⟩ := resolver
  cases outer with
  | nil => rfl
  | cons parent outer =>
      simp only [closeGroup, mapSpans, mapOutcome, List.map_cons, absorb_mapSpan]
      rfl

theorem endStatement_mapSpans :
    (resolver.mapSpans f).endStatement = resolver.endStatement.mapSpans f := by
  unfold endStatement
  rw [atRoot_mapSpans]
  cases resolver.atRoot <;> rfl

theorem accept_mapSpans :
    (resolver.mapSpans f).accept (token.mapSpan f) callFollows =
      mapOutcome f (mapSpans f) (resolver.accept token callFollows) := by
  obtain ⟨kind, text, span⟩ := token
  cases kind with
  | identifier | quotedIdentifier => exact congrArg Except.ok (name_mapSpans f)
  | keyword keyword => exact congrArg Except.ok (keyword_mapSpans f keyword)
  | operator | quoted | number => rfl
  | marker => exact marker_mapSpans f span
  | leftParen => exact congrArg Except.ok (openGroup_mapSpans f span)
  | rightParen => exact closeGroup_mapSpans f span
  | comma => rfl
  | semicolon => exact congrArg Except.ok (endStatement_mapSpans f)

theorem opensGroup_map_mapSpan (tokens : List Token) :
    opensGroup (tokens.map (Token.mapSpan f)) = opensGroup tokens := by
  cases tokens <;> rfl

theorem runBefore_mapSpans (rest : List Token) (resolver : Resolver) (tokens : List Token) :
    runBefore (rest.map (Token.mapSpan f)) (resolver.mapSpans f)
        (tokens.map (Token.mapSpan f)) =
      mapOutcome f (mapSpans f) (runBefore rest resolver tokens) := by
  induction tokens generalizing resolver with
  | nil => rfl
  | cons token tokens ih =>
      rw [List.map_cons, runBefore_cons, runBefore_cons, ← List.map_append,
        opensGroup_map_mapSpan, accept_mapSpans]
      cases resolver.accept token (opensGroup (tokens ++ rest)) with
      | error failure => rfl
      | ok next => exact ih next

theorem finish_mapSpans :
    (resolver.mapSpans f).finish =
      mapOutcome f (List.map (Parameter.mapSpan f)) resolver.finish := by
  unfold finish
  rw [atRoot_mapSpans]
  cases resolver.atRoot <;> rfl

theorem outcome_map_mapSpan (tokens : List Token) :
    ((initial.mapSpans f).run (tokens.map (Token.mapSpan f)) >>= finish) =
      mapOutcome f (List.map (Parameter.mapSpan f)) (resolveTokens tokens) := by
  have moved := runBefore_mapSpans f [] .initial tokens
  rw [List.map_nil, ← run_eq_runBefore, ← run_eq_runBefore] at moved
  rw [moved, resolveTokens]
  cases initial.run tokens with
  | error failure => rfl
  | ok last => exact finish_mapSpans f

end Resolver

def Token.word (token : Token) : TokenKind × String := (token.kind, token.text)

theorem map_mapSpan_congr_of_words {tokens others : List Token}
    (same : tokens.map Token.word = others.map Token.word) :
    tokens.map (Token.mapSpan fun _ => default) =
      others.map (Token.mapSpan fun _ => default) := by
  have rebuild : (Token.mapSpan fun _ => default) =
      (fun word : TokenKind × String => Token.mk word.1 word.2 default) ∘ Token.word := rfl
  rw [rebuild, ← List.map_map, same, List.map_map]

end BindStream
