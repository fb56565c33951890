import BindStream.Resolver

namespace BindStream

/-! Runs of the resolver over parts of a statement. -/

namespace Resolver

variable {resolver next : Resolver} {token : Token} {tokens rest : List Token}
variable {callFollows : Bool}

/-- The state after some tokens that `rest` follows. -/
def runBefore (rest : List Token) (resolver : Resolver) :
    List Token → Except ResolveError Resolver
  | [] => .ok resolver
  | token :: tokens => do
    let next ← resolver.accept token (opensGroup (tokens ++ rest))
    runBefore rest next tokens

theorem runBefore_cons :
    runBefore rest resolver (token :: tokens) =
      resolver.accept token (opensGroup (tokens ++ rest)) >>= fun next =>
        runBefore rest next tokens := rfl

theorem runBefore_cons_of_ok
    (accepted : resolver.accept token (opensGroup (tokens ++ rest)) = .ok next) :
    runBefore rest resolver (token :: tokens) = runBefore rest next tokens := by
  rw [runBefore_cons, accepted]
  rfl

theorem runBefore_cons_of_error {failure : ResolveError}
    (refused : resolver.accept token (opensGroup (tokens ++ rest)) = .error failure) :
    runBefore rest resolver (token :: tokens) = .error failure := by
  rw [runBefore_cons, refused]
  rfl

theorem opensGroup_of_kind {kind : TokenKind} (same : token.kind = kind)
    (other : (kind == .leftParen) = false) : opensGroup (token :: rest) = false := by
  rw [← other, ← same]
  rfl

theorem opensGroup_append (ends : opensGroup rest = false) :
    opensGroup (tokens ++ rest) = opensGroup tokens := by
  cases tokens with
  | nil => exact ends
  | cons => rfl

theorem opensGroup_append_congr {others : List Token} (same : opensGroup rest = opensGroup others) :
    opensGroup (tokens ++ rest) = opensGroup (tokens ++ others) := by
  cases tokens with
  | nil => exact same
  | cons => rfl

theorem runBefore_congr {others : List Token} (same : opensGroup rest = opensGroup others) :
    runBefore rest resolver tokens = runBefore others resolver tokens := by
  induction tokens generalizing resolver with
  | nil => rfl
  | cons token tokens ih =>
      rw [runBefore_cons, runBefore_cons, opensGroup_append_congr same]
      exact congrArg _ (funext fun next => ih)

theorem runBefore_append (first second : List Token) :
    runBefore rest resolver (first ++ second) =
      runBefore (second ++ rest) resolver first >>= fun next =>
        runBefore rest next second := by
  induction first generalizing resolver with
  | nil => rfl
  | cons token first ih =>
      rw [List.cons_append, runBefore_cons, runBefore_cons, bind_assoc,
        List.append_assoc]
      exact congrArg _ (funext fun next => ih)

theorem exists_of_runBefore_cons (ran : runBefore rest resolver (token :: tokens) = .ok next) :
    ∃ middle, resolver.accept token (opensGroup (tokens ++ rest)) = .ok middle ∧
      runBefore rest middle tokens = .ok next := by
  cases accepted : resolver.accept token (opensGroup (tokens ++ rest)) with
  | error failure => cases (runBefore_cons_of_error accepted).symm.trans ran
  | ok middle => exact ⟨middle, rfl, (runBefore_cons_of_ok accepted).symm.trans ran⟩

theorem exists_of_runBefore_append {first second : List Token}
    (ran : runBefore rest resolver (first ++ second) = .ok next) :
    ∃ middle, runBefore (second ++ rest) resolver first = .ok middle ∧
      runBefore rest middle second = .ok next := by
  rw [runBefore_append] at ran
  cases reached : runBefore (second ++ rest) resolver first with
  | error failure =>
      rw [reached] at ran
      cases ran
  | ok middle =>
      rw [reached] at ran
      exact ⟨middle, rfl, ran⟩

theorem exists_of_runBefore_concat
    (ran : runBefore rest resolver (tokens ++ [token]) = .ok next) :
    ∃ middle, runBefore (token :: rest) resolver tokens = .ok middle ∧
      middle.accept token (opensGroup rest) = .ok next := by
  obtain ⟨middle, reached, last⟩ := exists_of_runBefore_append ran
  obtain ⟨final, accepted, ended⟩ := exists_of_runBefore_cons last
  cases ended
  exact ⟨middle, reached, accepted⟩

theorem run_eq_runBefore : resolver.run tokens = runBefore [] resolver tokens := by
  induction tokens generalizing resolver with
  | nil => rfl
  | cons token tokens ih =>
      rw [runBefore_cons, List.append_nil]
      exact congrArg _ (funext fun next => ih)

theorem run_append (first second : List Token) :
    resolver.run (first ++ second) =
      runBefore second resolver first >>= fun next => next.run second := by
  rw [run_eq_runBefore, runBefore_append, List.append_nil]
  exact congrArg _ (funext fun next => run_eq_runBefore.symm)

theorem run_cons_of_ok (accepted : resolver.accept token (opensGroup tokens) = .ok next) :
    resolver.run (token :: tokens) = next.run tokens := by
  change resolver.accept token (opensGroup tokens) >>= (fun next => next.run tokens) = _
  rw [accepted]
  rfl

theorem run_cons_of_error {failure : ResolveError}
    (refused : resolver.accept token (opensGroup tokens) = .error failure) :
    resolver.run (token :: tokens) = .error failure := by
  change resolver.accept token (opensGroup tokens) >>= (fun next => next.run tokens) = _
  rw [refused]
  rfl

/-! Only markers make parameters. -/

@[simp] theorem parameters_mapCurrent (f : Group → Group) :
    (resolver.mapCurrent f).parameters = resolver.parameters := rfl

@[simp] theorem parameters_name :
    (resolver.name token callFollows).parameters = resolver.parameters := by
  unfold name
  split
  · rfl
  · split <;> rfl

@[simp] theorem parameters_keyword (keyword : Keyword) :
    (resolver.keyword keyword).parameters = resolver.parameters := by
  unfold Resolver.keyword openClause
  repeat' split
  all_goals rfl

@[simp] theorem parameters_openGroup (span : Span) :
    (resolver.openGroup span).parameters = resolver.parameters := by
  unfold openGroup
  repeat' split
  all_goals rfl

theorem parameters_closeGroup {span : Span} (closed : resolver.closeGroup span = .ok next) :
    next.parameters = resolver.parameters := by
  unfold closeGroup at closed
  split at closed
  · cases closed
  · cases closed
    rfl

@[simp] theorem parameters_endStatement :
    resolver.endStatement.parameters = resolver.parameters := by
  unfold endStatement
  split <;> rfl

theorem accept_of_isMarker (marked : token.isMarker = true) :
    resolver.accept token callFollows = resolver.marker token.span := by
  have kind : token.kind = .marker := eq_of_beq marked
  simp only [accept, kind]

theorem parameters_accept (unmarked : token.isMarker = false)
    (accepted : resolver.accept token callFollows = .ok next) :
    next.parameters = resolver.parameters := by
  unfold accept at accepted
  split at accepted
  case h_4 kind => simp [Token.isMarker, kind] at unmarked
  case h_6 => exact parameters_closeGroup accepted
  all_goals
    cases accepted
    simp

theorem marker_eq_ok {span : Span} (bound : resolver.marker span = .ok next) :
    ∃ column, resolver.column? = some column ∧
      next = { resolver with
        parameters := resolver.parameters ++
          [⟨resolver.parameters.length, column, span⟩] } := by
  unfold marker at bound
  split at bound
  · next column found =>
      cases bound
      exact ⟨column, found, rfl⟩
  · cases bound

theorem marker_eq_error {span : Span} {failure : ResolveError}
    (unbound : resolver.marker span = .error failure) :
    resolver.column? = none ∧
      failure = .unresolvedMarker resolver.parameters.length span := by
  unfold marker at unbound
  split at unbound
  · cases unbound
  · next missing =>
      cases unbound
      exact ⟨missing, rfl⟩

theorem accept_eq_error {failure : ResolveError} (unmarked : token.isMarker = false)
    (refused : resolver.accept token callFollows = .error failure) :
    token.kind = .rightParen ∧ resolver.outer = [] ∧
      failure = .unbalancedParenthesis token.span := by
  unfold accept at refused
  split at refused
  case h_4 kind => simp [Token.isMarker, kind] at unmarked
  case h_6 kind =>
      unfold closeGroup at refused
      split at refused
      · next outermost =>
          cases refused
          exact ⟨kind, outermost, rfl⟩
      · cases refused
  all_goals cases refused

end Resolver

theorem resolveTokens_eq_ok {tokens : List Token} {found : List Parameter}
    (resolved : resolveTokens tokens = .ok found) :
    ∃ last, Resolver.initial.run tokens = .ok last ∧ last.atRoot = true ∧
      last.parameters = found := by
  unfold resolveTokens at resolved
  cases ran : Resolver.initial.run tokens with
  | error failure =>
      rw [ran] at resolved
      cases resolved
  | ok last =>
      rw [ran] at resolved
      change last.finish = .ok found at resolved
      unfold Resolver.finish at resolved
      split at resolved
      · next root =>
          cases resolved
          exact ⟨last, rfl, root, rfl⟩
      · cases resolved

theorem resolveTokens_eq_unresolved {tokens : List Token} {ordinal : Nat} {span : Span}
    (failed : resolveTokens tokens = .error (.unresolvedMarker ordinal span)) :
    Resolver.initial.run tokens = .error (.unresolvedMarker ordinal span) := by
  unfold resolveTokens at failed
  cases ran : Resolver.initial.run tokens with
  | error failure =>
      rw [ran] at failed
      cases failed
      rfl
  | ok last =>
      rw [ran] at failed
      change last.finish = _ at failed
      unfold Resolver.finish at failed
      split at failed <;> cases failed

theorem tokenize_eq_ok {text : String} {tokens : List Token}
    (tokenized : tokenize text = .ok tokens) :
    (scan text).failure = none ∧ (scan text).tokens = tokens := by
  unfold tokenize at tokenized
  split at tokenized
  · cases tokenized
  · next complete =>
      cases tokenized
      exact ⟨complete, rfl⟩

theorem resolve_of_tokenize {text : String} {tokens : List Token}
    (tokenized : tokenize text = .ok tokens) :
    resolve text = resolveTokens tokens := by
  rw [resolve, tokenized]

theorem tokenize_of_resolve {text : String}
    {outcome : Except ResolveError (List Parameter)}
    (resolved : resolve text = outcome)
    (terminated : ∀ span, outcome ≠ .error (.unterminatedLiteral span)) :
    tokenize text = .ok (scan text).tokens := by
  unfold resolve at resolved
  split at resolved
  · next failure _ => exact absurd resolved.symm (terminated failure.span)
  · next tokens tokenized => rw [tokenized, (tokenize_eq_ok tokenized).2]

theorem resolve_eq_resolveTokens {text : String}
    {outcome : Except ResolveError (List Parameter)}
    (resolved : resolve text = outcome)
    (terminated : ∀ span, outcome ≠ .error (.unterminatedLiteral span)) :
    resolveTokens (scan text).tokens = outcome := by
  rw [← resolve_of_tokenize (tokenize_of_resolve resolved terminated)]
  exact resolved

end BindStream
