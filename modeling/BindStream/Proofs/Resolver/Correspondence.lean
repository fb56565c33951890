import Mathlib.Data.List.Forall2
import Mathlib.Logic.Function.Basic
import BindStream.Proofs.Resolver.Restart
import BindStream.Proofs.Token.Place

namespace BindStream

/-! Token sequences that correspond: the resolver sees of a token its kind, the column it names and
its span, so that corresponding sequences come to the same but for the spans. -/

def Token.Resembles (token other : Token) : Prop :=
  other.kind = token.kind ∧ other.columnName = token.columnName

/-- The tokens of one sequence resemble those of another one by one, and `f` maps their spans. -/
def Corresponds (f : Span → Span) (tokens others : List Token) : Prop :=
  List.Forall₂ (fun token other => token.Resembles other ∧ other.span = f token.span) tokens others

variable {f : Span → Span} {tokens others : List Token}

/-- What the resolver sees of a token besides its place. -/
def Token.aspect (token : Token) : TokenKind × Option String := (token.kind, token.columnName)

theorem resemble_of_aspects (same : others.map Token.aspect = tokens.map Token.aspect) :
    List.Forall₂ Token.Resembles tokens others := by
  have equal : List.Forall₂ (fun aspect other => other = aspect) (tokens.map Token.aspect)
      (others.map Token.aspect) := by
    rw [same]
    exact List.forall₂_same.mpr fun _ _ => rfl
  rw [List.forall₂_map_left_iff, List.forall₂_map_right_iff] at equal
  exact equal.imp fun _ _ same => Prod.mk.inj same

theorem aspects_of_words (same : others.map Token.word = tokens.map Token.word) :
    others.map Token.aspect = tokens.map Token.aspect := by
  have read : Token.aspect =
      (fun word : TokenKind × String => (Token.mk word.1 word.2 default).aspect) ∘ Token.word := rfl
  rw [read, ← List.map_map, same, List.map_map]

theorem resemble_of_words (same : others.map Token.word = tokens.map Token.word) :
    List.Forall₂ Token.Resembles tokens others :=
  resemble_of_aspects (aspects_of_words same)

/-! No outcome depends on where the statement itself opens, so that every span in one is that of a
token. -/

theorem resolvedBehind_nil (outcome : Except ResolveError (List Parameter)) :
    resolvedBehind [] 0 outcome = outcome := by
  cases outcome with
  | ok found => exact congrArg Except.ok (List.map_id found)
  | error failure => cases failure <;> rfl

theorem resolveTokens_mapSpan (f : Span → Span) (tokens : List Token) :
    resolveTokens (tokens.map (Token.mapSpan f)) =
      mapOutcome f (List.map (Parameter.mapSpan f)) (resolveTokens tokens) := by
  have continues : Resolver.Continues [] (Resolver.initial.mapSpans f) .initial :=
    ⟨.root ⟨rfl, rfl, rfl, rfl, rfl⟩, rfl, rfl, rfl⟩
  have outcome := continues.outcome (tokens.map (Token.mapSpan f))
  rw [Resolver.outcome_map_mapSpan, resolvedBehind_nil] at outcome
  exact outcome.symm

theorem ResolveError.span?_mapSpan (failure : ResolveError) :
    (failure.mapSpan f).span? = failure.span?.map f := by
  cases failure <;> rfl

theorem exists_token_of_error {failure : ResolveError} {span : Span}
    (failed : resolveTokens tokens = .error failure) (lies : failure.span? = some span) :
    ∃ token ∈ tokens, token.span = span := by
  by_contra nowhere
  -- A span that no token has can be moved while the tokens stay where they are.
  let moved : Span := ⟨span.start + 1, span.stop⟩
  have stays : tokens.map (Token.mapSpan (Function.update id span moved)) = tokens := by
    refine (List.map_congr_left fun token member => ?_).trans (List.map_id tokens)
    have other : token.span ≠ span := fun same => nowhere ⟨token, member, same⟩
    rw [Token.mapSpan, Function.update_of_ne other]
    rfl
  have outcome := resolveTokens_mapSpan (Function.update id span moved) tokens
  rw [stays, failed] at outcome
  have place := congrArg ResolveError.span? (Except.error.inj outcome)
  rw [ResolveError.span?_mapSpan, lies, Option.map_some, Function.update_self] at place
  have start := congrArg Span.start (Option.some.inj place)
  exact Nat.succ_ne_self span.start start.symm

/-! The kinds and texts of the tokens decide the outcome but for its spans. -/

def unplaced (outcome : Except ResolveError (List Parameter)) :
    Except ResolveError (List Parameter) :=
  mapOutcome (fun _ => default) (List.map (Parameter.mapSpan fun _ => default)) outcome

theorem unplaced_resolveTokens_congr {tokens others : List Token}
    (same : tokens.map Token.word = others.map Token.word) :
    unplaced (resolveTokens tokens) = unplaced (resolveTokens others) := by
  unfold unplaced
  rw [← resolveTokens_mapSpan, ← resolveTokens_mapSpan, map_mapSpan_congr_of_words same]

namespace Resolver

theorem accept_of_resembles {token other : Token} (resembles : token.Resembles other)
    (place : other.span = f token.span) (resolver : Resolver) (callFollows : Bool) :
    resolver.accept other callFollows = resolver.accept (token.mapSpan f) callFollows := by
  have name : resolver.name other callFollows = resolver.name (token.mapSpan f) callFollows := by
    unfold name
    rw [resembles.2]
    rfl
  unfold accept
  rw [resembles.1, place, name]
  rfl

theorem opensGroup_of_corresponds {rest otherRest : List Token}
    (corresponds : Corresponds f tokens others)
    (follows : opensGroup otherRest = opensGroup rest) :
    opensGroup (others ++ otherRest) =
      opensGroup (tokens.map (Token.mapSpan f) ++ rest) := by
  cases corresponds with
  | nil => exact follows
  | cons first later =>
      change (_ == _) = (_ == _)
      rw [first.1.1]
      rfl

theorem runBefore_of_corresponds {rest otherRest : List Token}
    (corresponds : Corresponds f tokens others)
    (follows : opensGroup otherRest = opensGroup rest) (resolver : Resolver) :
    runBefore otherRest resolver others =
      runBefore rest resolver (tokens.map (Token.mapSpan f)) := by
  induction corresponds generalizing resolver with
  | nil => rfl
  | cons first later ih =>
      rw [List.map_cons, runBefore_cons, runBefore_cons, accept_of_resembles first.1 first.2,
        opensGroup_of_corresponds later follows]
      exact congrArg _ (funext ih)

theorem run_of_corresponds (corresponds : Corresponds f tokens others) (resolver : Resolver) :
    resolver.run others = resolver.run (tokens.map (Token.mapSpan f)) := by
  rw [run_eq_runBefore, run_eq_runBefore]
  exact runBefore_of_corresponds corresponds rfl resolver

end Resolver

theorem resolveTokens_of_corresponds (corresponds : Corresponds f tokens others) :
    resolveTokens others =
      mapOutcome f (List.map (Parameter.mapSpan f)) (resolveTokens tokens) := by
  rw [← resolveTokens_mapSpan, resolveTokens, resolveTokens,
    Resolver.run_of_corresponds corresponds]

theorem Corresponds.map_span (corresponds : Corresponds f tokens others) :
    others.map Token.span = tokens.map fun token => f token.span := by
  induction corresponds with
  | nil => rfl
  | cons first rest ih => rw [List.map_cons, List.map_cons, first.2, ih]

theorem Corresponds.congr {g : Span → Span} (corresponds : Corresponds f tokens others)
    (same : ∀ token ∈ tokens, g token.span = f token.span) : Corresponds g tokens others := by
  induction corresponds with
  | nil => exact .nil
  | @cons token other tokens others first rest ih =>
      refine .cons ⟨first.1, first.2.trans (same token List.mem_cons_self).symm⟩ (ih ?_)
      exact fun later member => same later (List.mem_cons_of_mem _ member)

theorem exists_corresponds (resemble : List.Forall₂ Token.Resembles tokens others)
    (apart : tokens.Pairwise fun first second => first.span ≠ second.span) :
    ∃ f, Corresponds f tokens others := by
  induction resemble with
  | nil => exact ⟨id, .nil⟩
  | @cons token other tokens others first rest ih =>
      obtain ⟨apartHere, apartLater⟩ := List.pairwise_cons.mp apart
      obtain ⟨f, corresponds⟩ := ih apartLater
      refine ⟨Function.update f token.span other.span, .cons ⟨first, ?_⟩ ?_⟩
      · exact (Function.update_self token.span other.span f).symm
      · refine corresponds.congr fun later member => ?_
        exact Function.update_of_ne (apartHere later member).symm other.span f

theorem countP_isMarker_of_resemble (resemble : List.Forall₂ Token.Resembles tokens others) :
    others.countP Token.isMarker = tokens.countP Token.isMarker := by
  induction resemble with
  | nil => rfl
  | cons first rest ih =>
      rw [List.countP_cons, List.countP_cons, ih, Token.isMarker, Token.isMarker, first.1]

theorem spans_apart {text : String} (tokenized : tokenize text = .ok tokens) :
    tokens.Pairwise fun first second => first.span ≠ second.span := by
  rw [← (tokenize_eq_ok tokenized).2]
  refine (scan_tokens_pairwise_precedes text).imp fun {first second} precedes same => ?_
  exact absurd precedes.start_lt (same ▸ Nat.lt_irrefl _)

/-- Texts whose tokens resemble each other one by one come to the same, each at the places of its
own tokens. -/
theorem resolve_of_resemble {text other : String} (tokenized : tokenize text = .ok tokens)
    (tokenizedToo : tokenize other = .ok others)
    (resemble : List.Forall₂ Token.Resembles tokens others) :
    countMarkers other = countMarkers text ∧
      ∃ f, others.map Token.span = tokens.map (fun token => f token.span) ∧
        resolve other = mapOutcome f (List.map (Parameter.mapSpan f)) (resolve text) ∧
        ∀ failure span, resolve text = .error failure → failure.span? = some span →
          ∃ token ∈ tokens, token.span = span := by
  have scanned := (tokenize_eq_ok tokenized).2
  have scannedToo := (tokenize_eq_ok tokenizedToo).2
  obtain ⟨f, corresponds⟩ := exists_corresponds resemble (spans_apart tokenized)
  rw [resolve_of_tokenize tokenized, resolve_of_tokenize tokenizedToo]
  refine ⟨?_, f, corresponds.map_span, resolveTokens_of_corresponds corresponds, ?_⟩
  · rw [countMarkers, countMarkers, scanned, scannedToo, countP_isMarker_of_resemble resemble]
  · exact fun failure span failed lies => exists_token_of_error failed lies

end BindStream
