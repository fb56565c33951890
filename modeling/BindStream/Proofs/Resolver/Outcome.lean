import Mathlib
import BindStream.Proofs.Group
import BindStream.Proofs.Resolver.Run
import BindStream.Proofs.Token.Parentheses
import BindStream.Proofs.Token.Tiling

namespace BindStream

/-! Which error a text is refused with. The groups of the resolver are the open parentheses, so
that the first token that cannot be accepted decides, or else the last parenthesis that stays
open. -/

namespace Resolver

/-- The state after a token, which is passed over if it is refused. -/
def pass (resolver : Resolver) (token : Token) (callFollows : Bool) : Resolver :=
  match resolver.accept token callFollows with
  | .ok next => next
  | .error _ => resolver

/-- The state behind some tokens that `rest` follows, where a token that is refused is passed
over. -/
def skimBefore (rest : List Token) (resolver : Resolver) : List Token → Resolver
  | [] => resolver
  | token :: tokens =>
    skimBefore rest (resolver.pass token (opensGroup (tokens ++ rest))) tokens

/-- The state behind some tokens that nothing follows. -/
def skim (resolver : Resolver) (tokens : List Token) : Resolver := skimBefore [] resolver tokens

end Resolver

/-- The column that a marker behind some tokens binds to. -/
def columnAfter (before : List Token) : Option String := (Resolver.initial.skim before).column?

/-- The error with which a token is refused behind some others. -/
inductive Offence (before : List Token) (token : Token) : ResolveError → Prop
  | surplus (kind : token.kind = .rightParen) (none : openParens before = []) :
      Offence before token (.unbalancedParenthesis token.span)
  | unresolved (marked : token.isMarker = true) (unseen : columnAfter before = none) :
      Offence before token (.unresolvedMarker (before.countP Token.isMarker) token.span)

/-- No token offends. -/
def Clean : List Token → Prop :=
  Throughout fun before token => ∀ failure, ¬Offence before token failure

/-- Each marker sees a column. -/
def Sighted : List Token → Prop :=
  Throughout fun before token => token.isMarker = true → columnAfter before ≠ none

/-- The error with which some tokens are refused. -/
inductive Fails (tokens : List Token) : ResolveError → Prop
  | offence {before after : List Token} {token : Token} {failure : ResolveError}
      (split : tokens = before ++ token :: after) (clean : Clean before)
      (offends : Offence before token failure) : Fails tokens failure
  | unclosed {opening : Token} {outer : List Token} (clean : Clean tokens)
      (unclosed : openParens tokens = opening :: outer) :
      Fails tokens (.unbalancedParenthesis opening.span)

namespace Resolver

variable {resolver next last : Resolver} {token : Token} {tokens before after rest : List Token}
variable {callFollows : Bool} {failure : ResolveError}

theorem pass_of_ok (accepted : resolver.accept token callFollows = .ok next) :
    resolver.pass token callFollows = next := by
  rw [pass, accepted]

theorem skimBefore_of_runBefore (ran : runBefore rest resolver tokens = .ok last) :
    skimBefore rest resolver tokens = last := by
  induction tokens generalizing resolver with
  | nil => exact Except.ok.inj ran
  | cons token tokens ih =>
      cases accepted : resolver.accept token (opensGroup (tokens ++ rest)) with
      | error failure =>
          rw [runBefore_cons_of_error accepted] at ran
          cases ran
      | ok next =>
          rw [runBefore_cons_of_ok accepted] at ran
          rw [skimBefore, pass_of_ok accepted]
          exact ih ran

/-! The spans at which the groups open, under each operation. -/

def opened (resolver : Resolver) : List Span := resolver.groups.map Group.opened

theorem opened_mapCurrent {f : Group → Group} (keeps : ∀ group, (f group).opened = group.opened) :
    (resolver.mapCurrent f).opened = resolver.opened :=
  congrArg (· :: _) (keeps resolver.current)

theorem opened_name : (resolver.name token callFollows).opened = resolver.opened := by
  unfold name
  split
  · rfl
  · split
    · exact opened_mapCurrent fun _ => rfl
    · rfl

theorem opened_keyword (keyword : Keyword) :
    (resolver.keyword keyword).opened = resolver.opened := by
  unfold Resolver.keyword
  split
  · refine opened_mapCurrent fun group => ?_
    unfold Group.conjunction
    split <;> rfl
  · rfl
  · rfl
  · split <;> rfl
  · unfold openClause
    split
    · split <;> rfl
    · rfl

theorem opened_openGroup (span : Span) :
    (resolver.openGroup span).opened = span :: resolver.opened := by
  unfold openGroup
  split
  · rfl
  · split <;> rfl

theorem opened_closeGroup {span : Span} (closed : resolver.closeGroup span = .ok next) :
    next.opened = resolver.opened.tail := by
  unfold closeGroup at closed
  split at closed
  · cases closed
  · next parent outer surrounded =>
      cases closed
      rw [opened, opened, groups, groups, surrounded, Group.absorb_eq]
      rfl

theorem opened_endStatement : resolver.endStatement.opened = resolver.opened := by
  unfold endStatement
  split <;> rfl

/-- What a resolver has kept of the tokens before: a group for each parenthesis that is open, and
a parameter for each marker. -/
structure Tracks (before : List Token) (resolver : Resolver) : Prop where
  opened : resolver.opened = (openParens before).map Token.span ++ [default]
  counted : resolver.parameters.length = before.countP Token.isMarker

namespace Tracks

theorem initial : Tracks [] Resolver.initial := ⟨rfl, rfl⟩

theorem outer_eq_nil_iff (tracks : Tracks before resolver) :
    resolver.outer = [] ↔ openParens before = [] := by
  have lengths := congrArg List.length tracks.opened
  rw [Resolver.opened, groups, List.length_map, List.length_cons, List.length_append,
    List.length_map, List.length_singleton, Nat.add_right_cancel_iff] at lengths
  rw [← List.length_eq_zero_iff, lengths, List.length_eq_zero_iff]

theorem opened_accept (tracks : Tracks before resolver)
    (accepted : resolver.accept token callFollows = .ok next) :
    next.opened = (openParens (before ++ [token])).map Token.span ++ [default] := by
  rw [openParens_concat]
  obtain ⟨kind, text, span⟩ := token
  cases kind with
  | identifier | quotedIdentifier =>
      cases accepted
      exact opened_name.trans tracks.opened
  | keyword keyword =>
      cases accepted
      exact (opened_keyword keyword).trans tracks.opened
  | operator | quoted | number =>
      cases accepted
      exact tracks.opened
  | marker =>
      obtain ⟨column, -, rfl⟩ := marker_eq_ok accepted
      exact tracks.opened
  | leftParen =>
      cases accepted
      rw [opened_openGroup, tracks.opened]
      rfl
  | rightParen =>
      have closed : resolver.closeGroup span = .ok next := accepted
      cases nested : openParens before with
      | nil =>
          rw [closeGroup, tracks.outer_eq_nil_iff.mpr nested] at closed
          cases closed
      | cons opening outer =>
          rw [opened_closeGroup closed, tracks.opened, nested]
          rfl
  | comma =>
      cases accepted
      exact (opened_mapCurrent fun _ => rfl).trans tracks.opened
  | semicolon =>
      cases accepted
      exact opened_endStatement.trans tracks.opened

theorem accept (tracks : Tracks before resolver)
    (accepted : resolver.accept token callFollows = .ok next) :
    Tracks (before ++ [token]) next := by
  refine ⟨tracks.opened_accept accepted, ?_⟩
  rw [List.countP_append, ← tracks.counted]
  cases marked : token.isMarker with
  | true =>
      rw [accept_of_isMarker marked] at accepted
      obtain ⟨column, -, rfl⟩ := marker_eq_ok accepted
      rw [List.length_append, List.countP_singleton, marked]
      rfl
  | false =>
      rw [parameters_accept marked accepted, List.countP_singleton, marked]
      rfl

end Tracks

theorem columnAfter_of_runBefore (marked : token.isMarker = true)
    (ran : runBefore (token :: rest) initial before = .ok resolver) :
    columnAfter before = resolver.column? := by
  -- A marker opens no group, so that a name right before it calls nothing.
  have ends : opensGroup (token :: rest) = opensGroup [] :=
    opensGroup_of_kind (eq_of_beq marked) rfl
  rw [runBefore_congr ends] at ran
  rw [columnAfter, skim, skimBefore_of_runBefore ran]

/-- Where the tokens before have been accepted, a token is refused exactly if it offends. -/
theorem accept_eq_error_iff (ran : runBefore (token :: rest) initial before = .ok resolver)
    (tracks : Tracks before resolver) :
    resolver.accept token callFollows = .error failure ↔ Offence before token failure := by
  constructor
  · intro refused
    cases marked : token.isMarker with
    | true =>
        rw [accept_of_isMarker marked] at refused
        obtain ⟨unseen, rfl⟩ := marker_eq_error refused
        rw [tracks.counted]
        exact .unresolved marked ((columnAfter_of_runBefore marked ran).trans unseen)
    | false =>
        obtain ⟨kind, outermost, rfl⟩ := accept_eq_error marked refused
        exact .surplus kind (tracks.outer_eq_nil_iff.mp outermost)
  · rintro (⟨kind, none⟩ | ⟨marked, unseen⟩)
    · rw [Resolver.accept, kind]
      dsimp only
      rw [closeGroup, tracks.outer_eq_nil_iff.mpr none]
    · rw [accept_of_isMarker marked, marker, ← columnAfter_of_runBefore marked ran, unseen,
        tracks.counted]

theorem runBefore_of_clean (rest : List Token) (clean : Clean before) :
    ∃ resolver, runBefore rest initial before = .ok resolver ∧ Tracks before resolver := by
  -- From the end, since a token offends or not by the tokens before it.
  induction before using List.reverseRecOn generalizing rest with
  | nil => exact ⟨initial, rfl, .initial⟩
  | append_singleton before token ih =>
      obtain ⟨cleanBefore, inoffensive⟩ := throughout_concat.mp clean
      obtain ⟨resolver, ran, tracks⟩ := ih (token :: rest) cleanBefore
      cases accepted : resolver.accept token (opensGroup rest) with
      | error failure =>
          exact absurd ((accept_eq_error_iff ran tracks).mp accepted) (inoffensive failure)
      | ok next =>
          refine ⟨next, ?_, tracks.accept accepted⟩
          rw [runBefore_append, List.singleton_append, ran]
          exact runBefore_cons_of_ok accepted

end Resolver

section

variable {tokens before after : List Token} {token : Token} {failure : ResolveError}

theorem resolveTokens_of_offence (clean : Clean before) (offends : Offence before token failure) :
    resolveTokens (before ++ token :: after) = .error failure := by
  obtain ⟨resolver, ran, tracks⟩ := Resolver.runBefore_of_clean (token :: after) clean
  have refused : resolver.accept token (Resolver.opensGroup after) = .error failure :=
    (Resolver.accept_eq_error_iff ran tracks).mpr offends
  have stopped : Resolver.initial.run (before ++ token :: after) = .error failure := by
    rw [Resolver.run_append, ran]
    exact Resolver.run_cons_of_error refused
  rw [resolveTokens, stopped]
  rfl

/-- Without an offence, the parentheses that are open at the end decide. -/
theorem resolveTokens_of_clean (clean : Clean tokens) :
    (openParens tokens = [] ∧ ∃ found, resolveTokens tokens = .ok found) ∨
      ∃ opening outer, openParens tokens = opening :: outer ∧
        resolveTokens tokens = .error (.unbalancedParenthesis opening.span) := by
  obtain ⟨last, ran, tracks⟩ := Resolver.runBefore_of_clean [] clean
  rw [← Resolver.run_eq_runBefore] at ran
  have finished : resolveTokens tokens = last.finish := by
    rw [resolveTokens, ran]
    rfl
  cases nested : openParens tokens with
  | nil =>
      have root := tracks.outer_eq_nil_iff.mpr nested
      refine .inl ⟨rfl, last.parameters, finished.trans ?_⟩
      rw [Resolver.finish, Resolver.atRoot, root]
      rfl
  | cons opening outer =>
      have inside : last.outer ≠ [] := fun root =>
        List.cons_ne_nil opening outer (nested.symm.trans (tracks.outer_eq_nil_iff.mp root))
      have place : last.current.opened = opening.span := by
        have spans := tracks.opened
        rw [nested] at spans
        exact (List.cons.inj spans).1
      refine .inr ⟨opening, outer, rfl, finished.trans ?_⟩
      rw [Resolver.finish, Resolver.atRoot, List.isEmpty_eq_false_iff.mpr inside, place]
      rfl

theorem clean_or_offence (tokens : List Token) :
    Clean tokens ∨ ∃ before token after failure,
      tokens = before ++ token :: after ∧ Clean before ∧ Offence before token failure := by
  refine (throughout_or_exists _ tokens).imp_right ?_
  rintro ⟨before, token, after, split, clean, offends⟩
  obtain ⟨failure, offends⟩ := not_forall_not.mp offends
  exact ⟨before, token, after, failure, split, clean, offends⟩

theorem resolveTokens_eq_error_iff :
    resolveTokens tokens = .error failure ↔ Fails tokens failure := by
  constructor
  · intro refused
    rcases clean_or_offence tokens with clean | ⟨before, token, after, first, rfl, clean, offends⟩
    · rcases resolveTokens_of_clean clean with ⟨-, found, resolved⟩ | ⟨_, _, unclosed, stopped⟩
      · rw [resolved] at refused
        cases refused
      · rw [stopped] at refused
        cases refused
        exact .unclosed clean unclosed
    · have same := (resolveTokens_of_offence clean offends).symm.trans refused
      cases same
      exact .offence rfl clean offends
  · rintro (⟨rfl, clean, offends⟩ | ⟨clean, unclosed⟩)
    · exact resolveTokens_of_offence clean offends
    · rcases resolveTokens_of_clean clean with ⟨closed, -⟩ | ⟨_, _, same, stopped⟩
      · rw [closed] at unclosed
        cases unclosed
      · cases unclosed.symm.trans same
        exact stopped

theorem resolveTokens_eq_ok_iff :
    (∃ found, resolveTokens tokens = .ok found) ↔ Clean tokens ∧ openParens tokens = [] := by
  constructor
  · rintro ⟨found, resolved⟩
    have unfailing (failure : ResolveError) : ¬Fails tokens failure := fun fails => by
      rw [resolveTokens_eq_error_iff.mpr fails] at resolved
      cases resolved
    rcases clean_or_offence tokens with clean | ⟨before, token, after, first, rfl, clean, offends⟩
    · rcases resolveTokens_of_clean clean with ⟨closed, -⟩ | ⟨_, _, unclosed, -⟩
      · exact ⟨clean, closed⟩
      · exact absurd (.unclosed clean unclosed) (unfailing _)
    · exact absurd (.offence rfl clean offends) (unfailing first)
  · rintro ⟨clean, closed⟩
    rcases resolveTokens_of_clean clean with ⟨-, resolved⟩ | ⟨_, _, unclosed, -⟩
    · exact resolved
    · rw [closed] at unclosed
      cases unclosed

theorem clean_iff : Clean tokens ↔ NoSurplus tokens ∧ Sighted tokens := by
  constructor
  · refine fun clean => ⟨fun before token begins kind none => ?_,
      fun before token begins marked unseen => ?_⟩
    · exact clean before token begins _ (.surplus kind none)
    · exact clean before token begins _ (.unresolved marked unseen)
  · rintro ⟨closes, sighted⟩ before token begins _ (⟨kind, none⟩ | ⟨marked, unseen⟩)
    · exact closes before token begins kind none
    · exact sighted before token begins marked unseen

/-- A text resolves if its parentheses match and each marker sees a column. -/
theorem resolveTokens_iff_sighted :
    (∃ found, resolveTokens tokens = .ok found) ↔ Balanced tokens ∧ Sighted tokens := by
  rw [resolveTokens_eq_ok_iff, clean_iff, balanced_iff, and_right_comm]

theorem throughout_of_unmarked {sees : List Token → Prop}
    (unmarked : ∀ token ∈ tokens, token.isMarker = false) :
    Throughout (fun before token => token.isMarker = true → sees before) tokens := by
  intro before token begins marked
  have member : token ∈ tokens :=
    begins.subset (List.mem_append_right before (List.mem_singleton_self token))
  rw [unmarked token member] at marked
  cases marked

theorem resolveTokens_of_unmarked (unmarked : ∀ token ∈ tokens, token.isMarker = false) :
    (∃ found, resolveTokens tokens = .ok found) ↔ Balanced tokens := by
  rw [resolveTokens_iff_sighted]
  exact and_iff_left (throughout_of_unmarked unmarked)

theorem not_fails_unterminatedLiteral {span : Span} :
    ¬Fails tokens (.unterminatedLiteral span) := by
  rintro (⟨-, -, offends⟩ | _)
  cases offends

end

/-- A quoted text without its end is reported before all else. Then the first token that closes no
parenthesis or is a marker without a column decides, then the last parenthesis that stays open. -/
theorem resolve_outcome (text : String) :
    (∀ span, resolve text = .error (.unterminatedLiteral span) ↔ tokenize text = .error ⟨span⟩) ∧
    (∀ span, tokenize text = .error ⟨span⟩ →
      ∃ before quote rest kind, text.toList = before ++ quote :: rest ∧
        TokenKind.ofDelimiter? quote = some kind ∧ Text.closeQuote quote rest = none ∧
        Tiles (quote :: rest) 0 (scan text).tokens text.toList ∧
        span = ⟨Text.byteLength before, Text.byteLength text.toList⟩) ∧
    (∀ tokens, tokenize text = .ok tokens →
      (∀ failure, resolve text = .error failure ↔ Fails tokens failure) ∧
      ((∃ found, resolve text = .ok found) ↔ Clean tokens ∧ openParens tokens = [])) ∧
    (countMarkers text = 0 →
      ((∃ found, resolve text = .ok found) ↔
        ∃ tokens, tokenize text = .ok tokens ∧ Balanced tokens)) := by
  have refused (failure : UnterminatedLiteral) (failed : tokenize text = .error failure) :
      resolve text = .error (.unterminatedLiteral failure.span) := by
    rw [resolve, failed]
  refine ⟨fun span => ⟨fun unterminated => ?_, refused ⟨span⟩⟩, fun span => tokenize_eq_error,
    fun tokens tokenized => ?_, fun unmarked => ?_⟩
  · cases tokenized : tokenize text with
    | error failure =>
        cases (refused failure tokenized).symm.trans unterminated
        rfl
    | ok tokens =>
        rw [resolve_of_tokenize tokenized, resolveTokens_eq_error_iff] at unterminated
        exact absurd unterminated not_fails_unterminatedLiteral
  · rw [resolve_of_tokenize tokenized]
    exact ⟨fun failure => resolveTokens_eq_error_iff, resolveTokens_eq_ok_iff⟩
  · cases tokenized : tokenize text with
    | error failure =>
        rw [refused failure tokenized]
        refine iff_of_false ?_ ?_
        · rintro ⟨found, resolved⟩
          cases resolved
        · rintro ⟨tokens, read, -⟩
          cases read
    | ok tokens =>
        have all : ∀ token ∈ tokens, token.isMarker = false := fun token member => by
          rw [countMarkers, (tokenize_eq_ok tokenized).2] at unmarked
          exact Bool.eq_false_iff.mpr (List.countP_eq_zero.mp unmarked token member)
        rw [resolve_of_tokenize tokenized, resolveTokens_of_unmarked all]
        simp

theorem resolve_outcome_of_several_errors :
    resolve ") ? 'a" = .error (.unterminatedLiteral ⟨4, 6⟩) ∧
    (∃ tokens, tokenize "a=? OR ?)(" = .ok tokens ∧
      Fails tokens (.unresolvedMarker 1 ⟨7, 8⟩) ∧ ¬(Clean tokens ∧ openParens tokens = [])) ∧
    (countMarkers "(a))(" = 0 ∧
      ¬∃ tokens, tokenize "(a))(" = .ok tokens ∧ Balanced tokens) := by
  refine ⟨?_, ⟨(scan "a=? OR ?)(").tokens, ?_⟩, ?_⟩
  · exact ((resolve_outcome ") ? 'a").1 ⟨4, 6⟩).mpr (by cbv)
  · have tokenized : tokenize "a=? OR ?)(" = .ok (scan "a=? OR ?)(").tokens := by cbv
    have resolved : resolve "a=? OR ?)(" = .error (.unresolvedMarker 1 ⟨7, 8⟩) := by cbv
    obtain ⟨fails, succeeds⟩ := (resolve_outcome "a=? OR ?)(").2.2.1 _ tokenized
    refine ⟨tokenized, (fails _).mp resolved, fun clean => ?_⟩
    obtain ⟨found, ok⟩ := succeeds.mpr clean
    rw [resolved] at ok
    cases ok
  · have unmarked : countMarkers "(a))(" = 0 := by cbv
    have refused : resolve "(a))(" = .error (.unbalancedParenthesis ⟨3, 4⟩) := by cbv
    refine ⟨unmarked, fun balanced => ?_⟩
    obtain ⟨found, ok⟩ := ((resolve_outcome "(a))(").2.2.2 unmarked).mpr balanced
    rw [refused] at ok
    cases ok

end BindStream
