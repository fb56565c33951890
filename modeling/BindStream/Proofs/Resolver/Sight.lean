import Mathlib
import BindStream.Proofs.Resolver.Columns
import BindStream.Proofs.Resolver.Correspondence
import BindStream.Proofs.Resolver.Markers
import BindStream.Proofs.Resolver.Outcome

namespace BindStream

/-! The column that a marker sees, as the state behind the tokens before it, whatever becomes of the
statement. -/

namespace Resolver

variable {resolver next last : Resolver} {token other : Token} {tokens others rest : List Token}
variable {callFollows : Bool} {f : Span → Span}

/-- A marker adds at most a parameter. -/
theorem pass_of_isMarker (marked : token.isMarker = true) :
    ∃ parameters, resolver.pass token callFollows = { resolver with parameters := parameters } := by
  rw [pass, accept_of_isMarker marked]
  cases bound : resolver.marker token.span with
  | error failure => exact ⟨resolver.parameters, rfl⟩
  | ok next =>
      obtain ⟨column, -, rfl⟩ := marker_eq_ok bound
      exact ⟨_, rfl⟩

theorem skimBefore_append (first second : List Token) :
    skimBefore rest resolver (first ++ second) =
      skimBefore rest (skimBefore (second ++ rest) resolver first) second := by
  induction first generalizing resolver with
  | nil => rfl
  | cons token first ih =>
      rw [List.cons_append, skimBefore, skimBefore, List.append_assoc]
      exact ih

theorem skim_append (first second : List Token) :
    resolver.skim (first ++ second) = (skimBefore second resolver first).skim second := by
  rw [skim, skimBefore_append, List.append_nil, skim]

theorem skimBefore_congr (same : opensGroup rest = opensGroup others) :
    skimBefore rest resolver tokens = skimBefore others resolver tokens := by
  induction tokens generalizing resolver with
  | nil => rfl
  | cons token tokens ih =>
      rw [skimBefore, skimBefore, opensGroup_append_congr same]
      exact ih

/-! What comes after a token matters to names only. -/

theorem accept_of_unnamed (unnamed : token.columnName = none) (first second : Bool) :
    resolver.accept token first = resolver.accept token second := by
  obtain ⟨kind, text, span⟩ := token
  cases kind with
  | identifier | quotedIdentifier => cases unnamed
  | _ => rfl

theorem skimBefore_of_unnamed (ends : ∀ last ∈ tokens.getLast?, last.columnName = none) :
    skimBefore rest resolver tokens = resolver.skim tokens := by
  rw [skim]
  rcases List.eq_nil_or_concat' tokens with rfl | ⟨before, last, rfl⟩
  · rfl
  · have unnamed : last.columnName = none := ends last List.getLast?_concat
    have follows : opensGroup ([last] ++ rest) = opensGroup ([last] ++ []) := rfl
    rw [skimBefore_append, skimBefore_append, skimBefore_congr follows]
    change pass _ last _ = pass _ last _
    rw [pass, pass, accept_of_unnamed unnamed]

/-! Tokens that correspond are passed alike. -/

theorem pass_mapSpans (f : Span → Span) :
    (resolver.mapSpans f).pass (token.mapSpan f) callFollows =
      (resolver.pass token callFollows).mapSpans f := by
  rw [pass, pass, accept_mapSpans]
  cases resolver.accept token callFollows <;> rfl

theorem skim_of_corresponds (corresponds : Corresponds f tokens others) :
    (resolver.mapSpans f).skim others = (resolver.skim tokens).mapSpans f := by
  rw [skim, skim]
  induction corresponds generalizing resolver with
  | nil => rfl
  | @cons token other tokens others first later ih =>
      have follows : opensGroup (others ++ []) = opensGroup (tokens.map (Token.mapSpan f) ++ []) :=
        opensGroup_of_corresponds later rfl
      have passed : (resolver.mapSpans f).pass other (opensGroup (others ++ [])) =
          (resolver.pass token (opensGroup (tokens ++ []))).mapSpans f := by
        rw [pass, accept_of_resembles first.1 first.2, follows, List.append_nil, List.append_nil,
          opensGroup_map_mapSpan]
        exact pass_mapSpans f
      rw [skimBefore, skimBefore, passed]
      exact ih

/-- But for spans, the state depends on the kinds and the names of the tokens. -/
theorem skim_of_aspects (resolver : Resolver)
    (same : others.map Token.aspect = tokens.map Token.aspect) :
    (resolver.skim others).mapSpans (fun _ => default) =
      (resolver.skim tokens).mapSpans fun _ => default := by
  let nowhere : Span → Span := fun _ => default
  have placeless {given : List Token} (aspects : others.map Token.aspect = given.map Token.aspect) :
      Corresponds nowhere given (others.map (Token.mapSpan nowhere)) := by
    rw [Corresponds, List.forall₂_map_right_iff]
    exact (resemble_of_aspects aspects).imp fun _ _ resembles => ⟨resembles, rfl⟩
  exact (skim_of_corresponds (placeless rfl)).symm.trans (skim_of_corresponds (placeless same))

end Resolver

open Resolver

variable {tokens others before after : List Token} {text : String} {marker : Token}
variable {found : List Parameter}

theorem columnAfter_of_aspects (same : others.map Token.aspect = tokens.map Token.aspect) :
    columnAfter others = columnAfter tokens := by
  have states := congrArg Resolver.column? (skim_of_aspects initial same)
  rwa [column?_mapSpans, column?_mapSpans] at states

/-- In a text that resolves, each marker has the column that it sees. -/
theorem parameter_of_resolve (tokenized : tokenize text = .ok (before ++ marker :: after))
    (marked : marker.isMarker = true) (resolved : resolve text = .ok found) :
    ∃ parameter, found[before.countP Token.isMarker]? = some parameter ∧
      columnAfter before = some parameter.column := by
  rw [resolve_of_tokenize tokenized] at resolved
  obtain ⟨last, ran, -, rfl⟩ := resolveTokens_eq_ok resolved
  rw [run_append] at ran
  cases reached : runBefore (marker :: after) initial before with
  | error failure =>
      rw [reached] at ran
      cases ran
  | ok middle =>
      rw [reached] at ran
      have ranOn : middle.run (marker :: after) = .ok last := ran
      have ends : opensGroup (marker :: after) = opensGroup [] :=
        opensGroup_of_kind (eq_of_beq marked) rfl
      have seen : columnAfter before = middle.column? := columnAfter_of_runBefore marked reached
      rw [runBefore_congr ends, ← run_eq_runBefore] at reached
      have counted : (middle.parameters.map someColumn).length =
          before.countP Token.isMarker := by
        have places := congrArg List.length (run_places reached)
        rw [List.length_map] at places ⊢
        rw [places, List.countP_eq_length_filter]
        simp [markerPlaces, initial]
      rw [run_eq_runBefore] at ranOn
      have here : (last.parameters.map someColumn)[before.countP Token.isMarker]? =
          some middle.column? := by
        rw [map_someColumn_of_runBefore ranOn, List.getElem?_append_right counted.le, counted,
          Nat.sub_self, ← List.head?_eq_getElem?]
        exact head?_columnsBefore marked
      rw [List.getElem?_map, Option.map_eq_some_iff] at here
      obtain ⟨parameter, listed, same⟩ := here
      exact ⟨parameter, listed, seen.trans same.symm⟩

theorem exists_of_filter_isMarker {ordinal : Nat}
    (listed : (tokens.filter Token.isMarker)[ordinal]? = some marker) :
    ∃ before after, tokens = before ++ marker :: after ∧ marker.isMarker = true ∧
      before.countP Token.isMarker = ordinal := by
  induction tokens generalizing ordinal with
  | nil => simp at listed
  | cons token tokens ih =>
      cases marked : token.isMarker with
      | false =>
          rw [List.filter_cons_of_neg (by rw [marked]; exact Bool.false_ne_true)] at listed
          obtain ⟨before, after, rfl, isMarker, counted⟩ := ih listed
          refine ⟨token :: before, after, rfl, isMarker, ?_⟩
          rw [List.countP_cons, counted, marked]
          rfl
      | true =>
          rw [List.filter_cons_of_pos marked] at listed
          cases ordinal with
          | zero =>
              obtain rfl : token = marker := Option.some.inj listed
              exact ⟨[], tokens, rfl, marked, rfl⟩
          | succ ordinal =>
              obtain ⟨before, after, rfl, isMarker, counted⟩ := ih listed
              refine ⟨token :: before, after, rfl, isMarker, ?_⟩
              rw [List.countP_cons, counted, marked]
              rfl

/-- Which parameter stands at an index: that of the marker with as many markers before it, at its
place and with the column that it sees. -/
theorem getElem?_of_resolve_iff {ordinal : Nat} {parameter : Parameter}
    (resolved : resolve text = .ok found) :
    found[ordinal]? = some parameter ↔
      ∃ before marker after, tokenize text = .ok (before ++ marker :: after) ∧
        marker.isMarker = true ∧ before.countP Token.isMarker = ordinal ∧
        parameter.place = (ordinal, marker.span) ∧
        columnAfter before = some parameter.column := by
  have tokenized := tokenize_of_resolve resolved nofun
  have places := congrArg (·[ordinal]?) (resolve_places resolved)
  simp only [List.getElem?_map, markerPlaces_getElem?] at places
  constructor
  · intro listed
    rw [listed, Option.map_some, eq_comm, Option.map_eq_some_iff] at places
    obtain ⟨marker, marked, place⟩ := places
    obtain ⟨before, after, split, isMarker, counted⟩ := exists_of_filter_isMarker marked
    rw [split] at tokenized
    obtain ⟨same, listedToo, seen⟩ := parameter_of_resolve tokenized isMarker resolved
    rw [counted, listed] at listedToo
    cases listedToo
    exact ⟨before, marker, after, tokenized, isMarker, counted, place.symm, seen⟩
  · rintro ⟨before, marker, after, split, isMarker, counted, place, seen⟩
    obtain ⟨other, listed, sees⟩ := parameter_of_resolve split isMarker resolved
    rw [tokenized] at split
    have here : ((scan text).tokens.filter Token.isMarker)[ordinal]? = some marker := by
      rw [Except.ok.inj split, List.filter_append, List.filter_cons_of_pos isMarker,
        ← counted, List.countP_eq_length_filter, List.getElem?_append_right (Nat.le_refl _),
        Nat.sub_self]
      rfl
    rw [counted] at listed
    rw [listed, here, Option.map_some, Option.map_some, ← place] at places
    obtain ⟨sameOrdinal, sameSpan⟩ := Prod.mk.inj (Option.some.inj places)
    have sameColumn : other.column = parameter.column := Option.some.inj (sees.symm.trans seen)
    have same : other = parameter := by
      cases other
      cases parameter
      simp_all
    rw [listed, same]

end BindStream
