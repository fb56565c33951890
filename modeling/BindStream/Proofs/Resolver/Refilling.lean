import Mathlib
import BindStream.Proofs.Resolver.Correspondence
import BindStream.Proofs.Token.Grammar
import BindStream.Proofs.Token.LineBreak

namespace BindStream

open Text

/-! What a quoted literal holds decides nothing but the literal: with other content in it, a text
has the same tokens around it and comes to the same. -/

/-- The text `source` with `new` in place of the part that a span covers. -/
def Span.splice? (span : Span) (source new : String) : Option String := do
  let (before, after) ← splitBytes span.start source.toList
  let (_, behind) ← splitBytes (← span.length?) after
  return String.ofList (before ++ new.toList ++ behind)

/-- A span as far behind `target` as it was behind `source`. -/
def Span.move (source target : Nat) (span : Span) : Span :=
  ⟨span.start - source + target, span.stop - source + target⟩

namespace Token

def delimiter (token : Token) : Char := token.text.toList.headD '\''

def refill (content : String) (literal : Token) : Token :=
  let text := Text.quoted literal.delimiter content.toList
  { literal with
    text := String.ofList text
    span := ⟨literal.span.start, literal.span.start + byteLength text⟩ }

def move (source target : Nat) (token : Token) : Token :=
  { token with span := token.span.move source target }

theorem move_shift (source target : Nat) (token : Token) :
    (token.shift source).move source target = token.shift target := by
  simp only [move, shift, Span.move, Span.shift, Nat.add_sub_cancel]

theorem refill_quoted (q : Char) (inner : List Char) (start stop : Nat) (content : String) :
    refill content ⟨.quoted, String.ofList (Text.quoted q inner), ⟨start, stop⟩⟩ =
      ⟨.quoted, String.ofList (Text.quoted q content.toList),
        ⟨start, start + byteLength (Text.quoted q content.toList)⟩⟩ := by
  have same : delimiter ⟨.quoted, String.ofList (Text.quoted q inner), ⟨start, stop⟩⟩ = q := by
    rw [delimiter, String.toList_ofList]
    rfl
  rw [refill, same]

theorem Resembles.of_quoted {literal other : Token} (quoted : literal.kind = .quoted)
    (quotedToo : other.kind = .quoted) : literal.Resembles other := by
  refine ⟨quotedToo.trans quoted.symm, ?_⟩
  rw [columnName, columnName, quoted, quotedToo]

end Token

theorem resemble_refilled (earlier later : List Token) {literal other : Token}
    (resembles : literal.Resembles other) (source target : Nat) :
    List.Forall₂ Token.Resembles (earlier ++ literal :: later)
      (earlier ++ other :: later.map (Token.move source target)) := by
  refine List.rel_append (List.forall₂_same.mpr fun _ _ => ⟨rfl, rfl⟩) (.cons resembles ?_)
  rw [List.forall₂_map_right_iff]
  exact List.forall₂_same.mpr fun _ _ => ⟨rfl, rfl⟩

namespace Piece

theorem tokens_append (start : Nat) (pieces more : List Piece) :
    tokens start (pieces ++ more) =
      tokens start pieces ++ tokens (start + byteLength (pieces.flatMap text)) more := by
  induction pieces generalizing start with
  | nil => rfl
  | cons piece pieces ih =>
      rw [List.flatMap_cons, byteLength_append, ← Nat.add_assoc]
      cases piece with
      | gap text => exact ih _
      | token kind text => exact congrArg _ (ih _)

theorem tokens_move (source target : Nat) (pieces : List Piece) :
    (tokens source pieces).map (Token.move source target) = tokens target pieces := by
  have shifted := fun start => tokens_add 0 start pieces
  simp only [Nat.zero_add] at shifted
  rw [shifted source, shifted target, List.map_map]
  exact List.map_congr_left fun token _ => token.move_shift source target

/-- A token among those of some pieces comes from one of them, and the tokens on either side from
the pieces on that side. -/
theorem exists_of_tokens_eq_append {start : Nat} {pieces : List Piece}
    {earlier later : List Token} {literal : Token}
    (tokenized : tokens start pieces = earlier ++ literal :: later) :
    ∃ before kind content after, pieces = before ++ .token kind content :: after ∧
      earlier = tokens start before ∧
      literal :: later =
        tokens (start + byteLength (before.flatMap text)) (.token kind content :: after) := by
  induction pieces generalizing start earlier with
  | nil => exact absurd tokenized.symm (by simp [tokens])
  | cons piece pieces ih =>
      have length (before : List Piece) :
          start + byteLength ((piece :: before).flatMap text) =
            start + byteLength piece.text + byteLength (before.flatMap text) := by
        rw [List.flatMap_cons, byteLength_append, Nat.add_assoc]
      cases piece with
      | gap blank =>
          obtain ⟨before, kind, content, after, rfl, rfl, here⟩ := ih tokenized
          exact ⟨.gap blank :: before, kind, content, after, rfl, rfl, by rw [length]; exact here⟩
      | token kind content =>
          cases earlier with
          | nil => exact ⟨[], kind, content, pieces, rfl, rfl, tokenized.symm⟩
          | cons first earlier =>
              obtain ⟨rfl, tail⟩ := List.cons.inj tokenized
              obtain ⟨before, kind', content', after, rfl, rfl, here⟩ := ih tail
              exact ⟨.token kind content :: before, kind', content', after, rfl, rfl,
                by rw [length]; exact here⟩

variable {q : Char} {kind : TokenKind} {inner behind : List Char} {before after : List Piece}

theorem ends_of_fits_quoted (delimits : TokenKind.ofDelimiter? q = some kind)
    (fits : IsToken kind (quoted q inner) behind) : behind.head? ≠ some q := by
  have headed := fits.head
  rw [tokenHead, ofMark?_of_delimiter delimits, delimits] at headed
  obtain ⟨⟨body, rest⟩, closed, same⟩ := Option.map_eq_some_iff.mp headed
  cases same
  exact (exists_double_of_closeQuote closed).2

theorem exists_quoted_of_fits {content rest : List Char} (fits : IsToken kind content rest)
    (isQuoted : kind = .quoted) :
    ∃ q inner, TokenKind.ofDelimiter? q = some .quoted ∧ content = quoted q inner := by
  cases fits with
  | mark marks =>
      subst isQuoted
      unfold TokenKind.ofMark? at marks
      split at marks <;> cases marks
  | @quotation q _ inner _ delimits ends => exact ⟨q, inner, isQuoted ▸ delimits, rfl⟩
  | number | operator => cases isQuoted
  | word =>
      unfold TokenKind.ofWord at isQuoted
      split at isQuoted <;> cases isQuoted

/-- With another quoted text in place of one, the pieces on either side stay as they are. -/
theorem split_refilled (delimits : TokenKind.ofDelimiter? q = some kind)
    (splits : split (before.flatMap text ++ (quoted q inner ++ behind)) =
      (before ++ .token kind (quoted q inner) :: after, [])) (content : List Char) :
    split (before.flatMap text ++ (quoted q content ++ behind)) =
      (before ++ .token kind (quoted q content) :: after, []) := by
  induction before with
  | nil =>
      obtain ⟨rest, whole, fits, splitRest⟩ := exists_of_split_cons splits
      obtain rfl : behind = rest := List.append_cancel_left whole
      have refitted : (Piece.token kind (quoted q content)).Fits behind :=
        .quotation delimits (ends_of_fits_quoted delimits fits)
      have splitQuoted := refitted.split
      rw [splitRest] at splitQuoted
      exact splitQuoted
  | cons piece before ih =>
      rw [List.flatMap_cons, List.append_assoc] at splits ⊢
      obtain ⟨rest, whole, fits, splitRest⟩ := exists_of_split_cons splits
      obtain rfl := List.append_cancel_left whole
      have refitted : piece.Fits (before.flatMap text ++ (quoted q content ++ behind)) :=
        fits.congr_stop (stops_of_delimiter delimits) _
      rw [refitted.split, ih splitRest]
      rfl

end Piece

theorem Span.splice?_append (before covered behind : List Char) (new : String) :
    Span.splice? ⟨byteLength before, byteLength before + byteLength covered⟩
        (String.ofList (before ++ (covered ++ behind))) new =
      some (String.ofList (before ++ new.toList ++ behind)) := by
  simp only [splice?, length?, String.toList_ofList, splitBytes_append, Nat.le_add_right, if_true,
    Nat.add_sub_cancel_left, Option.bind_eq_bind, Option.bind_some, Option.pure_def]

/-- The tokens of a text with a quoted literal among them, by the pieces on either side. -/
theorem exists_pieces_of_quoted {text : String} {earlier later : List Token} {literal : Token}
    (tokenized : tokenize text = .ok (earlier ++ literal :: later))
    (quoted : literal.kind = .quoted) :
    ∃ before q inner after, TokenKind.ofDelimiter? q = some .quoted ∧
      text.toList = before.flatMap Piece.text ++
        (Text.quoted q inner ++ after.flatMap Piece.text) ∧
      Piece.split text.toList = (before ++ .token .quoted (Text.quoted q inner) :: after, []) ∧
      earlier = Piece.tokens 0 before ∧
      literal :: later = Piece.tokens (byteLength (before.flatMap Piece.text))
        (.token .quoted (Text.quoted q inner) :: after) := by
  obtain ⟨whole, scanned⟩ := tokenize_eq_ok tokenized
  obtain ⟨before, kind, content, after, pieces, rfl, here⟩ :=
    Piece.exists_of_tokens_eq_append scanned
  have isQuoted : kind = .quoted := by
    rw [(List.cons.inj here).1] at quoted
    exact quoted
  have member : Piece.token kind content ∈ (Piece.split text.toList).1 := by
    rw [pieces]
    exact List.mem_append_right _ List.mem_cons_self
  obtain ⟨rest, fits⟩ := Piece.exists_fits_of_mem_split _ member
  obtain ⟨q, inner, delimits, rfl⟩ := Piece.exists_quoted_of_fits fits isQuoted
  have splits : Piece.split text.toList =
      (before ++ .token kind (Text.quoted q inner) :: after, []) :=
    Prod.ext pieces (unread_of_scan whole)
  have chars := Piece.split_append text.toList
  rw [splits, List.append_nil, List.flatMap_append, List.flatMap_cons] at chars
  rw [Nat.zero_add] at here
  rw [isQuoted] at splits here
  exact ⟨before, q, inner, after, delimits, chars.symm, splits, rfl, here⟩

theorem tokenize_refilled {text : String} {earlier later : List Token} {literal : Token}
    (tokenized : tokenize text = .ok (earlier ++ literal :: later))
    (quoted : literal.kind = .quoted) (content : String) :
    ∃ changed,
      literal.span.splice? text (literal.refill content).text = some changed ∧
      tokenize changed = .ok (earlier ++ literal.refill content ::
        later.map (Token.move literal.span.stop (literal.refill content).span.stop)) := by
  obtain ⟨before, q, inner, after, delimits, chars, splits, rfl, here⟩ :=
    exists_pieces_of_quoted tokenized quoted
  obtain ⟨rfl, rfl⟩ := List.cons.inj here
  rw [chars] at splits
  have refilled := tokenize_of_split (Piece.split_refilled delimits splits content.toList)
  rw [Piece.tokens_append, Nat.zero_add, Piece.tokens] at refilled
  rw [Token.refill_quoted]
  dsimp only
  rw [Piece.tokens_move]
  refine ⟨_, ?_, refilled⟩
  rw [← String.ofList_toList (s := text), chars, Span.splice?_append, String.toList_ofList,
    List.append_assoc]

/-- Other content in a quoted literal leaves the tokens before the literal where they are and
moves those behind it with its end; the text comes to the same, with the spans moved. -/
theorem resolve_refilled {text : String} {earlier later : List Token} {literal : Token}
    (tokenized : tokenize text = .ok (earlier ++ literal :: later))
    (quoted : literal.kind = .quoted) (content : String) :
    ∃ changed,
      literal.span.splice? text (literal.refill content).text = some changed ∧
      tokenize changed = .ok (earlier ++ literal.refill content ::
        later.map (Token.move literal.span.stop (literal.refill content).span.stop)) ∧
      countMarkers changed = countMarkers text ∧
      ∃ f, (∀ token ∈ earlier, f token.span = token.span) ∧
        f literal.span = (literal.refill content).span ∧
        (∀ token ∈ later, f token.span =
          token.span.move literal.span.stop (literal.refill content).span.stop) ∧
        resolve changed = mapOutcome f (List.map (Parameter.mapSpan f)) (resolve text) ∧
        ∀ failure span, resolve text = .error failure → failure.span? = some span →
          ∃ token ∈ earlier ++ literal :: later, token.span = span := by
  obtain ⟨changed, spliced, tokenizedToo⟩ := tokenize_refilled tokenized quoted content
  have resembles : literal.Resembles (literal.refill content) := .of_quoted quoted quoted
  obtain ⟨counts, f, spans, outcome⟩ := resolve_of_resemble tokenized tokenizedToo
    (resemble_refilled earlier later resembles _ _)
  rw [List.map_append, List.map_append, List.map_cons, List.map_cons] at spans
  obtain ⟨before, behind⟩ := List.append_inj spans (by rw [List.length_map, List.length_map])
  obtain ⟨here, moved⟩ := List.cons.inj behind
  rw [List.map_map] at moved
  refine ⟨changed, spliced, tokenizedToo, counts, f, ?_, here.symm, ?_, outcome⟩
  · exact fun token member => (List.map_inj_left.mp before token member).symm
  · exact fun token member => (List.map_inj_left.mp moved token member).symm

theorem resolve_refilled_with_marker_and_comment :
    tokenize "a='x'||?" = .ok [⟨.identifier, "a", ⟨0, 1⟩⟩, ⟨.operator, "=", ⟨1, 2⟩⟩,
      ⟨.quoted, "'x'", ⟨2, 5⟩⟩, ⟨.operator, "||", ⟨5, 7⟩⟩, ⟨.marker, "?", ⟨7, 8⟩⟩] ∧
    countMarkers "a='? -- '''||?" = countMarkers "a='x'||?" ∧
    ∃ f, f ⟨7, 8⟩ = ⟨13, 14⟩ ∧
      resolve "a='? -- '''||?" =
        mapOutcome f (List.map (Parameter.mapSpan f)) (resolve "a='x'||?") := by
  have tokenized : tokenize "a='x'||?" = .ok ([⟨.identifier, "a", ⟨0, 1⟩⟩,
      ⟨.operator, "=", ⟨1, 2⟩⟩] ++ ⟨.quoted, "'x'", ⟨2, 5⟩⟩ ::
        [⟨.operator, "||", ⟨5, 7⟩⟩, ⟨.marker, "?", ⟨7, 8⟩⟩]) := by
    cbv
  have spliced : Span.splice? ⟨2, 5⟩ "a='x'||?"
      (Token.refill "? -- '" ⟨.quoted, "'x'", ⟨2, 5⟩⟩).text = some "a='? -- '''||?" := by
    cbv
  obtain ⟨changed, found, -, counts, f, -, -, later, outcome, -⟩ :=
    resolve_refilled tokenized rfl "? -- '"
  cases spliced.symm.trans found
  have marker := later ⟨.marker, "?", ⟨7, 8⟩⟩ (by simp)
  have place : Span.move 5 (Token.refill "? -- '" ⟨.quoted, "'x'", ⟨2, 5⟩⟩).span.stop ⟨7, 8⟩ =
      ⟨13, 14⟩ := by
    cbv
  exact ⟨tokenized, counts, f, marker.trans place, outcome⟩

end BindStream
