import Mathlib
import BindStream.Proofs.Resolver.Markers
import BindStream.Proofs.Token.Lexeme

namespace BindStream

open Text

/-! Names in backticks. Any text is a name: written in backticks, with each backtick in it twice, it
is one token, and the token gives the name back. -/

/-- A name as a statement has it. -/
def inBackticks (name : String) : String := String.ofList (quoted '`' name.toList)

/-- A text with each pair of backticks in it written once. -/
def undoubled (text : String) : String := String.ofList (undouble '`' text.toList)

/-- The column that a name stands for. -/
def columnOf (name : String) : String := String.ofList (upper name.toList)

section

variable {c : Char} {text rest : List Char} {token : Token}

theorem toList_inBackticks (name : String) :
    (inBackticks name).toList = quoted '`' name.toList := String.toList_ofList

theorem columnName_inBackticks (name : String) (span : Span) :
    Token.columnName ⟨.quotedIdentifier, inBackticks name, span⟩ = some (columnOf name) := by
  have body : Text.interior (quoted '`' name.toList) = double '`' name.toList := by
    simp [Text.interior, quoted]
  simp [Token.columnName, columnOf, toList_inBackticks, body, undouble_double]

theorem undoubled_double (name : String) :
    undoubled (String.ofList (double '`' name.toList)) = name := by
  simp [undoubled, undouble_double]

theorem byteLength_inBackticks (name : String) :
    byteLength (inBackticks name).toList = byteLength (double '`' name.toList) + 2 := by
  have one : '`'.utf8Size = 1 := rfl
  simp only [toList_inBackticks, quoted, byteLength_cons, byteLength_append, byteLength_nil, one]
  omega

/-- What is between the backticks can be cut out. -/
theorem slice?_inBackticks (name : String) :
    Span.slice? ⟨1, byteLength (inBackticks name).toList - 1⟩ (inBackticks name) =
      some (String.ofList (double '`' name.toList)) := by
  have first : splitBytes 1 (inBackticks name).toList =
      some (['`'], double '`' name.toList ++ ['`']) := by
    rw [toList_inBackticks]
    exact splitBytes_append ['`'] (double '`' name.toList ++ ['`'])
  have ordered : 1 ≤ byteLength (inBackticks name).toList - 1 := by
    rw [byteLength_inBackticks]
    omega
  have length : byteLength (inBackticks name).toList - 1 - 1 =
      byteLength (double '`' name.toList) := by
    rw [byteLength_inBackticks]
    omega
  simp only [Span.slice?, Span.length?, first, if_pos ordered, length, splitBytes_append,
    Option.bind_eq_bind, Option.bind_some, Option.pure_def]

/-! Every such token is a name in backticks. -/

theorem eq_of_ofDelimiter?_quotedIdentifier
    (delimits : TokenKind.ofDelimiter? c = some .quotedIdentifier) : c = '`' := by
  unfold TokenKind.ofDelimiter? at delimits
  split at delimits
  case h_3 => rfl
  all_goals cases delimits

theorem IsToken.exists_of_quotedIdentifier (fits : IsToken .quotedIdentifier text rest) :
    ∃ inner, text = quoted '`' inner := by
  generalize named : TokenKind.quotedIdentifier = kind at fits
  cases fits with
  | mark marks =>
      subst named
      unfold TokenKind.ofMark? at marks
      split at marks <;> cases marks
  | @quotation q _ inner _ delimits ends =>
      subst named
      rw [eq_of_ofDelimiter?_quotedIdentifier delimits]
      exact ⟨inner, rfl⟩
  | number | operator => cases named
  | word =>
      unfold TokenKind.ofWord at named
      split at named <;> cases named

theorem exists_inBackticks_of_mem_tokens {source : String}
    (member : token ∈ (scan source).tokens) (kind : token.kind = .quotedIdentifier) :
    ∃ name, token.text = inBackticks name := by
  have piece := Piece.exists_of_mem_tokens member
  rw [kind] at piece
  obtain ⟨rest, fits⟩ := Piece.exists_fits_of_mem_split _ piece
  obtain ⟨inner, same⟩ := IsToken.exists_of_quotedIdentifier fits
  refine ⟨String.ofList inner, ?_⟩
  rw [← String.ofList_toList (s := token.text), same, inBackticks, String.toList_ofList]

/-! A name in backticks is one token, by itself and where a marker is compared with it. -/

theorem tokenize_inBackticks (name : String) :
    tokenize (inBackticks name) =
      .ok [⟨.quotedIdentifier, inBackticks name, ⟨0, byteLength (inBackticks name).toList⟩⟩] := by
  have single : Piece.split (quoted '`' name.toList) =
      ([.token .quotedIdentifier (quoted '`' name.toList)], []) := split_quoted rfl _
  rw [toList_inBackticks, inBackticks, tokenize_of_split single]
  simp [Piece.tokens]

theorem Piece.Fits.split_of {piece : Piece} {pieces : List Piece} {unread : List Char}
    (fits : piece.Fits rest) (splits : Piece.split rest = (pieces, unread)) :
    Piece.split (piece.text ++ rest) = (piece :: pieces, unread) := by
  rw [fits.split, splits]

theorem split_condition (name : List Char) :
    Piece.split (['w', 'h', 'e', 'r', 'e'] ++
        ([' '] ++ (quoted '`' name ++ [' ', '=', ' ', '?']))) =
      ([.token (.keyword .WHERE) ['w', 'h', 'e', 'r', 'e'], .gap [' '],
        .token .quotedIdentifier (quoted '`' name), .gap [' '], .token .operator ['='],
        .gap [' '], .token .marker ['?']], []) := by
  have word : Piece.Fits (.token (.keyword .WHERE) ['w', 'h', 'e', 'r', 'e'])
      ([' '] ++ (quoted '`' name ++ [' ', '=', ' ', '?'])) := by
    have reserved : TokenKind.ofWord ['w', 'h', 'e', 'r', 'e'] = .keyword .WHERE := by decide
    rw [← reserved]
    apply IsToken.word rfl
    · exact List.all_eq_true.mp rfl
    · rintro _ ⟨⟩
      rfl
  have blank : Piece.Fits (.gap [' ']) (quoted '`' name ++ [' ', '=', ' ', '?']) := by
    apply IsGap.blanks (List.cons_ne_nil _ _)
    · exact List.all_eq_true.mp rfl
    · rintro _ ⟨⟩
      rfl
  have quotation : Piece.Fits (.token .quotedIdentifier (quoted '`' name)) [' ', '=', ' ', '?'] :=
    IsToken.quotation rfl nofun
  have last : Piece.split [' ', '=', ' ', '?'] =
      ([.gap [' '], .token .operator ['='], .gap [' '], .token .marker ['?']], []) := by
    cbv
  exact word.split_of (blank.split_of (quotation.split_of last))

theorem tokenize_condition (name : String) :
    tokenize ("where " ++ inBackticks name ++ " = ?") =
      .ok [⟨.keyword .WHERE, "where", ⟨0, 5⟩⟩,
        ⟨.quotedIdentifier, inBackticks name, ⟨6, 6 + byteLength (inBackticks name).toList⟩⟩,
        ⟨.operator, "=", ⟨6 + byteLength (inBackticks name).toList + 1,
          6 + byteLength (inBackticks name).toList + 2⟩⟩,
        ⟨.marker, "?", ⟨6 + byteLength (inBackticks name).toList + 3,
          6 + byteLength (inBackticks name).toList + 4⟩⟩] := by
  have chars : "where " ++ inBackticks name ++ " = ?" =
      String.ofList (['w', 'h', 'e', 'r', 'e'] ++
        ([' '] ++ (quoted '`' name.toList ++ [' ', '=', ' ', '?']))) := by
    rw [← String.toList_inj]
    simp [toList_inBackticks]
  rw [chars, tokenize_of_split (split_condition name.toList), toList_inBackticks]
  rfl

/-- The marker takes the column of the name before the operator. -/
theorem resolveTokens_condition {column : String} (kind : token.kind = .quotedIdentifier)
    (named : token.columnName = some column) (first second last : Span) :
    resolveTokens [⟨.keyword .WHERE, "where", first⟩, token, ⟨.operator, "=", second⟩,
      ⟨.marker, "?", last⟩] = .ok [⟨0, column, last⟩] := by
  obtain ⟨_, text, span⟩ := token
  cases kind
  cases named
  rfl

end

/-- A name in backticks is one token with the name as its column, to which a marker that is compared
with it is bound. And each token of that kind in any text is such a name: it can be cut at its
backticks, and what is between them, with pairs written once, is the name. -/
theorem inBackticks_round_trip (name text : String) :
    tokenize (inBackticks name) =
        .ok [⟨.quotedIdentifier, inBackticks name,
          ⟨0, byteLength (inBackticks name).toList⟩⟩] ∧
      (∀ span, Token.columnName ⟨.quotedIdentifier, inBackticks name, span⟩ =
        some (columnOf name)) ∧
      resolve ("where " ++ inBackticks name ++ " = ?") =
        .ok [⟨0, columnOf name, ⟨6 + byteLength (inBackticks name).toList + 3,
          6 + byteLength (inBackticks name).toList + 4⟩⟩] ∧
      ∀ token ∈ (scan text).tokens, token.kind = .quotedIdentifier →
        ∃ body,
          Span.slice? ⟨1, byteLength token.text.toList - 1⟩ token.text = some body ∧
          inBackticks (undoubled body) = token.text ∧
          token.columnName = some (columnOf (undoubled body)) := by
  refine ⟨tokenize_inBackticks name, columnName_inBackticks name, ?_, ?_⟩
  · rw [resolve_of_tokenize (tokenize_condition name)]
    exact resolveTokens_condition rfl (columnName_inBackticks name _) _ _ _
  · intro token member kind
    obtain ⟨spelled, same⟩ := exists_inBackticks_of_mem_tokens member kind
    obtain ⟨_, chars, span⟩ := token
    cases kind
    obtain rfl : chars = inBackticks spelled := same
    refine ⟨String.ofList (double '`' spelled.toList), slice?_inBackticks spelled, ?_, ?_⟩
    · rw [undoubled_double]
    · rw [undoubled_double]
      exact columnName_inBackticks spelled span

/-- Backticks at either end of a name, and a token that a quote without its end follows. -/
theorem inBackticks_round_trip_at_ends :
    resolve "where ```?é``` = ?" = .ok [⟨0, "`?É`", ⟨18, 19⟩⟩] ∧
      (⟨.quotedIdentifier, "`a```", ⟨4, 9⟩⟩ : Token) ∈ (scan "b = `a```'").tokens ∧
      ∃ body, Span.slice? ⟨1, 4⟩ "`a```" = some body ∧ inBackticks (undoubled body) = "`a```" := by
  obtain ⟨-, -, resolved, tokens⟩ := inBackticks_round_trip "`?é`" "b = `a```'"
  have member : (⟨.quotedIdentifier, "`a```", ⟨4, 9⟩⟩ : Token) ∈ (scan "b = `a```'").tokens := by
    have listed : (scan "b = `a```'").tokens = [⟨.identifier, "b", ⟨0, 1⟩⟩,
        ⟨.operator, "=", ⟨2, 3⟩⟩, ⟨.quotedIdentifier, "`a```", ⟨4, 9⟩⟩] := by
      cbv
    rw [listed]
    decide
  obtain ⟨body, cut, whole, -⟩ := tokens _ member rfl
  have spelled : "where " ++ inBackticks "`?é`" ++ " = ?" = "where ```?é``` = ?" := by cbv
  have column : columnOf "`?é`" = "`?É`" := by cbv
  have length : byteLength (inBackticks "`?é`").toList = 9 := by cbv
  rw [spelled, column, length] at resolved
  exact ⟨resolved, member, body, cut, whole⟩

end BindStream
