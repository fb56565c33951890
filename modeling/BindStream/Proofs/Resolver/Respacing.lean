import Mathlib
import BindStream.Proofs.Resolver.Correspondence
import BindStream.Proofs.Token.Number

namespace BindStream

open Text

/-! A text written anew with one space between its tokens has the same tokens, so that layout and
comments do not decide what its markers bind to. -/

variable {c : Char} {s text rest : List Char} {kind : TokenKind}

theorem Text.operatorTail_alone (c : Char) (s : List Char) :
    operatorTail c (operatorTail c s).1 = ((operatorTail c s).1, []) := by
  cases s with
  | nil => rfl
  | cons d s =>
      rw [operatorTail]
      split
      · next second => exact if_pos second
      · rfl

theorem IsToken.alone (fits : IsToken kind text rest) : IsToken kind text [] := by
  cases fits with
  | mark marks => exact .mark marks
  | quotation delimits ends => exact .quotation delimits nofun
  | @number _ tail _ digit longest =>
      have alone := numberTail_alone (tail ++ rest)
      rw [longest] at alone
      exact .number digit (by rw [List.append_nil, alone])
  | word starts within ends => exact .word starts within nofun
  | @operator c tail _ noMark noDelimiter noDigit noWord noGap longest =>
      have alone := operatorTail_alone c (tail ++ rest)
      rw [longest] at alone
      refine .operator noMark noDelimiter noDigit noWord ?_ ?_
      · rw [List.append_nil]
        exact gapHead_none_of_append noGap
      · rw [List.append_nil, alone]

theorem Piece.split_of_token_mem_split (member : Piece.token kind text ∈ (Piece.split s).1) :
    Piece.split text = ([.token kind text], []) := by
  obtain ⟨rest, fits⟩ := exists_fits_of_mem_split _ member
  have alone : (Piece.token kind text).Fits [] := IsToken.alone fits
  have split := alone.split
  rwa [List.append_nil, Piece.split_nil] at split

/-- The texts of some tokens with one space between each two. -/
def respaced (tokens : List Token) : String := " ".intercalate (tokens.map Token.text)

namespace Lexeme

theorem spaced_eq_intercalate (lexemes : List Lexeme) :
    spaced (fun _ => 0) lexemes = [' '].intercalate (lexemes.map Lexeme.text) := by
  induction lexemes with
  | nil => rfl
  | cons lexeme lexemes ih =>
      cases lexemes with
      | nil => exact List.intercalate_singleton.symm
      | cons next lexemes =>
          rw [spaced, ih]
          simp only [List.map_cons, List.intercalate_cons_cons, List.append_assoc]
          rfl

theorem toList_respaced {lexemes : List Lexeme} {tokens : List Token}
    (same : lexemes.map word = tokens.map Token.word) :
    (respaced tokens).toList = spaced (fun _ => 0) lexemes := by
  have texts := congrArg (List.map fun word : TokenKind × String => word.2.toList) same
  rw [List.map_map, List.map_map] at texts
  have lexemeTexts : (fun word : TokenKind × String => word.2.toList) ∘ word = Lexeme.text := by
    funext lexeme
    exact String.toList_ofList
  rw [respaced, String.toList_intercalate, List.map_map, spaced_eq_intercalate,
    ← lexemeTexts, texts]
  rfl

theorem exists_of_mem_scan {text : String} {token : Token} (member : token ∈ (scan text).tokens) :
    ∃ lexeme : Lexeme, lexeme.word = token.word := by
  have scans := Piece.split_of_token_mem_split (Piece.exists_of_mem_tokens member)
  exact ⟨⟨token.kind, token.text.toList, scans⟩, by rw [word, String.ofList_toList]; rfl⟩

theorem exists_map_word {tokens : List Token}
    (each : ∀ token ∈ tokens, ∃ lexeme : Lexeme, lexeme.word = token.word) :
    ∃ lexemes : List Lexeme, lexemes.map word = tokens.map Token.word := by
  induction tokens with
  | nil => exact ⟨[], rfl⟩
  | cons token tokens ih =>
      obtain ⟨lexeme, same⟩ := each token List.mem_cons_self
      obtain ⟨lexemes, sames⟩ := ih fun other member => each other (List.mem_cons_of_mem _ member)
      exact ⟨lexeme :: lexemes, by rw [List.map_cons, List.map_cons, same, sames]⟩

end Lexeme

theorem tokenize_respaced {text : String} {tokens : List Token}
    (tokenized : tokenize text = .ok tokens) :
    ∃ others, tokenize (respaced tokens) = .ok others ∧
      others.map Token.word = tokens.map Token.word := by
  have scanned := (tokenize_eq_ok tokenized).2
  obtain ⟨lexemes, same⟩ := Lexeme.exists_map_word fun token (member : token ∈ tokens) =>
    Lexeme.exists_of_mem_scan (scanned ▸ member)
  obtain ⟨others, tokenizedToo, words⟩ := Lexeme.tokenize_spaced (fun _ => 0) lexemes
  rw [← Lexeme.toList_respaced same, String.ofList_toList] at tokenizedToo
  exact ⟨others, tokenizedToo, words.trans same⟩

/-- A text with one space between its tokens, in place of blanks and comments, has the same tokens
and comes to the same, each marker and each failure at the token that stands for its own. -/
theorem resolve_respaced {text : String} {tokens : List Token}
    (tokenized : tokenize text = .ok tokens) :
    ∃ others, tokenize (respaced tokens) = .ok others ∧
      others.map Token.word = tokens.map Token.word ∧
      countMarkers (respaced tokens) = countMarkers text ∧
      ∃ f, others.map Token.span = tokens.map (fun token => f token.span) ∧
        resolve (respaced tokens) =
          mapOutcome f (List.map (Parameter.mapSpan f)) (resolve text) ∧
        ∀ failure span, resolve text = .error failure → failure.span? = some span →
          ∃ token ∈ tokens, token.span = span := by
  obtain ⟨others, tokenizedToo, words⟩ := tokenize_respaced tokenized
  obtain ⟨counts, outcome⟩ :=
    resolve_of_resemble tokenized tokenizedToo (resemble_of_words words)
  exact ⟨others, tokenizedToo, words, counts, outcome⟩

theorem resolve_respaced_without_comment :
    tokenize "a/* ? */<=1e+-?" = .ok [⟨.identifier, "a", ⟨0, 1⟩⟩, ⟨.operator, "<=", ⟨8, 10⟩⟩,
      ⟨.number, "1e+", ⟨10, 13⟩⟩, ⟨.operator, "-", ⟨13, 14⟩⟩, ⟨.marker, "?", ⟨14, 15⟩⟩] ∧
    ∃ f, f ⟨14, 15⟩ = ⟨11, 12⟩ ∧
      resolve "a <= 1e+ - ?" =
        mapOutcome f (List.map (Parameter.mapSpan f)) (resolve "a/* ? */<=1e+-?") := by
  have tokenized : tokenize "a/* ? */<=1e+-?" = .ok [⟨.identifier, "a", ⟨0, 1⟩⟩,
      ⟨.operator, "<=", ⟨8, 10⟩⟩, ⟨.number, "1e+", ⟨10, 13⟩⟩, ⟨.operator, "-", ⟨13, 14⟩⟩,
      ⟨.marker, "?", ⟨14, 15⟩⟩] := by
    cbv
  have written : tokenize "a <= 1e+ - ?" = .ok [⟨.identifier, "a", ⟨0, 1⟩⟩,
      ⟨.operator, "<=", ⟨2, 4⟩⟩, ⟨.number, "1e+", ⟨5, 8⟩⟩, ⟨.operator, "-", ⟨9, 10⟩⟩,
      ⟨.marker, "?", ⟨11, 12⟩⟩] := by
    cbv
  obtain ⟨others, tokenizedToo, -, -, f, spans, outcome, -⟩ := resolve_respaced tokenized
  cases written.symm.trans tokenizedToo
  simp only [List.map_cons, List.cons.injEq] at spans
  exact ⟨tokenized, f, spans.2.2.2.2.1.symm, outcome⟩

end BindStream
