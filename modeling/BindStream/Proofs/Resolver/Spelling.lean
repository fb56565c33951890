import BindStream.Proofs.Resolver.Correspondence
import BindStream.Proofs.Token.Lexeme

namespace BindStream

/-! Texts that spell some lexemes, in any layout, in either case of the letters of keywords and
names, and with any literals in place of the literals. -/

/-- Lexeme by lexeme, the tokens of the text are what the resolver takes for the same. -/
def Spells (text : String) (lexemes : List Lexeme) : Prop :=
  (tokenize text).map (List.map Token.aspect) =
    .ok (lexemes.map fun lexeme => lexeme.token.aspect)

/-- One by one, the tokens are what the resolver takes for the lexemes. -/
def Spell (tokens : List Token) (lexemes : List Lexeme) : Prop :=
  tokens.map Token.aspect = lexemes.map fun lexeme => lexeme.token.aspect

instance (tokens : List Token) (lexemes : List Lexeme) : Decidable (Spell tokens lexemes) :=
  inferInstanceAs (Decidable (_ = _))

variable {text : String} {tokens others : List Token} {lexemes : List Lexeme}

theorem Spells.exists_tokens (spells : Spells text lexemes) :
    ∃ tokens, tokenize text = .ok tokens ∧
      (lexemes.map Lexeme.token).map Token.aspect = tokens.map Token.aspect := by
  unfold Spells at spells
  cases tokenized : tokenize text with
  | error failure =>
      rw [tokenized] at spells
      cases spells
  | ok tokens =>
      rw [tokenized] at spells
      refine ⟨tokens, rfl, ?_⟩
      rw [List.map_map]
      exact (Except.ok.inj spells).symm

theorem spells_spaced (gaps : Nat → Nat) (lexemes : List Lexeme) :
    Spells (String.ofList (Lexeme.spaced gaps lexemes)) lexemes := by
  obtain ⟨tokens, tokenized, words⟩ := Lexeme.tokenize_spaced gaps lexemes
  have same : tokens.map Token.word = (lexemes.map Lexeme.token).map Token.word := by
    rw [words, List.map_map]
    rfl
  have aspects := aspects_of_words same
  rw [List.map_map] at aspects
  rw [Spells, tokenized]
  exact congrArg Except.ok aspects

/-- A text binds its markers to the columns to which the lexemes bind them that it spells. -/
theorem Spells.columns {found : List Parameter} (spells : Spells text lexemes)
    (resolved : resolveTokens (lexemes.map Lexeme.token) = .ok found) :
    ∃ placed, resolve text = .ok placed ∧
      placed.map Parameter.column = found.map Parameter.column := by
  obtain ⟨tokens, tokenized, aspects⟩ := spells.exists_tokens
  obtain ⟨f, corresponds⟩ :=
    exists_corresponds (resemble_of_aspects aspects) (spans_apart tokenized)
  have outcome := resolveTokens_of_corresponds corresponds
  rw [resolved] at outcome
  rw [resolve_of_tokenize tokenized]
  cases bound : resolveTokens tokens with
  | error failure =>
      rw [bound] at outcome
      cases outcome
  | ok placed =>
      rw [bound] at outcome
      refine ⟨placed, rfl, ?_⟩
      rw [Except.ok.inj outcome, List.map_map]
      rfl

namespace Resolver

variable {rest : List Token}

theorem runBefore_of_spell (resolver : Resolver) (spell : Spell tokens lexemes)
    (ends : opensGroup rest = false) :
    runBefore [] (resolver.mapSpans fun _ => default) (lexemes.map Lexeme.token) =
      mapOutcome (fun _ => default) (mapSpans fun _ => default) (runBefore rest resolver tokens) := by
  have same : (lexemes.map Lexeme.token).map Token.aspect = tokens.map Token.aspect := by
    rw [spell, List.map_map]
    rfl
  have corresponds : Corresponds (fun _ => default) tokens (lexemes.map Lexeme.token) := by
    have resemble := resemble_of_aspects same
    rw [List.forall₂_map_right_iff] at resemble
    rw [Corresponds, List.forall₂_map_right_iff]
    exact resemble.imp fun _ _ resembles => ⟨resembles, rfl⟩
  rw [← runBefore_mapSpans]
  refine runBefore_of_corresponds corresponds ?_ _
  rw [opensGroup_map_mapSpan, ends]
  rfl

end Resolver

end BindStream
