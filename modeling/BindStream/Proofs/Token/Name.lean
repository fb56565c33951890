import BindStream.Proofs.Token.Word

namespace BindStream

open Text

/-! The words that statements are made of: keywords, names, operators and literals. -/

theorem Keyword.split_spelling (keyword : Keyword) :
    Piece.split keyword.spelling.toList =
      ([.token (.keyword keyword) keyword.spelling.toList], []) := by
  have words : ∀ k ∈ all,
      (k.spelling.toList.head?.any startsWord && k.spelling.toList.all inWord) = true := by
    decide +kernel
  obtain ⟨starts, within⟩ := Bool.and_eq_true_iff.mp (words keyword keyword.mem_all)
  have reserved := keyword.ofWord?_spelling
  cases spelled : keyword.spelling.toList with
  | nil =>
      rw [spelled] at starts
      cases starts
  | cons c s =>
      rw [spelled] at starts within reserved
      have rest : ∀ d ∈ s, inWord d = true := fun d member =>
        List.all_eq_true.mp within d (List.mem_cons_of_mem c member)
      rw [split_word starts rest, TokenKind.ofWord, reserved]

def Keyword.lexeme (keyword : Keyword) : Lexeme :=
  ⟨.keyword keyword, keyword.spelling.toList, keyword.split_spelling⟩

/-- The name of a column, a table or a function: a word that is not reserved, or any text in
backticks. -/
inductive Name
  | bare (first : Char) (rest : List Char) (starts : startsWord first = true)
      (within : ∀ c ∈ rest, inWord c = true) (free : Keyword.ofWord? (first :: rest) = none)
  | quoted (text : List Char)

namespace Name

/-- A word that can be evaluated to be a name. -/
def word (first : Char) (rest : List Char)
    (named : (startsWord first && rest.all inWord &&
      (Keyword.ofWord? (first :: rest)).isNone) = true) : Name :=
  have parts := Bool.and_eq_true_iff.mp named
  have chars := Bool.and_eq_true_iff.mp parts.1
  .bare first rest chars.1 (List.all_eq_true.mp chars.2) (Option.isNone_iff_eq_none.mp parts.2)

def kind : Name → TokenKind
  | bare _ _ _ _ _ => .identifier
  | quoted _ => .quotedIdentifier

def text : Name → List Char
  | bare first rest _ _ _ => first :: rest
  | quoted text => Text.quoted '`' text

theorem split_text (name : Name) :
    Piece.split name.text = ([.token name.kind name.text], []) := by
  cases name with
  | bare first rest starts within free =>
      rw [text, split_word starts within, TokenKind.ofWord, free]
      rfl
  | quoted text => exact split_quoted rfl text

def lexeme (name : Name) : Lexeme := ⟨name.kind, name.text, name.split_text⟩

def column : Name → String
  | bare first rest _ _ _ => String.ofList (upper (first :: rest))
  | quoted text => String.ofList (upper text)

theorem columnName_token (name : Name) :
    name.lexeme.token.columnName = some name.column := by
  cases name with
  | bare first rest starts within free =>
      change some (String.ofList (upper (String.ofList (first :: rest)).toList)) = _
      rw [String.toList_ofList]
      rfl
  | quoted text =>
      change some (String.ofList (upper (undouble '`'
        (Text.interior (String.ofList (Text.quoted '`' text)).toList)))) = _
      rw [String.toList_ofList, Text.interior, Text.quoted, List.tail_cons,
        List.dropLast_concat, undouble_double]
      rfl

end Name

structure Operator where
  lexeme : Lexeme
  isOperator : lexeme.kind = .operator

def Operator.equals : Operator := ⟨⟨.operator, ['='], Piece.split_of_tokenHead rfl rfl⟩, rfl⟩

def Operator.star : Operator := ⟨⟨.operator, ['*'], Piece.split_of_tokenHead rfl rfl⟩, rfl⟩

def Operator.dot : Operator := ⟨⟨.operator, ['.'], Piece.split_of_tokenHead rfl rfl⟩, rfl⟩

inductive Literal
  | quoted (delimiter : Char) (delimits : TokenKind.ofDelimiter? delimiter = some .quoted)
      (text : List Char)
  | number (lexeme : Lexeme) (isNumber : lexeme.kind = .number)
  | constant (keyword : Keyword) (named : keyword ∈ [Keyword.NULL, .TRUE, .FALSE])

def Literal.lexeme : Literal → Lexeme
  | quoted delimiter delimits text =>
    ⟨.quoted, Text.quoted delimiter text, split_quoted delimits text⟩
  | number lexeme _ => lexeme
  | constant keyword _ => keyword.lexeme

def commaSeparated : List (List Lexeme) → List Lexeme
  | [] => []
  | [item] => item
  | item :: next :: items => item ++ .comma :: commaSeparated (next :: items)

theorem mem_commaSeparated {items : List (List Lexeme)} {lexeme : Lexeme}
    (member : lexeme ∈ commaSeparated items) :
    lexeme = .comma ∨ ∃ item ∈ items, lexeme ∈ item := by
  fun_induction commaSeparated items with
  | case1 => cases member
  | case2 item => exact .inr ⟨item, List.mem_singleton_self item, member⟩
  | case3 item next items ih =>
      rcases List.mem_append.mp member with first | later
      · exact .inr ⟨item, List.mem_cons_self, first⟩
      · rcases List.mem_cons.mp later with same | later
        · exact .inl same
        · refine (ih later).imp_right fun ⟨other, listed, inside⟩ => ?_
          exact ⟨other, List.mem_cons_of_mem item listed, inside⟩

end BindStream
