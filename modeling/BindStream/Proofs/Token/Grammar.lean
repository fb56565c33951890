import BindStream.Proofs.Token.Place
import BindStream.Proofs.Token.Word

namespace BindStream

open Text

/-! What the pieces of a text look like, and what may stand behind each: a text begins with the
piece that fits there, and with no other. -/

variable {c d q : Char} {s t u body gap text rest other : List Char} {kind : TokenKind}

/-- A run of blanks or one comment, with `rest` behind it. -/
inductive IsGap : List Char → List Char → Prop
  | blanks {gap rest : List Char} (filled : gap ≠ []) (blank : ∀ c ∈ gap, isBlank c = true)
      (ends : ∀ c ∈ rest.head?, isBlank c = false) : IsGap gap rest
  | line {body rest : List Char} (within : '\n' ∉ body) (ends : ∀ c ∈ rest.head?, c = '\n') :
      IsGap ('-' :: '-' :: body) rest
  | block {body rest : List Char} (first : ¬['*', '/'] <:+: body ++ ['*']) :
      IsGap ('/' :: '*' :: (body ++ ['*', '/'])) rest
  | unclosed {body : List Char} (never : ¬['*', '/'] <:+: body) : IsGap ('/' :: '*' :: body) []

inductive IsToken : TokenKind → List Char → List Char → Prop
  | mark {c : Char} {kind : TokenKind} {rest : List Char}
      (marks : TokenKind.ofMark? c = some kind) : IsToken kind [c] rest
  | quotation {q : Char} {kind : TokenKind} {inner rest : List Char}
      (delimits : TokenKind.ofDelimiter? q = some kind) (ends : rest.head? ≠ some q) :
      IsToken kind (quoted q inner) rest
  | number {c : Char} {tail rest : List Char} (digit : c.isDigit = true)
      (longest : numberTail (tail ++ rest) = (tail, rest)) : IsToken .number (c :: tail) rest
  | word {c : Char} {tail rest : List Char} (starts : startsWord c = true)
      (within : ∀ d ∈ tail, inWord d = true) (ends : ∀ d ∈ rest.head?, inWord d = false) :
      IsToken (.ofWord (c :: tail)) (c :: tail) rest
  | operator {c : Char} {tail rest : List Char} (noMark : TokenKind.ofMark? c = none)
      (noDelimiter : TokenKind.ofDelimiter? c = none) (noDigit : c.isDigit = false)
      (noWord : startsWord c = false) (noGap : gapHead c (tail ++ rest) = none)
      (longest : operatorTail c (tail ++ rest) = (tail, rest)) :
      IsToken .operator (c :: tail) rest

def Piece.Fits : Piece → List Char → Prop
  | .gap text, rest => IsGap text rest
  | .token kind text, rest => IsToken kind text rest

namespace Text

theorem eq_false_of_mem_head?_dropWhile {p : Char → Bool}
    (first : c ∈ (s.dropWhile p).head?) : p c = false := by
  have stops := List.head?_dropWhile_not p s
  rw [Option.mem_def.mp first] at stops
  exact stops

theorem takeWhile_append_of_ends {p : Char → Bool} (all : ∀ c ∈ s, p c = true)
    (ends : ∀ c ∈ t.head?, p c = false) : (s ++ t).takeWhile p = s := by
  rw [List.takeWhile_append_of_pos all]
  cases t with
  | nil => exact List.append_nil s
  | cons d t =>
      rw [List.takeWhile_cons_of_neg (Bool.eq_false_iff.mp (ends d rfl)), List.append_nil]

theorem dropWhile_append_of_ends {p : Char → Bool} (all : ∀ c ∈ s, p c = true)
    (ends : ∀ c ∈ t.head?, p c = false) : (s ++ t).dropWhile p = t := by
  rw [List.dropWhile_append_of_pos all]
  cases t with
  | nil => rfl
  | cons d t => exact List.dropWhile_cons_of_neg (Bool.eq_false_iff.mp (ends d rfl))

/-! Comments between `/*` and `*/`. -/

theorem ending_infix_cons :
    ['*', '/'] <:+: c :: s ↔ c = '*' ∧ s.head? = some '/' ∨ ['*', '/'] <:+: s := by
  rw [List.infix_cons_iff, List.cons_prefix_cons]
  cases s with
  | nil => simp
  | cons d s => simp [List.cons_prefix_cons, eq_comm]

theorem blockComment_cons (inside : ¬(c = '*' ∧ s.head? = some '/')) :
    blockComment (c :: s) = (c :: (blockComment s).1, (blockComment s).2) := by
  cases s with
  | nil => rfl
  | cons d s =>
      rw [List.head?_cons, Option.some.injEq] at inside
      exact if_neg inside

theorem head?_append_ending (body rest : List Char) :
    (body ++ '*' :: '/' :: rest).head? = (body ++ ['*']).head? := by
  cases body <;> rfl

theorem blockComment_of_first (first : ¬['*', '/'] <:+: body ++ ['*']) (rest : List Char) :
    blockComment (body ++ '*' :: '/' :: rest) = (body ++ ['*', '/'], rest) := by
  induction body with
  | nil => exact if_pos ⟨rfl, rfl⟩
  | cons c body ih =>
      rw [List.cons_append, ending_infix_cons, not_or] at first
      have inside : ¬(c = '*' ∧ (body ++ '*' :: '/' :: rest).head? = some '/') := by
        rw [head?_append_ending]
        exact first.1
      rw [List.cons_append, blockComment_cons inside, ih first.2]
      rfl

theorem blockComment_of_never (never : ¬['*', '/'] <:+: s) : blockComment s = (s, []) := by
  induction s with
  | nil => rfl
  | cons c s ih =>
      rw [ending_infix_cons, not_or] at never
      rw [blockComment_cons never.1, ih never.2]

theorem blockComment_cases (s : List Char) :
    (∃ body rest, s = body ++ '*' :: '/' :: rest ∧ ¬['*', '/'] <:+: body ++ ['*']) ∨
      ¬['*', '/'] <:+: s := by
  induction s with
  | nil => exact .inr (by simp)
  | cons c s ih =>
      by_cases here : c = '*' ∧ s.head? = some '/'
      · obtain ⟨rfl, slash⟩ := here
        obtain ⟨rest, rfl⟩ := List.head?_eq_some_iff.mp slash
        exact .inl ⟨[], rest, rfl, by decide⟩
      · rcases ih with ⟨body, rest, rfl, first⟩ | never
        · refine .inl ⟨c :: body, rest, rfl, ?_⟩
          rw [head?_append_ending] at here
          rw [List.cons_append, ending_infix_cons, not_or]
          exact ⟨here, first⟩
        · exact .inr (ending_infix_cons.not.mpr (not_or.mpr ⟨here, never⟩))

end Text

/-! Gaps. -/

theorem gapHead_eq (c : Char) (s : List Char) :
    gapHead c s =
      if c = '-' ∧ s.head? = some '-' then
        some ('-' :: '-' :: (lineComment s.tail).1, (lineComment s.tail).2)
      else if c = '/' ∧ s.head? = some '*' then
        some ('/' :: '*' :: (blockComment s.tail).1, (blockComment s.tail).2)
      else if isBlank c then some (c :: s.takeWhile isBlank, s.dropWhile isBlank)
      else none := by
  unfold gapHead
  split
  · simp
  · simp
  · next notLine notBlock =>
    have noLine : ¬(c = '-' ∧ s.head? = some '-') := by
      rintro ⟨here, follows⟩
      obtain ⟨rest, second⟩ := List.head?_eq_some_iff.mp follows
      exact notLine rest here second
    have noBlock : ¬(c = '/' ∧ s.head? = some '*') := by
      rintro ⟨here, follows⟩
      obtain ⟨rest, second⟩ := List.head?_eq_some_iff.mp follows
      exact notBlock rest here second
    rw [if_neg noLine, if_neg noBlock]

theorem gapHead_eq_none_iff :
    gapHead c s = none ↔
      isBlank c = false ∧ ¬(c = '-' ∧ s.head? = some '-') ∧ ¬(c = '/' ∧ s.head? = some '*') := by
  rw [gapHead_eq]
  split
  · next line => simp [line]
  · next noLine =>
    split
    · next block => simp [block]
    · next noBlock => simp [noLine, noBlock]

theorem gapHead_none_congr (same : s.head? = t.head?) :
    gapHead c s = none ↔ gapHead c t = none := by
  rw [gapHead_eq_none_iff, gapHead_eq_none_iff, same]

theorem gapHead_none_of_append (noGap : gapHead c (s ++ rest) = none) : gapHead c s = none := by
  cases s with
  | nil =>
      have solid := (gapHead_eq_none_iff.mp noGap).1
      exact gapHead_eq_none_iff.mpr ⟨solid, nofun, nofun⟩
  | cons d s =>
      refine (gapHead_none_congr ?_).mp noGap
      rfl

theorem IsGap.congr_head (fits : IsGap gap rest) (same : rest.head? = other.head?) :
    IsGap gap other := by
  cases fits with
  | blanks filled blank ends => exact .blanks filled blank (same ▸ ends)
  | line within ends => exact .line within (same ▸ ends)
  | block first => exact .block first
  | unclosed never =>
      have nothing : other = [] := List.head?_eq_none_iff.mp same.symm
      rw [nothing]
      exact .unclosed never

theorem IsGap.head (fits : IsGap (c :: gap) rest) :
    gapHead c (gap ++ rest) = some (c :: gap, rest) := by
  cases fits with
  | blanks filled blank ends =>
      have inside : ∀ d ∈ gap, isBlank d = true :=
        fun d member => blank d (List.mem_cons_of_mem c member)
      rw [gapHead_of_isBlank (blank c List.mem_cons_self), takeWhile_append_of_ends inside ends,
        dropWhile_append_of_ends inside ends]
  | @line body _ within ends =>
      have inside : ∀ d ∈ body, (d != '\n') = true := by
        intro d member
        rw [bne_iff_ne]
        rintro rfl
        exact within member
      have stops : ∀ d ∈ rest.head?, (d != '\n') = false := by
        intro d member
        rw [ends d member]
        rfl
      rw [List.cons_append, gapHead, lineComment, takeWhile_append_of_ends inside stops,
        dropWhile_append_of_ends inside stops]
  | block first =>
      rw [List.cons_append, List.append_assoc]
      simp only [gapHead, blockComment_of_first first, List.cons_append, List.nil_append]
  | unclosed never =>
      simp only [List.append_nil, gapHead, blockComment_of_never never]

theorem IsGap.filled (fits : IsGap gap rest) : gap ≠ [] := by
  cases fits with
  | blanks filled => exact filled
  | line | block | unclosed => exact List.cons_ne_nil _ _

theorem isGap_of_gapHead (headed : gapHead c s = some (gap, rest)) : IsGap gap rest := by
  unfold gapHead at headed
  split at headed
  · next s =>
      cases headed
      refine .line ?_ fun d first => ?_
      · intro member
        have inside := List.all_eq_true.mp (List.all_takeWhile (l := s)) _ member
        cases inside
      · have newline := eq_false_of_mem_head?_dropWhile first
        rwa [bne_eq_false_iff_eq] at newline
  · next s =>
      cases headed
      rcases blockComment_cases s with ⟨body, rest, rfl, first⟩ | never
      · rw [blockComment_of_first first]
        exact .block first
      · rw [blockComment_of_never never]
        exact .unclosed never
  · split at headed
    · next blank =>
        cases headed
        refine .blanks (List.cons_ne_nil _ _) ?_ fun d first => eq_false_of_mem_head?_dropWhile first
        intro d member
        rcases List.mem_cons.mp member with rfl | member
        · exact blank
        · exact List.all_eq_true.mp List.all_takeWhile d member
    · cases headed

theorem gapHead_eq_some_iff :
    gapHead c s = some (gap, rest) ↔ IsGap gap rest ∧ gap ++ rest = c :: s := by
  constructor
  · intro headed
    exact ⟨isGap_of_gapHead headed, (gapHead_append headed).1⟩
  · rintro ⟨fits, whole⟩
    obtain ⟨first, more, rfl⟩ := List.exists_cons_of_ne_nil fits.filled
    obtain ⟨rfl, rfl⟩ := List.cons.inj whole
    exact fits.head

/-! Tokens. -/

theorem gapHead_of_mark (marks : TokenKind.ofMark? c = some kind) : gapHead c s = none := by
  unfold TokenKind.ofMark? at marks
  split at marks
  case h_6 => cases marks
  all_goals rfl

theorem gapHead_of_isDigit (digit : c.isDigit = true) : gapHead c s = none := by
  refine gapHead_eq_none_iff.mpr ⟨isBlank_of_isDigit digit, ?_, ?_⟩
  all_goals
    rintro ⟨rfl, -⟩
    cases digit

theorem ofMark?_of_isDigit (digit : c.isDigit = true) : TokenKind.ofMark? c = none := by
  unfold TokenKind.ofMark?
  split
  case h_6 => rfl
  all_goals cases digit

theorem ofDelimiter?_of_isDigit (digit : c.isDigit = true) :
    TokenKind.ofDelimiter? c = none := by
  unfold TokenKind.ofDelimiter?
  split
  case h_4 => rfl
  all_goals cases digit

theorem IsToken.filled (fits : IsToken kind text rest) : text ≠ [] := by
  cases fits <;> exact List.cons_ne_nil _ _

theorem isToken_of_tokenHead (noGap : gapHead c s = none)
    (headed : tokenHead c s = some (kind, text, rest)) : IsToken kind text rest := by
  have whole := (tokenHead_append headed).1
  unfold tokenHead at headed
  split at headed
  · next marks =>
      cases headed
      exact .mark marks
  · next noMark =>
      split at headed
      · next delimits =>
          obtain ⟨⟨body, rest⟩, closed, same⟩ := Option.map_eq_some_iff.mp headed
          cases same
          obtain ⟨⟨inner, rfl⟩, ends⟩ := exists_double_of_closeQuote closed
          exact .quotation delimits ends
      · next noDelimiter =>
          split at headed
          · next digit =>
              cases headed
              exact .number digit (by rw [numberTail_append])
          · next noDigit =>
              split at headed
              · next starts =>
                  cases headed
                  exact .word starts (List.all_eq_true.mp List.all_takeWhile)
                    fun d first => eq_false_of_mem_head?_dropWhile first
              · next noWord =>
                  cases headed
                  refine .operator noMark noDelimiter (Bool.eq_false_iff.mpr noDigit)
                    (Bool.eq_false_iff.mpr noWord) ?_ ?_
                  · rwa [operatorTail_append]
                  · rw [operatorTail_append]

theorem IsToken.gapHead (fits : IsToken kind (c :: text) rest) :
    gapHead c (text ++ rest) = none := by
  cases fits with
  | mark marks => exact gapHead_of_mark marks
  | quotation delimits ends => exact gapHead_of_delimiter delimits
  | number digit longest => exact gapHead_of_isDigit digit
  | word starts within ends => exact gapHead_of_startsWord starts
  | operator noMark noDelimiter noDigit noWord noGap longest => exact noGap

theorem IsToken.head (fits : IsToken kind (c :: text) rest) :
    tokenHead c (text ++ rest) = some (kind, c :: text, rest) := by
  unfold tokenHead
  cases fits with
  | mark marks =>
      rw [marks]
      rfl
  | @quotation _ _ inner _ delimits ends =>
      rw [ofMark?_of_delimiter delimits, delimits, List.append_assoc, List.singleton_append,
        closeQuote_double ends]
      rfl
  | number digit longest =>
      rw [ofMark?_of_isDigit digit, ofDelimiter?_of_isDigit digit, digit, longest]
      rfl
  | word starts within ends =>
      rw [ofMark?_of_startsWord starts, ofDelimiter?_of_startsWord starts,
        isDigit_of_startsWord starts, starts, takeWhile_append_of_ends within ends,
        dropWhile_append_of_ends within ends]
      rfl
  | operator noMark noDelimiter noDigit noWord noGap longest =>
      rw [noMark, noDelimiter, noDigit, noWord, longest]
      rfl

/-! Of all tokens, a question mark by itself is the marker. -/

theorem eq_of_ofMark?_marker (marks : TokenKind.ofMark? c = some .marker) : c = '?' := by
  unfold TokenKind.ofMark? at marks
  split at marks
  case h_1 => rfl
  all_goals cases marks

theorem ne_marker_of_ofDelimiter? (delimits : TokenKind.ofDelimiter? c = some kind) :
    kind ≠ .marker := by
  rintro rfl
  unfold TokenKind.ofDelimiter? at delimits
  split at delimits <;> cases delimits

theorem ofWord_ne_marker (word : List Char) : TokenKind.ofWord word ≠ .marker := by
  unfold TokenKind.ofWord
  split <;> exact nofun

theorem IsToken.text_of_marker (fits : IsToken .marker text rest) : text = ['?'] := by
  generalize marked : TokenKind.marker = kind at fits
  cases fits with
  | mark marks =>
      subst marked
      rw [eq_of_ofMark?_marker marks]
  | quotation delimits => exact absurd marked.symm (ne_marker_of_ofDelimiter? delimits)
  | number | operator => cases marked
  | word => exact absurd marked.symm (ofWord_ne_marker _)

namespace Piece

variable {piece : Piece}

theorem head_eq_some_iff :
    head c s = some (piece, rest) ↔ piece.Fits rest ∧ piece.text ++ rest = c :: s := by
  constructor
  · intro headed
    refine ⟨?_, (head_append headed).1⟩
    unfold head at headed
    split at headed
    · next gap =>
        cases headed
        exact isGap_of_gapHead gap
    · next noGap =>
        obtain ⟨⟨kind, text, rest⟩, token, same⟩ := Option.map_eq_some_iff.mp headed
        cases same
        exact isToken_of_tokenHead noGap token
  · rintro ⟨fits, whole⟩
    cases piece with
    | gap gap => rw [head, gapHead_eq_some_iff.mpr ⟨fits, whole⟩]
    | token kind text =>
        have filled : text ≠ [] := IsToken.filled fits
        obtain ⟨first, more, rfl⟩ := List.exists_cons_of_ne_nil filled
        have whole : first :: (more ++ rest) = c :: s := whole
        obtain ⟨rfl, rfl⟩ := List.cons.inj whole
        rw [head, IsToken.gapHead fits, IsToken.head fits]
        rfl

/-- Only a quoted text without its end begins with no piece. -/
theorem closeQuote_of_head_none (unheaded : head c s = none) :
    ∃ kind, TokenKind.ofDelimiter? c = some kind ∧ closeQuote c s = none := by
  unfold head at unheaded
  split at unheaded
  · cases unheaded
  · have noToken := Option.map_eq_none_iff.mp unheaded
    unfold tokenHead at noToken
    split at noToken
    · cases noToken
    · split at noToken
      · next kind delimits => exact ⟨kind, delimits, Option.map_eq_none_iff.mp noToken⟩
      · split at noToken
        · cases noToken
        · split at noToken <;> cases noToken

theorem Fits.filled (fits : piece.Fits rest) : piece.text ≠ [] := by
  cases piece with
  | gap gap => exact IsGap.filled fits
  | token kind text => exact IsToken.filled fits

theorem Fits.split (fits : piece.Fits rest) :
    Piece.split (piece.text ++ rest) =
      (piece :: (Piece.split rest).1, (Piece.split rest).2) := by
  obtain ⟨c, s, text⟩ := List.exists_cons_of_ne_nil fits.filled
  have headed : head c (s ++ rest) = some (piece, rest) :=
    head_eq_some_iff.mpr ⟨fits, by rw [text]; rfl⟩
  rw [text]
  exact split_of_head headed

theorem exists_fits_of_mem_split : ∀ piece ∈ (Piece.split s).1, ∃ rest, piece.Fits rest :=
  forall_mem_split (fun headed => ⟨_, (head_eq_some_iff.mp headed).1⟩) s

/-- The first piece of a text fits what follows it, and the other pieces are read of that. -/
theorem exists_of_split_cons {pieces : List Piece} {unread : List Char}
    (splits : Piece.split s = (piece :: pieces, unread)) :
    ∃ rest, s = piece.text ++ rest ∧ piece.Fits rest ∧ Piece.split rest = (pieces, unread) := by
  cases s with
  | nil =>
      rw [split_nil] at splits
      cases splits
  | cons c s =>
      cases headed : head c s with
      | none =>
          rw [split_of_head_none headed] at splits
          cases splits
      | some cut =>
          obtain ⟨first, rest⟩ := cut
          rw [split_of_head headed] at splits
          cases splits
          obtain ⟨fits, whole⟩ := head_eq_some_iff.mp headed
          exact ⟨rest, whole.symm, fits, rfl⟩

end Piece

/-! What stands behind a character that ends words, numbers and operators decides nothing before
it. -/

theorem stops_of_delimiter (delimits : TokenKind.ofDelimiter? q = some kind) : Stops q := by
  unfold TokenKind.ofDelimiter? at delimits
  split at delimits
  case h_4 => cases delimits
  all_goals decide

theorem head?_append_cons (u : List Char) (d : Char) (t s : List Char) :
    (u ++ d :: t).head? = (u ++ d :: s).head? := by
  cases u <;> rfl

theorem IsToken.congr_stop (stops : Stops d) (fits : IsToken kind text (u ++ d :: t))
    (s : List Char) : IsToken kind text (u ++ d :: s) := by
  cases fits with
  | mark marks => exact .mark marks
  | quotation delimits ends =>
      exact .quotation delimits (head?_append_cons u d t s ▸ ends)
  | @number c tail _ digit longest =>
      refine .number digit ?_
      rw [← List.append_assoc, numberTail_append_stop stops, Prod.mk.injEq] at longest ⊢
      exact ⟨longest.1, congrArg (· ++ d :: s) (List.append_cancel_right longest.2)⟩
  | word starts within ends =>
      exact .word starts within (head?_append_cons u d t s ▸ ends)
  | @operator c tail _ noMark noDelimiter noDigit noWord noGap longest =>
      refine .operator noMark noDelimiter noDigit noWord ?_ ?_
      · rw [← List.append_assoc] at noGap ⊢
        exact (gapHead_none_congr (head?_append_cons _ d t s)).mp noGap
      · rw [← List.append_assoc, operatorTail_append_stop stops, Prod.mk.injEq] at longest ⊢
        exact ⟨longest.1, congrArg (· ++ d :: s) (List.append_cancel_right longest.2)⟩

theorem Piece.Fits.congr_stop {piece : Piece} (stops : Stops d)
    (fits : piece.Fits (u ++ d :: t)) (s : List Char) : piece.Fits (u ++ d :: s) := by
  cases piece with
  | gap gap => exact IsGap.congr_head fits (head?_append_cons u d t s)
  | token kind text => exact IsToken.congr_stop stops fits s

end BindStream
