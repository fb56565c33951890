namespace BindStream

/-! The reserved words, which never name a column. -/

/-- The reserved words of a statement, spelled as in the language. -/
inductive Keyword
  | SELECT | INSERT | INTO | UPDATE | DELETE
  | FROM | WHERE | VALUES | SET | LIMIT | OFFSET | ORDER | GROUP | BY | HAVING
  | JOIN | INNER | LEFT | RIGHT | OUTER | CROSS | ON | USING | RETURNING | UNION | DISTINCT
  | AS | ASC | DESC
  | AND | OR | NOT | IN | BETWEEN | LIKE | IS | NULL | TRUE | FALSE | EXISTS
  | CASE | WHEN | THEN | ELSE | END
  deriving DecidableEq, Repr

namespace Keyword

def all : List Keyword := [
  SELECT, INSERT, INTO, UPDATE, DELETE,
  FROM, WHERE, VALUES, SET, LIMIT, OFFSET, ORDER, GROUP, BY, HAVING,
  JOIN, INNER, LEFT, RIGHT, OUTER, CROSS, ON, USING, RETURNING, UNION, DISTINCT,
  AS, ASC, DESC,
  AND, OR, NOT, IN, BETWEEN, LIKE, IS, NULL, TRUE, FALSE, EXISTS,
  CASE, WHEN, THEN, ELSE, END]

def spelling : Keyword → String
  | SELECT => "SELECT"
  | INSERT => "INSERT"
  | INTO => "INTO"
  | UPDATE => "UPDATE"
  | DELETE => "DELETE"
  | FROM => "FROM"
  | WHERE => "WHERE"
  | VALUES => "VALUES"
  | SET => "SET"
  | LIMIT => "LIMIT"
  | OFFSET => "OFFSET"
  | ORDER => "ORDER"
  | GROUP => "GROUP"
  | BY => "BY"
  | HAVING => "HAVING"
  | JOIN => "JOIN"
  | INNER => "INNER"
  | LEFT => "LEFT"
  | RIGHT => "RIGHT"
  | OUTER => "OUTER"
  | CROSS => "CROSS"
  | ON => "ON"
  | USING => "USING"
  | RETURNING => "RETURNING"
  | UNION => "UNION"
  | DISTINCT => "DISTINCT"
  | AS => "AS"
  | ASC => "ASC"
  | DESC => "DESC"
  | AND => "AND"
  | OR => "OR"
  | NOT => "NOT"
  | IN => "IN"
  | BETWEEN => "BETWEEN"
  | LIKE => "LIKE"
  | IS => "IS"
  | NULL => "NULL"
  | TRUE => "TRUE"
  | FALSE => "FALSE"
  | EXISTS => "EXISTS"
  | CASE => "CASE"
  | WHEN => "WHEN"
  | THEN => "THEN"
  | ELSE => "ELSE"
  | END => "END"

/-- The keyword that a word spells in ASCII letters of either case. -/
def ofWord? (word : List Char) : Option Keyword :=
  all.find? fun keyword => keyword.spelling.toList == word.map Char.toUpper

/-- Whether the keyword starts a clause; no marker looks for its column behind one. -/
def opensClause : Keyword → Bool
  | SELECT | FROM | WHERE | VALUES | SET | LIMIT | OFFSET | ORDER | GROUP | HAVING | ON | USING
  | RETURNING | UNION | WHEN | THEN | ELSE => true
  | _ => false

def index (keyword : Keyword) : Nat := all.idxOf keyword

theorem mem_all (keyword : Keyword) : keyword ∈ all := by
  cases keyword <;> decide

theorem ofWord?_spelling (keyword : Keyword) :
    ofWord? keyword.spelling.toList = some keyword := by
  have listed : ∀ k ∈ all, ofWord? k.spelling.toList = some k := by decide +kernel
  exact listed keyword keyword.mem_all

end Keyword

end BindStream
