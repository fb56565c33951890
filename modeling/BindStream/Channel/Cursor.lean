import BindStream.Channel.Basic

namespace BindStream

/-! A consumer's view of a channel with one row of look-ahead. -/

structure Cursor (ρ : Type) where
  lookahead : Option ρ
  deriving DecidableEq, Repr

inductive Cursor.Query
  | hasNext (within : Option Nat)
  | peek
  | next
  | nextRow
  deriving DecidableEq, Repr

/-- What a cursor answers: a flag, a row or none, or why there is none. -/
inductive Cursor.Answer (ρ : Type)
  | flag (flag : Bool)
  | row (row : Option ρ)
  | failed (cause : ChannelError)
  deriving DecidableEq, Repr

namespace Cursor

variable {ρ : Type}

def empty : Cursor ρ := ⟨none⟩

def isBuffered (cursor : Cursor ρ) : Bool := cursor.lookahead.isSome

/-- The answer from a row at hand, and the cursor after it: the row stays for the query that
follows, or is handed out. -/
def present (row : ρ) : Query → Answer ρ × Cursor ρ
  | .hasNext _ => (.flag true, ⟨some row⟩)
  | .peek => (.row (some row), ⟨some row⟩)
  | .next => (.row (some row), ⟨none⟩)
  | .nextRow => (.row (some row), ⟨none⟩)

/-- The answer when no row could be taken. A cancelled channel is the end of the rows. -/
def miss (cause : ChannelError) : Query → Answer ρ
  | .hasNext none => .flag false
  | .hasNext (some _) =>
    match cause with
    | .cancelled => .flag false
    | .timedOut => .failed .timedOut
  | .peek => .row none
  | .next => .row none
  | .nextRow => .failed cause

/-- The answer of a cursor that holds a row; the others have to ask the channel. -/
def answer? (cursor : Cursor ρ) (query : Query) : Option (Answer ρ × Cursor ρ) :=
  cursor.lookahead.map fun row => present row query

def request : Query → Request ρ
  | .hasNext within => .take within
  | _ => .take none

/-- The answer of a cursor without a row, from the channel's reply to its request. -/
def receive (query : Query) : Reply ρ → Answer ρ × Cursor ρ
  | .row row => present row query
  | .failed cause => (miss cause query, empty)
  | _ => (miss .cancelled query, empty)

end Cursor

end BindStream
