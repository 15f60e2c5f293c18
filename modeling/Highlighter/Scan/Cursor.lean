import Highlighter.Buffer.Lines

/-! A cursor moves through characters and counts lines on its way. -/
namespace Highlighter

/-- A position in a text, with the characters from there on and the line it lies on. -/
structure Cursor where
  chars : List Char
  position : Nat
  line : Nat
  ahead : List Char
  ahead_eq : ahead = chars.drop position

namespace Cursor

/-- A cursor at a position on a given line; positions past the end stand for the end. -/
def placed (chars : List Char) (position line : Nat) : Cursor :=
  ⟨chars, min position chars.length, line, chars.drop (min position chars.length), rfl⟩

def start (chars : List Char) : Cursor := placed chars 0 0

def current? (c : Cursor) : Option Char := c.ahead.head?

def peek? (c : Cursor) (places : Nat) : Option Char := c.ahead[places]?

def isAtEnd (c : Cursor) : Bool := c.ahead.isEmpty

/-- The cursor one character on, or the same at the end. -/
def advance (c : Cursor) : Cursor :=
  match h : c.ahead with
  | [] => c
  | char :: rest =>
    { chars := c.chars
      position := c.position + 1
      line := if Lines.endsAfter char rest then c.line + 1 else c.line
      ahead := rest
      ahead_eq := by
        have tails := congrArg List.tail (h.symm.trans c.ahead_eq)
        simpa using tails }

/-- The cursor some characters on, or at the end. -/
def advanceBy (c : Cursor) : Nat → Cursor
  | 0 => c
  | n + 1 => c.advance.advanceBy n

/-- Whether the characters ahead spell a mark; nothing spells the empty mark. -/
def startsWith (c : Cursor) (mark : List Char) : Bool := !mark.isEmpty && mark.isPrefixOf c.ahead

/-- Whether `expected` was ahead, and the cursor after it if so. -/
def accept (c : Cursor) (expected : Char) : Bool × Cursor :=
  if c.current? = some expected then (true, c.advance) else (false, c)

/-- How many characters from here on satisfy `p`, and the cursor after them. -/
def skipWhile (c : Cursor) (p : Char → Bool) : Nat × Cursor :=
  let count := (c.ahead.takeWhile p).length
  (count, c.advanceBy count)

/-- The characters from an offset up to the cursor. -/
def sliceFrom (c : Cursor) (offset : Nat) : List Char := (c.chars.take c.position).drop offset

/-- Where a cursor has been. -/
structure Mark where
  position : Nat
  line : Nat
deriving DecidableEq, Repr

def mark (c : Cursor) : Mark := ⟨c.position, c.line⟩

def restore (c : Cursor) (m : Mark) : Cursor := placed c.chars m.position m.line

end Cursor
end Highlighter
