import Highlighter.Scan.Cursor
import Highlighter.Scan.Stream

/-! Scanning step by step: each step gives one token, and the state between two steps tells where
the scan stands. -/
namespace Highlighter

/-- A scan under way. -/
structure Scanner where
  definition : Definition
  emitWhitespace : Bool
  cursor : Cursor

namespace Scanner

def start (d : Definition) (b : Buffer) (offset : Nat) (emitWhitespace : Bool) : Scanner :=
  ⟨d, emitWhitespace, Cursor.placed b.chars offset (b.lineOf (min offset b.length))⟩

def offset (s : Scanner) : Nat := s.cursor.position

def line (s : Scanner) : Nat := s.cursor.line

/-- The next token of any kind, and the scan after it. -/
def step? (s : Scanner) : Option (Token × Scanner) :=
  match s.cursor.ahead with
  | [] => none
  | c :: rest =>
    let first := Scan.lexeme s.definition c rest
    some (⟨s.offset, first.more + 1, first.kind⟩,
      { s with cursor := s.cursor.advanceBy (first.more + 1) })

/-- The next token that the scan gives, found in at most `fuel` steps, and the scan after it. -/
def nextWithin : Nat → Scanner → Option Token × Scanner
  | 0, s => (none, s)
  | fuel + 1, s =>
    match s.step? with
    | none => (none, s)
    | some (t, after) =>
      if Scan.isGiven s.emitWhitespace t then (some t, after) else nextWithin fuel after

/-- The next token that the scan gives, and the scan after it; at the end there is none. Every step
takes a character at least, so there are no more steps than characters. -/
def next (s : Scanner) : Option Token × Scanner := nextWithin s.cursor.ahead.length s

/-- Up to `count` tokens, each with the scan after it. -/
def take : Nat → Scanner → List (Token × Scanner)
  | 0, _ => []
  | count + 1, s =>
    match s.next with
    | (none, _) => []
    | (some t, after) => (t, after) :: take count after

/-- All tokens from here on, each with the scan after it. -/
def rest (s : Scanner) : List (Token × Scanner) := take s.cursor.ahead.length s

end Scanner
end Highlighter
