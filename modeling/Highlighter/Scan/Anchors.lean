import Highlighter.Scan.Stream

/-! Restart points. A scan may begin at the start of any token; for every line the anchor is the
start of the token that holds the first character of the line, so a part of a text is scanned
without all that stands before it. -/
namespace Highlighter

/-- The restart points of a buffer that is scanned with a definition. -/
structure Anchors where
  /-- The anchor of each line. -/
  anchors : List Nat
  /-- The offset of the first character of each line. -/
  lineStarts : List Nat
deriving DecidableEq, Repr

namespace Anchors

/-- The anchors of lines that begin at `starts`, in a text with these tokens. A line that begins at
the end of the text has no token and is its own anchor. -/
def ofTokens : List Token → List Nat → List Nat
  | _, [] => []
  | [], starts => starts
  | t :: ts, start :: starts =>
    if start < t.stop then t.start :: ofTokens (t :: ts) starts else ofTokens ts (start :: starts)
termination_by ts starts => ts.length + starts.length

def build (d : Definition) (b : Buffer) : Anchors :=
  ⟨ofTokens (Scan.tokens d b 0 true) b.lineStarts, b.lineStarts⟩

def forLine? (a : Anchors) (line : Nat) : Option Nat := a.anchors[line]?

/-- A restart point at or before an offset. -/
def forOffset (a : Anchors) (offset : Nat) : Nat :=
  (a.anchors[Lines.lineAt a.lineStarts offset]?).getD 0

/-- Whether a line begins inside of a token. -/
def isContinuation (a : Anchors) (line : Nat) : Bool :=
  match a.anchors[line]?, a.lineStarts[line]? with
  | some anchor, some start => anchor < start
  | _, _ => false

/-- The tokens that share a character with the range from `start` up to `stop`. -/
def tokensInRange (a : Anchors) (d : Definition) (b : Buffer) (start stop : Nat)
    (emitWhitespace : Bool) : List Token :=
  if start < stop then
    ((Scan.tokens d b (a.forOffset start) emitWhitespace).dropWhile (·.stop ≤ start)).takeWhile
      (·.start < stop)
  else []

/-- The tokens that share a character with the lines from `first` up to `last`. -/
def tokensInLines (a : Anchors) (d : Definition) (b : Buffer) (first last : Nat)
    (emitWhitespace : Bool) : Except BufferError (List Token) := do
  let (start, stop) ← b.linesRange first last
  return a.tokensInRange d b start stop emitWhitespace

end Anchors
end Highlighter
