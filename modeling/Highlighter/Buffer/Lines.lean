/-! Lines of a text. A line ends after a line feed, after a carriage return, or after both in this
order, and the text after the last line end is a line too, so there is always one more line than
there are line ends. -/
namespace Highlighter.Lines

def isBreak (c : Char) : Bool := c = '\n' || c = '\r'

/-- Whether a line ends after `c` when `rest` follows. -/
def endsAfter (c : Char) (rest : List Char) : Bool :=
  c = '\n' || (c = '\r' && rest.head? != some '\n')

/-- The offsets after the line ends of a text that begins at `offset`. -/
def startsAfter (offset : Nat) : List Char → List Nat
  | [] => []
  | c :: rest =>
    if endsAfter c rest then (offset + 1) :: startsAfter (offset + 1) rest
    else startsAfter (offset + 1) rest

def starts (cs : List Char) : List Nat := 0 :: startsAfter 0 cs

/-- The line that holds an offset, counted from 0: the last one that starts at or before it. -/
def lineAt (starts : List Nat) (offset : Nat) : Nat :=
  (starts.takeWhile (· ≤ offset)).length - 1

end Highlighter.Lines
