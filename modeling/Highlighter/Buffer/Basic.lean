import Highlighter.Buffer.Cell
import Highlighter.Buffer.Lines
import Highlighter.Text.Quoted

/-! A decoded document: its characters, what was wrong with its bytes, and its lines. Making a
buffer never fails; only a request for characters or lines outside it can. -/
namespace Highlighter

/-- What was wrong with the bytes of one character: its offset, and the position of the bytes. -/
structure Issue where
  fault : Fault
  offset : Nat
  bytePos : Nat
deriving DecidableEq

/-- The issues of cells that begin at `offset` and `bytePos`. -/
def Issue.ofCells (offset bytePos : Nat) : List Cell → List Issue
  | [] => []
  | cell :: rest =>
    (cell.fault.map fun fault => ⟨fault, offset, bytePos⟩).toList ++
      ofCells (offset + 1) (bytePos + cell.bytes.length) rest

structure Buffer where
  name : String
  encoding : Encoding
  raw : List UInt8
  chars : List Char
  issues : List Issue

/-- Why characters or lines cannot be taken from a buffer. -/
inductive BufferError where
  | reversedRange (start stop : Nat)
  | outOfBounds (length start stop : Nat)
  | noSuchLine (line lineCount : Nat)
deriving DecidableEq, Repr

def BufferError.message : BufferError → String
  | reversedRange start stop => s!"Invalid range: start {start} > end {stop}"
  | outOfBounds length start stop =>
    s!"Range out of bounds: buffer has {length} characters, range is {start}..{stop}"
  | noSuchLine line lineCount =>
    s!"Invalid line number: {line} (buffer has {lineCount} lines)"

namespace Buffer

def decode (name : String) (encoding : Encoding) (raw : List UInt8) : Buffer :=
  let cells := encoding.decode raw
  { name, encoding, raw
    chars := cells.map Cell.char
    issues := Issue.ofCells 0 (encoding.markLength raw) cells }

def ofBytes (name : String) (raw : List UInt8) : Buffer :=
  decode name (Encoding.detect raw) raw

/-- A buffer of a text, which is taken through its bytes: a byte order mark at its beginning is
dropped. -/
def ofText (name : String) (cs : List Char) : Buffer :=
  decode name (if cs.all (·.toNat < 0x80) then .ascii else .utf8) (Text.Utf8.encode cs)

def length (b : Buffer) : Nat := b.chars.length

def isEmpty (b : Buffer) : Bool := b.chars.isEmpty

def charAt? (b : Buffer) (offset : Nat) : Option Char := b.chars[offset]?

def hasIssues (b : Buffer) : Bool := !b.issues.isEmpty

/-- The characters from `start` up to `stop`, when both lie in the buffer in this order. -/
def slice? (b : Buffer) (start stop : Nat) : Option (List Char) :=
  if start ≤ stop ∧ stop ≤ b.length then some ((b.chars.drop start).take (stop - start)) else none

/-- The characters from `start` up to `stop`, or which bound is wrong. -/
def extract (b : Buffer) (start stop : Nat) : Except BufferError (List Char) :=
  if start > stop then .error (.reversedRange start stop)
  else if stop > b.length then .error (.outOfBounds b.length start stop)
  else .ok ((b.chars.drop start).take (stop - start))

def lineStarts (b : Buffer) : List Nat := Lines.starts b.chars

def lineCount (b : Buffer) : Nat := b.lineStarts.length

def lineStart? (b : Buffer) (line : Nat) : Option Nat := b.lineStarts[line]?

/-- The line that holds an offset; offsets past the end belong to the last line. -/
def lineOf (b : Buffer) (offset : Nat) : Nat := Lines.lineAt b.lineStarts offset

/-- Line and column of an offset, both counted from 1. -/
def position (b : Buffer) (offset : Nat) : Nat × Nat :=
  let line := b.lineOf offset
  (line + 1, offset - (b.lineStart? line).getD 0 + 1)

/-- The offset after the line, its line end included. -/
def lineStop (b : Buffer) (line : Nat) : Nat := (b.lineStart? (line + 1)).getD b.length

/-- The offsets of a line without its line end. -/
def lineRange? (b : Buffer) (line : Nat) : Option (Nat × Nat) :=
  (b.lineStart? line).map fun start =>
    let line := (b.chars.drop start).take (b.lineStop line - start)
    (start, start + (line.reverse.dropWhile Lines.isBreak).length)

/-- The characters of a line without its line end. -/
def lineText? (b : Buffer) (line : Nat) : Option (List Char) :=
  (b.lineRange? line).map fun (start, stop) => (b.chars.drop start).take (stop - start)

/-- The offsets of the lines from `first` up to `last`, line ends included. -/
def linesRange (b : Buffer) (first last : Nat) : Except BufferError (Nat × Nat) :=
  if first > last then .error (.reversedRange first last)
  else match b.lineStart? first with
    | none => .error (.noSuchLine first b.lineCount)
    | some start => .ok (start, (b.lineStart? last).getD b.length)

def encodingWord : Encoding → String
  | .ascii => "Ascii"
  | .utf8 => "Utf8"
  | .utf16le => "Utf16Le"
  | .utf16be => "Utf16Be"

/-- The buffer in one line, without its contents. -/
def summary (b : Buffer) : String :=
  String.join ["Buffer \x7b name: ", Text.quoted b.name, ", encoding: ", encodingWord b.encoding,
    ", len: ", toString b.length, ", line_count: ", toString b.lineCount,
    ", encoding_issues: ", toString b.issues.length, " \x7d"]

end Buffer
end Highlighter
