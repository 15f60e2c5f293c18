import Highlighter.Catalog.Basic
import Highlighter.Console.Error
import Highlighter.Scan.Anchors

/-! What part of a file a command is about, and in which language the file is. -/
namespace Highlighter.Console

/-- The definition for a file. A language that is asked for is an extension or else a name. -/
def selectLanguage (c : Catalog) (files : FileStore) (path : String) (language : Option String) :
    Catalog.Shared × Catalog :=
  match language with
  | none => c.resolvePath files path
  | some language =>
    let (shared, c) := c.resolve files language
    if shared.definition.isPlainText then c.byName files language else (shared, c)

/-- The number of a line in a selection, counted from 1; a part without a number has none. -/
def lineNumber? (part : List Char) : Except LineRangeFault (Option Nat) :=
  let part := Text.trim part
  if part.isEmpty then .ok none
  else match Text.decimal? Text.limit64 part with
    | none => .error .notNumber
    | some 0 => .error .zero
    | some n => .ok (some n)

/-- The lines from a first to a last one, counted from 1, as a range that is counted from 0. -/
def linesBetween (first last : Nat) : Except LineRangeFault (Nat × Nat) :=
  if first > last then .error .reversed else .ok (first - 1, last)

/-- The lines that a selection names: one line, or a first and a last one with a colon between them.
A missing first line is the first of all, and a missing last line is past every line. -/
def readLineRange (text : List Char) : Except LineRangeFault (Nat × Nat) := do
  match Text.cut? ':' text with
  | some (first, last) =>
    let first ← lineNumber? first
    let last ← lineNumber? last
    linesBetween (first.getD 1) (last.getD (Text.limit64 - 1))
  | none =>
    match ← lineNumber? text with
    | some line => linesBetween line line
    | none => throw .empty

def parseLineRange (text : String) : Except CommandError (Nat × Nat) :=
  (readLineRange text.toList).mapError (.badLineRange text)

/-- The lines that a command is about, if it is not about all of them. -/
def parseLines (lines : Option String) : Except CommandError (Option (Nat × Nat)) :=
  lines.mapM parseLineRange

/-- The tokens of the selected lines, and the offsets of these lines. The first and the last token
may reach beyond them. -/
def collectTokens (b : Buffer) (d : Definition) (lines : Option (Nat × Nat))
    (emitWhitespace : Bool) : Except CommandError (List Token × (Nat × Nat)) :=
  match lines with
  | none => .ok (Scan.tokens d b 0 emitWhitespace, (0, b.length))
  | some (first, last) =>
    match b.linesRange first (min last b.lineCount) with
    | .error error => .error (.buffer error)
    | .ok (start, stop) =>
      .ok ((Anchors.build d b).tokensInRange d b start stop emitWhitespace, (start, stop))

end Highlighter.Console
