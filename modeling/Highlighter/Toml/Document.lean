import Highlighter.Toml.Quoted
import Highlighter.Toml.Scalar
import Highlighter.Toml.Table

/-! Reading TOML documents. -/
namespace Highlighter.Toml

/-- A reading step: it takes characters from the front of the text that is left. -/
abbrev Reader (α : Type) := StateT (List Char) (Except Fault) α

namespace Reader

def fail {α : Type} : Reader α := fun cs => .error (.malformed cs.length)

/-- A step that may find nothing it can read. -/
def ofOption {α : Type} (step : List Char → Option (α × List Char)) : Reader α := fun cs =>
  match step cs with
  | some (a, rest) => .ok (a, rest)
  | none => .error (.malformed cs.length)

def next? : Reader (Option Char) := return (← get).head?

def takeWhile (p : Char → Bool) : Reader (List Char) := fun cs =>
  .ok (cs.takeWhile p, cs.dropWhile p)

def skipSpaces : Reader Unit := discard (takeWhile isSpace)

def expect (text : List Char) : Reader Unit := fun cs =>
  if text.isPrefixOf cs then .ok ((), cs.drop text.length) else .error (.malformed cs.length)

/-- The text after a line end, when it begins with one. -/
def afterLineEnd? : List Char → Option (List Char)
  | '\n' :: rest => some rest
  | '\r' :: '\n' :: rest => some rest
  | _ => none

/-- Takes the rest of a line on which only a comment may stand. -/
def endLine : Reader Unit := do
  skipSpaces
  if (← next?) = some '#' then discard (takeWhile isTextChar)
  let cs ← get
  match afterLineEnd? cs with
  | some rest => set rest
  | none => if cs.isEmpty then return else fail

/-- The text after blanks, line ends and comments, of which there are at most `fuel`. -/
def dropGaps : Nat → List Char → List Char
  | 0, cs => cs
  | fuel + 1, cs =>
    match cs with
    | '#' :: rest => dropGaps fuel (rest.dropWhile isTextChar)
    | c :: rest =>
      if isSpace c then dropGaps fuel rest
      else match afterLineEnd? cs with
        | some rest => dropGaps fuel rest
        | none => cs
    | [] => []

def skipGaps : Reader Unit := modify fun cs => dropGaps cs.length cs

def isBareKeyChar (c : Char) : Bool := c.isAlphanum || c = '_' || c = '-'

def simpleKey : Reader String := do
  match ← next? with
  | some '\x22' | some '\x27' => return String.ofList (← ofOption string?)
  | _ =>
    let name ← takeWhile isBareKeyChar
    if name.isEmpty then fail else return String.ofList name

/-- One more than the number of keys that dots can join, and of values that can hold each other. -/
def nestingLimit : Nat := 80

/-- At most `room` keys joined by dots, with blanks around each. -/
def keys : Nat → Reader (List String)
  | 0 => fail
  | room + 1 => do
    skipSpaces
    let key ← simpleKey
    skipSpaces
    if (← next?) = some '.' then
      expect ['.']
      return key :: (← keys room)
    else return [key]

def keyPath : Reader (List String) := keys (nestingLimit - 1)

/-- At most `fuel` items with commas between them, up to the character `stop`. A comma after the
last item is allowed only where line ends are. -/
def items {α : Type} (stop : Char) (trailing : Bool) (skip : Reader Unit) (item : Reader α) :
    Nat → Reader (List α)
  | 0 => fail
  | fuel + 1 => do
    skip
    if (← next?) = some stop then
      expect [stop]
      return []
    let first ← item
    skip
    if (← next?) = some ',' then
      expect [',']
      skip
      if !trailing && (← next?) = some stop then fail
      else return first :: (← items stop trailing skip item fuel)
    else
      expect [stop]
      return [first]

/-- A value, in which other values stand at most `depth` deep. -/
def value (depth : Nat) : Reader Value := do
  match ← next? with
  | some '\x22' | some '\x27' => return .string (String.ofList (← ofOption anyString?))
  | some '[' =>
    match depth with
    | 0 => fail
    | depth + 1 =>
      expect ['[']
      return .array (← items ']' true skipGaps (value depth) ((← get).length + 1))
  | some '\x7b' =>
    match depth with
    | 0 => fail
    | depth + 1 =>
      expect ['\x7b']
      let entry : Reader (List String × Value) := do
        let path ← keyPath
        expect ['=']
        skipSpaces
        return (path, ← value depth)
      let pairs ← items '\x7d' false skipSpaces entry ((← get).length + 1)
      let entries ← pairs.foldlM
        (fun entries (path, v) => assign entries path.dropLast (path.getLast?.getD "") v) []
      return .table .braces entries
  | _ =>
    let run ← takeWhile isScalarChar
    match scalar? run with
    | none => fail
    | some (.datetime date) =>
      -- A blank may stand between a date and a time.
      let cs ← get
      let time := (cs.drop 1).takeWhile isScalarChar
      if cs.head? = some ' ' && (afterDate? run).any List.isEmpty && isTimeWithOffset time then
        set (cs.drop (1 + time.length))
        return .datetime (date ++ " " ++ String.ofList time)
      else return .datetime date
    | some v => return v

/-- A key with its value, up to the end of the line. -/
def assignment : Reader (List String × Value) := do
  let path ← keyPath
  expect ['=']
  skipSpaces
  let v ← value (nestingLimit - 1)
  endLine
  return (path, v)

/-- The rest of a document. Every line takes a character at least, so `fuel` suffices when it is the
number of characters. -/
def sections : Nat → Section → Entries → Reader Entries
  | 0, s, root => liftM (s.close root)
  | fuel + 1, s, root => do
    skipSpaces
    match ← next? with
    | none => liftM (s.close root)
    | some '#' | some '\n' | some '\r' =>
      endLine
      sections fuel s root
    | some '[' =>
      let isRow := (← get).take 2 = ['[', '[']
      let brackets := if isRow then 2 else 1
      expect (List.replicate brackets '[')
      let path ← keyPath
      expect (List.replicate brackets ']')
      endLine
      let root ← liftM (s.close root)
      let (s, root) ← liftM
        (if isRow then Section.openRow root path else Section.openTable root path)
      sections fuel s root
    | some _ =>
      let (path, v) ← assignment
      let entries ← liftM (assign s.entries path.dropLast (path.getLast?.getD "") v)
      sections fuel { s with entries } root

end Reader

/-- The entries of a document. A byte order mark may stand in front of it. -/
def parse (text : String) : Except Fault Entries :=
  let cs := match text.toList with
    | c :: rest => if c.toNat = 0xfeff then rest else c :: rest
    | [] => []
  (·.1) <$> (Reader.sections cs.length ⟨[], false, []⟩ []).run cs

end Highlighter.Toml
