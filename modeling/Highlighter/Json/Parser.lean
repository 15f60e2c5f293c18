import Highlighter.Json.Value

/-! Reading JSON. -/
namespace Highlighter.Json

def isSpace (c : Char) : Bool := c = ' ' || c = '\t' || c = '\n' || c = '\r'

def skipSpaces (cs : List Char) : List Char := cs.dropWhile isSpace

/-- The number of four hexadecimal digits, and the text after them. -/
def unit? : List Char → Option (Nat × List Char)
  | a :: b :: c :: d :: rest => (Text.hexValue? 0 [a, b, c, d]).map (·, rest)
  | _ => none

def escapeOf? (c : Char) : Option Char :=
  if c = '\x22' || c = '\\' || c = '/' then some c
  else if c = 'b' then some '\x08'
  else if c = 'f' then some '\x0c'
  else if c = 'n' then some '\n'
  else if c = 'r' then some '\r'
  else if c = 't' then some '\t'
  else none

/-- The codes of the characters of a string up to its closing quote, and the text after it. Escaped
surrogates are codes of their own. -/
def codes? : Nat → List Char → Option (List Nat × List Char)
  | 0, _ => none
  | _ + 1, [] => none
  | fuel + 1, c :: rest =>
    let go (code : Nat) (rest : List Char) : Option (List Nat × List Char) :=
      (codes? fuel rest).map fun (codes, rest) => (code :: codes, rest)
    if c = '\x22' then some ([], rest)
    else if c.toNat < 0x20 then none
    else if c != '\\' then go c.toNat rest
    else match rest with
      | [] => none
      | 'u' :: digits => (unit? digits).bind fun (code, rest) => go code rest
      | e :: rest => (escapeOf? e).bind fun char => go char.toNat rest

/-- The characters of codes, in which surrogates stand in pairs. -/
def charsOf? : List Nat → Option (List Char)
  | [] => some []
  | high :: low :: rest =>
    if 0xd800 ≤ high && high < 0xdc00 then
      if 0xdc00 ≤ low && low < 0xe000 then
        (charsOf? rest).map
          (Char.ofNat (0x10000 + (high - 0xd800) * 0x400 + (low - 0xdc00)) :: ·)
      else none
    else (Text.charOfCode? high).bind fun c => (charsOf? (low :: rest)).map (c :: ·)
  | [code] => (Text.charOfCode? code).map ([·])

/-- A string after its opening quote, and the text after it. -/
def string? (cs : List Char) : Option (Option String × List Char) :=
  (codes? (cs.length + 1) cs).map fun (codes, rest) => ((charsOf? codes).map String.ofList, rest)

def digits? (cs : List Char) : Option (List Char × List Char) :=
  let run := cs.takeWhile Char.isDigit
  if run.isEmpty then none else some (run, cs.drop run.length)

def afterNumber? (cs : List Char) : Option (List Char) := do
  let cs := match cs with
    | '-' :: rest => rest
    | cs => cs
  let rest ← match cs with
    | '0' :: rest => some rest
    | cs => (digits? cs).map (·.2)
  let rest ← match rest with
    | '.' :: rest => (digits? rest).map (·.2)
    | rest => some rest
  match rest with
  | e :: rest' =>
    if e = 'e' || e = 'E' then
      let unsigned := match rest' with
        | '+' :: r => r
        | '-' :: r => r
        | r => r
      (digits? unsigned).map (·.2)
    else some rest
  | [] => some []

def afterWord? (word : String) (cs : List Char) : Option (List Char) :=
  if word.toList.isPrefixOf cs then some (cs.drop word.length) else none

mutual

/-- A value, and the text after it. -/
def value? : Nat → List Char → Option (Value × List Char)
  | 0, _ => none
  | fuel + 1, cs =>
    match skipSpaces cs with
    | '\x22' :: rest => (string? rest).map fun (text, rest) => (.string text, rest)
    | '[' :: rest =>
      match skipSpaces rest with
      | ']' :: rest => some (.array [], rest)
      | rest => (items? fuel rest).map fun (items, rest) => (.array items, rest)
    | '\x7b' :: rest =>
      match skipSpaces rest with
      | '\x7d' :: rest => some (.object [], rest)
      | rest => (members? fuel rest).map fun (members, rest) => (.object members, rest)
    | 'n' :: rest => (afterWord? "ull" rest).map (.null, ·)
    | 't' :: rest => (afterWord? "rue" rest).map (.boolean true, ·)
    | 'f' :: rest => (afterWord? "alse" rest).map (.boolean false, ·)
    | cs => (afterNumber? cs).map fun rest => (.number (cs.take (cs.length - rest.length)), rest)

/-- The items of an array from a first one on, and the text after its bracket. -/
def items? : Nat → List Char → Option (List Value × List Char)
  | 0, _ => none
  | fuel + 1, cs => do
    let (item, rest) ← value? fuel cs
    match skipSpaces rest with
    | ',' :: rest => (items? fuel rest).map fun (items, rest) => (item :: items, rest)
    | ']' :: rest => some ([item], rest)
    | _ => none

/-- The members of an object from a first one on, and the text after its brace. -/
def members? : Nat → List Char → Option (List (Option String × Value) × List Char)
  | 0, _ => none
  | fuel + 1, cs => do
    let rest ← afterWord? "\x22" (skipSpaces cs)
    let (key, rest) ← string? rest
    let rest ← afterWord? ":" (skipSpaces rest)
    let (item, rest) ← value? fuel rest
    match skipSpaces rest with
    | ',' :: rest => (members? fuel rest).map fun (ms, rest) => ((key, item) :: ms, rest)
    | '\x7d' :: rest => some ([(key, item)], rest)
    | _ => none

end

/-- The value that a text spells as a whole. Each call takes a character, or hands on the same text
to one call that does. -/
def parse? (text : String) : Option Value :=
  (value? (2 * text.length + 2) text.toList).bind fun (v, rest) =>
    if (skipSpaces rest).isEmpty then some v else none

end Highlighter.Json
