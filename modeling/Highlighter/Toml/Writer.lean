import Highlighter.Text.Blank
import Highlighter.Text.Number

/-! Writing TOML. A string is written in the plainest form that can hold it: in double quotes as it
is, in single quotes, in three quotes of either kind, and with escapes only as the last resort. -/
namespace Highlighter.Toml

/-- The longest run of a character in a text that goes on with `current` of them; `best` is the
longest run before. -/
def longestRun (c : Char) (current best : Nat) : List Char → Nat
  | [] => max current best
  | x :: rest =>
    if x = c then longestRun c (current + 1) best rest
    else longestRun c 0 (max current best) rest

/-- A control character that a string can hold with an escape only. -/
def needsEscape (c : Char) : Bool :=
  (c.toNat < 0x20 && c != '\t' && c != '\n') || c.toNat = 0x7f

/-- A character of a basic string, which may hold line ends if it is in three quotes. -/
def basicChar (multiline : Bool) (c : Char) : List Char :=
  if c = '\x08' then ['\\', 'b']
  else if c = '\t' then ['\\', 't']
  else if c = '\n' then if multiline then [c] else ['\\', 'n']
  else if c = '\x0c' then ['\\', 'f']
  else if c = '\r' then ['\\', 'r']
  else if c = '\\' then ['\\', '\\']
  else if c = '\x22' then if multiline then [c] else ['\\', c]
  else if needsEscape c then
    ['\\', 'u'] ++ Text.zeroPadded 4 ((Text.hexDigits c.toNat).map Char.toUpper)
  else [c]

/-- A text between three quotes. A text of several lines begins on a line of its own; the line end
before it does not count. -/
def multiline (quote : Char) (body : List Char) : List Char :=
  let before := if body.contains '\n' then ['\n'] else []
  List.replicate 3 quote ++ before ++ body ++ List.replicate 3 quote

/-- The third quote of three in a row is escaped; `before` quotes stand in front of the text. -/
def breakQuotes (before : Nat) : List Char → List Char
  | [] => []
  | c :: rest =>
    if c = '\x22' then
      if before = 2 then '\\' :: c :: breakQuotes 0 rest else c :: breakQuotes (before + 1) rest
    else c :: breakQuotes 0 rest

def quoteChars (cs : List Char) : List Char :=
  let doubles := longestRun '\x22' 0 0 cs
  let singles := longestRun '\x27' 0 0 cs
  let controls := cs.any needsEscape
  let newline := cs.contains '\n'
  let backslash := cs.contains '\\'
  if !controls && !backslash && doubles = 0 && !newline then
    '\x22' :: cs.flatMap (basicChar false) ++ ['\x22']
  else if !controls && singles = 0 && !newline then '\x27' :: cs ++ ['\x27']
  else if !controls && !backslash && doubles < 3 then
    multiline '\x22' (cs.flatMap (basicChar true))
  else if !controls && singles < 3 then multiline '\x27' cs
  else if newline then multiline '\x22' (breakQuotes 0 (cs.flatMap (basicChar true)))
  else '\x22' :: cs.flatMap (basicChar false) ++ ['\x22']

def quote (text : String) : String := String.ofList (quoteChars text.toList)

/-- An array of written values: several of them stand on a line each. -/
def arrayOf (items : List String) : String :=
  if items.length < 2 then String.join ["[", String.join items, "]"]
  else String.join ["[\n", String.join (items.map (String.join ["    ", ·, ",\n"])), "]"]

def keyLine (key value : String) : String := String.join [key, " = ", value, "\n"]

def tableLines (name : String) (lines : List String) : String :=
  String.join ["[", name, "]\n", String.join lines]

end Highlighter.Toml
