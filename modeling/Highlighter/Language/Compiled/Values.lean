import Highlighter.Language.Error
import Highlighter.Text.Blank

/-! Values on a line of a compiled language. A value without blanks, quotes and control characters
stands bare; any other one stands in quotes, with escapes, so that a line holds whatever a language
needs and is still one line. -/
namespace Highlighter.Compiled

/-- A character inside quotes. -/
def escaped (c : Char) : List Char :=
  if c = '\\' || c = '\x22' then ['\\', c]
  else if c = '\n' then ['\\', 'n']
  else if c = '\r' then ['\\', 'r']
  else if c = '\t' then ['\\', 't']
  else if Text.isControl c then Text.codeEscape c
  else [c]

def quote (text : String) : String :=
  String.ofList ('\x22' :: text.toList.flatMap escaped ++ ['\x22'])

/-- Whether a value can stand without quotes. -/
def isBare (text : String) : Bool :=
  text != "" && text.toList.all fun c => !(Text.isBlank c || Text.isControl c || c = '\x22')

/-- A value, in quotes only when it needs them. -/
def value (text : String) : String := if isBare text then text else quote text

/-- Where reading stands on a line. The characters of the value being read stand nearest first. -/
inductive Reading where
  | between
  | bare (done : List Char)
  | quoted (done : List Char)
  /-- After a backslash. -/
  | escape (done : List Char)
  /-- Before the brace of a code point. -/
  | brace (done : List Char)
  /-- Among the digits of a code point, which stand nearest first. -/
  | code (done digits : List Char)

def escapeOf? (c : Char) : Option Char :=
  if c = '\\' || c = '\x22' then some c
  else if c = 'n' then some '\n'
  else if c = 'r' then some '\r'
  else if c = 't' then some '\t'
  else none

/-- The most digits of a code point. -/
def maxCodeDigits : Nat := 6

def charOfDigits (digits : List Char) : Except LineFault Char :=
  match (if digits.isEmpty then none else Text.hexValue? 0 digits).bind Text.charOfCode? with
  | some c => .ok c
  | none => .error (.invalidCode (String.ofList digits))

def splitFrom : Reading → List Char → Except LineFault (List String)
  | .between, [] => .ok []
  | .between, c :: rest =>
    if Text.isBlank c then splitFrom .between rest
    else if c = '\x22' then splitFrom (.quoted []) rest
    else splitFrom (.bare [c]) rest
  | .bare done, [] => .ok [String.ofList done.reverse]
  | .bare done, c :: rest =>
    if Text.isBlank c then (String.ofList done.reverse :: ·) <$> splitFrom .between rest
    else if c = '\x22' then .error .quoteInsideBare
    else splitFrom (.bare (c :: done)) rest
  | .quoted _, [] => .error .unterminatedQuote
  | .quoted done, c :: rest =>
    if c = '\x22' then (String.ofList done.reverse :: ·) <$> splitFrom .between rest
    else if c = '\\' then splitFrom (.escape done) rest
    else splitFrom (.quoted (c :: done)) rest
  | .escape _, [] => .error (.unknownEscape none)
  | .escape done, c :: rest =>
    if c = 'u' then splitFrom (.brace done) rest
    else match escapeOf? c with
      | some char => splitFrom (.quoted (char :: done)) rest
      | none => .error (.unknownEscape (some c))
  | .brace _, [] => .error .missingBrace
  | .brace done, c :: rest =>
    if c = '\x7b' then splitFrom (.code done []) rest else .error .missingBrace
  | .code _ _, [] => .error .malformedCode
  | .code done digits, c :: rest =>
    if c = '\x7d' then do
      splitFrom (.quoted ((← charOfDigits digits.reverse) :: done)) rest
    else if (Text.hexDigit? c).isSome && digits.length < maxCodeDigits then
      splitFrom (.code done (c :: digits)) rest
    else .error .malformedCode

def split (line : List Char) : Except LineFault (List String) := splitFrom .between line

end Highlighter.Compiled
