import Highlighter.Text.Blank
import Highlighter.Text.Number
import Highlighter.Toml.Value

/-! Values of TOML that are written without quotes and brackets: truth values, numbers, dates and
times. Each is recognised as a whole. -/
namespace Highlighter.Toml

def isScalarChar (c : Char) : Bool :=
  c.isAlphanum || c = '_' || c = '+' || c = '-' || c = '.' || c = ':'

/-- The digits of a number whose digits may be divided by single underscores. -/
def digitGroups? (isDigit : Char → Bool) (cs : List Char) : Option (List Char) :=
  let pieces := Text.splitAt '_' cs
  if pieces.all fun piece => !piece.isEmpty && piece.all isDigit then some pieces.flatten else none

/-- Whether a number is written in decimal and without zeros in front. -/
def decimalDigits? (cs : List Char) : Option (List Char) :=
  (digitGroups? Char.isDigit cs).filter fun _ => cs.head? != some '0' || cs.length = 1

/-- The text after a sign, and whether the sign is a minus. -/
def splitSign : List Char → Bool × List Char
  | '-' :: rest => (true, rest)
  | '+' :: rest => (false, rest)
  | cs => (false, cs)

/-- The value of digits in a base of at most 16. -/
def valueInBase (base : Nat) (digits : List Char) : Nat :=
  digits.foldl (fun n c => n * base + (Text.hexDigit? c).getD 0) 0

/-- Whether a character is a digit of a base of at most 16. -/
def isDigitOf (base : Nat) (c : Char) : Bool := (Text.hexDigit? c).any (· < base)

/-- A whole number that 64 bits hold: in decimal with a sign or without, or in another base. -/
def integer? (cs : List Char) : Option Int :=
  let inBase (base : Nat) (rest : List Char) : Option Int :=
    ((digitGroups? (isDigitOf base) rest).map fun ds => (valueInBase base ds : Int)).filter
      (· < 0x8000000000000000)
  match cs with
  | '0' :: 'x' :: rest => inBase 16 rest
  | '0' :: 'o' :: rest => inBase 8 rest
  | '0' :: 'b' :: rest => inBase 2 rest
  | cs =>
    let (negative, digits) := splitSign cs
    ((decimalDigits? digits).map fun ds =>
      if negative then -(valueInBase 10 ds : Int) else (valueInBase 10 ds : Int)).filter
        fun n => -0x8000000000000000 ≤ n && n < 0x8000000000000000

/-- Whether the number with these digits, of which so many stand after the point, times a power of
ten is too large for a double: at least half a unit above the largest one. -/
def isTooLarge (digits : List Char) (places : Nat) (exponent : Int) : Bool :=
  let digits := digits.dropWhile (· = '0')
  let scale := exponent - places
  if digits.isEmpty then false
  else if (digits.length : Int) + scale > 400 then true
  else if (digits.length : Int) + scale < 300 then false
  else
    let limit := Nat.pow 2 1024 - Nat.pow 2 970
    let factor := Nat.pow 10 scale.natAbs
    let n := valueInBase 10 digits
    if scale < 0 then n ≥ limit * factor else n * factor ≥ limit

/-- Whether a number with a fraction or an exponent is written. One that is too large is none. -/
def isFloat (cs : List Char) : Bool :=
  let (negative, cs) := splitSign cs
  if cs = ['i', 'n', 'f'] || cs = ['n', 'a', 'n'] then true
  else
    let mantissa := cs.takeWhile fun c => c != 'e' && c != 'E'
    let exponent := (cs.drop mantissa.length).drop 1
    let whole := mantissa.takeWhile (· != '.')
    let fraction := (mantissa.drop whole.length).drop 1
    let hasExponent := mantissa.length < cs.length
    let hasFraction := whole.length < mantissa.length
    let places? := if hasFraction then digitGroups? Char.isDigit fraction else some []
    let power? := if hasExponent then digitGroups? Char.isDigit (splitSign exponent).2 else some []
    match decimalDigits? whole, places?, power? with
    | some digits, some places, some power =>
      let n := (valueInBase 10 power : Int)
      (hasExponent || hasFraction) && (negative ||
        !isTooLarge (digits ++ places) places.length (if (splitSign exponent).1 then -n else n))
    | _, _, _ => false

/-- A number of two digits between `low` and `high`, and the text after it. -/
def twoDigits? (low high : Nat) : List Char → Option (Nat × List Char)
  | a :: b :: rest =>
    let n := valueInBase 10 [a, b]
    if a.isDigit && b.isDigit && low ≤ n && n ≤ high then some (n, rest) else none
  | _ => none

def after? (c : Char) : List Char → Option (List Char)
  | first :: rest => if first = c then some rest else none
  | [] => none

def daysInMonth (year month : Nat) : Nat :=
  if month = 2 then
    if year % 4 = 0 && (year % 100 != 0 || year % 400 = 0) then 29 else 28
  else if month = 4 || month = 6 || month = 9 || month = 11 then 30
  else 31

def afterDate? (cs : List Char) : Option (List Char) := do
  let year := cs.take 4
  if year.length = 4 && year.all Char.isDigit then
    let rest ← after? '-' (cs.drop 4)
    let (month, rest) ← twoDigits? 1 12 rest
    let rest ← after? '-' rest
    let (_, rest) ← twoDigits? 1 (daysInMonth (valueInBase 10 year) month) rest
    return rest
  else none

def afterTime? (cs : List Char) : Option (List Char) := do
  let (_, rest) ← twoDigits? 0 23 cs
  let rest ← after? ':' rest
  let (_, rest) ← twoDigits? 0 59 rest
  let rest ← after? ':' rest
  let (_, rest) ← twoDigits? 0 60 rest
  match rest with
  | '.' :: fraction =>
    if fraction.head?.any Char.isDigit then return fraction.dropWhile Char.isDigit else none
  | rest => return rest

/-- Whether a text is an offset from universal time, which may be missing. -/
def isOffset : List Char → Bool
  | [] | ['Z'] | ['z'] => true
  | sign :: rest =>
    (sign = '+' || sign = '-') &&
      (((twoDigits? 0 23 rest).bind fun (_, rest) => after? ':' rest).bind (twoDigits? 0 59)).any
        (·.2.isEmpty)

def isTimeWithOffset (cs : List Char) : Bool := (afterTime? cs).any isOffset

def isDatetime (cs : List Char) : Bool :=
  (afterTime? cs).any List.isEmpty ||
    match afterDate? cs with
    | some [] => true
    | some (mark :: rest) => (mark = 'T' || mark = 't') && isTimeWithOffset rest
    | none => false

def scalar? (cs : List Char) : Option Value :=
  if cs = "true".toList then some (.boolean true)
  else if cs = "false".toList then some (.boolean false)
  else match integer? cs with
    | some n => some (.integer n)
    | none =>
      if isFloat cs then some (.float (String.ofList cs))
      else if isDatetime cs then some (.datetime (String.ofList cs))
      else none

end Highlighter.Toml
