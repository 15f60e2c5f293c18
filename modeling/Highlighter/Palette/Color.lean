import Highlighter.Text.Blank
import Highlighter.Text.Number

/-! Colours of 24 bits, and text in colour on a terminal. -/
namespace Highlighter

structure Color where
  red : UInt8
  green : UInt8
  blue : UInt8
deriving DecidableEq, Repr

/-- Why a text means no colour or no category. -/
inductive PaletteError where
  | wrongLength (text : String)
  | notHexadecimal (text : String)
  | unknownCategory (text : String)
deriving DecidableEq, Repr

def PaletteError.message : PaletteError → String
  | wrongLength text => String.join ["Invalid colour '", text, "': expected six hex digits"]
  | notHexadecimal text => String.join ["Invalid colour '", text, "': not a hex digit"]
  | unknownCategory text => String.join ["Unknown token category '", text, "'"]

namespace Color

/-- Six hexadecimal digits. -/
structure Digits where
  text : String
  size : text.utf8ByteSize = 6
  hexadecimal : text.toList.all Text.isHexDigit = true

namespace Digits

theorem isHexDigit (d : Digits) : ∀ c ∈ d.text.toList, Text.isHexDigit c = true :=
  List.all_eq_true.mp d.hexadecimal

theorem length (d : Digits) : d.text.toList.length = 6 := by
  rw [← Text.utf8ByteSize_of_isHexDigit d.isHexDigit, String.ofList_toList, d.size]

/-- A place that is counted in bytes is never inside of a digit. -/
theorem isValid (d : Digits) {place : Nat} (inside : place ≤ 6) :
    String.Pos.Raw.IsValid d.text ⟨place⟩ := by
  refine String.Pos.Raw.isValid_iff_exists_take_toList.mpr ⟨place, ?_⟩
  rw [Text.utf8ByteSize_of_isHexDigit fun c member => d.isHexDigit c (List.mem_of_mem_take member),
    List.length_take, d.length, Nat.min_eq_left inside]

/-- The two digits after a place, which is counted in bytes. -/
def pair (d : Digits) (place : Nat) (inside : place + 2 ≤ 6 := by decide) : String :=
  String.extract (d.text.pos ⟨place⟩ (d.isValid (Nat.le_of_add_right_le inside)))
    (d.text.pos ⟨place + 2⟩ (d.isValid inside))

def channel? (d : Digits) (place : Nat) (inside : place + 2 ≤ 6 := by decide) : Option UInt8 :=
  (Text.hexadecimal? 0x100 (d.pair place inside).toList).map UInt8.ofNat

def color? (d : Digits) : Option Color := do
  return ⟨← d.channel? 0, ← d.channel? 2, ← d.channel? 4⟩

end Digits

/-- A colour text without the blanks around it and the sign in front. -/
def digitsOf (text : String) : String :=
  String.ofList <| match Text.trim text.toList with
    | '#' :: digits => digits
    | digits => digits

/-- The colour that a text means. The length of a text is counted in bytes, so that six bytes need
not be six characters. -/
def parse (text : String) : Except PaletteError Color :=
  let digits := digitsOf text
  if size : digits.utf8ByteSize = 6 then
    if hexadecimal : digits.toList.all Text.isHexDigit = true then
      match Digits.color? ⟨digits, size, hexadecimal⟩ with
      | some color => .ok color
      | none => .error (.notHexadecimal text)
    else .error (.notHexadecimal text)
  else .error (.wrongLength text)

def channelDigits (n : UInt8) : List Char := Text.zeroPadded 2 (Text.hexDigits n.toNat)

protected def toString (c : Color) : String :=
  String.ofList
    ('#' :: channelDigits c.red ++ channelDigits c.green ++ channelDigits c.blue)

instance : ToString Color := ⟨Color.toString⟩

def opening (c : Color) : List Char :=
  s!"\x1b[38;2;{c.red.toNat};{c.green.toNat};{c.blue.toNat}m".toList

def reset : List Char := ['\x1b', '[', '0', 'm']

/-- A line in a colour; an empty line stays empty. -/
def paintLine (c : Color) (line : List Char) : List Char :=
  if line.isEmpty then [] else c.opening ++ line ++ reset

/-- A text in a colour, or as it is without one. Every line is coloured by itself. -/
def paint (color : Option Color) (text : List Char) : List Char :=
  match color with
  | none => text
  | some c => ['\n'].intercalate ((Text.splitAt '\n' text).map c.paintLine)

end Color
end Highlighter
