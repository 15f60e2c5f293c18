import Highlighter.Buffer.Encoding
import Highlighter.Text.Utf8

/-! Decoding as a division of the bytes into cells: each cell holds one character, the bytes it
stands for, and what was wrong with them if anything was. No byte is lost and none is read twice,
so an editor can show any file. -/
namespace Highlighter

/-- What is wrong with the bytes of a cell. -/
inductive Fault where
  /-- A byte that the encoding does not allow here. -/
  | invalidByte
  /-- A byte of a sequence that the end of the input cuts off. -/
  | truncatedSequence
  /-- A UTF-16 surrogate without its partner. -/
  | unpairedSurrogate
  /-- A single byte after the last UTF-16 unit. -/
  | oddTrailingByte
deriving DecidableEq, Repr

/-- A decoded character with the bytes it was decoded from. -/
structure Cell where
  char : Char
  bytes : List UInt8
  fault : Option Fault

namespace Cell

/-- A byte that is shown as the character of the same number. -/
def raw (fault : Fault) (b : UInt8) : Cell :=
  ⟨Char.ofNat b.toNat, [b], some fault⟩

/-- The character that takes the place of an unpaired surrogate. -/
def replacement : Char := Char.ofNat 0xfffd

/-- A unit that is half of a surrogate pair and has no other half beside it. -/
def unpaired (a b : UInt8) : Cell := ⟨replacement, [a, b], some .unpairedSurrogate⟩

def ofAscii (b : UInt8) : Cell :=
  if b.toNat < 0x80 then ⟨Char.ofNat b.toNat, [b], none⟩ else raw .invalidByte b

def ofUtf8 : List UInt8 → List Cell
  | [] => []
  | first :: rest =>
    match Text.Utf8.head first rest with
    | .char c width =>
      ⟨c, first :: rest.take (width - 1), none⟩ :: ofUtf8 (rest.drop (width - 1))
    | .malformed width =>
      (first :: rest.take (width - 1)).map (raw .invalidByte) ++ ofUtf8 (rest.drop (width - 1))
    | .truncated => (first :: rest).map (raw .truncatedSequence)
termination_by bytes => bytes.length

def isHighSurrogate (u : Nat) : Bool := 0xd800 ≤ u && u < 0xdc00

def isLowSurrogate (u : Nat) : Bool := 0xdc00 ≤ u && u < 0xe000

def ofPair (high low : Nat) : Char :=
  Char.ofNat (0x10000 + (high - 0xd800) * 0x400 + (low - 0xdc00))

/-- The cells of bytes in UTF-16, where `unit` joins the two bytes of a unit. -/
def ofUtf16 (unit : UInt8 → UInt8 → Nat) : List UInt8 → List Cell
  | [] => []
  | [b] => [raw .oddTrailingByte b]
  | a :: b :: rest =>
    if isHighSurrogate (unit a b) then
      match rest with
      | [] => [unpaired a b]
      | [c] => [unpaired a b, raw .oddTrailingByte c]
      | c :: d :: tail =>
        if isLowSurrogate (unit c d) then
          ⟨ofPair (unit a b) (unit c d), [a, b, c, d], none⟩ :: ofUtf16 unit tail
        else unpaired a b :: ofUtf16 unit (c :: d :: tail)
    else
      (if isLowSurrogate (unit a b) then unpaired a b
        else ⟨Char.ofNat (unit a b), [a, b], none⟩) :: ofUtf16 unit rest
termination_by bytes => bytes.length

end Cell

namespace Encoding

/-- A UTF-16 unit whose low byte comes first. -/
def littleUnit (a b : UInt8) : Nat := b.toNat * 256 + a.toNat

/-- A UTF-16 unit whose high byte comes first. -/
def bigUnit (a b : UInt8) : Nat := a.toNat * 256 + b.toNat

/-- The cells of bytes that have no byte order mark. -/
def cellsOf : Encoding → List UInt8 → List Cell
  | ascii, bytes => bytes.map Cell.ofAscii
  | utf8, bytes => Cell.ofUtf8 bytes
  | utf16le, bytes => Cell.ofUtf16 littleUnit bytes
  | utf16be, bytes => Cell.ofUtf16 bigUnit bytes

/-- The cells of the bytes after their byte order mark. -/
def decode (e : Encoding) (bytes : List UInt8) : List Cell :=
  e.cellsOf (bytes.drop (e.markLength bytes))

end Encoding
end Highlighter
