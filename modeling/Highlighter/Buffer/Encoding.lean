/-! The encodings a document may have, and how one is recognised: by its byte order mark, by the
zero bytes of Latin text in UTF-16, or by the presence of a byte beyond ASCII. -/
namespace Highlighter

inductive Encoding where
  | ascii
  | utf8
  | utf16le
  | utf16be
deriving DecidableEq, Repr

namespace Encoding

def name : Encoding → String
  | ascii => "ascii"
  | utf8 => "utf-8"
  | utf16le => "utf-16le"
  | utf16be => "utf-16be"

def all : List Encoding := [ascii, utf8, utf16le, utf16be]

/-- The byte order mark; ASCII has none. -/
def mark : Encoding → List UInt8
  | ascii => []
  | utf8 => [0xef, 0xbb, 0xbf]
  | utf16le => [0xff, 0xfe]
  | utf16be => [0xfe, 0xff]

/-- The length of the byte order mark that the bytes begin with, or 0. -/
def markLength (e : Encoding) (bytes : List UInt8) : Nat :=
  if e.mark.isPrefixOf bytes then e.mark.length else 0

/-- The number of leading bytes in which zero bytes are counted. -/
def sampleLength : Nat := 512

/-- The zero bytes among the first and among the second bytes of whole pairs, and the number of
the pairs. -/
def zeroCounts : List UInt8 → Nat × Nat × Nat
  | first :: second :: rest =>
    let (firsts, seconds, pairs) := zeroCounts rest
    (firsts + (if first = 0 then 1 else 0), seconds + (if second = 0 then 1 else 0), pairs + 1)
  | _ => (0, 0, 0)

/-- Text in UTF-16 without a mark: at least half of the pairs have a zero byte, always at the
same place. -/
def detectWide? (bytes : List UInt8) : Option Encoding :=
  let (firsts, seconds, pairs) := zeroCounts (bytes.take sampleLength)
  if pairs = 0 then none
  else if firsts = 0 && pairs ≤ 2 * seconds then some utf16le
  else if seconds = 0 && pairs ≤ 2 * firsts then some utf16be
  else none

/-- The encoding of bytes whose encoding is not known. -/
def detect (bytes : List UInt8) : Encoding :=
  if utf8.mark.isPrefixOf bytes then utf8
  else if utf16le.mark.isPrefixOf bytes then utf16le
  else if utf16be.mark.isPrefixOf bytes then utf16be
  else match detectWide? bytes with
    | some wide => wide
    | none => if bytes.all (·.toNat < 0x80) then ascii else utf8

end Encoding
end Highlighter
