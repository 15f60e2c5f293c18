import Highlighter.Text.Number

/-! UTF-8: the bytes of a character, and one reading step that tells a whole character from bytes
that cannot begin one and from a sequence that the end of the input cuts off. -/
namespace Highlighter.Text.Utf8

def encodeChar (c : Char) : List UInt8 :=
  let n := c.toNat
  if n < 0x80 then [UInt8.ofNat n]
  else if n < 0x800 then [UInt8.ofNat (0xc0 + n / 64), UInt8.ofNat (0x80 + n % 64)]
  else if n < 0x10000 then
    [UInt8.ofNat (0xe0 + n / 4096), UInt8.ofNat (0x80 + n / 64 % 64), UInt8.ofNat (0x80 + n % 64)]
  else
    [UInt8.ofNat (0xf0 + n / 262144), UInt8.ofNat (0x80 + n / 4096 % 64),
      UInt8.ofNat (0x80 + n / 64 % 64), UInt8.ofNat (0x80 + n % 64)]

def encode (cs : List Char) : List UInt8 := cs.flatMap encodeChar

/-- What stands at the head of a byte sequence that is not empty. -/
inductive Head where
  /-- A character and the number of its bytes. -/
  | char (c : Char) (width : Nat)
  /-- As many bytes that are no part of a character. -/
  | malformed (width : Nat)
  /-- The beginning of a character up to the end of the input. -/
  | truncated

/-- The bytes that may continue a sequence. -/
def isContinuation (b : UInt8) : Bool := 0x80 ≤ b.toNat && b.toNat < 0xc0

/-- The second bytes that may follow the first byte of a longer sequence: not all continue, since a
character has one form only and surrogates are no characters. -/
def isSecond (first second : UInt8) : Bool :=
  if first.toNat = 0xe0 then 0xa0 ≤ second.toNat && second.toNat < 0xc0
  else if first.toNat = 0xed then 0x80 ≤ second.toNat && second.toNat < 0xa0
  else if first.toNat = 0xf0 then 0x90 ≤ second.toNat && second.toNat < 0xc0
  else if first.toNat = 0xf4 then 0x80 ≤ second.toNat && second.toNat < 0x90
  else isContinuation second

def payload (b : UInt8) : Nat := b.toNat - 0x80

/-- The head of `first :: rest`. -/
def head (first : UInt8) (rest : List UInt8) : Head :=
  let n := first.toNat
  if n < 0x80 then .char (Char.ofNat n) 1
  else if n < 0xc2 || 0xf5 ≤ n then .malformed 1
  else match rest with
    | [] => .truncated
    | second :: rest =>
      if !isSecond first second then .malformed 1
      else if n < 0xe0 then .char (Char.ofNat ((n - 0xc0) * 64 + payload second)) 2
      else match rest with
        | [] => .truncated
        | third :: rest =>
          if !isContinuation third then .malformed 2
          else if n < 0xf0 then
            .char (Char.ofNat ((n - 0xe0) * 4096 + payload second * 64 + payload third)) 3
          else match rest with
            | [] => .truncated
            | fourth :: _ =>
              if !isContinuation fourth then .malformed 3
              else .char (Char.ofNat ((n - 0xf0) * 262144 + payload second * 4096 +
                payload third * 64 + payload fourth)) 4

/-- The text that the bytes spell, when they spell one throughout. -/
def decode? : List UInt8 → Option (List Char)
  | [] => some []
  | first :: rest =>
    match head first rest with
    | .char c width => (decode? (rest.drop (width - 1))).map (c :: ·)
    | _ => none
termination_by bytes => bytes.length

end Highlighter.Text.Utf8
