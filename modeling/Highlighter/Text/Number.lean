/-! Natural numbers as text: decimal numbers with a bound, and hexadecimal digits. -/
namespace Highlighter.Text

/-- One more than the largest number that 32 bits hold. -/
def limit32 : Nat := 0x100000000

/-- One more than the largest number that 64 bits hold. -/
def limit64 : Nat := 0x10000000000000000

/-- The value of decimal digits; nothing when another character stands among them. -/
def digitsValue? (acc : Nat) : List Char → Option Nat
  | [] => some acc
  | c :: rest => if c.isDigit then digitsValue? (10 * acc + (c.toNat - '0'.toNat)) rest else none

/-- A number below `limit`: an optional plus sign and at least one digit, the digits as `value?`
reads them. -/
def unsigned? (value? : List Char → Option Nat) (limit : Nat) (cs : List Char) : Option Nat :=
  let digits := match cs with
    | '+' :: rest => rest
    | cs => cs
  if digits.isEmpty then none
  else (value? digits).filter (· < limit)

def decimal? (limit : Nat) (cs : List Char) : Option Nat := unsigned? (digitsValue? 0) limit cs

def hexDigit? (c : Char) : Option Nat :=
  if c.isDigit then some (c.toNat - '0'.toNat)
  else if 'a' ≤ c && c ≤ 'f' then some (c.toNat - 'a'.toNat + 10)
  else if 'A' ≤ c && c ≤ 'F' then some (c.toNat - 'A'.toNat + 10)
  else none

def isHexDigit (c : Char) : Bool := (hexDigit? c).isSome

theorem toNat_lt_of_hexDigit? {c : Char} {d : Nat} (digit : hexDigit? c = some d) :
    c.toNat < 0x80 := by
  have bound (last : Char) (narrow : last.toNat < 0x80) (below : c ≤ last) : c.toNat < 0x80 :=
    Nat.lt_of_le_of_lt (UInt32.le_iff_toNat_le.mp (Char.le_def.mp below)) narrow
  unfold hexDigit? at digit
  split at digit
  · rename_i decimal
    have below := (Bool.and_eq_true_iff.mp decimal).2
    exact bound '9' (by decide) (of_decide_eq_true below)
  split at digit
  · rename_i small
    have below := (Bool.and_eq_true_iff.mp small).2
    exact bound 'f' (by decide) (of_decide_eq_true below)
  split at digit
  · rename_i capital
    have below := (Bool.and_eq_true_iff.mp capital).2
    exact bound 'F' (by decide) (of_decide_eq_true below)
  · cases digit

/-- Hexadecimal digits are one byte each. -/
theorem utf8Size_of_isHexDigit {c : Char} (digit : isHexDigit c = true) : c.utf8Size = 1 := by
  obtain ⟨d, digit⟩ := Option.isSome_iff_exists.mp digit
  have narrow : c.val.toNat < 0x80 := toNat_lt_of_hexDigit? digit
  rw [Char.utf8Size_eq_one_iff, UInt32.le_iff_toNat_le]
  exact Nat.le_of_lt_succ narrow

theorem utf8ByteSize_of_isHexDigit {cs : List Char} (digits : ∀ c ∈ cs, isHexDigit c = true) :
    (String.ofList cs).utf8ByteSize = cs.length := by
  induction cs with
  | nil => rfl
  | cons c rest ih =>
    have first := utf8Size_of_isHexDigit (digits c List.mem_cons_self)
    have following := ih fun d member => digits d (List.mem_cons_of_mem _ member)
    rw [String.ofList_cons, String.utf8ByteSize_append, String.utf8ByteSize_singleton, first,
      following, List.length_cons, Nat.add_comm]

/-- The value of hexadecimal digits; nothing when another character stands among them. -/
def hexValue? (acc : Nat) : List Char → Option Nat
  | [] => some acc
  | c :: rest => (hexDigit? c).bind fun d => hexValue? (16 * acc + d) rest

def hexadecimal? (limit : Nat) (cs : List Char) : Option Nat := unsigned? (hexValue? 0) limit cs

/-- The hexadecimal digits of a number in lower case, without leading zeros. -/
def hexDigits (n : Nat) : List Char := Nat.toDigits 16 n

/-- Digits filled up with zeros on the left to a width. -/
def zeroPadded (width : Nat) (digits : List Char) : List Char :=
  List.replicate (width - digits.length) '0' ++ digits

/-- The character of a code point that is neither a surrogate nor too large. -/
def charOfCode? (code : Nat) : Option Char :=
  if code.isValidChar then some (Char.ofNat code) else none

def alignRight (width : Nat) (text : String) : String :=
  String.ofList (List.replicate (width - text.length) ' ') ++ text

def alignLeft (width : Nat) (text : String) : String :=
  text ++ String.ofList (List.replicate (width - text.length) ' ')

end Highlighter.Text
