import Highlighter.Proofs.Text.Blank
import Highlighter.Text.Number

/-! How numbers are written. What is read as a decimal number or as a hexadecimal digit is said without
the reader, and the digits of a number are read back as the same number. -/
namespace Highlighter.Text

theorem toNat_ofNat {n : Nat} (valid : n.isValidChar) : (Char.ofNat n).toNat = n := by
  unfold Char.ofNat
  rw [dif_pos valid]
  rfl

theorem hexDigit?_digitChar {d : Nat} (small : d < 16) : hexDigit? d.digitChar = some d := by
  have all : ∀ d < 16, hexDigit? d.digitChar = some d := by decide
  exact all d small

theorem toLower_wide {c : Char} (wide : 0x80 ≤ c.toNat) : c.toLower = c := by
  unfold Char.toLower
  split
  · rename_i upper
    exfalso
    have bound := upper.2
    rw [UInt32.le_iff_toNat_le] at bound
    have code : 'Z'.val.toNat = 90 := by decide
    rw [code] at bound
    change 0x80 ≤ c.val.toNat at wide
    omega
  · rfl

/-- The hexadecimal digits are those of a number in lower case, in either case. -/
theorem hexDigit?_eq_some_iff {c : Char} {d : Nat} :
    hexDigit? c = some d ↔ d < 16 ∧ c.toLower = d.digitChar := by
  by_cases ascii : c.toNat < 0x80
  · have values : ∀ n < 0x80, (hexDigit? (Char.ofNat n)).all (· < 16) = true := by decide +kernel
    have all : ∀ n < 0x80, ∀ d < 16,
        (hexDigit? (Char.ofNat n) = some d ↔ (Char.ofNat n).toLower = d.digitChar) := by
      decide +kernel
    have known := all c.toNat ascii d
    have small := values c.toNat ascii
    rw [Char.ofNat_toNat] at known small
    constructor
    · intro digit
      have bound : d < 16 := by simpa [digit] using small
      exact ⟨bound, (known bound).mp digit⟩
    · rintro ⟨bound, same⟩
      exact (known bound).mpr same
  · have digits : ∀ d < 16, d.digitChar.toNat < 0x80 := by decide
    constructor
    · intro digit
      exact absurd (toNat_lt_of_hexDigit? digit) ascii
    · rintro ⟨bound, same⟩
      rw [toLower_wide (Nat.le_of_not_lt ascii)] at same
      exact absurd (same ▸ digits d bound) ascii

theorem isHexDigit_iff {c : Char} : isHexDigit c = true ↔ ∃ d < 16, c.toLower = d.digitChar := by
  rw [isHexDigit, Option.isSome_iff_exists]
  exact exists_congr fun _ => hexDigit?_eq_some_iff

theorem isBlank_of_isHexDigit {c : Char} (digit : isHexDigit c = true) : isBlank c = false := by
  obtain ⟨d, digit⟩ := Option.isSome_iff_exists.mp digit
  have all : ∀ n < 0x80, isHexDigit (Char.ofNat n) = true → isBlank (Char.ofNat n) = false := by
    decide +kernel
  have known := all c.toNat (toNat_lt_of_hexDigit? digit)
  rw [Char.ofNat_toNat] at known
  exact known (Option.isSome_iff_exists.mpr ⟨d, digit⟩)

theorem hexValue?_append (acc : Nat) (high low : List Char) :
    hexValue? acc (high ++ low) = (hexValue? acc high).bind (hexValue? · low) := by
  induction high generalizing acc with
  | nil => rfl
  | cons c rest ih =>
    simp only [List.cons_append, hexValue?, Option.bind_assoc]
    cases hexDigit? c with
    | none => rfl
    | some d => exact ih _

theorem hexValue?_hexDigits (n : Nat) : hexValue? 0 (hexDigits n) = some n := by
  induction n using Nat.strongRecOn with
  | ind n ih =>
    unfold hexDigits
    by_cases small : n < 16
    · rw [Nat.toDigits_of_lt_base small]
      simp [hexValue?, hexDigit?_digitChar small]
    · have shorter : n / 16 < n := by omega
      have digit : n % 16 < 16 := by omega
      have high := ih (n / 16) shorter
      unfold hexDigits at high
      rw [Nat.toDigits_of_base_le (by decide) (by omega), hexValue?_append, high]
      simp only [Option.bind_some, hexValue?, hexDigit?_digitChar digit]
      congr 1
      omega

theorem mem_hexDigits {n : Nat} {c : Char} (member : c ∈ hexDigits n) :
    ∃ d < 16, c = d.digitChar := by
  induction n using Nat.strongRecOn with
  | ind n ih =>
    unfold hexDigits at member
    by_cases small : n < 16
    · rw [Nat.toDigits_of_lt_base small, List.mem_singleton] at member
      exact ⟨n, small, member⟩
    · rw [Nat.toDigits_of_base_le (by decide) (by omega), List.mem_append,
        List.mem_singleton] at member
      rcases member with high | low
      · exact ih (n / 16) (by omega) high
      · exact ⟨n % 16, by omega, low⟩

theorem isHexDigit_of_mem_hexDigits {n : Nat} {c : Char} (member : c ∈ hexDigits n) :
    (hexDigit? c).isSome := by
  obtain ⟨d, small, rfl⟩ := mem_hexDigits member
  simp [hexDigit?_digitChar small]

theorem hexDigits_ne_nil (n : Nat) : hexDigits n ≠ [] := Nat.toDigits_ne_nil

/-- Every code point has six hexadecimal digits at most. -/
theorem length_hexDigits_toNat (c : Char) : (hexDigits c.toNat).length ≤ 6 := by
  have bound : c.toNat < 16 ^ 6 := by
    have valid := c.valid
    simp only [UInt32.isValidChar, Nat.isValidChar] at valid
    simp only [Char.toNat]
    omega
  exact (Nat.length_toDigits_le_iff (by decide) (by decide)).mpr bound

theorem digitsValue?_eq_some_iff {acc n : Nat} {cs : List Char} :
    digitsValue? acc cs = some n ↔
      (∀ c ∈ cs, c.isDigit = true) ∧ Nat.ofDigitChars 10 cs acc = n := by
  induction cs generalizing acc with
  | nil => simp [digitsValue?]
  | cons c rest ih =>
    rw [digitsValue?, List.forall_mem_cons, Nat.ofDigitChars_cons]
    split
    · rename_i digit
      rw [ih, and_iff_right digit]
    · rename_i other
      simp [other]

section Unsigned

variable {value? : List Char → Option Nat} {limit n : Nat} {digits : List Char}

theorem unsigned?_plus : unsigned? value? limit ('+' :: digits) = some n ↔
    digits ≠ [] ∧ value? digits = some n ∧ n < limit := by
  simp [unsigned?, Option.filter_eq_some_iff]

theorem unsigned?_of_head (bare : digits.head? ≠ some '+') :
    unsigned? value? limit digits = some n ↔ digits ≠ [] ∧ value? digits = some n ∧ n < limit := by
  unfold unsigned?
  split
  · exact absurd rfl bare
  · simp [Option.filter_eq_some_iff]

end Unsigned

/-- A decimal number: one digit or more, with a plus sign in front or without one. -/
inductive Decimal : List Char → Nat → Prop
  | plain {digits : List Char} (filled : digits ≠ []) (all : ∀ c ∈ digits, c.isDigit = true) :
    Decimal digits (Nat.ofDigitChars 10 digits 0)
  | plus {digits : List Char} (filled : digits ≠ []) (all : ∀ c ∈ digits, c.isDigit = true) :
    Decimal ('+' :: digits) (Nat.ofDigitChars 10 digits 0)

namespace Decimal

variable {cs : List Char} {n : Nat}

theorem ne_nil (written : Decimal cs n) : cs ≠ [] := by
  cases written with
  | plain filled all => exact filled
  | plus filled all => exact List.cons_ne_nil _ _

theorem mem (written : Decimal cs n) : ∀ c ∈ cs, c.isDigit = true ∨ c = '+' := by
  intro c member
  cases written with
  | plain filled all => exact .inl (all c member)
  | plus filled all =>
    rcases List.mem_cons.mp member with sign | digit
    · exact .inr sign
    · exact .inl (all c digit)

theorem isBlank (written : Decimal cs n) {c : Char} (member : c ∈ cs) : isBlank c = false := by
  rcases written.mem c member with digit | rfl
  · exact isBlank_of_isDigit digit
  · decide

end Decimal

theorem head?_ne_plus {digits : List Char} (all : ∀ c ∈ digits, c.isDigit = true) :
    digits.head? ≠ some '+' := by
  intro plus
  exact absurd (all '+' (List.mem_of_mem_head? plus)) (by decide)

theorem decimal?_eq_some_iff {limit n : Nat} {cs : List Char} :
    decimal? limit cs = some n ↔ Decimal cs n ∧ n < limit := by
  constructor
  · intro read
    by_cases plus : cs.head? = some '+'
    · obtain ⟨digits, rfl⟩ := List.head?_eq_some_iff.mp plus
      obtain ⟨filled, value, small⟩ := unsigned?_plus.mp read
      obtain ⟨all, rfl⟩ := digitsValue?_eq_some_iff.mp value
      exact ⟨.plus filled all, small⟩
    · obtain ⟨filled, value, small⟩ := (unsigned?_of_head plus).mp read
      obtain ⟨all, rfl⟩ := digitsValue?_eq_some_iff.mp value
      exact ⟨.plain filled all, small⟩
  · rintro ⟨written, small⟩
    cases written with
    | plain filled all =>
      exact (unsigned?_of_head (head?_ne_plus all)).mpr
        ⟨filled, digitsValue?_eq_some_iff.mpr ⟨all, rfl⟩, small⟩
    | plus filled all =>
      exact unsigned?_plus.mpr ⟨filled, digitsValue?_eq_some_iff.mpr ⟨all, rfl⟩, small⟩

theorem isDigit_of_mem_toDigits {n : Nat} : ∀ c ∈ Nat.toDigits 10 n, c.isDigit = true :=
  fun _ member => Nat.isDigit_of_mem_toDigits (by decide) (by decide) member

theorem decimal_toDigits (n : Nat) : Decimal (Nat.toDigits 10 n) n := by
  have written := Decimal.plain Nat.toDigits_ne_nil (isDigit_of_mem_toDigits (n := n))
  rwa [Nat.ofDigitChars_ten_toDigits] at written

/-- Decimal digits are read as their number, if it is below the limit. -/
theorem decimal?_toDigits (limit n : Nat) :
    decimal? limit (Nat.toDigits 10 n) = if n < limit then some n else none := by
  by_cases small : n < limit
  · rw [if_pos small]
    exact decimal?_eq_some_iff.mpr ⟨decimal_toDigits n, small⟩
  · rw [if_neg small, Option.eq_none_iff_forall_ne_some]
    intro m read
    have bare := head?_ne_plus (isDigit_of_mem_toDigits (n := n))
    obtain ⟨_, value, below⟩ := (unsigned?_of_head bare).mp read
    obtain ⟨_, same⟩ := digitsValue?_eq_some_iff.mp value
    rw [Nat.ofDigitChars_ten_toDigits] at same
    exact small (same ▸ below)

theorem decimal?_lt {limit n : Nat} {cs : List Char} (read : decimal? limit cs = some n) :
    n < limit :=
  (decimal?_eq_some_iff.mp read).2

end Highlighter.Text
