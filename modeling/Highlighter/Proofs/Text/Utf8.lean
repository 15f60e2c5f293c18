import Highlighter.Proofs.Text.Number
import Highlighter.Text.Utf8
import Mathlib.Data.UInt

/-! Decoding undoes encoding: the bytes of a character are read as this character, whatever follows
them. Its second byte tells a character from the forms that no character has, so a character is read
from its own bytes only. The bytes within ASCII are those of the characters within it. -/
namespace Highlighter.Text.Utf8

theorem toNat_byte {n : Nat} (small : n < 256) : (UInt8.ofNat n).toNat = n := by
  rw [UInt8.toNat_ofNat']
  exact Nat.mod_eq_of_lt small

/-- A byte that continues a character carries six bits. -/
theorem low_byte (n : Nat) : isContinuation (UInt8.ofNat (0x80 + n % 64)) = true ∧
    payload (UInt8.ofNat (0x80 + n % 64)) = n % 64 := by
  have byte : (UInt8.ofNat (0x80 + n % 64)).toNat = 0x80 + n % 64 := toNat_byte (by omega)
  constructor
  · simp only [isContinuation, byte, Bool.and_eq_true, decide_eq_true_eq]
    omega
  · unfold payload
    omega

section Forms
variable {n : Nat} (rest : List UInt8)

theorem head_one (small : n < 0x80) : head (UInt8.ofNat n) rest = .char (Char.ofNat n) 1 := by
  simp only [head, toNat_byte (Nat.lt_trans small (by decide)), small, if_true]

theorem head_two (large : 0x80 ≤ n) (small : n < 0x800) :
    head (UInt8.ofNat (0xc0 + n / 64)) (UInt8.ofNat (0x80 + n % 64) :: rest) =
      .char (Char.ofNat n) 2 := by
  have byte : (UInt8.ofNat (0xc0 + n / 64)).toNat = 0xc0 + n / 64 := toNat_byte (by omega)
  obtain ⟨continues, carried⟩ := low_byte n
  have second : isSecond (UInt8.ofNat (0xc0 + n / 64)) (UInt8.ofNat (0x80 + n % 64)) = true := by
    unfold isSecond
    rw [byte, if_neg (by omega), if_neg (by omega), if_neg (by omega), if_neg (by omega)]
    exact continues
  have sum : (0xc0 + n / 64 - 0xc0) * 64 + n % 64 = n := by omega
  simp only [head, byte, second, carried, sum, Bool.or_eq_true, decide_eq_true_eq, Bool.not_true,
    Bool.false_eq_true, if_false]
  rw [if_neg (by omega), if_neg (by omega), if_pos (by omega)]

theorem head_three (large : 0x800 ≤ n) (small : n < 0x10000)
    (valid : n < 0xd800 ∨ 0xdfff < n) :
    head (UInt8.ofNat (0xe0 + n / 4096))
      (UInt8.ofNat (0x80 + n / 64 % 64) :: UInt8.ofNat (0x80 + n % 64) :: rest) =
      .char (Char.ofNat n) 3 := by
  have byte : (UInt8.ofNat (0xe0 + n / 4096)).toNat = 0xe0 + n / 4096 := toNat_byte (by omega)
  have middle : (UInt8.ofNat (0x80 + n / 64 % 64)).toNat = 0x80 + n / 64 % 64 :=
    toNat_byte (by omega)
  obtain ⟨continues, carried⟩ := low_byte (n / 64)
  obtain ⟨ends, last⟩ := low_byte n
  have second :
      isSecond (UInt8.ofNat (0xe0 + n / 4096)) (UInt8.ofNat (0x80 + n / 64 % 64)) = true := by
    unfold isSecond
    rw [byte, middle]
    split
    · simp only [Bool.and_eq_true, decide_eq_true_eq]
      omega
    · split
      · simp only [Bool.and_eq_true, decide_eq_true_eq]
        omega
      · rw [if_neg (by omega), if_neg (by omega)]
        exact continues
  have sum : (0xe0 + n / 4096 - 0xe0) * 4096 + n / 64 % 64 * 64 + n % 64 = n := by omega
  simp only [head, byte, second, ends, carried, last, sum, Bool.or_eq_true, decide_eq_true_eq,
    Bool.not_true, Bool.false_eq_true, if_false]
  rw [if_neg (by omega), if_neg (by omega), if_neg (by omega), if_pos (by omega)]

theorem head_four (large : 0x10000 ≤ n) (small : n < 0x110000) :
    head (UInt8.ofNat (0xf0 + n / 262144))
      (UInt8.ofNat (0x80 + n / 4096 % 64) :: UInt8.ofNat (0x80 + n / 64 % 64) ::
        UInt8.ofNat (0x80 + n % 64) :: rest) = .char (Char.ofNat n) 4 := by
  have byte : (UInt8.ofNat (0xf0 + n / 262144)).toNat = 0xf0 + n / 262144 :=
    toNat_byte (by omega)
  have middle : (UInt8.ofNat (0x80 + n / 4096 % 64)).toNat = 0x80 + n / 4096 % 64 :=
    toNat_byte (by omega)
  obtain ⟨continues, first⟩ := low_byte (n / 4096)
  obtain ⟨goesOn, carried⟩ := low_byte (n / 64)
  obtain ⟨ends, last⟩ := low_byte n
  have second :
      isSecond (UInt8.ofNat (0xf0 + n / 262144)) (UInt8.ofNat (0x80 + n / 4096 % 64)) = true := by
    unfold isSecond
    rw [byte, middle, if_neg (by omega), if_neg (by omega)]
    split
    · simp only [Bool.and_eq_true, decide_eq_true_eq]
      omega
    · split
      · simp only [Bool.and_eq_true, decide_eq_true_eq]
        omega
      · exact continues
  have sum : (0xf0 + n / 262144 - 0xf0) * 262144 + n / 4096 % 64 * 4096 + n / 64 % 64 * 64 +
      n % 64 = n := by omega
  simp only [head, byte, second, goesOn, ends, first, carried, last, sum, Bool.or_eq_true,
    decide_eq_true_eq, Bool.not_true, Bool.false_eq_true, if_false]
  rw [if_neg (by omega), if_neg (by omega), if_neg (by omega), if_neg (by omega)]

end Forms

/-- The bytes of a character are read as this character. -/
theorem head_encodeChar (c : Char) (rest : List UInt8) : ∃ first tail,
    encodeChar c = first :: tail ∧ head first (tail ++ rest) = .char c (tail.length + 1) := by
  have valid : c.toNat < 0xd800 ∨ 0xdfff < c.toNat ∧ c.toNat < 0x110000 := c.valid
  unfold encodeChar
  dsimp only
  split
  · rename_i small
    exact ⟨_, _, rfl, by simpa using head_one rest small⟩
  · split
    · rename_i large small
      exact ⟨_, _, rfl, by simpa using head_two rest (Nat.le_of_not_lt large) small⟩
    · split
      · rename_i large small
        exact ⟨_, _, rfl, by
          simpa using head_three rest (Nat.le_of_not_lt large) small (valid.imp id And.left)⟩
      · rename_i large
        exact ⟨_, _, rfl, by
          simpa using head_four rest (Nat.le_of_not_lt large) (by omega)⟩

theorem encode_cons (c : Char) (cs : List Char) : encode (c :: cs) = encodeChar c ++ encode cs :=
  List.flatMap_cons

theorem decode?_encode (cs : List Char) : decode? (encode cs) = some cs := by
  induction cs with
  | nil => rw [encode, List.flatMap_nil, decode?]
  | cons c rest ih =>
    obtain ⟨first, tail, spelled, read⟩ := head_encodeChar c (encode rest)
    have bytes : encode (c :: rest) = first :: (tail ++ encode rest) := by
      rw [encode_cons, spelled, List.cons_append]
    have following : (tail ++ encode rest).drop (tail.length + 1 - 1) = encode rest := by
      rw [Nat.add_sub_cancel, List.drop_left]
    rw [bytes, decode?, read]
    simp only [following, ih, Option.map_some]

theorem encodeChar_ascii {c : Char} (narrow : c.toNat < 0x80) :
    encodeChar c = [UInt8.ofNat c.toNat] := by
  rw [encodeChar, if_pos narrow]

/-- Every byte of a character beyond ASCII lies beyond ASCII. -/
theorem encodeChar_beyond {c : Char} (beyond : ¬ c.toNat < 0x80) :
    ∀ b ∈ encodeChar c, ¬ b.toNat < 0x80 := by
  have valid : c.toNat < 0xd800 ∨ 0xdfff < c.toNat ∧ c.toNat < 0x110000 := c.valid
  have byte : ∀ n, 0x80 ≤ n → n < 256 → ¬ (UInt8.ofNat n).toNat < 0x80 := by
    intro n least small
    rw [toNat_byte small]
    omega
  rw [encodeChar, if_neg beyond]
  split
  · simp only [List.forall_mem_cons]
    exact ⟨byte _ (by omega) (by omega), byte _ (by omega) (by omega), by simp⟩
  · split
    · simp only [List.forall_mem_cons]
      exact ⟨byte _ (by omega) (by omega), byte _ (by omega) (by omega),
        byte _ (by omega) (by omega), by simp⟩
    · simp only [List.forall_mem_cons]
      exact ⟨byte _ (by omega) (by omega), byte _ (by omega) (by omega),
        byte _ (by omega) (by omega), byte _ (by omega) (by omega), by simp⟩

theorem all_encode_ascii (cs : List Char) :
    (encode cs).all (·.toNat < 0x80) = cs.all (·.toNat < 0x80) := by
  induction cs with
  | nil => rfl
  | cons c cs ih =>
    rw [encode_cons, List.all_append, ih, List.all_cons]
    congr 1
    by_cases narrow : c.toNat < 0x80
    · have byte : (UInt8.ofNat c.toNat).toNat = c.toNat := toNat_byte (by omega)
      rw [encodeChar_ascii narrow, List.all_cons, List.all_nil, Bool.and_true, byte]
    · obtain ⟨first, tail, spelled, _⟩ := head_encodeChar c []
      have large : ¬ first.toNat < 0x80 := encodeChar_beyond narrow first (by simp [spelled])
      simp [spelled, narrow, large]

theorem zero_not_mem_encode {cs : List Char} (filled : '\x00' ∉ cs) : 0 ∉ encode cs := by
  intro member
  obtain ⟨c, inside, byte⟩ := List.mem_flatMap.mp member
  by_cases narrow : c.toNat < 0x80
  · rw [encodeChar_ascii narrow, List.mem_singleton] at byte
    have number : c.toNat = 0 := by
      rw [← toNat_byte (n := c.toNat) (by omega), ← byte]
      rfl
    have zero : c = '\x00' := by
      rw [← Char.ofNat_toNat c, number]
    exact filled (zero ▸ inside)
  · exact encodeChar_beyond narrow 0 byte (by decide)

/-- The bytes of a text are read as its first character. -/
theorem head_of_encode {cs : List Char} {first : UInt8} {rest : List UInt8}
    (bytes : encode cs = first :: rest) : ∃ c width, cs.head? = some c ∧
      head first rest = .char c width := by
  cases cs with
  | nil => cases bytes
  | cons c cs =>
    obtain ⟨lead, tail, spelled, read⟩ := head_encodeChar c (encode cs)
    rw [encode_cons, spelled, List.cons_append] at bytes
    cases bytes
    exact ⟨c, _, rfl, read⟩

section Reading
variable {first second third fourth : UInt8}

theorem byte_eq {n : Nat} {b : UInt8} (same : n = b.toNat) : UInt8.ofNat n = b := by
  rw [same, UInt8.ofNat_toNat]

theorem isContinuation_iff {b : UInt8} :
    isContinuation b = true ↔ 0x80 ≤ b.toNat ∧ b.toNat < 0xc0 := by
  rw [isContinuation, Bool.and_eq_true, decide_eq_true_eq, decide_eq_true_eq]

/-- A second byte continues, and after the ends of the ranges not every one does. -/
theorem bounds_of_isSecond (allowed : isSecond first second = true) :
    0x80 ≤ second.toNat ∧ second.toNat < 0xc0 ∧ (first.toNat = 0xe0 → 0xa0 ≤ second.toNat) ∧
      (first.toNat = 0xed → second.toNat < 0xa0) ∧ (first.toNat = 0xf0 → 0x90 ≤ second.toNat) ∧
      (first.toNat = 0xf4 → second.toNat < 0x90) := by
  rw [isSecond, isContinuation] at allowed
  split_ifs at allowed
  all_goals
    rw [Bool.and_eq_true, decide_eq_true_eq, decide_eq_true_eq] at allowed
    omega

theorem encodeChar_one (small : first.toNat < 0x80) :
    encodeChar (Char.ofNat first.toNat) = [first] := by
  have valid : first.toNat.isValidChar := .inl (by omega)
  rw [encodeChar, toNat_ofNat valid, if_pos small, byte_eq rfl]

theorem encodeChar_two (least : 0xc2 ≤ first.toNat) (most : first.toNat < 0xe0)
    (next : isSecond first second = true) :
    encodeChar (Char.ofNat ((first.toNat - 0xc0) * 64 + payload second)) = [first, second] := by
  obtain ⟨low, high, -⟩ := bounds_of_isSecond next
  generalize code : (first.toNat - 0xc0) * 64 + payload second = n
  unfold payload at code
  have valid : n.isValidChar := .inl (by omega)
  have small : n < 0x800 := by omega
  have large : ¬ n < 0x80 := by omega
  have lead : 0xc0 + n / 64 = first.toNat := by omega
  have last : 0x80 + n % 64 = second.toNat := by omega
  rw [encodeChar, toNat_ofNat valid, if_neg large, if_pos small, byte_eq lead, byte_eq last]

theorem encodeChar_three (least : 0xe0 ≤ first.toNat) (most : first.toNat < 0xf0)
    (next : isSecond first second = true) (ends : isContinuation third = true) :
    encodeChar (Char.ofNat ((first.toNat - 0xe0) * 4096 + payload second * 64 + payload third)) =
      [first, second, third] := by
  obtain ⟨low, high, shortest, surrogate, -⟩ := bounds_of_isSecond next
  obtain ⟨low', high'⟩ := isContinuation_iff.mp ends
  generalize code : (first.toNat - 0xe0) * 4096 + payload second * 64 + payload third = n
  unfold payload at code
  have valid : n.isValidChar := by
    unfold Nat.isValidChar
    omega
  have small : n < 0x10000 := by omega
  have large : ¬ n < 0x800 := by omega
  have larger : ¬ n < 0x80 := by omega
  have lead : 0xe0 + n / 4096 = first.toNat := by omega
  have middle : 0x80 + n / 64 % 64 = second.toNat := by omega
  have last : 0x80 + n % 64 = third.toNat := by omega
  rw [encodeChar, toNat_ofNat valid, if_neg larger, if_neg large, if_pos small, byte_eq lead,
    byte_eq middle, byte_eq last]

theorem encodeChar_four (least : 0xf0 ≤ first.toNat) (most : first.toNat < 0xf5)
    (next : isSecond first second = true) (goesOn : isContinuation third = true)
    (ends : isContinuation fourth = true) :
    encodeChar (Char.ofNat ((first.toNat - 0xf0) * 262144 + payload second * 4096 +
      payload third * 64 + payload fourth)) = [first, second, third, fourth] := by
  obtain ⟨low, high, -, -, shortest, largest⟩ := bounds_of_isSecond next
  obtain ⟨low', high'⟩ := isContinuation_iff.mp goesOn
  obtain ⟨low'', high''⟩ := isContinuation_iff.mp ends
  generalize code : (first.toNat - 0xf0) * 262144 + payload second * 4096 + payload third * 64 +
    payload fourth = n
  unfold payload at code
  have valid : n.isValidChar := .inr (by omega)
  have large : ¬ n < 0x10000 := by omega
  have larger : ¬ n < 0x800 := by omega
  have largest : ¬ n < 0x80 := by omega
  have lead : 0xf0 + n / 262144 = first.toNat := by omega
  have middle : 0x80 + n / 4096 % 64 = second.toNat := by omega
  have inner : 0x80 + n / 64 % 64 = third.toNat := by omega
  have last : 0x80 + n % 64 = fourth.toNat := by omega
  rw [encodeChar, toNat_ofNat valid, if_neg largest, if_neg larger, if_neg large, byte_eq lead,
    byte_eq middle, byte_eq inner, byte_eq last]

/-- A character that is read is spelled by the bytes it was read from, and only a sequence of three
bytes at most is cut off. -/
theorem head_spec (first : UInt8) (rest : List UInt8) :
    match head first rest with
    | .char c width => encodeChar c = first :: rest.take (width - 1)
    | .malformed _ => True
    | .truncated => rest.length ≤ 2 := by
  fun_cases head first rest with
  | case1 _ n small => exact encodeChar_one small
  | case2 => trivial
  | case3 => exact Nat.zero_le 2
  | case4 => trivial
  | case5 n _ lead second tail next most =>
    have least : 0xc2 ≤ first.toNat ∧ first.toNat < 0xf5 := by simpa [n] using lead
    exact encodeChar_two least.1 most (by simpa using next)
  | case6 => exact Nat.le_succ 1
  | case7 => trivial
  | case8 n _ _ second next least third tail ends most =>
    exact encodeChar_three (Nat.le_of_not_lt least) most (by simpa using next) (by simpa using ends)
  | case9 => exact Nat.le_refl 2
  | case10 => trivial
  | case11 n _ lead second next _ third goesOn least fourth tail ends =>
    have most : 0xc2 ≤ first.toNat ∧ first.toNat < 0xf5 := by simpa [n] using lead
    exact encodeChar_four (Nat.le_of_not_lt least) most.2 (by simpa using next)
      (by simpa using goesOn) (by simpa using ends)

end Reading

end Highlighter.Text.Utf8
