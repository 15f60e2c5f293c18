import Highlighter.Json.Parser
import Highlighter.Proofs.Text.Number
import Mathlib.Data.List.DropRight
import Mathlib.Tactic.SplitIfs

/-! What is written is read back, whatever follows it. An escape gives the code of its character, and
codes among which there are no surrogates give their characters; so a quoted string gives its text,
and an object gives its members in their order. -/
namespace Highlighter.Json

section Codes
variable (fuel : Nat) (rest : List Char)

/-- What reading goes on to after the code of a character. -/
def codesAfter (c : Char) : Option (List Nat × List Char) :=
  (codes? fuel rest).map fun (codes, rest) => (c.toNat :: codes, rest)

theorem codes?_plain {c : Char} (unquoted : c ≠ '\x22') (large : ¬ c.toNat < 0x20)
    (unescaped : c ≠ '\\') : codes? (fuel + 1) (c :: rest) = codesAfter fuel rest c := by
  simp [codes?, unquoted, large, unescaped, codesAfter]

theorem codes?_letter {e c : Char} (known : e ≠ 'u') (means : escapeOf? e = some c) :
    codes? (fuel + 1) ('\\' :: e :: rest) = codesAfter fuel rest c := by
  unfold codes?
  simp [means, codesAfter]

theorem codes?_unit {c : Char} (small : c.toNat < 0x20) :
    codes? (fuel + 1) ('\\' :: 'u' :: (Text.zeroPadded 4 (Text.hexDigits c.toNat) ++ rest)) =
      codesAfter fuel rest c := by
  have digits : ∀ n < 0x20, Text.zeroPadded 4 (Text.hexDigits n) =
      ['0', '0', (n / 16).digitChar, (n % 16).digitChar] := by decide
  have high : Text.hexDigit? (c.toNat / 16).digitChar = some (c.toNat / 16) :=
    Text.hexDigit?_digitChar (by omega)
  have low : Text.hexDigit? (c.toNat % 16).digitChar = some (c.toNat % 16) :=
    Text.hexDigit?_digitChar (by omega)
  have zero : Text.hexDigit? '0' = some 0 := by decide
  have sum : 16 * (c.toNat / 16) + c.toNat % 16 = c.toNat := by omega
  unfold codes?
  rw [digits c.toNat small]
  simp [unit?, Text.hexValue?, high, low, zero, sum, codesAfter]

/-- Whatever the escape of a character is, it is read as this character. -/
theorem codes?_escaped (c : Char) :
    codes? (fuel + 1) (escaped c ++ rest) = codesAfter fuel rest c := by
  unfold escaped
  split_ifs with special back feed newline carriage tab small
  · rw [Bool.or_eq_true, decide_eq_true_eq, decide_eq_true_eq] at special
    rcases special with rfl | rfl
    · exact codes?_letter fuel rest (by decide) (by decide)
    · exact codes?_letter fuel rest (by decide) (by decide)
  · exact back ▸ codes?_letter fuel rest (by decide) (by decide)
  · exact feed ▸ codes?_letter fuel rest (by decide) (by decide)
  · exact newline ▸ codes?_letter fuel rest (by decide) (by decide)
  · exact carriage ▸ codes?_letter fuel rest (by decide) (by decide)
  · exact tab ▸ codes?_letter fuel rest (by decide) (by decide)
  · exact codes?_unit fuel rest small
  · rw [Bool.or_eq_true, decide_eq_true_eq, decide_eq_true_eq, not_or] at special
    exact codes?_plain fuel rest special.1 small special.2

end Codes

theorem codes?_quoted {fuel : Nat} {cs : List Char} (enough : cs.length < fuel) (rest : List Char) :
    codes? fuel (cs.flatMap escaped ++ '\x22' :: rest) = some (cs.map Char.toNat, rest) := by
  induction cs generalizing fuel with
  | nil =>
    obtain ⟨fuel, rfl⟩ := Nat.exists_eq_add_of_lt enough
    rfl
  | cons c cs ih =>
    rw [List.length_cons] at enough
    obtain ⟨fuel, rfl⟩ : ∃ n, fuel = n + 1 := ⟨fuel - 1, by omega⟩
    rw [List.flatMap_cons, List.append_assoc, codes?_escaped, codesAfter, ih (by omega)]
    rfl

/-- Characters are no surrogates. -/
theorem charsOf?_codes (cs : List Char) : charsOf? (cs.map Char.toNat) = some cs := by
  have code : ∀ c : Char, Text.charOfCode? c.toNat = some c := by
    intro c
    have valid : c.toNat.isValidChar := c.valid
    rw [Text.charOfCode?, if_pos valid, Char.ofNat_toNat]
  induction cs with
  | nil => rfl
  | cons c cs ih =>
    cases cs with
    | nil => simp [charsOf?, code]
    | cons next cs =>
      have valid : c.toNat < 0xd800 ∨ 0xdfff < c.toNat ∧ c.toNat < 0x110000 := c.valid
      have whole : ¬ (decide (0xd800 ≤ c.toNat) && decide (c.toNat < 0xdc00)) = true := by
        rw [Bool.and_eq_true, decide_eq_true_eq, decide_eq_true_eq]
        omega
      rw [List.map_cons] at ih
      rw [List.map_cons, List.map_cons, charsOf?, if_neg whole, code, Option.bind_some, ih]
      rfl

theorem length_le_flatMap_escaped (cs : List Char) : cs.length ≤ (cs.flatMap escaped).length := by
  induction cs with
  | nil => exact Nat.zero_le _
  | cons c cs ih =>
    have filled : 0 < (escaped c).length := by
      unfold escaped
      split_ifs <;> exact Nat.succ_pos _
    rw [List.flatMap_cons, List.length_append, List.length_cons]
    omega

/-- A quoted string, without its opening quote, is read as its text. -/
theorem string?_quoted (text : String) (rest : List Char) :
    string? (text.toList.flatMap escaped ++ '\x22' :: rest) = some (some text, rest) := by
  have bound := length_le_flatMap_escaped text.toList
  have enough : text.toList.length <
      (text.toList.flatMap escaped ++ '\x22' :: rest).length + 1 := by
    rw [List.length_append]
    omega
  rw [string?, codes?_quoted enough]
  simp only [Option.map_some, charsOf?_codes, String.ofList_toList]

theorem skipSpaces_append {lead : List Char} (blank : lead.all isSpace = true)
    (cs : List Char) : skipSpaces (lead ++ cs) = skipSpaces cs :=
  List.dropWhile_append_of_pos (List.all_eq_true.mp blank)

theorem skipSpaces_cons {c : Char} (solid : isSpace c = false) (cs : List Char) :
    skipSpaces (c :: cs) = c :: cs :=
  List.dropWhile_cons_of_neg (by simp [solid])

theorem toList_quote (text : String) :
    (quote text).toList = '\x22' :: (text.toList.flatMap escaped ++ ['\x22']) := by
  rw [quote, String.toList_ofList]
  rfl

/-- A quoted text after blanks: the blanks and the quote are passed over. -/
theorem skipSpaces_quoted {lead : List Char} (blank : lead.all isSpace = true) (text : String)
    (rest : List Char) : skipSpaces (lead ++ (quote text).toList ++ rest) =
      '\x22' :: (text.toList.flatMap escaped ++ '\x22' :: rest) := by
  have solid : isSpace '\x22' = false := by decide
  rw [List.append_assoc, skipSpaces_append blank, toList_quote, List.cons_append,
    skipSpaces_cons solid, List.append_assoc, List.singleton_append]

theorem value?_quoted (fuel : Nat) {lead : List Char} (blank : lead.all isSpace = true)
    (text : String) (rest : List Char) :
    value? (fuel + 1) (lead ++ (quote text).toList ++ rest) = some (.string (some text), rest) := by
  rw [value?, skipSpaces_quoted blank]
  simp only [string?_quoted, Option.map_some]

theorem afterWord?_singleton (c : Char) (rest : List Char) :
    afterWord? (String.singleton c) (c :: rest) = some rest := by
  simp [afterWord?]

/-- What reading goes on to after the value of a member. -/
def membersAfter (fuel : Nat) (member : Option String × Value) (tail : List Char) :
    Option (List (Option String × Value) × List Char) :=
  match skipSpaces tail with
  | ',' :: rest => (members? fuel rest).map fun (members, rest) => (member :: members, rest)
  | '\x7d' :: rest => some ([member], rest)
  | _ => none

theorem membersAfter_comma (fuel : Nat) (member : Option String × Value) (rest : List Char) :
    membersAfter fuel member (',' :: rest) =
      (members? fuel rest).map fun (members, rest) => (member :: members, rest) := by
  have comma : isSpace ',' = false := by decide
  rw [membersAfter, skipSpaces_cons comma]
  rfl

theorem membersAfter_brace {tail rest : List Char} (closed : skipSpaces tail = '\x7d' :: rest)
    (fuel : Nat) (member : Option String × Value) :
    membersAfter fuel member tail = some ([member], rest) := by
  rw [membersAfter, closed]
  rfl

theorem members?_member {fuel : Nat} {lead body tail : List Char} {item : Value} (key : String)
    (blank : lead.all isSpace = true)
    (reads : value? fuel (body ++ tail) = some (item, tail)) :
    members? (fuel + 1) (lead ++ (quote key).toList ++ ':' :: (body ++ tail)) =
      membersAfter fuel (some key, item) tail := by
  have colon : isSpace ':' = false := by decide
  have opened := afterWord?_singleton '\x22'
  have parted := afterWord?_singleton ':'
  rw [members?, skipSpaces_quoted blank]
  rw [show "\x22" = String.singleton '\x22' from rfl, show ":" = String.singleton ':' from rfl]
  simp only [opened, string?_quoted, skipSpaces_cons colon, parted, reads, Option.bind_eq_bind,
    Option.bind_some]
  rfl

theorem members?_skipSpaces (fuel : Nat) (text : List Char) :
    members? fuel (skipSpaces text) = members? fuel text := by
  have twice : skipSpaces (skipSpaces text) = skipSpaces text :=
    List.dropWhile_idempotent isSpace text
  cases fuel with
  | zero => rfl
  | succ fuel => rw [members?, members?, twice]

/-- An object is read when its members are. -/
theorem value?_object {fuel : Nat} {lead text rest : List Char}
    {members : List (Option String × Value)} (blank : lead.all isSpace = true)
    (reads : members? fuel text = some (members, rest)) :
    value? (fuel + 1) (lead ++ '\x7b' :: text) = some (.object members, rest) := by
  have brace : isSpace '\x7b' = false := by decide
  rw [value?, skipSpaces_append blank, skipSpaces_cons brace]
  simp only
  split
  · rename_i following closed
    cases fuel with
    | zero => cases reads
    | succ fuel =>
      rw [members?, closed] at reads
      cases reads
  · rw [members?_skipSpaces, reads]
    rfl

end Highlighter.Json
