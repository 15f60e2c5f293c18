import Highlighter.Palette.Color
import Highlighter.Proofs.Text.Blank
import Highlighter.Proofs.Text.Number

/-! How a colour is written: six hexadecimal digits of either case, two for each channel, after a
number sign or without one, with blanks around them. The length of a text is counted in bytes and its
digits are cut out by bytes, so it takes both tests of a text, that it has six bytes and that all of
its characters are digits, for a cut to be between two digits. -/
namespace Highlighter.Color

/-- Texts that write six digits. -/
structure Written (text digits : List Char) : Prop where
  form : Text.Padded digits text ∨ Text.Padded ('#' :: digits) text
  six : digits.length = 6
  hexadecimal : ∀ c ∈ digits, ∃ d < 16, c.toLower = d.digitChar

theorem Written.length_le {text digits : List Char} (written : Written text digits) :
    6 ≤ text.length := by
  rcases written.form with padded | padded
  · exact written.six ▸ padded.length_le
  · exact Nat.le_of_succ_le (written.six ▸ padded.length_le)

/-- Two digits and the channel that they stand for. -/
inductive Pair (high low : Char) (channel : UInt8) : Prop
  | digits {h l : Nat} (upper : h < 16 ∧ high.toLower = h.digitChar)
    (lower : l < 16 ∧ low.toLower = l.digitChar) (value : channel.toNat = 16 * h + l)

/-- Six digits and the colour that they stand for. -/
inductive Spells : List Char → Color → Prop
  | pairs {r r' g g' b b' : Char} {color : Color} (red : Pair r r' color.red)
    (green : Pair g g' color.green) (blue : Pair b b' color.blue) :
    Spells [r, r', g, g', b, b'] color

theorem channelDigits_eq (n : UInt8) :
    channelDigits n = [(n.toNat / 16).digitChar, (n.toNat % 16).digitChar] := by
  have bound : n.toNat < 256 := n.toNat_lt
  rw [channelDigits, Text.hexDigits]
  by_cases small : n.toNat < 16
  · have high : n.toNat / 16 = 0 := by omega
    have low : n.toNat % 16 = n.toNat := by omega
    rw [Nat.toDigits_of_lt_base small, high, low]
    rfl
  · rw [Nat.toDigits_of_base_le (by decide) (by omega),
      Nat.toDigits_of_lt_base (show n.toNat / 16 < 16 by omega)]
    rfl

namespace Pair

variable {high low : Char} {channel : UInt8}

theorem channelDigits (pair : Pair high low channel) :
    Color.channelDigits channel = [high.toLower, low.toLower] := by
  cases pair with
  | @digits h l upper lower value =>
    have quotient : channel.toNat / 16 = h := by omega
    have remainder : channel.toNat % 16 = l := by omega
    rw [channelDigits_eq, quotient, remainder, upper.2, lower.2]

theorem unique {other : UInt8} (pair : Pair high low channel) (again : Pair high low other) :
    channel = other := by
  cases pair with
  | digits upper lower value =>
    cases again with
    | digits upper' lower' value' =>
      have front := Text.hexDigit?_eq_some_iff.mpr upper
      have back := Text.hexDigit?_eq_some_iff.mpr lower
      rw [Text.hexDigit?_eq_some_iff.mpr upper'] at front
      rw [Text.hexDigit?_eq_some_iff.mpr lower'] at back
      cases front
      cases back
      exact UInt8.toNat_inj.mp (value.trans value'.symm)

/-- The digits of a channel stand for it. -/
theorem self (n : UInt8) : Pair (n.toNat / 16).digitChar (n.toNat % 16).digitChar n := by
  have bound : n.toNat < 256 := n.toNat_lt
  have small : ∀ d < 16, d.digitChar.toLower = d.digitChar := by decide
  have upper : n.toNat / 16 < 16 := by omega
  have lower : n.toNat % 16 < 16 := by omega
  exact .digits ⟨upper, small _ upper⟩ ⟨lower, small _ lower⟩ (Nat.div_add_mod _ _).symm

end Pair

namespace Spells

theorem unique {digits : List Char} {a b : Color} (spells : Spells digits a)
    (again : Spells digits b) : a = b := by
  cases spells with
  | pairs red green blue =>
    cases again with
    | pairs red' green' blue' =>
      obtain ⟨r, g, b⟩ := a
      rw [Color.mk.injEq]
      exact ⟨red.unique red', green.unique green', blue.unique blue'⟩

theorem toString {digits : List Char} {color : Color} (spells : Spells digits color) :
    color.toString.toList = '#' :: digits.map Char.toLower := by
  cases spells with
  | pairs red green blue =>
    rw [Color.toString, String.toList_ofList, red.channelDigits, green.channelDigits,
      blue.channelDigits]
    rfl

theorem length_eq {digits : List Char} {color : Color} (spells : Spells digits color) :
    digits.length = 6 := by
  cases spells
  rfl

end Spells

namespace Digits

variable (d : Digits) {place : Nat}

theorem splits (inside : place ≤ 6) : (d.text.pos ⟨place⟩ (d.isValid inside)).Splits
    (String.ofList (d.text.toList.take place)) (String.ofList (d.text.toList.drop place)) := by
  have size : (String.ofList (d.text.toList.take place)).utf8ByteSize = place := by
    rw [Text.utf8ByteSize_of_isHexDigit fun c member =>
      d.isHexDigit c (List.mem_of_mem_take member), List.length_take, d.length,
      Nat.min_eq_left inside]
  constructor
  · rw [← String.ofList_append, List.take_append_drop, String.ofList_toList]
  · exact String.Pos.Raw.ext size.symm

theorem toList_pair (inside : place + 2 ≤ 6) :
    (d.pair place inside).toList = (d.text.toList.drop place).take 2 := by
  have before := d.splits (Nat.le_of_add_right_le inside)
  have after := d.splits inside
  have cut : d.pair place inside = String.ofList ((d.text.toList.drop place).take 2) := by
    obtain ⟨ordered, copied⟩ := String.copy_slice_eq_iff_splits.mpr
      ⟨_, String.ofList (d.text.toList.drop (place + 2)), by
        rw [← String.ofList_append, ← List.drop_drop, List.take_append_drop]
        exact before, by
        rw [← String.ofList_append, ← List.take_add]
        exact after⟩
    rw [pair, String.extract_eq_copy_slice _ _ ordered, copied]
  rw [cut, String.toList_ofList]

theorem channel?_eq {high low : Char} (place : Nat) (inside : place + 2 ≤ 6)
    (spelled : (d.text.toList.drop place).take 2 = [high, low]) :
    ∃ channel, d.channel? place inside = some channel ∧ Pair high low channel := by
  have digit : ∀ c ∈ [high, low], Text.isHexDigit c = true := fun c member =>
    d.isHexDigit c (List.mem_of_mem_drop (List.mem_of_mem_take (spelled ▸ member)))
  obtain ⟨h, first⟩ := Option.isSome_iff_exists.mp (digit high (by simp))
  obtain ⟨l, second⟩ := Option.isSome_iff_exists.mp (digit low (by simp))
  have upper := Text.hexDigit?_eq_some_iff.mp first
  have lower := Text.hexDigit?_eq_some_iff.mp second
  have value : Text.hexadecimal? 0x100 [high, low] = some (16 * h + l) := by
    have bare : [high, low].head? ≠ some '+' := by
      intro plus
      cases plus
      exact absurd (digit '+' (by simp)) (by decide)
    refine (Text.unsigned?_of_head bare).mpr ⟨List.cons_ne_nil _ _, ?_, by omega⟩
    simp [Text.hexValue?, first, second]
  refine ⟨UInt8.ofNat (16 * h + l), ?_, .digits upper lower ?_⟩
  · rw [channel?, toList_pair, spelled, value, Option.map_some]
  · rw [UInt8.toNat_ofNat']
    exact Nat.mod_eq_of_lt (by omega)

theorem color?_eq : ∃ color, d.color? = some color ∧ Spells d.text.toList color := by
  have six := d.length
  match spelled : d.text.toList, six with
  | [r, r', g, g', b, b'], _ =>
    obtain ⟨red, readRed, isRed⟩ := d.channel?_eq 0 (by decide) (by rw [spelled]; rfl)
    obtain ⟨green, readGreen, isGreen⟩ :=
      d.channel?_eq 2 (by decide) (by rw [spelled]; rfl)
    obtain ⟨blue, readBlue, isBlue⟩ :=
      d.channel?_eq 4 (by decide) (by rw [spelled]; rfl)
    refine ⟨⟨red, green, blue⟩, ?_, .pairs isRed isGreen isBlue⟩
    rw [color?, readRed, readGreen, readBlue]
    rfl

end Digits

section Reading

variable {text : String} {digits : List Char}

theorem toList_digitsOf_cases (text : String) :
    Text.trim text.toList = '#' :: (digitsOf text).toList ∨
      Text.trim text.toList = (digitsOf text).toList := by
  rw [digitsOf, String.toList_ofList]
  split
  · exact .inl ‹_›
  · exact .inr rfl

/-- A text whose digits pass both tests writes them. -/
theorem written_digitsOf (size : (digitsOf text).utf8ByteSize = 6)
    (hexadecimal : (digitsOf text).toList.all Text.isHexDigit = true) :
    Written text.toList (digitsOf text).toList := by
  have padded := Text.padded_trim text.toList
  refine ⟨?_, Digits.length ⟨_, size, hexadecimal⟩, fun c member =>
    Text.isHexDigit_iff.mp (List.all_eq_true.mp hexadecimal c member)⟩
  rcases toList_digitsOf_cases text with signed | plain
  · rw [signed] at padded
    exact .inr padded
  · rw [plain] at padded
    exact .inl padded

variable (written : Written text.toList digits)
include written

theorem Written.isHexDigit : ∀ c ∈ digits, Text.isHexDigit c = true := fun c member =>
  Text.isHexDigit_iff.mpr (written.hexadecimal c member)

theorem Written.digitsOf_eq : digitsOf text = String.ofList digits := by
  have solid : ∀ c ∈ digits, Text.isBlank c = false := fun c member =>
    Text.isBlank_of_isHexDigit (written.isHexDigit c member)
  have last : ∀ c, digits.getLast? = some c → Text.isBlank c = false := fun c final =>
    solid c (List.mem_of_getLast? final)
  rcases written.form with padded | padded
  · have trimmed : Text.trim text.toList = digits := Text.trim_eq_iff.mpr
      ⟨padded, fun c first => solid c (List.mem_of_mem_head? first), last⟩
    rw [digitsOf, trimmed]
    split
    · -- a number sign is no digit
      exact absurd (written.isHexDigit '#' List.mem_cons_self) (by decide)
    · rfl
  · have trimmed : Text.trim text.toList = '#' :: digits := by
      refine Text.trim_eq_iff.mpr ⟨padded, fun c first => ?_, fun c final => ?_⟩
      · have sign : '#' = c := by simpa using first
        exact sign ▸ by decide
      · have filled : digits ≠ [] := List.ne_nil_of_length_eq_add_one written.six
        rw [List.getLast?_cons_of_ne_nil filled] at final
        exact last c final
    rw [digitsOf, trimmed]
    rfl

theorem Written.parse_eq : ∃ color, parse text = .ok color ∧ Spells digits color := by
  have read : (digitsOf text).toList = digits := by rw [written.digitsOf_eq, String.toList_ofList]
  have size : (digitsOf text).utf8ByteSize = 6 := by
    rw [written.digitsOf_eq, Text.utf8ByteSize_of_isHexDigit written.isHexDigit, written.six]
  have hexadecimal : (digitsOf text).toList.all Text.isHexDigit = true := by
    rw [read]
    exact List.all_eq_true.mpr written.isHexDigit
  obtain ⟨color, found, spells⟩ := Digits.color?_eq ⟨_, size, hexadecimal⟩
  refine ⟨color, ?_, read ▸ spells⟩
  simp only [parse, size, hexadecimal, dite_true, found]

end Reading

theorem parse_of_not_written {text : String} (other : ∀ digits, ¬ Written text.toList digits) :
    parse text = .error (.wrongLength text) ∨ parse text = .error (.notHexadecimal text) := by
  by_cases size : (digitsOf text).utf8ByteSize = 6
  · by_cases hexadecimal : (digitsOf text).toList.all Text.isHexDigit = true
    · exact absurd (written_digitsOf size hexadecimal) (other _)
    · right
      simp only [parse, size, hexadecimal, dite_true, Bool.false_eq_true, dite_false]
  · left
    simp only [parse, size, dite_false]

/-- The six digits that a colour is printed with. -/
def sixDigits (c : Color) : List Char :=
  channelDigits c.red ++ channelDigits c.green ++ channelDigits c.blue

theorem spells_sixDigits (c : Color) : Spells c.sixDigits c := by
  rw [sixDigits, channelDigits_eq, channelDigits_eq, channelDigits_eq]
  exact .pairs (.self c.red) (.self c.green) (.self c.blue)

theorem hexadecimal_channelDigits (n : UInt8) :
    ∀ c ∈ channelDigits n, ∃ d < 16, c.toLower = d.digitChar := by
  rw [channelDigits_eq]
  cases Pair.self n with
  | digits upper lower value =>
    exact List.forall_mem_cons.mpr ⟨⟨_, upper⟩, List.forall_mem_singleton.mpr ⟨_, lower⟩⟩

theorem written_toString (c : Color) : Written c.toString.toList c.sixDigits := by
  have printed : c.toString.toList = '#' :: c.sixDigits := by
    rw [Color.toString, String.toList_ofList, sixDigits, List.cons_append, List.cons_append]
  refine ⟨.inr ?_, (spells_sixDigits c).length_eq, ?_⟩
  · rw [printed]
    exact Text.padded_self _
  · exact List.forall_mem_append.mpr ⟨List.forall_mem_append.mpr
      ⟨hexadecimal_channelDigits c.red, hexadecimal_channelDigits c.green⟩,
      hexadecimal_channelDigits c.blue⟩

theorem parse_toString (c : Color) : parse c.toString = .ok c := by
  obtain ⟨color, read, spells⟩ := (written_toString c).parse_eq
  rw [read, spells.unique (spells_sixDigits c)]

/-- A text is read when it writes six digits. It is read as the colour that they stand for, which is
printed with the same digits in lower case. Any other text is refused by its own name. What has passed
both tests has no place inside of a character, so none is cut in two. Every colour is read back from
what is printed for it. -/
theorem colors_are_six_digits :
    (∀ (text : String) (digits : List Char), Written text.toList digits →
      ∃ color, parse text = .ok color ∧ Spells digits color ∧
        color.toString.toList = '#' :: digits.map Char.toLower) ∧
    (∀ text : String, (∀ digits, ¬ Written text.toList digits) →
      parse text = .error (.wrongLength text) ∨ parse text = .error (.notHexadecimal text)) ∧
    (∀ text : String, (digitsOf text).utf8ByteSize = 6 →
      (digitsOf text).toList.all Text.isHexDigit = true →
      ∀ place ≤ 6, String.Pos.Raw.IsValid (digitsOf text) ⟨place⟩) ∧
    (∀ color : Color, parse color.toString = .ok color) := by
  refine ⟨fun text digits written => ?_, fun _ => parse_of_not_written,
    fun _ size hexadecimal _ => Digits.isValid ⟨_, size, hexadecimal⟩, parse_toString⟩
  obtain ⟨color, read, spells⟩ := written.parse_eq
  exact ⟨color, read, spells, spells.toString⟩

/-- A text with digits of both cases, and one of six bytes that are three characters. -/
theorem mauve_is_read_and_accents_are_refused :
    (∃ color, parse " #CBA6f7\n" = .ok color ∧
      color.toString.toList = ['#', 'c', 'b', 'a', '6', 'f', '7']) ∧
    (parse "ééé" = .error (.wrongLength "ééé") ∨ parse "ééé" = .error (.notHexadecimal "ééé")) ∧
    String.Pos.Raw.IsValid (digitsOf " #CBA6f7\n") ⟨2⟩ := by
  obtain ⟨reads, refuses, cuts, _⟩ := colors_are_six_digits
  have digits : ['C', 'B', 'A', '6', 'f', '7'].all Text.isHexDigit = true := by decide
  have written : Written " #CBA6f7\n".toList ['C', 'B', 'A', '6', 'f', '7'] := by
    refine ⟨.inr ?_, rfl, fun c member => Text.isHexDigit_iff.mp (List.all_eq_true.mp digits c member)⟩
    exact .around [' '] ['\n'] (List.all_eq_true.mp (by decide))
      (List.all_eq_true.mp (by decide))
  have few : ∀ digits, ¬ Written "ééé".toList digits := by
    intro digits written
    exact absurd written.length_le (by decide)
  refine ⟨?_, refuses _ few, cuts _ ?_ ?_ 2 (by decide)⟩
  · obtain ⟨color, read, _, printed⟩ := reads _ _ written
    exact ⟨color, read, printed⟩
  · rw [written.digitsOf_eq]
    decide
  · rw [written.digitsOf_eq]
    exact digits

end Highlighter.Color
