import Highlighter.Console.Selection
import Highlighter.Proofs.Result
import Highlighter.Proofs.Text.Blank
import Highlighter.Proofs.Text.Number

/-! How a selection of lines is written. It is one line number, or two with a colon between them, each
of which may be missing. Blanks around a number do not count, and neither do the blanks where one is
missing. No part of a selection holds a colon, so the first colon of a text is the one between them. -/
namespace Highlighter.Console

/-- One side of the colon, or the whole of a selection without one: a line number that is counted
from 1, with blanks around it, or blanks only. -/
inductive LinePart : List Char → Option Nat → Prop
  | missing {text : List Char} (blank : ∀ c ∈ text, Text.isBlank c = true) : LinePart text none
  | line {text digits : List Char} {n : Nat} (padded : Text.Padded digits text)
    (written : Text.Decimal digits n) (counted : 1 ≤ n) (small : n < Text.limit64) :
    LinePart text (some n)

/-- The texts that name the lines from a first to a last one, both of them counted from 1. -/
inductive Selects : List Char → Nat → Nat → Prop
  | between {front back : List Char} {a b : Nat} (first : LinePart front (some a))
    (last : LinePart back (some b)) (ordered : a ≤ b) : Selects (front ++ ':' :: back) a b
  | toEnd {front back : List Char} {a : Nat} (first : LinePart front (some a))
    (last : LinePart back none) : Selects (front ++ ':' :: back) a (Text.limit64 - 1)
  | fromStart {front back : List Char} {b : Nat} (first : LinePart front none)
    (last : LinePart back (some b)) : Selects (front ++ ':' :: back) 1 b
  | all {front back : List Char} (first : LinePart front none) (last : LinePart back none) :
    Selects (front ++ ':' :: back) 1 (Text.limit64 - 1)
  | single {text : List Char} {a : Nat} (line : LinePart text (some a)) : Selects text a a

section Parts

variable {text : List Char} {n? : Option Nat} {n : Nat}

theorem LinePart.bounds (part : LinePart text (some n)) : 1 ≤ n ∧ n < Text.limit64 := by
  cases part with
  | line padded written counted small => exact ⟨counted, small⟩

theorem LinePart.colon_not_mem (part : LinePart text n?) : ':' ∉ text := by
  have notBlank : Text.isBlank ':' = false := by decide
  cases part with
  | missing blank =>
    intro member
    exact absurd (blank ':' member) (by rw [notBlank]; decide)
  | line padded written counted small =>
    cases padded with
    | around before after front back =>
      rw [List.mem_append, List.mem_append]
      rintro ((first | inside) | last)
      · exact absurd (front ':' first) (by rw [notBlank]; decide)
      · rcases written.mem ':' inside with digit | plus
        · exact absurd digit (by decide)
        · exact absurd plus (by decide)
      · exact absurd (back ':' last) (by rw [notBlank]; decide)

theorem lineNumber?_eq_ok_iff : lineNumber? text = .ok n? ↔ LinePart text n? := by
  constructor
  · intro read
    rw [lineNumber?] at read
    split at read
    · rename_i empty
      cases read
      exact .missing (Text.trim_eq_nil_iff.mp (List.isEmpty_iff.mp empty))
    · split at read
      · cases read
      · cases read
      · rename_i n nonzero number
        cases read
        obtain ⟨written, small⟩ := Text.decimal?_eq_some_iff.mp number
        exact .line (Text.padded_trim text) written (Nat.pos_of_ne_zero nonzero) small
  · intro part
    cases part with
    | missing blank =>
      rw [lineNumber?, Text.trim_eq_nil_iff.mpr blank]
      rfl
    | @line digits n padded written counted small =>
      have trimmed : Text.trim text = digits := by
        refine Text.trim_eq_iff.mpr ⟨padded, fun c first => ?_, fun c last => ?_⟩
        · exact written.isBlank (List.mem_of_mem_head? first)
        · exact written.isBlank (List.mem_of_getLast? last)
      have filled : digits.isEmpty = false := List.isEmpty_eq_false_iff.mpr written.ne_nil
      have number := Text.decimal?_eq_some_iff.mpr ⟨written, small⟩
      simp only [lineNumber?, trimmed, filled, number]
      cases n with
      | zero => cases counted
      | succ n => rfl

end Parts

theorem linesBetween_eq_ok {first last a b : Nat} :
    linesBetween first last = .ok (a, b) ↔ first ≤ last ∧ first - 1 = a ∧ last = b := by
  unfold linesBetween
  split
  · rename_i reversed
    simp [Nat.not_le.mpr reversed]
  · rename_i ordered
    simp [Nat.le_of_not_lt ordered]

theorem Selects.bounds {text : List Char} {a b : Nat} (selects : Selects text a b) :
    1 ≤ a ∧ a ≤ b ∧ b < Text.limit64 := by
  have some64 : 1 < Text.limit64 := by decide
  cases selects with
  | between first last ordered => exact ⟨first.bounds.1, ordered, last.bounds.2⟩
  | toEnd first last =>
    obtain ⟨counted, small⟩ := first.bounds
    omega
  | fromStart first last => exact ⟨Nat.le_refl _, last.bounds⟩
  | all first last => omega
  | single line =>
    obtain ⟨counted, small⟩ := line.bounds
    exact ⟨counted, Nat.le_refl _, small⟩

/-- A missing first line is the first of all, and a missing last line is past every line. -/
theorem selects_colon {front back : List Char} {first? last? : Option Nat}
    (first : LinePart front first?) (last : LinePart back last?)
    (ordered : first?.getD 1 ≤ last?.getD (Text.limit64 - 1)) :
    Selects (front ++ ':' :: back) (first?.getD 1) (last?.getD (Text.limit64 - 1)) := by
  cases first? with
  | none =>
    cases last? with
    | none => exact .all first last
    | some b => exact .fromStart first last
  | some a =>
    cases last? with
    | none => exact .toEnd first last
    | some b => exact .between first last ordered

theorem readLineRange_colon {front back : List Char} {first? last? : Option Nat}
    (first : LinePart front first?) (last : LinePart back last?) :
    readLineRange (front ++ ':' :: back) =
      linesBetween (first?.getD 1) (last?.getD (Text.limit64 - 1)) := by
  rw [readLineRange, Text.cut?_append back first.colon_not_mem]
  simp only [lineNumber?_eq_ok_iff.mpr first, lineNumber?_eq_ok_iff.mpr last, bind, Except.bind]

theorem readLineRange_single {text : List Char} {line : Nat} (part : LinePart text (some line)) :
    readLineRange text = linesBetween line line := by
  rw [readLineRange, Text.cut?_eq_none_iff.mpr part.colon_not_mem]
  simp only [lineNumber?_eq_ok_iff.mpr part, bind, Except.bind]

/-- The lines are counted from 0 in a range, which ends before its second number. -/
theorem readLineRange_eq_ok_iff {text : List Char} {range : Nat × Nat} :
    readLineRange text = .ok range ↔ ∃ a b, Selects text a b ∧ range = (a - 1, b) := by
  constructor
  · intro reads
    cases cut : Text.cut? ':' text with
    | some parts =>
      obtain ⟨front, back⟩ := parts
      obtain ⟨rfl, _⟩ := Text.cut?_eq_some_iff.mp cut
      simp only [readLineRange, cut] at reads
      obtain ⟨first?, first, reads⟩ := Result.bind_eq_ok.mp reads
      obtain ⟨last?, last, reads⟩ := Result.bind_eq_ok.mp reads
      obtain ⟨ordered, begins, ends⟩ := linesBetween_eq_ok.mp reads
      refine ⟨_, _, selects_colon (lineNumber?_eq_ok_iff.mp first) (lineNumber?_eq_ok_iff.mp last)
        ordered, Prod.ext begins.symm ends.symm⟩
    | none =>
      simp only [readLineRange, cut] at reads
      obtain ⟨line?, read, reads⟩ := Result.bind_eq_ok.mp reads
      cases line? with
      | none => cases reads
      | some line =>
        obtain ⟨_, begins, ends⟩ := linesBetween_eq_ok.mp reads
        refine ⟨_, _, .single (lineNumber?_eq_ok_iff.mp read), Prod.ext begins.symm ends.symm⟩
  · rintro ⟨a, b, selects, rfl⟩
    obtain ⟨_, ordered, _⟩ := selects.bounds
    have read : linesBetween a b = .ok (a - 1, b) := linesBetween_eq_ok.mpr ⟨ordered, rfl, rfl⟩
    cases selects with
    | between first last => rw [readLineRange_colon first last]; exact read
    | toEnd first last => rw [readLineRange_colon first last]; exact read
    | fromStart first last => rw [readLineRange_colon first last]; exact read
    | all first last => rw [readLineRange_colon first last]; exact read
    | single line => rw [readLineRange_single line]; exact read

theorem parseLineRange_eq_ok_iff {text : String} {range : Nat × Nat} :
    parseLineRange text = .ok range ↔ ∃ a b, Selects text.toList a b ∧ range = (a - 1, b) := by
  rw [parseLineRange, Result.mapError_eq_ok, readLineRange_eq_ok_iff]

/-- The lines from a first to a last one, counted from 1, as a selection is written. -/
def selection (first last : Nat) : String := s!"{first}:{last}"

theorem toList_selection (first last : Nat) :
    (selection first last).toList = Nat.toDigits 10 first ++ ':' :: Nat.toDigits 10 last := by
  have written : selection first last = first.repr ++ ":" ++ last.repr := rfl
  have mark : ":".toList = [':'] := by decide
  rw [written, String.toList_append, String.toList_append, Nat.toList_repr, Nat.toList_repr, mark,
    List.append_assoc, List.singleton_append]

theorem selects_selection {first last : Nat} (counted : 1 ≤ first) (ordered : first ≤ last)
    (small : last < Text.limit64) : Selects (selection first last).toList first last := by
  have digits {n : Nat} (counted : 1 ≤ n) (small : n < Text.limit64) :
      LinePart (Nat.toDigits 10 n) (some n) :=
    .line (Text.padded_self _) (Text.decimal_toDigits n) counted small
  rw [toList_selection]
  exact .between (digits counted (Nat.lt_of_le_of_lt ordered small))
    (digits (Nat.le_trans counted ordered) small) ordered

theorem parseLineRange_selection {first last : Nat} (counted : 1 ≤ first) (ordered : first ≤ last)
    (small : last < Text.limit64) :
    parseLineRange (selection first last) = .ok (first - 1, last) :=
  parseLineRange_eq_ok_iff.mpr ⟨_, _, selects_selection counted ordered small, rfl⟩

/-- A text is read exactly when it selects lines, and gives these lines as a range. The range begins
one before its first line, which is counted from 1, and holds one line at least; its end has 64 bits.
Two line numbers with a colon between them are read back. -/
theorem selections_follow_their_grammar :
    (∀ (text : String) (range : Nat × Nat), parseLineRange text = .ok range ↔
      ∃ a b, Selects text.toList a b ∧ range = (a - 1, b)) ∧
    (∀ (text : List Char) (a b : Nat), Selects text a b →
      1 ≤ a ∧ a - 1 < b ∧ b < Text.limit64) ∧
    (∀ a b : Nat, 1 ≤ a → a ≤ b → b < Text.limit64 →
      parseLineRange (selection a b) = .ok (a - 1, b)) := by
  refine ⟨fun _ _ => parseLineRange_eq_ok_iff, fun text a b selects => ?_,
    fun _ _ => parseLineRange_selection⟩
  obtain ⟨counted, ordered, small⟩ := selects.bounds
  exact ⟨counted, by omega, small⟩

/-- A number with a plus sign and a zero in front, blanks on all sides and no last line; and the
last line that can be named. -/
theorem seventh_line_to_the_end :
    Selects " +07 :\t".toList 7 (Text.limit64 - 1) ∧
      parseLineRange " +07 :\t" = .ok (6, Text.limit64 - 1) ∧ 7 - 1 < Text.limit64 - 1 ∧
      parseLineRange (selection (Text.limit64 - 1) (Text.limit64 - 1)) =
        .ok (Text.limit64 - 1 - 1, Text.limit64 - 1) := by
  obtain ⟨reads, bounds, numbers⟩ := selections_follow_their_grammar
  have text : " +07 :\t".toList = [' ', '+', '0', '7', ' '] ++ ':' :: ['\t'] := by decide
  have seven : LinePart [' ', '+', '0', '7', ' '] (some 7) := by
    have digits : Text.Decimal ['+', '0', '7'] 7 :=
      .plus (by decide : ['0', '7'] ≠ []) (List.all_eq_true.mp (by decide))
    have padded : Text.Padded ['+', '0', '7'] [' ', '+', '0', '7', ' '] :=
      .around [' '] [' '] (List.all_eq_true.mp (by decide)) (List.all_eq_true.mp (by decide))
    exact .line padded digits (by decide) (by decide)
  have selects : Selects " +07 :\t".toList 7 (Text.limit64 - 1) := by
    rw [text]
    exact .toEnd seven (.missing (List.all_eq_true.mp (by decide)))
  refine ⟨selects, ?_, (bounds _ _ _ selects).2.1, ?_⟩
  · exact (reads _ _).mpr ⟨_, _, selects, rfl⟩
  · exact numbers _ _ (by decide) (by decide) (by decide)

end Highlighter.Console
