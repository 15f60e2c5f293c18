import Highlighter.Proofs.Buffer.LineTexts
import Highlighter.Proofs.Buffer.Lines
import Highlighter.Proofs.Text.Blank

/-! Lines divide a buffer. Each line is a text without line ends, followed by one line end unless it
is the last line, so taking all line ends off its end leaves this text. The line of an offset is the
last one to begin at or before it; since lines begin in ascending order, there is one such line for
each offset. -/
namespace Highlighter

namespace Lines

/-- What ends a line, given the text that follows the line. A carriage return is a line end of its
own only where no line feed follows it. -/
inductive Ending : List Char → List Char → Prop where
  | feed (after : List Char) : Ending ['\n'] after
  | pair (after : List Char) : Ending ['\r', '\n'] after
  | back {after : List Char} (alone : after.head? ≠ some '\n') : Ending ['\r'] after

/-- A text without line ends. -/
def Unbroken (text : List Char) : Prop := ∀ c ∈ text, isBreak c = false

/-- The lines of a text: all but the last one consist of a text without line ends and one line end.
-/
inductive Divided : List (List Char) → Prop where
  | last {text : List Char} (unbroken : Unbroken text) : Divided [text]
  | more {text ending line : List Char} {lines : List (List Char)} (unbroken : Unbroken text)
      (ends : Ending ending (line :: lines).flatten) (later : Divided (line :: lines)) :
      Divided ((text ++ ending) :: line :: lines)

theorem Ending.breaks {ending after : List Char} (ends : Ending ending after) :
    ∀ c ∈ ending, isBreak c = true := by
  cases ends <;> simp [isBreak]

theorem unbroken_nil : Unbroken [] := fun _ member => absurd member List.not_mem_nil

theorem Unbroken.cons {c : Char} {text : List Char} (plain : isBreak c = false)
    (unbroken : Unbroken text) : Unbroken (c :: text) :=
  List.forall_mem_cons.mpr ⟨plain, unbroken⟩

theorem ending_of_endsAfter {c : Char} {rest : List Char} (ends : endsAfter c rest = true) :
    Ending [c] rest := by
  rw [endsAfter, Bool.or_eq_true, Bool.and_eq_true, decide_eq_true_eq, decide_eq_true_eq,
    bne_iff_ne] at ends
  rcases ends with rfl | ⟨rfl, alone⟩
  · exact .feed rest
  · exact .back alone

/-- A line end that does not end its line is a carriage return before a line feed. -/
theorem pair_of_not_endsAfter {c : Char} {rest : List Char} (goesOn : endsAfter c rest = false)
    (breaks : isBreak c = true) : c = '\r' ∧ ∃ more, rest = '\n' :: more := by
  rw [endsAfter, Bool.or_eq_false_iff, decide_eq_false_iff_not] at goesOn
  rw [isBreak, Bool.or_eq_true, decide_eq_true_eq, decide_eq_true_eq] at breaks
  have back : c = '\r' := breaks.resolve_left goesOn.1
  have next : rest.head? = some '\n' := by simpa [back] using goesOn.2
  cases rest with
  | nil => cases next
  | cons d more => exact ⟨back, more, by rw [Option.some.inj next]⟩

theorem Divided.tail {line next : List Char} {lines : List (List Char)}
    (divided : Divided (line :: next :: lines)) : Divided (next :: lines) := by
  cases divided with
  | more _ _ later => exact later

theorem Divided.cons {c : Char} {line : List Char} {lines : List (List Char)}
    (plain : isBreak c = false) (divided : Divided (line :: lines)) :
    Divided ((c :: line) :: lines) := by
  cases divided with
  | last unbroken => exact .last (unbroken.cons plain)
  | more unbroken ends later =>
    rw [← List.cons_append]
    exact .more (unbroken.cons plain) ends later

theorem divided_texts (cs : List Char) : Divided (texts cs) := by
  induction cs with
  | nil => exact .last unbroken_nil
  | cons c rest ih =>
    obtain ⟨line, lines, following, whole⟩ := texts_cons c rest
    have joined : (line :: lines).flatten = rest := by rw [← following, flatten_texts]
    rw [following] at ih
    rw [whole]
    split
    · rename_i ends
      have ended : Ending [c] (line :: lines).flatten := joined.symm ▸ ending_of_endsAfter ends
      exact .more unbroken_nil ended ih
    · rename_i goesOn
      rw [Bool.not_eq_true] at goesOn
      cases breaks : isBreak c with
      | false => exact ih.cons breaks
      | true =>
        -- The line feed that follows is the whole first line of the rest.
        obtain ⟨rfl, more, rfl⟩ := pair_of_not_endsAfter goesOn breaks
        obtain ⟨next, others, _, fed⟩ := texts_cons '\n' more
        have feeds : endsAfter '\n' more = true := rfl
        rw [following, if_pos feeds] at fed
        cases fed
        exact .more unbroken_nil (.pair _) ih.tail

theorem Divided.parts {lines : List (List Char)} (divided : Divided lines) {n : Nat}
    {line : List Char} (here : lines[n]? = some line) : ∃ text ending, line = text ++ ending ∧
      Unbroken text ∧ if n + 1 < lines.length then Ending ending (lines.drop (n + 1)).flatten
        else ending = [] := by
  induction divided generalizing n with
  | @last text unbroken =>
    cases n with
    | zero => exact ⟨text, [], by simpa using here.symm, unbroken, by simp⟩
    | succ n => simp at here
  | @more text ending next others unbroken ends later ih =>
    cases n with
    | zero =>
      refine ⟨text, ending, (Option.some.inj here).symm, unbroken, ?_⟩
      rw [if_pos (by simp)]
      exact ends
    | succ n =>
      rw [List.getElem?_cons_succ] at here
      obtain ⟨text, ending, whole, unbroken, ends⟩ := ih here
      refine ⟨text, ending, whole, unbroken, ?_⟩
      simpa using ends

/-- Taking line ends off the end of a line leaves its text. -/
theorem dropWhile_isBreak {text ending : List Char} (unbroken : Unbroken text)
    (breaks : ∀ c ∈ ending, isBreak c = true) :
    (text ++ ending).reverse.dropWhile isBreak = text.reverse := by
  have stays : text.reverse.dropWhile isBreak = text.reverse := by
    apply Text.dropWhile_eq_self
    intro c head
    exact unbroken c (List.mem_reverse.mp (List.mem_of_head? head))
  rw [List.reverse_append, List.dropWhile_append_of_pos (by simpa using breaks), stays]

end Lines

namespace Buffer
open Lines

variable (b : Buffer)

/-- A line holds an offset when it begins at or before it and the next line, if there is one, begins
after it. -/
def LineHolds (line offset : Nat) : Prop := ∃ start, b.lineStart? line = some start ∧ start ≤ offset ∧
  ((∃ next, b.lineStart? (line + 1) = some next ∧ offset < next) ∨ line + 1 = b.lineCount)

/-- The characters of a line are a text without line ends and, for every line but the last one, one
line end. -/
def Consists (line : Nat) (text : List Char) : Prop := ∃ start ending,
  b.lineStart? line = some start ∧ b.between start (b.lineStop line) = text ++ ending ∧
    Unbroken text ∧ if line + 1 < b.lineCount then Ending ending (b.chars.drop (b.lineStop line))
      else ending = []

/-- How lines divide a buffer. -/
structure Partitioned : Prop where
  first : b.lineStarts.head? = some 0
  ascending : b.lineStarts.Pairwise (· < ·)
  inside : ∀ start ∈ b.lineStarts, start ≤ b.length
  holder : ∀ offset line, b.LineHolds line offset ↔ line = b.lineOf offset
  texts : ∀ line < b.lineCount, ∃ text, b.lineText? line = some text ∧ b.Consists line text
  joined : ∀ first mid last, first ≤ mid → mid ≤ last → mid < b.lineCount →
    ∃ start middle stop, b.linesRange first mid = .ok (start, middle) ∧
      b.linesRange mid last = .ok (middle, stop) ∧ b.linesRange first last = .ok (start, stop) ∧
        start ≤ middle ∧ middle ≤ stop ∧
          b.between start middle ++ b.between middle stop = b.between start stop
  positions : ∀ offset, ∃ line column start, b.position offset = (line + 1, column + 1) ∧
    b.lineStart? line = some start ∧ start + column = offset

theorem lineStop_eq (line : Nat) : b.lineStop line = b.border (line + 1) := rfl

theorem lineStart?_eq_border {line : Nat} (inside : line < b.lineCount) :
    b.lineStart? line = some (b.border line) := by
  rw [border, lineStart?, List.getElem?_eq_getElem inside, Option.getD_some]

/-- The text after a line is put together from the lines after it. -/
theorem drop_border (line : Nat) :
    b.chars.drop (b.border line) = ((Lines.texts b.chars).drop line).flatten := by
  have parts := List.take_append_drop (b.border line) b.chars
  have whole : ((Lines.texts b.chars).take line).flatten ++
      ((Lines.texts b.chars).drop line).flatten = b.chars := by
    rw [← List.flatten_append, List.take_append_drop, flatten_texts]
  rw [take_border] at parts
  exact List.append_cancel_left (parts.trans whole.symm)

/-- The characters of a line, its line end included. -/
theorem between_lineStop {line : Nat} {text : List Char}
    (here : (Lines.texts b.chars)[line]? = some text) :
    b.between (b.border line) (b.lineStop line) = text := by
  obtain ⟨inside, _⟩ := List.getElem?_eq_some_iff.mp here
  rw [lineStop_eq, between_border b (Nat.le_succ line), List.take_add_one, here, Option.toList_some,
    List.drop_left' (List.length_take_of_le (Nat.le_of_lt inside)), List.flatten_singleton]

theorem consists_lineText? {line : Nat} (inside : line < b.lineCount) :
    ∃ text, b.lineText? line = some text ∧ b.Consists line text := by
  have count := b.lineCount_eq
  have begins := b.lineStart?_eq_border inside
  obtain ⟨whole, here⟩ : ∃ whole, (Lines.texts b.chars)[line]? = some whole :=
    ⟨_, List.getElem?_eq_getElem (count ▸ inside)⟩
  obtain ⟨text, ending, parts, unbroken, ends⟩ := (divided_texts b.chars).parts here
  have characters : b.between (b.border line) (b.lineStop line) = text ++ ending :=
    (b.between_lineStop here).trans parts
  rw [← count, ← drop_border, ← lineStop_eq] at ends
  have breaks : ∀ c ∈ ending, isBreak c = true := by
    split at ends
    · exact ends.breaks
    · simp [ends]
  refine ⟨text, ?_, b.border line, ending, begins, characters, unbroken, ends⟩
  -- The text stands at the beginning of the line, as long as the line without its line end.
  have cut : (b.chars.drop (b.border line)).take (b.lineStop line - b.border line) =
      text ++ ending := by
    rw [← List.drop_take]
    exact characters
  have front : (b.chars.drop (b.border line)).take text.length = text := by
    have shorter : text.length ≤ b.lineStop line - b.border line := by
      have bound := congrArg List.length cut
      rw [List.length_take, List.length_append] at bound
      omega
    rw [← Nat.min_eq_left shorter, ← List.take_take, cut]
    exact List.take_left
  rw [lineText?, lineRange?, begins, Option.map_some, Option.map_some]
  dsimp only
  rw [cut, dropWhile_isBreak unbroken breaks, List.length_reverse, Nat.add_sub_cancel_left, front]

/-- Lines begin in ascending order, so those that begin at or before an offset are the ones up to
its line. -/
theorem lineStart?_le_iff (n offset : Nat) :
    (∃ start, b.lineStart? n = some start ∧ start ≤ offset) ↔ n ≤ b.lineOf offset := by
  have ordered := passing_of_pairwise (starts_pairwise b.chars) offset
  have begun : ∀ n, (∃ start, b.lineStart? n = some start ∧ start ≤ offset) ↔
      n < (b.lineStarts.takeWhile (· ≤ offset)).length := by
    intro n
    rw [lineStarts, ← Bisection.any_getElem?_iff ordered n, Option.any_eq_true]
    simp only [decide_eq_true_eq]
    rfl
  have filled := (begun 0).mp ⟨0, rfl, Nat.zero_le offset⟩
  rw [begun, lineOf, Lines.lineAt]
  omega

theorem lineHolds_iff (line offset : Nat) : b.LineHolds line offset ↔ line = b.lineOf offset := by
  constructor
  · rintro ⟨start, begins, passed, ends⟩
    have early := (b.lineStart?_le_iff line offset).mp ⟨start, begins, passed⟩
    have late : ¬ line + 1 ≤ b.lineOf offset := by
      intro more
      obtain ⟨other, found, reached⟩ := (b.lineStart?_le_iff (line + 1) offset).mpr more
      rcases ends with ⟨next, follows, ahead⟩ | final
      · rw [follows] at found
        cases found
        exact Nat.not_lt_of_le reached ahead
      · have inside : line + 1 < b.lineCount := (List.getElem?_eq_some_iff.mp found).1
        exact Nat.ne_of_lt inside final
    omega
  · rintro rfl
    obtain ⟨start, begins, passed⟩ := (b.lineStart?_le_iff _ offset).mpr (Nat.le_refl _)
    refine ⟨start, begins, passed, ?_⟩
    cases follows : b.lineStart? (b.lineOf offset + 1) with
    | none =>
      have inside : b.lineOf offset < b.lineCount := (List.getElem?_eq_some_iff.mp begins).1
      have outside : b.lineCount ≤ b.lineOf offset + 1 := List.getElem?_eq_none_iff.mp follows
      exact .inr (Nat.le_antisymm inside outside)
    | some next =>
      refine .inl ⟨next, rfl, ?_⟩
      apply Nat.lt_of_not_le
      intro reached
      have again := (b.lineStart?_le_iff _ offset).mp ⟨next, follows, reached⟩
      exact Nat.not_succ_le_self _ again

/-- The lines of every buffer divide it, and the offsets of lines, their texts, ranges and positions
agree with this division. -/
theorem lines_partition : b.Partitioned where
  first := rfl
  ascending := starts_pairwise b.chars
  inside _ := mem_starts
  holder offset line := b.lineHolds_iff line offset
  texts _ := b.consists_lineText?
  joined first mid last before after inside := by
    have start : first < b.lineCount := Nat.lt_of_le_of_lt before inside
    have early := b.border_le before
    have late := b.border_le after
    refine ⟨b.border first, b.border mid, b.border last, ?_, ?_, ?_, early, late, ?_⟩
    · exact linesRange_eq_ok.mpr ⟨before, start, rfl, rfl⟩
    · exact linesRange_eq_ok.mpr ⟨after, inside, rfl, rfl⟩
    · exact linesRange_eq_ok.mpr ⟨before.trans after, start, rfl, rfl⟩
    · exact b.between_append early late
  positions offset := by
    obtain ⟨start, begins, passed⟩ := (b.lineStart?_le_iff _ offset).mpr (Nat.le_refl _)
    refine ⟨b.lineOf offset, offset - start, start, ?_, begins, Nat.add_sub_cancel' passed⟩
    rw [position, begins, Option.getD_some]

/-- Two carriage returns before a line feed are two line ends, and a line end at the end is followed
by an empty line. -/
example : Lines.texts ['a', '\r', '\r', '\n', '\n'] = [['a', '\r'], ['\r', '\n'], ['\n'], []] := by
  decide

end Buffer
end Highlighter
