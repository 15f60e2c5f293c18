import Highlighter.Proofs.Buffer.Ranges

/-! The lines of a text as texts, each with its line end. Put together they are the whole text, and
the table of line starts tells how long the lines before each line are; so a range of lines, which is
cut out of the text between two line starts, is put together from the lines it names. -/
namespace Highlighter

namespace Lines

/-- The lines of a text, each with its line end. -/
def texts : List Char → List (List Char)
  | [] => [[]]
  | c :: rest =>
    if endsAfter c rest then [c] :: texts rest
    else match texts rest with
      | [] => [[c]]
      | line :: lines => (c :: line) :: lines

theorem texts_ne_nil (cs : List Char) : texts cs ≠ [] := by
  cases cs with
  | nil => exact List.cons_ne_nil _ _
  | cons c rest =>
    unfold texts
    split
    · exact List.cons_ne_nil _ _
    · split <;> exact List.cons_ne_nil _ _

theorem texts_cons (c : Char) (rest : List Char) : ∃ line lines, texts rest = line :: lines ∧
    texts (c :: rest) = if endsAfter c rest then [c] :: line :: lines else (c :: line) :: lines := by
  cases following : texts rest with
  | nil => exact absurd following (texts_ne_nil rest)
  | cons line lines => exact ⟨line, lines, rfl, by simp only [texts, following]⟩

/-- The lines up to a given one begin with the first character, wherever the first line ends. -/
theorem flatten_take_texts_cons (c : Char) (rest : List Char) (n : Nat) :
    ((texts (c :: rest)).take (n + 1)).flatten =
      c :: ((texts rest).take (if endsAfter c rest then n else n + 1)).flatten := by
  obtain ⟨line, lines, following, whole⟩ := texts_cons c rest
  rw [whole, following]
  split
  · rw [List.take_succ_cons, List.flatten_cons, List.singleton_append]
  · rw [List.take_succ_cons, List.take_succ_cons, List.flatten_cons, List.flatten_cons,
      List.cons_append]

theorem flatten_texts (cs : List Char) : (texts cs).flatten = cs := by
  induction cs with
  | nil => rfl
  | cons c rest ih =>
    obtain ⟨line, lines, following, whole⟩ := texts_cons c rest
    have joined : line ++ lines.flatten = rest := by
      rw [← List.flatten_cons, ← following, ih]
    rw [whole]
    split
    · rw [List.flatten_cons, List.flatten_cons, joined, List.singleton_append]
    · rw [List.flatten_cons, List.cons_append, joined]

theorem length_texts (offset : Nat) (cs : List Char) :
    (texts cs).length = (startsAfter offset cs).length + 1 := by
  induction cs generalizing offset with
  | nil => rfl
  | cons c rest ih =>
    obtain ⟨line, lines, following, whole⟩ := texts_cons c rest
    have later := ih (offset + 1)
    rw [following] at later
    rw [whole, startsAfter]
    split
    · rw [List.length_cons, later, List.length_cons]
    · rw [List.length_cons, ← later, List.length_cons]

/-- A line after the first one begins where the lines before it end. -/
theorem getD_startsAfter (offset : Nat) (cs : List Char) (n : Nat) :
    ((startsAfter offset cs)[n]?).getD (offset + cs.length) =
      offset + ((texts cs).take (n + 1)).flatten.length := by
  induction cs generalizing offset n with
  | nil => simp [startsAfter, texts]
  | cons c rest ih =>
    have places : offset + (c :: rest).length = offset + 1 + rest.length := by
      rw [List.length_cons]
      omega
    rw [flatten_take_texts_cons, startsAfter, places, List.length_cons]
    split
    · cases n with
      | zero => rfl
      | succ n =>
        rw [List.getElem?_cons_succ, ih]
        omega
    · rw [ih]
      omega

/-- A line begins where the lines before it end; past the last line that is the end of the text. -/
theorem getD_starts (cs : List Char) (n : Nat) :
    ((starts cs)[n]?).getD cs.length = ((texts cs).take n).flatten.length := by
  cases n with
  | zero => rfl
  | succ n =>
    have later := getD_startsAfter 0 cs n
    rw [Nat.zero_add, Nat.zero_add] at later
    exact later

/-- Every carriage return is followed by a line feed. -/
def Paired (cs : List Char) : Prop :=
  ∀ n : Nat, cs[n]? = some '\r' → cs[n + 1]? = some '\n'

instance (cs : List Char) : Decidable (Paired cs) :=
  decidable_of_iff (∀ n < cs.length, cs[n]? = some '\r' → cs[n + 1]? = some '\n')
    ⟨fun inside n back => inside n (List.getElem?_eq_some_iff.mp back).1 back,
      fun paired n _ => paired n⟩

theorem Paired.tail {c : Char} {rest : List Char} (paired : Paired (c :: rest)) : Paired rest :=
  fun n => paired (n + 1)

theorem Paired.endsAfter {c : Char} {rest : List Char} (paired : Paired (c :: rest)) :
    endsAfter c rest = true ↔ c = '\n' := by
  have next : c = '\r' → rest.head? = some '\n' := by
    rintro rfl
    rw [List.head?_eq_getElem?]
    exact paired 0 rfl
  rw [Lines.endsAfter, Bool.or_eq_true, decide_eq_true_eq, Bool.and_eq_true, decide_eq_true_eq,
    bne_iff_ne]
  constructor
  · rintro (feed | ⟨back, alone⟩)
    · exact feed
    · exact absurd (next back) alone
  · exact Or.inl

/-- All lines but the last one end with a line feed. -/
theorem Paired.getLast?_take_texts {cs : List Char} (paired : Paired cs) {n : Nat}
    (more : n + 1 < (texts cs).length) :
    ((texts cs).take (n + 1)).flatten.getLast? = some '\n' := by
  induction cs generalizing n with
  | nil => exact absurd more (by simp [texts])
  | cons c rest ih =>
    obtain ⟨line, lines, following, whole⟩ := texts_cons c rest
    rw [flatten_take_texts_cons, List.getLast?_cons]
    split
    · rename_i ends
      cases n with
      | zero => simp [paired.endsAfter.mp ends]
      | succ n =>
        rw [whole, if_pos ends, List.length_cons, ← following] at more
        rw [ih paired.tail (Nat.lt_of_succ_lt_succ more), Option.getD_some]
    · rename_i goesOn
      rw [whole, if_neg goesOn, List.length_cons, ← List.length_cons (a := line), ← following] at more
      rw [ih paired.tail more, Option.getD_some]

end Lines

namespace Buffer

/-- The offset of a line, or the end of the buffer past its last line. -/
def border (b : Buffer) (line : Nat) : Nat := (b.lineStart? line).getD b.length

theorem lineCount_eq (b : Buffer) : b.lineCount = (Lines.texts b.chars).length :=
  (Lines.length_texts 0 b.chars).symm

theorem border_eq (b : Buffer) (line : Nat) :
    b.border line = ((Lines.texts b.chars).take line).flatten.length :=
  Lines.getD_starts b.chars line

theorem take_border (b : Buffer) (line : Nat) :
    b.chars.take (b.border line) = ((Lines.texts b.chars).take line).flatten := by
  have parts : ((Lines.texts b.chars).take line).flatten ++
      ((Lines.texts b.chars).drop line).flatten = b.chars := by
    rw [← List.flatten_append, List.take_append_drop, Lines.flatten_texts]
  calc b.chars.take (b.border line)
    _ = (((Lines.texts b.chars).take line).flatten ++
          ((Lines.texts b.chars).drop line).flatten).take (b.border line) := by rw [parts]
    _ = ((Lines.texts b.chars).take line).flatten := List.take_left' (b.border_eq line).symm

theorem flatten_take_append {b : Buffer} {first last : Nat} (ordered : first ≤ last) :
    ((Lines.texts b.chars).take first).flatten ++
        (((Lines.texts b.chars).take last).drop first).flatten =
      ((Lines.texts b.chars).take last).flatten := by
  have shorter : ((Lines.texts b.chars).take last).take first =
      (Lines.texts b.chars).take first := by
    rw [List.take_take, Nat.min_eq_left ordered]
  rw [← shorter, ← List.flatten_append, List.take_append_drop]

theorem border_le (b : Buffer) {first last : Nat} (ordered : first ≤ last) :
    b.border first ≤ b.border last := by
  rw [border_eq, border_eq, ← flatten_take_append ordered, List.length_append]
  exact Nat.le_add_right _ _

theorem border_le_length (b : Buffer) (line : Nat) : b.border line ≤ b.length := by
  have part := congrArg List.length (b.take_border line)
  rw [List.length_take, ← border_eq] at part
  rw [Buffer.length]
  omega

/-- The text between two lines is put together from the lines between them. -/
theorem between_border (b : Buffer) {first last : Nat} (ordered : first ≤ last) :
    b.between (b.border first) (b.border last) =
      (((Lines.texts b.chars).take last).drop first).flatten := by
  rw [between, take_border, ← flatten_take_append ordered]
  exact List.drop_left' (b.border_eq first).symm

theorem border_min (b : Buffer) (line : Nat) :
    b.border (min line b.lineCount) = b.border line := by
  rw [border_eq, border_eq, lineCount_eq, ← List.take_eq_take_min]

/-- Where every line ends with a line feed, the text before a line is empty or ends with one. -/
theorem getLast?_take_border (b : Buffer) (paired : Lines.Paired b.chars) {line : Nat}
    (inside : line < b.lineCount) : ∀ c ∈ (b.chars.take (b.border line)).getLast?, c = '\n' := by
  intro c last
  rw [take_border] at last
  cases line with
  | zero => cases last
  | succ before =>
    rw [lineCount_eq] at inside
    rw [paired.getLast?_take_texts inside] at last
    exact (Option.some.inj last).symm

/-- A range of lines that begins inside of the buffer reaches from one line to another. -/
theorem linesRange_eq_ok {b : Buffer} {first last start stop : Nat} :
    b.linesRange first last = .ok (start, stop) ↔
      first ≤ last ∧ first < b.lineCount ∧ start = b.border first ∧ stop = b.border last := by
  rw [linesRange, border]
  by_cases reversed : first > last
  · simp [reversed, Nat.not_le.mpr reversed]
  · rw [if_neg reversed]
    cases begins : b.lineStart? first with
    | none =>
      have outside : b.lineCount ≤ first := List.getElem?_eq_none_iff.mp begins
      simp [Nat.not_lt.mpr outside]
    | some offset =>
      have inside : first < b.lineCount := (List.getElem?_eq_some_iff.mp begins).1
      simp [inside, Nat.le_of_not_lt reversed, border, eq_comm]

end Buffer
end Highlighter
