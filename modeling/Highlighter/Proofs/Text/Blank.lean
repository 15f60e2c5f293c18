import Highlighter.Text.Blank

/-! Trimming and cutting text. Trimming takes away the blanks that stand around a text and nothing
else, and cutting undoes joining wherever the separator does not stand in the pieces. What is shown of
texts line by line holds for every text. -/
namespace Highlighter.Text

variable {p : Char → Bool} {sep : Char}

theorem dropWhile_eq_self {cs : List Char} (first : ∀ c, cs.head? = some c → p c = false) :
    cs.dropWhile p = cs := by
  cases cs with
  | nil => rfl
  | cons c rest => simp [first c rfl]

theorem dropEndWhile_eq_self {cs : List Char} (last : ∀ c, cs.getLast? = some c → p c = false) :
    dropEndWhile p cs = cs := by
  have kept : cs.reverse.dropWhile p = cs.reverse :=
    dropWhile_eq_self fun c head => last c (by simpa using head)
  simp [dropEndWhile, kept]

theorem getLast?_dropEndWhile {cs : List Char} {c : Char}
    (last : (dropEndWhile p cs).getLast? = some c) : p c = false := by
  have head : (cs.reverse.dropWhile p).head? = some c := by simpa [dropEndWhile] using last
  have stop := List.head?_dropWhile_not p cs.reverse
  rw [head] at stop
  simpa using stop

theorem trim_eq_self {cs : List Char} (first : ∀ c, cs.head? = some c → isBlank c = false)
    (last : ∀ c, cs.getLast? = some c → isBlank c = false) : trim cs = cs := by
  rw [trim, dropWhile_eq_self first, dropEndWhile_eq_self last]

theorem getLast?_trim {cs : List Char} {c : Char} (last : (trim cs).getLast? = some c) :
    isBlank c = false :=
  getLast?_dropEndWhile last

theorem dropEndWhile_append {after : List Char} (cs : List Char)
    (dropped : ∀ c ∈ after, p c = true) : dropEndWhile p (cs ++ after) = dropEndWhile p cs := by
  have back : ∀ c ∈ after.reverse, p c = true := fun c member =>
    dropped c (List.mem_reverse.mp member)
  rw [dropEndWhile, List.reverse_append, List.dropWhile_append_of_pos back, dropEndWhile]

theorem exists_dropEndWhile (p : Char → Bool) (cs : List Char) :
    ∃ after, cs = dropEndWhile p cs ++ after ∧ ∀ c ∈ after, p c = true := by
  refine ⟨(cs.reverse.takeWhile p).reverse, ?_, fun c member => ?_⟩
  · rw [dropEndWhile, ← List.reverse_append, List.takeWhile_append_dropWhile, List.reverse_reverse]
  · exact List.all_eq_true.mp List.all_takeWhile c (List.mem_reverse.mp member)

theorem dropEndWhile_append_kept {before : List Char} (cs : List Char)
    (kept : ∀ c ∈ before, p c = false) :
    dropEndWhile p (before ++ cs) = before ++ dropEndWhile p cs := by
  have stop : before.reverse.dropWhile p = before.reverse :=
    dropWhile_eq_self fun c head => kept c (List.mem_reverse.mp (List.mem_of_mem_head? head))
  rw [dropEndWhile, dropEndWhile, List.reverse_append, List.dropWhile_append]
  split
  · rename_i empty
    rw [stop, List.isEmpty_iff.mp empty, List.reverse_nil, List.append_nil, List.reverse_reverse]
  · rw [List.reverse_append, List.reverse_reverse]

/-- Texts that are the given one with blanks around it, or with none. -/
inductive Padded (core : List Char) : List Char → Prop
  | around (before after : List Char) (front : ∀ c ∈ before, isBlank c = true)
    (back : ∀ c ∈ after, isBlank c = true) : Padded core (before ++ core ++ after)

theorem padded_self (cs : List Char) : Padded cs cs := by
  have nothing : ∀ c ∈ [], isBlank c = true := fun _ member => absurd member List.not_mem_nil
  have padded : Padded cs ([] ++ cs ++ []) := .around [] [] nothing nothing
  rwa [List.nil_append, List.append_nil] at padded

theorem Padded.length_le {core text : List Char} (padded : Padded core text) :
    core.length ≤ text.length := by
  cases padded with
  | around before after front back =>
    rw [List.length_append, List.length_append]
    omega

theorem Padded.trim_eq {core text : List Char} (padded : Padded core text) :
    trim text = trim core := by
  cases padded with
  | around before after front back =>
    rw [trim, trim, List.append_assoc, List.dropWhile_append_of_pos front, List.dropWhile_append]
    split
    · -- nothing but blanks: those after the text are dropped with it
      rename_i empty
      have dropped : (after ++ []).dropWhile isBlank = [] := List.dropWhile_append_of_pos back
      rw [List.append_nil] at dropped
      rw [List.isEmpty_iff.mp empty, dropped]
    · exact dropEndWhile_append _ back

theorem padded_trim (cs : List Char) : Padded (trim cs) cs := by
  obtain ⟨after, whole, back⟩ := exists_dropEndWhile isBlank (cs.dropWhile isBlank)
  have front : ∀ c ∈ cs.takeWhile isBlank, isBlank c = true := List.all_eq_true.mp List.all_takeWhile
  have padded : Padded (trim cs) (_ ++ trim cs ++ _) := .around _ _ front back
  rwa [List.append_assoc, trim, ← whole, List.takeWhile_append_dropWhile] at padded

theorem head?_trim {cs : List Char} {c : Char} (first : (trim cs).head? = some c) :
    isBlank c = false := by
  obtain ⟨after, whole, _⟩ := exists_dropEndWhile isBlank (cs.dropWhile isBlank)
  have head : (cs.dropWhile isBlank).head? = some c := by
    rw [whole, List.head?_append, ← trim, first, Option.some_or]
  have stop := List.head?_dropWhile_not isBlank cs
  rw [head] at stop
  exact stop

/-- Trimming takes away the blanks at both ends and nothing else. -/
theorem trim_eq_iff {core text : List Char} : trim text = core ↔ Padded core text ∧
    (∀ c, core.head? = some c → isBlank c = false) ∧
    (∀ c, core.getLast? = some c → isBlank c = false) := by
  constructor
  · rintro rfl
    exact ⟨padded_trim text, fun _ => head?_trim, fun _ => getLast?_trim⟩
  · rintro ⟨padded, first, last⟩
    rw [padded.trim_eq, trim_eq_self first last]

theorem trim_eq_nil_iff {cs : List Char} : trim cs = [] ↔ ∀ c ∈ cs, isBlank c = true := by
  constructor
  · intro empty
    have padded := padded_trim cs
    rw [empty] at padded
    cases padded with
    | around before after front back =>
      intro c member
      rw [List.append_nil, List.mem_append] at member
      exact member.elim (front c) (back c)
  · intro blank
    have nothing : ∀ c ∈ [], isBlank c = true := fun _ member => absurd member List.not_mem_nil
    have padded : Padded [] (cs ++ [] ++ []) := .around cs [] blank nothing
    rw [List.append_nil, List.append_nil] at padded
    exact padded.trim_eq

theorem trim_append_kept {before cs : List Char} (kept : ∀ c ∈ before, isBlank c = false)
    (first : ∀ c, cs.head? = some c → isBlank c = false) :
    trim (before ++ cs) = before ++ trim cs := by
  have front : ∀ c, (before ++ cs).head? = some c → isBlank c = false := by
    intro c head
    rw [List.head?_append] at head
    cases own : before.head? with
    | none => exact first c (by simpa [own] using head)
    | some d =>
      have same : d = c := by simpa [own] using head
      exact kept c (same ▸ List.mem_of_mem_head? own)
  rw [trim, dropWhile_eq_self front, trim, dropWhile_eq_self first, dropEndWhile_append_kept cs kept]

/-- A blank at the end of a text does not count. -/
theorem trim_append_blank {c : Char} (blank : isBlank c = true) (cs : List Char) :
    trim (cs ++ [c]) = trim cs :=
  Padded.trim_eq (.around [] [c] (by simp) (by simp [blank]))

theorem isBlank_of_isDigit {c : Char} (digit : c.isDigit = true) : isBlank c = false := by
  simp only [Char.isDigit, Bool.and_eq_true, decide_eq_true_eq, ge_iff_le, UInt32.le_iff_toNat_le]
    at digit
  have code : '0'.toNat ≤ c.toNat ∧ c.toNat ≤ '9'.toNat := digit
  have low : '0'.toNat = 0x30 := rfl
  have high : '9'.toNat = 0x39 := rfl
  rw [low, high] at code
  simp only [isBlank, Bool.or_eq_false_iff, Bool.and_eq_false_iff, beq_eq_false_iff_ne,
    decide_eq_false_iff_not]
  omega

theorem cut?_append {before : List Char} (after : List Char) (absent : sep ∉ before) :
    cut? sep (before ++ sep :: after) = some (before, after) := by
  induction before with
  | nil => simp [cut?]
  | cons c rest ih =>
    simp only [List.mem_cons, not_or] at absent
    simp [cut?, Ne.symm absent.1, ih absent.2]

theorem cut?_eq_none_iff {cs : List Char} : cut? sep cs = none ↔ sep ∉ cs := by
  induction cs with
  | nil => simp [cut?]
  | cons c rest ih =>
    rw [cut?, List.mem_cons, not_or]
    split
    · rename_i same
      simp [same]
    · rename_i different
      rw [Option.map_eq_none_iff, ih, and_iff_right (Ne.symm different)]

theorem cut?_eq_some_iff {cs before after : List Char} :
    cut? sep cs = some (before, after) ↔ cs = before ++ sep :: after ∧ sep ∉ before := by
  constructor
  · intro found
    have held : sep ∈ cs := Decidable.byContradiction fun absent => by
      rw [cut?_eq_none_iff.mpr absent] at found
      cases found
    obtain ⟨front, rest, rfl, absent⟩ := List.eq_append_cons_of_mem held
    rw [cut?_append rest absent] at found
    cases found
    exact ⟨rfl, absent⟩
  · rintro ⟨rfl, absent⟩
    exact cut?_append after absent

theorem splitAt_ne_nil (cs : List Char) : splitAt sep cs ≠ [] := by
  cases cs with
  | nil => simp [splitAt]
  | cons c rest =>
    simp only [splitAt]
    split
    · simp
    · split <;> simp

/-- A separator begins a new piece, whatever stands before it. -/
theorem splitAt_append (before after : List Char) :
    splitAt sep (before ++ sep :: after) = splitAt sep before ++ splitAt sep after := by
  induction before with
  | nil => simp [splitAt]
  | cons c rest ih =>
    simp only [List.cons_append, splitAt, ih]
    split
    · rfl
    · cases pieces : splitAt sep rest with
      | nil => exact absurd pieces (splitAt_ne_nil rest)
      | cons piece more => rfl

theorem splitAt_of_not_mem {piece : List Char} (absent : sep ∉ piece) :
    splitAt sep piece = [piece] := by
  induction piece with
  | nil => rfl
  | cons c rest ih =>
    simp only [List.mem_cons, not_or] at absent
    simp [splitAt, Ne.symm absent.1, ih absent.2]

/-- Without a separator a text continues the first piece of what follows it. -/
theorem splitAt_append_of_not_mem {before : List Char} (absent : sep ∉ before)
    (after : List Char) : ∃ piece pieces, splitAt sep after = piece :: pieces ∧
      splitAt sep (before ++ after) = (before ++ piece) :: pieces := by
  induction before with
  | nil =>
    cases following : splitAt sep after with
    | nil => exact absurd following (splitAt_ne_nil after)
    | cons piece pieces => exact ⟨piece, pieces, rfl, following⟩
  | cons c rest ih =>
    simp only [List.mem_cons, not_or] at absent
    obtain ⟨piece, pieces, following, whole⟩ := ih absent.2
    refine ⟨piece, pieces, following, ?_⟩
    simp only [List.cons_append, splitAt, if_neg (Ne.symm absent.1), whole]

/-- What holds of the pieces of a text still does after other characters, when the first piece may be
continued in front. -/
theorem forall_mem_splitAt_append {p : List Char → Prop} {before after : List Char}
    (absent : sep ∉ before) (continued : ∀ piece, p piece → p (before ++ piece))
    (each : ∀ piece ∈ splitAt sep after, p piece) :
    ∀ piece ∈ splitAt sep (before ++ after), p piece := by
  obtain ⟨piece, pieces, following, whole⟩ := splitAt_append_of_not_mem absent after
  rw [following] at each
  obtain ⟨first, others⟩ := List.forall_mem_cons.mp each
  rw [whole]
  exact List.forall_mem_cons.mpr ⟨continued piece first, others⟩

/-- Pieces are joined to two texts with one more separator between them. -/
theorem intercalate_append {before after : List (List Char)} (front : before ≠ [])
    (back : after ≠ []) : [sep].intercalate (before ++ after) =
      [sep].intercalate before ++ sep :: [sep].intercalate after := by
  induction before with
  | nil => exact absurd rfl front
  | cons piece rest ih =>
    cases rest with
    | nil =>
      rw [List.singleton_append, List.intercalate_cons_of_ne_nil back, List.intercalate_singleton,
        List.append_assoc, List.singleton_append]
    | cons next rest =>
      rw [List.cons_append, List.cons_append, List.intercalate_cons_cons, ← List.cons_append,
        ih (List.cons_ne_nil _ _), List.intercalate_cons_cons, List.append_assoc _ _ (sep :: _)]

/-- A text is one piece, or a piece, a separator and another text. -/
theorem piece_induction {motive : List Char → Prop} (sep : Char)
    (piece : ∀ p, sep ∉ p → motive p)
    (more : ∀ p rest, sep ∉ p → motive rest → motive (p ++ sep :: rest)) (cs : List Char) :
    motive cs := by
  by_cases held : sep ∈ cs
  · obtain ⟨p, rest, rfl, absent⟩ := List.eq_append_cons_of_mem held
    exact more p rest absent (piece_induction sep piece more rest)
  · exact piece cs held
termination_by cs.length

/-- No separator stands inside of a piece. -/
theorem not_mem_of_mem_splitAt (cs : List Char) : ∀ piece ∈ splitAt sep cs, sep ∉ piece := by
  induction cs using piece_induction sep with
  | piece p absent =>
    rw [splitAt_of_not_mem absent]
    exact List.forall_mem_singleton.mpr absent
  | more p rest absent ih =>
    rw [splitAt_append, splitAt_of_not_mem absent, List.singleton_append]
    exact List.forall_mem_cons.mpr ⟨absent, ih⟩

end Highlighter.Text
