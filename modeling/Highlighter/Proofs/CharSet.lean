import Highlighter.Proofs.CharSet.Table

/-! Sets of characters are determined by their members. Whether a character is one is asked of the
table or of the list, and it is in one of them only; so what an operation changes can be told from the
characters that are contained after it, and a set that is made from the list of its own members is
the same set. -/
namespace Highlighter.CharSet

theorem contains_of_slot? {s : CharSet} {c : Char} {slot : Slot} (place : slot? c = some slot) :
    s.contains c = s.marks slot := by
  rw [contains, place]

theorem contains_of_wide {s : CharSet} {c : Char} (unplaced : slot? c = none) :
    s.contains c = s.wide.contains c := by
  rw [contains, unplaced]

theorem contains_empty (c : Char) : (∅ : CharSet).contains c = false := by
  cases place : slot? c with
  | none => rw [contains_of_wide place]; rfl
  | some slot => rw [contains_of_slot? place, marks_empty]

/-- Which characters are contained after what is told of one of them has changed: at its place in the
table, or in the list when it has no place. -/
theorem contains_changed {s t : CharSet} {c : Char} {told : Bool}
    (placed : ∀ slot, slot? c = some slot →
      t.wide = s.wide ∧ ∀ other, t.marks other = if other = slot then told else s.marks other)
    (unplaced : slot? c = none →
      t.table = s.table ∧ ∀ a, a ∈ t.wide ↔ if a = c then told = true else a ∈ s.wide)
    (a : Char) : t.contains a = if a = c then told else s.contains a := by
  have apart : slot? a ≠ slot? c → a ≠ c := mt (congrArg slot?)
  cases here : slot? c with
  | some slot =>
    obtain ⟨wide, marks⟩ := placed slot here
    cases there : slot? a with
    | some other =>
      have same : other = slot ↔ a = c := by
        constructor
        · rintro rfl
          exact eq_of_slot? there here
        · rintro rfl
          exact Option.some.inj (there.symm.trans here)
      rw [contains_of_slot? there, contains_of_slot? there, marks]
      simp only [same]
    | none =>
      have differ : a ≠ c := apart (by simp [here, there])
      rw [contains_of_wide there, contains_of_wide there, wide, if_neg differ]
  | none =>
    obtain ⟨table, list⟩ := unplaced here
    cases there : slot? a with
    | some other =>
      have differ : a ≠ c := apart (by simp [here, there])
      rw [contains_of_slot? there, contains_of_slot? there, marks, marks, wordAt, wordAt, table,
        if_neg differ]
    | none =>
      rw [contains_of_wide there, contains_of_wide there, Bool.eq_iff_iff, List.contains_iff_mem,
        list]
      split
      · rfl
      · exact List.contains_iff_mem.symm

theorem contains_insert (s : CharSet) (c a : Char) :
    (s.insert c).2.contains a = if a = c then true else s.contains a := by
  apply contains_changed
  · intro slot place
    unfold insert
    split
    · rename_i other found
      cases found.symm.trans place
      exact ⟨rfl, s.marks_mark slot⟩
    · rename_i missing
      cases missing.symm.trans place
  · intro unplaced
    unfold insert
    split
    · rename_i slot found
      cases found.symm.trans unplaced
    · refine ⟨rfl, fun a => mem_addTo.trans ?_⟩
      by_cases same : a = c <;> simp [same]

theorem contains_remove (s : CharSet) (c a : Char) :
    (s.remove c).2.contains a = if a = c then false else s.contains a := by
  apply contains_changed
  · intro slot place
    rw [remove, place]
    exact ⟨rfl, s.marks_unmark slot⟩
  · intro unplaced
    rw [remove, unplaced]
    refine ⟨rfl, fun a => ?_⟩
    by_cases same : a = c <;> simp [same]

theorem insert_fst (s : CharSet) (c : Char) : (s.insert c).1 = !s.contains c := by
  unfold insert
  split
  · rename_i place
    rw [contains_of_slot? place]
  · rename_i place
    rw [contains_of_wide place]

theorem remove_fst (s : CharSet) (c : Char) : (s.remove c).1 = s.contains c := by
  unfold remove
  split
  · rename_i place
    rw [contains_of_slot? place]
  · rename_i place
    rw [contains_of_wide place]

theorem mem_narrow_iff {c : Char} : c ∈ narrow ↔ c.toNat < 0x100 := by
  rw [narrow, List.mem_map]
  constructor
  · rintro ⟨n, small, rfl⟩
    have bound := List.mem_range.mp small
    rwa [Text.toNat_ofNat (.inl (by omega))]
  · intro small
    exact ⟨c.toNat, List.mem_range.mpr small, Char.ofNat_toNat c⟩

theorem contains_iff {s : CharSet} {a : Char} : s.contains a = true ↔ a ∈ s := by
  change _ ↔ a ∈ narrow.filter s.contains ++ s.wide
  rw [List.mem_append, List.mem_filter, mem_narrow_iff]
  cases place : slot? a with
  | none =>
    have wide := slot?_eq_none_iff.mp place
    rw [contains_of_wide place, List.contains_iff_mem]
    exact ⟨.inr, fun member => member.resolve_left fun ⟨small, _⟩ => by omega⟩
  | some slot =>
    have small : a.toNat < 0x100 := by
      have spot := slot?_eq_some_iff.mp place
      omega
    have unlisted : a ∉ s.wide := fun member => by simp [s.apart a member] at place
    simp [small, unlisted]

theorem pairwise_narrow : narrow.Pairwise (· < ·) := by
  refine List.pairwise_map.mpr (List.pairwise_lt_range.imp_of_mem fun {m n} left right smaller => ?_)
  have below := List.mem_range.mp left
  have above := List.mem_range.mp right
  rw [Char.lt_def, UInt32.lt_iff_toNat_lt]
  change (Char.ofNat m).toNat < (Char.ofNat n).toNat
  rwa [Text.toNat_ofNat (.inl (by omega)), Text.toNat_ofNat (.inl (by omega))]

theorem pairwise_members (s : CharSet) : s.members.Pairwise (· < ·) := by
  refine List.pairwise_append.mpr ⟨pairwise_narrow.filter _, s.ascending, ?_⟩
  intro a left b right
  have below := mem_narrow_iff.mp (List.mem_filter.mp left).1
  have above := slot?_eq_none_iff.mp (s.apart b right)
  exact Nat.lt_of_lt_of_le below above

theorem mem_wide_iff {s : CharSet} {c : Char} : c ∈ s.wide ↔ slot? c = none ∧ c ∈ s := by
  constructor
  · intro member
    exact ⟨s.apart c member, List.mem_append_right _ member⟩
  · rintro ⟨unplaced, member⟩
    rwa [← contains_iff, contains_of_wide unplaced, List.contains_iff_mem] at member

/-- Sets with the same members have the same table, since each place in it belongs to a character,
and the same list, since both are in ascending order. -/
theorem ext_mem {s t : CharSet} (same : ∀ c, c ∈ s ↔ c ∈ t) : s = t := by
  have tables : s.table = t.table := by
    refine table_ext fun slot => ?_
    obtain ⟨c, place⟩ := exists_slot? slot
    rw [← contains_of_slot? place, ← contains_of_slot? place, Bool.eq_iff_iff, contains_iff,
      contains_iff, same]
  have nodup : ∀ {cs : List Char}, cs.Pairwise (· < ·) → cs.Nodup := fun sorted =>
    sorted.imp fun smaller same => absurd (same ▸ smaller) (Char.lt_irrefl _)
  have perm : s.wide.Perm t.wide := by
    refine (List.perm_ext_iff_of_nodup (nodup s.ascending) (nodup t.ascending)).mpr fun c => ?_
    rw [mem_wide_iff, mem_wide_iff, same]
  have lists : s.wide = t.wide := perm.eq_of_pairwise
    (fun a b _ _ below above => absurd (Char.lt_trans below above) (Char.lt_irrefl a))
    s.ascending t.ascending
  cases s
  cases t
  congr

theorem mem_insert {s : CharSet} {a c : Char} : a ∈ (s.insert c).2 ↔ a = c ∨ a ∈ s := by
  rw [← contains_iff, contains_insert, ← contains_iff (s := s)]
  by_cases same : a = c <;> simp [same]

theorem mem_remove {s : CharSet} {a c : Char} : a ∈ (s.remove c).2 ↔ a ∈ s ∧ a ≠ c := by
  rw [← contains_iff, contains_remove, ← contains_iff (s := s)]
  by_cases same : a = c <;> simp [same]

theorem mem_add {s : CharSet} {a c : Char} : a ∈ s.add c ↔ a = c ∨ a ∈ s := mem_insert

theorem mem_addAll {s : CharSet} {a : Char} {cs : List Char} :
    a ∈ s.addAll cs ↔ a ∈ cs ∨ a ∈ s := by
  induction cs generalizing s with
  | nil => simp [addAll]
  | cons c rest ih =>
    have step := ih (s := s.add c)
    simp only [addAll, List.foldl_cons] at step ⊢
    rw [step, mem_add, List.mem_cons]
    exact or_left_comm.trans or_assoc.symm

theorem not_mem_empty (a : Char) : a ∉ (∅ : CharSet) := by
  rw [← contains_iff, contains_empty]
  exact Bool.false_ne_true

theorem mem_ofList {a : Char} {cs : List Char} : a ∈ ofList cs ↔ a ∈ cs := by
  simp [ofList, mem_addAll, not_mem_empty]

theorem ofList_members (s : CharSet) : ofList s.members = s := ext_mem fun _ => mem_ofList

/-- A set is read back from its text. -/
theorem ofString_toString (s : CharSet) : ofString s.toString = s := by
  rw [ofString, CharSet.toString, String.toList_ofList, ofList_members]

theorem mem_without {s : CharSet} {a : Char} {cs : List Char} :
    a ∈ s.without cs ↔ a ∈ s ∧ a ∉ cs := by
  induction cs generalizing s with
  | nil => simp [without]
  | cons c rest ih =>
    have step := ih (s := (s.remove c).2)
    simp only [without, List.foldl_cons] at step ⊢
    rw [step, mem_remove, List.mem_cons, not_or, and_assoc]

theorem bitCount_word (s : CharSet) {word : Nat} (bound : word < 4) : bitCount s.table[word] =
    (List.range 64).countP fun i => s.contains (Char.ofNat (64 * word + i)) := by
  rw [bitCount_eq]
  refine List.countP_congr fun i member => ?_
  have small := List.mem_range.mp member
  have place : slot? (Char.ofNat (64 * word + i)) = some ⟨⟨word, bound⟩, ⟨i, small⟩⟩ :=
    slot?_eq_some_iff.mpr (Text.toNat_ofNat (.inl (by omega)))
  rw [contains_of_slot? place, marks_eq]
  rfl

/-- The words of the table are counted as the characters of their places, one word after the other. -/
theorem size_eq (s : CharSet) : s.size = s.members.length := by
  have words : List.range 0x100 = List.range 64 ++ (List.range 64).map (64 + ·) ++
      (List.range 64).map (128 + ·) ++ (List.range 64).map (192 + ·) := by
    rw [← List.range_add, ← List.range_add, ← List.range_add]
  have first := @bitCount_word s 0 (by decide)
  have second := @bitCount_word s 1 (by decide)
  have third := @bitCount_word s 2 (by decide)
  have fourth := @bitCount_word s 3 (by decide)
  simp only [Nat.mul_zero, Nat.zero_add, Nat.mul_one, Nat.reduceMul] at first second third fourth
  simp only [size, members, narrow, words, List.length_append, ← List.countP_eq_length_filter,
    List.countP_map, List.countP_append, foldl_words, Function.comp_def, first,
    second, third, fourth]
  omega

theorem isEmpty_iff {s : CharSet} : s.isEmpty = true ↔ ∀ c, c ∉ s := by
  rw [isEmpty, Bool.and_eq_true, table_empty_iff, List.isEmpty_iff]
  constructor
  · rintro ⟨unmarked, nothing⟩ c member
    rw [← contains_iff] at member
    cases place : slot? c with
    | none => simp [contains_of_wide place, nothing] at member
    | some slot => simp [contains_of_slot? place, unmarked] at member
  · intro none
    constructor
    · intro slot
      obtain ⟨c, place⟩ := exists_slot? slot
      rw [← contains_of_slot? place, Bool.eq_false_iff, ne_eq, contains_iff]
      exact none c
    · exact List.eq_nil_iff_forall_not_mem.mpr fun c member => none c (mem_wide_iff.mp member).2

end Highlighter.CharSet
