import Highlighter.Language.Definition
import Highlighter.Proofs.CharSet
import Highlighter.Proofs.Language.Extension
import Highlighter.Proofs.Language.KeywordTable
import Mathlib.Data.List.Forall2

/-! Definitions whose parts fit together. The keyword table is what the groups, the character sets
and the words have in common: groups list the words of the table, and no keyword character is an
operator or punctuation. Every definition that is built fits together. -/
namespace Highlighter

/-- Two groups with the same words, in whatever order. -/
structure Group.Same (g h : Group) : Prop where
  id : g.id = h.id
  name : g.name = h.name
  words : g.words.Perm h.words

/-- Two definitions that agree in everything but the order of the words inside groups. -/
structure Definition.Same (d e : Definition) : Prop where
  groups : List.Forall₂ Group.Same d.groups.items e.groups.items
  rest : { d with groups := ∅ } = { e with groups := (∅ : GroupTable Group) }

theorem Group.Same.refl (g : Group) : g.Same g := ⟨rfl, rfl, .refl _⟩

theorem Definition.Same.refl (d : Definition) : d.Same d :=
  ⟨List.forall₂_same.mpr fun g _ => .refl g, rfl⟩

namespace Group
variable {names : List String} {ks others : List Keyword}

theorem forall₂_mapIdx {α β : Type} {R : β → β → Prop} {f g : Nat → α → β} (l : List α)
    (all : ∀ i a, R (f i a) (g i a)) : List.Forall₂ R (l.mapIdx f) (l.mapIdx g) := by
  induction l generalizing f g with
  | nil => exact .nil
  | cons a rest ih =>
    rw [List.mapIdx_cons, List.mapIdx_cons]
    exact .cons (all 0 a) (ih fun i => all (i + 1))

theorem names_ofKeywords (names : List String) (ks : List Keyword) :
    (ofKeywords names ks).items.map (·.name) = names := by
  apply List.ext_getElem
  · simp [ofKeywords]
  · intro i _ _
    simp [ofKeywords]

theorem size_ofKeywords (names : List String) (ks : List Keyword) :
    (ofKeywords names ks).size = names.length := by
  simp [ofKeywords, GroupTable.size]

/-- Groups depend on the declarations that count, not on their order. -/
theorem same_ofKeywords (perm : (Keyword.firsts ks).Perm (Keyword.firsts others)) :
    List.Forall₂ Same (ofKeywords names ks).items (ofKeywords names others).items := by
  apply forall₂_mapIdx
  intro i name
  exact ⟨rfl, rfl, (perm.filter _).map _⟩

end Group

/-- A definition with rules whose parts fit together. -/
structure Definition.Coherent (d : Definition) : Prop where
  ruled : d.plain = false
  extensions : Extension.Collected d.extensions
  groups : List.Forall₂ Group.Same d.groups.items
    (Group.ofKeywords (d.groups.items.map (·.name)) d.keywords.entries).items
  grouped : ∀ k ∈ d.keywords.entries, k.group.index < d.groups.size
  starts : ∀ k ∈ d.keywords.entries, ∀ c ∈ k.text.toList.take 1, c ∈ d.keyStart
  continues : ∀ k ∈ d.keywords.entries, ∀ c ∈ k.text.toList.drop 1, c ∈ d.keyContinue
  apart : ∀ k ∈ d.keywords.entries, ∀ c ∈ k.text.toList, c ∉ d.operators ∧ c ∉ d.punctuation
  lineComment : d.lineComment ≠ some ""
  blockComment : ∀ marks ∈ d.blockComment, marks.opening ≠ "" ∧ marks.closing ≠ ""

namespace Definition

theorem markOf_ne_empty (mark : Option String) : markOf mark ≠ some "" := by
  intro same
  have kept := (Option.filter_eq_some_iff.mp same).2
  exact absurd kept (by decide)

theorem markOf_eq_self {mark : Option String} (nonempty : mark ≠ some "") :
    markOf mark = mark := by
  cases mark with
  | none => rfl
  | some text =>
    have different : text ≠ "" := fun same => nonempty (same ▸ rfl)
    simp [markOf, Option.filter, different]

theorem of_mem_marksOf {given : Option BlockComment} {marks : BlockComment}
    (member : marks ∈ marksOf given) : marks.opening ≠ "" ∧ marks.closing ≠ "" := by
  have kept := (Option.filter_eq_some_iff.mp member).2
  simpa using kept

theorem marksOf_eq_self {given : Option BlockComment}
    (nonempty : ∀ marks ∈ given, marks.opening ≠ "" ∧ marks.closing ≠ "") :
    marksOf given = given := by
  cases given with
  | none => rfl
  | some marks => simp [marksOf, Option.filter, nonempty marks rfl]

end Definition

namespace Declaration

/-- A declared keyword belongs to a declared group. -/
theorem index_lt_of_mem_keywords {d : Declaration} {k : Keyword} (member : k ∈ d.keywords) :
    k.group.index < d.groups.length := by
  obtain ⟨row, inRows, inRow⟩ := List.mem_flatten.mp member
  obtain ⟨i, bound, rfl⟩ := List.mem_mapIdx.mp inRows
  obtain ⟨word, _, rfl⟩ := List.mem_map.mp inRow
  exact bound

end Declaration

namespace KeywordTable

theorem mem_chars {t : KeywordTable} {k : Keyword} (member : k ∈ t.entries) {c : Char}
    (inside : c ∈ k.text.toList) : c ∈ t.firstChars ++ t.laterChars := by
  rw [← List.take_append_drop 1 k.text.toList, List.mem_append] at inside
  rw [List.mem_append]
  exact inside.imp (fun first => List.mem_flatMap.mpr ⟨k, member, first⟩)
    (fun later => List.mem_flatMap.mpr ⟨k, member, later⟩)

end KeywordTable

/-- What is built from a declaration fits together, whatever the declaration says. -/
theorem Definition.build_coherent (d : Declaration) : (build d).Coherent where
  ruled := rfl
  extensions := Extension.collected_collect d.extensions
  groups := by
    have perm : (Keyword.firsts d.keywords).Perm
        (Keyword.firsts (KeywordTable.ofList d.keywords).entries) := by
      rw [KeywordTable.firsts_entries]
      exact (KeywordTable.ofList_perm d.keywords).symm
    simp only [build, Group.names_ofKeywords]
    exact Group.same_ofKeywords perm
  grouped := by
    intro k member
    have declared := KeywordTable.declared_of_mem_ofList member
    simpa [build, Group.size_ofKeywords] using Declaration.index_lt_of_mem_keywords declared
  starts := fun k member c inside =>
    CharSet.mem_ofList.mpr (List.mem_flatMap.mpr ⟨k, member, inside⟩)
  continues := fun k member c inside =>
    CharSet.mem_ofList.mpr (List.mem_flatMap.mpr ⟨k, member, inside⟩)
  apart := by
    intro k member c inside
    have taken := KeywordTable.mem_chars member inside
    exact ⟨fun operator => (CharSet.mem_without.mp operator).2 taken,
      fun mark => (CharSet.mem_without.mp mark).2 taken⟩
  lineComment := markOf_ne_empty d.lineComment
  blockComment := fun _ => of_mem_marksOf

end Highlighter
