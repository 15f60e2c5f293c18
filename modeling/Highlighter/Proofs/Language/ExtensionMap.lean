import Highlighter.Proofs.Entries
import Highlighter.Proofs.Language.Extension
import Highlighter.Proofs.Language.Source

/-! Who owns an extension. A map that is made of claims gives an extension to the first claim of it,
so the map of a language source gives it to the first named record that lists it. Extensions are
compared in their one form only. -/
namespace Highlighter

namespace Extension

theorem mem_collectAfter {before : List String} {texts : List String} {e : String} :
    e ∈ collectAfter before texts ↔ e ∈ before ∨ e ≠ "" ∧ ∃ text ∈ texts, normalize text = e := by
  induction texts generalizing before with
  | nil => simp [collectAfter]
  | cons text rest ih =>
    simp only [collectAfter, List.mem_cons, exists_eq_or_imp]
    split
    · rename_i kept
      rw [Bool.or_eq_true, decide_eq_true_eq, List.contains_iff_mem] at kept
      rw [ih]
      constructor
      · rintro (earlier | ⟨filled, later⟩)
        · exact .inl earlier
        · exact .inr ⟨filled, .inr later⟩
      · rintro (earlier | ⟨filled, same | later⟩)
        · exact .inl earlier
        · subst same
          exact .inl (kept.resolve_left filled)
        · exact .inr ⟨filled, later⟩
    · rename_i fresh
      rw [Bool.or_eq_true, decide_eq_true_eq, not_or] at fresh
      rw [ih, List.mem_append, List.mem_singleton]
      constructor
      · rintro ((earlier | rfl) | ⟨filled, later⟩)
        · exact .inl earlier
        · exact .inr ⟨fresh.1, .inl rfl⟩
        · exact .inr ⟨filled, .inr later⟩
      · rintro (earlier | ⟨filled, same | later⟩)
        · exact .inl (.inl earlier)
        · exact .inl (.inr same.symm)
        · exact .inr ⟨filled, later⟩

/-- The extensions of a list are the forms of its texts. -/
theorem mem_collect {texts : List String} {e : String} :
    e ∈ collect texts ↔ e ≠ "" ∧ ∃ text ∈ texts, normalize text = e := by
  rw [collect, mem_collectAfter, or_iff_right List.not_mem_nil]

end Extension

/-- Whether two texts stand for one extension. -/
def Extension.same (a b : String) : Bool := Extension.normalize a = Extension.normalize b

namespace ExtensionMap
open Extension

theorem isSome_get?_iff (m : ExtensionMap) (e : String) :
    (m.get? e).isSome ↔ normalize e ∈ m.entries.map Prod.fst :=
  Entries.isSome_lookup_iff

/-- A claim is turned down when it has no extension or the extension has an owner, and otherwise comes
last. -/
theorem insert_cases (m : ExtensionMap) (extension language : String) :
    ((normalize extension = "" ∨ normalize extension ∈ m.entries.map Prod.fst) ∧
      m.insert extension language = (false, m)) ∨
    (normalize extension ≠ "" ∧ normalize extension ∉ m.entries.map Prod.fst) ∧
      m.insert extension language = (true, ⟨m.entries ++ [(normalize extension, language)]⟩) := by
  have owner := m.isSome_get?_iff extension
  rw [get?] at owner
  unfold insert
  dsimp only
  split
  · rename_i refused
    rw [Bool.or_eq_true, decide_eq_true_eq, owner] at refused
    exact .inl ⟨refused, rfl⟩
  · rename_i fresh
    rw [Bool.or_eq_true, decide_eq_true_eq, owner, not_or] at fresh
    exact .inr ⟨fresh, rfl⟩

def Distinct (m : ExtensionMap) : Prop := (m.entries.map Prod.fst).Nodup

theorem insert_distinct {m : ExtensionMap} (distinct : m.Distinct) (extension language : String) :
    (m.insert extension language).2.Distinct := by
  rcases m.insert_cases extension language with ⟨_, same⟩ | ⟨⟨_, free⟩, added⟩
  · rwa [same]
  · rw [added]
    exact Entries.nodup_append_new distinct free

/-- Each extension is claimed once, so a map that is made of claims has different keys. -/
theorem insertAll_distinct {m : ExtensionMap} (distinct : m.Distinct)
    (claims : List (String × String)) : (m.insertAll claims).Distinct := by
  induction claims generalizing m with
  | nil => exact distinct
  | cons claim rest ih => exact ih (insert_distinct distinct claim.1 claim.2)

/-- A claim is kept unless the extension has an owner already. -/
theorem get?_insert (m : ExtensionMap) {e : String} (filled : normalize e ≠ "")
    (extension language : String) : (m.insert extension language).2.get? e =
      (m.get? e).or (if same extension e then some language else none) := by
  by_cases claimed : normalize extension = normalize e
  · have here : same extension e = true := decide_eq_true claimed
    have owner := m.isSome_get?_iff e
    rw [if_pos here]
    rcases m.insert_cases extension language with ⟨refused, kept⟩ | ⟨⟨_, free⟩, added⟩
    · rw [claimed] at refused
      rw [kept, Option.or_of_isSome (owner.mpr (refused.resolve_left filled))]
    · rw [claimed, ← owner, Option.not_isSome_iff_eq_none] at free
      rw [added, free, Option.none_or, get?, List.lookup_append]
      rw [get?] at free
      simp [free, claimed]
  · have apart : same extension e = false := decide_eq_false claimed
    rw [if_neg (by simp [apart]), Option.or_none]
    rcases m.insert_cases extension language with ⟨_, kept⟩ | ⟨_, added⟩
    · rw [kept]
    · rw [added, get?, List.lookup_append]
      simp [get?, beq_false_of_ne (Ne.symm claimed)]

theorem get?_insertAll (m : ExtensionMap) {e : String} (filled : normalize e ≠ "")
    (claims : List (String × String)) : (m.insertAll claims).get? e =
      (m.get? e).or ((claims.find? (same ·.1 e)).map (·.2)) := by
  induction claims generalizing m with
  | nil => simp [insertAll]
  | cons claim rest ih =>
    have step : m.insertAll (claim :: rest) = (m.insert claim.1 claim.2).2.insertAll rest := rfl
    rw [step, ih, get?_insert m filled, Option.or_assoc]
    by_cases claimed : same claim.1 e
    · simp [claimed]
    · simp [claimed]

end ExtensionMap

namespace LanguageRecord
open Extension

/-- Whether a record with a name lists an extension. -/
def lists (r : LanguageRecord) (extension : String) : Bool :=
  r.name.isSome && (Text.words r.extensions).any (same · extension)

theorem find?_claims (r : LanguageRecord) (e : String) :
    (r.claims.find? (same ·.1 e)).map (·.2) = if r.lists e then r.name else none := by
  unfold claims lists
  cases r.name with
  | none => rfl
  | some name =>
    dsimp only [Option.isSome_some]
    induction Text.words r.extensions with
    | nil => rfl
    | cons text rest ih =>
      by_cases listed : same text e
      · simp [listed]
      · simpa [listed] using ih

end LanguageRecord

namespace LanguageSource
open Extension

/-- The first claim of an extension is made by the first named record that lists it. -/
theorem find?_claims (s : LanguageSource) (e : String) :
    (s.claims.find? (same ·.1 e)).map (·.2) = (s.records.find? (·.lists e)).bind (·.name) := by
  unfold claims
  induction s.records with
  | nil => rfl
  | cons r rest ih =>
    rw [List.flatMap_cons, List.find?_append, Option.map_or, ih, LanguageRecord.find?_claims]
    by_cases listed : r.lists e
    · have named : r.name.isSome := (Bool.and_eq_true_iff.mp listed).1
      rw [if_pos listed, Option.or_of_isSome named, List.find?_cons, listed, Option.bind_some]
    · rw [if_neg listed, Option.none_or, List.find?_cons, Bool.eq_false_iff.mpr listed]

theorem get?_extensionMap (s : LanguageSource) {e : String} (filled : normalize e ≠ "") :
    s.extensionMap.get? e = (s.records.find? (·.lists e)).bind (·.name) := by
  rw [extensionMap, ExtensionMap.get?_insertAll _ filled, find?_claims]
  rfl

end LanguageSource
end Highlighter
