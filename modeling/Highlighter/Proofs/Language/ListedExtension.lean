import Highlighter.Catalog.Basic
import Highlighter.Proofs.Language.ExtensionFile
import Highlighter.Proofs.Result

/-! Which entries of an extension map are found. A look-up and a claim take an extension in its one
form. A claim is listed under this form as well, but a file lists its extensions as they are spelled
there; so all entries of a map are found exactly when it lists each extension in its one form too. -/
namespace Highlighter

namespace ExtensionMap
open Extension

theorem get?_eq_some_iff {m : ExtensionMap} (distinct : m.Distinct) {e language : String} :
    m.get? e = some language ↔ (normalize e, language) ∈ m.entries :=
  Entries.lookup_eq_some_iff distinct

theorem nodup_assign {entries : List (String × String)} (distinct : (entries.map Prod.fst).Nodup)
    (key value : String) : ((assign entries key value).map Prod.fst).Nodup := by
  by_cases new : key ∈ entries.map Prod.fst
  · have keys : (assign entries key value).map Prod.fst = entries.map Prod.fst := by
      rw [assign, if_pos (Entries.isSome_lookup_iff.mpr new), List.map_map]
      refine List.map_congr_left fun entry _ => ?_
      dsimp only [Function.comp_apply]
      split <;> rfl
    rwa [keys]
  · rw [assign_new new]
    exact Entries.nodup_append_new distinct new

/-- What each step of a fold keeps is kept by the fold. -/
theorem kept_of_foldlM {α β : Type} {P : β → Prop} {f : β → α → Option β}
    (step : ∀ before item after, P before → f before item = some after → P after) {items : List α}
    {first last : β} (holds : P first) (comes : items.foldlM f first = some last) : P last := by
  induction items generalizing first with
  | nil =>
    cases comes
    exact holds
  | cons item rest ih =>
    rw [List.foldlM_cons] at comes
    obtain ⟨next, stepped, comes⟩ := Option.bind_eq_some_iff.mp comes
    exact ih (step first item next holds stepped) comes

theorem nodup_entries? {value : Json.Value} {entries : List (String × String)}
    (reads : entries? value = some entries) : (entries.map Prod.fst).Nodup := by
  unfold entries? at reads
  split at reads
  · refine kept_of_foldlM (P := fun entries => (entries.map Prod.fst).Nodup) ?_ List.nodup_nil reads
    intro before item after distinct stepped
    dsimp only at stepped
    split at stepped
    · cases stepped
      exact nodup_assign distinct _ _
    · cases stepped
  · cases reads

theorem nodup_fields? {value : Json.Value} {version : Nat} {entries : List (String × String)}
    (reads : fields? value = some (version, entries)) : (entries.map Prod.fst).Nodup := by
  unfold fields? at reads
  split at reads
  · split at reads
    · cases reads
    · simp only [bind, Option.bind_eq_some_iff, pure, Option.some.injEq, Prod.mk.injEq] at reads
      obtain ⟨_, _, _, _, _, _, _, read, _, rfl⟩ := reads
      exact nodup_entries? read
  · simp only [bind, Option.bind_eq_some_iff, pure, Option.some.injEq, Prod.mk.injEq] at reads
    obtain ⟨_, _, _, read, _, rfl⟩ := reads
    exact nodup_entries? read
  · cases reads

theorem parse_distinct {text : String} {m : ExtensionMap} (reads : parse text = .ok m) :
    m.Distinct := by
  unfold parse at reads
  split at reads
  · cases reads
  · rename_i version entries known
    obtain ⟨value, _, fields⟩ := Option.bind_eq_some_iff.mp known
    split at reads
    · cases reads
      exact nodup_fields? fields
    · cases reads

theorem load_distinct {files : FileStore} {path : String} {m : ExtensionMap}
    (loads : load files path = .ok m) : m.Distinct := by
  obtain ⟨text, _, reads⟩ := Result.bind_eq_ok.mp loads
  exact parse_distinct reads

/-- Each extension is listed in its one form too, with the same language. -/
def ListsForms (m : ExtensionMap) : Prop :=
  ∀ entry ∈ m.entries, (normalize entry.1, entry.2) ∈ m.entries

theorem ListsForms.insert {m : ExtensionMap} (forms : m.ListsForms) (extension language : String) :
    (m.insert extension language).2.ListsForms := by
  rcases m.insert_cases extension language with ⟨_, same⟩ | ⟨_, added⟩
  · rwa [same]
  · rw [added]
    intro entry member
    rcases List.mem_append.mp member with earlier | new
    · exact List.mem_append_left _ (forms entry earlier)
    · rw [List.mem_singleton] at new
      subst new
      rw [normalize_eq_self_of_normalize]
      exact member

theorem ListsForms.insertAll {m : ExtensionMap} (forms : m.ListsForms)
    (claims : List (String × String)) : (m.insertAll claims).ListsForms := by
  induction claims generalizing m with
  | nil => exact forms
  | cons claim rest ih => exact ih (forms.insert claim.1 claim.2)

/-- Each entry is found by its extension, and no claim of a listed extension, however it is spelled,
adds an entry. -/
structure Findable (m : ExtensionMap) : Prop where
  found : ∀ entry ∈ m.entries, m.get? entry.1 = some entry.2
  taken : ∀ entry ∈ m.entries, ∀ e, SpelledAlike e entry.1 → ∀ language,
    m.insert e language = (false, m)

theorem findable_iff {m : ExtensionMap} (distinct : m.Distinct) : m.Findable ↔ m.ListsForms := by
  constructor
  · intro findable entry member
    exact (get?_eq_some_iff distinct).mp (findable.found entry member)
  · intro forms
    constructor
    · intro entry member
      exact (get?_eq_some_iff distinct).mpr (forms entry member)
    · intro entry member e alike language
      have listed : normalize e ∈ m.entries.map Prod.fst := by
        rw [normalize_eq_iff.mpr alike]
        exact List.mem_map_of_mem (forms entry member)
      rcases m.insert_cases e language with ⟨_, same⟩ | ⟨⟨_, free⟩, _⟩
      · exact same
      · exact absurd listed free

/-- In a map that is made of claims every entry is found, and none is added for a listed extension.
A map that was read from a file and added to has this exactly when each of its extensions is listed
in its one form too, and so whenever the file lists them all like that. -/
theorem entries_are_found {files : FileStore} {path : String} {m : ExtensionMap}
    (loads : load files path = .ok m) (claims : List (String × String)) :
    ((∅ : ExtensionMap).insertAll claims).Findable ∧
      ((m.insertAll claims).Findable ↔ (m.insertAll claims).ListsForms) ∧
      (m.ListsForms → (m.insertAll claims).Findable) := by
  have empty : (∅ : ExtensionMap).Distinct := List.nodup_nil
  have nothing : (∅ : ExtensionMap).ListsForms := fun _ member =>
    absurd member List.not_mem_nil
  have findable := findable_iff (insertAll_distinct (load_distinct loads) claims)
  refine ⟨?_, findable, fun forms => findable.mpr (forms.insertAll claims)⟩
  exact (findable_iff (insertAll_distinct empty claims)).mpr (nothing.insertAll claims)

/-- A file that lists one extension in two spellings. -/
def twofoldFiles : FileStore := ⟨[(["m.json"], .file (Text.Utf8.encode
  "\x7b\x22version\x22:1,\x22extensions\x22:\x7b\x22.C\x22:\x22C\x22,\x22.c\x22:\x22C\x22\x7d\x7d".toList))]⟩

theorem twofold_extension_is_found :
    load twofoldFiles "m.json" = .ok ⟨[(".C", "C"), (".c", "C")]⟩ ∧
      (ExtensionMap.insertAll ⟨[(".C", "C"), (".c", "C")]⟩ [("C", "D"), ("d", "D")]).Findable := by
  have loads : load twofoldFiles "m.json" = .ok ⟨[(".C", "C"), (".c", "C")]⟩ := by decide +kernel
  have forms : (⟨[(".C", "C"), (".c", "C")]⟩ : ExtensionMap).ListsForms := by
    unfold ListsForms
    decide +kernel
  exact ⟨loads, (entries_are_found loads [("C", "D"), ("d", "D")]).2.2 forms⟩

/-- A file that lists an extension in capitals. -/
def capitalFiles : FileStore := ⟨[(["m.json"], .file (Text.Utf8.encode
  "\x7b\x22version\x22:1,\x22extensions\x22:\x7b\x22.C\x22:\x22C\x22\x7d\x7d".toList))]⟩

theorem capital_extension_is_missed : ∃ m : ExtensionMap, load capitalFiles "m.json" = .ok m ∧
    (".C", "C") ∈ m.entries ∧ m.get? ".C" = none ∧
      m.insert ".C" "C" = (true, ⟨[(".C", "C"), (".c", "C")]⟩) := by
  refine ⟨⟨[(".C", "C")]⟩, ?_⟩
  decide +kernel

end ExtensionMap
end Highlighter
