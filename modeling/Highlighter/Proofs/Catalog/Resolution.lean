import Highlighter.Proofs.Catalog.Lookup
import Highlighter.Proofs.Language.ExtensionMap

/-! What an extension leads to. The extension map leads from an extension to the name of the first
record that lists it, and a name leads to the first record that has it; so the language that is found
has the name of a record that lists the extension, and it is made from the first record of this name,
which lists the extension unless a later record of the same name does so in its place. -/
namespace Highlighter.Catalog
open Extension

variable {files : FileStore}

/-- Without compiled files a name stands for the first record that has it. -/
theorem answer_of_first {c : Catalog} (files : FileStore)
    (uncompiled : c.settings.compiledDir = none) {name : String} {q : LanguageRecord}
    (first : c.source.records.find? (·.name = some name) = some q) :
    c.answer files name = match q.declaration with
      | .ok declared => .build declared
      | .error _ => .plainText := by
  have builds : c.find files name = c.build name := by
    rw [find, compiledPath?, uncompiled]
    rfl
  rw [answer, builds, build, LanguageSource.find?_of_first first, Option.map_some]
  cases q.declaration with
  | ok declared => rfl
  | error error => rfl

/-- A definition has the extensions that its record lists. -/
theorem mem_extensions_build {q : LanguageRecord} {declared : Declaration}
    (declares : q.declaration = .ok declared) {e : String} (filled : normalize e ≠ "") :
    normalize e ∈ (Definition.build declared).extensions ↔ q.lists e = true := by
  obtain ⟨named, listed⟩ := LanguageRecord.of_declaration declares
  have made : (Definition.build declared).extensions = collect (Text.words q.extensions) :=
    congrArg collect listed
  rw [made, mem_collect, and_iff_right filled, LanguageRecord.lists, named, Option.isSome_some,
    Bool.true_and, List.any_eq_true]
  simp only [same, decide_eq_true_eq]

/-- What the records of a source make of an extension. One that no record lists is plain text. With
`r` the first record that lists it and `q` the first record of the same name, it is plain text exactly
when `q` declares no language, and else a language of this name, which has the extension exactly when
`q` lists it. -/
def Assigned (source : LanguageSource) (e : String) (found : Definition) : Prop :=
  (source.records.find? (·.lists e) = none → found.isPlainText = true) ∧
  ∀ r, source.records.find? (·.lists e) = some r →
    ∃ q, source.records.find? (·.name = r.name) = some q ∧
      (found.isPlainText = true ↔ ∃ error, q.declaration = .error error) ∧
      (found.isPlainText = false → some found.name = r.name ∧
        (normalize e ∈ found.extensions ↔ q.lists e = true))

/-- What an extension leads to in a catalog that has been asked before. -/
def resolved (files : FileStore) (settings : Settings) (earlier : List Lookup) (e : String) :
    Definition :=
  (((start files settings).lookAll files earlier).resolve files e).1.definition

theorem resolved_eq {settings : Settings} {source : LanguageSource}
    (loads : settings.source.load files = .ok source) (unsaved : savedMap? files settings = none)
    {e : String} (filled : normalize e ≠ "") (earlier : List Lookup) :
    resolved files settings earlier e = (((source.records.find? (·.lists e)).bind (·.name)).map
      ((start files settings).answer files)).getD .plainText := by
  have fresh : (start files settings).found = [] := rfl
  have mapped : (start files settings).extensions = source.extensionMap := by
    simp only [start, sourceOf, loads, unsaved]
  have again : normalize (normalize e) ≠ "" := by
    rwa [normalize_eq_self_of_normalize]
  have listed : ∀ r : LanguageRecord, r.lists (normalize e) = r.lists e := by
    intro r
    simp only [LanguageRecord.lists, same, normalize_eq_self_of_normalize]
  have asked : (start files settings).asked? (.extension e) =
      (source.records.find? (·.lists e)).bind (·.name) := by
    simp only [asked?, mapped, LanguageSource.get?_extensionMap source again, listed]
  rw [← asked]
  exact look_lookAll fresh earlier (.extension e)

/-- Without compiled files and a saved extension map the records of the source settle what an extension
leads to, whatever the catalog has been asked before. -/
theorem extension_leads_to_claimed_name {settings : Settings} {source : LanguageSource}
    (loads : settings.source.load files = .ok source) (uncompiled : settings.compiledDir = none)
    (unsaved : savedMap? files settings = none) {e : String} (filled : normalize e ≠ "")
    (earlier : List Lookup) : Assigned source e (resolved files settings earlier e) := by
  rw [resolved_eq loads unsaved filled earlier]
  constructor
  · intro unlisted
    rw [unlisted]
    rfl
  · intro r claims
    have lists : r.lists e = true := List.find?_some (p := fun r : LanguageRecord => r.lists e) claims
    obtain ⟨name, named⟩ := Option.isSome_iff_exists.mp (Bool.and_eq_true_iff.mp lists).1
    obtain ⟨q, first⟩ : ∃ q, source.records.find? (·.name = r.name) = some q := by
      rw [← Option.isSome_iff_exists, List.find?_isSome]
      exact ⟨r, List.mem_of_find?_eq_some claims, decide_eq_true rfl⟩
    refine ⟨q, first, ?_⟩
    rw [named] at first
    have kept : q.name = some name :=
      of_decide_eq_true (List.find?_some (p := fun q : LanguageRecord => q.name = some name) first)
    have loaded : (start files settings).source = source := by
      simp only [start, sourceOf, loads]
    have answers := answer_of_first (c := start files settings) files uncompiled
      (loaded.symm ▸ first)
    rw [claims, Option.bind_some, named, Option.map_some, Option.getD_some, answers]
    cases declares : q.declaration with
    | error error =>
      constructor
      · exact ⟨fun _ => ⟨error, rfl⟩, fun _ => rfl⟩
      · intro ruled
        cases ruled
    | ok declared =>
      constructor
      · constructor
        · intro plain
          cases plain
        · rintro ⟨error, fails⟩
          cases fails
      · intro _
        have named := (LanguageRecord.of_declaration declares).1
        exact ⟨named.symm.trans kept, mem_extensions_build declares filled⟩

/-- Three records, the last of which has the name of the first one. -/
def namesakes : Settings where
  source := .inline ("\n".intercalate
    ["[[language]]", "name = \"X\"", "extensions = \"a\"",
      "[[language]]", "name = \"x\"", "extensions = \".B ..a\"",
      "[[language]]", "name = \"X\"", "extensions = \"b C\""])

theorem namesake_found_by_name : ∃ source, namesakes.source.load ∅ = .ok source ∧
    namesakes.compiledDir = none ∧ savedMap? ∅ namesakes = none ∧ normalize " .c" ≠ "" ∧
      Assigned source " .c" (resolved ∅ namesakes [.name "x", .extension "b"] " .c") := by
  obtain ⟨source, loads⟩ : ∃ source, namesakes.source.load ∅ = .ok source :=
    Result.eq_ok_of_isOk (by decide +kernel)
  have filled : normalize " .c" ≠ "" := by decide +kernel
  exact ⟨source, loads, rfl, rfl, filled, extension_leads_to_claimed_name loads rfl rfl filled _⟩

/-- Two records of one name, of which only the second one declares a language. -/
def twins : String := "\n".intercalate
  ["[[language]]", "name = \"X\"", "extensions = \"a\"", "block_comment = []",
    "[[language]]", "name = \"X\"", "extensions = \"b\""]

/-- The record that lists the extension declares a language, but the first one of its name does not,
and that one is asked. -/
theorem twin_hidden_by_namesake : ∃ source r, LanguageSource.parse twins = .ok source ∧
    source.records.find? (·.lists "b") = some r ∧ (∃ declared, r.declaration = .ok declared) ∧
      ((start ∅ { source := .inline twins }).resolve ∅ "b").1.definition.isPlainText = true := by
  obtain ⟨source, accepted, passes⟩ : ∃ source, LanguageSource.parse twins = .ok source ∧
      (source.records.find? (·.lists "b")).any (·.declaration.isOk) = true :=
    Result.eq_ok_of_any (by decide +kernel)
  obtain ⟨r, lists, declares⟩ := (Option.any_eq_true _ _).mp passes
  exact ⟨source, r, accepted, lists, Result.eq_ok_of_isOk declares, by decide +kernel⟩

end Highlighter.Catalog
