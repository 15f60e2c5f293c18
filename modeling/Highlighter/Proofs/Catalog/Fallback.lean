import Highlighter.Proofs.Catalog.Agreement

/-! Compiled files that cannot be used. A look-up asks for one file, and takes the definition in it
only when all of the file can be read and names the language. Whatever else stands there, the
look-up and what it leaves in the catalog are those of a catalog without compiled files, which reads
no file. -/
namespace Highlighter.Catalog
open FileStore Result

variable {c : Catalog} {files : FileStore} {dir name language : String}

/-- The name that a language goes by: that of its record, or the one it was asked for by if there is
no record. -/
inductive GoesBy (source : LanguageSource) (name : String) : String → Prop where
  | recorded {r : LanguageRecord} {language : String} (found : source.find? name = some r)
      (named : r.name = some language) : GoesBy source name language
  | unknown (missing : source.find? name = none) : GoesBy source name name

theorem fullName_eq_iff : c.fullName name = language ↔ GoesBy c.source name language := by
  unfold Catalog.fullName
  constructor
  · rintro rfl
    cases found : c.source.find? name with
    | none => exact .unknown found
    | some r =>
      obtain ⟨text, named⟩ := Option.isSome_iff_exists.mp (LanguageSource.find?_eq_some found).2
      rw [Option.bind_some, named]
      exact .recorded found named
  · intro called
    cases called with
    | recorded found named => rw [found, Option.bind_some, named, Option.getD_some]
    | unknown missing => rw [missing, Option.bind_none, Option.getD_none]

/-- The catalog without its directory of compiled files. -/
def uncompiled (c : Catalog) : Catalog := { c with settings := c.settings.compiledIn none }

/-- Without compiled files no file is read. -/
theorem find_uncompiled (c : Catalog) (files : FileStore) (name : String) :
    c.uncompiled.find files name = c.build name := rfl

theorem find_of_holds (given : c.settings.compiledDir = some dir) {d : Definition}
    (holds : Holds files (Path.join dir (Compiled.fileName (c.fullName name))) (c.fullName name) d) :
    c.find files name = .compiled d := by
  rw [find, compiledPath?, given, Option.map_some, Option.map_some,
    compiledFile_eq_usable_iff.mpr holds]

theorem find_of_not_holds (given : c.settings.compiledDir = some dir)
    (bad : ∀ d, ¬ Holds files (Path.join dir (Compiled.fileName (c.fullName name)))
      (c.fullName name) d) : c.find files name = c.build name := by
  rw [find, compiledPath?, given, Option.map_some, Option.map_some]
  split
  · rename_i d usable
    exact absurd (compiledFile_eq_usable_iff.mp (Option.some.inj usable)) (bad d)
  · rfl

/-- What a catalog finds for a name is all that a look-up of this name depends on. -/
theorem byName_of_missing (uncached : c.found.lookup name = none) :
    c.byName files name = match (c.find files name).definition? with
      | some d => (⟨c.nextNumber, d⟩, { c with
          found := c.found ++ [(name, ⟨c.nextNumber, d⟩)], nextNumber := c.nextNumber + 1 })
      | none => (plain, { c with found := c.found ++ [(name, plain)] }) := by
  unfold byName
  cases (c.find files name).definition? <;> simp only [uncached]

/-- What a look-up by name gives where files are compiled into `dir`, and how it falls back: to the
look-up of a catalog without compiled files, whatever files there are. -/
structure FallsBack (c : Catalog) (files : FileStore) (dir name language : String) : Prop where
  accepted : ∀ d, Holds files (Path.join dir (Compiled.fileName language)) language d →
    (c.byName files name).1 = ⟨c.nextNumber, d⟩
  rejected : (∀ d, ¬ Holds files (Path.join dir (Compiled.fileName language)) language d) →
    ∀ other, c.byName files name = ((c.uncompiled.byName other name).1,
      { (c.uncompiled.byName other name).2 with settings := c.settings })
  built : ∀ r declared, c.source.find? name = some r → r.declaration = .ok declared →
    (c.uncompiled.byName files name).1 = ⟨c.nextNumber, .build declared⟩
  plain : (∀ r declared, c.source.find? name = some r → r.declaration ≠ .ok declared) →
    (c.uncompiled.byName files name).1 = plain

/-- A name that was not asked for before is looked up in the compiled file of its language, if that
file holds the language, and otherwise as if there were no compiled files. -/
theorem bad_compiled_file_changes_no_lookup (given : c.settings.compiledDir = some dir)
    (uncached : c.found.lookup name = none) (called : GoesBy c.source name language) :
    FallsBack c files dir name language := by
  have unasked : c.uncompiled.found.lookup name = none := uncached
  obtain rfl := fullName_eq_iff.mpr called
  constructor
  · intro d holds
    rw [byName_of_missing uncached, find_of_holds given holds]
    rfl
  · intro bad other
    rw [byName_of_missing uncached, byName_of_missing unasked, find_of_not_holds given bad,
      find_uncompiled]
    cases (c.build name).definition? <;> rfl
  · intro r declared found declares
    rw [byName_of_missing unasked, find_uncompiled, build, found, Option.map_some, declares]
    rfl
  · intro without
    rw [byName_of_missing unasked, find_uncompiled, build]
    cases found : c.source.find? name with
    | none => rfl
    | some r =>
      cases declares : r.declaration with
      | ok declared => exact absurd declares (without r declared found)
      | error error =>
        rw [Option.map_some, declares]
        rfl

/-- A language in whose compiled file stands another one, the name of which is spelled as it is
asked for. -/
def misnamedFiles : FileStore := ⟨[(["out"], .directory),
  (["out", "alpha.lang"], .file (Text.Utf8.encode "Name = ALPHA\nLineComment = //".toList))]⟩

def misnamed : Catalog := start misnamedFiles
  { source := .inline "[[language]]\nname = \"Alpha\"\nline_comment = \"#\""
    compiledDir := some "out" }

theorem misnamed_file_is_passed_over : misnamed.settings.compiledDir = some "out" ∧
    misnamed.found.lookup "ALPHA" = none ∧ GoesBy misnamed.source "ALPHA" "Alpha" ∧
      (misnamed.byName misnamedFiles "ALPHA").1.definition.lineComment = some "#" ∧
        FallsBack misnamed misnamedFiles "out" "ALPHA" "Alpha" := by
  have facts : misnamed.fullName "ALPHA" = "Alpha" ∧
      (misnamed.byName misnamedFiles "ALPHA").1.definition.lineComment = some "#" := by
    decide +kernel
  have called := fullName_eq_iff.mp facts.1
  exact ⟨rfl, rfl, called, facts.2, bad_compiled_file_changes_no_lookup rfl rfl called⟩

end Highlighter.Catalog
