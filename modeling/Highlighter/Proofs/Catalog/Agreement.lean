import Highlighter.Proofs.Catalog.Compile
import Highlighter.Proofs.Catalog.Storage

/-! A catalog that loads compiled files answers as one that builds from the source. What is read
from a file is used only when its name is the one that was asked for, and this name belongs to one
record of the source; so it is the definition that the other catalog builds from the same record. -/
namespace Highlighter.Catalog
open FileStore Result

variable {files t : FileStore} {dir : String} {paths : List String}

/-- The settings with this directory of compiled files, or with none. -/
def Settings.compiledIn (settings : Settings) (dir : Option String) : Settings :=
  { settings with compiledDir := dir }

/-- A compiled file that is used is the one of a record with this name. -/
theorem same_of_usable {c : Catalog} (compiled : c.compileAll files dir = (.ok paths, t))
    (empty : HoldsNoCompiled files dir) {name : String} {e : Definition}
    (usable : compiledFile t (Path.join dir (Compiled.fileName name)) name = .usable e) :
    ∃ r ∈ c.source.records, ∃ declared, r.declaration = .ok declared ∧ declared.name = name ∧
      (Definition.build declared).Same e := by
  obtain ⟨_, fills⟩ := compileAll_eq_ok compiled
  obtain ⟨text, stored, parsed, named⟩ := compiledFile_eq_usable_iff.mp usable
  obtain ⟨contents, found, decoded⟩ := readText_eq_ok.mp stored
  obtain ⟨r, member, declared, declares, written⟩ := fills.origin empty found
  rw [written, compiledBytes, Text.Utf8.decode?_encode, Option.some.injEq,
    String.toList_inj] at decoded
  rw [← decoded] at parsed
  have same := Compiled.same_of_parse_render (Definition.build_coherent declared) parsed
  have kept : declared.name = e.name := congrArg Definition.name same.rest
  exact ⟨r, member, declared, declares, kept.trans named, same⟩

/-- Compiling leaves the source where it was. -/
theorem source_kept {settings : Settings}
    (compiled : (start files settings).compileAll files dir = (.ok paths, t))
    (empty : HoldsNoCompiled files dir) {r : LanguageRecord}
    (member : r ∈ (sourceOf files settings).records) :
    sourceOf t settings = sourceOf files settings := by
  obtain ⟨_, fills⟩ := compileAll_eq_ok compiled
  cases loads : settings.source.load files with
  | error error =>
    rw [sourceOf, loads] at member
    cases member
  | ok source =>
    have still : settings.source.load t = .ok source := by
      refine SourceLocation.load_of_found (fun path contents _ found => ?_) loads
      exact fills.find_file empty ((grows_createDirectories files dir).keeps.find_file found)
    simp only [sourceOf, loads, still]

/-- Compiled files give the definitions that the source gives. -/
theorem answer_same {settings : Settings}
    (compiled : (start files settings).compileAll files dir = (.ok paths, t))
    (empty : HoldsNoCompiled files dir) (name : String) :
    ((start t (settings.compiledIn none)).answer t name).Same
      ((start t (settings.compiledIn (some dir))).answer t name) := by
  generalize loads : start t (settings.compiledIn (some dir)) = loaded
  have source : loaded.source = sourceOf t settings := loads ▸ rfl
  have path : loaded.compiledPath? (loaded.fullName name) =
      some (Path.join dir (Compiled.fileName (loaded.fullName name))) := loads ▸ rfl
  have builds : (start t (settings.compiledIn none)).find t name =
      loaded.build name := loads ▸ rfl
  rw [answer, answer, builds, find, path, Option.map_some]
  split
  · rename_i e usable
    obtain ⟨r, member, declared, declares, named, same⟩ :=
      same_of_usable compiled empty (Option.some.inj usable)
    have kept : loaded.source = (start files settings).source :=
      source.trans (source_kept compiled empty member)
    have spelled := LanguageRecord.name_of_declaration declares
    have built : loaded.build name = .built (.build declared) := by
      rw [fullName, kept] at named
      rw [build, kept]
      cases found : (start files settings).source.find? name with
      | none =>
        rw [found] at named
        have itself : declared.name = name := named
        rw [itself] at spelled
        exact absurd spelled (LanguageSource.find?_eq_none found r member)
      | some q =>
        obtain ⟨listed, known⟩ := LanguageSource.find?_eq_some found
        obtain ⟨text, title⟩ := Option.isSome_iff_exists.mp known
        rw [found, Option.bind_some, title, Option.getD_some] at named
        have one : q = r := LanguageSource.eq_of_name_eq (compileAll_eq_ok compiled).1 listed member
          title (named ▸ spelled)
        rw [one, Option.map_some, declares]
    rw [built]
    exact same
  · exact .refl _

/-- After all languages have been compiled into a directory that held no compiled files, a catalog
that loads them from there and one that does not give the same answers, whatever either of them has
been asked before. -/
theorem compiled_directory_changes_no_answer (settings : Settings)
    (compiled : (start files settings).compileAll files dir = (.ok paths, t))
    (empty : HoldsNoCompiled files dir) (lookup : Lookup) (before earlier : List Lookup) :
    ((((start t (settings.compiledIn none)).lookAll t before).look t
        lookup).1.definition).Same
      ((((start t (settings.compiledIn (some dir))).lookAll t earlier).look t
        lookup).1.definition) := by
  have extensions : (start t (settings.compiledIn (some dir))).extensions =
      (start t (settings.compiledIn none)).extensions := by
    simp only [start, sourceOf, savedMap?, Settings.compiledIn]
  exact look_same rfl rfl extensions (answer_same compiled empty) before earlier lookup

/-- The settings of a catalog of one language, whose source is given as a text. -/
def oneLanguage : Settings where
  source := .inline "[[language]]\nname = \"A b\"\nextensions = \"ab .AB\"\nline_comment = \"#\""

theorem compiled_language_changes_no_answer : ∃ paths t,
    (start ∅ oneLanguage).compileAll ∅ "out" = (.ok paths, t) ∧ HoldsNoCompiled ∅ "out" ∧
      ((((start t (oneLanguage.compiledIn none)).lookAll t []).look t
        (.extension "AB")).1.definition).Same
        ((((start t (oneLanguage.compiledIn (some "out"))).lookAll t [.name "a B"]).look t
          (.extension "AB")).1.definition) := by
  have succeeds : ((start ∅ oneLanguage).compileAll ∅ "out").1.isOk = true := by decide +kernel
  have directories : ∀ entry ∈ ((∅ : FileStore).createDirectories "out").1.nodes,
      entry.2 = .directory := by decide +kernel
  have fresh : HoldsNoCompiled ∅ "out" := fun _ => isFile_eq_false directories _
  have compiled : ∃ paths t, (start ∅ oneLanguage).compileAll ∅ "out" = (.ok paths, t) := by
    generalize (start ∅ oneLanguage).compileAll ∅ "out" = outcome at succeeds ⊢
    obtain ⟨result, t⟩ := outcome
    obtain ⟨paths, rfl⟩ := eq_ok_of_isOk succeeds
    exact ⟨paths, t, rfl⟩
  obtain ⟨paths, t, compiled⟩ := compiled
  exact ⟨paths, t, compiled, fresh,
    compiled_directory_changes_no_answer oneLanguage compiled fresh (.extension "AB") [] [.name "a B"]⟩

end Highlighter.Catalog
