import Highlighter.Proofs.Catalog.Lookup
import Highlighter.Proofs.Catalog.Storage

/-! A catalog in use. Whatever it was asked and told before, it answers as a catalog that starts now
over the files as they are now: what it keeps for a name is what would be found again, and a rebuild
replaces source, extension map and answers by those of a start, which reads the map that the rebuild
has saved. Its settings stay, and the files that it leaves stand in directories. -/
namespace Highlighter
open FileStore Result

variable {files t : FileStore} {settings : Catalog.Settings}

namespace Catalog

/-- What a catalog is told. -/
inductive Operation where
  | look (lookup : Lookup)
  | clear
  | rebuild

/-- The catalog and the files after an operation. -/
def perform (c : Catalog) (files : FileStore) : Operation → Catalog × FileStore
  | .look lookup => ((c.look files lookup).2, files)
  | .clear => (c.clear, files)
  | .rebuild =>
    match c.rebuild files with
    | (.ok (_, rebuilt), files) => (rebuilt, files)
    | (.error _, files) => (c, files)

def performAll (c : Catalog) (files : FileStore) : List Operation → Catalog × FileStore
  | [] => (c, files)
  | operation :: rest => (c.perform files operation).1.performAll (c.perform files operation).2 rest

/-- Whether an operation fails because a file cannot be read or written. -/
def failsOnFile (c : Catalog) (files : FileStore) : Operation → Bool
  | .look _ | .clear => false
  | .rebuild =>
    match (c.rebuild files).1 with
    | .error (.unusableFile _ _) => true
    | _ => false

/-- Whether no operation fails on a file. -/
def runsThrough (c : Catalog) (files : FileStore) : List Operation → Bool
  | [] => true
  | operation :: rest => !c.failsOnFile files operation &&
      (c.perform files operation).1.runsThrough (c.perform files operation).2 rest

/-- The extension map is not saved over the source. -/
def Settings.Apart (settings : Settings) : Prop := ∀ source map, settings.source = .file source →
  settings.mapPath = some map → destination source ≠ destination map

variable {c : Catalog}

/-- The catalog after its source has been replaced. -/
def adopt (c : Catalog) (source : LanguageSource) : Catalog :=
  { c with source, extensions := source.extensionMap, found := [] }

/-- What a rebuild comes to: its result, and the files that it leaves. -/
inductive Rebuilds (c : Catalog) (files : FileStore) :
    Except LanguageError (ExtensionMap × Catalog) → FileStore → Prop
  | unread {error : LanguageError} (fails : c.settings.source.load files = .error error) :
      Rebuilds c files (.error error) files
  | unsaved {source : LanguageSource} (loads : c.settings.source.load files = .ok source)
      (nowhere : c.settings.mapPath = none) :
      Rebuilds c files (.ok (source.extensionMap, c.adopt source)) files
  | saved {source : LanguageSource} {path : String} {t : FileStore}
      (loads : c.settings.source.load files = .ok source) (given : c.settings.mapPath = some path)
      (saves : source.extensionMap.save files path = (.ok (), t)) :
      Rebuilds c files (.ok (source.extensionMap, c.adopt source)) t
  | refused {source : LanguageSource} {path known : String} {fault : FileFault} {t : FileStore}
      (loads : c.settings.source.load files = .ok source) (given : c.settings.mapPath = some path)
      (fails : source.extensionMap.save files path = (.error (.unusableFile known fault), t)) :
      Rebuilds c files (.error (.unusableFile known fault)) t

theorem rebuilds (c : Catalog) (files : FileStore) :
    Rebuilds c files (c.rebuild files).1 (c.rebuild files).2 := by
  unfold rebuild
  split
  · rename_i error fails
    exact .unread fails
  · rename_i source loads
    cases given : c.settings.mapPath with
    | none => exact .unsaved loads given
    | some path =>
      dsimp only [Option.map_some]
      generalize saves : source.extensionMap.save files path = outcome
      obtain ⟨result, t⟩ := outcome
      cases result with
      | ok done => exact .saved loads given saves
      | error error =>
        obtain ⟨known, fault, rfl⟩ := ExtensionMap.save_eq_error saves
        exact .refused loads given saves

theorem rebuild_iff {result : Except LanguageError (ExtensionMap × Catalog)} :
    c.rebuild files = (result, t) ↔ Rebuilds c files result t := by
  constructor
  · intro comes
    have known := rebuilds c files
    rwa [comes] at known
  · intro comes
    cases comes with
    | unread fails => simp only [rebuild, fails]
    | unsaved loads nowhere =>
      simp only [rebuild, loads, nowhere, Option.map_none]
      rfl
    | saved loads given saves =>
      simp only [rebuild, loads, given, Option.map_some, saves]
      rfl
    | refused loads given fails => simp only [rebuild, loads, given, Option.map_some, fails]

/-- The source is loaded as before after the extension map has been saved elsewhere. -/
theorem load_kept {m : ExtensionMap} {path : String} (apart : settings.Apart)
    (given : settings.mapPath = some path) (saved : m.save files path = (.ok (), t))
    {source : LanguageSource} (loads : settings.source.load files = .ok source) :
    settings.source.load t = .ok source := by
  refine SourceLocation.load_of_found (fun known contents location found => ?_) loads
  obtain ⟨made, place, kept, writes⟩ := ExtensionMap.save_eq_ok saved
  exact writes.find_other (apart known path location given) (kept.find_file found)

theorem adopt_settled {source : LanguageSource} (same : c.settings = settings)
    (loads : settings.source.load files = .ok source)
    (extensions : (start files settings).extensions = source.extensionMap) :
    Settled (start files settings) (c.adopt source) files where
  settings := same
  source := by simp only [adopt, start, sourceOf, loads]
  extensions := extensions.symm
  found := by simp [adopt]

/-- A catalog that starts after a rebuild has the extension map of the rebuild: the map in its file
is the one that was written there. -/
theorem extensions_of_saved {m : ExtensionMap} (distinct : m.Distinct) {path : String}
    (given : settings.mapPath = some path) (saves : m.save files path = (.ok (), t)) :
    (start t settings).extensions = m := by
  obtain ⟨made, place, kept, writes⟩ := ExtensionMap.save_eq_ok saves
  have loads := ExtensionMap.load_of_find distinct writes.find
  have file : t.isFile path = true := isFile_iff.mpr ⟨_, writes.find⟩
  simp only [start, savedMap?, given, Option.bind_some, file, if_true, loads]

/-- After an operation that does not fail on a file, a catalog is as one that has started over the
files that the operation has left. -/
theorem perform_settled (apart : settings.Apart) (settled : Settled (start files settings) c files)
    {operation : Operation} (usable : c.failsOnFile files operation = false) :
    Settled (start (c.perform files operation).2 settings) (c.perform files operation).1
      (c.perform files operation).2 := by
  cases operation with
  | look lookup => exact (look_settled settled lookup).2
  | clear => exact ⟨settled.settings, settled.source, settled.extensions, by simp [perform, clear]⟩
  | rebuild =>
    have same : c.settings = settings := settled.settings
    have comes := rebuilds c files
    unfold perform
    unfold failsOnFile at usable
    generalize c.rebuild files = outcome at comes usable ⊢
    obtain ⟨result, t⟩ := outcome
    cases comes with
    | unread fails => exact settled
    | unsaved loads nowhere =>
      rw [same] at loads nowhere
      refine adopt_settled same loads ?_
      simp only [start, sourceOf, loads, savedMap?, nowhere, Option.bind_none]
    | @saved source path _ loads given saves =>
      rw [same] at loads given
      have empty : (∅ : ExtensionMap).Distinct := List.nodup_nil
      have distinct := ExtensionMap.insertAll_distinct empty source.claims
      exact adopt_settled same (load_kept apart given saves loads)
        (extensions_of_saved distinct given saves)
    | refused => cases usable

theorem performAll_settled (apart : settings.Apart)
    (settled : Settled (start files settings) c files) {operations : List Operation}
    (usable : c.runsThrough files operations = true) :
    Settled (start (c.performAll files operations).2 settings) (c.performAll files operations).1
      (c.performAll files operations).2 := by
  induction operations generalizing c files with
  | nil => exact settled
  | cons operation rest ih =>
    rw [runsThrough, Bool.and_eq_true, Bool.not_eq_true'] at usable
    exact ih (perform_settled apart settled usable.1) usable.2

/-- A catalog that has been asked, cleared and rebuilt answers each look-up as a catalog that starts
over the files as they are then. -/
theorem history_changes_no_answer {now : FileStore} (apart : settings.Apart)
    {earlier : List Operation} (usable : (start files settings).runsThrough files earlier = true)
    (reached : (start files settings).performAll files earlier = (c, now)) (lookup : Lookup) :
    (c.look now lookup).1.definition = ((start now settings).look now lookup).1.definition := by
  have settled := performAll_settled apart (.refl rfl) usable
  rw [reached] at settled
  have fresh : Settled (start now settings) (start now settings) now := .refl rfl
  exact (look_settled settled lookup).1.trans (look_settled fresh lookup).1.symm

/-- A source file, and the file of an extension map in a directory of its own. -/
def savedMapSettings : Settings where
  source := .file "languages.toml"
  mapPath := some "cache/map.json"

/-- A source, and a map that was saved for another source. -/
def staleMap : FileStore := ⟨[
  (["languages.toml"], .file (Text.Utf8.encode
    "[[language]]\nname = \"A b\"\nextensions = \"ab\"\nline_comment = \"#\"".toList)),
  (["cache"], .directory),
  (["cache", "map.json"], .file (Text.Utf8.encode (ExtensionMap.mk [(".ab", "C")]).render.toList))]⟩

def askedAndRebuilt : List Operation :=
  [.look (.extension "AB"), .rebuild, .look (.name "a B"), .clear, .look (.name "C"), .rebuild]

theorem rebuilt_catalog_answers_afresh : ∃ c now, savedMapSettings.Apart ∧
    (start staleMap savedMapSettings).runsThrough staleMap askedAndRebuilt = true ∧
    (start staleMap savedMapSettings).performAll staleMap askedAndRebuilt = (c, now) ∧
    (c.look now (.path "dir/x.Ab")).1.definition.name = "A b" ∧
    (c.look now (.path "dir/x.Ab")).1.definition =
      ((start now savedMapSettings).look now (.path "dir/x.Ab")).1.definition := by
  have apart : savedMapSettings.Apart := by
    intro source map located saved
    cases located
    cases saved
    decide +kernel
  have usable : (start staleMap savedMapSettings).runsThrough staleMap askedAndRebuilt = true := by
    decide +kernel
  have named : (((start staleMap savedMapSettings).performAll staleMap askedAndRebuilt).1.look
      ((start staleMap savedMapSettings).performAll staleMap askedAndRebuilt).2
      (.path "dir/x.Ab")).1.definition.name = "A b" := by decide +kernel
  exact ⟨_, _, apart, usable, Prod.mk.eta.symm, named,
    history_changes_no_answer apart usable Prod.mk.eta.symm (.path "dir/x.Ab")⟩

end Catalog
end Highlighter
