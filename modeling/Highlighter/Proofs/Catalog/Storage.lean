import Highlighter.Catalog.Basic
import Highlighter.Proofs.Files.Directories
import Highlighter.Proofs.Language.ExtensionFile

/-! The files of a catalog: its source, which is read, and its extension map, which is saved.
Directories are made for the file of the map, then it is written. A map that was saved is loaded as
it was, and saving it again comes to the same, also when it fails. -/
namespace Highlighter
open FileStore Result

variable {files t : FileStore}

/-- A source is loaded as before where its file is found as before. -/
theorem SourceLocation.load_of_found {location : SourceLocation} {source : LanguageSource}
    (still : ∀ path contents, location = .file path → files.find path = .ok (.file contents) →
      t.find path = .ok (.file contents))
    (loads : location.load files = .ok source) : location.load t = .ok source := by
  cases location with
  | bundled => exact loads
  | inline text => exact loads
  | file path =>
    obtain ⟨text, stored, parsed⟩ := bind_eq_ok.mp loads
    obtain ⟨contents, found, decoded⟩ := readText_eq_ok.mp (mapError_eq_ok.mp stored)
    have reads : t.readText path = .ok text :=
      readText_eq_ok.mpr ⟨contents, still path contents rfl found, decoded⟩
    exact bind_eq_ok.mpr ⟨text, mapError_eq_ok.mpr reads, parsed⟩

namespace ExtensionMap

variable {m : ExtensionMap} {path : String} {error : LanguageError}
  {result : Except LanguageError Unit}

/-- What saving a map comes to: its result, and the files that it leaves. -/
inductive Saves (m : ExtensionMap) (files : FileStore) (path : String) :
    Except LanguageError Unit → FileStore → Prop
  | homeless {made : FileStore} {fault : FileFault}
      (fails : files.createDirectories (Path.parent path) = (made, some fault)) :
      Saves m files path (.error (.unusableFile (Path.parent path) fault)) made
  | refused {made : FileStore} {fault : FileFault}
      (makes : files.createDirectories (Path.parent path) = (made, none))
      (fails : made.writeText path m.render = .error fault) :
      Saves m files path (.error (.unusableFile path fault)) made
  | written {made t : FileStore}
      (makes : files.createDirectories (Path.parent path) = (made, none))
      (writes : made.writeText path m.render = .ok t) : Saves m files path (.ok ()) t

theorem saves_iff :
    m.save files path = (result, t) ↔ Saves m files path result t := by
  unfold save createParents
  constructor
  · intro saved
    generalize makes : files.createDirectories (Path.parent path) = outcome at saved
    obtain ⟨made, fault⟩ := outcome
    cases fault with
    | some fault =>
      cases saved
      exact .homeless makes
    | none =>
      dsimp only at saved
      split at saved
      · rename_i fails
        cases saved
        exact .refused makes fails
      · rename_i writes
        cases saved
        exact .written makes writes
  · intro saves
    cases saves with
    | homeless fails => simp only [fails]
    | refused makes fails => simp only [makes, fails]
    | written makes writes => simp only [makes, writes]

theorem save_eq_ok (saved : m.save files path = (.ok (), t)) : ∃ made place, Keeps files made ∧
    Writes made path (Text.Utf8.encode m.render.toList) t place := by
  cases saves_iff.mp saved with
  | written makes writes =>
    obtain ⟨place, writes⟩ := writes_of_write writes
    have kept := (grows_createDirectories files (Path.parent path)).keeps
    rw [makes] at kept
    exact ⟨_, place, kept, writes⟩

theorem save_eq_error (refused : m.save files path = (.error error, t)) :
    ∃ known fault, error = .unusableFile known fault := by
  cases saves_iff.mp refused with
  | homeless => exact ⟨_, _, rfl⟩
  | refused => exact ⟨_, _, rfl⟩

/-- A map that was saved is loaded as it was. -/
theorem load_of_find (distinct : m.Distinct)
    (found : t.find path = .ok (.file (Text.Utf8.encode m.render.toList))) :
    ExtensionMap.load t path = .ok m := by
  have reads : t.readText path = .ok m.render :=
    readText_eq_ok.mpr ⟨_, found, Text.Utf8.decode?_encode _⟩
  exact bind_eq_ok.mpr ⟨_, mapError_eq_ok.mpr reads, parse_render distinct⟩

end ExtensionMap
end Highlighter
