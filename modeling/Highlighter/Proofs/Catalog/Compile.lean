import Highlighter.Catalog.Compile
import Highlighter.Proofs.Catalog.Lookup
import Highlighter.Proofs.Compiled.RoundTrip
import Highlighter.Proofs.Files.Store
import Highlighter.Proofs.Language.Source

/-! Compiled files take the place of the source that they were made from. Compiling writes the texts
of definitions and takes nothing away; so in a directory that held no compiled file before, each one
that is found afterwards is such a text and gives its definition again. -/
namespace Highlighter.Catalog
open FileStore Result

variable {s t u : FileStore} {dir : String}

/-- A file that holds a compiled language of this name. -/
def Holds (files : FileStore) (path language : String) (d : Definition) : Prop :=
  ∃ text, files.readText path = .ok text ∧ Compiled.parse text = .ok d ∧ d.name = language

theorem compiledFile_eq_usable_iff {files : FileStore} {path language : String} {d : Definition} :
    compiledFile files path language = .usable d ↔ Holds files path language d := by
  unfold compiledFile
  constructor
  · intro usable
    split at usable
    · split at usable
      · rename_i e accepted
        split at usable
        · rename_i named
          cases usable
          obtain ⟨text, stored, parsed⟩ := bind_eq_ok.mp accepted
          exact ⟨text, mapError_eq_ok.mp stored, parsed, named⟩
        · cases usable
      · cases usable
    · cases usable
  · rintro ⟨text, stored, parsed, named⟩
    obtain ⟨contents, found, _⟩ := readText_eq_ok.mp stored
    have accepted : (files.textAt path >>= Compiled.parse) = .ok d :=
      bind_eq_ok.mpr ⟨text, mapError_eq_ok.mpr stored, parsed⟩
    rw [if_pos (isFile_iff.mpr ⟨contents, found⟩), accepted]
    simp only [named, if_true]

/-- The bytes of the compiled file of a definition. -/
def compiledBytes (d : Definition) : List UInt8 := Text.Utf8.encode (Compiled.render d).toList

/-- At a place that was no directory stands the compiled text of a definition, whose path in `dir`
leads there. -/
structure Filled (s t : FileStore) (dir : String) (d : Definition) (place : Place) : Prop where
  located : s.locate (Path.join dir (Compiled.fileName d.name)) = .ok place
  named : Path.wantsDirectory (Path.join dir (Compiled.fileName d.name)) = false
  free : s.nodeAt? place ≠ some .directory
  here : t.nodeAt? place = some (.file (compiledBytes d))

/-- What compiling records does: every place is as it was, or filled with the definition of one of
the records. -/
def Fills (s t : FileStore) (dir : String) (records : List LanguageRecord) : Prop :=
  ∀ place, t.nodeAt? place = s.nodeAt? place ∨
    ∃ r ∈ records, ∃ declared, r.declaration = .ok declared ∧ Filled s t dir (.build declared) place

theorem Fills.directory_iff {records : List LanguageRecord} (fills : Fills s t dir records)
    (place : Place) : t.nodeAt? place = some .directory ↔ s.nodeAt? place = some .directory := by
  rcases fills place with same | ⟨_, _, _, _, filled⟩
  · rw [same]
  · simp only [filled.here, filled.free, Option.some.injEq, reduceCtorEq]

theorem saveCompiled_writes {d : Definition} {path : String}
    (saved : saveCompiled s dir d = (.ok path, t)) :
    ∃ place, Writes s (Path.join dir (Compiled.fileName d.name)) (compiledBytes d) t place := by
  unfold saveCompiled at saved
  dsimp only at saved
  split at saved
  · rename_i written
    rw [(Prod.mk.inj saved).2] at written
    exact writes_of_write written
  · cases saved

/-- Filling goes on after a first definition has been written. -/
theorem Fills.cons {r : LanguageRecord} {rest : List LanguageRecord} {declared : Declaration}
    (declares : r.declaration = .ok declared) {place : Place}
    (writes : Writes s (Path.join dir (Compiled.fileName declared.name))
      (compiledBytes (.build declared)) t place)
    (fills : Fills t u dir rest) : Fills s u dir (r :: rest) := by
  intro other
  rcases fills other with same | ⟨q, member, later, valid, filled⟩
  · by_cases here : other = place
    · subst here
      refine .inr ⟨r, List.mem_cons_self, declared, declares, ?_⟩
      exact ⟨writes.located, writes.named, writes.free, same.trans writes.here⟩
    · exact .inl (same.trans (writes.elsewhere other here))
  · refine .inr ⟨q, List.mem_cons_of_mem _ member, later, valid, ?_⟩
    have back := locate_mono (fun p => (writes.directory_iff p).mp) filled.located
    exact ⟨back, filled.named, fun was => filled.free ((writes.directory_iff other).mpr was),
      filled.here⟩

theorem compileRecords_fills {records : List LanguageRecord} {paths : List String}
    (compiled : compileRecords s dir records = (.ok paths, t)) : Fills s t dir records := by
  induction records generalizing s paths with
  | nil =>
    cases compiled
    exact fun _ => .inl rfl
  | cons r rest ih =>
    rw [compileRecords] at compiled
    split at compiled
    · cases compiled
    · rename_i declared declares
      split at compiled
      · cases compiled
      · rename_i path after saved
        obtain ⟨place, writes⟩ := saveCompiled_writes saved
        obtain ⟨result, following⟩ := Prod.mk.inj compiled
        cases outcome : (compileRecords after dir rest).1 with
        | error fault =>
          rw [outcome] at result
          cases result
        | ok others => exact .cons declares writes (ih (Prod.ext outcome following))

/-- No language has a compiled file in the directory, once there is this directory. -/
def HoldsNoCompiled (files : FileStore) (dir : String) : Prop := ∀ language,
  (files.createDirectories dir).1.isFile (Path.join dir (Compiled.fileName language)) = false

section Filling
variable {records : List LanguageRecord} {contents : List UInt8}

theorem not_file_of_filled {d : Definition} {place : Place} (filled : Filled s t dir d place)
    (empty : s.isFile (Path.join dir (Compiled.fileName d.name)) = false) :
    s.nodeAt? place ≠ some (.file contents) := by
  intro here
  have found := find_file_iff.mpr ⟨place, filled.located, here, filled.named⟩
  rw [isFile_iff.mpr ⟨contents, found⟩] at empty
  cases empty

/-- Files that were there are there still. -/
theorem Fills.find_file (fills : Fills s t dir records)
    (empty : ∀ language, s.isFile (Path.join dir (Compiled.fileName language)) = false)
    {path : String} (found : s.find path = .ok (.file contents)) :
    t.find path = .ok (.file contents) := by
  obtain ⟨place, located, here, named⟩ := find_file_iff.mp found
  have further := locate_mono (fun p => (fills.directory_iff p).mpr) located
  refine find_file_iff.mpr ⟨place, further, ?_, named⟩
  rcases fills place with same | ⟨_, _, _, _, filled⟩
  · rw [same, here]
  · exact absurd here (not_file_of_filled filled (empty _))

/-- A file for a language that was not there is the compiled text of a record. -/
theorem Fills.origin (fills : Fills s t dir records)
    (empty : ∀ language, s.isFile (Path.join dir (Compiled.fileName language)) = false)
    {language : String}
    (found : t.find (Path.join dir (Compiled.fileName language)) = .ok (.file contents)) :
    ∃ r ∈ records, ∃ declared, r.declaration = .ok declared ∧
      contents = compiledBytes (.build declared) := by
  obtain ⟨place, located, here, named⟩ := find_file_iff.mp found
  have back := locate_mono (fun p => (fills.directory_iff p).mp) located
  rcases fills place with same | ⟨r, member, declared, declares, filled⟩
  · rw [same] at here
    have before := isFile_iff.mpr ⟨contents, find_file_iff.mpr ⟨place, back, here, named⟩⟩
    rw [empty] at before
    cases before
  · rw [filled.here] at here
    have same := FileNode.file.inj (Option.some.inj here)
    exact ⟨r, member, declared, declares, same.symm⟩

end Filling

/-- Names clash when they are compiled into one file. -/
theorem clashAfter?_eq_none_iff {seen : List (String × String)} {names : List String} :
    clashAfter? seen names = none ↔ (names.map Compiled.fileName).Nodup ∧
      ∀ name ∈ names, seen.lookup (Compiled.fileName name) = none := by
  induction names generalizing seen with
  | nil => simp [clashAfter?]
  | cons name rest ih =>
    simp only [clashAfter?]
    cases before : seen.lookup (Compiled.fileName name) with
    | some first =>
      simp only [reduceCtorEq, false_iff, not_and]
      intro _ absent
      have missing := absent name List.mem_cons_self
      rw [before] at missing
      cases missing
    | none =>
      simp only [ih, List.map_cons, List.nodup_cons, List.forall_mem_cons, before, true_and,
        List.lookup_cons]
      constructor
      · rintro ⟨distinct, others⟩
        have apart : Compiled.fileName name ∉ rest.map Compiled.fileName := by
          intro member
          obtain ⟨other, inside, same⟩ := List.mem_map.mp member
          have absent := others other inside
          rw [same] at absent
          simp at absent
        refine ⟨⟨apart, distinct⟩, fun other inside => ?_⟩
        have absent := others other inside
        split at absent
        · cases absent
        · exact absent
      · rintro ⟨⟨apart, distinct⟩, others⟩
        refine ⟨distinct, fun other inside => ?_⟩
        have different : Compiled.fileName other ≠ Compiled.fileName name := fun same =>
          apart (same ▸ List.mem_map_of_mem inside)
        rw [beq_false_of_ne different]
        exact others other inside

theorem compileAll_eq_ok {c : Catalog} {paths : List String}
    (compiled : c.compileAll s dir = (.ok paths, t)) : c.source.names.Nodup ∧
      Fills (s.createDirectories dir).1 t dir c.source.records := by
  unfold compileAll at compiled
  split at compiled
  · cases compiled
  · rename_i distinct
    split at compiled
    · cases compiled
    · rename_i made result
      refine ⟨(clashAfter?_eq_none_iff.mp distinct).1.of_map _, ?_⟩
      rw [result]
      exact compileRecords_fills compiled

end Highlighter.Catalog
