import Highlighter.Proofs.Catalog.Compile
import Highlighter.Proofs.Compiled.FileName

/-! Compiling all languages writes no language over another one. Names that differ in the case of
letters only have one file, and where a source has two of them nothing is written; otherwise each
record has a path of its own, which leads to a place of its own, so what was written there first
stays as it was while the other files are written. -/
namespace Highlighter

/-- Two records have names that differ in the case of letters at most. -/
def LanguageSource.Clashes (s : LanguageSource) : Prop :=
  ∃ (i j : Nat) (r q : LanguageRecord) (first second : String), i < j ∧
    s.records[i]? = some r ∧ s.records[j]? = some q ∧ r.name = some first ∧ q.name = some second ∧
      LanguageSource.sameName first second = true

theorem LanguageSource.not_clashes_iff {s : LanguageSource} :
    ¬ s.Clashes ↔ (s.names.map Compiled.fileName).Nodup := by
  rw [List.Nodup, List.pairwise_map, names, List.pairwise_filterMap, List.pairwise_iff_getElem]
  constructor
  · intro apart i j before behind ordered first named second called same
    exact apart ⟨i, j, _, _, first, second, ordered, List.getElem?_eq_getElem before,
      List.getElem?_eq_getElem behind, named, called, Compiled.fileName_eq_iff.mp same⟩
  · rintro distinct ⟨i, j, r, q, first, second, ordered, here, there, named, called, same⟩
    obtain ⟨before, rfl⟩ := List.getElem?_eq_some_iff.mp here
    obtain ⟨behind, rfl⟩ := List.getElem?_eq_some_iff.mp there
    exact distinct i j before behind ordered first named second called
      (Compiled.fileName_eq_iff.mpr same)

namespace Catalog
open FileStore Result

variable {s t : FileStore} {dir : String} {records : List LanguageRecord}

theorem clashAfter?_eq_some {seen : List (String × String)} {names : List String}
    {first second file : String} (known : ∀ entry ∈ seen, Compiled.fileName entry.2 = entry.1)
    (clash : clashAfter? seen names = some (first, second, file)) :
    Compiled.fileName first = file ∧ Compiled.fileName second = file := by
  induction names generalizing seen with
  | nil => cases clash
  | cons name rest ih =>
    simp only [clashAfter?] at clash
    split at clash
    · rename_i owner before
      obtain ⟨rfl, rfl, rfl⟩ : owner = first ∧ name = second ∧ Compiled.fileName name = file := by
        simpa using clash
      exact ⟨known (Compiled.fileName name, owner) (Entries.mem_of_lookup before), rfl⟩
    · refine ih ?_ clash
      exact List.forall_mem_cons.mpr ⟨rfl, known⟩

/-- A record has been compiled: the file under its path holds the text of its definition. -/
def CompiledTo (t : FileStore) (dir : String) (r : LanguageRecord) (path : String) : Prop :=
  ∃ declared, r.declaration = .ok declared ∧
    path = Path.join dir (Compiled.fileName declared.name) ∧
      t.find path = .ok (.file (compiledBytes (.build declared)))

/-- The languages of different files have different places. -/
theorem fileName_of_destination {a b : String}
    (same : destination (Path.join dir (Compiled.fileName a)) =
      destination (Path.join dir (Compiled.fileName b))) :
    Compiled.fileName a = Compiled.fileName b := by
  rw [destination_join (Compiled.plain_fileName a), destination_join (Compiled.plain_fileName b)]
    at same
  exact List.singleton_inj.mp (List.append_cancel_left same)

/-- What stands at the place of no record that is compiled is found as before. -/
theorem Fills.find_apart {path : String} {contents : List UInt8} (fills : Fills s t dir records)
    (apart : ∀ r ∈ records, ∀ declared, r.declaration = .ok declared →
      destination path ≠ destination (Path.join dir (Compiled.fileName declared.name)))
    (found : s.find path = .ok (.file contents)) : t.find path = .ok (.file contents) := by
  obtain ⟨place, located, here, named⟩ := find_file_iff.mp found
  have further := locate_mono (fun p => (fills.directory_iff p).mpr) located
  refine find_file_iff.mpr ⟨place, further, ?_, named⟩
  rcases fills place with same | ⟨r, member, declared, declares, filled⟩
  · rw [same, here]
  · have meets := (destination_of_locate located).trans (destination_of_locate filled.located).symm
    exact absurd meets (apart r member declared declares)

theorem saveCompiled_eq_ok {d : Definition} {place : Place}
    (admits : Admits s (Path.join dir (Compiled.fileName d.name)) place) :
    ∃ t, saveCompiled s dir d = (.ok (Path.join dir (Compiled.fileName d.name)), t) := by
  have written : s.writeText (Path.join dir (Compiled.fileName d.name)) (Compiled.render d) =
      .ok (s.put place (.file (compiledBytes d))) := write_eq_ok_iff.mpr ⟨place, admits, rfl⟩
  unfold saveCompiled
  simp only [written]
  exact ⟨_, rfl⟩

/-- Records of different files are compiled one after the other, and no file is written twice. -/
theorem compileRecords_complete
    (valid : ∀ r ∈ records, ∃ declared place, r.declaration = .ok declared ∧
      Admits s (Path.join dir (Compiled.fileName declared.name)) place)
    (distinct : ((records.filterMap (·.name)).map Compiled.fileName).Nodup) :
    ∃ paths t, compileRecords s dir records = (.ok paths, t) ∧
      List.Forall₂ (CompiledTo t dir) records paths := by
  induction records generalizing s with
  | nil => exact ⟨[], s, rfl, .nil⟩
  | cons r rest ih =>
    obtain ⟨⟨declared, place, declares, admits⟩, others⟩ := List.forall_mem_cons.mp valid
    have named := LanguageRecord.name_of_declaration declares
    rw [List.filterMap_cons_some named, List.map_cons, List.nodup_cons] at distinct
    obtain ⟨after, saved⟩ := saveCompiled_eq_ok (d := .build declared) admits
    obtain ⟨_, writes⟩ := saveCompiled_writes saved
    have still : ∀ q ∈ rest, ∃ declared place, q.declaration = .ok declared ∧
        Admits after (Path.join dir (Compiled.fileName declared.name)) place := by
      intro q member
      obtain ⟨other, spot, valid, room⟩ := others q member
      exact ⟨other, spot, valid, writes.admits room⟩
    obtain ⟨paths, t, compiled, each⟩ := ih still distinct.2
    refine ⟨_ :: paths, t, ?_, .cons ⟨declared, declares, rfl, ?_⟩ each⟩
    · simp only [compileRecords, declares, saved, compiled]
      rfl
    · refine (compileRecords_fills compiled).find_apart ?_ writes.find
      intro q member other valid same
      have listed := List.mem_filterMap.mpr ⟨q, member, LanguageRecord.name_of_declaration valid⟩
      refine distinct.1 (List.mem_map.mpr ⟨other.name, listed, ?_⟩)
      exact (fileName_of_destination same).symm

theorem paths_of_compiledTo {paths : List String}
    (each : List.Forall₂ (CompiledTo t dir) records paths) :
    paths = ((records.filterMap (·.name)).map Compiled.fileName).map (Path.join dir) := by
  induction each with
  | nil => rfl
  | cons compiled _ ih =>
    obtain ⟨declared, declares, rfl, _⟩ := compiled
    rw [List.filterMap_cons_some (LanguageRecord.name_of_declaration declares), List.map_cons,
      List.map_cons, ← ih]

/-- Compiling records fails on a record or on a file. -/
theorem compileRecords_error {error : LanguageError}
    (fails : (compileRecords s dir records).1 = .error error) :
    error.InRecord ∨ ∃ path fault, error = .unusableFile path fault := by
  induction records generalizing s with
  | nil => cases fails
  | cons r rest ih =>
    rw [compileRecords] at fails
    split at fails
    · rename_i cause declares
      cases fails
      exact .inl (r.error_of_declaration error declares)
    · split at fails
      · rename_i cause after saved
        cases fails
        unfold saveCompiled at saved
        dsimp only at saved
        split at saved
        · cases saved
        · cases saved
          exact .inr ⟨_, _, rfl⟩
      · rename_i path after saved
        cases outcome : (compileRecords after dir rest).1 with
        | ok paths =>
          simp only [outcome] at fails
          cases fails
        | error cause =>
          simp only [outcome] at fails
          cases fails
          exact ih outcome

/-- The directory can be made, and in it a file can be written for each language. -/
structure Writable (c : Catalog) (files : FileStore) (dir : String) : Prop where
  made : (files.createDirectories dir).2 = none
  written : ∀ r ∈ c.source.records, ∀ declared, r.declaration = .ok declared →
    ∃ t, (files.createDirectories dir).1.writeText
      (Path.join dir (Compiled.fileName declared.name)) (Compiled.render (.build declared)) = .ok t

theorem compileAll_clash {c : Catalog} {files : FileStore} (clashes : c.source.Clashes) :
    ∃ first second, LanguageSource.sameName first second = true ∧ c.compileAll files dir =
      (.error (.fileClash first second (Path.join dir (Compiled.fileName first))), files) := by
  unfold compileAll
  split
  · rename_i first second file clash
    obtain ⟨rfl, same⟩ := clashAfter?_eq_some (by simp) clash
    exact ⟨first, second, Compiled.fileName_eq_iff.mp same.symm, rfl⟩
  · rename_i distinct
    have apart := LanguageSource.not_clashes_iff.mpr (clashAfter?_eq_none_iff.mp distinct).1
    exact absurd clashes apart

theorem compileAll_apart {c : Catalog} {files : FileStore} (apart : ¬ c.source.Clashes) :
    c.compileAll files dir = match files.createDirectories dir with
      | (files, some fault) => (.error (.unusableFile dir fault), files)
      | (files, none) => compileRecords files dir c.source.records := by
  have distinct : clashAfter? [] c.source.names = none :=
    clashAfter?_eq_none_iff.mpr ⟨LanguageSource.not_clashes_iff.mp apart, fun _ _ => rfl⟩
  unfold compileAll
  generalize files.createDirectories dir = outcome
  obtain ⟨made, fault⟩ := outcome
  cases fault <;> simp only [distinct]

/-- Without a clash compiling may fail on a record or on a file only. -/
theorem compileAll_error {c : Catalog} {files : FileStore} (apart : ¬ c.source.Clashes)
    {error : LanguageError} (fails : (c.compileAll files dir).1 = .error error) :
    error.InRecord ∨ ∃ path fault, error = .unusableFile path fault := by
  rw [compileAll_apart apart] at fails
  split at fails
  · cases fails
    exact .inr ⟨_, _, rfl⟩
  · exact compileRecords_error fails

theorem compileAll_complete {c : Catalog} {files : FileStore} (apart : ¬ c.source.Clashes)
    (valid : ∀ r ∈ c.source.records, r.declaration.isOk = true) (writable : Writable c files dir) :
    ∃ paths t, c.compileAll files dir = (.ok paths, t) ∧ paths.Nodup ∧
      List.Forall₂ (CompiledTo t dir) c.source.records paths := by
  have distinct := LanguageSource.not_clashes_iff.mp apart
  have admitted : ∀ r ∈ c.source.records, ∃ declared place, r.declaration = .ok declared ∧
      Admits (files.createDirectories dir).1 (Path.join dir (Compiled.fileName declared.name))
        place := by
    intro r member
    obtain ⟨declared, declares⟩ := eq_ok_of_isOk (valid r member)
    obtain ⟨t, written⟩ := writable.written r member declared declares
    obtain ⟨place, admits, _⟩ := write_eq_ok_iff.mp written
    exact ⟨declared, place, declares, admits⟩
  obtain ⟨paths, t, compiled, each⟩ := compileRecords_complete admitted distinct
  refine ⟨paths, t, ?_, ?_, each⟩
  · rw [compileAll_apart apart, ← compiled, ← Prod.mk.eta (p := files.createDirectories dir),
      writable.made]
  · rw [paths_of_compiledTo each]
    refine distinct.map_on fun a listed b also same => ?_
    obtain ⟨first, _, rfl⟩ := List.mem_map.mp listed
    obtain ⟨second, _, rfl⟩ := List.mem_map.mp also
    exact fileName_of_destination (congrArg destination same)

/-- No language is compiled over another one. Compiling is refused exactly when two names differ in
the case of letters at most, before anything is written. Otherwise, if every record declares a
language and files can be written, each record has a path of its own, whose file holds the text of
the definition that is built from this record. -/
theorem compiling_overwrites_no_language (c : Catalog) (files : FileStore) (dir : String) :
    ((∃ first second path, (c.compileAll files dir).1 = .error (.fileClash first second path)) ↔
      c.source.Clashes) ∧
    (c.source.Clashes → ∃ first second, LanguageSource.sameName first second = true ∧
      c.compileAll files dir =
        (.error (.fileClash first second (Path.join dir (Compiled.fileName first))), files)) ∧
    (¬ c.source.Clashes → (∀ r ∈ c.source.records, r.declaration.isOk = true) →
      Writable c files dir → ∃ paths t, c.compileAll files dir = (.ok paths, t) ∧ paths.Nodup ∧
        List.Forall₂ (CompiledTo t dir) c.source.records paths) := by
  refine ⟨⟨?_, ?_⟩, compileAll_clash, compileAll_complete⟩
  · rintro ⟨first, second, path, refused⟩
    by_contra apart
    rcases compileAll_error apart refused with (⟨_, other⟩ | ⟨_, _, other⟩) | ⟨_, _, other⟩ <;>
      cases other
  · intro clashes
    obtain ⟨first, second, _, refused⟩ := compileAll_clash clashes
    exact ⟨first, second, _, congrArg Prod.fst refused⟩

/-- Names that differ in punctuation, and a letter that has no lower case among the ASCII letters.
-/
def punctuated : Catalog := start ∅ { source := .inline ("\n".intercalate
  ["[[language]]", "name = \"Obj-C\"", "line_comment = \"#\"", "[[language]]", "name = \"obj c\"",
    "[[language]]", "name = \"É\"", "[[language]]", "name = \"é\""]) }

theorem punctuated_names_stay_apart : ¬ punctuated.source.Clashes ∧
    (∀ r ∈ punctuated.source.records, r.declaration.isOk = true) ∧ Writable punctuated ∅ "out" ∧
      ∃ paths t, punctuated.compileAll ∅ "out" = (.ok paths, t) ∧ paths.length = 4 ∧ paths.Nodup ∧
        List.Forall₂ (CompiledTo t "out") punctuated.source.records paths := by
  have facts : punctuated.source.records.length = 4 ∧
      (punctuated.source.names.map Compiled.fileName).Nodup ∧
      punctuated.source.records.all (·.declaration.isOk) = true ∧
      punctuated.source.records.all (fun r => r.declaration.toOption.all fun declared =>
        (((∅ : FileStore).createDirectories "out").1.writeText
          (Path.join "out" (Compiled.fileName declared.name))
          (Compiled.render (.build declared))).isOk) = true := by decide +kernel
  obtain ⟨four, distinct, valid, room⟩ := facts
  have apart := LanguageSource.not_clashes_iff.mpr distinct
  have sound := List.all_eq_true.mp valid
  have made : ((∅ : FileStore).createDirectories "out").2 = none := by decide +kernel
  have writable : Writable punctuated ∅ "out" := by
    refine ⟨made, fun r member declared declares => ?_⟩
    have written := List.all_eq_true.mp room r member
    simp only [declares, Except.toOption, Option.all_some] at written
    exact eq_ok_of_isOk written
  obtain ⟨paths, t, compiled, own, each⟩ :=
    (compiling_overwrites_no_language punctuated ∅ "out").2.2 apart sound writable
  have count : paths.length = 4 := by rw [← each.length_eq, four]
  exact ⟨apart, sound, writable, paths, t, compiled, count, own, each⟩

end Catalog
end Highlighter
