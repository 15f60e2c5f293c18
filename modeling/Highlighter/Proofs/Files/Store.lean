import Highlighter.Files.Store
import Highlighter.Proofs.Entries
import Highlighter.Proofs.Result
import Highlighter.Proofs.Text.Utf8

/-! Writing files. A file is written where no directory is, so paths lead to the same places as
before, what was written is read back, and all other places keep what they hold. -/
namespace Highlighter.FileStore
open Result

variable {s t : FileStore} {place other : Place} {node : FileNode} {path : String}

section Nodes

theorem lookup_map_self (nodes : List (Place × FileNode)) (present : (nodes.lookup place).isSome) :
    (nodes.map fun (p, n) => if p = place then (p, node) else (p, n)).lookup place = some node := by
  induction nodes with
  | nil => cases present
  | cons head rest ih =>
    obtain ⟨p, n⟩ := head
    by_cases here : p = place
    · subst here
      simp
    · have missed : (place == p) = false := beq_false_of_ne (Ne.symm here)
      simp only [List.map_cons, here, if_false, List.lookup_cons, missed] at present ⊢
      exact ih present

theorem lookup_map_of_ne (nodes : List (Place × FileNode)) (different : other ≠ place) :
    (nodes.map fun (p, n) => if p = place then (p, node) else (p, n)).lookup other =
      nodes.lookup other := by
  induction nodes with
  | nil => rfl
  | cons head rest ih =>
    obtain ⟨p, n⟩ := head
    by_cases here : p = place
    · subst here
      have missed : (other == p) = false := beq_false_of_ne different
      simp only [List.map_cons, if_true, List.lookup_cons, missed, ih]
    · simp only [List.map_cons, here, if_false, List.lookup_cons, ih]

theorem lookup_put_self (s : FileStore) (place : Place) (node : FileNode) :
    (s.put place node).nodes.lookup place = some node := by
  unfold put
  split
  · rename_i present
    exact lookup_map_self s.nodes present
  · rename_i absent
    have nothing : s.nodes.lookup place = none := Option.not_isSome_iff_eq_none.mp absent
    rw [List.lookup_append, nothing]
    simp

theorem nodeAt?_put_self (inner : isGiven place = false) :
    (s.put place node).nodeAt? place = some node := by
  rw [nodeAt?, inner, if_neg Bool.false_ne_true, lookup_put_self]

theorem nodeAt?_put_of_ne (different : other ≠ place) :
    (s.put place node).nodeAt? other = s.nodeAt? other := by
  have missed : (other == place) = false := beq_false_of_ne different
  simp only [nodeAt?, put]
  split
  · rfl
  · split
    · exact lookup_map_of_ne s.nodes different
    · rw [List.lookup_append, List.lookup_cons, missed]
      simp

theorem isGiven_of_not_directory (free : s.nodeAt? place ≠ some .directory) :
    isGiven place = false := by
  by_contra given
  rw [Bool.not_eq_false] at given
  exact free (by rw [nodeAt?, if_pos given])

/-- Where nothing is, something can be put. -/
theorem nodeAt?_put_free (free : s.nodeAt? place = none) :
    (s.put place node).nodeAt? place = some node := by
  apply nodeAt?_put_self
  apply isGiven_of_not_directory (s := s)
  intro there
  rw [free] at there
  cases there

end Nodes

section Paths

/-- A step of a walk begins in a directory. -/
theorem walk_cons_eq_ok {name : String} {rest : List String} :
    s.walk place (name :: rest) = .ok other ↔
      s.nodeAt? place = some .directory ∧ name.utf8ByteSize ≤ maxNameLength ∧
        s.walk (if name = ".." then above place else place ++ [name]) rest = .ok other := by
  rw [walk]
  cases s.nodeAt? place with
  | none => simp
  | some node =>
    cases node with
    | file contents => simp
    | directory =>
      by_cases long : name.utf8ByteSize > maxNameLength
      · simp only [if_pos long, reduceCtorEq, false_iff, not_and]
        intro _ short
        omega
      · simp only [if_neg long, true_and]
        exact ⟨fun walked => ⟨Nat.le_of_not_lt long, walked⟩, And.right⟩

/-- Where there are more directories, a walk leads to the same place. -/
theorem walk_mono (kept : ∀ p, s.nodeAt? p = some .directory → t.nodeAt? p = some .directory)
    {names : List String} (walked : s.walk place names = .ok other) :
    t.walk place names = .ok other := by
  induction names generalizing place with
  | nil => exact walked
  | cons name rest ih =>
    obtain ⟨directory, short, further⟩ := walk_cons_eq_ok.mp walked
    exact walk_cons_eq_ok.mpr ⟨kept place directory, short, ih further⟩

/-- A path leads somewhere when it is sound as a text and its names can be walked. -/
theorem locate_eq_ok_iff : s.locate path = .ok place ↔ path ≠ "" ∧ textFault? path = none ∧
    s.walk (origin path) (Path.names path) = .ok place := by
  unfold locate
  by_cases empty : path = ""
  · simp [empty]
  · rw [if_neg empty]
    cases textFault? path with
    | some fault => simp
    | none => simp [empty]

theorem locate_mono (kept : ∀ p, s.nodeAt? p = some .directory → t.nodeAt? p = some .directory)
    (located : s.locate path = .ok place) : t.locate path = .ok place := by
  obtain ⟨filled, sound, walked⟩ := locate_eq_ok_iff.mp located
  exact locate_eq_ok_iff.mpr ⟨filled, sound, walk_mono kept walked⟩

def follow (place : Place) (name : String) : Place :=
  if name = ".." then above place else place ++ [name]

/-- The place that a path spells, whatever directories there are. -/
def destination (path : String) : Place := (Path.names path).foldl follow (origin path)

theorem foldl_of_walk {names : List String} (walked : s.walk place names = .ok other) :
    names.foldl follow place = other := by
  induction names generalizing place with
  | nil => exact Except.ok.inj walked
  | cons name rest ih => exact ih (walk_cons_eq_ok.mp walked).2.2

/-- A path that leads somewhere leads to the place that it spells. -/
theorem destination_of_locate (located : s.locate path = .ok place) :
    destination path = place :=
  foldl_of_walk (locate_eq_ok_iff.mp located).2.2

/-- What a path leads to; to a file it does not lead when it can name a directory only. -/
theorem find_eq_ok_iff : s.find path = .ok node ↔ ∃ place, s.locate path = .ok place ∧
    s.nodeAt? place = some node ∧ (node = .directory ∨ Path.wantsDirectory path = false) := by
  unfold find
  rw [bind_eq_ok]
  refine exists_congr fun place => and_congr_right fun _ => ?_
  cases s.nodeAt? place with
  | none => simp [throw, throwThe, MonadExceptOf.throw]
  | some found =>
    cases found with
    | directory => cases node <;> simp [pure, Except.pure]
    | file contents =>
      cases Path.wantsDirectory path <;> cases node <;>
        simp [throw, throwThe, MonadExceptOf.throw, pure, Except.pure]

theorem find_file_iff {contents : List UInt8} : s.find path = .ok (.file contents) ↔
    ∃ place, s.locate path = .ok place ∧ s.nodeAt? place = some (.file contents) ∧
      Path.wantsDirectory path = false := by
  simp only [find_eq_ok_iff, reduceCtorEq, false_or]

theorem isFile_iff : s.isFile path = true ↔ ∃ contents, s.find path = .ok (.file contents) := by
  unfold isFile
  cases s.find path with
  | error fault => simp
  | ok node => cases node <;> simp

/-- A store of directories has no file under any path. -/
theorem isFile_eq_false (directories : ∀ entry ∈ s.nodes, entry.2 = .directory) (path : String) :
    s.isFile path = false := by
  by_contra file
  obtain ⟨contents, found⟩ := isFile_iff.mp (Bool.not_eq_false _ ▸ file)
  obtain ⟨place, _, here, _⟩ := find_file_iff.mp found
  unfold nodeAt? at here
  split at here
  · cases here
  · cases directories _ (Entries.mem_of_lookup here)

theorem readText_eq_ok {text : String} : s.readText path = .ok text ↔
    ∃ contents, s.find path = .ok (.file contents) ∧
      Text.Utf8.decode? contents = some text.toList := by
  unfold readText read
  simp only [bind_eq_ok]
  constructor
  · rintro ⟨bytes, ⟨node, found, taken⟩, decoded⟩
    cases node with
    | directory => cases taken
    | file contents =>
      cases taken
      refine ⟨_, found, ?_⟩
      split at decoded
      · rename_i cs spelled
        cases decoded
        rw [spelled, String.toList_ofList]
      · cases decoded
  · rintro ⟨contents, found, decoded⟩
    refine ⟨contents, ⟨_, found, rfl⟩, ?_⟩
    rw [decoded]
    simp [pure, Except.pure]

end Paths

/-- A file can be written under a path: it leads to a place that is no directory, and a new file
stands in a directory. -/
structure Admits (s : FileStore) (path : String) (place : Place) : Prop where
  located : s.locate path = .ok place
  named : Path.wantsDirectory path = false
  free : s.nodeAt? place ≠ some .directory
  inside : s.nodeAt? place = none → s.nodeAt? (above place) = some .directory

theorem write_eq_ok_iff {contents : List UInt8} : s.write path contents = .ok t ↔
    ∃ place, Admits s path place ∧ s.put place (.file contents) = t := by
  unfold write
  rw [bind_eq_ok]
  refine exists_congr fun place => ?_
  constructor
  · rintro ⟨located, put⟩
    cases here : s.nodeAt? place with
    | none =>
      simp only [here] at put
      split at put
      · cases put
      · rename_i named
        split at put
        · rename_i inside
          exact ⟨⟨located, by simpa using named, by simp [here], fun _ => inside⟩, Except.ok.inj put⟩
        · cases put
        · cases put
    | some node =>
      cases node with
      | directory =>
        simp only [here] at put
        cases put
      | file old =>
        simp only [here] at put
        split at put
        · cases put
        · rename_i named
          refine ⟨⟨located, by simpa using named, by simp [here], ?_⟩, Except.ok.inj put⟩
          intro free
          rw [here] at free
          cases free
  · rintro ⟨admits, rfl⟩
    refine ⟨admits.located, ?_⟩
    cases here : s.nodeAt? place with
    | none => simp only [admits.named, admits.inside here]; rfl
    | some node =>
      cases node with
      | directory => exact absurd here admits.free
      | file old => simp only [admits.named]; rfl

/-- What writing a file does: it stands at the place of its path, which is no directory, and all
other places are as before. -/
structure Writes (s : FileStore) (path : String) (contents : List UInt8) (t : FileStore)
    (place : Place) : Prop where
  located : s.locate path = .ok place
  named : Path.wantsDirectory path = false
  free : s.nodeAt? place ≠ some .directory
  here : t.nodeAt? place = some (.file contents)
  elsewhere : ∀ other, other ≠ place → t.nodeAt? other = s.nodeAt? other

theorem writes_of_write {contents : List UInt8} (written : s.write path contents = .ok t) :
    ∃ place, Writes s path contents t place := by
  obtain ⟨place, admits, rfl⟩ := write_eq_ok_iff.mp written
  have inner := isGiven_of_not_directory admits.free
  exact ⟨place, admits.located, admits.named, admits.free, nodeAt?_put_self inner,
    fun _ => nodeAt?_put_of_ne⟩

/-- Writing a file changes no directory. -/
theorem Writes.directory_iff {contents : List UInt8} (writes : Writes s path contents t place)
    (p : Place) : t.nodeAt? p = some .directory ↔ s.nodeAt? p = some .directory := by
  by_cases same : p = place
  · subst same
    simp [writes.here, writes.free]
  · rw [writes.elsewhere p same]

/-- Where a file could be written before, it can be written after another one. -/
theorem Writes.admits {contents : List UInt8} {known : String}
    (writes : Writes s path contents t place) (admits : Admits s known other) :
    Admits t known other where
  located := locate_mono (fun p => (writes.directory_iff p).mpr) admits.located
  named := admits.named
  free := mt (writes.directory_iff other).mp admits.free
  inside := by
    intro absent
    have different : other ≠ place := by
      rintro rfl
      rw [writes.here] at absent
      cases absent
    rw [writes.elsewhere other different] at absent
    exact (writes.directory_iff _).mpr (admits.inside absent)

/-- What was written is found. -/
theorem Writes.find {contents : List UInt8} (writes : Writes s path contents t place) :
    t.find path = .ok (.file contents) := by
  have located := locate_mono (fun p => (writes.directory_iff p).mpr) writes.located
  exact find_file_iff.mpr ⟨place, located, writes.here, writes.named⟩

/-- A file under a path that spells another place is found as before. -/
theorem Writes.find_other {contents before : List UInt8} {known : String}
    (writes : Writes s path contents t place) (apart : destination known ≠ destination path)
    (found : s.find known = .ok (.file before)) : t.find known = .ok (.file before) := by
  obtain ⟨there, located, here, named⟩ := find_file_iff.mp found
  have further := locate_mono (fun p => (writes.directory_iff p).mpr) located
  have different : there ≠ place := by
    rw [destination_of_locate located, destination_of_locate writes.located] at apart
    exact apart
  exact find_file_iff.mpr ⟨there, further, writes.elsewhere there different ▸ here, named⟩

/-- A store with all that another one has. -/
def Keeps (s t : FileStore) : Prop := ∀ place node, s.nodeAt? place = some node →
  t.nodeAt? place = some node

theorem Keeps.refl (s : FileStore) : Keeps s s := fun _ _ => id

theorem Keeps.trans {u : FileStore} (first : Keeps s t) (second : Keeps t u) : Keeps s u :=
  fun place node here => second place node (first place node here)

/-- What can be read in a store can be read where all of it is kept. -/
theorem Keeps.find_file (kept : Keeps s t) {contents : List UInt8}
    (found : s.find path = .ok (.file contents)) : t.find path = .ok (.file contents) := by
  obtain ⟨place, located, here, named⟩ := find_file_iff.mp found
  have further := locate_mono (fun p => kept p .directory) located
  exact find_file_iff.mpr ⟨place, further, kept place _ here, named⟩

end Highlighter.FileStore
