import Highlighter.Proofs.Files.Path

/-! Making directories. Each one that is made stands in a directory where nothing was, so files are
as before, and made again they are there already. What a path leads to through a new directory, it
has to go up from there to reach: whatever was there before stands in directories that were there
before. -/
namespace Highlighter.FileStore
open Result

variable {s t u : FileStore} {place other : Place} {path : String} {contents : List UInt8}

/-- A store with directories where another one has nothing, and otherwise the same. -/
def Grows (s t : FileStore) : Prop := ∀ place, t.nodeAt? place = s.nodeAt? place ∨
  s.nodeAt? place = none ∧ t.nodeAt? place = some .directory

namespace Grows

theorem refl (s : FileStore) : Grows s s := fun _ => .inl rfl

theorem keeps (grows : Grows s t) : Keeps s t := by
  intro place node here
  rcases grows place with same | ⟨free, _⟩
  · rw [same, here]
  · rw [free] at here
    cases here

theorem trans (first : Grows s t) (second : Grows t u) : Grows s u := by
  intro place
  rcases second place with same | ⟨free, made⟩
  · rw [same]
    exact first place
  · rcases first place with same | ⟨_, there⟩
    · rw [same] at free
      exact .inr ⟨free, made⟩
    · rw [free] at there
      cases there

theorem put (free : s.nodeAt? place = none) : Grows s (s.put place .directory) := by
  intro other
  by_cases same : other = place
  · subst same
    exact .inr ⟨free, nodeAt?_put_free free⟩
  · exact .inl (nodeAt?_put_of_ne same)

theorem file_iff (grows : Grows s t) :
    t.nodeAt? place = some (.file contents) ↔ s.nodeAt? place = some (.file contents) := by
  rcases grows place with same | ⟨free, made⟩
  · rw [same]
  · simp [free, made]

end Grows

section Making
variable {name : String} {names rest : List String} {next : Place}

theorem makeDirectories_step (walked : s.walk place [name] = .ok next)
    (here : s.nodeAt? next = some .directory) :
    s.makeDirectories place (name :: rest) = s.makeDirectories next rest := by
  rw [makeDirectories, walked]
  simp only [here]

theorem grows_makeDirectories (s : FileStore) (place : Place) (names : List String) :
    Grows s (s.makeDirectories place names).1 := by
  fun_induction makeDirectories s place names with
  | case1 | case2 | case3 => exact .refl _
  | case4 _ _ _ _ _ _ _ ih => exact ih
  | case5 _ _ _ _ _ _ free ih => exact (Grows.put free).trans ih

/-- Where no directory has to be made, none has to be made with more directories. -/
theorem makeDirectories_kept
    (kept : ∀ p, s.nodeAt? p = some .directory → t.nodeAt? p = some .directory)
    (done : s.makeDirectories place names = (s, none)) :
    t.makeDirectories place names = (t, none) := by
  induction names generalizing place with
  | nil => rfl
  | cons name rest ih =>
    rw [makeDirectories] at done
    split at done
    · cases done
    · rename_i next walked
      split at done
      · cases done
      · rename_i here
        rw [makeDirectories_step (walk_mono kept walked) (kept next here)]
        exact ih done
      · rename_i free
        -- A directory that was made would be there in the store that nothing was made in.
        have there := (grows_makeDirectories (s.put next .directory) next rest).keeps next .directory
          (nodeAt?_put_free free)
        rw [done, free] at there
        cases there

end Making

section Paths

/-- All that is made for a path is made along some names. -/
theorem createDirectories_made (s : FileStore) (path : String) : ∃ names,
    (s.createDirectories path).1 = (s.makeDirectories (origin path) names).1 := by
  unfold createDirectories
  split
  · exact ⟨[], rfl⟩
  · split
    · refine ⟨(Path.names path).dropLast, ?_⟩
      generalize s.makeDirectories (origin path) (Path.names path).dropLast = outcome
      obtain ⟨made, fault⟩ := outcome
      cases fault with
      | some fault => rfl
      | none =>
        dsimp only
        split <;> rfl
    · exact ⟨Path.names path, rfl⟩

theorem grows_createDirectories (s : FileStore) (path : String) :
    Grows s (s.createDirectories path).1 := by
  obtain ⟨names, made⟩ := createDirectories_made s path
  rw [made]
  exact grows_makeDirectories s (origin path) names

/-- What a path leads to is there still after a file has been written. -/
theorem Writes.finds {known : String} {node : FileNode} (writes : Writes s known contents t place)
    (found : s.find path = .ok node) : ∃ after, t.find path = .ok after := by
  obtain ⟨there, located, here, fits⟩ := find_eq_ok_iff.mp found
  have further := locate_mono (fun p => (writes.directory_iff p).mpr) located
  by_cases same : there = place
  · subst same
    have named := fits.resolve_left fun directory => writes.free (directory ▸ here)
    exact ⟨_, find_eq_ok_iff.mpr ⟨there, further, writes.here, .inr named⟩⟩
  · have still := (writes.elsewhere there same).trans here
    exact ⟨node, find_eq_ok_iff.mpr ⟨there, further, still, fits⟩⟩

/-- No directory has to be made for a path after a file has been written. -/
theorem Writes.createDirectories {known : String} (writes : Writes s known contents t place)
    (done : s.createDirectories path = (s, none)) : t.createDirectories path = (t, none) := by
  have kept := fun p => (writes.directory_iff p).mpr
  unfold FileStore.createDirectories at done ⊢
  split at done
  · cases done
  · split at done
    · rename_i inside
      rw [if_pos inside]
      split at done
      · cases done
      · rename_i made walked
        split at done
        · rename_i found
          cases done
          obtain ⟨after, still⟩ := writes.finds found
          simp only [makeDirectories_kept kept walked, still]
        · cases done
    · rename_i outside
      rw [if_neg outside]
      exact makeDirectories_kept kept done

end Paths

section Roots

/-- Whatever is there stands in a directory. -/
def Rooted (s : FileStore) : Prop := ∀ place node, s.nodeAt? place = some node →
  s.nodeAt? (above place) = some .directory

theorem Rooted.put {node : FileNode} (rooted : Rooted s) (free : s.nodeAt? place ≠ some .directory)
    (inside : s.nodeAt? (above place) = some .directory) : Rooted (s.put place node) := by
  have aside {p : Place} (directory : s.nodeAt? p = some .directory) :
      (s.put place node).nodeAt? p = some .directory := by
    have different : p ≠ place := by
      rintro rfl
      exact free directory
    rw [nodeAt?_put_of_ne different, directory]
  intro other found here
  by_cases same : other = place
  · subst same
    exact aside inside
  · rw [nodeAt?_put_of_ne same] at here
    exact aside (rooted other found here)

theorem Rooted.write (rooted : Rooted s) (written : s.write path contents = .ok t) : Rooted t := by
  obtain ⟨place, admits, rfl⟩ := write_eq_ok_iff.mp written
  refine rooted.put admits.free ?_
  cases here : s.nodeAt? place with
  | none => exact admits.inside here
  | some node => exact rooted place node here

theorem above_name {name : String} (inward : name ≠ "..") (outside : place ++ [name] ≠ ["/"]) :
    above (place ++ [name]) = place := by
  unfold above
  rw [if_neg outside, List.getLast?_concat]
  split
  · contradiction
  · rename_i up
    exact absurd (Option.some.inj up) inward
  · exact List.dropLast_concat

/-- A place with something under a name is a directory. -/
theorem Rooted.directory {name : String} {node : FileNode} (rooted : Rooted s) (inward : name ≠ "..")
    (here : s.nodeAt? (place ++ [name]) = some node) : s.nodeAt? place = some .directory := by
  by_cases root : place ++ [name] = ["/"]
  · obtain ⟨rfl, _⟩ := List.append_eq_singleton_iff.mp root |>.resolve_right (by simp)
    rfl
  · have inside := rooted _ node here
    rwa [above_name inward root] at inside

theorem rooted_makeDirectories (rooted : Rooted s) (place : Place) (names : List String) :
    Rooted (s.makeDirectories place names).1 := by
  fun_induction makeDirectories s place names with
  | case1 | case2 | case3 => exact rooted
  | case4 _ _ _ _ _ _ _ ih => exact ih rooted
  | case5 s place name rest next walked free ih =>
    obtain ⟨directory, _, ended⟩ := walk_cons_eq_ok.mp walked
    have step : follow place name = next := Except.ok.inj ended
    refine ih (rooted.put (by simp [free]) ?_)
    subst step
    unfold follow at free ⊢
    split at free
    · rw [rooted place .directory directory] at free
      cases free
    · rename_i inward
      rw [if_neg inward, above_name inward, directory]
      intro root
      rw [root] at free
      cases free

theorem Rooted.createDirectories (rooted : Rooted s) (path : String) :
    Rooted (s.createDirectories path).1 := by
  obtain ⟨names, made⟩ := createDirectories_made s path
  rw [made]
  exact rooted_makeDirectories rooted (origin path) names

end Roots

section Reading

/-- The path goes up by two dots from the place that the names before them spell. -/
def GoesUpFrom (path : String) (place : Place) : Prop := ∃ before after,
  Path.names path = before ++ ".." :: after ∧ before.foldl follow (origin path) = place

theorem goesUpFrom_join {dir name : String} (plain : Path.Plain name)
    (up : GoesUpFrom (Path.join dir name) place) : GoesUpFrom dir place := by
  obtain ⟨before, after, whole, rfl⟩ := up
  rw [Path.names_join plain] at whole
  rw [origin_join plain]
  cases after using List.reverseRecOn with
  | nil =>
    have last := List.append_inj_right' whole rfl
    exact absurd (List.singleton_inj.mp last) plain.inward
  | append_singleton front last =>
    have names : Path.names dir = before ++ ".." :: front := by
      rw [← List.cons_append, ← List.append_assoc] at whole
      exact List.append_inj_left' whole rfl
    exact ⟨before, front, names, rfl⟩

/-- A walk to a thing that was there before has led through directories that were there before, if
they were there before in all places that it has gone up from. -/
theorem Rooted.walk_back (rooted : Rooted s) {names : List String} {node : FileNode}
    (known : ∀ before after, names = before ++ ".." :: after →
      t.nodeAt? (before.foldl follow place) = s.nodeAt? (before.foldl follow place))
    (walked : t.walk place names = .ok other) (there : s.nodeAt? other = some node) :
    s.walk place names = .ok other ∧ (s.nodeAt? place).isSome = true := by
  induction names generalizing place with
  | nil =>
    cases walked
    exact ⟨rfl, there ▸ rfl⟩
  | cons name rest ih =>
    obtain ⟨directory, short, further⟩ := walk_cons_eq_ok.mp walked
    obtain ⟨back, found⟩ := ih (fun before after whole =>
      known (name :: before) after (congrArg (name :: ·) whole)) further
    have here : s.nodeAt? place = some .directory := by
      by_cases up : name = ".."
      · have same := known [] rest (congrArg (· :: rest) up)
        rw [List.foldl_nil] at same
        rw [← same, directory]
      · obtain ⟨below, there⟩ := Option.isSome_iff_exists.mp found
        rw [follow, if_neg up] at there
        exact rooted.directory up there
    exact ⟨walk_cons_eq_ok.mpr ⟨here, short, back⟩, here ▸ rfl⟩

/-- A file in a directory is found after directories have been made if it was found before, unless
one has been made that the path of the directory goes up from. -/
theorem Grows.find_file_iff (grows : Grows s t) (rooted : Rooted s) {dir name : String}
    (plain : Path.Plain name) (known : ∀ p, GoesUpFrom dir p → t.nodeAt? p = s.nodeAt? p) :
    t.find (Path.join dir name) = .ok (.file contents) ↔
      s.find (Path.join dir name) = .ok (.file contents) := by
  constructor
  · intro found
    obtain ⟨place, located, here, named⟩ := FileStore.find_file_iff.mp found
    obtain ⟨filled, sound, walked⟩ := locate_eq_ok_iff.mp located
    have back := rooted.walk_back (fun before after whole =>
      known _ (goesUpFrom_join plain ⟨before, after, whole, rfl⟩)) walked (grows.file_iff.mp here)
    exact FileStore.find_file_iff.mpr ⟨place, locate_eq_ok_iff.mpr ⟨filled, sound, back.1⟩,
      grows.file_iff.mp here, named⟩
  · exact grows.keeps.find_file

end Reading

end Highlighter.FileStore
