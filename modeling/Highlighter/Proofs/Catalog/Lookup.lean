import Highlighter.Catalog.Basic
import Highlighter.Proofs.Language.Definition

/-! Look-ups by name, by extension and by path. A catalog keeps what it has found, and what it keeps
for a name is what it would find again; so look-ups that came before change no answer. -/
namespace Highlighter

/-- What a catalog is asked for. -/
inductive Lookup where
  | name (text : String)
  | extension (text : String)
  | path (text : String)

namespace Catalog
variable {first c : Catalog} {files : FileStore}

/-- The answer to a look-up, and the catalog after it. -/
def look (c : Catalog) (files : FileStore) : Lookup → Shared × Catalog
  | .name text => c.byName files text
  | .extension text => c.resolve files text
  | .path text => c.resolvePath files text

/-- The catalog after several look-ups. -/
def lookAll (c : Catalog) (files : FileStore) : List Lookup → Catalog
  | [] => c
  | lookup :: rest => (c.look files lookup).2.lookAll files rest

/-- The name of the language that a look-up is about, if its extension belongs to one. -/
def asked? (c : Catalog) : Lookup → Option String
  | .name text => some text
  | .extension text => c.extensions.get? (Extension.normalize text)
  | .path text => (Path.extension? text).bind fun extension =>
      c.extensions.get? (Extension.normalize extension)

/-- The definition that is found for a name. -/
def answer (c : Catalog) (files : FileStore) (name : String) : Definition :=
  ((c.find files name).definition?).getD .plainText

theorem look_eq (c : Catalog) (files : FileStore) (lookup : Lookup) :
    c.look files lookup = match c.asked? lookup with
      | some name => c.byName files name
      | none => (plain, c) := by
  cases lookup with
  | name text => rfl
  | extension text => rfl
  | path text =>
    simp only [look, resolvePath, asked?]
    cases Path.extension? text with
    | none => rfl
    | some extension => rfl

/-- A catalog that was `first` at the start and has been asked since. -/
structure Settled (first c : Catalog) (files : FileStore) : Prop where
  settings : c.settings = first.settings
  source : c.source = first.source
  extensions : c.extensions = first.extensions
  found : ∀ name shared, c.found.lookup name = some shared →
    shared.definition = first.answer files name

theorem Settled.refl (fresh : first.found = []) : Settled first first files where
  settings := rfl
  source := rfl
  extensions := rfl
  found := by simp [fresh]

theorem Settled.answer (settled : Settled first c files) (name : String) :
    c.answer files name = first.answer files name := by
  simp only [Catalog.answer, find, compiledPath?, fullName, build, settled.settings, settled.source]

/-- What is found for a name and kept settles the catalog further. -/
theorem Settled.keep (settled : Settled first c files) {name : String} {shared : Shared}
    (number : Nat) (answers : shared.definition = first.answer files name) :
    Settled first { c with found := c.found ++ [(name, shared)], nextNumber := number } files where
  settings := settled.settings
  source := settled.source
  extensions := settled.extensions
  found := by
    intro asked given kept
    rw [List.lookup_append, Option.or_eq_some_iff] at kept
    rcases kept with before | ⟨_, now⟩
    · exact settled.found asked given before
    · by_cases same : asked = name
      · subst same
        rw [List.lookup_cons_self] at now
        cases now
        exact answers
      · rw [List.lookup_cons, beq_false_of_ne same] at now
        cases now

theorem byName_settled (settled : Settled first c files) (name : String) :
    (c.byName files name).1.definition = first.answer files name ∧
      Settled first (c.byName files name).2 files := by
  have finds := settled.answer name
  unfold byName
  split
  · rename_i shared kept
    exact ⟨settled.found name shared kept, settled⟩
  · split
    · rename_i d found
      rw [Catalog.answer, found] at finds
      exact ⟨finds, settled.keep _ finds⟩
    · rename_i missing
      rw [Catalog.answer, missing] at finds
      exact ⟨finds, settled.keep _ finds⟩

theorem look_settled (settled : Settled first c files) (lookup : Lookup) :
    (c.look files lookup).1.definition =
        ((first.asked? lookup).map (first.answer files)).getD .plainText ∧
      Settled first (c.look files lookup).2 files := by
  have asked : c.asked? lookup = first.asked? lookup := by
    cases lookup <;> simp only [asked?, settled.extensions]
  rw [look_eq, asked]
  cases first.asked? lookup with
  | none => exact ⟨rfl, settled⟩
  | some name => exact byName_settled settled name

theorem lookAll_settled (settled : Settled first c files) (lookups : List Lookup) :
    Settled first (c.lookAll files lookups) files := by
  induction lookups generalizing c with
  | nil => exact settled
  | cons lookup rest ih => exact ih (look_settled settled lookup).2

/-- A look-up has the same answer after any other ones. -/
theorem look_lookAll (fresh : c.found = []) (earlier : List Lookup) (lookup : Lookup) :
    ((c.lookAll files earlier).look files lookup).1.definition =
      ((c.asked? lookup).map (c.answer files)).getD .plainText :=
  (look_settled (lookAll_settled (.refl fresh) earlier) lookup).1

/-- Catalogs with one extension map that answer alike for names answer alike for all look-ups. -/
theorem look_same {d : Catalog} (fresh : c.found = []) (unasked : d.found = [])
    (extensions : d.extensions = c.extensions)
    (same : ∀ name, (c.answer files name).Same (d.answer files name)) (before earlier : List Lookup)
    (lookup : Lookup) : ((c.lookAll files before).look files lookup).1.definition.Same
      ((d.lookAll files earlier).look files lookup).1.definition := by
  have asked : d.asked? lookup = c.asked? lookup := by
    cases lookup <;> simp only [asked?, extensions]
  rw [look_lookAll fresh, look_lookAll unasked, asked]
  cases c.asked? lookup with
  | none =>
    rw [Option.map_none, Option.map_none]
    exact .refl _
  | some name => exact same name

end Catalog
end Highlighter
