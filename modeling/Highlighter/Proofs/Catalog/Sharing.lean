import Highlighter.Proofs.Catalog.Fallback
import Highlighter.Proofs.Catalog.History
import Mathlib.Data.Finset.Card
import Mathlib.Data.Finset.Option

/-! What a catalog shares. It keeps one definition for each name that it is asked for, until it drops
all that it has found, and each definition that it finds has a number of its own. So two look-ups give
the same definition exactly when they ask for one name and nothing was dropped in between, apart from
the plain text, which all look-ups share that find nothing. -/
namespace Highlighter.Catalog

/-- A call of a catalog. The files are those at the time of the call. -/
inductive Call where
  | operate (files : FileStore) (operation : Operation)
  | plainText

def obey (c : Catalog) : Call → Catalog
  | .operate files operation => (c.perform files operation).1
  | .plainText => c

def obeyAll (c : Catalog) : List Call → Catalog
  | [] => c
  | call :: rest => (c.obey call).obeyAll rest

/-- The name that a call asks for. -/
def name? (c : Catalog) : Call → Option String
  | .operate _ (.look lookup) => c.asked? lookup
  | _ => none

/-- Whether a call drops what has been found. -/
def drops (c : Catalog) : Call → Bool
  | .operate _ .clear => true
  | .operate files .rebuild => (c.rebuild files).1.isOk
  | _ => false

/-- Whether no call drops what has been found. -/
def keeps (c : Catalog) : List Call → Bool
  | [] => true
  | call :: rest => !c.drops call && (c.obey call).keeps rest

/-- The names that have been asked for since a call last dropped what had been found, where `before`
have been asked for already. -/
def requested (c : Catalog) (before : Finset String) : List Call → Finset String
  | [] => before
  | call :: rest => (c.obey call).requested
      (if c.drops call then ∅ else (c.name? call).toFinset ∪ before) rest

variable {c : Catalog} {files : FileStore}

/-- What a look-up by name comes to: its answer, and the catalog that it leaves. -/
inductive Gives (c : Catalog) (files : FileStore) (name : String) : Shared × Catalog → Prop where
  | kept {shared : Shared} (kept : c.found.lookup name = some shared) :
      Gives c files name (shared, c)
  | found {d : Definition} (new : c.found.lookup name = none)
      (finds : (c.find files name).definition? = some d) :
      Gives c files name (⟨c.nextNumber, d⟩, { c with
        found := c.found ++ [(name, ⟨c.nextNumber, d⟩)], nextNumber := c.nextNumber + 1 })
  | missing (new : c.found.lookup name = none) (nothing : (c.find files name).definition? = none) :
      Gives c files name (plain, { c with found := c.found ++ [(name, plain)] })

theorem gives (c : Catalog) (files : FileStore) (name : String) :
    Gives c files name (c.byName files name) := by
  cases kept : c.found.lookup name with
  | some shared =>
    have same : c.byName files name = (shared, c) := by simp only [byName, kept]
    rw [same]
    exact .kept kept
  | none =>
    rw [byName_of_missing kept]
    cases finds : (c.find files name).definition? with
    | some d => exact .found kept finds
    | none => exact .missing kept finds

/-- What a call does: it drops what has been found, asks for a name, or changes nothing. -/
inductive Obeys (c : Catalog) (call : Call) : Catalog → Prop where
  | dropped {after : Catalog} (drops : c.drops call = true) (empty : after.found = [])
      (number : after.nextNumber = c.nextNumber) : Obeys c call after
  | named {files : FileStore} {name : String} (keeps : c.drops call = false)
      (asks : c.name? call = some name) : Obeys c call (c.byName files name).2
  | unnamed (keeps : c.drops call = false) (silent : c.name? call = none) : Obeys c call c

theorem obeys (c : Catalog) (call : Call) : Obeys c call (c.obey call) := by
  cases call with
  | plainText => exact .unnamed rfl rfl
  | operate files operation =>
    cases operation with
    | clear => exact .dropped rfl rfl rfl
    | look lookup =>
      rw [obey, perform, look_eq]
      cases asks : c.asked? lookup with
      | some name => exact .named rfl asks
      | none => exact .unnamed rfl asks
    | rebuild =>
      rw [obey, perform]
      generalize comes : c.rebuild files = outcome
      obtain ⟨result, t⟩ := outcome
      cases result with
      | ok made =>
        have dropped : c.drops (.operate files .rebuild) = true := by
          rw [drops, comes]
          rfl
        cases rebuild_iff.mp comes with
        | unsaved => exact .dropped dropped rfl rfl
        | saved => exact .dropped dropped rfl rfl
      | error error =>
        refine .unnamed ?_ rfl
        rw [drops, comes]
        rfl

/-! The names of what is kept are those that were asked for. -/

/-- The names that there is a definition for. -/
def names (c : Catalog) : Finset String := (c.found.map Prod.fst).toFinset

theorem names_add (c : Catalog) (name : String) (shared : Shared) (next : Nat) :
    names { c with found := c.found ++ [(name, shared)], nextNumber := next } =
      insert name c.names := by
  ext other
  simp only [names, List.map_append, List.map_singleton, List.mem_toFinset, List.mem_append,
    List.mem_singleton, Finset.mem_insert]
  exact or_comm

theorem lookup_eq_none_iff {name : String} : c.found.lookup name = none ↔ name ∉ c.names := by
  rw [names, List.mem_toFinset, Entries.lookup_eq_none_iff]

theorem names_byName (c : Catalog) (files : FileStore) (name : String) :
    (c.byName files name).2.names = insert name c.names := by
  have known := gives c files name
  generalize c.byName files name = outcome at known ⊢
  cases known with
  | kept kept =>
    refine (Finset.insert_eq_of_mem (List.mem_toFinset.mpr ?_)).symm
    exact List.mem_map_of_mem (Entries.mem_of_lookup kept)
  | found => exact c.names_add name _ _
  | missing => exact c.names_add name _ _

theorem names_obey (c : Catalog) (call : Call) : (c.obey call).names =
    if c.drops call then ∅ else (c.name? call).toFinset ∪ c.names := by
  have known := obeys c call
  generalize c.obey call = after at known ⊢
  cases known with
  | dropped drops empty => simp [drops, names, empty]
  | named keeps asks =>
    rw [names_byName, keeps, asks]
    rfl
  | unnamed keeps silent => simp [keeps, silent]

theorem names_obeyAll (c : Catalog) (calls : List Call) :
    (c.obeyAll calls).names = c.requested c.names calls := by
  induction calls generalizing c with
  | nil => rfl
  | cons call rest ih => rw [obeyAll, requested, ih, names_obey]

/-! The numbers of what is kept. -/

/-- The numbers that a catalog gives and has given begin with a certain one. -/
structure Since (number : Nat) (c : Catalog) : Prop where
  next : number ≤ c.nextNumber
  later : ∀ entry ∈ c.found, entry.2 = plain ∨ number ≤ entry.2.number

/-- Each name has one definition, and each definition that was found a number of its own. -/
structure Numbered (c : Catalog) : Prop where
  since : Since 1 c
  below : ∀ entry ∈ c.found, entry.2.number < c.nextNumber
  distinct : (c.found.map Prod.fst).Nodup
  apart : c.found.Pairwise fun a b => a.2.number = b.2.number → a.2 = plain ∧ b.2 = plain

namespace Since
variable {number : Nat}

theorem add (since : Since number c) {name : String} {shared : Shared} {next : Nat}
    (further : c.nextNumber ≤ next) (given : shared = plain ∨ shared.number = c.nextNumber) :
    Since number { c with found := c.found ++ [(name, shared)], nextNumber := next } where
  next := since.next.trans further
  later := by
    intro entry member
    rcases List.mem_append.mp member with earlier | last
    · exact since.later entry earlier
    · rw [List.mem_singleton.mp last]
      exact given.imp_right fun same => since.next.trans_eq same.symm

theorem byName (since : Since number c) (files : FileStore) (name : String) :
    Since number (c.byName files name).2 := by
  have known := gives c files name
  generalize c.byName files name = outcome at known ⊢
  cases known with
  | kept => exact since
  | found => exact since.add (Nat.le_succ _) (.inr rfl)
  | missing => exact since.add (Nat.le_refl _) (.inl rfl)

theorem of_empty (next : number ≤ c.nextNumber) (empty : c.found = []) : Since number c where
  next := next
  later := by simp [empty]

theorem obey (since : Since number c) (call : Call) : Since number (c.obey call) := by
  have known := obeys c call
  generalize c.obey call = after at known ⊢
  cases known with
  | dropped drops empty same => exact .of_empty (since.next.trans_eq same.symm) empty
  | named => exact since.byName _ _
  | unnamed => exact since

theorem obeyAll (since : Since number c) (calls : List Call) :
    Since number (c.obeyAll calls) := by
  induction calls generalizing c with
  | nil => exact since
  | cons call rest ih => exact ih (since.obey call)

end Since

namespace Numbered

theorem add (numbered : Numbered c) {name : String} (new : c.found.lookup name = none)
    {shared : Shared} {next : Nat} (further : c.nextNumber ≤ next) (fits : shared.number < next)
    (given : shared = plain ∨ shared.number = c.nextNumber) :
    Numbered { c with found := c.found ++ [(name, shared)], nextNumber := next } where
  since := numbered.since.add further given
  below := by
    intro entry member
    rcases List.mem_append.mp member with earlier | last
    · exact (numbered.below entry earlier).trans_le further
    · rw [List.mem_singleton.mp last]
      exact fits
  distinct := Entries.nodup_append_new numbered.distinct (Entries.lookup_eq_none_iff.mp new)
  apart := by
    refine List.pairwise_append.mpr ⟨numbered.apart, List.pairwise_singleton _ _, ?_⟩
    intro entry earlier other last equal
    rw [List.mem_singleton.mp last] at equal ⊢
    have below := numbered.below entry earlier
    rcases given with same | number
    · refine ⟨(numbered.since.later entry earlier).resolve_right fun positive => ?_, same⟩
      rw [equal, same] at positive
      exact Nat.not_succ_le_zero 0 positive
    · exact absurd (equal.trans number) below.ne

theorem of_empty (next : 1 ≤ c.nextNumber) (empty : c.found = []) : Numbered c where
  since := .of_empty next empty
  below := by simp [empty]
  distinct := by simp [empty]
  apart := by simp [empty]

theorem byName (numbered : Numbered c) (files : FileStore) (name : String) :
    Numbered (c.byName files name).2 := by
  have known := gives c files name
  generalize c.byName files name = outcome at known ⊢
  cases known with
  | kept => exact numbered
  | found new => exact numbered.add new (Nat.le_succ _) (Nat.lt_succ_self _) (.inr rfl)
  | missing new => exact numbered.add new (Nat.le_refl _) numbered.since.next (.inl rfl)

theorem obey (numbered : Numbered c) (call : Call) : Numbered (c.obey call) := by
  have known := obeys c call
  generalize c.obey call = after at known ⊢
  cases known with
  | dropped drops empty same =>
    exact .of_empty (numbered.since.next.trans_eq same.symm) empty
  | named => exact numbered.byName _ _
  | unnamed => exact numbered

theorem obeyAll (numbered : Numbered c) (calls : List Call) : Numbered (c.obeyAll calls) := by
  induction calls generalizing c with
  | nil => exact numbered
  | cons call rest ih => exact ih (numbered.obey call)

theorem start (files : FileStore) (settings : Settings) : Numbered (start files settings) :=
  .of_empty (Nat.le_refl 1) rfl

theorem foundCount_eq (numbered : Numbered c) : c.foundCount = c.names.card := by
  rw [names, List.toFinset_card_of_nodup numbered.distinct, List.length_map, foundCount]

theorem plain_of_number (numbered : Numbered c) {entry : String × Shared}
    (member : entry ∈ c.found) (zero : entry.2.number = 0) : entry.2 = plain := by
  refine (numbered.since.later entry member).resolve_right fun positive => ?_
  rw [zero] at positive
  exact Nat.not_succ_le_zero 0 positive

/-- Definitions with one number are one definition, which only the plain text is under several
names. -/
theorem entries_of_number (numbered : Numbered c) {a b : String × Shared} (first : a ∈ c.found)
    (second : b ∈ c.found) (same : a.2.number = b.2.number) :
    a = b ∨ a.2 = plain ∧ b.2 = plain := by
  by_cases equal : a = b
  · exact .inl equal
  · have symmetric : Std.Symm fun a b : String × Shared =>
        a.2.number = b.2.number → a.2 = plain ∧ b.2 = plain :=
      ⟨fun _ _ known same => (known same.symm).symm⟩
    exact .inr (numbered.apart.forall first second equal same)

end Numbered

/-! What a later look-up gives. -/

theorem found_byName (c : Catalog) (files : FileStore) (name : String) :
    c.found <+: (c.byName files name).2.found ∧
      c.nextNumber ≤ (c.byName files name).2.nextNumber := by
  have known := gives c files name
  generalize c.byName files name = outcome at known ⊢
  cases known with
  | kept => exact ⟨List.prefix_refl _, Nat.le_refl _⟩
  | found => exact ⟨List.prefix_append _ _, Nat.le_succ _⟩
  | missing => exact ⟨List.prefix_append _ _, Nat.le_refl _⟩

/-- What is kept stays until it is dropped. -/
theorem found_prefix_obeyAll {calls : List Call} (kept : c.keeps calls = true) :
    c.found <+: (c.obeyAll calls).found := by
  induction calls generalizing c with
  | nil => exact List.prefix_refl _
  | cons call rest ih =>
    rw [keeps, Bool.and_eq_true, Bool.not_eq_true'] at kept
    refine List.IsPrefix.trans ?_ (ih kept.2)
    have known := obeys c call
    generalize c.obey call = after at known ⊢
    cases known with
    | dropped drops => cases kept.1.symm.trans drops
    | named => exact (found_byName c _ _).1
    | unnamed => exact List.prefix_refl _

/-- Once all was dropped, no number from before is left but that of the plain text. -/
theorem since_of_dropped {number : Nat} (next : number ≤ c.nextNumber) {calls : List Call}
    (dropped : c.keeps calls = false) : Since number (c.obeyAll calls) := by
  induction calls generalizing c with
  | nil => cases dropped
  | cons call rest ih =>
    rw [keeps, Bool.and_eq_false_iff, Bool.not_eq_false'] at dropped
    rw [obeyAll]
    have known := obeys c call
    generalize c.obey call = after at known dropped ⊢
    cases known with
    | dropped drops empty same =>
      exact (Since.of_empty (next.trans_eq same.symm) empty).obeyAll rest
    | named keeps =>
      have later := dropped.resolve_left fun drops => by cases keeps.symm.trans drops
      exact ih (next.trans (found_byName c _ _).2) later
    | unnamed keeps =>
      exact ih next (dropped.resolve_left fun drops => by cases keeps.symm.trans drops)

theorem lookup_byName (c : Catalog) (files : FileStore) (name : String) :
    (c.byName files name).2.found.lookup name = some (c.byName files name).1 := by
  have known := gives c files name
  generalize c.byName files name = outcome at known ⊢
  cases known with
  | kept kept => exact kept
  | found new => rw [List.lookup_append, new, Option.none_or, List.lookup_cons_self]
  | missing new => rw [List.lookup_append, new, Option.none_or, List.lookup_cons_self]

/-- The answer to a look-up is kept under the name that the look-up is about. -/
theorem lookup_look {lookup : Lookup} {name : String} (asked : c.asked? lookup = some name)
    (files : FileStore) :
    (c.look files lookup).2.found.lookup name = some (c.look files lookup).1 := by
  rw [look_eq, asked]
  exact lookup_byName c files name

theorem look_of_unasked {lookup : Lookup} (unasked : c.asked? lookup = none) (files : FileStore) :
    (c.look files lookup).1 = plain := by
  rw [look_eq, unasked]

theorem Numbered.look_eq_plain (numbered : Numbered c) {lookup : Lookup}
    (zero : (c.look files lookup).1.number = 0) : (c.look files lookup).1 = plain := by
  cases asked : c.asked? lookup with
  | none => exact look_of_unasked asked files
  | some name =>
    have left := numbered.obey (.operate files (.look lookup))
    exact left.plain_of_number (Entries.mem_of_lookup (lookup_look asked files)) zero

/-- The answer to a look-up that follows another one and some further calls. -/
def lookAgain (c : Catalog) (files : FileStore) (lookup : Lookup) (between : List Call)
    (now : FileStore) (other : Lookup) : Shared :=
  (((c.look files lookup).2.obeyAll between).look now other).1

/-- Two look-ups are about one name, and what is found for it stays in between. -/
def Agree (c : Catalog) (files : FileStore) (lookup : Lookup) (between : List Call)
    (other : Lookup) : Prop :=
  ∃ name, c.asked? lookup = some name ∧
    ((c.look files lookup).2.obeyAll between).asked? other = some name ∧
    (c.look files lookup).2.keeps between = true

variable {lookup other : Lookup} {between : List Call} {now : FileStore}

theorem Agree.lookAgain_eq (agree : Agree c files lookup between other) :
    c.lookAgain files lookup between now other = (c.look files lookup).1 := by
  obtain ⟨name, first, second, kept⟩ := agree
  obtain ⟨added, grown⟩ := found_prefix_obeyAll kept
  have held : ((c.look files lookup).2.obeyAll between).found.lookup name =
      some (c.look files lookup).1 := by
    rw [← grown, List.lookup_append, lookup_look first, Option.some_or]
  simp only [lookAgain, look_eq _ now, second, byName, held]

theorem obeyAll_concat (c : Catalog) (calls : List Call) (call : Call) :
    c.obeyAll (calls ++ [call]) = (c.obeyAll calls).obey call := by
  induction calls generalizing c with
  | nil => rfl
  | cons earlier rest ih => exact ih (c.obey earlier)

theorem keeps_of_keeps_append {calls more : List Call} (kept : c.keeps (calls ++ more) = true) :
    c.keeps calls = true := by
  induction calls generalizing c with
  | nil => rfl
  | cons call rest ih =>
    rw [List.cons_append, keeps, Bool.and_eq_true] at kept
    rw [keeps, Bool.and_eq_true]
    exact ⟨kept.1, ih kept.2⟩

/-- A definition that has the number of an earlier one is the earlier one, which was kept, unless
both are the plain text. -/
theorem Numbered.entries_later (numbered : Numbered c) {calls : List Call} {a b : String × Shared}
    (former : a ∈ c.found) (latter : b ∈ (c.obeyAll calls).found)
    (same : b.2.number = a.2.number) :
    c.keeps calls = true ∧ a = b ∨ a.2 = plain ∧ b.2 = plain := by
  cases kept : c.keeps calls with
  | true =>
    have still := (found_prefix_obeyAll kept).subset former
    exact ((numbered.obeyAll calls).entries_of_number still latter same.symm).imp_left (⟨rfl, ·⟩)
  | false =>
    rcases (since_of_dropped (Nat.le_refl _) kept).later b latter with nothing | later
    · have zero : a.2.number = 0 := by
        rw [← same, nothing]
        rfl
      exact .inr ⟨numbered.plain_of_number former zero, nothing⟩
    · exact absurd (same ▸ later) (Nat.not_le_of_lt (numbered.below a former))

/-- Answers with one number come from look-ups about one name, or are the plain text. -/
theorem Numbered.agree_of_number (numbered : Numbered c)
    (same : (c.lookAgain files lookup between now other).number = (c.look files lookup).1.number) :
    Agree c files lookup between other ∨
      (c.look files lookup).1 = plain ∧ c.lookAgain files lookup between now other = plain := by
  have left := numbered.obey (.operate files (.look lookup))
  have plainly (zero : (c.look files lookup).1.number = 0) : (c.look files lookup).1 = plain ∧
      c.lookAgain files lookup between now other = plain :=
    ⟨numbered.look_eq_plain zero, (left.obeyAll between).look_eq_plain (same.trans zero)⟩
  cases asked : c.asked? lookup with
  | none =>
    refine .inr (plainly ?_)
    rw [look_of_unasked asked]
    rfl
  | some name =>
    cases asks : ((c.look files lookup).2.obeyAll between).asked? other with
    | none =>
      refine .inr (plainly ?_)
      rw [← same, lookAgain, look_of_unasked asks]
      rfl
    | some again =>
      have former := Entries.mem_of_lookup (lookup_look asked files)
      have latter : (again, c.lookAgain files lookup between now other) ∈
          ((c.look files lookup).2.obeyAll (between ++ [.operate now (.look other)])).found := by
        rw [obeyAll_concat]
        exact Entries.mem_of_lookup (lookup_look asks now)
      rcases left.entries_later former latter same with ⟨kept, one⟩ | both
      · cases congrArg Prod.fst one
        exact .inl ⟨name, asked, asks, keeps_of_keeps_append kept⟩
      · exact .inr both

/-- What is shared by a catalog that was asked for these names since it last dropped all that it had
found. -/
structure Sharing (c : Catalog) (names : Finset String) : Prop where
  count : c.foundCount = names.card
  /-- A look-up about no name gives the plain text. -/
  unnamed (files : FileStore) (lookup : Lookup) : c.asked? lookup = none →
    (c.look files lookup).1 = plain
  /-- The first look-up about a name gives the plain text exactly if nothing is found for it. -/
  missing (files : FileStore) (lookup : Lookup) (name : String) : c.asked? lookup = some name →
    name ∉ names → ((c.look files lookup).1 = plain ↔ (c.find files name).definition? = none)
  numbered (files : FileStore) (lookup : Lookup) (between : List Call) (now : FileStore)
    (other : Lookup) :
    (c.lookAgain files lookup between now other).number = (c.look files lookup).1.number →
      c.lookAgain files lookup between now other = (c.look files lookup).1
  same (files : FileStore) (lookup : Lookup) (between : List Call) (now : FileStore)
    (other : Lookup) : c.lookAgain files lookup between now other = (c.look files lookup).1 ↔
      Agree c files lookup between other ∨
        (c.look files lookup).1 = plain ∧ c.lookAgain files lookup between now other = plain

theorem Numbered.look_eq_plain_iff (numbered : Numbered c) {name : String}
    (asked : c.asked? lookup = some name) (new : name ∉ c.names) :
    (c.look files lookup).1 = plain ↔ (c.find files name).definition? = none := by
  rw [look_eq, asked]
  dsimp only
  rw [byName_of_missing (lookup_eq_none_iff.mpr new)]
  cases finds : (c.find files name).definition? with
  | none => exact iff_of_true rfl rfl
  | some d =>
    refine iff_of_false (fun equal => ?_) (Option.some_ne_none d)
    exact Nat.ne_of_gt numbered.since.next (congrArg Shared.number equal)

theorem Numbered.sharing (numbered : Numbered c) : Sharing c c.names where
  count := numbered.foundCount_eq
  unnamed files lookup unasked := look_of_unasked unasked files
  missing files lookup name asked new := numbered.look_eq_plain_iff asked new
  numbered files lookup between now other same := by
    rcases numbered.agree_of_number same with agree | ⟨first, second⟩
    · exact agree.lookAgain_eq
    · exact second.trans first.symm
  same files lookup between now other := by
    constructor
    · intro equal
      exact numbered.agree_of_number (congrArg Shared.number equal)
    · rintro (agree | ⟨first, second⟩)
      · exact agree.lookAgain_eq
      · exact second.trans first.symm

/-- Whatever a catalog was asked and told since it started, it keeps one definition for each name
that it was asked for since it last dropped them, look-ups share a definition when they are about one
such name, and they share the plain text when there is nothing to be had. -/
theorem cache_is_keyed_by_name (files : FileStore) (settings : Settings) (calls : List Call) :
    Sharing ((start files settings).obeyAll calls)
      ((start files settings).requested ∅ calls) := by
  have sharing := ((Numbered.start files settings).obeyAll calls).sharing
  rwa [names_obeyAll] at sharing

end Highlighter.Catalog
