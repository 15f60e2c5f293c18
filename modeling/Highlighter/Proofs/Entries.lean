import Mathlib.Data.List.Nodup

/-! Lists of entries, which are looked up by their keys. -/
namespace Highlighter.Entries

variable {α β : Type} {entries : List (α × β)} {key : α} {value : β}

theorem nodup_append_new (distinct : (entries.map Prod.fst).Nodup)
    (new : key ∉ entries.map Prod.fst) : ((entries ++ [(key, value)]).map Prod.fst).Nodup := by
  rw [List.map_append, List.map_singleton, ← List.concat_eq_append, List.nodup_concat]
  exact ⟨new, distinct⟩

variable [BEq α] [LawfulBEq α]

theorem mem_of_lookup (found : entries.lookup key = some value) : (key, value) ∈ entries := by
  obtain ⟨before, after, whole, _⟩ := List.lookup_eq_some_iff.mp found
  rw [whole]
  exact List.mem_append_right _ List.mem_cons_self

theorem isSome_lookup_iff : (entries.lookup key).isSome ↔ key ∈ entries.map Prod.fst := by
  rw [List.lookup_isSome_iff, List.mem_map]
  refine exists_congr fun entry => and_congr_right fun _ => ?_
  rw [beq_iff_eq, eq_comm]

theorem lookup_eq_none_iff : entries.lookup key = none ↔ key ∉ entries.map Prod.fst := by
  rw [← isSome_lookup_iff, Option.not_isSome_iff_eq_none]

/-- Of entries with different keys each one is found. -/
theorem lookup_eq_some_iff (distinct : (entries.map Prod.fst).Nodup) :
    entries.lookup key = some value ↔ (key, value) ∈ entries := by
  induction entries with
  | nil => simp
  | cons entry rest ih =>
    obtain ⟨fresh, later⟩ := List.nodup_cons.mp distinct
    obtain ⟨first, owner⟩ := entry
    rw [List.mem_cons, Prod.mk.injEq]
    by_cases same : key = first
    · subst same
      have absent : (key, value) ∉ rest := fun member =>
        fresh (List.mem_map.mpr ⟨_, member, rfl⟩)
      simp [absent, eq_comm]
    · rw [List.lookup_cons, beq_false_of_ne same]
      simpa [same] using ih later

end Highlighter.Entries
