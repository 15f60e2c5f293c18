import Highlighter.Catalog.Basic
import Highlighter.Proofs.Language.ExtensionMap
import Mathlib.Data.List.Induction

/-! Extensions belong to who claims them first. A map that is made of claims lists each claimed
extension once, in the order of the first claims, and later claims change nothing. So the map of a
source and the listing of its languages agree, whatever extensions the languages share. -/
namespace Highlighter

namespace ExtensionMap

/-- The number of the first claim of an extension in its one form. -/
def firstClaim (claims : List (String × String)) (e : String) : Nat :=
  claims.findIdx (Extension.normalize ·.1 = e)

/-- The entries are the extensions that have been claimed, in the order of their first claims, and
each with the language of the first claim. -/
structure Lists (claims entries : List (String × String)) : Prop where
  distinct : (entries.map Prod.fst).Nodup
  claimed : ∀ e, e ∈ entries.map Prod.fst ↔
    e ≠ "" ∧ ∃ claim ∈ claims, Extension.normalize claim.1 = e
  ordered : entries.Pairwise fun a b => firstClaim claims a.1 < firstClaim claims b.1
  owned : ∀ entry ∈ entries,
    (claims.find? (Extension.normalize ·.1 = entry.1)).map Prod.snd = some entry.2

section Claims
variable {claims : List (String × String)} {e : String}

theorem firstClaim_append (claimed : ∃ claim ∈ claims, Extension.normalize claim.1 = e)
    (more : List (String × String)) : firstClaim (claims ++ more) e = firstClaim claims e := by
  have inside : claims.findIdx (Extension.normalize ·.1 = e) < claims.length := by
    simpa [List.findIdx_lt_length] using claimed
  rw [firstClaim, List.findIdx_append, if_pos inside, firstClaim]

theorem firstClaim_lt (claimed : ∃ claim ∈ claims, Extension.normalize claim.1 = e) :
    firstClaim claims e < claims.length := by
  simpa [firstClaim, List.findIdx_lt_length] using claimed

theorem le_firstClaim_append (unclaimed : ∀ claim ∈ claims, Extension.normalize claim.1 ≠ e)
    (more : List (String × String)) : claims.length ≤ firstClaim (claims ++ more) e := by
  have absent : claims.findIdx (Extension.normalize ·.1 = e) = claims.length :=
    List.findIdx_eq_length.mpr fun claim member => decide_eq_false (unclaimed claim member)
  rw [firstClaim, List.findIdx_append, absent, if_neg (Nat.lt_irrefl _)]
  exact Nat.le_add_left _ _

theorem find?_claim_append (claimed : ∃ claim ∈ claims, Extension.normalize claim.1 = e)
    (more : List (String × String)) :
    (claims ++ more).find? (Extension.normalize ·.1 = e) =
      claims.find? (Extension.normalize ·.1 = e) := by
  have found : (claims.find? (Extension.normalize ·.1 = e)).isSome := by
    simpa using claimed
  rw [List.find?_append, Option.or_of_isSome found]

end Claims

/-- One more claim leaves the entries as they are, or adds an entry at their end. -/
theorem Lists.insert {claims : List (String × String)} {m : ExtensionMap}
    (lists : Lists claims m.entries) (extension language : String) :
    Lists (claims ++ [(extension, language)]) (m.insert extension language).2.entries := by
  have owned : ∀ entry ∈ m.entries, ∃ claim ∈ claims, Extension.normalize claim.1 = entry.1 :=
    fun entry member => ((lists.claimed entry.1).mp (List.mem_map_of_mem member)).2
  have ordered : m.entries.Pairwise fun a b =>
      firstClaim (claims ++ [(extension, language)]) a.1 <
        firstClaim (claims ++ [(extension, language)]) b.1 := by
    refine lists.ordered.imp_of_mem fun {a b} here there earlier => ?_
    rwa [firstClaim_append (owned a here), firstClaim_append (owned b there)]
  have kept : ∀ entry ∈ m.entries,
      ((claims ++ [(extension, language)]).find? (Extension.normalize ·.1 = entry.1)).map Prod.snd =
        some entry.2 := by
    intro entry member
    rw [find?_claim_append (owned entry member), lists.owned entry member]
  have claimed : ∀ e,
      (∃ claim ∈ claims ++ [(extension, language)], Extension.normalize claim.1 = e) ↔
        (∃ claim ∈ claims, Extension.normalize claim.1 = e) ∨ Extension.normalize extension = e := by
    intro e
    simp only [List.mem_append, List.mem_singleton, or_and_right, exists_or, exists_eq_left]
  rcases m.insert_cases extension language with ⟨refused, same⟩ | ⟨⟨filled, free⟩, added⟩
  · rw [same]
    refine ⟨lists.distinct, fun e => ?_, ordered, kept⟩
    rw [lists.claimed, claimed]
    refine and_congr_right fun filled => (or_iff_left_of_imp ?_).symm
    rintro rfl
    exact ((lists.claimed _).mp (refused.resolve_left filled)).2
  · have unclaimed : ∀ claim ∈ claims,
        Extension.normalize claim.1 ≠ Extension.normalize extension := by
      intro claim member here
      exact free ((lists.claimed _).mpr ⟨filled, claim, member, here⟩)
    rw [added]
    constructor
    · exact added ▸ insert_distinct lists.distinct extension language
    · intro e
      rw [List.map_append, List.map_singleton, List.mem_append, List.mem_singleton, lists.claimed,
        claimed, and_or_left]
      refine or_congr_right ⟨?_, fun here => here.2.symm⟩
      rintro rfl
      exact ⟨filled, rfl⟩
    · refine List.pairwise_append.mpr ⟨ordered, List.pairwise_singleton _ _, ?_⟩
      intro a here b there
      rw [List.mem_singleton.mp there, firstClaim_append (owned a here)]
      exact Nat.lt_of_lt_of_le (firstClaim_lt (owned a here)) (le_firstClaim_append unclaimed _)
    · intro entry member
      rcases List.mem_append.mp member with before | last
      · exact kept entry before
      · have missed :
            claims.find? (Extension.normalize ·.1 = Extension.normalize extension) = none := by
          simpa using unclaimed
        rw [List.mem_singleton.mp last, List.find?_append, missed]
        simp

theorem insertAll_concat (m : ExtensionMap) (claims : List (String × String))
    (claim : String × String) :
    m.insertAll (claims ++ [claim]) = ((m.insertAll claims).insert claim.1 claim.2).2 := by
  rw [insertAll, List.foldl_append]
  rfl

/-- A map that is made of claims lists them, whatever they are. -/
theorem lists_insertAll (claims : List (String × String)) :
    Lists claims ((∅ : ExtensionMap).insertAll claims).entries := by
  induction claims using List.reverseRecOn with
  | nil =>
    refine ⟨List.nodup_nil, fun e => ?_, List.Pairwise.nil, fun _ member => ?_⟩
    · simp [insertAll, EmptyCollection.emptyCollection]
    · exact absurd member List.not_mem_nil
  | append_singleton claims claim ih =>
    rw [insertAll_concat]
    exact ih.insert claim.1 claim.2

/-- A claim is kept exactly when it is the first one of an extension. -/
theorem Lists.insert_iff {claims : List (String × String)} {m : ExtensionMap}
    (lists : Lists claims m.entries) (extension language : String) :
    (m.insert extension language).1 = true ↔ Extension.normalize extension ≠ "" ∧
      ∀ claim ∈ claims, Extension.normalize claim.1 ≠ Extension.normalize extension := by
  have claimed := lists.claimed (Extension.normalize extension)
  rcases m.insert_cases extension language with ⟨refused, same⟩ | ⟨⟨filled, free⟩, added⟩
  · rw [same]
    refine iff_of_false Bool.false_ne_true fun ⟨filled, unclaimed⟩ => ?_
    obtain ⟨_, claim, member, here⟩ := claimed.mp (refused.resolve_left filled)
    exact unclaimed claim member here
  · rw [added]
    refine iff_of_true rfl ⟨filled, fun claim member here => free ?_⟩
    exact claimed.mpr ⟨filled, claim, member, here⟩

/-- An extension leads to the language that claims it first. -/
theorem get?_insertAll_empty (claims : List (String × String)) (e : String) :
    ((∅ : ExtensionMap).insertAll claims).get? e = if Extension.normalize e = "" then none
      else (claims.find? (Extension.normalize ·.1 = Extension.normalize e)).map Prod.snd := by
  split
  · rename_i empty
    have unlisted : "" ∉ ((∅ : ExtensionMap).insertAll claims).entries.map Prod.fst := by
      intro member
      exact (((lists_insertAll claims).claimed "").mp member).1 rfl
    rw [get?, empty]
    exact Entries.lookup_eq_none_iff.mpr unlisted
  · rename_i filled
    rw [get?_insertAll _ filled]
    rfl

end ExtensionMap

namespace LanguageRecord

/-- A record with a name is listed with an extension when it lists it. -/
theorem any_summary? (r : LanguageRecord) {e : String} (filled : Extension.normalize e ≠ "") :
    r.summary?.any (fun language => language.2.contains (Extension.normalize e)) = r.lists e := by
  rw [Bool.eq_iff_iff, lists, summary?]
  cases r.name with
  | none => simp
  | some name => simp [Extension.mem_collect, filled, Extension.same]

theorem map_fst_summary? (r : LanguageRecord) : r.summary?.map Prod.fst = r.name := by
  rw [summary?, Option.map_map]
  exact Option.map_id'

end LanguageRecord

namespace Catalog

/-- The extension map of the source agrees with the listing of the languages. -/
theorem get?_extensionMap_eq (c : Catalog) (e : String) : c.source.extensionMap.get? e =
    (c.languages.find? fun language => language.2.contains (Extension.normalize e)).map Prod.fst := by
  rw [languages, List.find?_filterMap, Option.map_bind]
  by_cases filled : Extension.normalize e = ""
  · have unlisted : ∀ r : LanguageRecord,
        r.summary?.any (fun language => language.2.contains (Extension.normalize e)) = false := by
      intro r
      rw [LanguageRecord.summary?, Option.any_map]
      cases r.name with
      | none => rfl
      | some name => simp [filled, Extension.mem_collect]
    simp only [unlisted]
    rw [LanguageSource.extensionMap, ExtensionMap.get?_insertAll_empty, if_pos filled]
    have nothing : c.source.records.find? (fun _ => false) = none :=
      List.find?_eq_none.mpr fun _ _ => Bool.false_ne_true
    rw [nothing]
    rfl
  · simp only [LanguageRecord.any_summary? _ filled]
    rw [LanguageSource.get?_extensionMap _ filled]
    congr 1
    funext r
    exact (LanguageRecord.map_fst_summary? r).symm

end Catalog

namespace ExtensionMap

/-- In any sequence of claims the first one of each extension counts. It is the one that the
extension leads to and the only one that is kept, and the extensions are listed in the order of these
claims. So the extension map of a source leads to the first of its languages that is listed with an
extension. -/
theorem first_claims_count (claims : List (String × String)) (e : String) (c : Catalog) :
    (((∅ : ExtensionMap).insertAll claims).get? e = if Extension.normalize e = "" then none else
      (claims.find? fun claim => Extension.normalize claim.1 = Extension.normalize e).map Prod.snd) ∧
    (∀ i : Fin claims.length,
      (((∅ : ExtensionMap).insertAll (claims.take i)).insert claims[i].1 claims[i].2).1 = true ↔
        Extension.normalize claims[i].1 ≠ "" ∧
          ∀ j < i, Extension.normalize claims[j].1 ≠ Extension.normalize claims[i].1) ∧
    Lists claims ((∅ : ExtensionMap).insertAll claims).entries ∧
    c.source.extensionMap.get? e =
      (c.languages.find? fun language => language.2.contains (Extension.normalize e)).map Prod.fst := by
  refine ⟨get?_insertAll_empty claims e, fun i => ?_, lists_insertAll claims,
    c.get?_extensionMap_eq e⟩
  rw [(lists_insertAll _).insert_iff]
  refine and_congr_right fun _ => ?_
  constructor
  · intro unclaimed j before
    exact unclaimed _ (List.mem_take_iff_getElem.mpr ⟨j, by omega, rfl⟩)
  · intro unclaimed claim member
    obtain ⟨j, bound, rfl⟩ := List.mem_take_iff_getElem.mp member
    have before : j < i := by omega
    exact unclaimed ⟨j, by omega⟩ before

end ExtensionMap
end Highlighter
