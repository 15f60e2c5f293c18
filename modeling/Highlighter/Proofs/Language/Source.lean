import Highlighter.Language.Source
import Highlighter.Proofs.Result
import Mathlib.Data.List.Pairwise

/-! Records of a language source by their names. A record that declares a language has the name of
this language, one that does not lacks a field or has a malformed one, and a name that some record has
leads to a record. -/
namespace Highlighter
open Result

/-- A declaration has the name and the extensions of its record. -/
theorem LanguageRecord.of_declaration {r : LanguageRecord} {d : Declaration}
    (declares : r.declaration = .ok d) :
    r.name = some d.name ∧ d.extensions = Text.words r.extensions := by
  unfold declaration at declares
  split at declares
  · rename_i name filled
    obtain ⟨_, _, following⟩ := bind_eq_ok.mp declares
    have kept := (Option.filter_eq_some_iff.mp filled).1
    split at following
    · cases following
      exact ⟨kept, rfl⟩
    · obtain ⟨_, _, whole⟩ := bind_eq_ok.mp following
      cases whole
      exact ⟨kept, rfl⟩
  · cases declares

theorem LanguageRecord.name_of_declaration {r : LanguageRecord} {d : Declaration}
    (declares : r.declaration = .ok d) : r.name = some d.name :=
  (of_declaration declares).1

/-- What is wrong with a record is something in it. -/
def LanguageError.InRecord (error : LanguageError) : Prop :=
  (∃ field, error = .missingField field) ∨ ∃ part value, error = .notOneCharacter part value

theorem DelimiterPart.char_eq_error {part : DelimiterPart} {text : String} {error : LanguageError}
    (fails : part.char text = .error error) : error = .notOneCharacter part text := by
  unfold char at fails
  split at fails
  · cases fails
  · exact (Except.error.inj fails).symm

theorem DelimiterPart.escapeChar_eq_error {text : String} {error : LanguageError}
    (fails : escapeChar text = .error error) : error = .notOneCharacter .escape text := by
  unfold escapeChar at fails
  split at fails
  · cases fails
  · exact char_eq_error (map_eq_error.mp fails)

theorem DelimiterPart.error_of_char {part : DelimiterPart} {text : String} :
    ∀ error, part.char text = .error error → error.InRecord :=
  fun _ fails => .inr ⟨part, text, char_eq_error fails⟩

theorem DelimiterRecord.error_of_delimiter (r : DelimiterRecord) :
    ∀ error, r.delimiter = .error error → error.InRecord := by
  unfold delimiter
  refine error_of_bind DelimiterPart.error_of_char fun opening => error_of_bind ?_ fun escape => ?_
  · exact fun _ fails => .inr ⟨.escape, _, DelimiterPart.escapeChar_eq_error fails⟩
  · split
    · exact fun _ fails => nomatch fails
    · exact error_of_bind DelimiterPart.error_of_char fun _ _ fails => nomatch fails

theorem LanguageRecord.error_of_declaration (r : LanguageRecord) :
    ∀ error, r.declaration = .error error → error.InRecord := by
  unfold declaration
  split
  · refine error_of_bind ?_ fun marks => ?_
    · cases r.blockComment with
      | none => exact fun _ fails => nomatch fails
      | some texts =>
        refine error_of_bind ?_ fun _ _ fails => nomatch fails
        intro error fails
        dsimp only at fails
        split at fails
        · cases fails
        · cases fails
          exact .inl ⟨_, rfl⟩
    · split
      · exact fun _ fails => nomatch fails
      · exact error_of_bind (error_of_mapM DelimiterRecord.error_of_delimiter _)
          fun _ _ fails => nomatch fails
  · intro error fails
    cases fails
    exact .inl ⟨_, rfl⟩

namespace LanguageSource
variable {s : LanguageSource} {name : String} {r : LanguageRecord}

/-- A record that is found has a name. -/
theorem find?_eq_some (found : s.find? name = some r) : r ∈ s.records ∧ r.name.isSome := by
  obtain ⟨i, position, entry⟩ := Option.bind_eq_some_iff.mp found
  refine ⟨List.mem_of_getElem? entry, ?_⟩
  have named : ∀ p : LanguageRecord → Bool, (∀ r, p r = true → r.name.isSome) →
      s.records.findIdx? p = some i → r.name.isSome := by
    intro p all first
    obtain ⟨bound, holds, _⟩ := List.findIdx?_eq_some_iff_getElem.mp first
    obtain ⟨_, same⟩ := List.getElem?_eq_some_iff.mp entry
    exact all r (same ▸ holds)
  rcases Option.or_eq_some_iff.mp position with exact' | ⟨_, similar⟩
  · refine named _ (fun r this => ?_) exact'
    rw [of_decide_eq_true this]
    rfl
  · refine named _ (fun r this => ?_) similar
    exact Option.isSome_of_any this

theorem find?_eq_none (missing : s.find? name = none) : ∀ r ∈ s.records, r.name ≠ some name := by
  intro r member named
  have first : (s.records.findIdx? (·.name = some name)).isSome := by
    rw [List.findIdx?_isSome, List.any_eq_true]
    exact ⟨r, member, decide_eq_true named⟩
  obtain ⟨i, position⟩ := Option.isSome_iff_exists.mp first
  obtain ⟨bound, _⟩ := List.findIdx?_eq_some_iff_getElem.mp position
  rw [find?, position?, position, Option.some_or, Option.bind_some,
    List.getElem?_eq_getElem bound] at missing
  cases missing

/-- The first record with this very name is the one that is found. -/
theorem find?_of_first (first : s.records.find? (·.name = some name) = some r) :
    s.find? name = some r := by
  rw [List.find?_eq_bind_findIdx?_getElem?, Option.bind_eq_some_iff] at first
  obtain ⟨i, position, entry⟩ := first
  rw [find?, position?, position, Option.some_or, Option.bind_some, entry]

/-- Where no two records have one name, a name belongs to one record. -/
theorem eq_of_name_eq {records : List LanguageRecord} {r q : LanguageRecord}
    (distinct : (records.filterMap (·.name)).Nodup) (one : r ∈ records) (other : q ∈ records)
    (named : r.name = some name) (same : q.name = some name) : r = q := by
  by_contra different
  have symmetric : Std.Symm fun a b : LanguageRecord =>
      a.name = some name → b.name ≠ some name := ⟨fun _ _ apart there here => apart here there⟩
  have apart : records.Pairwise fun a b => a.name = some name → b.name ≠ some name :=
    (List.pairwise_filterMap.mp distinct).imp fun differ here there =>
      differ name here name there rfl
  exact apart.forall one other different named same

end LanguageSource
end Highlighter
