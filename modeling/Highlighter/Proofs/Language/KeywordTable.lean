import Highlighter.Language.KeywordTable
import Highlighter.Proofs.Bisection
import Mathlib.Data.List.Nodup

/-! A keyword table holds the first declaration of each text and nothing else. A table that is made
from its own entries is the same table. A word is looked up to the entry with its text, and the order
of the entries lets it be found by halves. -/
namespace Highlighter

namespace KeywordTable

theorem addTo_of_mem {k : Keyword} {es : List Keyword} (sorted : es.Pairwise (·.text < ·.text))
    (declared : k.text ∈ es.map (·.text)) : addTo k es = es := by
  induction es with
  | nil => simp at declared
  | cons e rest ih =>
    have parts := List.pairwise_cons.mp sorted
    simp only [addTo]
    rcases List.mem_cons.mp declared with same | later
    · rw [if_neg (same ▸ String.lt_irrefl _), if_pos same]
    · obtain ⟨other, member, same⟩ := List.mem_map.mp later
      have above : e.text < k.text := same ▸ parts.1 other member
      have different : k.text ≠ e.text := fun same =>
        String.lt_irrefl _ (same ▸ above)
      rw [if_neg (String.lt_asymm above), if_neg different, ih parts.2 later]

theorem addTo_perm {k : Keyword} {es : List Keyword} (fresh : k.text ∉ es.map (·.text)) :
    (addTo k es).Perm (k :: es) := by
  induction es with
  | nil => exact .refl _
  | cons e rest ih =>
    simp only [List.map_cons, List.mem_cons, not_or] at fresh
    simp only [addTo]
    split
    · exact .refl _
    · rw [if_neg fresh.1]
      exact ((ih fresh.2).cons e).trans (.swap k e rest)

end KeywordTable

namespace Keyword

theorem firstAfter_congr {seen others : List String} (same : ∀ text, text ∈ seen ↔ text ∈ others)
    (ks : List Keyword) : firstAfter seen ks = firstAfter others ks := by
  induction ks generalizing seen others with
  | nil => rfl
  | cons k rest ih =>
    have extended : ∀ text, text ∈ k.text :: seen ↔ text ∈ k.text :: others := by
      simp [same]
    simp only [firstAfter, same, ih same, ih extended]

theorem firstAfter_eq_self {seen : List String} {ks : List Keyword}
    (distinct : (ks.map (·.text)).Nodup) (fresh : ∀ k ∈ ks, k.text ∉ seen) :
    firstAfter seen ks = ks := by
  induction ks generalizing seen with
  | nil => rfl
  | cons k rest ih =>
    obtain ⟨first, others⟩ := List.nodup_cons.mp distinct
    have following : firstAfter (k.text :: seen) rest = rest := by
      refine ih others fun k' member => ?_
      rw [List.mem_cons, not_or]
      refine ⟨fun same => first ?_, fresh k' (List.mem_cons_of_mem _ member)⟩
      exact List.mem_map.mpr ⟨k', member, same⟩
    rw [firstAfter, if_neg (fresh k List.mem_cons_self), following]

/-- Declarations hide those of the same texts that follow them. -/
theorem firstAfter_append (seen : List String) (ks others : List Keyword) :
    firstAfter seen (ks ++ others) =
      firstAfter seen ks ++ firstAfter (ks.map (·.text) ++ seen) others := by
  induction ks generalizing seen with
  | nil => rfl
  | cons k rest ih =>
    rw [List.cons_append, firstAfter, firstAfter]
    split
    · rename_i declared
      have same : ∀ text, text ∈ rest.map (·.text) ++ seen ↔
          text ∈ (k :: rest).map (·.text) ++ seen := by
        intro text
        simp only [List.map_cons, List.cons_append, List.mem_cons, List.mem_append]
        constructor
        · exact .inr
        · rintro (rfl | member)
          · exact .inr declared
          · exact member
      rw [ih, firstAfter_congr same]
    · have same : ∀ text, text ∈ rest.map (·.text) ++ k.text :: seen ↔
          text ∈ (k :: rest).map (·.text) ++ seen := by
        intro text
        simp only [List.map_cons, List.cons_append, List.mem_cons, List.mem_append]
        exact or_left_comm
      rw [ih, firstAfter_congr same, List.cons_append]

/-- The texts of the declarations that count, each where it is declared first. -/
theorem texts_firstAfter (seen : List String) (ks : List Keyword) :
    (firstAfter seen ks).map (·.text) =
      ((ks.map (·.text)).filter fun text => text ∉ seen).eraseDups := by
  induction ks generalizing seen with
  | nil => rfl
  | cons k rest ih =>
    rw [firstAfter, List.map_cons]
    split
    · rename_i declared
      rw [ih, List.filter_cons_of_neg (by simpa using declared)]
    · rename_i fresh
      rw [List.map_cons, ih, List.filter_cons_of_pos (by simpa using fresh), List.eraseDups_cons,
        List.filter_filter]
      congr 2
      apply List.filter_congr
      intro text _
      simp [beq_eq_decide]

end Keyword

namespace KeywordTable

theorem entries_inj {t u : KeywordTable} (same : t.entries = u.entries) : t = u := by
  cases t
  cases u
  cases same
  rfl

theorem nodup_texts (t : KeywordTable) : (t.entries.map (·.text)).Nodup := by
  refine List.pairwise_map.mpr (t.ascending.imp fun smaller same => ?_)
  exact String.lt_irrefl _ (same ▸ smaller)

/-- Adding declarations to a table adds the first one of each text that the table lacks. -/
theorem foldl_add_perm (ks : List Keyword) (t : KeywordTable) :
    (ks.foldl add t).entries.Perm
      (t.entries ++ Keyword.firstAfter (t.entries.map (·.text)) ks) := by
  induction ks generalizing t with
  | nil => simp [Keyword.firstAfter]
  | cons k rest ih =>
    simp only [List.foldl_cons, Keyword.firstAfter]
    by_cases declared : k.text ∈ t.entries.map (·.text)
    · have unchanged : t.add k = t := entries_inj (addTo_of_mem t.ascending declared)
      rw [if_pos declared, unchanged]
      exact ih t
    · have added : (t.add k).entries.Perm (k :: t.entries) := addTo_perm declared
      have seen : ∀ text, text ∈ (t.add k).entries.map (·.text) ↔
          text ∈ k.text :: t.entries.map (·.text) := fun text =>
        (added.map (·.text)).mem_iff
      have following := ih (t.add k)
      rw [Keyword.firstAfter_congr seen] at following
      rw [if_neg declared]
      exact following.trans ((added.append_right _).trans List.perm_middle.symm)

/-- The entries of a table are the declarations that count. -/
theorem ofList_perm (ks : List Keyword) : (ofList ks).entries.Perm (Keyword.firsts ks) :=
  foldl_add_perm ks ∅

theorem firsts_entries (t : KeywordTable) : Keyword.firsts t.entries = t.entries :=
  Keyword.firstAfter_eq_self t.nodup_texts fun _ _ => List.not_mem_nil

theorem ofList_entries (t : KeywordTable) : ofList t.entries = t := by
  have perm : (ofList t.entries).entries.Perm t.entries := by
    have firsts := ofList_perm t.entries
    rwa [firsts_entries] at firsts
  refine entries_inj (perm.eq_of_pairwise (fun a b _ _ below above => ?_)
    (ofList t.entries).ascending t.ascending)
  exact absurd (String.lt_trans below above) (String.lt_irrefl a.text)

/-- What counts has been declared. -/
theorem mem_of_mem_firstAfter {k : Keyword} {seen : List String} {ks : List Keyword}
    (member : k ∈ Keyword.firstAfter seen ks) : k ∈ ks := by
  induction ks generalizing seen with
  | nil => exact member
  | cons k' rest ih =>
    simp only [Keyword.firstAfter] at member
    split at member
    · exact List.mem_cons_of_mem _ (ih member)
    · rcases List.mem_cons.mp member with rfl | later
      · exact List.mem_cons_self
      · exact List.mem_cons_of_mem _ (ih later)

theorem declared_of_mem_ofList {k : Keyword} {ks : List Keyword}
    (member : k ∈ (ofList ks).entries) : k ∈ ks :=
  mem_of_mem_firstAfter ((ofList_perm ks).mem_iff.mp member)

/-- A table has one entry for each text. -/
theorem eq_of_text_eq {t : KeywordTable} {k other : Keyword} (member : k ∈ t.entries)
    (among : other ∈ t.entries) (same : k.text = other.text) : k = other :=
  List.inj_on_of_nodup_map t.nodup_texts member among same

theorem lookup_eq_some_iff {t : KeywordTable} {word : String} {id : GroupId} :
    t.lookup word = some id ↔ ⟨word, id⟩ ∈ t.entries := by
  rw [lookup, Option.map_eq_some_iff]
  constructor
  · rintro ⟨k, found, rfl⟩
    have same : k.text = word := by simpa using List.find?_some found
    exact same ▸ List.mem_of_find?_eq_some found
  · intro member
    cases found : t.entries.find? (·.text = word) with
    | none =>
      have absent := List.find?_eq_none.mp found _ member
      simp at absent
    | some k =>
      have same : k.text = word := by simpa using List.find?_some found
      have equal : k = ⟨word, id⟩ := eq_of_text_eq (List.mem_of_find?_eq_some found) member same
      exact ⟨k, rfl, congrArg Keyword.group equal⟩

/-- The group of a word, searched by halves. -/
def bisect (t : KeywordTable) (word : String) : Option GroupId :=
  ((t.entries[Bisection.border (·.text < word) t.entries 0 t.entries.length]?).filter
    (·.text = word)).map (·.group)

/-- The entry with a text is the first one that does not stand before it. -/
theorem find?_eq_filter_border {es : List Keyword} (sorted : es.Pairwise (·.text < ·.text))
    (word : String) : es.find? (·.text = word) =
      (es[(es.takeWhile (·.text < word)).length]?).filter (·.text = word) := by
  induction sorted with
  | nil => rfl
  | @cons e rest before _ ih =>
    by_cases smaller : e.text < word
    · have different : e.text ≠ word := fun same => String.lt_irrefl _ (same ▸ smaller)
      rw [List.find?_cons_of_neg (by simpa using different),
        List.takeWhile_cons_of_pos (by simpa using smaller), List.length_cons,
        List.getElem?_cons_succ, ih]
    · rw [List.takeWhile_cons_of_neg (by simpa using smaller), List.length_nil,
        List.getElem?_cons_zero]
      by_cases same : e.text = word
      · rw [List.find?_cons_of_pos (by simpa using same),
          Option.filter_some_pos (by simpa using same)]
      · rw [List.find?_cons_of_neg (by simpa using same),
          Option.filter_some_neg (by simpa using same), List.find?_eq_none]
        intro k later equal
        have above := before k later
        rw [of_decide_eq_true equal] at above
        exact smaller above

theorem bisect_eq_lookup (t : KeywordTable) (word : String) : t.bisect word = t.lookup word := by
  have ordered : t.entries.Pairwise fun a b =>
      decide (b.text < word) = true → decide (a.text < word) = true := by
    refine t.ascending.imp fun below later => ?_
    exact decide_eq_true (String.lt_trans below (of_decide_eq_true later))
  rw [bisect, Bisection.border_eq ordered, lookup, find?_eq_filter_border t.ascending]

end KeywordTable
end Highlighter
