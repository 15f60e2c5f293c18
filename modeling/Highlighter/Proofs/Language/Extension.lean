import Highlighter.Language.Extension
import Highlighter.Proofs.Text.Lower

/-! The one form of an extension is kept by putting it into its one form again, and so is a list of
extensions in this form. Lower case brings neither a dot to the front nor a blank to an end, and the
blanks around an extension and the dots in front of it are gone before. -/
namespace Highlighter.Extension

/-- An extension without its dots and the blanks around it. -/
def bare (text : String) : List Char := (Text.trim text.toList).dropWhile (· = '.')

theorem normalize_eq (text : String) : normalize text =
    if bare text = [] then "" else String.ofList ('.' :: Text.lower (bare text)) := by
  simp [normalize, bare]

theorem head?_bare {text : String} {c : Char} (head : (bare text).head? = some c) : c ≠ '.' := by
  have stop := List.head?_dropWhile_not (fun c => decide (c = '.')) (Text.trim text.toList)
  rw [bare] at head
  rw [head] at stop
  simpa using stop

theorem ne_dot_of_head?_lower {text : String} {c : Char}
    (head : (Text.lower (bare text)).head? = some c) : c ≠ '.' := by
  obtain ⟨d, first, lowers⟩ := Text.head?_lower head
  exact lowers.notDot (head?_bare first)

theorem getLast?_bare {text : String} {c : Char} (last : (bare text).getLast? = some c) :
    Text.isBlank c = false := by
  obtain ⟨dots, whole⟩ :=
    List.dropWhile_suffix (l := Text.trim text.toList) fun c => decide (c = '.')
  change dots ++ bare text = _ at whole
  have final : (Text.trim text.toList).getLast? = some c := by
    rw [← whole, List.getLast?_append, last, Option.some_or]
  exact Text.getLast?_trim final

theorem bare_normalize {text : String} (filled : bare text ≠ []) :
    bare (String.ofList ('.' :: Text.lower (bare text))) = Text.lower (bare text) := by
  have nonempty : Text.lower (bare text) ≠ [] := Text.lowerAfter_ne_nil filled
  have trimmed : Text.trim ('.' :: Text.lower (bare text)) = '.' :: Text.lower (bare text) := by
    apply Text.trim_eq_self
    · intro c head
      have same : '.' = c := by simpa using head
      exact same ▸ by decide
    · intro c last
      rw [List.getLast?_cons, List.getLast?_eq_some_getLast nonempty, Option.getD_some,
        ← List.getLast?_eq_some_getLast nonempty] at last
      obtain ⟨d, final, lowers⟩ := Text.getLast?_lowerAfter last
      exact lowers.notBlank (getLast?_bare final)
  have noDot : (Text.lower (bare text)).dropWhile (fun c => decide (c = '.')) =
      Text.lower (bare text) :=
    Text.dropWhile_eq_self fun _ head => decide_eq_false (ne_dot_of_head?_lower head)
  rw [bare, String.toList_ofList, trimmed, List.dropWhile_cons_of_pos (by simp), noDot]

theorem toList_normalize (text : String) : (normalize text).toList =
    if Text.lower (bare text) = [] then [] else '.' :: Text.lower (bare text) := by
  rw [normalize_eq]
  by_cases empty : bare text = []
  · simp [empty, Text.lower, Text.lowerAfter]
  · have filled : Text.lower (bare text) ≠ [] := Text.lowerAfter_ne_nil empty
    rw [if_neg empty, if_neg filled, String.toList_ofList]

/-- Whether two texts spell one extension: they differ in the case of letters, in the dots in front
and in the blanks around them at most. -/
def SpelledAlike (a b : String) : Prop := Text.lower (bare a) = Text.lower (bare b)

theorem normalize_eq_iff {a b : String} : normalize a = normalize b ↔ SpelledAlike a b := by
  rw [← String.toList_inj, toList_normalize, toList_normalize, SpelledAlike]
  split <;> split <;> simp_all

theorem normalize_eq_self_of_normalize (text : String) :
    normalize (normalize text) = normalize text := by
  by_cases empty : bare text = []
  · rw [normalize_eq text, if_pos empty]
    decide
  · have again := bare_normalize empty
    have nonempty : Text.lower (bare text) ≠ [] := Text.lowerAfter_ne_nil empty
    rw [normalize_eq text, if_neg empty, normalize_eq, again, if_neg nonempty, Text.lower_lower]

/-- Extensions in their one form, each once. -/
structure Collected (texts : List String) : Prop where
  distinct : texts.Nodup
  normal : ∀ text ∈ texts, text ≠ "" ∧ normalize text = text

theorem collected_collectAfter {before : List String} (rest : List String)
    (collected : Collected before) : Collected (collectAfter before rest) := by
  induction rest generalizing before with
  | nil => exact collected
  | cons text rest ih =>
    simp only [collectAfter]
    split
    · exact ih collected
    · rename_i fresh
      simp only [Bool.or_eq_true, decide_eq_true_eq, List.contains_iff_mem, not_or] at fresh
      refine ih ⟨?_, fun other member => ?_⟩
      · rw [List.nodup_append]
        refine ⟨collected.distinct, by simp, fun a first b second same => ?_⟩
        rw [List.mem_singleton] at second
        exact fresh.2 (second ▸ same ▸ first)
      · rcases List.mem_append.mp member with earlier | new
        · exact collected.normal other earlier
        · rw [List.mem_singleton] at new
          exact new ▸ ⟨fresh.1, normalize_eq_self_of_normalize text⟩

theorem collected_collect (texts : List String) : Collected (collect texts) :=
  collected_collectAfter texts ⟨List.nodup_nil, fun _ member => absurd member List.not_mem_nil⟩

theorem collectAfter_eq_append (before : List String) {rest : List String}
    (collected : Collected (before ++ rest)) : collectAfter before rest = before ++ rest := by
  induction rest generalizing before with
  | nil => simp [collectAfter]
  | cons text rest ih =>
    obtain ⟨nonempty, normal⟩ := collected.normal text (by simp)
    have fresh : text ∉ before := by
      intro member
      have apart := (List.nodup_append.mp collected.distinct).2.2
      exact apart text member text List.mem_cons_self rfl
    have following := ih (before ++ [text]) (by simpa using collected)
    simp only [collectAfter, normal]
    rw [if_neg (by simp [nonempty, fresh]), following]
    simp

theorem collect_eq_self {texts : List String} (collected : Collected texts) :
    collect texts = texts :=
  collectAfter_eq_append [] collected

theorem bare_of_padded {core text : String} (padded : Text.Padded core.toList text.toList) :
    bare text = bare core := by
  rw [bare, bare, padded.trim_eq]

/-- Dots in front of a text that does not begin with a blank are dropped with its own ones. -/
theorem bare_dots {text : String} (first : ∀ c, text.toList.head? = some c → Text.isBlank c = false)
    (count : Nat) : bare (String.ofList (List.replicate count '.' ++ text.toList)) = bare text := by
  have dots : ∀ c ∈ List.replicate count '.', c = '.' := fun _ => List.eq_of_mem_replicate
  have kept : ∀ c ∈ List.replicate count '.', Text.isBlank c = false := fun c member =>
    dots c member ▸ by decide
  rw [bare, bare, String.toList_ofList, Text.trim_append_kept kept first]
  exact List.dropWhile_append_of_pos fun c member => decide_eq_true (dots c member)

theorem normalize_congr {a b : String} (same : bare a = bare b) : normalize a = normalize b := by
  rw [normalize_eq, normalize_eq, same]

/-- The one form of an extension is its own one form. It is empty, or one dot with something else
after it. Neither blanks around an extension change it nor dots in front of one that does not begin
with a blank, and two extensions have the same form only when they are spelled alike. -/
theorem normal_form_is_canonical (text : String) :
    normalize (normalize text) = normalize text ∧
    (normalize text = "" ∨ ∃ c rest, (normalize text).toList = '.' :: c :: rest ∧ c ≠ '.') ∧
    (∀ padded : String, Text.Padded text.toList padded.toList →
      normalize padded = normalize text) ∧
    ((∀ c, text.toList.head? = some c → Text.isBlank c = false) → ∀ count : Nat,
      normalize (String.ofList (List.replicate count '.' ++ text.toList)) = normalize text) ∧
    (∀ other : String, normalize other = normalize text ↔ SpelledAlike other text) := by
  refine ⟨normalize_eq_self_of_normalize text, ?_, fun _ padded => ?_, fun first count => ?_,
    fun _ => normalize_eq_iff⟩
  · cases spelled : Text.lower (bare text) with
    | nil => exact .inl (String.toList_inj.mp (by rw [toList_normalize, if_pos spelled]; rfl))
    | cons c rest =>
      have head : (Text.lower (bare text)).head? = some c := by rw [spelled, List.head?_cons]
      refine .inr ⟨c, rest, ?_, ne_dot_of_head?_lower head⟩
      rw [toList_normalize, spelled, if_neg (List.cons_ne_nil _ _)]
  · exact normalize_congr (bare_of_padded padded)
  · exact normalize_congr (bare_dots first count)

/-- Capital letters of which the last one is a final sigma. -/
theorem greek_extension_has_one_form :
    Text.Padded "ΟΔΟΣ".toList " ΟΔΟΣ\t".toList ∧ normalize "ΟΔΟΣ" = ".οδος" ∧
      normalize " ΟΔΟΣ\t" = ".οδος" ∧ normalize "..ΟΔΟΣ" = ".οδος" ∧
      normalize ".οδος" = ".οδος" := by
  have padded : Text.Padded "ΟΔΟΣ".toList " ΟΔΟΣ\t".toList :=
    .around [' '] ['\t'] (List.all_eq_true.mp (by decide))
      (List.all_eq_true.mp (by decide))
  have form : normalize "ΟΔΟΣ" = ".οδος" := by decide +kernel
  obtain ⟨again, _, blanks, dots, _⟩ := normal_form_is_canonical "ΟΔΟΣ"
  refine ⟨padded, form, (blanks _ padded).trans form, (dots ?_ 2).trans form, form ▸ again⟩
  intro c head
  have capital : 'Ο' = c := by simpa using head
  exact capital ▸ by decide

end Highlighter.Extension
