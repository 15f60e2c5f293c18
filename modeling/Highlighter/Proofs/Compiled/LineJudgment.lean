import Highlighter.Language.Compiled.Basic
import Highlighter.Proofs.Language.Source
import Highlighter.Proofs.Result

/-! What a line of a compiled text says, as a judgment. A key and its values mean the same wherever
the line stands; the number of a line shows only in what is wrong with it. -/
namespace Highlighter

/-- The errors of reading the line with this number. -/
inductive LanguageError.OfLine (n : Nat) : LanguageError → Prop
  | invalidLine (fault : LineFault) : OfLine n (.invalidLine n fault)
  | unsupportedVersion (found : Nat) : OfLine n (.unsupportedVersion found)
  | notOneCharacter (part : DelimiterPart) (value : String) : OfLine n (.notOneCharacter part value)

namespace Compiled
open Result

/-- The keys that have a meaning. -/
def keys : List String :=
  ["Version", "Name", "Ext", "LineComment", "BlockComment", "Delimiter", "Operators", "Punctuation",
    "KeyStart", "KeyContinue", "NumberContinue", "Group", "Keyword"]

/-- What a key and its values mean. -/
inductive Means : String → List String → Entry → Prop
  | version {text : String} {found : Nat}
      (number : Text.decimal? Text.limit32 text.toList = some found)
      (supported : found ≤ formatVersion) : Means "Version" [text] .version
  | name (text : String) : Means "Name" [text] (.name text)
  | extensions (texts : List String) : Means "Ext" texts (.extensions texts)
  | lineComment (mark : String) : Means "LineComment" [mark] (.lineComment mark)
  | blockComment (opening closing : String) :
      Means "BlockComment" [opening, closing] (.blockComment ⟨opening, closing⟩)
  | delimiter (label : String) {front mark back : String} {opening closing : Char}
      {escape : Option Char} (opens : DelimiterPart.char .opening front = .ok opening)
      (escapes : DelimiterPart.escapeChar mark = .ok escape)
      (closes : DelimiterPart.char .closing back = .ok closing) :
      Means "Delimiter" [label, front, mark, back] (.delimiter ⟨label, opening, escape, closing⟩)
  | charSet (name : SetName) (text : String) :
      Means name.key [text] (.charSet name (CharSet.ofString text))
  | groups (names : List String) : Means "Group" names (.groups names)
  | keywords {values : List String} {ks : List Keyword} (paired : values.length % 2 = 0)
      (read : readKeywords values = .ok ks) : Means "Keyword" values (.keywords ks)
  | unknown {key : String} (unknown : key ∉ keys) (values : List String) :
      Means key values (.unknown key)

theorem single_eq_ok {key text : String} {values : List String} :
    single key values = .ok text ↔ values = [text] := by
  unfold single
  split
  · simp
  · rename_i other
    simp only [reduceCtorEq, false_iff]
    exact other text

theorem key_of_setOfKey? {key : String} {name : SetName} (found : setOfKey? key = some name) :
    name.key = key :=
  of_decide_eq_true (List.find?_some (p := fun name : SetName => name.key = key) found)

theorem setOfKey?_eq_none {key : String} (unknown : key ∉ keys) : setOfKey? key = none := by
  cases found : setOfKey? key with
  | none => rfl
  | some name =>
    have known : name.key ∈ keys := by cases name <;> decide
    exact absurd (key_of_setOfKey? found ▸ known) unknown

theorem ofValues_eq_ok_iff {n : Nat} {key : String} {values : List String} {entry : Entry} :
    Entry.ofValues n key values = .ok entry ↔ Means key values entry := by
  constructor
  · intro read
    unfold Entry.ofValues at read
    split at read
    · obtain ⟨text, one, checked⟩ := bind_eq_ok.mp read
      obtain rfl := single_eq_ok.mp (mapError_eq_ok.mp one)
      split at checked
      · cases checked
      · rename_i found number
        split at checked
        · cases checked
        · cases checked
          exact .version number (by omega)
    · obtain ⟨text, one, same⟩ := bind_eq_ok.mp read
      obtain rfl := single_eq_ok.mp (mapError_eq_ok.mp one)
      cases same
      exact .name text
    · cases read
      exact .extensions values
    · obtain ⟨mark, one, same⟩ := bind_eq_ok.mp read
      obtain rfl := single_eq_ok.mp (mapError_eq_ok.mp one)
      cases same
      exact .lineComment mark
    · split at read
      · cases read
        exact .blockComment _ _
      · cases read
    · split at read
      · obtain ⟨opening, opens, further⟩ := bind_eq_ok.mp read
        obtain ⟨escape, escapes, further⟩ := bind_eq_ok.mp further
        obtain ⟨closing, closes, same⟩ := bind_eq_ok.mp further
        cases same
        exact .delimiter _ opens escapes closes
      · cases read
    · cases read
      exact .groups values
    · split at read
      · rename_i paired
        obtain ⟨ks, listed, same⟩ := bind_eq_ok.mp read
        cases same
        exact .keywords paired (mapError_eq_ok.mp listed)
      · cases read
    · split at read
      · rename_i name found
        obtain ⟨text, one, same⟩ := bind_eq_ok.mp read
        obtain rfl := single_eq_ok.mp (mapError_eq_ok.mp one)
        cases same
        rw [← key_of_setOfKey? found]
        exact .charSet name text
      · rename_i unset
        cases read
        refine .unknown (fun known => ?_) values
        simp only [keys, List.mem_cons, List.not_mem_nil, or_false] at known
        rcases known with
          rfl | rfl | rfl | rfl | rfl | rfl | rfl | rfl | rfl | rfl | rfl | rfl | rfl <;>
          contradiction
  · intro means
    cases means with
    | version number supported =>
      simp [Entry.ofValues, single, number, Nat.not_lt.mpr supported, bind, Except.bind, pure,
        Except.pure]
    | name text => rfl
    | extensions => rfl
    | lineComment mark => rfl
    | blockComment opening closing => rfl
    | delimiter label opens escapes closes =>
      simp [Entry.ofValues, opens, escapes, closes, bind, Except.bind, pure, Except.pure]
    | charSet name text =>
      cases name <;> rfl
    | groups => rfl
    | keywords paired read =>
      simp [Entry.ofValues, paired, read, bind, Except.bind, pure, Except.pure]
    | unknown unknown =>
      unfold Entry.ofValues
      split
      case h_9 => rw [setOfKey?_eq_none unknown]; rfl
      all_goals exact absurd (by decide) unknown

/-- What a line says, if it says anything. -/
inductive Reads (raw : List Char) : Option Entry → Prop
  | blank (nothing : Text.trim raw = []) : Reads raw none
  | comment (marked : (Text.trim raw).head? = some ';') : Reads raw none
  | entry {key rest : List Char} {values : List String} {entry : Entry}
      (uncommented : (Text.trim raw).head? ≠ some ';')
      (cut : Text.cut? '=' (Text.trim raw) = some (key, rest)) (formed : split rest = .ok values)
      (means : Means (String.ofList (Text.trim key)) values entry) : Reads raw (some entry)

theorem ofLine_eq_ok_iff {n : Nat} {raw : List Char} {said : Option Entry} :
    Entry.ofLine n raw = .ok said ↔ Reads raw said := by
  constructor
  · intro read
    unfold Entry.ofLine at read
    dsimp only at read
    split at read
    · rename_i silent
      cases read
      rw [Bool.or_eq_true, List.isEmpty_iff, decide_eq_true_eq] at silent
      exact silent.elim .blank .comment
    · rename_i speaking
      rw [Bool.or_eq_true, decide_eq_true_eq, not_or] at speaking
      split at read
      · cases read
      · rename_i cut
        split at read
        · cases read
        · rename_i formed
          obtain ⟨entry, given, same⟩ := map_eq_ok.mp read
          cases same
          exact .entry speaking.2 cut formed (ofValues_eq_ok_iff.mp given)
  · intro reads
    cases reads with
    | blank nothing => simp [Entry.ofLine, nothing]
    | comment marked => simp [Entry.ofLine, marked]
    | @entry key rest values entry uncommented cut formed means =>
      have given := ofValues_eq_ok_iff (n := n).mpr means
      have filled : Text.trim raw ≠ [] := by
        intro nothing
        rw [nothing] at cut
        cases cut
      simp only [Entry.ofLine, List.isEmpty_iff, filled, uncommented, cut, formed, given,
        decide_false, Bool.or_false, if_false]
      rfl

theorem error_of_atLine {α : Type} {n : Nat} {read : Except LineFault α} :
    ∀ error : LanguageError, read.mapError (.invalidLine n) = .error error → error.OfLine n := by
  intro error fails
  cases read with
  | ok a => cases fails
  | error fault =>
    cases fails
    exact .invalidLine fault

theorem error_of_char {n : Nat} {part : DelimiterPart} {text : String} :
    ∀ error, part.char text = .error error → error.OfLine n :=
  fun _ fails => DelimiterPart.char_eq_error fails ▸ .notOneCharacter part text

theorem error_of_escapeChar {n : Nat} {text : String} :
    ∀ error, DelimiterPart.escapeChar text = .error error → error.OfLine n :=
  fun _ fails => DelimiterPart.escapeChar_eq_error fails ▸ .notOneCharacter .escape text

theorem error_of_ofValues {n : Nat} {key : String} {values : List String} :
    ∀ error, Entry.ofValues n key values = .error error → error.OfLine n := by
  unfold Entry.ofValues
  have refused : ∀ (fault : LineFault) (error : LanguageError),
      (throw (.invalidLine n fault) : Except LanguageError Entry) = .error error →
        error.OfLine n := by
    intro fault error fails
    cases fails
    exact .invalidLine fault
  have given : ∀ (entry : Entry) (error : LanguageError),
      (pure entry : Except LanguageError Entry) = .error error → error.OfLine n :=
    fun _ _ fails => nomatch fails
  split
  · refine error_of_bind error_of_atLine fun text => ?_
    split
    · exact refused _
    · split
      · intro error fails
        cases fails
        exact .unsupportedVersion _
      · exact given _
  · exact error_of_bind error_of_atLine fun _ => given _
  · exact given _
  · exact error_of_bind error_of_atLine fun _ => given _
  · split
    · exact given _
    · exact refused _
  · split
    · exact error_of_bind error_of_char fun opening => error_of_bind error_of_escapeChar
        fun escape => error_of_bind error_of_char fun closing => given _
    · exact refused _
  · exact given _
  · split
    · exact error_of_bind error_of_atLine fun _ => given _
    · exact refused _
  · split
    · exact error_of_bind error_of_atLine fun _ => given _
    · exact given _

/-- What is wrong with a line is found under the number of this line. -/
theorem error_of_ofLine {n : Nat} {raw : List Char} :
    ∀ error, Entry.ofLine n raw = .error error → error.OfLine n := by
  intro error fails
  unfold Entry.ofLine at fails
  dsimp only at fails
  split at fails
  · cases fails
  split at fails
  · cases fails
    exact .invalidLine _
  split at fails
  · cases fails
    exact .invalidLine _
  · exact error_of_ofValues error (map_eq_error.mp fails)

end Compiled
end Highlighter
