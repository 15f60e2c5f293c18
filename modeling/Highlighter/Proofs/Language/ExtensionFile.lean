import Highlighter.Language.ExtensionFile
import Highlighter.Proofs.Json.Parser
import Highlighter.Proofs.Language.ExtensionMap

/-! A written extension map is read back as the same map, in the same order: its file is an object
whose keys are all different. -/
namespace Highlighter

namespace ExtensionMap
open Json

/-- A member of a map, as the reader returns it. -/
def textMember (entry : String × String) : Option String × Value :=
  (some entry.1, .string (some entry.2))

theorem members?_memberText (fuel : Nat) (entry : String × String) {lead : List Char}
    (blank : lead.all isSpace = true) (tail : List Char) :
    members? (fuel + 2) (lead ++ (memberText entry).toList ++ tail) =
      membersAfter (fuel + 1) (textMember entry) tail := by
  have indent : "    ".toList.all isSpace = true := by decide
  have indented : (lead ++ "    ".toList).all isSpace = true := by
    rw [List.all_append, blank, indent, Bool.and_self]
  have single : [' '].all isSpace = true := by decide
  have reads := value?_quoted fuel single entry.2 tail
  have text : lead ++ (memberText entry).toList ++ tail = lead ++ "    ".toList ++
      (quote entry.1).toList ++ ':' :: ([' '] ++ (quote entry.2).toList ++ tail) := by
    simp [memberText]
  rw [text]
  exact members?_member entry.1 indented reads

/-- One unit of fuel is enough for each member, and one for its value. -/
theorem members?_texts {fuel : Nat} {lead tail rest : List Char} (entry : String × String)
    (more : List (String × String)) (enough : more.length + 1 < fuel)
    (blank : lead.all isSpace = true) (closed : skipSpaces tail = '\x7d' :: rest) :
    members? fuel (lead ++ (",\n".intercalate ((entry :: more).map memberText)).toList ++ tail) =
      some ((entry :: more).map textMember, rest) := by
  induction more generalizing entry fuel lead with
  | nil =>
    obtain ⟨fuel, rfl⟩ : ∃ n, fuel = n + 2 := ⟨fuel - 2, by omega⟩
    rw [List.map_singleton, String.intercalate_singleton, members?_memberText fuel entry blank,
      membersAfter_brace closed]
    rfl
  | cons next more ih =>
    rw [List.length_cons] at enough
    obtain ⟨fuel, rfl⟩ : ∃ n, fuel = n + 2 := ⟨fuel - 2, by omega⟩
    have newline : ['\n'].all isSpace = true := by decide
    have shorter : more.length + 1 < fuel + 1 := by omega
    have following := ih next shorter newline
    have text : lead ++ (",\n".intercalate ((entry :: next :: more).map memberText)).toList ++
          tail = lead ++ (memberText entry).toList ++ ',' :: (['\n'] ++
            (",\n".intercalate ((next :: more).map memberText)).toList ++ tail) := by
      rw [List.map_cons, List.map_cons, String.intercalate_cons_cons]
      simp
    rw [text, members?_memberText fuel entry blank, membersAfter_comma, following]
    rfl

/-- The members of a map with their braces. -/
def objectText (m : ExtensionMap) : List Char :=
  if m.isEmpty then ['\x7b', '\x7d']
  else '\x7b' :: ("\n".toList ++ (",\n".intercalate (m.entries.map memberText)).toList ++
    "\n  \x7d".toList)

theorem value?_objectText {fuel : Nat} (m : ExtensionMap) (enough : m.entries.length + 1 < fuel)
    (rest : List Char) : value? fuel ([' '] ++ m.objectText ++ rest) =
      some (.object (m.entries.map textMember), rest) := by
  obtain ⟨fuel, rfl⟩ : ∃ n, fuel = n + 1 := ⟨fuel - 1, by omega⟩
  have space : [' '].all isSpace = true := by decide
  have newline : "\n".toList.all isSpace = true := by decide
  obtain ⟨entries⟩ := m
  cases entries with
  | nil => rfl
  | cons entry more =>
    have closed : skipSpaces ("\n  \x7d".toList ++ rest) = '\x7d' :: rest := rfl
    have few : more.length + 1 < fuel := Nat.lt_of_succ_lt_succ enough
    have object := value?_object space (members?_texts entry more few newline closed)
    have text : [' '] ++ objectText ⟨entry :: more⟩ ++ rest = [' '] ++ '\x7b' :: ("\n".toList ++
        (",\n".intercalate ((entry :: more).map memberText)).toList ++
          ("\n  \x7d".toList ++ rest)) := by
      simp [objectText, isEmpty]
    rw [text]
    exact object

/-- A map is written with a character at least for each entry, so the fuel lasts. -/
theorem length_le_members (entries : List (String × String)) :
    entries.length ≤ (",\n".intercalate (entries.map memberText)).toList.length := by
  have filled : ∀ entry, 0 < (memberText entry).toList.length := by
    intro entry
    simp [memberText]
  induction entries with
  | nil => exact Nat.zero_le _
  | cons entry more ih =>
    cases more with
    | nil =>
      rw [List.map_singleton, String.intercalate_singleton]
      exact filled entry
    | cons next more =>
      rw [List.map_cons, List.map_cons, String.intercalate_cons_cons]
      rw [List.map_cons] at ih
      simp only [String.toList_append, List.length_append, List.length_cons] at ih ⊢
      have first := filled entry
      omega

theorem length_le_objectText (m : ExtensionMap) : m.entries.length ≤ m.objectText.length := by
  obtain ⟨entries⟩ := m
  cases entries with
  | nil => exact Nat.zero_le _
  | cons entry more =>
    have bound := length_le_members (entry :: more)
    simp only [objectText, isEmpty, List.isEmpty_cons, Bool.false_eq_true, if_false,
      List.length_append, List.length_cons] at bound ⊢
    omega

/-- What is written after the version. -/
def extensionsText (m : ExtensionMap) : List Char :=
  "\n  ".toList ++ (quote "extensions").toList ++ ':' :: ([' '] ++ m.objectText ++ "\n\x7d".toList)

theorem members?_extensionsText {fuel : Nat} (m : ExtensionMap)
    (enough : m.entries.length + 1 < fuel) : members? (fuel + 1) m.extensionsText =
      some ([(some "extensions", .object (m.entries.map textMember))], []) := by
  have newline : "\n  ".toList.all isSpace = true := by decide
  have closed : skipSpaces "\n\x7d".toList = ['\x7d'] := by decide
  have object := value?_objectText m enough "\n\x7d".toList
  rw [extensionsText, members?_member "extensions" newline object, membersAfter_brace closed]

theorem value?_version (fuel : Nat) (rest : List Char) :
    value? (fuel + 1) (" 1".toList ++ ',' :: rest) = some (.number ['1'], ',' :: rest) := by
  simp [value?, skipSpaces, isSpace, afterNumber?, digits?]

theorem toList_render (m : ExtensionMap) : m.render.toList = '\x7b' :: ("\n  ".toList ++
    (quote "version").toList ++ ':' :: (" 1".toList ++ ',' :: m.extensionsText)) := by
  have body : (if m.isEmpty then "\x7b\x7d" else String.join ["\x7b\n",
      ",\n".intercalate (m.entries.map memberText), "\n  \x7d"]).toList = m.objectText := by
    unfold objectText
    split <;> simp
  rw [render, String.toList_join]
  simp only [List.flatMap_cons, List.flatMap_nil, body]
  have first : (quote "version").toList = "\x22version\x22".toList := by decide +kernel
  have second : (quote "extensions").toList = "\x22extensions\x22".toList := by decide +kernel
  have version : toString formatVersion = "1" := rfl
  rw [extensionsText, first, second, version]
  simp

/-- The text of a map, read as JSON. -/
theorem parse?_render (m : ExtensionMap) : parse? m.render =
    some (.object [(some "version", .number ['1']),
      (some "extensions", .object (m.entries.map textMember))]) := by
  have newline : "\n  ".toList.all isSpace = true := by decide
  have few : m.entries.length + 2 ≤ m.render.length := by
    have bound := length_le_objectText m
    rw [← String.length_toList, toList_render, extensionsText]
    simp only [List.length_append, List.length_cons]
    omega
  obtain ⟨fuel, fueled⟩ : ∃ n, 2 * m.render.length + 2 = n + 3 :=
    ⟨2 * m.render.length - 1, by omega⟩
  have enough : m.entries.length + 1 < fuel := by omega
  have members := members?_member "version" newline (value?_version fuel m.extensionsText)
  rw [membersAfter_comma, members?_extensionsText m enough, Option.map_some] at members
  have object := value?_object List.all_nil members
  rw [List.nil_append] at object
  rw [parse?, fueled, toList_render, object]
  rfl

theorem assign_new {entries : List (String × String)} {key : String}
    (new : key ∉ entries.map Prod.fst) (value : String) :
    assign entries key value = entries ++ [(key, value)] := by
  simp [assign, Entries.lookup_eq_none_iff.mpr new]

/-- Entries with keys of their own are assigned one after the other. -/
theorem foldl_assign {before entries : List (String × String)}
    (distinct : ((before ++ entries).map Prod.fst).Nodup) :
    entries.foldl (fun entries entry => assign entries entry.1 entry.2) before =
      before ++ entries := by
  induction entries generalizing before with
  | nil => simp
  | cons entry more ih =>
    have new : entry.1 ∉ before.map Prod.fst := by
      rw [List.map_append, List.map_cons, List.nodup_middle, List.nodup_cons] at distinct
      exact fun member => distinct.1 (List.mem_append_left _ member)
    have whole : before ++ entry :: more = before ++ [entry] ++ more := List.append_cons ..
    rw [List.foldl_cons, assign_new new, whole]
    exact ih (whole ▸ distinct)

theorem entries?_textMember {entries : List (String × String)}
    (distinct : (entries.map Prod.fst).Nodup) :
    entries? (.object (entries.map textMember)) = some entries := by
  have assigned : entries? (.object (entries.map textMember)) =
      some (entries.foldl (fun entries entry => assign entries entry.1 entry.2) []) := by
    rw [entries?, List.foldlM_map]
    exact List.foldlM_pure
  rw [assigned]
  exact congrArg some (foldl_assign distinct)

/-- A written map is read back. -/
theorem parse_render {m : ExtensionMap} (distinct : m.Distinct) :
    parse m.render = .ok m := by
  have version : version? (.number ['1']) = some formatVersion := by decide +kernel
  rw [parse, parse?_render]
  have fields : fields? (.object [(some "version", .number ['1']),
      (some "extensions", .object (m.entries.map textMember))]) =
        some (formatVersion, m.entries) := by
    simp [fields?, member?, version, entries?_textMember distinct]
  rw [Option.bind_some, fields]
  simp

end ExtensionMap
end Highlighter
