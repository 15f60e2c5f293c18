import Highlighter.Proofs.Compiled.Entries
import Highlighter.Proofs.Text.Lines

/-! Reading a compiled text line by line. The lines are read in order, and the first that cannot be
read is what the text fails with, under its number; what the other lines say is put together only
when all of them can be read. So an error that names a line depends on nothing after this line. -/
namespace Highlighter.Compiled
open Result

/-- What each of some lines says, the first of which has number 1. -/
def results (ls : List (List Char)) : List (Except LanguageError (Option Entry)) :=
  ls.mapIdx fun i raw => Entry.ofLine (i + 1) raw

/-- Whether a line can be read, wherever it stands. -/
def isReadable (raw : List Char) : Bool := (Entry.ofLine 0 raw).isOk

/-- What a line that can be read says. -/
def said? (raw : List Char) : Option Entry := (Entry.ofLine 0 raw).toOption.join

theorem Reads.isReadable {raw : List Char} {said : Option Entry} (reads : Reads raw said) :
    isReadable raw = true := by
  rw [Compiled.isReadable, ofLine_eq_ok_iff.mpr reads]
  rfl

theorem Reads.said? {raw : List Char} {said : Option Entry} (reads : Reads raw said) :
    said? raw = said := by
  rw [Compiled.said?, ofLine_eq_ok_iff.mpr reads]
  rfl

theorem reads_of_isReadable {raw : List Char} (readable : isReadable raw = true) :
    Reads raw (said? raw) := by
  obtain ⟨said, read⟩ := eq_ok_of_isOk readable
  have reads := ofLine_eq_ok_iff.mp read
  exact reads.said?.symm ▸ reads

theorem error_of_not_isReadable {raw : List Char} (unreadable : isReadable raw = false) (n : Nat) :
    ∃ error, Entry.ofLine n raw = .error error := by
  cases read : Entry.ofLine n raw with
  | error error => exact ⟨error, rfl⟩
  | ok said =>
    rw [(ofLine_eq_ok_iff.mp read).isReadable] at unreadable
    cases unreadable

/-- A line says the same when only blanks around it differ. -/
theorem ofLine_congr {a b : List Char} (same : Text.trim a = Text.trim b) (n : Nat) :
    Entry.ofLine n a = Entry.ofLine n b := by
  unfold Entry.ofLine
  rw [same]

theorem results_congr {as bs : List (List Char)} (same : as.map Text.trim = bs.map Text.trim) :
    results as = results bs := by
  have length : as.length = bs.length := by simpa using congrArg List.length same
  refine List.ext_getElem (by simpa [results] using length) fun i before after => ?_
  simp only [results, List.length_mapIdx] at before after
  have line := List.getElem_of_eq same (by simpa using before)
  simp only [List.getElem_map] at line
  simp only [results, List.getElem_mapIdx]
  exact ofLine_congr line (i + 1)

/-- The pieces between line feeds say what the lines say, up to an empty piece at the end. -/
theorem readLines_eq (text : String) : readLines text = results (Text.lines text) ∨
    readLines text = results (Text.lines text) ++ [.ok none] := by
  have pieces : readLines text = results (Text.splitAt '\n' text.toList) := rfl
  have empty : Text.trim [] = [] := by decide
  rw [pieces]
  rcases Text.map_trim_linesOf (Text.splitAt '\n' text.toList) with same | more
  · exact .inl (results_congr same)
  · have extended : (Text.splitAt '\n' text.toList).map Text.trim =
        (Text.lines text ++ [[]]).map Text.trim := by
      rw [more, List.map_append, List.map_singleton, empty]
      rfl
    refine .inr ((results_congr extended).trans ?_)
    rw [results, List.mapIdx_append, List.mapIdx_singleton]
    simp [results, Entry.ofLine, empty]

theorem results_of_readable {ls : List (List Char)} (readable : ∀ raw ∈ ls, isReadable raw = true) :
    results ls = (ls.map said?).map .ok := by
  refine List.ext_getElem (by simp [results]) fun i before after => ?_
  simp only [results, List.getElem_mapIdx, List.getElem_map]
  exact ofLine_eq_ok_iff.mpr (reads_of_isReadable (readable _ (List.getElem_mem _)))

/-- A text whose lines can all be read is what their entries give. -/
theorem parse_of_readable {text : String}
    (readable : ∀ raw ∈ Text.lines text, isReadable raw = true) :
    parse text = ofEntries ((Text.lines text).filterMap said?) := by
  have said : ∃ rest : List (Option Entry), rest.filterMap id = [] ∧
      readLines text = ((Text.lines text).map said? ++ rest).map .ok := by
    rcases readLines_eq text with whole | more
    · exact ⟨[], rfl, by rw [whole, results_of_readable readable, List.append_nil]⟩
    · exact ⟨[none], rfl, by rw [more, results_of_readable readable, List.map_append]; rfl⟩
  obtain ⟨rest, silent, whole⟩ := said
  have spoken : ((Text.lines text).map said? ++ rest).filterMap id =
      (Text.lines text).filterMap said? := by
    rw [List.filterMap_append, silent, List.append_nil, List.filterMap_map]
    rfl
  rw [parse, mapM_id_eq_ok.mpr whole, ← spoken]
  rfl

/-- The first line that cannot be read, after those before it, and what is wrong with it. -/
structure FirstFault (ls before : List (List Char)) (error : LanguageError) : Prop where
  readable : ∀ raw ∈ before, isReadable raw = true
  at_line : ∃ raw after, ls = before ++ raw :: after ∧
    Entry.ofLine (before.length + 1) raw = .error error

theorem parse_of_firstFault {text : String} {before : List (List Char)} {error : LanguageError}
    (first : FirstFault (Text.lines text) before error) : parse text = .error error := by
  obtain ⟨raw, after, whole, fails⟩ := first.at_line
  have front : ∃ rest, results (Text.lines text) =
      (before.map said?).map .ok ++ .error error :: rest := by
    rw [whole, results, List.mapIdx_append, List.mapIdx_cons, ← results,
      results_of_readable first.readable, Nat.zero_add, fails]
    exact ⟨_, rfl⟩
  obtain ⟨rest, front⟩ := front
  rw [parse]
  rcases readLines_eq text with same | more
  · rw [same, front, mapM_id_error]
    rfl
  · rw [more, front, List.append_assoc, List.cons_append, mapM_id_error]
    rfl

/-- All lines can be read, or there is a first one that cannot. -/
theorem readable_or_firstFault (ls : List (List Char)) :
    (∀ raw ∈ ls, isReadable raw = true) ∨ ∃ before error, FirstFault ls before error := by
  cases found : ls.find? (!isReadable ·) with
  | none =>
    refine .inl fun raw member => ?_
    simpa using List.find?_eq_none.mp found raw member
  | some raw =>
    obtain ⟨unreadable, before, after, whole, readable⟩ := List.find?_eq_some_iff_append.mp found
    simp only [Bool.not_eq_true', Bool.not_not] at unreadable readable
    obtain ⟨error, fails⟩ := error_of_not_isReadable unreadable (before.length + 1)
    exact .inr ⟨before, error, readable, raw, after, whole, fails⟩

theorem error_of_clash? {entries : List Entry} {k : Keyword} {error : LanguageError} {n : Nat}
    (clashes : clash? entries k = some error) : ¬ error.OfLine n := by
  unfold clash? at clashes
  split at clashes
  · cases clashes
  · obtain ⟨_, _, fails⟩ := List.exists_of_findSome?_eq_some clashes
    obtain ⟨_, _, rfl⟩ := Option.map_eq_some_iff.mp fails
    intro line
    cases line

/-- What is found only when the whole text has been read names no line. -/
theorem error_of_ofEntries {entries : List Entry} {n : Nat} {error : LanguageError}
    (fails : ofEntries entries = .error error) : ¬ error.OfLine n := by
  unfold ofEntries at fails
  split at fails
  · dsimp only at fails
    split at fails
    · cases fails
      exact fun line => nomatch line
    · split at fails
      · rename_i clash
        obtain ⟨k, _, clashes⟩ := List.exists_of_findSome?_eq_some clash
        cases fails
        exact error_of_clash? clashes
      · cases fails
  · cases fails
    exact fun line => nomatch line

/-- A text that fails with an error of a line has a first line that cannot be read. -/
theorem firstFault_of_parse {text : String} {error : LanguageError} {n : Nat}
    (fails : parse text = .error error) (line : error.OfLine n) :
    ∃ before, FirstFault (Text.lines text) before error := by
  rcases readable_or_firstFault (Text.lines text) with readable | ⟨before, other, first⟩
  · rw [parse_of_readable readable] at fails
    exact absurd line (error_of_ofEntries fails)
  · rw [parse_of_firstFault first] at fails
    exact ⟨before, Except.error.inj fails ▸ first⟩

theorem FirstFault.ofLine {ls before : List (List Char)} {error : LanguageError}
    (first : FirstFault ls before error) : error.OfLine (before.length + 1) := by
  obtain ⟨_, _, _, fails⟩ := first.at_line
  exact error_of_ofLine error fails

/-- Of other lines that begin with the same ones up to this line it is the first fault as well. -/
theorem FirstFault.of_take {ls others before : List (List Char)} {error : LanguageError}
    (first : FirstFault ls before error)
    (same : others.take (before.length + 1) = ls.take (before.length + 1)) :
    FirstFault others before error := by
  obtain ⟨raw, after, rfl, fails⟩ := first.at_line
  have front : (before ++ raw :: after).take (before.length + 1) = before ++ [raw] := by
    rw [List.take_length_add_append]
    rfl
  refine ⟨first.readable, raw, others.drop (before.length + 1), ?_, fails⟩
  calc others = others.take (before.length + 1) ++ others.drop (before.length + 1) :=
        (List.take_append_drop _ _).symm
    _ = before ++ raw :: others.drop (before.length + 1) := by
        rw [same, front, List.append_assoc, List.singleton_append]

/-- An error that names a line names the first one that is wrong: there is this line, the lines
before it alone are free of such errors, and what comes after it makes no difference. -/
theorem errors_name_first_bad_line {text : String} {n : Nat} {fault : LineFault}
    (fails : parse text = .error (.invalidLine n fault)) :
    1 ≤ n ∧ n ≤ (Text.lines text).length ∧
    (∃ front, Text.lines front = (Text.lines text).take (n - 1)) ∧
    (∀ front, Text.lines front = (Text.lines text).take (n - 1) →
      ∀ error m, parse front = .error error → ¬ error.OfLine m) ∧
    ∀ other, (Text.lines other).take n = (Text.lines text).take n →
      parse other = .error (.invalidLine n fault) := by
  obtain ⟨before, first⟩ := firstFault_of_parse fails (.invalidLine fault)
  have number : n = before.length + 1 := by
    cases first.ofLine
    rfl
  obtain ⟨raw, after, whole, _⟩ := first.at_line
  subst number
  refine ⟨Nat.le_add_left 1 _, ?_, ?_, fun front same error m => ?_, fun other same => ?_⟩
  · rw [whole, List.length_append, List.length_cons]
    omega
  · exact Text.exists_lines_eq fun raw member =>
      Text.newline_not_mem_lines text raw (List.mem_of_mem_take member)
  · have lines : Text.lines front = before := by
      rw [same, whole, Nat.add_sub_cancel, List.take_left]
    rw [parse_of_readable (lines ▸ first.readable)]
    exact error_of_ofEntries
  · exact parse_of_firstFault (first.of_take same)

/-- A text whose fourth line is the first that is wrong, and not the only one. -/
def faulty : String := "; header\r\n\nName = X\nKeyword = if 0 else\nName = \"open"

theorem fourth_line_without_group :
    parse faulty = .error (.invalidLine 4 .keywordWithoutGroup) ∧
    Text.lines "; header\n\r\nName = X" = (Text.lines faulty).take (4 - 1) ∧
    (∀ error m, parse "; header\n\r\nName = X" = .error error → ¬ error.OfLine m) ∧
    parse "; header\n\nName = X\r\nKeyword = if 0 else" =
      .error (.invalidLine 4 .keywordWithoutGroup) := by
  have fails : parse faulty = .error (.invalidLine 4 .keywordWithoutGroup) := by decide +kernel
  have front : Text.lines "; header\n\r\nName = X" = (Text.lines faulty).take (4 - 1) := by
    decide +kernel
  obtain ⟨_, _, _, before, same⟩ := errors_name_first_bad_line fails
  exact ⟨fails, front, before _ front, same _ (by decide +kernel)⟩

end Highlighter.Compiled
