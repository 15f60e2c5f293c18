import Highlighter.Language.Compiled.Values
import Highlighter.Proofs.Text.Number
import Mathlib.Data.List.Forall2

/-! Written values are read back. Quotes protect every character, so a quoted value ends where it
was ended; a bare value holds neither blanks nor quotes, so it ends at the next blank. Neither form
holds a control character, so values with spaces between them stand on one line. -/
namespace Highlighter.Compiled

theorem charOfDigits_hexDigits (c : Char) : charOfDigits (Text.hexDigits c.toNat) = .ok c := by
  have nonempty := Text.hexDigits_ne_nil c.toNat
  have valid : c.toNat.isValidChar := c.valid
  simp [charOfDigits, nonempty, Text.hexValue?_hexDigits, Text.charOfCode?, valid, Char.ofNat_toNat]

/-- Reading goes through the digits of a code point, as long as they are not too many. -/
theorem splitFrom_digits {digits : List Char} (done before rest : List Char)
    (hex : ∀ c ∈ digits, (Text.hexDigit? c).isSome)
    (few : before.length + digits.length ≤ maxCodeDigits) :
    splitFrom (.code done before) (digits ++ rest) =
      splitFrom (.code done (digits.reverse ++ before)) rest := by
  induction digits generalizing before with
  | nil => rfl
  | cons c digits ih =>
    have digit := hex c List.mem_cons_self
    have inside : c ≠ '\x7d' := by
      rintro rfl
      exact absurd digit (by decide)
    simp only [List.length_cons] at few
    have room : before.length < maxCodeDigits := by omega
    have fewer : (c :: before).length + digits.length ≤ maxCodeDigits := by
      rw [List.length_cons]
      omega
    have following := ih (c :: before)
      (fun d member => hex d (List.mem_cons_of_mem _ member)) fewer
    simpa [splitFrom, inside, digit, room] using following

theorem splitFrom_codeEscape (c : Char) (done rest : List Char) :
    splitFrom (.quoted done) (Text.codeEscape c ++ rest) = splitFrom (.quoted (c :: done)) rest := by
  have few : ([] : List Char).length + (Text.hexDigits c.toNat).length ≤ maxCodeDigits := by
    simpa [maxCodeDigits] using Text.length_hexDigits_toNat c
  have digits := splitFrom_digits done [] ('\x7d' :: rest)
    (fun d => Text.isHexDigit_of_mem_hexDigits) few
  have closing : splitFrom (.code done (Text.hexDigits c.toNat).reverse) ('\x7d' :: rest) =
      splitFrom (.quoted (c :: done)) rest := by
    simp [splitFrom, charOfDigits_hexDigits, bind, Except.bind]
  rw [List.append_nil, closing] at digits
  simpa [Text.codeEscape, splitFrom] using digits

/-- How a character stands inside quotes. -/
inductive Escapes (c : Char) : List Char → Prop
  | letter {letter : Char} (stands : escapeOf? letter = some c) : Escapes c ['\\', letter]
  | code : Escapes c (Text.codeEscape c)
  | itself (unescaped : c ≠ '\\') (unquoted : c ≠ '\x22') (plain : Text.isControl c = false) :
    Escapes c [c]

theorem escapes_escaped (c : Char) : Escapes c (escaped c) := by
  unfold escaped
  split
  · rename_i special
    exact .letter (if_pos special)
  · rename_i common
    simp only [Bool.or_eq_true, decide_eq_true_eq, not_or] at common
    split
    · rename_i newline
      exact .letter (newline ▸ by decide)
    split
    · rename_i carriageReturn
      exact .letter (carriageReturn ▸ by decide)
    split
    · rename_i tab
      exact .letter (tab ▸ by decide)
    split
    · exact .code
    · rename_i visible
      exact .itself common.1 common.2 (Bool.eq_false_iff.mpr visible)

/-- The letters of escapes are few. -/
theorem mem_of_escapeOf? {letter c : Char} (stands : escapeOf? letter = some c) :
    letter ∈ ['\\', '\x22', 'n', 'r', 't'] := by
  unfold escapeOf? at stands
  simp only [List.mem_cons]
  split at stands
  · rename_i special
    simp only [Bool.or_eq_true, decide_eq_true_eq] at special
    tauto
  · split at stands
    · tauto
    split at stands
    · tauto
    split at stands
    · tauto
    · cases stands

/-- A character inside quotes is read as itself. -/
theorem Escapes.splitFrom {c : Char} {cs : List Char} (escapes : Escapes c cs)
    (done rest : List Char) :
    Compiled.splitFrom (.quoted done) (cs ++ rest) =
      Compiled.splitFrom (.quoted (c :: done)) rest := by
  cases escapes with
  | @letter letter stands =>
    have other : letter ≠ 'u' := by
      rintro rfl
      cases stands
    simp [Compiled.splitFrom, stands, other]
  | code => exact splitFrom_codeEscape c done rest
  | itself unescaped unquoted plain => simp [Compiled.splitFrom, unescaped, unquoted]

theorem splitFrom_body (body done rest : List Char) :
    splitFrom (.quoted done) (body.flatMap escaped ++ rest) =
      splitFrom (.quoted (body.reverse ++ done)) rest := by
  induction body generalizing done with
  | nil => rfl
  | cons c body ih =>
    rw [List.flatMap_cons, List.append_assoc, (escapes_escaped c).splitFrom, ih]
    simp

theorem splitFrom_quote (text : String) (rest : List Char) :
    splitFrom .between ((quote text).toList ++ rest) =
      (text :: ·) <$> splitFrom .between rest := by
  have body := splitFrom_body text.toList [] ('\x22' :: rest)
  have notBlank : Text.isBlank '\x22' = false := by decide
  simpa [quote, splitFrom, notBlank] using body

/-- A character of a bare value. -/
def isBareChar (c : Char) : Bool := !(Text.isBlank c || Text.isControl c || c = '\x22')

theorem isBareChar_iff {c : Char} : isBareChar c = true ↔
    Text.isBlank c = false ∧ Text.isControl c = false ∧ c ≠ '\x22' := by
  simp [isBareChar, and_assoc]

theorem splitFrom_bareChars {body : List Char} (done rest : List Char)
    (bare : ∀ c ∈ body, isBareChar c) :
    splitFrom (.bare done) (body ++ rest) = splitFrom (.bare (body.reverse ++ done)) rest := by
  induction body generalizing done with
  | nil => rfl
  | cons c body ih =>
    obtain ⟨solid, _, unquoted⟩ := isBareChar_iff.mp (bare c List.mem_cons_self)
    have following := ih (c :: done) fun d member => bare d (List.mem_cons_of_mem _ member)
    simpa [splitFrom, solid, unquoted] using following

theorem isBare_iff {text : String} :
    isBare text = true ↔ text.toList ≠ [] ∧ ∀ c ∈ text.toList, isBareChar c := by
  simp [isBare, isBareChar]

/-- A bare value ends at a blank or at the end of the line. -/
theorem splitFrom_bare {text : String} {rest : List Char} (bare : isBare text = true)
    (ended : ∀ c, rest.head? = some c → Text.isBlank c = true) :
    splitFrom .between (text.toList ++ rest) = (text :: ·) <$> splitFrom .between rest := by
  obtain ⟨nonempty, chars⟩ := isBare_iff.mp bare
  cases spelled : text.toList with
  | nil => exact absurd spelled nonempty
  | cons c body =>
    rw [spelled] at chars
    obtain ⟨solid, _, unquoted⟩ := isBareChar_iff.mp (chars c List.mem_cons_self)
    have read := splitFrom_bareChars [c] rest
      fun d member => chars d (List.mem_cons_of_mem _ member)
    have whole : String.ofList (body.reverse ++ [c]).reverse = text := by
      simp [← spelled]
    have start :
        splitFrom .between ((c :: body) ++ rest) = splitFrom (.bare [c]) (body ++ rest) := by
      simp [splitFrom, solid, unquoted]
    rw [start, read]
    cases rest with
    | nil =>
      simp only [splitFrom, whole]
      rfl
    | cons d rest => simp only [splitFrom, ended d rfl, if_true, whole]

/-- The written forms of a value: in quotes always, and bare when it can stand so. -/
inductive Shows (text : String) : String → Prop where
  | quoted : Shows text (quote text)
  | bare : isBare text = true → Shows text text

theorem shows_value (text : String) : Shows text (value text) := by
  unfold value
  split
  · exact .bare ‹_›
  · exact .quoted

theorem splitFrom_shows {text shown : String} {rest : List Char} (written : Shows text shown)
    (ended : ∀ c, rest.head? = some c → Text.isBlank c = true) :
    splitFrom .between (shown.toList ++ rest) = (text :: ·) <$> splitFrom .between rest := by
  cases written with
  | quoted => exact splitFrom_quote text rest
  | bare bare => exact splitFrom_bare bare ended

/-- Escapes leave no control character, so a written value never ends its line. -/
theorem Escapes.isControl {c d : Char} {cs : List Char} (escapes : Escapes c cs) (member : d ∈ cs) :
    Text.isControl d = false := by
  have letters : ['\\', '\x22', 'n', 'r', 't'].all (!Text.isControl ·) = true := by decide
  have digits : ∀ n < 16, Text.isControl n.digitChar = false := by decide
  cases escapes with
  | @letter letter stands =>
    have plain := List.all_eq_true.mp letters
    simp only [Bool.not_eq_true'] at plain
    rw [List.mem_pair] at member
    rcases member with rfl | rfl
    · exact plain _ List.mem_cons_self
    · exact plain _ (mem_of_escapeOf? stands)
  | code =>
    simp only [Text.codeEscape, List.mem_append, List.mem_cons, List.not_mem_nil, or_false]
      at member
    rcases member with ((rfl | rfl | rfl) | digit) | rfl
    · decide
    · decide
    · decide
    · obtain ⟨n, small, rfl⟩ := Text.mem_hexDigits digit
      exact digits n small
    · decide
  | itself unescaped unquoted plain => exact List.mem_singleton.mp member ▸ plain

/-- Where a written value stops: it is not empty and does not end in a blank. -/
theorem Shows.getLast? {text shown : String} (written : Shows text shown) :
    ∃ c, shown.toList.getLast? = some c ∧ Text.isBlank c = false := by
  cases written with
  | quoted =>
    refine ⟨'\x22', ?_, by decide⟩
    rw [quote, String.toList_ofList, List.getLast?_append, List.getLast?_singleton, Option.some_or]
  | bare bare =>
    obtain ⟨nonempty, chars⟩ := isBare_iff.mp bare
    obtain ⟨solid, _⟩ := isBareChar_iff.mp (chars _ (List.getLast_mem nonempty))
    exact ⟨_, List.getLast?_eq_some_getLast nonempty, solid⟩

theorem Shows.isControl {text shown : String} (written : Shows text shown) {c : Char}
    (member : c ∈ shown.toList) : Text.isControl c = false := by
  cases written with
  | quoted =>
    simp only [quote, String.toList_ofList, List.cons_append, List.mem_cons, List.mem_append,
      List.mem_flatMap, List.not_mem_nil, or_false] at member
    rcases member with rfl | ⟨source, _, inside⟩ | rfl
    · decide
    · exact (escapes_escaped source).isControl inside
    · decide
  | bare bare =>
    exact (isBareChar_iff.mp ((isBare_iff.mp bare).2 c member)).2.1

theorem splitFrom_blanks {blanks : List Char} (rest : List Char)
    (blank : ∀ c ∈ blanks, Text.isBlank c = true) :
    splitFrom .between (blanks ++ rest) = splitFrom .between rest := by
  induction blanks with
  | nil => rfl
  | cons c blanks ih =>
    obtain ⟨first, others⟩ := List.forall_mem_cons.mp blank
    rw [List.cons_append, splitFrom, if_pos first, ih others]

/-- Written values one after the other, with spaces between them, one at least in each place. -/
inductive Spaced : List String → List Char → Prop
  | nothing : Spaced [] []
  | single (shown : String) : Spaced [shown] shown.toList
  | more (shown : String) {next : String} {rest : List String} {line : List Char} (count : Nat)
    (following : Spaced (next :: rest) line) :
    Spaced (shown :: next :: rest) (shown.toList ++ List.replicate (count + 1) ' ' ++ line)

theorem isBlank_of_mem_spaces (count : Nat) :
    ∀ c ∈ List.replicate count ' ', Text.isBlank c = true := by
  intro c member
  rw [List.eq_of_mem_replicate member]
  decide

theorem Spaced.split {texts shown : List String} {line : List Char} (spaced : Spaced shown line)
    (written : List.Forall₂ Shows texts shown) : Compiled.split line = .ok texts := by
  rw [Compiled.split]
  induction spaced generalizing texts with
  | nothing =>
    cases written
    rfl
  | single shown =>
    obtain ⟨text, others, head, tail, rfl⟩ := List.forall₂_cons_right_iff.mp written
    cases tail
    have ended : ∀ c, [].head? = some c → Text.isBlank c = true := fun c first => nomatch first
    have read := splitFrom_shows head ended
    rwa [List.append_nil] at read
  | @more shown next rest line count following ih =>
    obtain ⟨text, others, head, tail, rfl⟩ := List.forall₂_cons_right_iff.mp written
    have ended : ∀ c, (List.replicate (count + 1) ' ' ++ line).head? = some c →
        Text.isBlank c = true := by
      intro c first
      rw [List.replicate_succ, List.cons_append, List.head?_cons] at first
      exact Option.some.inj first ▸ by decide
    rw [List.append_assoc, splitFrom_shows head ended, splitFrom_blanks _ (isBlank_of_mem_spaces _),
      ih tail]
    rfl

theorem Spaced.isControl {texts shown : List String} {line : List Char}
    (spaced : Spaced shown line) (written : List.Forall₂ Shows texts shown) :
    ∀ c ∈ line, Text.isControl c = false := by
  induction spaced generalizing texts with
  | nothing => exact fun c member => absurd member List.not_mem_nil
  | single shown =>
    obtain ⟨text, others, head, _, rfl⟩ := List.forall₂_cons_right_iff.mp written
    exact fun c => head.isControl
  | more shown count following ih =>
    obtain ⟨text, others, head, tail, rfl⟩ := List.forall₂_cons_right_iff.mp written
    intro c member
    rw [List.mem_append, List.mem_append] at member
    rcases member with (inside | space) | later
    · exact head.isControl inside
    · rw [List.eq_of_mem_replicate space]
      decide
    · exact ih tail c later

theorem exists_spaced (v : String) (rest : List String) : ∃ line, Spaced (v :: rest) line ∧
    (v :: rest).flatMap (fun v => ' ' :: v.toList) = ' ' :: line := by
  induction rest generalizing v with
  | nil => exact ⟨v.toList, .single v, by simp⟩
  | cons w rest ih =>
    obtain ⟨line, following, whole⟩ := ih w
    exact ⟨_, .more v 0 following, by rw [List.flatMap_cons, whole]; simp⟩

/-- Values with a blank in front of each are read back one by one. -/
theorem split_spaced {texts shown : List String} (all : List.Forall₂ Shows texts shown) :
    split (shown.flatMap fun v => ' ' :: v.toList) = .ok texts := by
  cases all with
  | nil => rfl
  | cons head tail =>
    obtain ⟨line, spaced, whole⟩ := exists_spaced _ _
    rw [whole]
    exact (splitFrom_blanks line (isBlank_of_mem_spaces 1)).trans
      (spaced.split (.cons head tail))

/-- Splitting undoes writing: values that are written in quotes always, or only when they need them,
with spaces between them, are read back, and no control character ends their line before that. -/
theorem splitting_undoes_writing {texts shown : List String} {line : List Char}
    (written : List.Forall₂ (fun text v => v = value text ∨ v = quote text) texts shown)
    (spaced : Spaced shown line) :
    split line = .ok texts ∧ '\n' ∉ line ∧ '\r' ∉ line ∧
      ∀ c ∈ line, Text.isControl c = false := by
  have formed : List.Forall₂ Shows texts shown := written.imp fun text v form => by
    rcases form with rfl | rfl
    · exact shows_value text
    · exact .quoted
  have plain := spaced.isControl formed
  refine ⟨spaced.split formed, fun feed => ?_, fun carriageReturn => ?_, plain⟩
  · exact absurd (plain _ feed) (by decide)
  · exact absurd (plain _ carriageReturn) (by decide)

/-- The text of a backslash and a letter, bare and in quotes, between an empty text and one with a
control character. -/
theorem backslash_is_split_bare_and_quoted :
    split "\"\"  \\n \"\\\\n\" \"\\u\x7b7\x7d\\\"\"".toList =
      .ok ["", "\\n", "\\n", "\x07\""] := by
  have written : List.Forall₂ (fun text v => v = value text ∨ v = quote text)
      ["", "\\n", "\\n", "\x07\""]
      [value "", value "\\n", quote "\\n", value "\x07\""] :=
    .cons (.inl rfl) (.cons (.inl rfl) (.cons (.inr rfl) (.cons (.inl rfl) .nil)))
  have spaced : Spaced [value "", value "\\n", quote "\\n", value "\x07\""] _ :=
    .more _ 1 (.more _ 0 (.more _ 0 (.single _)))
  have line : "\"\"  \\n \"\\\\n\" \"\\u\x7b7\x7d\\\"\"".toList =
      (value "").toList ++ List.replicate 2 ' ' ++ ((value "\\n").toList ++ List.replicate 1 ' ' ++
        ((quote "\\n").toList ++ List.replicate 1 ' ' ++ (value "\x07\"").toList)) := by
    decide +kernel
  rw [line]
  exact (splitting_undoes_writing written spaced).1

end Highlighter.Compiled
