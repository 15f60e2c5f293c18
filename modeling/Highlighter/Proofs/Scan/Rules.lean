import Highlighter.Scan.Rules
import Mathlib.Data.List.TakeWhile

/-! Each rule is the first one that fits for some beginnings of a text, and no rule takes more
characters than there are. A comment takes its opening mark, which is ahead, and what follows it;
every other rule goes on from its first character. -/
namespace Highlighter.Scan

/-- The lexemes that a text `c :: rest` begins with, each with what lets its rule be the first one
that fits. -/
inductive Applies (d : Definition) (c : Char) (rest : List Char) : Lexeme → Prop where
  | blanks (plain : d.plain = true) (blank : Text.isBlank c = true) :
      Applies d c rest ⟨runLength Text.isBlank rest, .whitespace⟩
  | solid (plain : d.plain = true) (solid : Text.isBlank c = false) :
      Applies d c rest ⟨runLength (!Text.isBlank ·) rest, .identifier⟩
  | block {marks : BlockComment} (ruled : d.plain = false)
      (begins : blockComment? d (c :: rest) = some marks) : Applies d c rest (blockLexeme marks rest)
  | line {mark : String} (ruled : d.plain = false) (unblocked : blockComment? d (c :: rest) = none)
      (begins : lineComment? d (c :: rest) = some mark) : Applies d c rest (lineLexeme mark rest)
  | literal {delimiter : Delimiter} (ruled : d.plain = false)
      (uncommented : startsComment d (c :: rest) = false)
      (opens : d.delimiterFor? c = some delimiter) : Applies d c rest (literalLexeme delimiter rest)
  | word (ruled : d.plain = false) (uncommented : startsComment d (c :: rest) = false)
      (unopened : d.delimiterFor? c = none) (starts : d.isWordStart c = true) :
      Applies d c rest (wordLexeme d c rest)
  | number (ruled : d.plain = false) (uncommented : startsComment d (c :: rest) = false)
      (unopened : d.delimiterFor? c = none) (noWord : d.isWordStart c = false)
      (digit : c.isDigit = true) : Applies d c rest ⟨numberRest d false rest, .number⟩
  | operator (ruled : d.plain = false) (uncommented : startsComment d (c :: rest) = false)
      (unopened : d.delimiterFor? c = none) (noWord : d.isWordStart c = false)
      (noDigit : c.isDigit = false) (operator : d.isOperator c = true) :
      Applies d c rest ⟨operatorRest d rest, .operator⟩
  | punctuation (ruled : d.plain = false) (uncommented : startsComment d (c :: rest) = false)
      (unopened : d.delimiterFor? c = none) (noWord : d.isWordStart c = false)
      (noDigit : c.isDigit = false) (noOperator : d.isOperator c = false)
      (punctuation : d.isPunctuation c = true) : Applies d c rest ⟨0, .punctuation⟩
  | gap (ruled : d.plain = false) (left : startsToken d c rest = false) :
      Applies d c rest ⟨gapRest d rest, .whitespace⟩

theorem startsComment_eq_false_iff {d : Definition} {cs : List Char} :
    startsComment d cs = false ↔ blockComment? d cs = none ∧ lineComment? d cs = none := by
  rw [startsComment, Bool.or_eq_false_iff, Option.isSome_eq_false_iff, Option.isNone_iff_eq_none,
    Option.isSome_eq_false_iff, Option.isNone_iff_eq_none]

theorem startsToken_eq_false_iff {d : Definition} {c : Char} {rest : List Char} :
    startsToken d c rest = false ↔ startsComment d (c :: rest) = false ∧
      d.delimiterFor? c = none ∧ d.isWordStart c = false ∧ c.isDigit = false ∧
      d.isOperator c = false ∧ d.isPunctuation c = false := by
  simp only [startsToken, Bool.or_eq_false_iff, Option.isSome_eq_false_iff,
    Option.isNone_iff_eq_none, and_assoc]

theorem applies_ruleLexeme {d : Definition} (ruled : d.plain = false) (c : Char)
    (rest : List Char) : Applies d c rest (ruleLexeme d c rest) := by
  unfold ruleLexeme
  split
  · rename_i begins
    exact .block ruled begins
  · rename_i unblocked begins
    exact .line ruled unblocked begins
  · rename_i unblocked unlined opens
    exact .literal ruled (startsComment_eq_false_iff.mpr ⟨unblocked, unlined⟩) opens
  · rename_i unblocked unlined unopened
    have uncommented := startsComment_eq_false_iff.mpr ⟨unblocked, unlined⟩
    split
    · rename_i starts
      exact .word ruled uncommented unopened starts
    · rename_i noWord
      have noWord := Bool.eq_false_iff.mpr noWord
      split
      · rename_i digit
        exact .number ruled uncommented unopened noWord digit
      · rename_i noDigit
        have noDigit := Bool.eq_false_iff.mpr noDigit
        split
        · rename_i operator
          exact .operator ruled uncommented unopened noWord noDigit operator
        · rename_i noOperator
          have noOperator := Bool.eq_false_iff.mpr noOperator
          split
          · rename_i punctuation
            exact .punctuation ruled uncommented unopened noWord noDigit noOperator punctuation
          · rename_i noPunctuation
            have noPunctuation := Bool.eq_false_iff.mpr noPunctuation
            exact .gap ruled (startsToken_eq_false_iff.mpr
              ⟨uncommented, unopened, noWord, noDigit, noOperator, noPunctuation⟩)

/-- Every first token of a text comes from the first rule that fits. -/
theorem applies_lexeme (d : Definition) (c : Char) (rest : List Char) :
    Applies d c rest (lexeme d c rest) := by
  unfold lexeme
  split
  · rename_i plain
    unfold plainLexeme
    split
    · rename_i blank
      exact .blanks plain blank
    · rename_i solid
      exact .solid plain (Bool.eq_false_iff.mpr solid)
  · rename_i ruled
    exact applies_ruleLexeme (Bool.eq_false_iff.mpr ruled) c rest

/-- Without a comment and a literal the first character decides. -/
theorem ruleLexeme_of_unmarked {d : Definition} {c : Char} {rest : List Char}
    (uncommented : startsComment d (c :: rest) = false) (unopened : d.delimiterFor? c = none) :
    ruleLexeme d c rest =
      if d.isWordStart c then wordLexeme d c rest
      else if c.isDigit then ⟨numberRest d false rest, .number⟩
      else if d.isOperator c then ⟨operatorRest d rest, .operator⟩
      else if d.isPunctuation c then ⟨0, .punctuation⟩
      else ⟨gapRest d rest, .whitespace⟩ := by
  obtain ⟨unblocked, unlined⟩ := startsComment_eq_false_iff.mp uncommented
  rw [ruleLexeme, unblocked, unlined, unopened]

/-- There is only one first rule that fits. -/
theorem Applies.lexeme_eq {d : Definition} {c : Char} {rest : List Char} {first : Lexeme}
    (applies : Applies d c rest first) : lexeme d c rest = first := by
  cases applies with
  | blanks plain blank => rw [lexeme, if_pos plain, plainLexeme, if_pos blank]
  | solid plain solid => simp [lexeme, plain, plainLexeme, solid]
  | block ruled begins => simp [lexeme, ruled, ruleLexeme, begins]
  | line ruled unblocked begins => simp [lexeme, ruled, ruleLexeme, unblocked, begins]
  | literal ruled uncommented opens =>
    obtain ⟨unblocked, unlined⟩ := startsComment_eq_false_iff.mp uncommented
    simp [lexeme, ruled, ruleLexeme, unblocked, unlined, opens]
  | word ruled uncommented unopened starts =>
    simp [lexeme, ruled, ruleLexeme_of_unmarked uncommented unopened, starts]
  | number ruled uncommented unopened noWord digit =>
    simp [lexeme, ruled, ruleLexeme_of_unmarked uncommented unopened, noWord, digit]
  | operator ruled uncommented unopened noWord noDigit operator =>
    simp [lexeme, ruled, ruleLexeme_of_unmarked uncommented unopened, noWord, noDigit, operator]
  | punctuation ruled uncommented unopened noWord noDigit noOperator punctuation =>
    simp [lexeme, ruled, ruleLexeme_of_unmarked uncommented unopened, noWord, noDigit, noOperator,
      punctuation]
  | gap ruled left =>
    obtain ⟨uncommented, unopened, noWord, noDigit, noOperator, noPunctuation⟩ :=
      startsToken_eq_false_iff.mp left
    simp [lexeme, ruled, ruleLexeme_of_unmarked uncommented unopened, noWord, noDigit, noOperator,
      noPunctuation]

section Kinds

theorem kind_blockLexeme (marks : BlockComment) (rest : List Char) :
    (blockLexeme marks rest).kind = .blockComment ∨
      (blockLexeme marks rest).kind = .unterminatedBlockComment := by
  unfold blockLexeme
  dsimp only
  split
  · exact .inl rfl
  · exact .inr rfl

theorem kind_literalLexeme (delimiter : Delimiter) (rest : List Char) :
    (literalLexeme delimiter rest).kind = .stringLiteral ∨
      (literalLexeme delimiter rest).kind = .unterminatedString := by
  unfold literalLexeme
  dsimp only
  split
  · exact .inl rfl
  · exact .inr rfl

theorem kind_wordLexeme (d : Definition) (c : Char) (rest : List Char) :
    (∃ group, (wordLexeme d c rest).kind = .keyword group) ∨
      (wordLexeme d c rest).kind = .identifier := by
  unfold wordLexeme wordKind
  dsimp only
  split
  · exact .inl ⟨_, rfl⟩
  · exact .inr rfl

end Kinds

theorem startsWith_iff {mark : String} {cs : List Char} :
    startsWith mark cs = true ↔ mark ≠ "" ∧ mark.toList <+: cs := by
  rw [startsWith, Bool.and_eq_true, bne_iff_ne, List.isPrefixOf_iff_prefix]

theorem startsWith_length {mark : String} {cs : List Char} (starts : startsWith mark cs = true) :
    0 < mark.length ∧ mark.length ≤ cs.length := by
  obtain ⟨filled, ahead⟩ := startsWith_iff.mp starts
  have bound := ahead.length_le
  rw [String.length_toList] at bound
  exact ⟨Nat.pos_of_ne_zero fun empty => filled (String.length_eq_zero_iff.mp empty), bound⟩

theorem blockComment?_eq_some_iff {d : Definition} {cs : List Char} {marks : BlockComment} :
    blockComment? d cs = some marks ↔
      d.blockComment = some marks ∧ marks.opening ≠ "" ∧ marks.opening.toList <+: cs := by
  rw [blockComment?, Option.filter_eq_some_iff, startsWith_iff]

theorem lineComment?_eq_some_iff {d : Definition} {cs : List Char} {mark : String} :
    lineComment? d cs = some mark ↔
      d.lineComment = some mark ∧ mark ≠ "" ∧ mark.toList <+: cs := by
  rw [lineComment?, Option.filter_eq_some_iff, startsWith_iff]

theorem runLength_le (p : Char → Bool) (cs : List Char) : runLength p cs ≤ cs.length :=
  (List.takeWhile_prefix p).length_le

theorem blockRest_le (closing : String) (cs : List Char) :
    (blockRest closing cs).1 ≤ cs.length := by
  induction cs with
  | nil => exact Nat.zero_le _
  | cons c rest ih =>
    by_cases closes : startsWith closing (c :: rest)
    · simp only [blockRest, closes, if_true]
      exact (startsWith_length closes).2
    · simp only [blockRest, closes, List.length_cons]
      exact Nat.succ_le_succ ih

theorem literalRest_le (d : Delimiter) (cs : List Char) :
    (literalRest d cs).1 ≤ cs.length := by
  fun_induction literalRest d cs
  all_goals
    simp +zetaDelta only [List.length_cons, List.length_nil] at *
    omega

theorem numberRest_le (d : Definition) (dotSeen : Bool) (cs : List Char) :
    numberRest d dotSeen cs ≤ cs.length := by
  induction cs generalizing dotSeen with
  | nil => exact Nat.zero_le _
  | cons c rest ih =>
    have kept := ih dotSeen
    have dotted := ih true
    simp only [numberRest, List.length_cons]
    split
    · omega
    · split
      · omega
      · split <;> omega

theorem operatorRest_le (d : Definition) (cs : List Char) : operatorRest d cs ≤ cs.length := by
  induction cs with
  | nil => exact Nat.zero_le _
  | cons c rest ih =>
    simp only [operatorRest, List.length_cons]
    split <;> omega

theorem gapRest_le (d : Definition) (cs : List Char) : gapRest d cs ≤ cs.length := by
  induction cs with
  | nil => exact Nat.zero_le _
  | cons c rest ih =>
    simp only [gapRest, List.length_cons]
    split <;> omega

theorem blockLexeme_le {d : Definition} {marks : BlockComment} {c : Char} {rest : List Char}
    (begins : blockComment? d (c :: rest) = some marks) :
    (blockLexeme marks rest).more ≤ rest.length := by
  have opens := (Option.filter_eq_some_iff.mp begins).2
  obtain ⟨filled, ahead⟩ := startsWith_length opens
  have bound := blockRest_le marks.closing (rest.drop (marks.opening.length - 1))
  rw [List.length_drop] at bound
  rw [List.length_cons] at ahead
  simp only [blockLexeme]
  omega

theorem lineLexeme_le {d : Definition} {mark : String} {c : Char} {rest : List Char}
    (begins : lineComment? d (c :: rest) = some mark) :
    (lineLexeme mark rest).more ≤ rest.length := by
  have opens := (Option.filter_eq_some_iff.mp begins).2
  obtain ⟨filled, ahead⟩ := startsWith_length opens
  have bound := runLength_le (!Lines.isBreak ·) (rest.drop (mark.length - 1))
  rw [List.length_drop] at bound
  rw [List.length_cons] at ahead
  simp only [lineLexeme]
  omega

/-- Whatever a token takes is there to be taken. -/
theorem lexeme_more_le (d : Definition) (c : Char) (rest : List Char) :
    (lexeme d c rest).more ≤ rest.length := by
  have applies := applies_lexeme d c rest
  generalize lexeme d c rest = first at applies ⊢
  cases applies with
  | blanks => exact runLength_le _ rest
  | solid => exact runLength_le _ rest
  | block ruled begins => exact blockLexeme_le begins
  | line ruled unblocked begins => exact lineLexeme_le begins
  | literal => exact literalRest_le _ rest
  | word => exact runLength_le _ rest
  | number => exact numberRest_le d false rest
  | operator => exact operatorRest_le d rest
  | punctuation => exact Nat.zero_le _
  | gap => exact gapRest_le d rest

end Highlighter.Scan
