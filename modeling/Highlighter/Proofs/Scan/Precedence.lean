import Highlighter.Proofs.Scan.Classification
import Highlighter.Proofs.Scan.Restart

/-! Runs leave off where an earlier rule fits. A run of operators asks at every character for comments
and literals, and a gap asks for every rule. A run of operators does not ask for words and digits: a
language that was built has none of them among its operators, since its operators are what the
keywords leave of a fixed alphabet, but a compiled language may list any character as an operator. -/
namespace Highlighter

namespace Scan
variable {d : Definition}

/-- Neither a comment nor a literal begins with `c` when `rest` follows. -/
structure Unmarked (d : Definition) (c : Char) (rest : List Char) : Prop where
  block : blockComment? d (c :: rest) = none
  line : lineComment? d (c :: rest) = none
  literal : d.delimiterFor? c = none

/-- No rule that comes before the one for operators fits. -/
structure PastNumbers (d : Definition) (c : Char) (rest : List Char) : Prop
    extends Unmarked d c rest where
  word : d.isWordStart c = false
  digit : c.isDigit = false

/-- No rule fits but the last one, which takes what the others leave. -/
structure Unclaimed (d : Definition) (c : Char) (rest : List Char) : Prop
    extends PastNumbers d c rest where
  operator : d.isOperator c = false
  punctuation : d.isPunctuation c = false

/-- What holds at a character inside of a token of this kind. -/
def Continues (d : Definition) (kind : TokenKind) (c : Char) (rest : List Char) : Prop :=
  match kind with
  | .operator => Unmarked d c rest ∧ d.isOperator c = true
  | .whitespace => Unclaimed d c rest
  | _ => True

/-- After its first character the lexeme takes only characters that its kind goes on with. -/
def Lexeme.Continued (d : Definition) (first : Lexeme) (rest : List Char) : Prop :=
  ∀ n < first.more, ∃ next after, rest.drop n = next :: after ∧
    Continues d first.kind next after

theorem unmarked_of_not_startsComment {c : Char} {rest : List Char}
    (uncommented : startsComment d (c :: rest) = false) (unopened : d.delimiterFor? c = none) :
    Unmarked d c rest := by
  obtain ⟨unblocked, unlined⟩ := startsComment_eq_false_iff.mp uncommented
  exact ⟨unblocked, unlined, unopened⟩

theorem unclaimed_of_not_startsToken {c : Char} {rest : List Char}
    (left : startsToken d c rest = false) : Unclaimed d c rest := by
  obtain ⟨uncommented, unopened, word, digit, operator, punctuation⟩ :=
    startsToken_eq_false_iff.mp left
  exact ⟨⟨unmarked_of_not_startsComment uncommented unopened, word, digit⟩, operator, punctuation⟩

/-- A run goes on at each of its characters as it went on at the first. -/
theorem continues_operatorRest {cs : List Char} {n : Nat} (inside : n < operatorRest d cs) :
    ∃ c rest, cs.drop n = c :: rest ∧ Continues d .operator c rest := by
  induction cs generalizing n with
  | nil => cases inside
  | cons c rest ih =>
    simp only [operatorRest] at inside
    split at inside
    · cases inside
    · rename_i goesOn
      cases n with
      | zero =>
        simp only [Bool.or_eq_true, not_or, Bool.not_eq_true', Bool.not_eq_false,
          Option.isSome_iff_ne_none, ne_eq, not_not, Bool.not_eq_true] at goesOn
        obtain ⟨⟨operator, unopened⟩, uncommented⟩ := goesOn
        exact ⟨c, rest, rfl, unmarked_of_not_startsComment uncommented unopened, operator⟩
      | succ n => exact ih (Nat.lt_of_succ_lt_succ inside)

theorem continues_gapRest {cs : List Char} {n : Nat} (inside : n < gapRest d cs) :
    ∃ c rest, cs.drop n = c :: rest ∧ Continues d .whitespace c rest := by
  induction cs generalizing n with
  | nil => cases inside
  | cons c rest ih =>
    simp only [gapRest] at inside
    split at inside
    · cases inside
    · rename_i left
      cases n with
      | zero =>
        exact ⟨c, rest, rfl, unclaimed_of_not_startsToken (Bool.eq_false_iff.mpr left)⟩
      | succ n => exact ih (Nat.lt_of_succ_lt_succ inside)

/-- Kinds other than operators and whitespace go on with anything. -/
theorem continued_of_free {first : Lexeme} {rest : List Char} (fits : first.more ≤ rest.length)
    (free : first.kind ≠ .operator ∧ first.kind ≠ .whitespace) : first.Continued d rest := by
  intro n inside
  refine ⟨_, _, List.drop_eq_getElem_cons (by omega), ?_⟩
  unfold Continues
  split
  · rename_i operator
    exact absurd operator free.1
  · rename_i gap
    exact absurd gap free.2
  · trivial

theorem continued_lexeme (ruled : d.plain = false) (c : Char) (rest : List Char) :
    (lexeme d c rest).Continued d rest := by
  have fits := lexeme_more_le d c rest
  have applies := applies_lexeme d c rest
  generalize lexeme d c rest = first at applies fits ⊢
  cases applies with
  | blanks plain | solid plain =>
    rw [ruled] at plain
    cases plain
  | @block marks =>
    apply continued_of_free fits
    rcases kind_blockLexeme marks rest with kind | kind <;> simp [kind]
  | line => exact continued_of_free fits (by simp [lineLexeme])
  | @literal delimiter =>
    apply continued_of_free fits
    rcases kind_literalLexeme delimiter rest with kind | kind <;> simp [kind]
  | word =>
    apply continued_of_free fits
    rcases kind_wordLexeme d c rest with ⟨group, kind⟩ | kind <;> simp [kind]
  | number => exact continued_of_free fits (by simp)
  | operator =>
    intro n inside
    exact continues_operatorRest inside
  | punctuation => exact continued_of_free fits (by simp)
  | gap =>
    intro n inside
    exact continues_gapRest inside

end Scan

/-- What holds wherever the buffer goes on inside of the token, after its first character. -/
def Token.Inside (b : Buffer) (t : Token) (holds : Char → List Char → Prop) : Prop :=
  ∀ k, t.start < k → k < t.stop → ∃ c rest, b.chars.drop k = c :: rest ∧ holds c rest

theorem Token.Inside.imp {b : Buffer} {t : Token} {holds other : Char → List Char → Prop}
    (inside : t.Inside b holds) (implies : ∀ c rest, holds c rest → other c rest) :
    t.Inside b other := by
  intro k after before
  obtain ⟨c, rest, ahead, here⟩ := inside k after before
  exact ⟨c, rest, ahead, implies c rest here⟩

namespace Definition

/-- No operator can begin a word or a number. -/
def OperatorsApart (d : Definition) : Prop :=
  ∀ c ∈ d.operators.members, d.isWordStart c = false ∧ c.isDigit = false

instance (d : Definition) : Decidable d.OperatorsApart :=
  List.decidableBAll _ d.operators.members

theorem not_word_of_operatorAlphabet : ∀ c ∈ operatorAlphabet.toList,
    Text.isAlphabetic c = false ∧ c ≠ '_' ∧ c.isDigit = false := by
  have all : (operatorAlphabet.toList.all fun c =>
      decide (Text.isAlphabetic c = false ∧ c ≠ '_' ∧ c.isDigit = false)) = true := by
    decide +kernel
  intro c member
  exact of_decide_eq_true (List.all_eq_true.mp all c member)

theorem build_operatorsApart (declared : Declaration) : (build declared).OperatorsApart := by
  intro c operator
  obtain ⟨listed, unused⟩ := CharSet.mem_without.mp (operator : c ∈ (build declared).operators)
  obtain ⟨letter, underscore, digit⟩ := not_word_of_operatorAlphabet c (CharSet.mem_ofList.mp listed)
  have noStart : (build declared).keyStart.contains c = false := by
    rw [Bool.eq_false_iff, ne_eq, CharSet.contains_iff]
    intro member
    exact unused (List.mem_append_left _ (CharSet.mem_ofList.mp member))
  exact ⟨by simp [isWordStart, noStart, letter, underscore], digit⟩

end Definition

namespace Scan
variable {d : Definition}

theorem inside_of_mem_tokens (ruled : d.plain = false) {b : Buffer} {start : Nat}
    {emitWhitespace : Bool} {t : Token} (member : t ∈ tokens d b start emitWhitespace) :
    t.Inside b (Continues d t.kind) := by
  obtain ⟨c, rest, ahead, length, kind⟩ := lexeme_of_mem_tokens member
  intro k after before
  obtain ⟨n, rfl⟩ := Nat.exists_eq_add_of_lt after
  have within : n < (lexeme d c rest).more := by
    rw [Token.stop] at before
    omega
  obtain ⟨next, later, here, continues⟩ := continued_lexeme ruled c rest n within
  refine ⟨next, later, ?_, kind ▸ continues⟩
  rw [Nat.add_assoc, ← List.drop_drop, ahead, List.drop_succ_cons, here]

theorem pastNumbers_of_apart (apart : d.OperatorsApart) {c : Char} {rest : List Char}
    (continues : Continues d .operator c rest) : PastNumbers d c rest := by
  obtain ⟨unmarked, operator⟩ := continues
  obtain ⟨word, digit⟩ := apart c (CharSet.contains_iff.mp operator)
  exact ⟨unmarked, word, digit⟩

end Scan

namespace Scanner
open Scan
variable (b : Buffer) (start : Nat) (emitWhitespace : Bool)

/-- In a language that was built, a run of operators leaves off before a comment, a literal, a word
and a number, and a gap before every token. In one that was read, a run of operators leaves off
before a comment and a literal and has operators only, which are neither word starts nor digits
unless the language lists such characters as operators. -/
theorem runs_leave_off_for_earlier_rules :
    (∀ declared, ∃ ts, Yields (Scanner.start (.build declared) b start emitWhitespace) ts ∧
      ∀ t ∈ ts, (t.kind = .operator → t.Inside b (PastNumbers (.build declared))) ∧
        (t.kind = .whitespace → t.Inside b (Unclaimed (.build declared)))) ∧
    ∀ text d, Compiled.parse text = .ok d →
      ∃ ts, Yields (Scanner.start d b start emitWhitespace) ts ∧
        ∀ t ∈ ts, (t.kind = .operator → t.Inside b fun c rest =>
            Unmarked d c rest ∧ d.isOperator c = true ∧ (d.OperatorsApart → PastNumbers d c rest)) ∧
          (t.kind = .whitespace → t.Inside b (Unclaimed d)) := by
  constructor
  · intro declared
    have apart := Definition.build_operatorsApart declared
    refine ⟨_, yields_tokens _ b start emitWhitespace, fun t member => ?_⟩
    have inside := inside_of_mem_tokens (Definition.build_coherent declared).ruled member
    constructor
    · intro operator
      rw [operator] at inside
      exact inside.imp fun c rest => pastNumbers_of_apart apart
    · intro whitespace
      rw [whitespace] at inside
      exact inside
  · intro text d read
    refine ⟨_, yields_tokens d b start emitWhitespace, fun t member => ?_⟩
    have inside := inside_of_mem_tokens (Compiled.parse_coherent read).1.ruled member
    constructor
    · intro operator
      rw [operator] at inside
      refine inside.imp fun c rest continues => ⟨continues.1, continues.2, fun apart => ?_⟩
      exact pastNumbers_of_apart apart continues
    · intro whitespace
      rw [whitespace] at inside
      exact inside

/-- A compiled language with line comments that begin with an operator. -/
def dashedLines : String := "\n".intercalate
  ["Name = a", "LineComment = \"--\"", "Operators = +-", "Delimiter = s < \"\" >"]

/-- A text with operators before a comment and a gap before another one. -/
def crowded : Buffer := .ofText "b" "+-+--a\n +=//b \t/*".toList

theorem operators_before_comment :
    (∃ ts, Yields (Scanner.start slashed crowded 7 true) ts ∧
      ∀ t ∈ ts, (t.kind = .operator → t.Inside crowded (PastNumbers slashed)) ∧
        (t.kind = .whitespace → t.Inside crowded (Unclaimed slashed))) ∧
    ∃ d, Compiled.parse dashedLines = .ok d ∧ d.OperatorsApart ∧
      ∃ ts, Yields (Scanner.start d crowded 0 true) ts ∧
        ∀ t ∈ ts, t.kind = .operator → t.Inside crowded (PastNumbers d) := by
  constructor
  · exact (runs_leave_off_for_earlier_rules crowded 7 true).1 _
  · obtain ⟨d, accepted, passes⟩ : ∃ d, Compiled.parse dashedLines = .ok d ∧
        decide d.OperatorsApart = true := Result.eq_ok_of_any (by decide +kernel)
    have apart := of_decide_eq_true passes
    obtain ⟨ts, given, kept⟩ := (runs_leave_off_for_earlier_rules crowded 0 true).2 _ d accepted
    refine ⟨d, accepted, apart, ts, given, fun t member operator => ?_⟩
    exact ((kept t member).1 operator).imp fun c rest here => here.2.2 apart

/-- A compiled language that lists a letter as an operator. -/
def letteredLines : String := "Name = X\nOperators = +a"

theorem letter_inside_operator : ∃ d, Compiled.parse letteredLines = .ok d ∧
    ¬ ∃ ts, Yields (Scanner.start d (.ofText "b" "+a".toList) 0 true) ts ∧
      ∀ t ∈ ts, t.kind = .operator → t.Inside (.ofText "b" "+a".toList) (PastNumbers d) := by
  obtain ⟨d, accepted, passes⟩ : ∃ d, Compiled.parse letteredLines = .ok d ∧
      decide (tokens d (.ofText "b" "+a".toList) 0 true = [⟨0, 2, .operator⟩]) = true :=
    Result.eq_ok_of_any (by decide +kernel)
  refine ⟨d, accepted, ?_⟩
  rintro ⟨ts, given, kept⟩
  have whole : ts = [⟨0, 2, .operator⟩] :=
    (given.unique (yields_tokens d _ 0 true)).trans (of_decide_eq_true passes)
  subst whole
  obtain ⟨c, rest, ahead, past⟩ := kept _ List.mem_cons_self rfl 1 (by decide) (by decide)
  have letter : (Buffer.ofText "b" "+a".toList).chars.drop 1 = ['a'] := by decide +kernel
  obtain ⟨rfl, _⟩ := List.cons.inj (ahead.symm.trans letter)
  have alphabetic : Text.isAlphabetic 'a' = true := by decide +kernel
  have noStart := past.word
  rw [Definition.isWordStart, alphabetic, Bool.or_true] at noStart
  cases noStart

end Scanner
end Highlighter
