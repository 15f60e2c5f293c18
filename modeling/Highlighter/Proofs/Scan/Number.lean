import Highlighter.Proofs.Scan.Classification

/-! Numbers are the longest matches of their form. After a digit a number has digits and what else the
language allows, and once a dot with a digit behind it, unless the dot is among what is allowed. The
scan decides at each character whether to go on, with one character more in sight for the dot, and
that is enough: what it takes has the form, and nothing that is longer has. -/
namespace Highlighter

namespace Definition

/-- Whether a number may have `c` anywhere after its first digit. -/
def isNumberPart (d : Definition) (c : Char) : Bool := c.isDigit || d.isNumberContinue c

/-- A digit, and what may follow a digit anywhere. -/
inductive Numeral (d : Definition) : List Char → Prop where
  | mk {c : Char} {more : List Char} (digit : c.isDigit = true)
      (parts : ∀ x ∈ more, d.isNumberPart x = true) : Numeral d (c :: more)

/-- The form of a number. A language that allows dots anywhere has no fractions besides. -/
inductive NumberForm (d : Definition) : List Char → Prop where
  | whole {text : List Char} (numeral : d.Numeral text) : NumberForm d text
  | fraction {text places : List Char} (apart : d.isNumberContinue '.' = false)
      (numeral : d.Numeral text) (decimals : d.Numeral places) :
      NumberForm d (text ++ '.' :: places)

/-- What a number may have after its first digit, when a dot was seen there before or not. -/
inductive NumberTail (d : Definition) : Bool → List Char → Prop where
  | whole {dotSeen : Bool} {more : List Char} (parts : ∀ x ∈ more, d.isNumberPart x = true) :
      NumberTail d dotSeen more
  | fraction {more places : List Char} (apart : d.isNumberContinue '.' = false)
      (parts : ∀ x ∈ more, d.isNumberPart x = true) (decimals : d.Numeral places) :
      NumberTail d false (more ++ '.' :: places)

/-- The longest beginning of a text that has the form of a number. -/
structure LongestNumber (d : Definition) (cs text : List Char) : Prop where
  ahead : text <+: cs
  form : d.NumberForm text
  longest : ∀ other, other <+: cs → d.NumberForm other → other.length ≤ text.length

variable {d : Definition} {c : Char} {more text before after : List Char} {dotSeen : Bool}

theorem isNumberPart_of_isDigit (digit : c.isDigit = true) : d.isNumberPart c = true := by
  rw [isNumberPart, digit, Bool.true_or]

theorem isNumberPart_dot (apart : d.isNumberContinue '.' = false) : d.isNumberPart '.' = false := by
  rw [isNumberPart, apart]
  rfl

theorem Numeral.parts (numeral : d.Numeral text) : ∀ x ∈ text, d.isNumberPart x = true := by
  obtain ⟨digit, parts⟩ := numeral
  exact List.forall_mem_cons.mpr ⟨isNumberPart_of_isDigit digit, parts⟩

theorem Numeral.dot_not_mem (apart : d.isNumberContinue '.' = false) (numeral : d.Numeral text) :
    '.' ∉ text := by
  intro member
  have part := numeral.parts '.' member
  rw [isNumberPart_dot apart] at part
  cases part

theorem NumberTail.cons (part : d.isNumberPart c = true) (tail : d.NumberTail dotSeen more) :
    d.NumberTail dotSeen (c :: more) := by
  cases tail with
  | whole parts => exact .whole (List.forall_mem_cons.mpr ⟨part, parts⟩)
  | fraction apart parts decimals =>
    rw [← List.cons_append]
    exact .fraction apart (List.forall_mem_cons.mpr ⟨part, parts⟩) decimals

/-- A dot that a digit follows begins a fraction, or is a part like any other. -/
theorem NumberTail.point (digit : c.isDigit = true) (tail : d.NumberTail true (c :: more)) :
    d.NumberTail false ('.' :: c :: more) := by
  obtain ⟨parts⟩ := tail
  by_cases apart : d.isNumberContinue '.' = false
  · have decimals := (List.forall_mem_cons.mp parts).2
    have fraction := NumberTail.fraction apart (List.forall_mem_nil _) ⟨digit, decimals⟩
    exact fraction
  · have part : d.isNumberPart '.' = true := by simp [isNumberPart, apart]
    exact .whole (List.forall_mem_cons.mpr ⟨part, parts⟩)

theorem numberForm_cons (digit : c.isDigit = true) (tail : d.NumberTail false more) :
    d.NumberForm (c :: more) := by
  cases tail with
  | whole parts => exact .whole ⟨digit, parts⟩
  | fraction apart parts decimals => exact .fraction apart ⟨digit, parts⟩ decimals

/-- Only one dot is taken, and a digit follows it. -/
theorem NumberForm.single_dot (form : d.NumberForm (before ++ '.' :: after))
    (apart : d.isNumberContinue '.' = false) :
    '.' ∉ before ∧ '.' ∉ after ∧ after.head?.any Char.isDigit = true := by
  generalize whole : before ++ '.' :: after = text at form
  cases form with
  | whole numeral =>
    have member : '.' ∈ text := by simp [← whole]
    exact absurd member (numeral.dot_not_mem apart)
  | @fraction text places _ numeral decimals =>
    have left := numeral.dot_not_mem apart
    have right := decimals.dot_not_mem apart
    obtain ⟨rfl, -, rfl⟩ := (List.append_cons_inj_of_notMem left right).mp whole.symm
    obtain ⟨digit, _⟩ := decimals
    exact ⟨left, right, digit⟩

end Definition

namespace Scan
open Definition
variable {d : Definition} {c : Char} {rest more places : List Char} {dotSeen : Bool}

/-- What is taken after the first digit of a number has the form of what may follow it. -/
theorem numberTail_take (d : Definition) (dotSeen : Bool) (rest : List Char) :
    d.NumberTail dotSeen (rest.take (numberRest d dotSeen rest)) := by
  induction rest generalizing dotSeen with
  | nil => exact .whole (by simp)
  | cons c rest ih =>
    simp only [numberRest]
    split
    · rename_i digit
      rw [List.take_succ_cons]
      exact (ih dotSeen).cons (isNumberPart_of_isDigit digit)
    · split
      · rename_i point
        simp only [Bool.and_eq_true, decide_eq_true_eq, Bool.not_eq_true'] at point
        obtain ⟨⟨rfl, rfl⟩, follows⟩ := point
        rw [List.take_succ_cons]
        cases rest with
        | nil => cases follows
        | cons e rest =>
          have digit : e.isDigit = true := follows
          have later := ih true
          simp only [numberRest, digit, if_true, List.take_succ_cons] at later ⊢
          exact later.point digit
      · split
        · rename_i continues
          rw [List.take_succ_cons]
          exact (ih dotSeen).cons (by simp [isNumberPart, continues])
        · exact .whole (by simp)

/-- No more of what may be anywhere is ahead than what is taken. -/
theorem le_numberRest_of_parts (ahead : more <+: rest)
    (parts : ∀ x ∈ more, d.isNumberPart x = true) : more.length ≤ numberRest d dotSeen rest := by
  induction more generalizing rest dotSeen with
  | nil => exact Nat.zero_le _
  | cons c more ih =>
    obtain ⟨part, parts⟩ := List.forall_mem_cons.mp parts
    obtain ⟨left, rfl⟩ := ahead
    have later {dotSeen : Bool} : more.length ≤ numberRest d dotSeen (more ++ left) :=
      ih (List.prefix_append more left) parts
    rw [List.cons_append, numberRest, List.length_cons]
    split
    · exact Nat.succ_le_succ later
    · rename_i noDigit
      split
      · exact Nat.succ_le_succ later
      · have continues : d.isNumberContinue c = true := by simpa [isNumberPart, noDigit] using part
        rw [if_pos continues]
        exact Nat.succ_le_succ later

theorem le_numberRest_of_fraction (apart : d.isNumberContinue '.' = false)
    (ahead : more ++ '.' :: places <+: rest) (parts : ∀ x ∈ more, d.isNumberPart x = true)
    (decimals : d.Numeral places) : (more ++ '.' :: places).length ≤ numberRest d false rest := by
  induction more generalizing rest with
  | nil =>
    obtain ⟨left, rfl⟩ := ahead
    have later : places.length ≤ numberRest d true (places ++ left) :=
      le_numberRest_of_parts (List.prefix_append places left) decimals.parts
    obtain ⟨digit, _⟩ := decimals
    have noDigit : '.'.isDigit = false := rfl
    simp [numberRest, noDigit, digit] at later ⊢
    omega
  | cons c more ih =>
    obtain ⟨part, parts⟩ := List.forall_mem_cons.mp parts
    obtain ⟨left, rfl⟩ := ahead
    have later := ih (List.prefix_append _ left) parts
    have other : c ≠ '.' := by
      rintro rfl
      rw [isNumberPart_dot apart] at part
      cases part
    rw [List.cons_append, List.cons_append, numberRest, List.length_cons]
    split
    · exact Nat.succ_le_succ later
    · rename_i noDigit
      have continues : d.isNumberContinue c = true := by simpa [isNumberPart, noDigit] using part
      rw [if_neg (by simp [other]), if_pos continues]
      exact Nat.succ_le_succ later

/-- The rule for numbers takes the longest beginning that has the form of a number. -/
theorem longestNumber_numberRest (digit : c.isDigit = true) (rest : List Char) :
    d.LongestNumber (c :: rest) (c :: rest.take (numberRest d false rest)) := by
  have fits := numberRest_le d false rest
  refine ⟨?_, numberForm_cons digit (numberTail_take d false rest), ?_⟩
  · exact (List.prefix_cons_inj c).mpr (List.take_prefix _ rest)
  · intro other ahead form
    rw [List.length_cons, List.length_take, Nat.min_eq_left fits]
    cases form with
    | whole numeral =>
      obtain ⟨_, parts⟩ := numeral
      obtain ⟨rfl, inside⟩ := List.cons_prefix_cons.mp ahead
      exact Nat.succ_le_succ (le_numberRest_of_parts inside parts)
    | fraction apart numeral decimals =>
      obtain ⟨_, parts⟩ := numeral
      obtain ⟨rfl, inside⟩ := List.cons_prefix_cons.mp ahead
      exact Nat.succ_le_succ (le_numberRest_of_fraction apart inside parts decimals)

/-- The rule for numbers applies to `c` when `rest` follows: it is a digit, and no earlier rule
does. -/
structure OpensNumber (d : Definition) (c : Char) (rest : List Char) : Prop where
  ruled : d.plain = false
  uncommented : startsComment d (c :: rest) = false
  unopened : d.delimiterFor? c = none
  noWord : d.isWordStart c = false
  digit : c.isDigit = true

theorem OpensNumber.lexeme_eq (opens : OpensNumber d c rest) :
    lexeme d c rest = ⟨numberRest d false rest, .number⟩ :=
  (Applies.number opens.ruled opens.uncommented opens.unopened opens.noWord opens.digit).lexeme_eq

theorem kind_lexeme_eq_number_iff : (lexeme d c rest).kind = .number ↔ OpensNumber d c rest := by
  constructor
  · intro kind
    have applies := applies_lexeme d c rest
    generalize lexeme d c rest = first at applies kind
    cases applies with
    | number ruled uncommented unopened noWord digit =>
      exact ⟨ruled, uncommented, unopened, noWord, digit⟩
    | @block marks => rcases kind_blockLexeme marks rest with other | other <;> simp [other] at kind
    | @literal delimiter =>
      rcases kind_literalLexeme delimiter rest with other | other <;> simp [other] at kind
    | word => rcases kind_wordLexeme d c rest with ⟨_, other⟩ | other <;> simp [other] at kind
    | _ => cases kind
  · intro opens
    rw [opens.lexeme_eq]

/-- The rule for numbers applies at the beginning of this text. -/
def NumberAhead (d : Definition) (cs : List Char) : Prop :=
  ∃ c rest, cs = c :: rest ∧ OpensNumber d c rest

theorem numberAhead_cons : NumberAhead d (c :: rest) ↔ OpensNumber d c rest := by
  constructor
  · rintro ⟨_, _, same, opens⟩
    obtain ⟨rfl, rfl⟩ := List.cons.inj same
    exact opens
  · intro opens
    exact ⟨c, rest, rfl, opens⟩

end Scan

namespace Scanner
open Scan

/-- Where the rule for numbers applies, and nowhere else, the token is a number, and it is the longest
beginning of what is ahead that has the form of one. Unless a language allows dots anywhere in a
number, none is taken that no digit follows, and no second one. -/
theorem numbers_are_longest_matches (d : Definition) (b : Buffer) (start : Nat)
    (emitWhitespace : Bool) :
    ∃ ts, Yields (Scanner.start d b start emitWhitespace) ts ∧
      (NumberAhead d (b.chars.drop start) → ∃ t ∈ ts.head?, t.start = start ∧ t.kind = .number) ∧
      ∀ t ∈ ts, (t.kind = .number ↔ NumberAhead d (b.chars.drop t.start)) ∧
        (t.kind = .number → ∃ text, t.text? b = some text ∧
          d.LongestNumber (b.chars.drop t.start) text ∧
          (d.isNumberContinue '.' = false → ∀ before after, text = before ++ '.' :: after →
            '.' ∉ before ∧ '.' ∉ after ∧ after.head?.any Char.isDigit = true)) := by
  refine ⟨_, yields_tokens d b start emitWhitespace, ?_, ?_⟩
  · rintro ⟨c, rest, ahead, opens⟩
    have inside : min start b.length = start := by
      have length := congrArg List.length ahead
      rw [List.length_drop, List.length_cons] at length
      rw [Buffer.length]
      omega
    refine ⟨⟨start, numberRest d false rest + 1, .number⟩, ?_, rfl, rfl⟩
    rw [tokens, ahead, tokensFrom_cons, opens.lexeme_eq, inside]
    simp [isGiven]
  · intro t member
    obtain ⟨c, rest, ahead, taken, kind⟩ := text_of_mem_tokens member
    rw [ahead, numberAhead_cons, kind]
    refine ⟨kind_lexeme_eq_number_iff, ?_⟩
    intro number
    have opens := kind_lexeme_eq_number_iff.mp number
    have longest := longestNumber_numberRest (d := d) opens.digit rest
    rw [opens.lexeme_eq] at taken
    refine ⟨_, taken, longest, ?_⟩
    intro apart before after split
    exact (split ▸ longest.form).single_dot apart

/-- A language whose numbers may have an exponent. -/
def scientific : Definition := .build { name := "N", numberContinue := "e" }

/-- A number with an exponent between an operator and a second dot. -/
def pointed : Buffer := .ofText "b" "+1.5e3.7.".toList

theorem second_dot_is_left : NumberAhead scientific (pointed.chars.drop 1) ∧
    ∃ ts, Yields (Scanner.start scientific pointed 1 false) ts ∧
      (∃ t ∈ ts.head?, t.start = 1 ∧ t.kind = .number) ∧
      ⟨1, 5, .number⟩ ∈ ts ∧ NumberAhead scientific (pointed.chars.drop 1) ∧
      scientific.LongestNumber (pointed.chars.drop 1) ['1', '.', '5', 'e', '3'] ∧
      scientific.isNumberContinue '.' = false ∧ '.' ∉ ['5', 'e', '3'] := by
  obtain ⟨ts, given, first, numbers⟩ := numbers_are_longest_matches scientific pointed 1 false
  have ahead : pointed.chars.drop 1 = '1' :: ['.', '5', 'e', '3', '.', '7', '.'] := by
    decide +kernel
  have begins : NumberAhead scientific (pointed.chars.drop 1) := by
    rw [ahead, numberAhead_cons]
    exact ⟨rfl, by decide +kernel, by decide +kernel, by decide +kernel, rfl⟩
  have member : ⟨1, 5, .number⟩ ∈ ts := by
    rw [given.unique (yields_tokens scientific pointed 1 false)]
    decide +kernel
  obtain ⟨number, taking⟩ := numbers _ member
  obtain ⟨text, taken, longest, dots⟩ := taking rfl
  have spelled : Token.text? ⟨1, 5, .number⟩ pointed = some ['1', '.', '5', 'e', '3'] := by
    decide +kernel
  obtain rfl := Option.some.inj (taken.symm.trans spelled)
  have apart : scientific.isNumberContinue '.' = false := by decide +kernel
  exact ⟨begins, ts, given, first begins, member, number.mp rfl, longest, apart,
    (dots apart ['1'] ['5', 'e', '3'] rfl).2.1⟩

end Scanner
end Highlighter
