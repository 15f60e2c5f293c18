import Highlighter.Proofs.Scan.Classification

/-! Literals are read element by element. An element is one character of the literal as it is written
there: a closing character that stands twice, an escape with what it takes along, or a character that
means itself. The elements of a literal are as many as can be read, so what comes after them is the
closing character, a line end that no escape takes along, or the end of the text. -/
namespace Highlighter

namespace Delimiter
open Scan
variable {d : Delimiter}

/-- One character of a literal as it is written when `rest` follows. -/
inductive Element (d : Delimiter) : List Char → List Char → Prop where
  /-- A closing character that is its own escape stands twice. -/
  | doubled {rest : List Char} (escape : d.escape = some d.closing) :
      Element d [d.closing, d.closing] rest
  | lineEnd {e : Char} {rest : List Char} (escape : d.escape = some e) (other : e ≠ d.closing) :
      Element d [e, '\r', '\n'] rest
  | escaped {e c : Char} {rest : List Char} (escape : d.escape = some e) (other : e ≠ d.closing)
      (single : ¬(c = '\r' ∧ rest.head? = some '\n')) : Element d [e, c] rest
  /-- An escape at the end of the text takes nothing along. -/
  | cutOff {e : Char} (escape : d.escape = some e) (other : e ≠ d.closing) : Element d [e] []
  | plain {c : Char} {rest : List Char} (inside : c ≠ d.closing) (unescaped : d.escape ≠ some c)
      (unbroken : Lines.isBreak c = false) : Element d [c] rest

/-- A sequence of elements when `rest` follows. -/
inductive Body (d : Delimiter) : List Char → List Char → Prop where
  | nil {rest : List Char} : Body d [] rest
  | cons {first later rest : List Char} (element : d.Element first (later ++ rest))
      (elements : Body d later rest) : Body d (first ++ later) rest

/-- No element begins this text. -/
inductive Ends (d : Delimiter) : List Char → Prop where
  | text : Ends d []
  | closing {rest : List Char}
      (single : ¬(d.escape = some d.closing ∧ rest.head? = some d.closing)) :
      Ends d (d.closing :: rest)
  | lineEnd {c : Char} {rest : List Char} (other : c ≠ d.closing) (unescaped : d.escape ≠ some c)
      (breaks : Lines.isBreak c = true) : Ends d (c :: rest)

/-- Of the text after its opening character a literal takes the elements `body`, which are as many
as can be read, and `rest` is what comes after them. -/
structure Takes (d : Delimiter) (text body rest : List Char) : Prop where
  whole : text = body ++ rest
  elements : d.Body body rest
  longest : ∀ other left, text = other ++ left → d.Body other left → other.length ≤ body.length

/-- Reading a literal goes over an element as a whole. -/
theorem literalRest_of_element {first rest : List Char} (element : d.Element first rest) :
    literalRest d (first ++ rest) =
      ((literalRest d rest).1 + first.length, (literalRest d rest).2) := by
  cases element with
  | doubled escape => simp [literalRest.eq_def d (_ :: _), escape]
  | lineEnd escape other => simp [literalRest.eq_def d (_ :: _), escape, other]
  | escaped escape other single =>
    cases rest with
    | nil => simp [literalRest, escape, other]
    | cons after rest =>
      rw [List.head?_cons, Option.some.injEq] at single
      simp [literalRest.eq_def d (_ :: _ :: _), escape, other, single]
  | cutOff escape other => simp [literalRest, escape, other]
  | plain inside unescaped unbroken =>
    simp [literalRest.eq_def d (_ :: _), inside, Ne.symm unescaped, unbroken]

theorem literalRest_of_body {body rest : List Char} (elements : d.Body body rest) :
    literalRest d (body ++ rest) =
      ((literalRest d rest).1 + body.length, (literalRest d rest).2) := by
  induction elements with
  | nil => rfl
  | @cons first later rest element _ ih =>
    rw [List.append_assoc, literalRest_of_element element, ih, List.length_append]
    refine Prod.ext ?_ rfl
    dsimp only
    omega

/-- Whether the closing character is next. -/
def closes (d : Delimiter) (rest : List Char) : Bool := rest.head? = some d.closing

theorem literalRest_of_ends {rest : List Char} (ends : d.Ends rest) :
    literalRest d rest = ((d.closes rest).toNat, d.closes rest) := by
  cases ends with
  | text => simp [literalRest, closes]
  | @closing rest single =>
    cases rest with
    | nil => simp [literalRest, closes]
    | cons next tail =>
      rw [List.head?_cons, Option.some.injEq] at single
      simp [literalRest.eq_def d (_ :: _), closes, single]
  | lineEnd other unescaped breaks =>
    simp [literalRest.eq_def d (_ :: _), closes, other, Ne.symm unescaped, breaks]

theorem eq_cons_of_closes {rest : List Char} (closed : d.closes rest = true) :
    ∃ after, rest = d.closing :: after := by
  rw [closes, decide_eq_true_eq, List.head?_eq_some_iff] at closed
  exact closed

/-- A literal that is not closed leaves off before a line end, if there is more text at all. -/
theorem Ends.unclosed {rest : List Char} (ends : d.Ends rest) (unclosed : ¬d.closes rest = true) :
    ∀ next ∈ rest.head?, Lines.isBreak next = true ∧ d.escape ≠ some next := by
  cases ends with
  | text => simp
  | closing => simp [closes] at unclosed
  | lineEnd other unescaped breaks => simp [breaks, unescaped]

/-- A literal ends with its elements, or with the closing character after them. -/
theorem literalRest_of_split {body rest : List Char} (elements : d.Body body rest)
    (ends : d.Ends rest) :
    literalRest d (body ++ rest) = (body.length + (d.closes rest).toNat, d.closes rest) := by
  rw [literalRest_of_body elements, literalRest_of_ends ends, Nat.add_comm]

/-- Every text is a sequence of elements and a text that no element begins. -/
theorem body_then_ends (d : Delimiter) (text : List Char) :
    ∃ body rest, text = body ++ rest ∧ d.Body body rest ∧ d.Ends rest := by
  fun_induction literalRest d text with
  | case1 => exact ⟨[], [], rfl, .nil, .text⟩
  | case2 _ next tail doubled ih =>
    simp only [Bool.and_eq_true, decide_eq_true_eq] at doubled
    obtain ⟨escape, rfl⟩ := doubled
    obtain ⟨body, rest, rfl, elements, ends⟩ := ih
    exact ⟨_, rest, rfl, .cons (.doubled escape) elements, ends⟩
  | case3 next tail single =>
    simp only [Bool.and_eq_true, decide_eq_true_eq] at single
    refine ⟨[], _, rfl, .nil, .closing ?_⟩
    rw [List.head?_cons, Option.some.injEq]
    exact single
  | case4 => exact ⟨[], _, rfl, .nil, .closing (by simp)⟩
  | case5 e other escape =>
    exact ⟨[e] ++ [], [], rfl, .cons (.cutOff escape.symm other) .nil, .text⟩
  | case6 e other escape c =>
    exact ⟨[e, c] ++ [], [], rfl, .cons (.escaped escape.symm other (by simp)) .nil, .text⟩
  | case7 e _ other escape next after tail lineEnd ih =>
    simp only [Bool.and_eq_true, decide_eq_true_eq] at lineEnd
    obtain ⟨rfl, rfl⟩ := lineEnd
    obtain ⟨body, rest, rfl, elements, ends⟩ := ih
    exact ⟨_, rest, rfl, .cons (.lineEnd escape.symm other) elements, ends⟩
  | case8 e _ other escape next after tail single ih =>
    simp only [Bool.and_eq_true, decide_eq_true_eq] at single
    obtain ⟨body, rest, same, elements, ends⟩ := ih
    have escaped : d.Element [e, next] (body ++ rest) := by
      refine .escaped escape.symm other ?_
      rw [← same, List.head?_cons, Option.some.injEq]
      exact single
    refine ⟨[e, next] ++ body, rest, ?_, .cons escaped elements, ends⟩
    rw [same]
    rfl
  | case9 c rest other unescaped breaks =>
    exact ⟨[], _, rfl, .nil, .lineEnd other (Ne.symm unescaped) breaks⟩
  | case10 c tail _ other unescaped unbroken ih =>
    obtain ⟨body, rest, rfl, elements, ends⟩ := ih
    have unbroken := Bool.eq_false_iff.mpr unbroken
    exact ⟨_, rest, rfl, .cons (.plain other (Ne.symm unescaped) unbroken) elements, ends⟩

theorem Body.append {body later rest : List Char} (elements : d.Body body (later ++ rest))
    (others : d.Body later rest) : d.Body (body ++ later) rest := by
  generalize following : later ++ rest = text at elements
  induction elements with
  | nil => exact others
  | @cons first body text element _ ih =>
    subst following
    rw [List.append_assoc]
    apply Body.cons
    · rw [List.append_assoc]
      exact element
    · exact ih rfl

/-- Elements that nothing but their end follows are as many as can be read. -/
theorem takes_of_ends {body rest : List Char} (elements : d.Body body rest) (ends : d.Ends rest) :
    d.Takes (body ++ rest) body rest := by
  refine ⟨rfl, elements, ?_⟩
  intro other left same others
  -- Reading goes on after the other elements, and comes to the same end as after `body`.
  obtain ⟨later, last, rfl, following, ended⟩ := body_then_ends d left
  have here := literalRest_of_split elements ends
  have there := literalRest_of_split (others.append following) ended
  rw [List.append_assoc, ← same, here] at there
  obtain ⟨lengths, closed⟩ := Prod.mk.inj there
  rw [closed, List.length_append] at lengths
  omega

end Delimiter

namespace Scan
variable {d : Definition} {c : Char} {text : List Char} {delimiter : Delimiter}

/-- The rule for literals applies to `c` when `text` follows: no comment begins there, and
`delimiter` is the first one that `c` opens. -/
structure OpensLiteral (d : Definition) (c : Char) (text : List Char) (delimiter : Delimiter) :
    Prop where
  ruled : d.plain = false
  block : blockComment? d (c :: text) = none
  line : lineComment? d (c :: text) = none
  first : d.delimiterFor? c = some delimiter

theorem lexeme_of_opensLiteral (opens : OpensLiteral d c text delimiter) :
    lexeme d c text = literalLexeme delimiter text := by
  rw [lexeme, opens.ruled, if_neg Bool.false_ne_true, ruleLexeme, opens.block, opens.line,
    opens.first]

theorem literalLexeme_of_body {body rest : List Char} (elements : delimiter.Body body rest)
    (ends : delimiter.Ends rest) : literalLexeme delimiter (body ++ rest) =
      ⟨body.length + (delimiter.closes rest).toNat,
        if delimiter.closes rest then .stringLiteral else .unterminatedString⟩ := by
  rw [literalLexeme, Delimiter.literalRest_of_split elements ends]

end Scan

namespace Scanner
open Scan

/-- Where the rule for literals applies, the token has the opening character and as many elements as
can be read after it. With the closing character next it takes this one too; otherwise it leaves off
before a line end that no escape takes along, or at the end of the text. -/
theorem literals_follow_their_delimiter (d : Definition) (b : Buffer) (start : Nat)
    (emitWhitespace : Bool) :
    ∃ ts, Yields (Scanner.start d b start emitWhitespace) ts ∧
      ∀ t ∈ ts, ∀ c text delimiter, b.chars.drop t.start = c :: text →
        OpensLiteral d c text delimiter →
        ∃ body rest, delimiter.Takes text body rest ∧
          if delimiter.closes rest then
            t.kind = .stringLiteral ∧ t.text? b = some (c :: body ++ [delimiter.closing])
          else
            t.kind = .unterminatedString ∧ t.text? b = some (c :: body) ∧
              ∀ next ∈ rest.head?, Lines.isBreak next = true ∧ delimiter.escape ≠ some next := by
  refine ⟨_, yields_tokens d b start emitWhitespace, ?_⟩
  intro t member c text delimiter ahead opens
  obtain ⟨first, later, same, taken, kind⟩ := text_of_mem_tokens member
  obtain ⟨rfl, rfl⟩ := List.cons.inj (ahead.symm.trans same)
  obtain ⟨body, rest, rfl, elements, ends⟩ := delimiter.body_then_ends text
  rw [lexeme_of_opensLiteral opens, literalLexeme_of_body elements ends] at taken kind
  refine ⟨body, rest, Delimiter.takes_of_ends elements ends, ?_⟩
  by_cases closed : delimiter.closes rest = true
  · obtain ⟨after, rfl⟩ := Delimiter.eq_cons_of_closes closed
    rw [if_pos closed] at kind ⊢
    rw [closed, Bool.toNat_true, List.take_length_add_append, List.take_one] at taken
    exact ⟨kind, taken⟩
  · rw [if_neg closed] at kind ⊢
    rw [Bool.eq_false_iff.mpr closed, Bool.toNat_false, Nat.add_zero, List.take_left] at taken
    exact ⟨kind, taken, ends.unclosed closed⟩

/-- A literal in which the closing character is doubled. -/
def doubling : Delimiter := ⟨"text", '\x27', some '\x27', '\x27'⟩

/-- A language whose second delimiter never opens a literal. -/
def quoting : Definition :=
  .build { name := "Q", delimiters := [doubling, ⟨"hidden", '\x27', none, '\n'⟩] }

/-- What follows an opening quote: a doubled quote, and a line end before the next one. -/
def cutOff : List Char := "a\x27\x27\\\n\x27".toList

theorem doubled_quote_before_line_end :
    OpensLiteral quoting '\x27' cutOff doubling ∧
    ∃ body rest, doubling.Takes cutOff body rest ∧
      Token.text? ⟨1, 5, .unterminatedString⟩ (.ofText "b" ('=' :: '\x27' :: cutOff)) =
        some ('\x27' :: body) ∧
      ∀ next ∈ rest.head?, Lines.isBreak next = true ∧ doubling.escape ≠ some next := by
  obtain ⟨ts, given, literals⟩ :=
    literals_follow_their_delimiter quoting (.ofText "b" ('=' :: '\x27' :: cutOff)) 0 true
  have member : ⟨1, 5, .unterminatedString⟩ ∈ ts := by
    rw [given.unique (yields_tokens quoting _ 0 true)]
    decide +kernel
  have opens : OpensLiteral quoting '\x27' cutOff doubling :=
    ⟨rfl, by decide +kernel, by decide +kernel, by decide +kernel⟩
  obtain ⟨body, rest, takes, follows⟩ :=
    literals _ member '\x27' cutOff doubling (by decide +kernel) opens
  refine ⟨opens, body, rest, takes, ?_⟩
  split at follows
  · cases follows.1
  · exact follows.2

end Scanner
end Highlighter
