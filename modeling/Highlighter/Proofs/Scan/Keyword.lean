import Highlighter.Proofs.Scan.Classification
import Highlighter.Proofs.Scan.Restart

/-! A keyword is recognized wherever it stands. Its first character is one that words begin with and
the others are ones that words go on with, so the rule for words takes it as a whole, whatever it is
made of; and the rule takes no more when no word goes on with the next character. What stands before
the keyword matters only in that a token has to begin there. -/
namespace Highlighter

namespace Scan

/-- A token can begin at an offset: the scan begins there, or one of its tokens begins or ends. -/
def Boundary (first : Nat) (ts : List Token) (offset : Nat) : Prop :=
  offset = first ∨ ∃ t ∈ ts, offset = t.start ∨ offset = t.stop

/-- A keyword stands in a buffer between two texts, where neither a comment nor a literal begins, and
no word goes on with what comes after it. -/
structure Exposed (d : Definition) (b : Buffer) (before : List Char) (k : Keyword)
    (after : List Char) : Prop where
  text : b.chars = before ++ (k.text.toList ++ after)
  listed : k ∈ d.keywords.entries
  filled : k.text ≠ ""
  unblocked : ∀ marks ∈ d.blockComment, ¬marks.opening.toList <+: k.text.toList ++ after
  unlined : ∀ mark ∈ d.lineComment, ¬mark.toList <+: k.text.toList ++ after
  unopened : ∀ delimiter ∈ d.delimiters, k.text.toList.head? ≠ some delimiter.opening
  ended : ∀ next ∈ after.head?, d.isWordContinue next = false

variable {d : Definition} {b : Buffer} {c : Char} {before later after : List Char} {k : Keyword}

theorem token_at_boundary {first offset : Nat}
    (boundary : Boundary first (tokens d b first true) offset) (inside : offset < b.length) :
    ∃ t ∈ tokens d b first true, t.start = offset := by
  have gapless := gapless_tokens_from d b first
  rcases boundary with rfl | ⟨t, member, rfl | rfl⟩
  · rw [Nat.min_eq_left (Nat.le_of_lt inside)] at gapless
    exact gapless.exists_start inside
  · exact ⟨t, member, rfl⟩
  · exact gapless.exists_next member inside

theorem takeWhile_append_of_stop {p : Char → Bool} (all : ∀ c ∈ later, p c = true)
    (stop : ∀ next ∈ after.head?, p next = false) : (later ++ after).takeWhile p = later := by
  rw [List.takeWhile_append_of_pos all]
  cases after with
  | nil => rw [List.takeWhile_nil, List.append_nil]
  | cons next rest =>
    have stop := stop next rfl
    rw [List.takeWhile_cons_of_neg (Bool.not_eq_true _ ▸ stop), List.append_nil]

/-- The rule for words takes the whole keyword, and the table has it. -/
theorem wordLexeme_keyword (coherent : d.Coherent) (listed : k ∈ d.keywords.entries)
    (spelled : k.text.toList = c :: later)
    (ended : ∀ next ∈ after.head?, d.isWordContinue next = false) :
    wordLexeme d c (later ++ after) = ⟨later.length, .keyword k.group⟩ := by
  have goesOn : ∀ next ∈ later, d.isWordContinue next = true := by
    intro next member
    have inside : next ∈ d.keyContinue := by
      apply coherent.continues k listed
      rw [spelled, List.drop_one]
      exact member
    rw [Definition.isWordContinue, CharSet.contains_iff.mpr inside]
    rfl
  have found : d.lookup (String.ofList (c :: later)) = some k.group := by
    rw [← spelled, String.ofList_toList]
    exact KeywordTable.lookup_eq_some_iff.mpr listed
  rw [wordLexeme, takeWhile_append_of_stop goesOn ended, wordKind, found]

theorem Exposed.spelled (exposed : Exposed d b before k after) :
    ∃ c later, k.text.toList = c :: later :=
  List.exists_cons_of_ne_nil (mt String.toList_eq_nil_iff.mp exposed.filled)

theorem Exposed.uncommented (exposed : Exposed d b before k after) :
    startsComment d (k.text.toList ++ after) = false := by
  rw [startsComment_eq_false_iff]
  constructor
  · rw [Option.eq_none_iff_forall_ne_some]
    intro marks begins
    obtain ⟨given, _, opens⟩ := blockComment?_eq_some_iff.mp begins
    exact exposed.unblocked marks given opens
  · rw [Option.eq_none_iff_forall_ne_some]
    intro mark begins
    obtain ⟨given, _, opens⟩ := lineComment?_eq_some_iff.mp begins
    exact exposed.unlined mark given opens

theorem Exposed.delimiterFor?_eq_none (exposed : Exposed d b before k after)
    (spelled : k.text.toList = c :: later) : d.delimiterFor? c = none := by
  rw [Definition.delimiterFor?, List.find?_eq_none]
  intro delimiter declared opens
  apply exposed.unopened delimiter declared
  rw [spelled, List.head?_cons, of_decide_eq_true opens]

theorem Exposed.lexeme_eq (coherent : d.Coherent) (exposed : Exposed d b before k after)
    (spelled : k.text.toList = c :: later) :
    lexeme d c (later ++ after) = ⟨later.length, .keyword k.group⟩ := by
  have uncommented := exposed.uncommented
  rw [spelled, List.cons_append] at uncommented
  have unopened := exposed.delimiterFor?_eq_none spelled
  have starts : d.isWordStart c = true := by
    have inside : c ∈ d.keyStart := by
      apply coherent.starts k exposed.listed
      rw [spelled]
      exact List.mem_cons_self
    rw [Definition.isWordStart, CharSet.contains_iff.mpr inside]
    rfl
  rw [(Applies.word coherent.ruled uncommented unopened starts).lexeme_eq]
  exact wordLexeme_keyword coherent exposed.listed spelled exposed.ended

/-- The token that begins where a keyword stands is this keyword. -/
theorem Exposed.token_eq (coherent : d.Coherent) (exposed : Exposed d b before k after) {first : Nat}
    {emitWhitespace : Bool} {t : Token} (member : t ∈ tokens d b first emitWhitespace)
    (begins : t.start = before.length) :
    t = ⟨before.length, k.text.length, .keyword k.group⟩ := by
  obtain ⟨first, later, spelled⟩ := exposed.spelled
  obtain ⟨c, rest, ahead, length, kind⟩ := lexeme_of_mem_tokens member
  rw [begins, exposed.text, List.drop_left, spelled, List.cons_append, List.cons.injEq] at ahead
  obtain ⟨rfl, rfl⟩ := ahead
  rw [exposed.lexeme_eq coherent spelled] at length kind
  have whole : k.text.length = later.length + 1 := by
    rw [← String.length_toList, spelled, List.length_cons]
  cases t
  simp only [Token.mk.injEq]
  exact ⟨begins, length.trans whole.symm, kind⟩

end Scan

namespace Scanner
open Scan

/-- A keyword is recognized wherever a token can begin. -/
def RecognizesKeywords (d : Definition) (b : Buffer) : Prop :=
  ∀ before k after, Exposed d b before k after →
    ∀ first us, Yields (Scanner.start d b first true) us → Boundary first us before.length →
      ∀ emitWhitespace, ∃ ts, Yields (Scanner.start d b first emitWhitespace) ts ∧
        ∀ t, t ∈ ts ∧ t.start = before.length ↔
          t = ⟨before.length, k.text.length, .keyword k.group⟩

theorem recognizesKeywords_of_coherent {d : Definition} (coherent : d.Coherent) (b : Buffer) :
    RecognizesKeywords d b := by
  intro before k after exposed first us given boundary emitWhitespace
  rw [given.unique (yields_tokens d b first true)] at boundary
  have inside : before.length < b.length := by
    obtain ⟨c, later, spelled⟩ := exposed.spelled
    have total := congrArg List.length exposed.text
    rw [List.length_append, List.length_append, spelled, List.length_cons] at total
    rw [Buffer.length]
    omega
  obtain ⟨t, member, begins⟩ := token_at_boundary boundary inside
  have same := exposed.token_eq coherent member begins
  refine ⟨_, yields_tokens d b first emitWhitespace, ?_⟩
  intro u
  constructor
  · rintro ⟨among, starts⟩
    exact exposed.token_eq coherent among starts
  · rintro rfl
    rw [← same, begins]
    rw [tokens_true] at member
    refine ⟨List.mem_filter.mpr ⟨member, ?_⟩, rfl⟩
    rw [same, isGiven, Bool.or_eq_true]
    exact .inr rfl

/-- In a language that was built or read, a keyword is recognized wherever a token can begin, neither
a comment nor a literal begins with it, and no word goes on after it. -/
theorem keywords_are_recognized_anywhere :
    (∀ declared b, RecognizesKeywords (.build declared) b) ∧
    ∀ text d, Compiled.parse text = .ok d → ∀ b, RecognizesKeywords d b := by
  constructor
  · intro declared b
    exact recognizesKeywords_of_coherent (Definition.build_coherent declared) b
  · intro text d read b
    exact recognizesKeywords_of_coherent (Compiled.parse_coherent read).1 b

/-- A language with a keyword that begins like a number and has a blank and a quote in it. -/
def oddlyWorded : Definition :=
  .build { name := "K", groups := [⟨"plain", ["if"]⟩, ⟨"odd", ["0 \x22+"]⟩] }

def oddWord : Keyword := ⟨"0 \x22+", ⟨1⟩⟩

/-- The odd keyword between an operator and a punctuation mark. -/
def oddText : Buffer := .ofText "b" "y-0 \x22+;".toList

/-- A keyword between an operator and a punctuation mark. -/
def arrowText : Buffer := .ofText "b" "+->:if".toList

theorem odd_words_among_operators :
    (Exposed oddlyWorded oddText ['y', '-'] oddWord [';'] ∧
      ∃ ts, Yields (Scanner.start oddlyWorded oddText 0 false) ts ∧ ⟨2, 4, .keyword ⟨1⟩⟩ ∈ ts) ∧
    ∃ d, Compiled.parse arrowLines = .ok d ∧
      Exposed d arrowText ['+'] ⟨"->", ⟨1⟩⟩ [':', 'i', 'f'] ∧
      ∃ ts, Yields (Scanner.start d arrowText 1 true) ts ∧ ⟨1, 2, .keyword ⟨1⟩⟩ ∈ ts := by
  obtain ⟨built, read⟩ := keywords_are_recognized_anywhere
  constructor
  · have exposed : Exposed oddlyWorded oddText ['y', '-'] oddWord [';'] := by
      refine ⟨by decide +kernel, by decide +kernel, by decide +kernel, ?_, ?_, by decide +kernel,
        ?_⟩
      · rintro marks ⟨⟩
      · rintro mark ⟨⟩
      · rintro next ⟨⟩
        decide +kernel
    have boundary : Boundary 0 (tokens oddlyWorded oddText 0 true) 2 :=
      .inr ⟨⟨1, 1, .operator⟩, by decide +kernel, .inr rfl⟩
    obtain ⟨ts, given, exactly⟩ := built _ oddText _ _ _ exposed 0 _
      (yields_tokens oddlyWorded oddText 0 true) boundary false
    exact ⟨exposed, ts, given, ((exactly _).mpr rfl).1⟩
  · obtain ⟨d, accepted, passes⟩ : ∃ d, Compiled.parse arrowLines = .ok d ∧
        decide (⟨"->", ⟨1⟩⟩ ∈ d.keywords.entries ∧ d.blockComment = none ∧ d.lineComment = none ∧
          d.delimiters = [] ∧ d.isWordContinue ':' = false) = true :=
      Result.eq_ok_of_any (by decide +kernel)
    obtain ⟨listed, unblocked, unlined, undelimited, ended⟩ := of_decide_eq_true passes
    have exposed : Exposed d arrowText ['+'] ⟨"->", ⟨1⟩⟩ [':', 'i', 'f'] := by
      refine ⟨by decide +kernel, listed, by decide +kernel, ?_, ?_, ?_, ?_⟩
      · simp [unblocked]
      · simp [unlined]
      · simp [undelimited]
      · rintro next ⟨⟩
        exact ended
    obtain ⟨ts, given, exactly⟩ := read _ d accepted arrowText _ _ _ exposed 1 _
      (yields_tokens d arrowText 1 true) (.inl rfl) true
    exact ⟨d, accepted, exposed, ts, given, ((exactly _).mpr rfl).1⟩

end Scanner
end Highlighter
