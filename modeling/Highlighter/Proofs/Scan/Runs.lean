import Highlighter.Proofs.Scan.Classification
import Mathlib.Data.List.Chain

/-! Tokens take all that belongs to them. What lets a run go on is what lets it begin, so the token
after a run is of another kind: where a run of operators leaves off before an operator, a comment or a
literal begins, and a gap leaves off where another rule fits. Words leave off before a character that
no word goes on with; another word may begin with this one. -/
namespace Highlighter

namespace TokenKind

/-- Identifiers and keywords. -/
def isWord : TokenKind → Bool
  | identifier | keyword _ => true
  | _ => false

/-- The kinds whose tokens go on as long as they could begin; words do so in plain texts only. -/
def isRun (d : Definition) : TokenKind → Bool
  | whitespace | operator | number => true
  | identifier => d.plain
  | _ => false

end TokenKind

namespace Scan
variable {d : Definition} {c next : Char} {rest after : List Char}

/-- A run of this kind has the character `c` when `rest` follows. -/
def RunsOn (d : Definition) (kind : TokenKind) (c : Char) (rest : List Char) : Prop :=
  match kind with
  | .whitespace => if d.plain then Text.isBlank c = true else startsToken d c rest = false
  | .operator => startsComment d (c :: rest) = false ∧ d.delimiterFor? c = none ∧
      d.isOperator c = true
  | .number => c.isDigit = true
  | .identifier => Text.isBlank c = false
  | _ => False

/-- The lexeme begins like a run of its kind, and the run does not go on after it. -/
structure Lexeme.Maximal (d : Definition) (c : Char) (rest : List Char) (first : Lexeme) : Prop where
  begins : RunsOn d first.kind c rest
  ends : ∀ next after, rest.drop first.more = next :: after → ¬RunsOn d first.kind next after

theorem take_runLength (p : Char → Bool) (rest : List Char) :
    rest.take (runLength p rest) = rest.takeWhile p :=
  (List.prefix_iff_eq_take.mp (List.takeWhile_prefix p)).symm

theorem stop_of_runLength {p : Char → Bool} (ahead : rest.drop (runLength p rest) = next :: after) :
    p next = false := by
  induction rest with
  | nil => cases ahead
  | cons c rest ih =>
    by_cases goesOn : p c = true
    · rw [runLength, List.takeWhile_cons_of_pos goesOn] at ahead
      exact ih ahead
    · rw [runLength, List.takeWhile_cons_of_neg goesOn] at ahead
      rw [← (List.cons.inj ahead).1]
      exact Bool.eq_false_iff.mpr goesOn

theorem stop_of_operatorRest (ahead : rest.drop (operatorRest d rest) = next :: after) :
    ¬RunsOn d .operator next after := by
  induction rest with
  | nil => cases ahead
  | cons c rest ih =>
    simp only [operatorRest] at ahead
    split at ahead
    · rename_i stops
      obtain ⟨rfl, rfl⟩ := List.cons.inj ahead
      rintro ⟨uncommented, unopened, operator⟩
      simp [uncommented, unopened, operator] at stops
    · exact ih ahead

theorem stop_of_gapRest (ahead : rest.drop (gapRest d rest) = next :: after) :
    startsToken d next after = true := by
  induction rest with
  | nil => cases ahead
  | cons c rest ih =>
    simp only [gapRest] at ahead
    split at ahead
    · rename_i starts
      obtain ⟨rfl, rfl⟩ := List.cons.inj ahead
      exact starts
    · exact ih ahead

theorem stop_of_numberRest {dotSeen : Bool}
    (ahead : rest.drop (numberRest d dotSeen rest) = next :: after) : next.isDigit = false := by
  induction rest generalizing dotSeen with
  | nil => cases ahead
  | cons c rest ih =>
    simp only [numberRest] at ahead
    split at ahead
    · exact ih ahead
    · rename_i noDigit
      split at ahead
      · exact ih ahead
      · split at ahead
        · exact ih ahead
        · rw [← (List.cons.inj ahead).1]
          exact Bool.eq_false_iff.mpr noDigit

/-- A lexeme whose kind is a run takes all of it. -/
theorem maximal_lexeme (run : (lexeme d c rest).kind.isRun d = true) :
    (lexeme d c rest).Maximal d c rest := by
  have applies := applies_lexeme d c rest
  generalize lexeme d c rest = first at applies run ⊢
  cases applies with
  | blanks plain blank =>
    constructor
    · simp [RunsOn, plain, blank]
    · intro next after ahead
      simp [RunsOn, plain, stop_of_runLength ahead]
  | solid plain solid =>
    refine ⟨solid, ?_⟩
    intro next after ahead
    have stop := stop_of_runLength ahead
    simp only [Bool.not_eq_false'] at stop
    simp [RunsOn, stop]
  | @block marks =>
    rcases kind_blockLexeme marks rest with kind | kind <;> simp [kind, TokenKind.isRun] at run
  | line => cases run
  | @literal delimiter =>
    rcases kind_literalLexeme delimiter rest with kind | kind <;> simp [kind, TokenKind.isRun] at run
  | word ruled =>
    rcases kind_wordLexeme d c rest with ⟨group, kind⟩ | kind <;>
      simp [kind, TokenKind.isRun, ruled] at run
  | number ruled uncommented unopened noWord digit =>
    refine ⟨digit, ?_⟩
    intro next after ahead
    exact Bool.eq_false_iff.mp (stop_of_numberRest ahead)
  | operator ruled uncommented unopened noWord noDigit operator =>
    refine ⟨⟨uncommented, unopened, operator⟩, ?_⟩
    intro next after ahead
    exact stop_of_operatorRest ahead
  | punctuation => cases run
  | gap ruled left =>
    constructor
    · simp [RunsOn, ruled, left]
    · intro next after ahead
      simp [RunsOn, ruled, stop_of_gapRest ahead]

/-- A token whose kind is a run is followed by one of another kind. -/
theorem isChain_tokensFrom (d : Definition) (offset : Nat) (cs : List Char) :
    (tokensFrom d offset cs).IsChain fun t u => t.kind.isRun d = true → u.kind ≠ t.kind := by
  fun_induction tokensFrom d offset cs with
  | case1 => exact .nil
  | case2 offset c rest first ih =>
    refine List.isChain_cons.mpr ⟨?_, ih⟩
    intro u follows run same
    cases ahead : rest.drop first.more with
    | nil =>
      rw [ahead, tokensFrom_nil] at follows
      cases follows
    | cons next after =>
      rw [ahead, tokensFrom_cons] at follows
      obtain rfl := Option.some.inj follows
      have second : (lexeme d next after).kind = (lexeme d c rest).kind := same
      have begins := (maximal_lexeme (second ▸ run)).begins
      rw [second] at begins
      exact (maximal_lexeme run).ends next after ahead begins

/-- A word comes from the rule for words. -/
theorem lexeme_of_isWord (ruled : d.plain = false) (word : (lexeme d c rest).kind.isWord = true) :
    lexeme d c rest = wordLexeme d c rest ∧ d.isWordStart c = true := by
  have applies := applies_lexeme d c rest
  generalize lexeme d c rest = first at applies word ⊢
  cases applies with
  | blanks plain | solid plain =>
    rw [ruled] at plain
    cases plain
  | @block marks =>
    rcases kind_blockLexeme marks rest with kind | kind <;> simp [kind, TokenKind.isWord] at word
  | @literal delimiter =>
    rcases kind_literalLexeme delimiter rest with kind | kind <;> simp [kind, TokenKind.isWord] at word
  | word _ _ _ starts => exact ⟨rfl, starts⟩
  | line | number | operator | punctuation | gap => cases word

/-- In a plain text the kind of a token and its characters say the same. -/
theorem plainRun_lexeme (plain : d.plain = true) :
    ((lexeme d c rest).kind = .identifier ∧
        ∀ x ∈ c :: rest.take (lexeme d c rest).more, Text.isBlank x = false) ∨
      (lexeme d c rest).kind = .whitespace ∧
        ∀ x ∈ c :: rest.take (lexeme d c rest).more, Text.isBlank x = true := by
  rw [lexeme, if_pos plain, plainLexeme]
  split
  · rename_i blank
    refine .inr ⟨rfl, List.forall_mem_cons.mpr ⟨blank, ?_⟩⟩
    rw [take_runLength]
    exact fun x => List.mem_takeWhile_imp
  · rename_i solid
    refine .inl ⟨rfl, List.forall_mem_cons.mpr ⟨Bool.eq_false_iff.mpr solid, ?_⟩⟩
    rw [take_runLength]
    intro x member
    simpa using List.mem_takeWhile_imp member

end Scan

namespace Token
open Scan

/-- The token begins as a word does and goes on as one does, as far as any word would. -/
def WholeWord (d : Definition) (b : Buffer) (t : Token) : Prop :=
  ∃ c more, t.text? b = some (c :: more) ∧ d.isWordStart c = true ∧
    (∀ x ∈ more, d.isWordContinue x = true) ∧
    ∀ next ∈ b.charAt? t.stop, d.isWordContinue next = false

/-- The token is a word without blanks, or it is blank. -/
def PlainRun (b : Buffer) (t : Token) : Prop :=
  ∃ text, t.text? b = some text ∧
    (t.kind = .identifier ∧ (∀ x ∈ text, Text.isBlank x = false) ∨
      t.kind = .whitespace ∧ ∀ x ∈ text, Text.isBlank x = true)

variable {d : Definition} {b : Buffer} {start : Nat} {emitWhitespace : Bool} {t : Token}

theorem wholeWord_of_mem_tokens (ruled : d.plain = false)
    (member : t ∈ tokens d b start emitWhitespace) (word : t.kind.isWord = true) :
    t.WholeWord d b := by
  obtain ⟨c, rest, ahead, length, kind⟩ := lexeme_of_mem_tokens member
  obtain ⟨_, _, same, text, _⟩ := text_of_mem_tokens member
  obtain ⟨rfl, rfl⟩ := List.cons.inj (ahead.symm.trans same)
  obtain ⟨first, starts⟩ := lexeme_of_isWord ruled (kind ▸ word)
  rw [first, wordLexeme] at text length
  refine ⟨c, _, text, starts, ?_, ?_⟩
  · rw [← runLength, take_runLength]
    exact fun x => List.mem_takeWhile_imp
  · intro next follows
    have onward : b.chars.drop t.stop = rest.drop (runLength d.isWordContinue rest) := by
      rw [stop, ← List.drop_drop, ahead, length, List.drop_succ_cons]
      rfl
    rw [Buffer.charAt?, ← List.head?_drop, onward, Option.mem_def, List.head?_eq_some_iff] at follows
    obtain ⟨after, ahead⟩ := follows
    exact stop_of_runLength ahead

theorem plainRun_of_mem_tokens (plain : d.plain = true)
    (member : t ∈ tokens d b start emitWhitespace) : t.PlainRun b := by
  obtain ⟨c, rest, _, text, kind⟩ := text_of_mem_tokens member
  refine ⟨_, text, ?_⟩
  rw [kind]
  exact plainRun_lexeme plain

/-- All tokens of a plain text are runs. -/
theorem PlainRun.isRun (plain : d.plain = true) (run : t.PlainRun b) : t.kind.isRun d = true := by
  obtain ⟨_, _, ⟨kind, _⟩ | ⟨kind, _⟩⟩ := run
  · rw [kind]
    exact plain
  · rw [kind]
    rfl

end Token

namespace Scanner
open Scan

/-- Whitespace, operators and numbers never stand next to their own kind. In a language with rules
every word is whole; in a plain text words without blanks and blanks take turns. -/
theorem tokens_are_maximal_runs (d : Definition) (b : Buffer) (start : Nat) :
    ∃ ts, Yields (Scanner.start d b start true) ts ∧
      (∀ kind ∈ [TokenKind.whitespace, .operator, .number],
        ts.IsChain fun t u => ¬(t.kind = kind ∧ u.kind = kind)) ∧
      if d.plain then
        (ts.IsChain fun t u => t.kind ≠ u.kind) ∧ ∀ t ∈ ts, t.PlainRun b
      else ∀ t ∈ ts, t.kind.isWord = true → t.WholeWord d b := by
  have chain : (tokens d b start true).IsChain fun t u =>
      t.kind.isRun d = true → u.kind ≠ t.kind := by
    rw [tokens_true]
    exact isChain_tokensFrom d _ _
  refine ⟨_, yields_tokens d b start true, ?_, ?_⟩
  · intro kind listed
    have run : kind.isRun d = true := by
      simp only [List.mem_cons, List.not_mem_nil, or_false] at listed
      rcases listed with rfl | rfl | rfl <;> rfl
    refine chain.imp fun t u apart => ?_
    rintro ⟨rfl, same⟩
    exact apart run same
  · split
    · rename_i plain
      have runs : ∀ t ∈ tokens d b start true, t.PlainRun b :=
        fun t => Token.plainRun_of_mem_tokens plain
      refine ⟨?_, runs⟩
      rw [List.isChain_iff_forall_rel_of_append_cons_cons] at chain ⊢
      intro t u earlier later whole
      have member : t ∈ tokens d b start true := by simp [whole]
      exact (chain whole ((runs t member).isRun plain)).symm
    · rename_i ruled
      intro t member word
      exact Token.wholeWord_of_mem_tokens (Bool.eq_false_iff.mpr ruled) member word

/-- A language with a keyword that begins with a punctuation mark. -/
def hashed : Definition :=
  .build { name := "H", lineComment := some "//", groups := [⟨"x", ["#in"]⟩] }

/-- Two words without a gap, two numbers with a dot between them, and operators before a comment. -/
def adjoining : Buffer := .ofText "b" "a#in 1.2.3+//x".toList

theorem keyword_adjoins_identifier :
    (∃ ts, Yields (Scanner.start hashed adjoining 0 true) ts ∧
      (ts.IsChain fun t u => ¬(t.kind = .number ∧ u.kind = .number)) ∧
      ⟨0, 1, .identifier⟩ ∈ ts ∧ Token.WholeWord hashed adjoining ⟨0, 1, .identifier⟩ ∧
      ⟨1, 3, .keyword ⟨0⟩⟩ ∈ ts ∧ Token.WholeWord hashed adjoining ⟨1, 3, .keyword ⟨0⟩⟩) ∧
    ∃ ts, Yields (Scanner.start .plainText adjoining 2 true) ts ∧
      (ts.IsChain fun t u => t.kind ≠ u.kind) ∧
      ⟨5, 9, .identifier⟩ ∈ ts ∧ Token.PlainRun adjoining ⟨5, 9, .identifier⟩ := by
  constructor
  · obtain ⟨ts, given, chains, words⟩ := tokens_are_maximal_runs hashed adjoining 0
    have members : ⟨0, 1, .identifier⟩ ∈ ts ∧ ⟨1, 3, .keyword ⟨0⟩⟩ ∈ ts := by
      rw [given.unique (yields_tokens hashed adjoining 0 true)]
      decide +kernel
    exact ⟨ts, given, chains .number (by simp), members.1, words _ members.1 rfl, members.2,
      words _ members.2 rfl⟩
  · obtain ⟨ts, given, _, alternates, runs⟩ := tokens_are_maximal_runs .plainText adjoining 2
    have member : ⟨5, 9, .identifier⟩ ∈ ts := by
      rw [given.unique (yields_tokens .plainText adjoining 2 true)]
      decide +kernel
    exact ⟨ts, given, alternates, member, runs _ member⟩

end Scanner
end Highlighter
