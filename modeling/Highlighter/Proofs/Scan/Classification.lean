import Highlighter.Proofs.Language.Consistency
import Highlighter.Proofs.Scan.Scanner

/-! The kinds of tokens agree with the keyword table. A word is looked up as a whole, so it is a
keyword of the group that has it and an identifier when no group has it; operators and punctuation
are made of characters that no keyword has. Nothing else claims a keyword: the other kinds say
nothing of the table. -/
namespace Highlighter

/-- What a kind says of the text of a token. -/
def TokenKind.Describes (d : Definition) (text : List Char) : TokenKind → Prop
  | .keyword id => id.index < d.groups.size ∧
      ∃ group, d.group? id = some group ∧ String.ofList text ∈ group.words
  | .identifier => ∀ group ∈ d.groups.items, String.ofList text ∉ group.words
  | .operator | .punctuation => ∀ c ∈ text, ∀ k ∈ d.keywords.entries, c ∉ k.text.toList
  | _ => True

/-- The token lies in the buffer, and its kind is true of its text. -/
def Token.Classified (d : Definition) (b : Buffer) (t : Token) : Prop :=
  ∃ text, t.text? b = some text ∧ t.kind.Describes d text

namespace Scan
variable {d : Definition}

theorem describes_wordKind (coherent : d.Coherent) (word : List Char) :
    (wordKind d word).Describes d word := by
  unfold wordKind
  split
  · rename_i id found
    have listed := KeywordTable.lookup_eq_some_iff.mp found
    exact ⟨coherent.grouped _ listed, coherent.mem_words_iff.mpr listed⟩
  · rename_i absent
    intro group listed member
    obtain ⟨i, here⟩ := List.getElem?_of_mem listed
    have entry := coherent.mem_words_iff.mp ⟨group, (here : d.group? ⟨i⟩ = some group), member⟩
    have found := KeywordTable.lookup_eq_some_iff.mpr entry
    rw [Definition.lookup, found] at absent
    cases absent

theorem describes_operator (coherent : d.Coherent) {text : List Char}
    (operators : ∀ c ∈ text, d.isOperator c = true) : TokenKind.operator.Describes d text := by
  intro c member k listed inside
  have operator := CharSet.contains_iff.mp (operators c member)
  exact (coherent.apart k listed c inside).1 operator

theorem describes_punctuation (coherent : d.Coherent) {c : Char}
    (punctuation : d.isPunctuation c = true) : TokenKind.punctuation.Describes d [c] := by
  intro other member k listed inside
  rw [List.mem_singleton.mp member] at inside
  exact (coherent.apart k listed c inside).2 (CharSet.contains_iff.mp punctuation)

/-- An operator is begun by one test and gone on with by a stricter one. -/
theorem isOperator_of_mem_operatorRest {cs : List Char} :
    ∀ c ∈ cs.take (operatorRest d cs), d.isOperator c = true := by
  induction cs with
  | nil => simp
  | cons c rest ih =>
    simp only [operatorRest]
    split
    · simp
    · rename_i goesOn
      rw [List.take_succ_cons, List.forall_mem_cons]
      simp only [Bool.or_eq_true, not_or, Bool.not_eq_true', Bool.not_eq_false] at goesOn
      exact ⟨goesOn.1.1, ih⟩

theorem describes_wordLexeme (coherent : d.Coherent) (c : Char) (rest : List Char) :
    (wordLexeme d c rest).kind.Describes d (c :: rest.take (wordLexeme d c rest).more) := by
  have more : rest.take (wordLexeme d c rest).more = rest.takeWhile d.isWordContinue :=
    (List.prefix_iff_eq_take.mp (List.takeWhile_prefix _)).symm
  rw [more]
  exact describes_wordKind coherent _

/-- The kind of the first token of a text is true of its characters. -/
theorem describes_lexeme (coherent : d.Coherent) (c : Char) (rest : List Char) :
    (lexeme d c rest).kind.Describes d (c :: rest.take (lexeme d c rest).more) := by
  have applies := applies_lexeme d c rest
  generalize lexeme d c rest = first at applies ⊢
  cases applies with
  | blanks => trivial
  | solid plain =>
    rw [coherent.ruled] at plain
    cases plain
  | @block marks =>
    rcases kind_blockLexeme marks rest with kind | kind
    · rw [kind]
      trivial
    · rw [kind]
      trivial
  | line => trivial
  | @literal delimiter =>
    rcases kind_literalLexeme delimiter rest with kind | kind
    · rw [kind]
      trivial
    · rw [kind]
      trivial
  | word => exact describes_wordLexeme coherent c rest
  | number => trivial
  | operator ruled uncommented unopened noWord noDigit operator =>
    apply describes_operator coherent
    rw [List.forall_mem_cons]
    exact ⟨operator, isOperator_of_mem_operatorRest⟩
  | punctuation ruled uncommented unopened noWord noDigit noOperator punctuation =>
    exact describes_punctuation coherent punctuation
  | gap => trivial

theorem mem_tokensFrom {offset : Nat} {cs : List Char} {t : Token}
    (member : t ∈ tokensFrom d offset cs) : ∃ n c rest, cs.drop n = c :: rest ∧
      t = ⟨offset + n, (lexeme d c rest).more + 1, (lexeme d c rest).kind⟩ := by
  obtain ⟨earlier, later, whole⟩ := List.append_of_mem member
  obtain ⟨n, _, same⟩ := tokensFrom_suffix d (⟨earlier, whole.symm⟩ : t :: later <:+ _)
  cases ahead : cs.drop n with
  | nil =>
    rw [ahead, tokensFrom_nil] at same
    cases same
  | cons c rest =>
    rw [ahead, tokensFrom_cons] at same
    exact ⟨n, c, rest, ahead, (List.cons.inj same).1⟩

/-- A token of a scan is the first lexeme of the buffer from its start on. -/
theorem lexeme_of_mem_tokens {b : Buffer} {start : Nat} {emitWhitespace : Bool} {t : Token}
    (member : t ∈ tokens d b start emitWhitespace) : ∃ c rest,
      b.chars.drop t.start = c :: rest ∧ t.length = (lexeme d c rest).more + 1 ∧
        t.kind = (lexeme d c rest).kind := by
  obtain ⟨n, c, rest, ahead, rfl⟩ := mem_tokensFrom (List.mem_filter.mp member).1
  have length := congrArg List.length ahead
  rw [List.length_drop, List.length_drop, List.length_cons] at length
  have clamped : min start b.length = start := by
    rw [Buffer.length]
    omega
  rw [List.drop_drop] at ahead
  refine ⟨c, rest, ?_, rfl, rfl⟩
  rw [clamped]
  exact ahead

/-- A token of a scan has the characters of the buffer that it was made from. -/
theorem text_of_mem_tokens {b : Buffer} {start : Nat} {emitWhitespace : Bool} {t : Token}
    (member : t ∈ tokens d b start emitWhitespace) : ∃ c rest,
      b.chars.drop t.start = c :: rest ∧
        t.text? b = some (c :: rest.take (lexeme d c rest).more) ∧
          t.kind = (lexeme d c rest).kind := by
  obtain ⟨c, rest, ahead, taken, kind⟩ := lexeme_of_mem_tokens member
  have fits := lexeme_more_le d c rest
  have length := congrArg List.length ahead
  rw [List.length_drop, List.length_cons] at length
  have inside : t.start + t.length ≤ b.length := by
    rw [Buffer.length]
    omega
  refine ⟨c, rest, ahead, ?_, kind⟩
  rw [Token.text?, Token.stop, Buffer.slice?, if_pos ⟨Nat.le_add_right _ _, inside⟩, ahead,
    Nat.add_sub_cancel_left, taken, List.take_succ_cons]

end Scan

namespace Scanner
open Scan
variable {d : Definition} (b : Buffer) (start : Nat) (emitWhitespace : Bool)

theorem yields_classified (coherent : d.Coherent) :
    ∃ ts, Yields (Scanner.start d b start emitWhitespace) ts ∧ ∀ t ∈ ts, t.Classified d b := by
  refine ⟨_, yields_tokens d b start emitWhitespace, ?_⟩
  intro t member
  obtain ⟨c, rest, _, text, kind⟩ := text_of_mem_tokens member
  refine ⟨_, text, ?_⟩
  rw [kind]
  exact describes_lexeme coherent c rest

/-- In a language that was built or read, a keyword is a word of its group, an identifier is a word
of no group, and no keyword has a character of an operator or a punctuation mark. -/
theorem kinds_agree_with_keywords :
    (∀ declared, ∃ ts, Yields (Scanner.start (.build declared) b start emitWhitespace) ts ∧
      ∀ t ∈ ts, t.Classified (.build declared) b) ∧
    ∀ text d, Compiled.parse text = .ok d →
      ∃ ts, Yields (Scanner.start d b start emitWhitespace) ts ∧ ∀ t ∈ ts, t.Classified d b := by
  constructor
  · intro declared
    exact yields_classified b start emitWhitespace (Definition.build_coherent declared)
  · intro text d read
    exact yields_classified b start emitWhitespace (Compiled.parse_coherent read).1

/-- A compiled language whose second group has a keyword that begins like an operator. -/
def arrowLines : String := "\n".intercalate
  ["Name = a", "Group = x y", "KeyStart = i-", "KeyContinue = f>", "Operators = +", "Punctuation = :",
    "Keyword = if 0 -> 1"]

theorem arrow_among_operators :
    (∃ ts, Yields (Scanner.start (.build { name := "a", groups := [⟨"x", ["->"]⟩] })
        (.ofText "b" "a+->=".toList) 0 true) ts ∧
      ∀ t ∈ ts, t.Classified (.build { name := "a", groups := [⟨"x", ["->"]⟩] })
        (.ofText "b" "a+->=".toList)) ∧
    ∃ d, Compiled.parse arrowLines = .ok d ∧
      ∃ ts, Yields (Scanner.start d (.ofText "b" "+->:if".toList) 0 true) ts ∧
        ∀ t ∈ ts, t.Classified d (.ofText "b" "+->:if".toList) := by
  constructor
  · exact (kinds_agree_with_keywords (.ofText "b" "a+->=".toList) 0 true).1 _
  · obtain ⟨d, accepted⟩ : ∃ d, Compiled.parse arrowLines = .ok d :=
      Result.eq_ok_of_isOk (by decide +kernel)
    have read := (kinds_agree_with_keywords (.ofText "b" "+->:if".toList) 0 true).2
    exact ⟨d, accepted, read _ d accepted⟩

end Scanner
end Highlighter
