import Highlighter.Proofs.Scan.Restart

/-! Text that is appended disturbs the end of a scan only. A rule that ends its token looks at the
characters behind the token, and at no more of them than a number that the definition fixes; as long
as these are there, it does not matter what follows them. -/
namespace Highlighter

namespace Scan

/-- How far behind a token its end may depend on the text: the marks of comments, which end gaps and
operators, and two characters, since a dot and the digit after it go on with a number. -/
def lookahead (d : Definition) : Nat :=
  max 2 (max ((d.lineComment.map String.length).getD 0)
    ((d.blockComment.map (·.opening.length)).getD 0))

variable {d : Definition} {cs : List Char}

section Marks

theorem length_lineComment_le {mark : String} (marked : d.lineComment = some mark) :
    mark.length ≤ lookahead d := by
  simp only [lookahead, marked, Option.map_some, Option.getD_some]
  omega

theorem length_blockComment_le {marks : BlockComment} (marked : d.blockComment = some marks) :
    marks.opening.length ≤ lookahead d := by
  simp only [lookahead, marked, Option.map_some, Option.getD_some]
  omega

theorem two_le_lookahead (d : Definition) : 2 ≤ lookahead d := Nat.le_max_left _ _

/-- Whether a text begins with a mark is settled by as many characters as the mark has. -/
theorem startsWith_append {mark : String} (room : mark.length ≤ cs.length) (more : List Char) :
    startsWith mark (cs ++ more) = startsWith mark cs := by
  have bound : mark.toList.length ≤ cs.length := room
  rw [Bool.eq_iff_iff, startsWith_iff, startsWith_iff]
  constructor
  · rintro ⟨filled, ahead⟩
    exact ⟨filled, List.prefix_of_prefix_length_le ahead (List.prefix_append cs more) bound⟩
  · rintro ⟨filled, ahead⟩
    exact ⟨filled, ahead.trans (List.prefix_append cs more)⟩

theorem blockComment?_append (room : lookahead d ≤ cs.length) (more : List Char) :
    blockComment? d (cs ++ more) = blockComment? d cs := by
  unfold blockComment?
  cases marked : d.blockComment with
  | none => rfl
  | some marks =>
    have bound := length_blockComment_le marked
    rw [Option.filter_some, Option.filter_some, startsWith_append (by omega)]

theorem lineComment?_append (room : lookahead d ≤ cs.length) (more : List Char) :
    lineComment? d (cs ++ more) = lineComment? d cs := by
  unfold lineComment?
  cases marked : d.lineComment with
  | none => rfl
  | some mark =>
    have bound := length_lineComment_le marked
    rw [Option.filter_some, Option.filter_some, startsWith_append (by omega)]

theorem startsComment_append (room : lookahead d ≤ cs.length) (more : List Char) :
    startsComment d (cs ++ more) = startsComment d cs := by
  rw [startsComment, startsComment, blockComment?_append room, lineComment?_append room]

theorem startsToken_append {c : Char} (room : lookahead d ≤ cs.length + 1) (more : List Char) :
    startsToken d c (cs ++ more) = startsToken d c cs := by
  have comment : startsComment d (c :: cs ++ more) = startsComment d (c :: cs) :=
    startsComment_append room more
  rw [List.cons_append] at comment
  rw [startsToken, startsToken, comment]

end Marks

section Runs

theorem runLength_append {p : Char → Bool} (ends : runLength p cs < cs.length) (more : List Char) :
    runLength p (cs ++ more) = runLength p cs := by
  rw [runLength] at ends
  rw [runLength, runLength, List.takeWhile_append, if_neg (Nat.ne_of_lt ends)]

/-- A closing mark that was found is the first one still: an earlier one would have been whole. -/
theorem blockRest_append {closing : String} (ends : (blockRest closing cs).1 < cs.length)
    (more : List Char) :
    closing.length ≤ cs.length ∧ blockRest closing (cs ++ more) = blockRest closing cs := by
  induction cs with
  | nil => contradiction
  | cons c rest ih =>
    by_cases closes : startsWith closing (c :: rest) = true
    · have room := (startsWith_length closes).2
      have again := startsWith_append room more
      rw [closes, List.cons_append] at again
      refine ⟨room, ?_⟩
      simp only [List.cons_append, blockRest, again, closes, if_true]
    · simp only [blockRest, closes, List.length_cons] at ends
      obtain ⟨room, same⟩ := ih (Nat.lt_of_succ_lt_succ ends)
      have room : closing.length ≤ (c :: rest).length := Nat.le_succ_of_le room
      have again := startsWith_append room more
      rw [List.cons_append] at again
      refine ⟨room, ?_⟩
      simp only [List.cons_append, blockRest, again, closes, same]

theorem literalRest_append {l : Delimiter} (ends : (literalRest l cs).1 < cs.length)
    (more : List Char) : literalRest l (cs ++ more) = literalRest l cs := by
  fun_induction literalRest l cs with
  | case1 => contradiction
  | case2 more' next tail doubled ih =>
    simp +zetaDelta only [List.length_cons] at ends
    simp only [List.cons_append]
    rw [literalRest.eq_def]
    simp only [doubled, if_true, ih (by omega), more']
  | case3 next tail single =>
    simp only [List.cons_append]
    rw [literalRest.eq_def]
    simp only [single, if_true, Bool.false_eq_true, if_false]
  | case4 => exact absurd ends (Nat.lt_irrefl 1)
  | case5 => exact absurd ends (Nat.lt_irrefl 1)
  | case6 => exact absurd ends (Nat.lt_irrefl 2)
  | case7 c more' other escapes next after tail lineEnd ih =>
    simp +zetaDelta only [List.length_cons] at ends
    simp only [List.cons_append]
    rw [literalRest.eq_def]
    simp only [other, escapes, lineEnd, if_true, if_false, ih (by omega), more']
  | case8 c more' other escapes next after tail plain ih =>
    simp +zetaDelta only [List.length_cons] at ends ih
    have same := ih (by omega)
    rw [List.cons_append] at same
    simp only [List.cons_append]
    rw [literalRest.eq_def]
    simp only [other, escapes, plain, if_true, if_false, Bool.false_eq_true, same, more']
  | case9 c rest other unescaped breaks =>
    simp only [List.cons_append]
    rw [literalRest.eq_def]
    simp only [other, unescaped, breaks, if_true, if_false]
  | case10 c rest more' other unescaped unbroken ih =>
    simp +zetaDelta only [List.length_cons] at ends
    simp only [List.cons_append]
    rw [literalRest.eq_def]
    simp only [other, unescaped, unbroken, if_false, Bool.false_eq_true, ih (by omega), more']

theorem numberRest_append {dotSeen : Bool} (ends : numberRest d dotSeen cs + 2 ≤ cs.length)
    (more : List Char) : numberRest d dotSeen (cs ++ more) = numberRest d dotSeen cs := by
  induction cs generalizing dotSeen with
  | nil => contradiction
  | cons c rest ih =>
    have next : (rest ++ more).head? = rest.head? := by
      cases rest with
      | nil =>
        rw [List.length_singleton] at ends
        omega
      | cons _ _ => rfl
    simp only [List.cons_append, numberRest, next, List.length_cons] at ends ⊢
    split
    · rename_i digit
      rw [if_pos digit] at ends
      rw [ih (by omega)]
    · rename_i noDigit
      rw [if_neg noDigit] at ends
      split
      · rename_i dot
        rw [if_pos dot] at ends
        rw [ih (by omega)]
      · rename_i noDot
        rw [if_neg noDot] at ends
        split
        · rename_i goesOn
          rw [if_pos goesOn] at ends
          rw [ih (by omega)]
        · rfl

theorem operatorRest_append (ends : operatorRest d cs + lookahead d ≤ cs.length)
    (more : List Char) : operatorRest d (cs ++ more) = operatorRest d cs := by
  induction cs with
  | nil =>
    have two := two_le_lookahead d
    simp only [List.length_nil] at ends
    omega
  | cons c rest ih =>
    have comment : startsComment d (c :: rest ++ more) = startsComment d (c :: rest) :=
      startsComment_append (by omega) more
    rw [List.cons_append] at comment
    simp only [List.cons_append, operatorRest, comment, List.length_cons] at ends ⊢
    split
    · rfl
    · rename_i goesOn
      rw [if_neg goesOn] at ends
      rw [ih (by omega)]

theorem gapRest_append (ends : gapRest d cs + lookahead d ≤ cs.length) (more : List Char) :
    gapRest d (cs ++ more) = gapRest d cs := by
  induction cs with
  | nil =>
    have two := two_le_lookahead d
    simp only [List.length_nil] at ends
    omega
  | cons c rest ih =>
    simp only [List.cons_append, gapRest, List.length_cons] at ends ⊢
    rw [startsToken_append (by omega)]
    split
    · rfl
    · rename_i goesOn
      rw [if_neg goesOn] at ends
      rw [ih (by omega)]

end Runs

section Lexemes
variable {c : Char} {rest : List Char}

theorem blockLexeme_append {marks : BlockComment} (begins : blockComment? d (c :: rest) = some marks)
    (ends : (blockLexeme marks rest).more < rest.length) (more : List Char) :
    blockLexeme marks (rest ++ more) = blockLexeme marks rest := by
  have opens := (startsWith_length (Option.filter_eq_some_iff.mp begins).2).2
  rw [List.length_cons] at opens
  simp only [blockLexeme] at ends
  have closed : (blockRest marks.closing (rest.drop (marks.opening.length - 1))).1 <
      (rest.drop (marks.opening.length - 1)).length := by
    rw [List.length_drop]
    omega
  simp only [blockLexeme, List.drop_append_of_le_length (Nat.sub_le_of_le_add opens),
    (blockRest_append closed more).2]

theorem lineLexeme_append {mark : String} (begins : lineComment? d (c :: rest) = some mark)
    (ends : (lineLexeme mark rest).more < rest.length) (more : List Char) :
    lineLexeme mark (rest ++ more) = lineLexeme mark rest := by
  have opens := (startsWith_length (Option.filter_eq_some_iff.mp begins).2).2
  rw [List.length_cons] at opens
  simp only [lineLexeme] at ends
  have broken : runLength (!Lines.isBreak ·) (rest.drop (mark.length - 1)) <
      (rest.drop (mark.length - 1)).length := by
    rw [List.length_drop]
    omega
  simp only [lineLexeme, List.drop_append_of_le_length (Nat.sub_le_of_le_add opens),
    runLength_append broken more]

theorem wordLexeme_append (ends : (wordLexeme d c rest).more < rest.length) (more : List Char) :
    wordLexeme d c (rest ++ more) = wordLexeme d c rest := by
  simp only [wordLexeme] at ends
  simp only [wordLexeme, List.takeWhile_append, if_neg (Nat.ne_of_lt ends)]

theorem literalLexeme_append {l : Delimiter} (ends : (literalLexeme l rest).more < rest.length)
    (more : List Char) : literalLexeme l (rest ++ more) = literalLexeme l rest := by
  simp only [literalLexeme] at ends
  simp only [literalLexeme, literalRest_append ends more]

/-- A lexeme with so much text behind it is the same whatever follows: its rule is the first one that
fits still, and leaves off where it did. -/
theorem lexeme_append (ends : (lexeme d c rest).more + lookahead d ≤ rest.length)
    (more : List Char) : lexeme d c (rest ++ more) = lexeme d c rest := by
  have two := two_le_lookahead d
  have room : lookahead d ≤ (c :: rest).length := by
    rw [List.length_cons]
    omega
  have block := blockComment?_append room more
  have line := lineComment?_append room more
  have comment := startsComment_append room more
  rw [List.cons_append] at block line comment
  have applies := applies_lexeme d c rest
  generalize lexeme d c rest = first at applies ends ⊢
  apply Applies.lexeme_eq
  cases applies with
  | blanks plain blank =>
    have inside : runLength Text.isBlank rest < rest.length := by
      dsimp only at ends
      omega
    rw [← runLength_append inside more]
    exact .blanks plain blank
  | solid plain solid =>
    have inside : runLength (!Text.isBlank ·) rest < rest.length := by
      dsimp only at ends
      omega
    rw [← runLength_append inside more]
    exact .solid plain solid
  | block ruled begins =>
    rw [← blockLexeme_append begins (by omega) more]
    exact .block ruled (block.trans begins)
  | line ruled unblocked begins =>
    rw [← lineLexeme_append begins (by omega) more]
    exact .line ruled (block.trans unblocked) (line.trans begins)
  | literal ruled uncommented opens =>
    rw [← literalLexeme_append (by omega) more]
    exact .literal ruled (comment.trans uncommented) opens
  | word ruled uncommented unopened starts =>
    rw [← wordLexeme_append (by omega) more]
    exact .word ruled (comment.trans uncommented) unopened starts
  | number ruled uncommented unopened noWord digit =>
    have inside : numberRest d false rest + 2 ≤ rest.length := by
      dsimp only at ends
      omega
    rw [← numberRest_append inside more]
    exact .number ruled (comment.trans uncommented) unopened noWord digit
  | operator ruled uncommented unopened noWord noDigit operator =>
    rw [← operatorRest_append ends more]
    exact .operator ruled (comment.trans uncommented) unopened noWord noDigit operator
  | punctuation ruled uncommented unopened noWord noDigit noOperator punctuation =>
    exact .punctuation ruled (comment.trans uncommented) unopened noWord noDigit noOperator
      punctuation
  | gap ruled left =>
    have room : lookahead d ≤ rest.length + 1 := by omega
    rw [← gapRest_append ends more]
    exact .gap ruled ((startsToken_append room more).trans left)

end Lexemes

/-- Whether a token of a text that ends at `stop` is far enough from the end to stay what it is. -/
def isSettled (d : Definition) (stop : Nat) (t : Token) : Bool := t.stop + lookahead d ≤ stop

theorem settled_prefix (d : Definition) (offset : Nat) (cs more : List Char) :
    (tokensFrom d offset cs).filter (isSettled d (offset + cs.length)) <+:
      tokensFrom d offset (cs ++ more) := by
  fun_induction tokensFrom d offset cs with
  | case1 offset => exact List.nil_prefix
  | case2 offset c rest first ih =>
    have fits : first.more ≤ rest.length := lexeme_more_le d c rest
    have ends : offset + (first.more + 1) + (rest.drop first.more).length =
        offset + (c :: rest).length := by
      rw [List.length_drop, List.length_cons]
      omega
    rw [ends] at ih
    by_cases settled : isSettled d (offset + (c :: rest).length) ⟨offset, first.more + 1, first.kind⟩
    · have room : first.more + lookahead d ≤ rest.length := by
        have bound := of_decide_eq_true settled
        simp only [Token.stop, List.length_cons] at bound
        omega
      have same : lexeme d c (rest ++ more) = first := lexeme_append room more
      have following : (rest ++ more).drop first.more = rest.drop first.more ++ more :=
        List.drop_append_of_le_length fits
      rw [List.filter_cons_of_pos settled, List.cons_append, tokensFrom_cons, same, following]
      exact List.cons_prefix_cons.mpr ⟨rfl, ih⟩
    · -- the tokens behind this one end behind it
      have later : ∀ t ∈ tokensFrom d (offset + (first.more + 1)) (rest.drop first.more),
          ¬ isSettled d (offset + (c :: rest).length) t := by
        intro t member near
        have bound := of_decide_eq_true near
        have after := ((gapless_tokensFrom d _ _).stop_le t member).2.1
        refine settled (decide_eq_true ?_)
        simp only [Token.stop] at bound after ⊢
        omega
      rw [List.filter_cons_of_neg settled, List.filter_eq_nil_iff.mpr later]
      exact List.nil_prefix

end Scan

namespace Scanner

/-- When text is appended to a text, the tokens that end at so many characters before its end stand
first in the scan of the longer text. -/
theorem appending_keeps_settled_tokens (d : Definition) {shorter longer : Buffer} {more : List Char}
    (appended : longer.chars = shorter.chars ++ more) (emitWhitespace : Bool) :
    ∃ ts us, Yields (start d shorter 0 emitWhitespace) ts ∧
      Yields (start d longer 0 emitWhitespace) us ∧
      ts.filter (fun t => t.stop + Scan.lookahead d ≤ shorter.length) <+: us := by
  refine ⟨_, _, yields_tokens d shorter 0 emitWhitespace, yields_tokens d longer 0 emitWhitespace, ?_⟩
  have kept := (Scan.settled_prefix d 0 shorter.chars more).filter (Scan.isGiven emitWhitespace)
  rw [Nat.zero_add, List.filter_filter] at kept
  rw [Scan.tokens, Scan.tokens, Nat.zero_min, Nat.zero_min, List.drop_zero, List.drop_zero, appended,
    List.filter_filter]
  simp only [Bool.and_comm] at kept ⊢
  exact kept

/-- A slash at the end may still begin a comment; what stands two characters before it is settled. -/
theorem slash_appended_to_slash :
    ∃ ts us, Yields (start slashed (.ofText "a" "x+ y/".toList) 0 true) ts ∧
      Yields (start slashed (.ofText "b" "x+ y//z".toList) 0 true) us ∧
      ts.filter (fun t => t.stop + Scan.lookahead slashed ≤ 5) <+: us := by
  have appended : (Buffer.ofText "b" "x+ y//z".toList).chars =
      (Buffer.ofText "a" "x+ y/".toList).chars ++ ['/', 'z'] := by decide +kernel
  exact appending_keeps_settled_tokens slashed appended true

end Scanner
end Highlighter
