import Highlighter.Proofs.Scan.Classification
import Highlighter.Proofs.Scan.Restart
import Mathlib.Data.Set.Basic
import Mathlib.Order.Bounds.Defs

/-! Block comments end at the first closing mark after the opening one. The search goes on by one
character at a time from the end of the opening mark, so it shares no character with this mark and
passes over no place where the closing one stands. Without a closing mark the comment takes all that
is left, and no other token does so under this name. -/
namespace Highlighter

namespace Buffer

/-- The mark stands at an offset. -/
def MarkAt (b : Buffer) (mark : String) (offset : Nat) : Prop :=
  mark.toList <+: b.chars.drop offset

instance (b : Buffer) (mark : String) (offset : Nat) : Decidable (b.MarkAt mark offset) :=
  inferInstanceAs (Decidable (mark.toList <+: b.chars.drop offset))

/-- Where the closing mark stands after an opening one at `start`. -/
def closings (b : Buffer) (marks : BlockComment) (start : Nat) : Set Nat :=
  {n | start + marks.opening.length ≤ n ∧ b.MarkAt marks.closing n}

end Buffer

namespace Scan

theorem blockRest_first {closing : String} (filled : closing ≠ "") {cs : List Char}
    (closed : ∃ n, closing.toList <+: cs.drop n) :
    ∃ n, IsLeast {n | closing.toList <+: cs.drop n} n ∧
      blockRest closing cs = (n + closing.length, true) := by
  induction cs with
  | nil =>
    obtain ⟨n, ahead⟩ := closed
    rw [List.drop_nil, List.prefix_nil, String.toList_eq_nil_iff] at ahead
    exact absurd ahead filled
  | cons c rest ih =>
    by_cases here : closing.toList <+: c :: rest
    · refine ⟨0, ⟨here, fun _ _ => Nat.zero_le _⟩, ?_⟩
      rw [blockRest, if_pos (startsWith_iff.mpr ⟨filled, here⟩), Nat.zero_add]
    · have later : ∃ n, closing.toList <+: rest.drop n := by
        obtain ⟨n, ahead⟩ := closed
        cases n with
        | zero => exact absurd ahead here
        | succ n => exact ⟨n, ahead⟩
      obtain ⟨n, ⟨found, least⟩, taken⟩ := ih later
      refine ⟨n + 1, ⟨found, ?_⟩, ?_⟩
      · intro m ahead
        cases m with
        | zero => exact absurd ahead here
        | succ m => exact Nat.succ_le_succ (least ahead)
      · rw [blockRest, if_neg fun starts => here (startsWith_iff.mp starts).2, taken]
        rw [Nat.add_right_comm]

theorem blockRest_unclosed {closing : String} {cs : List Char}
    (unclosed : ∀ n, ¬closing.toList <+: cs.drop n) : blockRest closing cs = (cs.length, false) := by
  induction cs with
  | nil => rfl
  | cons c rest ih =>
    have here : ¬startsWith closing (c :: rest) = true := fun starts =>
      unclosed 0 (startsWith_iff.mp starts).2
    rw [blockRest, if_neg here, ih fun n => unclosed (n + 1), List.length_cons]

end Scan

/-- A definition with block comments has rules, and none of the marks is empty. -/
def Definition.BlocksMarked (d : Definition) : Prop :=
  ∀ marks ∈ d.blockComment, d.plain = false ∧ marks.opening ≠ "" ∧ marks.closing ≠ ""

theorem Definition.Coherent.blocksMarked {d : Definition} (coherent : d.Coherent) :
    d.BlocksMarked := by
  intro marks marked
  exact ⟨coherent.ruled, coherent.blockComment marks marked⟩

/-- How tokens show the block comments of a text. -/
structure EndsBlocks (d : Definition) (b : Buffer) (ts : List Token) : Prop where
  closed : ∀ marks ∈ d.blockComment, ∀ t ∈ ts, b.MarkAt marks.opening t.start →
    (b.closings marks t.start).Nonempty →
      t.kind = .blockComment ∧ ∃ n, IsLeast (b.closings marks t.start) n ∧
        t.stop = n + marks.closing.length
  unclosed : ∀ marks ∈ d.blockComment, ∀ t ∈ ts, b.MarkAt marks.opening t.start →
    b.closings marks t.start = ∅ →
      t.kind = .unterminatedBlockComment ∧ t.stop = b.length ∧ ts.getLast? = some t
  elsewhere : ∀ t ∈ ts, t.kind = .unterminatedBlockComment →
    ∃ marks ∈ d.blockComment, b.MarkAt marks.opening t.start ∧ b.closings marks t.start = ∅
  /-- Tokens that share a character are the same token. -/
  alone : ∀ t ∈ ts, ∀ u ∈ ts, ∀ k, t.start ≤ k → k < t.stop → u.start ≤ k → k < u.stop → u = t

namespace Scan
variable {d : Definition} {b : Buffer} {start : Nat} {emitWhitespace : Bool} {t : Token}
  {marks : BlockComment}

theorem add_mem_closings {offset n : Nat} :
    offset + marks.opening.length + n ∈ b.closings marks offset ↔
      marks.closing.toList <+: (b.chars.drop (offset + marks.opening.length)).drop n := by
  rw [List.drop_drop]
  constructor
  · intro inside
    exact inside.2
  · intro ahead
    exact ⟨Nat.le_add_right _ _, ahead⟩

/-- Where an opening mark stands, the token is this mark and what the search for the closing one goes
over. -/
theorem block_of_mem_tokens (marked : d.BlocksMarked) (given : d.blockComment = some marks)
    (member : t ∈ tokens d b start emitWhitespace) (opens : b.MarkAt marks.opening t.start) :
    t.stop = t.start + marks.opening.length +
        (blockRest marks.closing (b.chars.drop (t.start + marks.opening.length))).1 ∧
      t.kind = if (blockRest marks.closing (b.chars.drop (t.start + marks.opening.length))).2
        then .blockComment else .unterminatedBlockComment := by
  obtain ⟨ruled, filled, _⟩ := marked marks given
  obtain ⟨c, rest, ahead, length, kind⟩ := lexeme_of_mem_tokens member
  have begins : blockComment? d (c :: rest) = some marks := by
    rw [Buffer.MarkAt, ahead] at opens
    exact blockComment?_eq_some_iff.mpr ⟨given, filled, opens⟩
  have positive := (startsWith_length (Option.filter_eq_some_iff.mp begins).2).1
  have onward : b.chars.drop (t.start + marks.opening.length) =
      rest.drop (marks.opening.length - 1) := by
    rw [← List.drop_drop, ahead, ← Nat.succ_pred_eq_of_pos positive, List.drop_succ_cons]
    rfl
  rw [(Applies.block ruled begins).lexeme_eq, blockLexeme] at length kind
  rw [Token.stop, onward]
  dsimp only at length
  exact ⟨by omega, kind⟩

theorem closed_of_mem_tokens (marked : d.BlocksMarked) (given : d.blockComment = some marks)
    (member : t ∈ tokens d b start emitWhitespace) (opens : b.MarkAt marks.opening t.start)
    (closed : (b.closings marks t.start).Nonempty) :
    t.kind = .blockComment ∧ ∃ n, IsLeast (b.closings marks t.start) n ∧
      t.stop = n + marks.closing.length := by
  obtain ⟨_, _, filled⟩ := marked marks given
  have found : ∃ n, marks.closing.toList <+:
      (b.chars.drop (t.start + marks.opening.length)).drop n := by
    obtain ⟨offset, inside⟩ := closed
    obtain ⟨n, rfl⟩ := Nat.exists_eq_add_of_le inside.1
    exact ⟨n, add_mem_closings.mp inside⟩
  obtain ⟨n, ⟨here, least⟩, taken⟩ := blockRest_first filled found
  obtain ⟨stops, kind⟩ := block_of_mem_tokens marked given member opens
  rw [taken] at stops kind
  refine ⟨kind, t.start + marks.opening.length + n, ⟨add_mem_closings.mpr here, ?_⟩, ?_⟩
  · intro offset inside
    obtain ⟨m, rfl⟩ := Nat.exists_eq_add_of_le inside.1
    exact Nat.add_le_add_left (least (add_mem_closings.mp inside)) _
  · rw [stops, Nat.add_assoc, Nat.add_assoc, Nat.add_assoc]

theorem unclosed_of_mem_tokens (marked : d.BlocksMarked) (given : d.blockComment = some marks)
    (member : t ∈ tokens d b start emitWhitespace) (opens : b.MarkAt marks.opening t.start)
    (unclosed : b.closings marks t.start = ∅) :
    t.kind = .unterminatedBlockComment ∧ t.stop = b.length := by
  have absent : ∀ n, ¬marks.closing.toList <+:
      (b.chars.drop (t.start + marks.opening.length)).drop n := by
    intro n ahead
    have inside := add_mem_closings.mpr ahead
    rw [unclosed] at inside
    exact inside
  obtain ⟨stops, kind⟩ := block_of_mem_tokens marked given member opens
  rw [blockRest_unclosed absent] at stops kind
  have room : marks.opening.toList.length ≤ (b.chars.drop t.start).length := opens.length_le
  have bounds := bounds_of_mem_tokens member
  rw [Buffer.length] at bounds
  rw [List.length_drop, String.length_toList] at room
  rw [List.length_drop] at stops
  refine ⟨kind, ?_⟩
  rw [Buffer.length]
  omega

theorem begins_of_unterminated {c : Char} {rest : List Char}
    (kind : (lexeme d c rest).kind = .unterminatedBlockComment) :
    ∃ marks, blockComment? d (c :: rest) = some marks := by
  have applies := applies_lexeme d c rest
  generalize lexeme d c rest = first at applies kind
  cases applies with
  | block _ begins => exact ⟨_, begins⟩
  | @literal delimiter =>
    rcases kind_literalLexeme delimiter rest with other | other
    · cases kind.symm.trans other
    · cases kind.symm.trans other
  | word =>
    rcases kind_wordLexeme d c rest with ⟨group, other⟩ | other
    · cases kind.symm.trans other
    · cases kind.symm.trans other
  | _ => cases kind

/-- A comment is unterminated only for want of a closing mark. -/
theorem opens_of_unterminated (marked : d.BlocksMarked)
    (member : t ∈ tokens d b start emitWhitespace) (kind : t.kind = .unterminatedBlockComment) :
    ∃ marks ∈ d.blockComment, b.MarkAt marks.opening t.start ∧ b.closings marks t.start = ∅ := by
  obtain ⟨c, rest, ahead, _, same⟩ := lexeme_of_mem_tokens member
  obtain ⟨marks, begins⟩ := begins_of_unterminated (same.symm.trans kind)
  obtain ⟨given, _, opens⟩ := blockComment?_eq_some_iff.mp begins
  rw [← ahead] at opens
  refine ⟨marks, given, opens, ?_⟩
  by_contra closed
  have other := (closed_of_mem_tokens marked given member opens
    (Set.nonempty_iff_ne_empty.mpr closed)).1
  rw [kind] at other
  cases other

end Scan

namespace Scanner
open Scan

theorem yields_endsBlocks {d : Definition} (marked : d.BlocksMarked) (b : Buffer) (start : Nat)
    (emitWhitespace : Bool) :
    ∃ ts, Yields (Scanner.start d b start emitWhitespace) ts ∧ EndsBlocks d b ts := by
  refine ⟨_, yields_tokens d b start emitWhitespace, ?_, ?_, ?_, ?_⟩
  · intro marks given t member opens closed
    exact closed_of_mem_tokens marked given member opens closed
  · intro marks given t member opens unclosed
    obtain ⟨kind, ends⟩ := unclosed_of_mem_tokens marked given member opens unclosed
    exact ⟨kind, ends, getLast?_of_stop member ends⟩
  · intro t member kind
    exact opens_of_unterminated marked member kind
  · intro t member u among k begins before alsoBegins alsoBefore
    exact eq_of_shared member among begins before alsoBegins alsoBefore

/-- A block comment ends at the first closing mark after its opening one, and without one it is
unterminated and the last token, in every language that was built or read; in a plain text there are
none. -/
theorem block_comments_end_at_first_closing (b : Buffer) (start : Nat) (emitWhitespace : Bool) :
    (∀ declared, ∃ ts, Yields (Scanner.start (.build declared) b start emitWhitespace) ts ∧
      EndsBlocks (.build declared) b ts) ∧
    (∀ text d, Compiled.parse text = .ok d →
      ∃ ts, Yields (Scanner.start d b start emitWhitespace) ts ∧ EndsBlocks d b ts) ∧
    ∃ ts, Yields (Scanner.start .plainText b start emitWhitespace) ts ∧
      EndsBlocks .plainText b ts := by
  refine ⟨?_, ?_, ?_⟩
  · intro declared
    have coherent := Definition.build_coherent declared
    exact yields_endsBlocks coherent.blocksMarked b start emitWhitespace
  · intro text d read
    have coherent := (Compiled.parse_coherent read).1
    exact yields_endsBlocks coherent.blocksMarked b start emitWhitespace
  · apply yields_endsBlocks
    intro marks given
    cases given

/-- A compiled language whose block comments end as they begin. -/
def fencedLines : String := "Name = a\nBlockComment = -- --"

def fenced : Buffer := .ofText "b" "-- - ---x".toList

/-- An opening mark and a part of the closing one. -/
def overlapping : Buffer := .ofText "b" "+/*/".toList

theorem fence_closed_by_next_fence :
    (∃ d, Compiled.parse fencedLines = .ok d ∧ ⟨"--", "--"⟩ ∈ d.blockComment ∧
      ∃ ts, Yields (Scanner.start d fenced 0 true) ts ∧ ⟨0, 7, .blockComment⟩ ∈ ts ∧
        fenced.MarkAt "--" 0 ∧ 5 ∈ fenced.closings ⟨"--", "--"⟩ 0 ∧
        ∃ n, IsLeast (fenced.closings ⟨"--", "--"⟩ 0) n ∧ 7 = n + "--".length) ∧
    ∃ ts, Yields (Scanner.start slashed overlapping 0 false) ts ∧
      overlapping.closings ⟨"/*", "*/"⟩ 1 = ∅ ∧
      ts.getLast? = some ⟨1, 3, .unterminatedBlockComment⟩ := by
  constructor
  · obtain ⟨d, accepted, passes⟩ : ∃ d, Compiled.parse fencedLines = .ok d ∧
        decide (d.blockComment = some ⟨"--", "--"⟩ ∧
          ⟨0, 7, .blockComment⟩ ∈ tokens d fenced 0 true) = true :=
      Result.eq_ok_of_any (by decide +kernel)
    obtain ⟨given, among⟩ := of_decide_eq_true passes
    obtain ⟨ts, yields, blocks⟩ :=
      (block_comments_end_at_first_closing fenced 0 true).2.1 _ d accepted
    rw [← yields.unique (yields_tokens d fenced 0 true)] at among
    have opens : fenced.MarkAt "--" 0 := by decide +kernel
    have inside : 5 ∈ fenced.closings ⟨"--", "--"⟩ 0 := ⟨by decide +kernel, by decide +kernel⟩
    have closed := blocks.closed _ given _ among opens ⟨5, inside⟩
    exact ⟨d, accepted, given, ts, yields, among, opens, inside, closed.2⟩
  · obtain ⟨ts, yields, blocks⟩ := (block_comments_end_at_first_closing overlapping 0 false).1
      { name := "S", lineComment := some "//", blockComment := some ⟨"/*", "*/"⟩ }
    have among : ⟨1, 3, .unterminatedBlockComment⟩ ∈ ts := by
      rw [yields.unique (yields_tokens slashed overlapping 0 false)]
      decide +kernel
    have opens : overlapping.MarkAt "/*" 1 := by decide +kernel
    have unclosed : overlapping.closings ⟨"/*", "*/"⟩ 1 = ∅ := by
      rw [Set.eq_empty_iff_forall_notMem]
      rintro n ⟨after, ahead⟩
      have room := ahead.length_le
      have four : overlapping.chars.length = 4 := by decide +kernel
      have two : "*/".toList.length = 2 := by decide +kernel
      have opening : "/*".length = 2 := by decide +kernel
      rw [List.length_drop, four, two] at room
      rw [opening] at after
      omega
    exact ⟨ts, yields, unclosed, (blocks.unclosed _ rfl _ among opens unclosed).2.2⟩

end Scanner
end Highlighter
