import Highlighter.Console.Listing
import Highlighter.Proofs.Console.LineRange
import Highlighter.Proofs.Console.Selection
import Highlighter.Proofs.Palette.Terminal
import Highlighter.Proofs.Scan.Restart
import Mathlib.Data.List.Basic

/-! Highlighting prints the selected text. A token contributes what it shares with the selection, and
the tokens leave no gap, so their contributions are the text of the selection, whatever is coloured in
it. Where a line begins, each contribution falls into two that are painted apart, so a selection is
painted as its lines are. -/
namespace Highlighter.Console
open Scan Terminal

variable {d : Definition} {b : Buffer} {palette : Option Palette}

/-- Two contributions of every element may be collected one kind after the other, when of the second
one of an element and the first one of any later element one is empty. -/
theorem flatMap_append_flatMap {α β : Type} {f g whole : α → List β} {l : List α}
    (parts : ∀ a ∈ l, f a ++ g a = whole a) (apart : l.Pairwise fun a b => g a = [] ∨ f b = []) :
    l.flatMap f ++ l.flatMap g = l.flatMap whole := by
  induction apart with
  | nil => rfl
  | @cons a l later _ ih =>
    obtain ⟨first, others⟩ := List.forall_mem_cons.mp parts
    -- of the two contributions that change places one is empty
    have swap : l.flatMap f ++ g a = g a ++ l.flatMap f := by
      by_cases empty : g a = []
      · rw [empty, List.append_nil, List.nil_append]
      · have none : l.flatMap f = [] := by
          apply List.flatMap_eq_nil_iff.mpr
          intro u member
          exact (later u member).resolve_left empty
        rw [none, List.append_nil, List.nil_append]
    calc (a :: l).flatMap f ++ (a :: l).flatMap g
      _ = f a ++ ((l.flatMap f ++ g a) ++ l.flatMap g) := by
        simp only [List.flatMap_cons, List.append_assoc]
      _ = (f a ++ g a) ++ (l.flatMap f ++ l.flatMap g) := by
        rw [swap]
        simp only [List.append_assoc]
      _ = (a :: l).flatMap whole := by rw [first, ih others, List.flatMap_cons]

theorem flatMap_filter_eq {α β : Type} {p : α → Bool} {f : α → List β} {l : List α}
    (idle : ∀ a ∈ l, p a = false → f a = []) : (l.filter p).flatMap f = l.flatMap f := by
  induction l with
  | nil => rfl
  | cons a l ih =>
    obtain ⟨first, others⟩ := List.forall_mem_cons.mp idle
    by_cases kept : p a = true
    · rw [List.filter_cons_of_pos kept, List.flatMap_cons, List.flatMap_cons, ih others]
    · rw [List.filter_cons_of_neg kept, List.flatMap_cons, first (Bool.eq_false_iff.mpr kept),
        List.nil_append, ih others]

/-- Tokens without a gap from `first` up to `last` share with a range what their whole span does. -/
theorem flatMap_shared {first last : Nat} {ts : List Token} (gapless : Gapless first last ts)
    (start stop : Nat) : ts.flatMap (fun t => b.shared t.start t.stop start stop) =
      b.shared first last start stop := by
  induction ts generalizing first with
  | nil =>
    obtain rfl : first = last := gapless
    rw [List.flatMap_nil, b.shared_self]
  | cons t ts ih =>
    obtain ⟨rfl, _, later⟩ := gapless
    rw [List.flatMap_cons, ih later]
    exact b.shared_append (Nat.le_add_right _ _) later.le start stop

/-- The colour of a kind of tokens. -/
def colorOf? (palette : Option Palette) (kind : TokenKind) : Option Color :=
  palette.bind (·.colorFor? kind)

/-- The text from `start` up to `stop`, each token in its colour. -/
def coloredText (d : Definition) (b : Buffer) (palette : Option Palette) (start stop : Nat) :
    List Char :=
  (tokens d b 0 true).flatMap fun t =>
    Color.paint (colorOf? palette t.kind) (b.shared t.start t.stop start stop)

theorem paintPart_eq {color? : TokenKind → Option Color} {t : Token} (inside : t.stop ≤ b.length)
    (start stop : Nat) : paintPart color? b start stop t =
      Color.paint (color? t.kind) (b.shared t.start t.stop start stop) := by
  have bound : min t.stop stop ≤ b.length := Nat.le_trans (Nat.min_le_left _ _) inside
  simp only [paintPart, Buffer.shared]
  split
  · rename_i filled
    rw [b.slice?_eq (Nat.le_of_lt filled) bound, Option.getD_some]
  · rename_i empty
    rw [b.between_eq_nil (Nat.le_of_not_lt empty), Color.paint_nil]

/-- A token that shares no character with a range contributes nothing to it. -/
theorem paintPart_eq_nil {color? : TokenKind → Option Color} {t : Token} {start stop : Nat}
    (apart : ¬ (t.start < stop ∧ start < t.stop) ∨ ¬ start < stop) :
    paintPart color? b start stop t = [] := by
  have empty : ¬ max t.start start < min t.stop stop := by omega
  simp only [paintPart, if_neg empty]

theorem flatMap_overlapping (start stop : Nat) :
    (Anchors.overlapping start stop (tokens d b 0 true)).flatMap
      (paintPart (colorOf? palette) b start stop) = coloredText d b palette start stop := by
  have every : (tokens d b 0 true).flatMap (paintPart (colorOf? palette) b start stop) =
      coloredText d b palette start stop := by
    apply List.flatMap_congr
    intro t member
    exact paintPart_eq ((gapless_tokens d b).stop_le t member).2.2 start stop
  rw [← every, Anchors.overlapping]
  split
  · apply flatMap_filter_eq
    intro t _ outside
    exact paintPart_eq_nil (Or.inl (of_decide_eq_false outside))
  · rename_i empty
    symm
    apply List.flatMap_eq_nil_iff.mpr
    intro t _
    exact paintPart_eq_nil (Or.inr empty)

/-- Highlighting prints the text of the lines that are selected, if there are such lines. -/
theorem highlight_eq_ok {lines : Option String} {out : List Char} :
    highlight b d lines palette = .ok out ↔ ∃ range start stop,
      parseLines lines = .ok range ∧ Reaches b range start stop ∧
        out = coloredText d b palette start stop := by
  simp only [highlight, Result.bind_eq_ok]
  constructor
  · rintro ⟨range, parsed, ⟨ts, start, stop⟩, collected, printed⟩
    obtain ⟨reaches, rfl⟩ := collectTokens_eq_ok.mp collected
    cases printed
    exact ⟨range, start, stop, parsed, reaches, flatMap_overlapping start stop⟩
  · rintro ⟨range, start, stop, parsed, reaches, rfl⟩
    refine ⟨range, parsed, _, collectTokens_eq_ok.mpr ⟨reaches, rfl⟩, ?_⟩
    exact congrArg Except.ok (flatMap_overlapping start stop)

theorem coloredText_none {start stop : Nat} (inside : stop ≤ b.length) :
    coloredText d b none start stop = b.between start stop := by
  rw [← b.shared_length inside]
  exact flatMap_shared (gapless_tokens d b) start stop

theorem painted_coloredText (plain : '\x1b' ∉ b.chars) {start stop : Nat} (inside : stop ≤ b.length) :
    Painted (b.between start stop) (coloredText d b palette start stop) := by
  rw [← coloredText_none (d := d) inside]
  apply painted_flatMap
  intro t _
  apply painted_paint
  intro member
  exact plain (b.mem_chars_of_mem_between member)

/-- Without a selection every token is painted as a whole. -/
theorem coloredText_length (p : Palette) :
    coloredText d b (some p) 0 b.length = p.render b (tokens d b 0 true) := by
  apply List.flatMap_congr
  intro t member
  have inside := ((gapless_tokens d b).stop_le t member).2.2
  have filled := (gapless_tokens d b).filled t member
  rw [Token.text?, b.slice?_eq (Nat.le_of_lt filled) inside, b.shared_comm, b.shared_length inside]
  rfl

/-- What highlighting prints when it succeeds. Without colours that is the text of the selected
lines. In colours it is this text again after the escape sequences are taken out, as long as the text
holds no escape character itself, and then every line of it closes what it opens; and a whole buffer
is printed as the palette renders its tokens. -/
theorem highlighting_keeps_the_text {lines : Option String} {out : List Char}
    (rendered : highlight b d lines palette = .ok out) :
    ∃ range, parseLines lines = .ok range ∧
      (palette = none → out = selectedText b range) ∧
      ∀ p, palette = some p →
        ('\x1b' ∉ b.chars → strip out = selectedText b range ∧
          ∀ line ∈ Text.splitAt '\n' out, Closed line) ∧
        (lines = none → ∃ ts, Scanner.Yields (Scanner.start d b 0 true) ts ∧
          out = p.render b ts) := by
  obtain ⟨range, start, stop, parsed, reaches, rfl⟩ := highlight_eq_ok.mp rendered
  refine ⟨range, parsed, ?_, ?_⟩
  · rintro rfl
    rw [coloredText_none reaches.le_length, reaches.between]
  · rintro p rfl
    constructor
    · intro plain
      have painted : Painted (b.between start stop) (coloredText d b (some p) start stop) :=
        painted_coloredText plain reaches.le_length
      rw [reaches.between] at painted
      exact ⟨painted.strip, painted.closed⟩
    · rintro rfl
      cases parsed
      cases reaches
      exact ⟨_, Scanner.yields_tokens d b 0 true, coloredText_length p⟩

/-- Two lines that a comment begins and ends in, and a third one. -/
def remark : Buffer := .ofText "b" "a /* b\r\n c */ d\r\ne".toList

theorem comment_stripped : ∃ out,
    highlight remark Scanner.slashed (some "2:") (some .mocha) = .ok out ∧
      strip out = " c */ d\r\ne".toList ∧ ∀ line ∈ Text.splitAt '\n' out, Closed line := by
  obtain ⟨out, printed⟩ := Result.eq_ok_of_isOk
    (show (highlight remark Scanner.slashed (some "2:") (some .mocha)).isOk = true by decide +kernel)
  obtain ⟨range, parsed, _, colored⟩ := highlighting_keeps_the_text printed
  have second : parseLines (some "2:") = .ok (some (1, Text.limit64 - 1)) := by decide +kernel
  obtain rfl : range = _ := Except.ok.inj (parsed.symm.trans second)
  have stripped := (colored .mocha rfl).1 (by decide +kernel)
  have lines : selectedText remark (some (1, Text.limit64 - 1)) = " c */ d\r\ne".toList := by
    decide +kernel
  exact ⟨out, printed, stripped.1.trans lines, stripped.2⟩

/-- A token that a line begins in is painted as its parts before and after that place. -/
theorem paint_shared_append {start mid stop : Nat}
    (ended : ∀ c ∈ (b.chars.take mid).getLast?, c = '\n') (before : start ≤ mid) (after : mid ≤ stop)
    (color : Option Color) (t : Token) :
    Color.paint color (b.shared t.start t.stop start mid) ++
        Color.paint color (b.shared t.start t.stop mid stop) =
      Color.paint color (b.shared t.start t.stop start stop) := by
  have parts : b.shared t.start t.stop start mid ++ b.shared t.start t.stop mid stop =
      b.shared t.start t.stop start stop := by
    rw [b.shared_comm, b.shared_comm _ _ mid, b.shared_append before after, b.shared_comm]
  by_cases passed : t.stop ≤ mid
  · have second : b.shared t.start t.stop mid stop = [] := b.shared_eq_nil passed
    rw [← parts, second, Color.paint_nil, List.append_nil, List.append_nil]
  -- the token goes on past the place, so its part before the place ends as the text there does
  · rw [← parts, Color.paint_append]
    intro c last
    have within : min t.stop mid = mid := Nat.min_eq_right (by omega)
    rw [Buffer.shared, within] at last
    apply ended c
    rw [← b.getLast?_between]
    · exact last
    · intro empty
      rw [empty] at last
      cases last

theorem coloredText_append {start mid stop : Nat}
    (ended : ∀ c ∈ (b.chars.take mid).getLast?, c = '\n') (before : start ≤ mid)
    (after : mid ≤ stop) :
    coloredText d b palette start mid ++ coloredText d b palette mid stop =
      coloredText d b palette start stop := by
  apply flatMap_append_flatMap
  · intro t _
    exact paint_shared_append ended before after (colorOf? palette t.kind) t
  · apply (gapless_tokens d b).apart.imp
    intro t u apart
    by_cases passed : t.stop ≤ mid
    · left
      rw [b.shared_eq_nil passed, Color.paint_nil]
    · right
      have later : mid ≤ u.start := by omega
      rw [b.shared_comm, b.shared_eq_nil later, Color.paint_nil]

theorem coloredText_self (place : Nat) : coloredText d b palette place place = [] := by
  apply List.flatMap_eq_nil_iff.mpr
  intro t _
  rw [b.shared_comm, b.shared_self, Color.paint_nil]

/-- Lines next to each other are painted one after the other. -/
theorem coloredText_lines (paired : Lines.Paired b.chars) {first n : Nat}
    (inside : first + n ≤ b.lineCount) :
    (List.range' (first + 1) n).flatMap
        (fun line => coloredText d b palette (b.border (line - 1)) (b.border line)) =
      coloredText d b palette (b.border first) (b.border (first + n)) := by
  induction n with
  | zero => exact (coloredText_self _).symm
  | succ n ih =>
    have later : first + n < b.lineCount := by omega
    have ended := b.getLast?_take_border paired later
    have next : first + 1 + n = first + (n + 1) := by omega
    rw [List.range'_1_concat, List.flatMap_append, ih (by omega), List.flatMap_singleton, next,
      Nat.add_succ_sub_one]
    exact coloredText_append ended (b.border_le (Nat.le_add_right _ _)) (b.border_le (by omega))

theorem highlight_selection {first last : Nat} (counted : 1 ≤ first) (ordered : first ≤ last)
    (inside : last ≤ b.lineCount) (small : last < Text.limit64) :
    highlight b d (some (selection first last)) palette =
      .ok (coloredText d b palette (b.border (first - 1)) (b.border last)) := by
  apply highlight_eq_ok.mpr
  refine ⟨some (first - 1, last), _, _, ?_, .lines (by omega) (by omega), rfl⟩
  rw [parseLines, Option.mapM_some, parseLineRange_selection counted ordered small]
  rfl

/-- Where every carriage return is followed by a line feed, lines are painted apart: a selection is
printed as its lines are when each is selected by itself. Line numbers are machine words. -/
theorem selection_is_painted_line_by_line (paired : Lines.Paired b.chars) {first last : Nat}
    (counted : 1 ≤ first) (ordered : first ≤ last) (inside : last ≤ b.lineCount)
    (small : last < Text.limit64) :
    ∃ parts : Nat → List Char,
      (∀ line, first ≤ line → line ≤ last →
        highlight b d (some (selection line line)) palette = .ok (parts line)) ∧
      highlight b d (some (selection first last)) palette =
        .ok ((List.range' first (last + 1 - first)).flatMap parts) := by
  refine ⟨fun line => coloredText d b palette (b.border (line - 1)) (b.border line), ?_, ?_⟩
  · intro line after before
    apply highlight_selection <;> omega
  · obtain ⟨start, rfl⟩ := Nat.exists_eq_add_of_le' counted
    obtain ⟨more, rfl⟩ := Nat.exists_eq_add_of_le ordered
    have count : start + 1 + more + 1 - (start + 1) = more + 1 := by omega
    have next : start + 1 + more = start + (more + 1) := by omega
    rw [highlight_selection counted ordered inside small, Nat.add_sub_cancel, count, next]
    rw [next] at inside
    rw [coloredText_lines paired inside]

theorem comment_painted_line_by_line : ∃ parts : Nat → List Char,
    (∀ line, 1 ≤ line → line ≤ 3 →
      highlight remark Scanner.slashed (some (selection line line)) (some .mocha) =
        .ok (parts line)) ∧
    highlight remark Scanner.slashed (some (selection 1 3)) (some .mocha) =
      .ok ((List.range' 1 3).flatMap parts) :=
  selection_is_painted_line_by_line (by decide +kernel) (by decide) (by decide)
    (by decide +kernel) (by decide)

end Highlighter.Console
