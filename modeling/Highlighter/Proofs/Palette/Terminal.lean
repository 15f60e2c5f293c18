import Highlighter.Palette.Basic
import Highlighter.Proofs.Text.Blank

/-! What a terminal makes of coloured text. It takes the output to pieces, which are characters and
escape sequences. A text is painted when stretches of it, each within a line, stand between a colour
and a reset: the characters of the output are then the text, and each of its lines leaves the terminal
as it was. Painting lines is painting them one after the other. -/
namespace Highlighter

namespace Terminal

/-- A character that is shown, or an escape sequence by its parameters. -/
inductive Piece where
  | character (c : Char)
  | sequence (parameters : List Char)
deriving DecidableEq

theorem length_lt_of_cut? {sep : Char} {cs before after : List Char}
    (found : Text.cut? sep cs = some (before, after)) : after.length < cs.length := by
  obtain ⟨rfl, _⟩ := Text.cut?_eq_some_iff.mp found
  rw [List.length_append, List.length_cons]
  omega

/-- The pieces of an output. A sequence begins with an escape character and a bracket, and the first
`m` after them ends it. -/
def pieces : List Char → List Piece
  | [] => []
  | '\x1b' :: '[' :: rest =>
    match _found : Text.cut? 'm' rest with
    | some (parameters, after) => .sequence parameters :: pieces after
    | none => .character '\x1b' :: pieces ('[' :: rest)
  | c :: rest => .character c :: pieces rest
termination_by cs => cs.length
decreasing_by
  · have shorter := length_lt_of_cut? _found
    simp only [List.length_cons]
    omega
  · simp
  · simp

namespace Piece

def character? : Piece → Option Char
  | character c => some c
  | sequence _ => none

/-- The first parameters of a sequence that chooses a colour of 24 bits for what follows. -/
def colorMark : List Char := ['3', '8', ';', '2', ';']

def opensColor : Piece → Bool
  | character _ => false
  | sequence parameters => colorMark.isPrefixOf parameters

def resets : Piece → Bool
  | character _ => false
  | sequence parameters => parameters = ['0']

end Piece

/-- An output without its escape sequences. -/
def strip (out : List Char) : List Char := (pieces out).filterMap Piece.character?

/-- Whether a colour is chosen after pieces. -/
def leftOpen (opened : Bool) (ps : List Piece) : Bool :=
  ps.foldl (fun opened p => p.opensColor || (opened && !p.resets)) opened

/-- A line chooses a colour as often as it resets it, and none is left at its end. -/
structure Closed (line : List Char) : Prop where
  balanced : (pieces line).countP Piece.opensColor = (pieces line).countP Piece.resets
  ended : leftOpen false (pieces line) = false

theorem pieces_cons {c : Char} (visible : c ≠ '\x1b') (rest : List Char) :
    pieces (c :: rest) = .character c :: pieces rest := by
  rw [pieces.eq_def]
  split
  · contradiction
  · rename_i same
    exact absurd (List.cons.inj same).1 visible
  · rename_i same
    rw [(List.cons.inj same).1, (List.cons.inj same).2]

theorem pieces_append {text : List Char} (plain : '\x1b' ∉ text) (rest : List Char) :
    pieces (text ++ rest) = text.map Piece.character ++ pieces rest := by
  induction text with
  | nil => rfl
  | cons c text ih =>
    simp only [List.mem_cons, not_or] at plain
    rw [List.cons_append, pieces_cons (Ne.symm plain.1), ih plain.2, List.map_cons,
      List.cons_append]

theorem pieces_sequence {parameters : List Char} (unended : 'm' ∉ parameters) (rest : List Char) :
    pieces ('\x1b' :: '[' :: (parameters ++ 'm' :: rest)) = .sequence parameters :: pieces rest := by
  have ended := Text.cut?_append rest unended
  rw [pieces.eq_def]
  simp only
  split
  · rename_i found
    rw [ended] at found
    cases found
    rfl
  · rename_i found
    rw [ended] at found
    cases found

end Terminal

namespace Color

/-- What stands between the bracket and the `m` of the sequence that chooses a colour. -/
def parameters (color : Color) : List Char :=
  Terminal.Piece.colorMark ++ Nat.toDigits 10 color.red.toNat ++
    ';' :: Nat.toDigits 10 color.green.toNat ++ ';' :: Nat.toDigits 10 color.blue.toNat

/-- Three numbers, with marks between and around them, as characters. -/
theorem toList_numbers {front mark back : String} {first second between last : Char}
    {others : List Char} (opens : front.toList = first :: second :: others)
    (parts : mark.toList = [between]) (closes : back.toList = [last]) (x y z : Nat) :
    (front ++ x.repr ++ mark ++ y.repr ++ mark ++ z.repr ++ back).toList =
      first :: second :: (others ++ Nat.toDigits 10 x ++ between :: Nat.toDigits 10 y ++
        between :: Nat.toDigits 10 z ++ [last]) := by
  simp only [String.toList_append, Nat.toList_repr, opens, parts, closes, List.append_assoc,
    List.cons_append, List.nil_append]

theorem opening_eq (color : Color) :
    color.opening = '\x1b' :: '[' :: (color.parameters ++ ['m']) := by
  have front : "\x1b[38;2;".toList = '\x1b' :: '[' :: Terminal.Piece.colorMark := by decide
  have mark : ";".toList = [';'] := by decide
  have back : "m".toList = ['m'] := by decide
  exact toList_numbers front mark back color.red.toNat color.green.toNat color.blue.toNat

theorem mem_parameters {color : Color} {c : Char} (member : c ∈ color.parameters) :
    c.isDigit = true ∨ c = ';' := by
  have digits : ∀ n, c ∈ Nat.toDigits 10 n → c.isDigit = true := fun n =>
    Nat.isDigit_of_mem_toDigits (by decide) (by decide)
  simp only [parameters, List.mem_append, List.mem_cons] at member
  rcases member with ((fixed | red) | rfl | green) | rfl | blue
  · have marks : (Terminal.Piece.colorMark.all fun c => c.isDigit || c == ';') = true := by decide
    have mark := List.all_eq_true.mp marks c fixed
    rwa [Bool.or_eq_true, beq_iff_eq] at mark
  · exact Or.inl (digits _ red)
  · exact Or.inr rfl
  · exact Or.inl (digits _ green)
  · exact Or.inr rfl
  · exact Or.inl (digits _ blue)

theorem not_mem_parameters {color : Color} {c : Char} (other : c.isDigit = false)
    (unlike : c ≠ ';') : c ∉ color.parameters := by
  intro member
  rcases mem_parameters member with digit | semicolon
  · rw [digit] at other
    cases other
  · exact unlike semicolon

theorem not_mem_opening_feed (color : Color) : '\n' ∉ color.opening := by
  have inside : '\n' ∉ color.parameters := not_mem_parameters (by decide) (by decide)
  simp [opening_eq, inside]

theorem paint_nil (color : Option Color) : paint color [] = [] := by
  cases color <;> rfl

/-- The lines of a text are painted one after the other. -/
theorem paint_break (color : Option Color) (before after : List Char) :
    paint color (before ++ '\n' :: after) = paint color before ++ '\n' :: paint color after := by
  cases color with
  | none => rfl
  | some c =>
    have front : (Text.splitAt '\n' before).map c.paintLine ≠ [] :=
      mt List.map_eq_nil_iff.mp (Text.splitAt_ne_nil before)
    have back : (Text.splitAt '\n' after).map c.paintLine ≠ [] :=
      mt List.map_eq_nil_iff.mp (Text.splitAt_ne_nil after)
    simp only [paint, Text.splitAt_append, List.map_append]
    exact Text.intercalate_append front back

theorem paint_line {line : List Char} (within : '\n' ∉ line) (color : Color) :
    paint (some color) line = color.paintLine line := by
  simp only [paint, Text.splitAt_of_not_mem within, List.map_singleton, List.intercalate_singleton]

/-- Text is painted as its parts are when a line begins between them. -/
theorem paint_append {before : List Char} (ended : ∀ c ∈ before.getLast?, c = '\n')
    (color : Option Color) (after : List Char) :
    paint color (before ++ after) = paint color before ++ paint color after := by
  cases last : before.getLast? with
  | none =>
    rw [List.getLast?_eq_none_iff.mp last, paint_nil, List.nil_append, List.nil_append]
  | some c =>
    obtain ⟨line, rfl⟩ := List.getLast?_eq_some_iff.mp last
    obtain rfl : c = '\n' := ended c last
    rw [paint_break, paint_nil, List.append_assoc, List.append_assoc]
    exact paint_break color line after

end Color

namespace Terminal

/-- An output that shows a text, stretches of it in colours. -/
inductive Painted : List Char → List Char → Prop
  | done : Painted [] []
  | bare {c : Char} {text out : List Char} (visible : c ≠ '\x1b') (rest : Painted text out) :
      Painted (c :: text) (c :: out)
  | colored {line text out : List Char} (color : Color) (plain : '\x1b' ∉ line)
      (within : '\n' ∉ line) (rest : Painted text out) :
      Painted (line ++ text) (color.opening ++ line ++ Color.reset ++ out)

theorem Painted.append {text out more rest : List Char} (first : Painted text out)
    (second : Painted more rest) : Painted (text ++ more) (out ++ rest) := by
  induction first with
  | done => exact second
  | bare visible _ ih => exact .bare visible ih
  | colored color plain within _ ih =>
    rw [List.append_assoc, List.append_assoc]
    exact .colored color plain within ih

theorem painted_flatMap {α : Type} {text out : α → List Char} {l : List α}
    (each : ∀ a ∈ l, Painted (text a) (out a)) : Painted (l.flatMap text) (l.flatMap out) := by
  induction l with
  | nil => exact .done
  | cons a l ih =>
    obtain ⟨first, others⟩ := List.forall_mem_cons.mp each
    exact first.append (ih others)

theorem painted_self {text : List Char} (plain : '\x1b' ∉ text) : Painted text text := by
  induction text with
  | nil => exact .done
  | cons c text ih =>
    simp only [List.mem_cons, not_or] at plain
    exact .bare (Ne.symm plain.1) (ih plain.2)

theorem painted_paintLine {line : List Char} (plain : '\x1b' ∉ line) (within : '\n' ∉ line)
    (color : Color) : Painted line (color.paintLine line) := by
  rw [Color.paintLine]
  split
  · rename_i empty
    rw [List.isEmpty_iff.mp empty]
    exact .done
  · have closed := Painted.colored color plain within .done
    rwa [List.append_nil, List.append_nil] at closed

/-- A painted text is the text in colours. -/
theorem painted_paint {text : List Char} (plain : '\x1b' ∉ text) (color : Option Color) :
    Painted text (Color.paint color text) := by
  cases color with
  | none => exact painted_self plain
  | some color =>
    induction text using Text.piece_induction '\n' with
    | piece line within =>
      rw [Color.paint_line within]
      exact painted_paintLine plain within color
    | more line rest within ih =>
      simp only [List.mem_append, List.mem_cons, not_or] at plain
      rw [Color.paint_break, Color.paint_line within]
      exact (painted_paintLine plain.1 within color).append
        (.bare (Ne.symm plain.2.1) (ih plain.2.2))

/-- What a line in a colour is taken to pieces as, whatever follows it. -/
theorem pieces_colored {line : List Char} (plain : '\x1b' ∉ line) (color : Color)
    (rest : List Char) : pieces (color.opening ++ line ++ Color.reset ++ rest) =
      .sequence color.parameters :: line.map Piece.character ++ .sequence ['0'] :: pieces rest := by
  have unended : 'm' ∉ color.parameters := Color.not_mem_parameters (by decide) (by decide)
  have reset : pieces (Color.reset ++ rest) = .sequence ['0'] :: pieces rest :=
    pieces_sequence (show 'm' ∉ ['0'] by decide) rest
  rw [List.append_assoc, List.append_assoc, Color.opening_eq, List.cons_append, List.cons_append,
    List.append_assoc, List.singleton_append, pieces_sequence unended, pieces_append plain, reset,
    List.cons_append]

theorem Painted.strip {text out : List Char} (painted : Painted text out) : strip out = text := by
  unfold Terminal.strip
  induction painted with
  | done => rw [pieces, List.filterMap_nil]
  | bare visible _ ih => simp [pieces_cons visible, Piece.character?, ih]
  | @colored line text out color plain within _ ih =>
    have shown : (line.map Piece.character).filterMap Piece.character? = line := by
      simp [List.filterMap_map, Function.comp_def, Piece.character?]
    rw [pieces_colored plain, List.filterMap_append, List.filterMap_cons_none rfl,
      List.filterMap_cons_none rfl, shown, ih]

/-- Characters leave the colour as it is. -/
theorem leftOpen_characters (opened : Bool) (line : List Char) (ps : List Piece) :
    leftOpen opened (line.map Piece.character ++ ps) = leftOpen opened ps := by
  induction line with
  | nil => rfl
  | cons c line ih =>
    have kept : leftOpen opened ((c :: line).map Piece.character ++ ps) =
        leftOpen (opened && true) (line.map Piece.character ++ ps) := rfl
    rw [kept, Bool.and_true, ih]

theorem countP_characters {p : Piece → Bool} (never : ∀ c, p (.character c) = false)
    (line : List Char) (ps : List Piece) :
    (line.map Piece.character ++ ps).countP p = ps.countP p := by
  have none : (line.map Piece.character).countP p = 0 := by
    simp [List.countP_map, Function.comp_def, never]
  rw [List.countP_append, none, Nat.zero_add]

theorem closed_nil : Closed [] := by
  constructor
  · rw [pieces, List.countP_nil, List.countP_nil]
  · rw [pieces]
    rfl

theorem Closed.cons {c : Char} {line : List Char} (visible : c ≠ '\x1b') (closed : Closed line) :
    Closed (c :: line) := by
  constructor
  · rw [pieces_cons visible]
    exact closed.balanced
  · rw [pieces_cons visible]
    exact closed.ended

theorem opensColor_parameters (color : Color) :
    Piece.opensColor (.sequence color.parameters) = true := by
  rw [Piece.opensColor, List.isPrefixOf_iff_prefix, Color.parameters, List.append_assoc,
    List.append_assoc]
  exact List.prefix_append _ _

theorem resets_parameters (color : Color) :
    Piece.resets (.sequence color.parameters) = false := by
  simp [Piece.resets, Color.parameters, Piece.colorMark]

theorem Closed.colored {line rest : List Char} (plain : '\x1b' ∉ line) (color : Color)
    (closed : Closed rest) : Closed (color.opening ++ line ++ Color.reset ++ rest) := by
  have opens := opensColor_parameters color
  have stays := resets_parameters color
  constructor
  · rw [pieces_colored plain, List.cons_append, List.countP_cons, List.countP_cons,
      countP_characters (fun _ => rfl), countP_characters (fun _ => rfl), opens, stays,
      List.countP_cons, List.countP_cons, closed.balanced]
    rfl
  · have chosen : leftOpen false (pieces (color.opening ++ line ++ Color.reset ++ rest)) =
        leftOpen true (line.map Piece.character ++ .sequence ['0'] :: pieces rest) := by
      rw [pieces_colored plain, List.cons_append, leftOpen, List.foldl_cons, opens, Bool.true_or]
      rfl
    rw [chosen, leftOpen_characters]
    exact closed.ended

/-- Every line of a painted text leaves the terminal as it was. -/
theorem Painted.closed {text out : List Char} (painted : Painted text out) :
    ∀ line ∈ Text.splitAt '\n' out, Closed line := by
  induction painted with
  | done =>
    rintro line member
    rw [List.mem_singleton.mp member]
    exact closed_nil
  | @bare c text out visible _ ih =>
    by_cases feed : c = '\n'
    · rw [feed, Text.splitAt, if_pos rfl]
      exact List.forall_mem_cons.mpr ⟨closed_nil, ih⟩
    -- a character that ends no line stands in front of the first line of the rest
    · have single : '\n' ∉ [c] := by simpa using Ne.symm feed
      refine Text.forall_mem_splitAt_append single ?_ ih
      intro line closed
      exact closed.cons visible
  | @colored line text out color plain within _ ih =>
    have single : '\n' ∉ color.opening ++ line ++ Color.reset := by
      have reset : '\n' ∉ Color.reset := by decide
      simp [color.not_mem_opening_feed, within, reset]
    refine Text.forall_mem_splitAt_append single ?_ ih
    intro rest closed
    exact closed.colored plain color

end Terminal
end Highlighter
