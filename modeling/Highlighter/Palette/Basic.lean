import Highlighter.Palette.Category
import Highlighter.Toml.Decode

/-! Palettes: a colour for each category of tokens, and colours for the groups of keywords, which
take them by turns. -/
namespace Highlighter

/-- The colours of a palette, or the changes to one. -/
structure Palette where
  /-- Of two colours for a category the first one counts. -/
  colors : List (Category × Color)
  keywordGroups : List Color
deriving DecidableEq, Repr

namespace Palette

def empty : Palette := ⟨[], []⟩

instance : EmptyCollection Palette := ⟨empty⟩

def mauve : Color := ⟨0xcb, 0xa6, 0xf7⟩

/-- The palette of dark pastel colours that is used unless another one is set. -/
def mocha : Palette :=
  { colors := [(.identifier, ⟨0xcd, 0xd6, 0xf4⟩), (.keyword, mauve), (.number, ⟨0xfa, 0xb3, 0x87⟩),
      (.operator, ⟨0x89, 0xdc, 0xeb⟩), (.punctuation, ⟨0x93, 0x99, 0xb2⟩),
      (.comment, ⟨0x6c, 0x70, 0x86⟩), (.string, ⟨0xa6, 0xe3, 0xa1⟩), (.error, ⟨0xf3, 0x8b, 0xa8⟩)]
    keywordGroups :=
      [mauve, ⟨0xf9, 0xe2, 0xaf⟩, ⟨0x89, 0xb4, 0xfa⟩, ⟨0x94, 0xe2, 0xd5⟩, ⟨0xf5, 0xc2, 0xe7⟩] }

def color? (p : Palette) (category : Category) : Option Color := p.colors.lookup category

def set (p : Palette) (category : Category) (color : Color) : Palette :=
  { p with colors := (category, color) :: p.colors.filter (·.1 != category) }

/-- The colour of a keyword group; without colours for groups all keywords have the same one. -/
def keywordColor? (p : Palette) (group : GroupId) : Option Color :=
  if p.keywordGroups.isEmpty then p.color? .keyword
  else p.keywordGroups[group.index % p.keywordGroups.length]?

def colorFor? (p : Palette) (kind : TokenKind) : Option Color :=
  match kind with
  | .keyword group => p.keywordColor? group
  | kind => (Category.ofKind? kind).bind p.color?

/-- The palette with the colours of another one in the place of its own. -/
def override (p : Palette) (changes : Palette) : Palette :=
  let changed := Category.all.foldl (fun p category =>
    match changes.color? category with
    | some color => p.set category color
    | none => p) p
  if changes.keywordGroups.isEmpty then changed
  else { changed with keywordGroups := changes.keywordGroups }

def colorOfValue (v : Toml.Value) : Except Toml.Fault Color := do
  match Color.parse (← Toml.asString v) with
  | .ok color => return color
  | .error _ => throw (.wrongKind "a colour")

/-- The colours in a document: one key per category, and a list for the keyword groups. -/
def ofFields (f : Toml.Fields) : Except Toml.Fault Palette := do
  let colors ← (Category.all.zipIdx).mapM fun (category, i) => do
    return (category, ← f.optional category.name i colorOfValue)
  let keywordGroups ← f.withDefault "keyword_groups" 8 [] (Toml.asList colorOfValue)
  return ⟨colors.filterMap fun (category, color) => color.map (category, ·), keywordGroups⟩

def parse (text : String) : Except Toml.Fault Palette := do
  ofFields ⟨← Toml.parse text, []⟩

/-- Tokens of a buffer in their colours. A token outside of the buffer has no text. -/
def render (p : Palette) (b : Buffer) (tokens : List Token) : List Char :=
  tokens.flatMap fun t => Color.paint (p.colorFor? t.kind) ((t.text? b).getD [])

end Palette
end Highlighter
