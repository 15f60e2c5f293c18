import Highlighter.Text.Blank
import Highlighter.Text.Lower

/-! File extensions in one form: lower case with one dot in front. -/
namespace Highlighter.Extension

/-- The one form of an extension; an extension without a text has an empty one. -/
def normalize (text : String) : String :=
  let bare := (Text.trim text.toList).dropWhile (· = '.')
  if bare.isEmpty then "" else String.ofList ('.' :: Text.lower bare)

/-- The extensions of a list in their one form, each once and in order, after those of `before`. -/
def collectAfter (before : List String) : List String → List String
  | [] => before
  | text :: rest =>
    if normalize text = "" || before.contains (normalize text) then collectAfter before rest
    else collectAfter (before ++ [normalize text]) rest

/-- The extensions of a list in their one form, each once and in order. -/
def collect (texts : List String) : List String := collectAfter [] texts

end Highlighter.Extension
