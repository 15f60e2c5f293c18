import Highlighter.Palette.Color
import Highlighter.Scan.Token

/-! The classes of tokens that have a colour of their own. -/
namespace Highlighter

inductive Category where
  | identifier
  | keyword
  | number
  | operator
  | punctuation
  | comment
  | string
  | error
deriving DecidableEq, Repr

namespace Category

def all : List Category :=
  [identifier, keyword, number, operator, punctuation, comment, string, error]

def name : Category → String
  | identifier => "identifier"
  | keyword => "keyword"
  | number => "number"
  | operator => "operator"
  | punctuation => "punctuation"
  | comment => "comment"
  | string => "string"
  | error => "error"

instance : ToString Category := ⟨name⟩

/-- The category of a kind of tokens; whitespace has none. -/
def ofKind? : TokenKind → Option Category
  | .identifier => identifier
  | .keyword _ => keyword
  | .number => number
  | .operator => operator
  | .punctuation => punctuation
  | .lineComment | .blockComment => comment
  | .stringLiteral => string
  | .unterminatedBlockComment | .unterminatedString => error
  | .whitespace => none

/-- The category that a text names, in letters of either case. -/
def parse (text : String) : Except PaletteError Category :=
  let wanted := (Text.trim text.toList).map Char.toLower
  match all.find? (·.name.toList = wanted) with
  | some category => .ok category
  | none => .error (.unknownCategory text)

end Category
end Highlighter
