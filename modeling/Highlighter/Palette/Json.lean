import Highlighter.Json.Parser
import Highlighter.Palette.Color

/-! Colours as JSON strings. -/
namespace Highlighter.Color

def parseJson? (text : String) : Option Color :=
  match Json.parse? text with
  | some (.string (some text)) => (parse text).toOption
  | _ => none

def json (c : Color) : String := Json.quote (toString c)

end Highlighter.Color
