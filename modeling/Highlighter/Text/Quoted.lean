import Highlighter.Text.Number
import Highlighter.Text.Property.Printable

/-! Quoted text, as it stands in messages and listings: every character that cannot be shown by
itself is escaped, so that two different texts never look the same. -/
namespace Highlighter.Text

/-- A code point in braces, the escape of characters that have no shorter one. -/
def codeEscape (c : Char) : List Char :=
  ['\\', 'u', '\x7b'] ++ hexDigits c.toNat ++ ['\x7d']

/-- A character inside quotes of the kind `quote`. -/
def quotedBody (quote : Char) (c : Char) : List Char :=
  if c = '\x00' then ['\\', '0']
  else if c = '\t' then ['\\', 't']
  else if c = '\r' then ['\\', 'r']
  else if c = '\n' then ['\\', 'n']
  else if c = '\\' || c = quote then ['\\', c]
  else if isShown c then [c]
  else codeEscape c

def quoted (text : String) : String :=
  String.ofList ('\x22' :: text.toList.flatMap (quotedBody '\x22') ++ ['\x22'])

def quotedChar (c : Char) : String :=
  String.ofList ('\x27' :: quotedBody '\x27' c ++ ['\x27'])

def quotedList (texts : List String) : String :=
  "[" ++ String.intercalate ", " (texts.map quoted) ++ "]"

end Highlighter.Text
