import Highlighter.Text.Blank
import Highlighter.Text.Number

/-! JSON values as they are written. -/
namespace Highlighter.Json

inductive Value where
  | null
  | boolean (b : Bool)
  /-- A number in the digits that it is written with. -/
  | number (text : List Char)
  /-- A string with an unpaired surrogate spells no text. -/
  | string (text : Option String)
  | array (items : List Value)
  /-- The members in their order; keys may repeat. -/
  | object (members : List (Option String × Value))
deriving Inhabited

def escaped (c : Char) : List Char :=
  if c = '\x22' || c = '\\' then ['\\', c]
  else if c = '\x08' then ['\\', 'b']
  else if c = '\x0c' then ['\\', 'f']
  else if c = '\n' then ['\\', 'n']
  else if c = '\r' then ['\\', 'r']
  else if c = '\t' then ['\\', 't']
  else if c.toNat < 0x20 then ['\\', 'u'] ++ Text.zeroPadded 4 (Text.hexDigits c.toNat)
  else [c]

def quote (text : String) : String :=
  String.ofList ('\x22' :: text.toList.flatMap escaped ++ ['\x22'])

end Highlighter.Json
