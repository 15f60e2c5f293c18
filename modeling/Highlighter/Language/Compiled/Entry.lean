import Highlighter.Language.Compiled.Values
import Highlighter.Language.Definition

/-! The lines of a compiled language, read one by one. Blank lines and comments say nothing, and a
line with an unknown key is left to other versions of the format. -/
namespace Highlighter

/-- The only character of a text, which is some part of a delimiter. -/
def DelimiterPart.char (part : DelimiterPart) (text : String) : Except LanguageError Char :=
  match text.toList with
  | [c] => .ok c
  | _ => .error (.notOneCharacter part text)

/-- The escape character of a delimiter; an empty text means that it has none. -/
def DelimiterPart.escapeChar (text : String) : Except LanguageError (Option Char) :=
  if text = "" then .ok none else some <$> DelimiterPart.char .escape text

namespace Compiled

/-- What a line says. -/
inductive Entry where
  | version
  | name (text : String)
  | extensions (texts : List String)
  | lineComment (mark : String)
  | blockComment (marks : BlockComment)
  | delimiter (delimiter : Delimiter)
  | charSet (name : SetName) (set : CharSet)
  | groups (names : List String)
  | keywords (keywords : List Keyword)
  | unknown (key : String)

def single (key : String) : List String → Except LineFault String
  | [v] => .ok v
  | vs => .error (.valueCount key 1 vs.length)

/-- The keywords on a line: words and group numbers by turns. -/
def readKeywords : List String → Except LineFault (List Keyword)
  | word :: id :: rest =>
    match Text.decimal? Text.limit32 id.toList with
    | some n => (⟨word, ⟨n⟩⟩ :: ·) <$> readKeywords rest
    | none => .error (.invalidGroupId id)
  | _ => .ok []

def setOfKey? (key : String) : Option SetName :=
  [SetName.operators, .punctuation, .keyStart, .keyContinue, .numberContinue].find? (·.key = key)

def Entry.ofValues (line : Nat) (key : String) (values : List String) :
    Except LanguageError Entry := do
  let atLine {α : Type} (read : Except LineFault α) : Except LanguageError α :=
    read.mapError (.invalidLine line)
  match key with
  | "Version" =>
    let v ← atLine (single key values)
    match Text.decimal? Text.limit32 v.toList with
    | none => throw (.invalidLine line (.invalidVersion v))
    | some found => if found > formatVersion then throw (.unsupportedVersion found) else return .version
  | "Name" => return .name (← atLine (single key values))
  | "Ext" => return .extensions values
  | "LineComment" => return .lineComment (← atLine (single key values))
  | "BlockComment" =>
    match values with
    | [opening, closing] => return .blockComment ⟨opening, closing⟩
    | _ => throw (.invalidLine line (.valueCount key 2 values.length))
  | "Delimiter" =>
    match values with
    | [label, opening, escape, closing] =>
      let opening ← DelimiterPart.char .opening opening
      let escape ← DelimiterPart.escapeChar escape
      let closing ← DelimiterPart.char .closing closing
      return .delimiter ⟨label, opening, escape, closing⟩
    | _ => throw (.invalidLine line (.valueCount key 4 values.length))
  | "Group" => return .groups values
  | "Keyword" =>
    if values.length % 2 = 0 then return .keywords (← atLine (readKeywords values))
    else throw (.invalidLine line .keywordWithoutGroup)
  | key =>
    match setOfKey? key with
    | some set => return .charSet set (CharSet.ofString (← atLine (single key values)))
    | none => return .unknown key

/-- What a line says, if it says anything. -/
def Entry.ofLine (line : Nat) (raw : List Char) : Except LanguageError (Option Entry) :=
  let text := Text.trim raw
  if text.isEmpty || text.head? = some ';' then .ok none
  else match Text.cut? '=' text with
    | none => .error (.invalidLine line .noAssignment)
    | some (key, rest) =>
      match split rest with
      | .error fault => .error (.invalidLine line fault)
      | .ok values => some <$> Entry.ofValues line (String.ofList (Text.trim key)) values

/-- What each line of a text says; lines are counted from 1. -/
def readLines (text : String) : List (Except LanguageError (Option Entry)) :=
  (Text.splitAt '\n' text.toList).mapIdx fun i raw => Entry.ofLine (i + 1) raw

end Compiled
end Highlighter
