import Highlighter.Json.Parser
import Highlighter.Language.Error
import Highlighter.Language.ExtensionMap

/-! Extension maps as JSON files: an object with the version of the format and the extensions. -/
namespace Highlighter.ExtensionMap

def memberText (entry : String × String) : String :=
  String.join ["    ", Json.quote entry.1, ": ", Json.quote entry.2]

def render (m : ExtensionMap) : String :=
  let body :=
    if m.isEmpty then "\x7b\x7d"
    else String.join ["\x7b\n", ",\n".intercalate (m.entries.map memberText), "\n  \x7d"]
  String.join ["\x7b\n  \x22version\x22: ", toString formatVersion, ",\n  \x22extensions\x22: ",
    body, "\n\x7d"]

/-- A version number: digits alone. -/
def version? : Json.Value → Option Nat
  | .number text => if text.all Char.isDigit then Text.decimal? Text.limit32 text else none
  | _ => none

/-- The entries with a value for a key; a key that is there already keeps its place. -/
def assign (entries : List (String × String)) (key value : String) : List (String × String) :=
  if (entries.lookup key).isSome then
    entries.map fun (k, v) => if k = key then (k, value) else (k, v)
  else entries ++ [(key, value)]

def entries? : Json.Value → Option (List (String × String))
  | .object members =>
    members.foldlM (fun entries (key, item) =>
      match key, item with
      | some key, .string (some text) => some (assign entries key text)
      | _, _ => none) []
  | _ => none

/-- The only member with a key. -/
def member? (members : List (Option String × Json.Value)) (key : String) : Option Json.Value :=
  match members.filter (·.1 = some key) with
  | [(_, item)] => some item
  | _ => none

/-- Version and entries of a map: by key in an object, or in this order in an array. -/
def fields? : Json.Value → Option (Nat × List (String × String))
  | .object members => do
    if members.any (·.1.isNone) then none
    else return (← version? (← member? members "version"), ← entries? (← member? members "extensions"))
  | .array [version, extensions] => do
    return (← version? version, ← entries? extensions)
  | _ => none

/-- The map in a file. Its extensions are taken as they are. -/
def parse (text : String) : Except LanguageError ExtensionMap :=
  match (Json.parse? text).bind fields? with
  | none => .error .invalidMap
  | some (version, entries) =>
    if version = formatVersion then .ok ⟨entries⟩ else .error (.unsupportedVersion version)

end Highlighter.ExtensionMap
