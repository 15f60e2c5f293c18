import Highlighter.Language.Compiled.Entry
import Highlighter.Language.ExtensionMap
import Highlighter.Toml.Decode

/-! Language sources: records that describe one language each. A record is checked only when its
language is asked for, so one with an error does no harm to the others. -/
namespace Highlighter

structure DelimiterRecord where
  name : Option String := none
  opening : String
  escape : Option String := none
  closing : Option String := none
deriving DecidableEq, Repr

/-- The words of a group: in one text with blanks between them, or one by one. -/
inductive Words where
  | text (words : String)
  | list (words : List String)
deriving DecidableEq, Repr

def Words.toList : Words → List String
  | text words => Text.words words
  | list words => words

structure GroupRecord where
  name : String
  words : Words
deriving DecidableEq, Repr

/-- What a source says about a language. -/
structure LanguageRecord where
  name : Option String := none
  /-- The extensions with blanks between them. -/
  extensions : String := ""
  lineComment : Option String := none
  /-- The opening and the closing mark. -/
  blockComment : Option (List String) := none
  numberContinue : Option String := none
  delimiters : Option (List DelimiterRecord) := none
  groups : List GroupRecord := []
deriving DecidableEq, Repr

structure LanguageSource where
  records : List LanguageRecord
deriving DecidableEq, Repr

namespace DelimiterRecord

def ofValue (v : Toml.Value) : Except Toml.Fault DelimiterRecord := do
  let f ← Toml.asFields v
  return {
    name := ← f.optional "name" 0 Toml.asString
    opening := ← f.required "open" 1 Toml.asString
    escape := ← f.optional "escape" 2 Toml.asString
    closing := ← f.optional "close" 3 Toml.asString }

/-- The delimiter that a record describes. One that is not closed otherwise is closed by the
character that opens it. -/
def delimiter (r : DelimiterRecord) : Except LanguageError Delimiter := do
  let opening ← DelimiterPart.char .opening r.opening
  let escape ← DelimiterPart.escapeChar (r.escape.getD "")
  let closing ← match r.closing with
    | none => pure opening
    | some closing => DelimiterPart.char .closing closing
  return ⟨r.name.getD "string", opening, escape, closing⟩

end DelimiterRecord

namespace GroupRecord

def wordsOfValue : Toml.Value → Except Toml.Fault Words
  | .string words => .ok (.text words)
  | v => .list <$> Toml.asList Toml.asString v

def ofValue (v : Toml.Value) : Except Toml.Fault GroupRecord := do
  let f ← Toml.asFields v
  return ⟨← f.required "name" 0 Toml.asString, ← f.required "words" 1 wordsOfValue⟩

end GroupRecord

namespace LanguageRecord

def ofValue (v : Toml.Value) : Except Toml.Fault LanguageRecord := do
  let f ← Toml.asFields v
  return {
    name := ← f.optional "name" 0 Toml.asString
    extensions := ← f.withDefault "extensions" 1 "" Toml.asString
    lineComment := ← f.optional "line_comment" 2 Toml.asString
    blockComment := ← f.optional "block_comment" 3 (Toml.asList Toml.asString)
    numberContinue := ← f.optional "number_continue" 4 Toml.asString
    delimiters := ← f.optional "delimiters" 5 (Toml.asList DelimiterRecord.ofValue)
    groups := ← f.withDefault "group" 6 [] (Toml.asList GroupRecord.ofValue) }

/-- The marks of a block comment, when there are exactly two and neither is empty. -/
def marks? : List String → Option BlockComment
  | [opening, closing] => if opening = "" || closing = "" then none else some ⟨opening, closing⟩
  | _ => none

/-- The declaration that a record makes, or what is wrong with the record. -/
def declaration (r : LanguageRecord) : Except LanguageError Declaration := do
  let some name := r.name.filter fun name => !(Text.trim name.toList).isEmpty
    | throw (.missingField .name)
  let blockComment ← r.blockComment.mapM fun texts =>
    match marks? texts with
    | some marks => Except.ok marks
    | none => .error (.missingField .commentMarkers)
  let delimiters ← match r.delimiters with
    | none => pure Delimiter.defaults
    | some records => records.mapM DelimiterRecord.delimiter
  return {
    name
    extensions := Text.words r.extensions
    lineComment := r.lineComment
    blockComment
    delimiters
    numberContinue := r.numberContinue.getD ""
    groups := r.groups.map fun g => ⟨g.name, g.words.toList⟩ }

/-- The claims of extensions that a record makes; one without a name makes none. -/
def claims (r : LanguageRecord) : List (String × String) :=
  match r.name with
  | some name => (Text.words r.extensions).map (·, name)
  | none => []

def summary? (r : LanguageRecord) : Option (String × List String) :=
  r.name.map (·, Extension.collect (Text.words r.extensions))

end LanguageRecord

namespace LanguageSource

instance : EmptyCollection LanguageSource := ⟨⟨[]⟩⟩

def ofEntries (entries : Toml.Entries) : Except Toml.Fault LanguageSource := do
  let f : Toml.Fields := ⟨entries, []⟩
  return ⟨← f.withDefault "language" 0 [] (Toml.asList LanguageRecord.ofValue)⟩

def parse (text : String) : Except LanguageError LanguageSource :=
  (Toml.parse text >>= ofEntries).mapError .invalidSource

def names (s : LanguageSource) : List String := s.records.filterMap (·.name)

/-- Whether two names differ in the case of ASCII letters at most. -/
def sameName (a b : String) : Bool := a.toList.map Char.toLower = b.toList.map Char.toLower

/-- The position of the record with a name: the first with this very name, or else the first whose
name differs in the case of ASCII letters only. -/
def position? (s : LanguageSource) (name : String) : Option Nat :=
  (s.records.findIdx? (·.name = some name)).or
    (s.records.findIdx? (·.name.any (sameName name)))

def find? (s : LanguageSource) (name : String) : Option LanguageRecord :=
  (s.position? name).bind (s.records[·]?)

/-- All claims of extensions, in the order of the records. -/
def claims (s : LanguageSource) : List (String × String) := s.records.flatMap (·.claims)

def extensionMap (s : LanguageSource) : ExtensionMap := (∅ : ExtensionMap).insertAll s.claims

def conflicts (s : LanguageSource) : List ExtensionMap.Conflict :=
  (∅ : ExtensionMap).conflictsAfter s.claims

end LanguageSource
end Highlighter
