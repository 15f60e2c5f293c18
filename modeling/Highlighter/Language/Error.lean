import Highlighter.Files.Store
import Highlighter.Language.Group
import Highlighter.Text.Quoted
import Highlighter.Toml.Value

/-! What can go wrong with the description of a language, as causes, and the wording of each. -/
namespace Highlighter

/-- The character sets of a definition. -/
inductive SetName where
  | operators
  | punctuation
  | keyStart
  | keyContinue
  | numberContinue
deriving DecidableEq, Repr

def SetName.key : SetName → String
  | operators => "Operators"
  | punctuation => "Punctuation"
  | keyStart => "KeyStart"
  | keyContinue => "KeyContinue"
  | numberContinue => "NumberContinue"

/-- What is wrong with a line of a compiled language. -/
inductive LineFault where
  | noAssignment
  | quoteInsideBare
  | unterminatedQuote
  | unknownEscape (char : Option Char)
  | missingBrace
  | malformedCode
  | invalidCode (hex : String)
  | valueCount (key : String) (expected found : Nat)
  | invalidVersion (value : String)
  | keywordWithoutGroup
  | invalidGroupId (value : String)
deriving DecidableEq, Repr

def LineFault.message : LineFault → String
  | noAssignment => "expected 'Key = value'"
  | quoteInsideBare => "quote inside bare value"
  | unterminatedQuote => "unterminated quoted value"
  | unknownEscape char => String.join ["unknown escape '\\", String.ofList char.toList, "'"]
  | missingBrace => "expected '\x7b' after \\u"
  | malformedCode => "malformed \\u\x7b...\x7d escape"
  | invalidCode hex => String.join ["invalid code point '", hex, "'"]
  | valueCount key expected found => s!"{key} takes {expected} value(s), found {found}"
  | invalidVersion value => String.join ["invalid version '", value, "'"]
  | keywordWithoutGroup => "keyword without group id"
  | invalidGroupId value => String.join ["invalid group id '", value, "'"]

/-- What every description of a language must have. -/
inductive RequiredField where
  | name
  | commentMarkers
  | compiledName
deriving DecidableEq, Repr

def RequiredField.label : RequiredField → String
  | name => "name"
  | commentMarkers => "block_comment [start, end]"
  | compiledName => "Name"

/-- The parts of a string delimiter that are one character each. -/
inductive DelimiterPart where
  | opening
  | escape
  | closing
deriving DecidableEq, Repr

def DelimiterPart.label : DelimiterPart → String
  | opening => "delimiter open"
  | escape => "delimiter escape"
  | closing => "delimiter close"

inductive LanguageError where
  | unusableFile (path : String) (fault : FileFault)
  | invalidSource (fault : Toml.Fault)
  | invalidLine (line : Nat) (fault : LineFault)
  | missingField (field : RequiredField)
  | unsupportedVersion (found : Nat)
  | undeclaredGroup (word : String) (group : GroupId)
  | notOneCharacter (part : DelimiterPart) (value : String)
  | keywordClash (keyword : String) (char : Char) (set : SetName)
  | fileClash (first second path : String)
  | invalidMap
deriving DecidableEq, Repr

/-- The only version of the files that are written and read here. -/
def formatVersion : Nat := 1

def LanguageError.message : LanguageError → String
  | unusableFile path fault => String.join ["I/O error on ", path, ": ", fault.message]
  | invalidSource fault => String.join ["Invalid language source: ", fault.message]
  | invalidLine line fault => String.join [s!"Parse error at line {line}: ", fault.message]
  | missingField field => String.join ["Missing field: ", field.label]
  | unsupportedVersion found =>
    s!"Unsupported compiled format version {found} (supported up to {formatVersion})"
  | undeclaredGroup word group =>
    String.join ["Keyword '", word, s!"' refers to undeclared group {group}"]
  | notOneCharacter part value =>
    String.join ["Invalid character for ", part.label, ": ", Text.quoted value]
  | keywordClash keyword char set =>
    String.join ["Keyword '", keyword, "': character ", Text.quotedChar char, " conflicts with ",
      set.key]
  | fileClash first second path =>
    String.join ["Languages '", first, "' and '", second, "' both compile to ", path]
  | invalidMap => "Extension map error: not an extension map"

end Highlighter
