import Highlighter.CharSet
import Highlighter.Language.Extension
import Highlighter.Language.KeywordTable
import Highlighter.Text.Property.Alphabetic
import Highlighter.Text.Property.Numeric

/-! The lexical rules of a language: what its comments, literals, words, numbers and operators are
made of. A definition is built from a declaration, which lists the words of the language; the
character sets follow from them. -/
namespace Highlighter

/-- How a string literal begins and ends. -/
structure Delimiter where
  name : String
  opening : Char
  /-- The character that takes the one after it into the literal. -/
  escape : Option Char
  closing : Char
deriving DecidableEq, Repr

/-- The delimiters of a language that declares none. -/
def Delimiter.defaults : List Delimiter :=
  [⟨"string", '\x22', some '\\', '\x22'⟩, ⟨"char", '\x27', some '\\', '\x27'⟩]

/-- The marks around a block comment. -/
structure BlockComment where
  opening : String
  closing : String
deriving DecidableEq, Repr

/-- The declared words of a group, which may repeat and may be empty. -/
structure GroupDeclaration where
  name : String
  words : List String
deriving DecidableEq, Repr

/-- What a language says about itself. -/
structure Declaration where
  name : String
  extensions : List String := []
  lineComment : Option String := none
  blockComment : Option BlockComment := none
  delimiters : List Delimiter := Delimiter.defaults
  numberContinue : String := ""
  groups : List GroupDeclaration := []
deriving DecidableEq, Repr

/-- The rules that a text is scanned with. -/
structure Definition where
  name : String
  extensions : List String
  groups : GroupTable Group
  keywords : KeywordTable
  keyStart : CharSet
  keyContinue : CharSet
  operators : CharSet
  punctuation : CharSet
  numberContinue : CharSet
  lineComment : Option String
  blockComment : Option BlockComment
  delimiters : List Delimiter
  /-- A plain text has words and blanks only. -/
  plain : Bool
deriving DecidableEq

namespace Declaration

/-- The words that count as declarations, with their groups. -/
def keywords (d : Declaration) : List Keyword :=
  (d.groups.mapIdx fun i group =>
    (group.words.filter (· != "")).map fun word => Keyword.mk word ⟨i⟩).flatten

end Declaration

namespace Definition

/-- The characters that make operators, unless a keyword has them. -/
def operatorAlphabet : String := "-+=><|^%*&/!~"

/-- The characters that are punctuation, unless a keyword has them. -/
def punctuationAlphabet : String := ":;?.,][\x7b\x7d()$#@\\\x60\x22"

/-- A line comment needs a mark. -/
def markOf (mark : Option String) : Option String := mark.filter (· != "")

/-- A block comment needs both marks. -/
def marksOf (marks : Option BlockComment) : Option BlockComment :=
  marks.filter fun m => m.opening != "" && m.closing != ""

def build (d : Declaration) : Definition :=
  let keywords := KeywordTable.ofList d.keywords
  let taken := keywords.firstChars ++ keywords.laterChars
  { name := d.name
    extensions := Extension.collect d.extensions
    groups := Group.ofKeywords (d.groups.map (·.name)) d.keywords
    keywords
    keyStart := CharSet.ofList keywords.firstChars
    keyContinue := CharSet.ofList keywords.laterChars
    operators := (CharSet.ofString operatorAlphabet).without taken
    punctuation := (CharSet.ofString punctuationAlphabet).without taken
    numberContinue := CharSet.ofString d.numberContinue
    lineComment := markOf d.lineComment
    blockComment := marksOf d.blockComment
    delimiters := d.delimiters
    plain := false }

/-- The name of the definition without rules. -/
def plainTextName : String := "Plain Text"

/-- The definition for texts of no language. -/
def plainText : Definition :=
  { name := plainTextName, extensions := [], groups := ∅, keywords := ∅, keyStart := ∅
    keyContinue := ∅, operators := ∅, punctuation := ∅, numberContinue := ∅, lineComment := none
    blockComment := none, delimiters := [], plain := true }

instance : Inhabited Definition := ⟨plainText⟩

def isPlainText (d : Definition) : Bool := d.plain

def group? (d : Definition) (id : GroupId) : Option Group := d.groups.get? id

def lookup (d : Definition) (word : String) : Option GroupId := d.keywords.lookup word

/-- The first delimiter that `c` opens. -/
def delimiterFor? (d : Definition) (c : Char) : Option Delimiter :=
  d.delimiters.find? (·.opening = c)

/-- Whether a word can begin with `c`. -/
def isWordStart (d : Definition) (c : Char) : Bool :=
  d.keyStart.contains c || Text.isAlphabetic c || c = '_'

/-- Whether a word can go on with `c`. -/
def isWordContinue (d : Definition) (c : Char) : Bool :=
  d.keyContinue.contains c || Text.isAlphabetic c || Text.isNumeric c || c = '_'

def isOperator (d : Definition) (c : Char) : Bool := d.operators.contains c

def isPunctuation (d : Definition) (c : Char) : Bool := d.punctuation.contains c

/-- Whether a number can go on with `c`. -/
def isNumberContinue (d : Definition) (c : Char) : Bool := d.numberContinue.contains c

/-- Whether two definitions differ in the order of the words inside groups at most. -/
def sameAs (d e : Definition) : Bool :=
  d.groups.size = e.groups.size &&
    (d.groups.items.zip e.groups.items).all (fun (g, h) => g.sameAs h) &&
    decide ({ d with groups := ∅ } = { e with groups := (∅ : GroupTable Group) })

end Definition

/-- A keyword that is declared in a second group. -/
structure Repeated where
  word : String
  keptIn : String
  droppedFrom : String
deriving DecidableEq, Repr

/-- The declarations of keywords that an earlier group has, in their order. -/
def Declaration.repeated (d : Declaration) : List Repeated :=
  let owners := KeywordTable.ofList d.keywords
  let nameOf := fun (id : GroupId) => ((d.groups[id.index]?).map (·.name)).getD ""
  d.keywords.filterMap fun k =>
    (owners.lookup k.text).bind fun owner =>
      if owner = k.group then none else some ⟨k.text, nameOf owner, nameOf k.group⟩

end Highlighter
