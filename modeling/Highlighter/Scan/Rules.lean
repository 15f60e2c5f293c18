import Highlighter.Buffer.Lines
import Highlighter.Language.Definition
import Highlighter.Scan.Token

/-! The rules of scanning. A rule looks at the characters from a position on, and tells how many of
them the token takes after its first one; so a token is never empty, and what stands before it does
not matter. -/
namespace Highlighter.Scan

/-- The first token of a text that is not empty: how many characters it has after the first one. -/
structure Lexeme where
  more : Nat
  kind : TokenKind
deriving DecidableEq, Repr

/-- Whether the characters spell a mark; nothing spells the empty mark. -/
def startsWith (mark : String) (cs : List Char) : Bool := mark != "" && mark.toList.isPrefixOf cs

def runLength (p : Char → Bool) (cs : List Char) : Nat := (cs.takeWhile p).length

def blockComment? (d : Definition) (cs : List Char) : Option BlockComment :=
  d.blockComment.filter fun marks => startsWith marks.opening cs

def lineComment? (d : Definition) (cs : List Char) : Option String :=
  d.lineComment.filter fun mark => startsWith mark cs

def startsComment (d : Definition) (cs : List Char) : Bool :=
  (blockComment? d cs).isSome || (lineComment? d cs).isSome

/-- Whether `c` begins something other than whitespace when `rest` follows. -/
def startsToken (d : Definition) (c : Char) (rest : List Char) : Bool :=
  startsComment d (c :: rest) || (d.delimiterFor? c).isSome || d.isWordStart c || c.isDigit ||
    d.isOperator c || d.isPunctuation c

/-- The number of characters up to and with the closing mark of a block comment, and whether there
is one; without one the comment takes the whole text. -/
def blockRest (closing : String) : List Char → Nat × Bool
  | [] => (0, false)
  | c :: rest =>
    if startsWith closing (c :: rest) then (closing.length, true)
    else let (n, closed) := blockRest closing rest; (n + 1, closed)

/-- The number of characters of a literal after its opening character, and whether it is closed.
Where the closing character is its own escape, two of them are one of the literal's characters.
Another escape takes the character after it along, and both characters of a line end. -/
def literalRest (d : Delimiter) : List Char → Nat × Bool
  | [] => (0, false)
  | c :: rest =>
    let more (n : Nat) (r : Nat × Bool) : Nat × Bool := (r.1 + n, r.2)
    if c = d.closing then
      match rest with
      | next :: tail =>
        if d.escape = some d.closing && next = c then more 2 (literalRest d tail) else (1, true)
      | [] => (1, true)
    else if some c = d.escape then
      match rest with
      | [] => (1, false)
      | next :: tail =>
        match tail with
        | [] => (2, false)
        | after :: tail' =>
          if next = '\r' && after = '\n' then more 3 (literalRest d tail')
          else more 2 (literalRest d (after :: tail'))
    else if Lines.isBreak c then (0, false)
    else more 1 (literalRest d rest)

/-- The number of characters that go on with a number: digits, one dot that a digit follows, and
what the language allows besides. -/
def numberRest (d : Definition) (dotSeen : Bool) : List Char → Nat
  | [] => 0
  | c :: rest =>
    if c.isDigit then numberRest d dotSeen rest + 1
    else if c = '.' && !dotSeen && rest.head?.any Char.isDigit then numberRest d true rest + 1
    else if d.isNumberContinue c then numberRest d dotSeen rest + 1
    else 0

/-- The number of characters that go on with an operator; one that opens a literal or a comment does
not. -/
def operatorRest (d : Definition) : List Char → Nat
  | [] => 0
  | c :: rest =>
    if !d.isOperator c || (d.delimiterFor? c).isSome || startsComment d (c :: rest) then 0
    else operatorRest d rest + 1

/-- The number of characters up to the next token. -/
def gapRest (d : Definition) : List Char → Nat
  | [] => 0
  | c :: rest => if startsToken d c rest then 0 else gapRest d rest + 1

/-- A word is a keyword if it is one as a whole. -/
def wordKind (d : Definition) (word : List Char) : TokenKind :=
  match d.lookup (String.ofList word) with
  | some group => .keyword group
  | none => .identifier

/-- The first token of a plain text: a run of blanks or a run of anything else. -/
def plainLexeme (c : Char) (rest : List Char) : Lexeme :=
  if Text.isBlank c then ⟨runLength Text.isBlank rest, .whitespace⟩
  else ⟨runLength (!Text.isBlank ·) rest, .identifier⟩

/-- The block comment that begins with `c`. -/
def blockLexeme (marks : BlockComment) (rest : List Char) : Lexeme :=
  let (n, closed) := blockRest marks.closing (rest.drop (marks.opening.length - 1))
  ⟨marks.opening.length - 1 + n, if closed then .blockComment else .unterminatedBlockComment⟩

/-- The line comment that begins with `c`; it ends before the line end. -/
def lineLexeme (mark : String) (rest : List Char) : Lexeme :=
  let n := runLength (!Lines.isBreak ·) (rest.drop (mark.length - 1))
  ⟨mark.length - 1 + n, .lineComment⟩

def literalLexeme (d : Delimiter) (rest : List Char) : Lexeme :=
  let (n, closed) := literalRest d rest
  ⟨n, if closed then .stringLiteral else .unterminatedString⟩

def wordLexeme (d : Definition) (c : Char) (rest : List Char) : Lexeme :=
  let more := rest.takeWhile d.isWordContinue
  ⟨more.length, wordKind d (c :: more)⟩

/-- The first token of a text in a language with rules: of the rules that fit, the first one. -/
def ruleLexeme (d : Definition) (c : Char) (rest : List Char) : Lexeme :=
  match blockComment? d (c :: rest), lineComment? d (c :: rest), d.delimiterFor? c with
  | some marks, _, _ => blockLexeme marks rest
  | none, some mark, _ => lineLexeme mark rest
  | none, none, some delimiter => literalLexeme delimiter rest
  | none, none, none =>
    if d.isWordStart c then wordLexeme d c rest
    else if c.isDigit then ⟨numberRest d false rest, .number⟩
    else if d.isOperator c then ⟨operatorRest d rest, .operator⟩
    else if d.isPunctuation c then ⟨0, .punctuation⟩
    else ⟨gapRest d rest, .whitespace⟩

/-- The first token of the text `c :: rest`. -/
def lexeme (d : Definition) (c : Char) (rest : List Char) : Lexeme :=
  if d.plain then plainLexeme c rest else ruleLexeme d c rest

end Highlighter.Scan
