import Highlighter.Buffer.Basic
import Highlighter.Language.Group

/-! Tokens: classified spans of a buffer. -/
namespace Highlighter

inductive TokenKind where
  | identifier
  /-- A word of a keyword group. -/
  | keyword (group : GroupId)
  | number
  /-- A run of operator characters. -/
  | operator
  /-- A single punctuation character. -/
  | punctuation
  | lineComment
  | blockComment
  | stringLiteral
  /-- Blanks, and characters that begin nothing else. -/
  | whitespace
  /-- A block comment up to the end of the text. -/
  | unterminatedBlockComment
  /-- A literal that a line end or the end of the text cuts off. -/
  | unterminatedString
deriving DecidableEq, Repr

namespace TokenKind

def name : TokenKind → String
  | identifier => "identifier"
  | keyword _ => "keyword"
  | number => "number"
  | operator => "operator"
  | punctuation => "punctuation"
  | lineComment => "line-comment"
  | blockComment => "block-comment"
  | stringLiteral => "string"
  | whitespace => "whitespace"
  | unterminatedBlockComment => "unterminated-block-comment"
  | unterminatedString => "unterminated-string"

def group? : TokenKind → Option GroupId
  | keyword group => some group
  | _ => none

/-- The name of the kind, with the group of a keyword. -/
protected def toString (k : TokenKind) : String :=
  match k with
  | keyword group => s!"keyword({group})"
  | k => k.name

instance : ToString TokenKind := ⟨TokenKind.toString⟩

/-- Whether the end of the construct is missing. -/
def isUnterminated (k : TokenKind) : Bool :=
  k = unterminatedBlockComment || k = unterminatedString

end TokenKind

/-- A classified span of characters. -/
structure Token where
  start : Nat
  length : Nat
  kind : TokenKind
deriving DecidableEq, Repr

namespace Token

/-- The offset after the last character. -/
def stop (t : Token) : Nat := t.start + t.length

/-- The characters of the token, when it lies in the buffer. -/
def text? (t : Token) (b : Buffer) : Option (List Char) := b.slice? t.start t.stop

protected def toString (t : Token) : String := s!"{t.kind}@{t.start}+{t.length}"

instance : ToString Token := ⟨Token.toString⟩

end Token
end Highlighter
