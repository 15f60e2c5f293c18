import Highlighter.Scan.Rules

/-! The tokens of a text, one after the other and without a gap. -/
namespace Highlighter.Scan

/-- The tokens of the characters from `offset` on. -/
def tokensFrom (d : Definition) (offset : Nat) : List Char → List Token
  | [] => []
  | c :: rest =>
    let first := lexeme d c rest
    ⟨offset, first.more + 1, first.kind⟩ ::
      tokensFrom d (offset + (first.more + 1)) (rest.drop first.more)
termination_by cs => cs.length

/-- Whether a scan gives a token: whitespace is given on request only. -/
def isGiven (emitWhitespace : Bool) (t : Token) : Bool :=
  emitWhitespace || t.kind != .whitespace

def tokens (d : Definition) (b : Buffer) (start : Nat) (emitWhitespace : Bool) : List Token :=
  (tokensFrom d (min start b.length) (b.chars.drop start)).filter (isGiven emitWhitespace)

end Highlighter.Scan
