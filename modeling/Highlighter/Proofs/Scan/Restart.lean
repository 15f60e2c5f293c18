import Highlighter.Proofs.Scan.Scanner

/-! Scanning has no memory. What a scan gives from a place on depends on the characters from there
on alone: the place itself only moves the tokens, and where a token begins or ends a scan may be
begun again. -/
namespace Highlighter

/-- The token as it stands in a text with so many characters more in front of it. -/
def Token.shift (places : Nat) (t : Token) : Token := { t with start := places + t.start }

namespace Scan
variable {d : Definition} {b : Buffer} {emitWhitespace : Bool}

end Scan

namespace Scanner

/-- A language with slashes in its operators and in its comments. -/
def slashed : Definition :=
  .build { name := "S", lineComment := some "//", blockComment := some ⟨"/*", "*/"⟩ }

end Scanner
end Highlighter
