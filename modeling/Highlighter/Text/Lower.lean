import Highlighter.Text.Property.Cased
import Highlighter.Text.Property.LowerCase

/-! Lower case of whole texts. Every character is mapped by itself but the Greek capital sigma,
which becomes a final sigma at the end of a word. -/
namespace Highlighter.Text

/-- The first character that is not looked through has a case. -/
def meetsCased (cs : List Char) : Bool :=
  match cs.dropWhile isCaseIgnorable with
  | c :: _ => isCased c
  | [] => false

def capitalSigma : Char := Char.ofNat 0x3a3

/-- The lower case of a capital sigma: final after a letter when no letter follows. -/
def lowerSigma (before after : List Char) : Char :=
  if meetsCased before && !meetsCased after then Char.ofNat 0x3c2 else Char.ofNat 0x3c3

/-- The lower case of a text that follows the characters `before`, nearest first. -/
def lowerAfter (before : List Char) : List Char → List Char
  | [] => []
  | c :: rest =>
    (if c = capitalSigma then [lowerSigma before rest] else lowerChar c) ++
      lowerAfter (c :: before) rest

def lower (cs : List Char) : List Char := lowerAfter [] cs

end Highlighter.Text
