/-! Blank and control characters, and cutting text at them. Blanks are the characters of the
Unicode property White_Space; every one of them separates words. -/
namespace Highlighter.Text

/-- A character of the Unicode property White_Space. -/
def isBlank (c : Char) : Bool :=
  let code := c.toNat
  code == 0x20 || (0x09 ≤ code && code ≤ 0x0d) || code == 0x85 || code == 0xa0 || code == 0x1680 ||
    (0x2000 ≤ code && code ≤ 0x200a) || code == 0x2028 || code == 0x2029 || code == 0x202f ||
    code == 0x205f || code == 0x3000

/-- A character of the Unicode general category Control. -/
def isControl (c : Char) : Bool :=
  c.toNat < 0x20 || (0x7f ≤ c.toNat && c.toNat < 0xa0)

/-- The text without the characters of `p` at its end. -/
def dropEndWhile (p : Char → Bool) (cs : List Char) : List Char :=
  (cs.reverse.dropWhile p).reverse

def trim (cs : List Char) : List Char :=
  dropEndWhile isBlank (cs.dropWhile isBlank)

/-- The words of a text, the first of which continues the characters `before`, nearest first. -/
def wordsAfter (before : List Char) : List Char → List (List Char)
  | [] => if before.isEmpty then [] else [before.reverse]
  | c :: rest =>
    if isBlank c then
      if before.isEmpty then wordsAfter [] rest else before.reverse :: wordsAfter [] rest
    else wordsAfter (c :: before) rest

/-- The maximal runs of characters that are not blank. -/
def words (text : String) : List String :=
  (wordsAfter [] text.toList).map String.ofList

/-- The pieces of a text between the characters `sep`; one more than there are of them. -/
def splitAt (sep : Char) : List Char → List (List Char)
  | [] => [[]]
  | c :: rest =>
    if c = sep then [] :: splitAt sep rest
    else match splitAt sep rest with
      | [] => [[c]]
      | piece :: pieces => (c :: piece) :: pieces

/-- The text before and after the first `sep`. -/
def cut? (sep : Char) : List Char → Option (List Char × List Char)
  | [] => none
  | c :: rest =>
    if c = sep then some ([], rest)
    else (cut? sep rest).map fun (before, after) => (c :: before, after)

end Highlighter.Text
