import Highlighter.Text.Number

/-! Strings of TOML, after their opening quotes. A basic string has escapes, a literal string has
none; both can extend over several lines when they stand in three quotes. -/
namespace Highlighter.Toml

def isSpace (c : Char) : Bool := c = ' ' || c = '\t'

/-- A character that strings and comments can hold as it is. -/
def isTextChar (c : Char) : Bool := c = '\t' || (0x20 ≤ c.toNat && c.toNat != 0x7f)

def quoteRun (quote : Char) (cs : List Char) : Nat := (cs.takeWhile (· = quote)).length

/-- What three to five quotes close: the quotes in front of the last three belong to the string. -/
def closeMultiline (quote : Char) (done cs : List Char) : List Char × List Char :=
  let n := min (quoteRun quote cs) 5
  (done.reverse ++ List.replicate (n - 3) quote, cs.drop n)

/-- Where reading stands inside a basic string. -/
inductive Inside where
  | text
  /-- After a backslash. -/
  | escape
  /-- Among the digits of a code point: how many are to come, and the value so far. -/
  | code (left value : Nat)
  /-- After a backslash at a line end, and whether the line end has come. -/
  | lineEnd (seen : Bool)

def escapeOf? (c : Char) : Option Char :=
  if c = 'b' then some '\x08'
  else if c = 't' then some '\t'
  else if c = 'n' then some '\n'
  else if c = 'f' then some '\x0c'
  else if c = 'r' then some '\r'
  else if c = '\x22' || c = '\\' then some c
  else none

def atGap : List Char → Bool
  | '\r' :: next :: _ => next = '\n'
  | c :: _ => isSpace c || c = '\n'
  | [] => false

/-- The rest of a basic string, and the text after it. The characters read stand nearest first. -/
def basicFrom (multiline : Bool) (done : List Char) :
    Inside → List Char → Option (List Char × List Char)
  | _, [] => none
  | .text, c :: rest =>
    if c = '\x22' then
      if !multiline then some (done.reverse, rest)
      else if quoteRun c (c :: rest) < 3 then basicFrom multiline (c :: done) .text rest
      else some (closeMultiline c done (c :: rest))
    else if c = '\\' then basicFrom multiline done .escape rest
    else if multiline && c = '\r' && rest.head? = some '\n' then basicFrom multiline done .text rest
    else if isTextChar c || (multiline && c = '\n') then basicFrom multiline (c :: done) .text rest
    else none
  | .escape, c :: rest =>
    if c = 'u' then basicFrom multiline done (.code 4 0) rest
    else if c = 'U' then basicFrom multiline done (.code 8 0) rest
    else match escapeOf? c with
      | some char => basicFrom multiline (char :: done) .text rest
      | none =>
        if multiline && atGap (c :: rest) then
          if atGap rest then basicFrom multiline done (.lineEnd (c = '\n')) rest
          else if c = '\n' then basicFrom multiline done .text rest
          else none
        else none
  | .code left value, c :: rest =>
    match Text.hexDigit? c with
    | none => none
    | some d =>
      if left > 1 then basicFrom multiline done (.code (left - 1) (16 * value + d)) rest
      else match Text.charOfCode? (16 * value + d) with
        | some char => basicFrom multiline (char :: done) .text rest
        | none => none
  | .lineEnd seen, c :: rest =>
    if atGap rest then basicFrom multiline done (.lineEnd (seen || c = '\n')) rest
    else if seen || c = '\n' then basicFrom multiline done .text rest
    else none

/-- The rest of a literal string, and the text after it. -/
def literalFrom (multiline : Bool) (done : List Char) :
    List Char → Option (List Char × List Char)
  | [] => none
  | c :: rest =>
    if c = '\x27' then
      if !multiline then some (done.reverse, rest)
      else if quoteRun c (c :: rest) < 3 then literalFrom multiline (c :: done) rest
      else some (closeMultiline c done (c :: rest))
    else if multiline && c = '\r' && rest.head? = some '\n' then literalFrom multiline done rest
    else if isTextChar c || (multiline && c = '\n') then literalFrom multiline (c :: done) rest
    else none

/-- The text after the line end that it may begin with. -/
def dropLineEnd : List Char → List Char
  | '\n' :: rest => rest
  | '\r' :: '\n' :: rest => rest
  | cs => cs

/-- A string on one line, and the text after it. -/
def string? : List Char → Option (List Char × List Char)
  | '\x22' :: rest => basicFrom false [] .text rest
  | '\x27' :: rest => literalFrom false [] rest
  | _ => none

/-- A string of any form, and the text after it. -/
def anyString? : List Char → Option (List Char × List Char)
  | '\x22' :: '\x22' :: '\x22' :: rest => basicFrom true [] .text (dropLineEnd rest)
  | '\x27' :: '\x27' :: '\x27' :: rest => literalFrom true [] (dropLineEnd rest)
  | cs => string? cs

end Highlighter.Toml
