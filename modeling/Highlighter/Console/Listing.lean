import Highlighter.Console.Selection
import Highlighter.Json.Value
import Highlighter.Palette.Basic

/-! What the commands print of a scan: a row for each token, or the text in colour. -/
namespace Highlighter.Console

/-- A token with its place and its group, as it is listed. -/
structure TokenRow where
  token : Token
  /-- Line and column, counted from 1. -/
  position : Nat × Nat
  groupName : Option String
  text : List Char

def TokenRow.ofToken (b : Buffer) (d : Definition) (t : Token) : TokenRow :=
  { token := t
    position := b.position t.start
    groupName := (t.kind.group?.bind d.group?).map (·.name)
    text := (t.text? b).getD [] }

/-- The kind of a token, with number and name of its group. -/
def TokenRow.kindText (r : TokenRow) : String :=
  match r.token.kind.group?, r.groupName with
  | some id, some name => String.join [r.token.kind.name, "(", toString id, ":", name, ")"]
  | _, _ => r.token.kind.name

def TokenRow.line (r : TokenRow) : String :=
  String.join [Text.alignRight 5 (toString r.position.1), ":",
    Text.alignLeft 4 (toString r.position.2), " ", Text.alignRight 7 (toString r.token.start), " ",
    Text.alignRight 5 (toString r.token.length), "  ", Text.alignLeft 28 r.kindText, " ",
    Text.quoted (String.ofList r.text)]

def TokenRow.json (r : TokenRow) : String :=
  let group := r.token.kind.group?.map fun id => ("group", toString id)
  let groupName := r.groupName.map fun name => ("group_name", Json.quote name)
  let members := [("start", toString r.token.start), ("len", toString r.token.length),
    ("line", toString r.position.1), ("col", toString r.position.2),
    ("kind", Json.quote r.token.kind.name)] ++ group.toList ++ groupName.toList ++
    [("text", Json.quote (String.ofList r.text))]
  String.join ["\x7b",
    ",".intercalate (members.map fun (key, v) => String.join [Json.quote key, ":", v]), "\x7d"]

def tokenRows (b : Buffer) (d : Definition) (lines : Option String) (json emitWhitespace : Bool) :
    Except CommandError (List String) := do
  let (tokens, _) ← collectTokens b d (← parseLines lines) emitWhitespace
  return tokens.map fun t =>
    let row := TokenRow.ofToken b d t
    if json then row.json else row.line

/-- The part of a token between two offsets, in a colour if there is one. -/
def paintPart (color? : TokenKind → Option Color) (b : Buffer) (start stop : Nat) (t : Token) :
    List Char :=
  let first := max t.start start
  let last := min t.stop stop
  if first < last then Color.paint (color? t.kind) ((b.slice? first last).getD []) else []

/-- The text of the selected lines, in the colours of a palette if there is one. -/
def highlight (b : Buffer) (d : Definition) (lines : Option String) (palette : Option Palette) :
    Except CommandError (List Char) := do
  let (tokens, (start, stop)) ← collectTokens b d (← parseLines lines) true
  let color? := fun kind => palette.bind (·.colorFor? kind)
  return tokens.flatMap (paintPart color? b start stop)

end Highlighter.Console
