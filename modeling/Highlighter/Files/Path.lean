import Highlighter.Text.Blank

/-! Paths as texts: names between slashes. Empty names and single dots stand for nothing, two dots
for the directory above. -/
namespace Highlighter.Path

def isAbsolute (path : String) : Bool := path.toList.head? = some '/'

def pieces (path : String) : List String := (Text.splitAt '/' path.toList).map String.ofList

def isVoid (piece : String) : Bool := piece = "" || piece = "."

/-- The names of a path, without the pieces that stand for nothing. -/
def names (path : String) : List String := (pieces path).filter (!isVoid ·)

/-- Whether the path can name a directory only, since no name stands at its end. -/
def wantsDirectory (path : String) : Bool :=
  match (pieces path).getLast? with
  | some last => isVoid last || last = ".."
  | none => false

/-- Whether a path ends in a single dot, inside of a directory that has to be there already. -/
def endsInside (path : String) : Bool :=
  ((pieces path).filter (· != "")).getLast? = some "."

/-- The path of the directory above the last name, written as it is in the path. -/
def parent (path : String) : String :=
  let upToName := (pieces path).reverse.dropWhile isVoid
  match (upToName.tail.dropWhile isVoid).reverse with
  | [] =>
    if isAbsolute path then "/" else if (pieces path).head? = some "." then "." else ""
  | above => String.intercalate "/" above

/-- The last name of a path, when it names a file. -/
def fileName? (path : String) : Option String :=
  (names path).getLast?.filter (· != "..")

/-- The part of the file name after its last dot. A dot in front of the name does not count. -/
def extension? (path : String) : Option String :=
  (fileName? path).bind fun name =>
    let (after, before) := name.toList.reverse.span (· != '.')
    match before with
    | [] | ['.'] => none
    | _ => some (String.ofList after.reverse)

def join (directory name : String) : String :=
  if isAbsolute name || directory = "" then name
  else if directory.toList.getLast? = some '/' then directory ++ name
  else directory ++ "/" ++ name

end Highlighter.Path
