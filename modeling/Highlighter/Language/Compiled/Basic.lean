import Highlighter.Language.Compiled.Entry

/-! Compiled languages: definitions as text files. Writing a definition and reading it back gives
the same definition, so a compiled file takes the place of the source it was made from. -/
namespace Highlighter.Compiled

/-- A letter or digit in a file name; any other character is written as its code point. -/
def fileNameChar (c : Char) : List Char :=
  if c.isAlphanum then [c.toLower] else '_' :: Text.hexDigits c.toNat ++ ['_']

/-- The name of the file that a language is compiled into. Names that differ in more than the case
of letters have different files. -/
def fileName (language : String) : String :=
  String.ofList (language.toList.flatMap fileNameChar) ++ ".lang"

def keywordsPerLine : Nat := 8

/-- Items in rows of `width`, the first of which begins with the items of `row`, nearest first. -/
def rowsAfter {α : Type} (width : Nat) (row : List α) : List α → List (List α)
  | [] => if row.isEmpty then [] else [row.reverse]
  | a :: rest =>
    if row.length + 1 < width then rowsAfter width (a :: row) rest
    else (a :: row).reverse :: rowsAfter width [] rest

def line (key : String) (values : List String) : String :=
  String.join [key, " = ", " ".intercalate values, "\n"]

/-- A line with several values, when there are any. -/
def listLine (key : String) (values : List String) : List String :=
  if values.isEmpty then [] else [line key (values.map value)]

def delimiterLine (d : Delimiter) : String :=
  line "Delimiter" [value d.name, quote (String.ofList [d.opening]),
    quote (String.ofList d.escape.toList), quote (String.ofList [d.closing])]

def setLine (name : SetName) (set : CharSet) : String := line name.key [quote set.toString]

def keywordLine (row : List Keyword) : String :=
  line "Keyword" (row.flatMap fun k => [value k.text, toString k.group])

def lines (d : Definition) : List String :=
  ["; tinct compiled language\n", line "Version" [toString formatVersion],
    line "Name" [quote d.name]] ++
  listLine "Ext" d.extensions ++
  (d.lineComment.map fun mark => line "LineComment" [quote mark]).toList ++
  (d.blockComment.map fun marks =>
    line "BlockComment" [quote marks.opening, quote marks.closing]).toList ++
  d.delimiters.map delimiterLine ++
  [setLine .operators d.operators, setLine .punctuation d.punctuation,
    setLine .keyStart d.keyStart, setLine .keyContinue d.keyContinue,
    setLine .numberContinue d.numberContinue] ++
  listLine "Group" (d.groups.items.map (·.name)) ++
  (rowsAfter keywordsPerLine [] d.keywords.entries).map keywordLine

def render (d : Definition) : String := String.join (lines d)

/-- The last set of a name; a set that no line gives is empty. -/
def setOf (name : SetName) (entries : List Entry) : CharSet :=
  ((entries.filterMap fun
    | .charSet other set => if other = name then some set else none
    | _ => none).getLast?).getD ∅

def nameOf? (entries : List Entry) : Option String :=
  (entries.filterMap fun | .name text => some text | _ => none).getLast?

def groupNamesOf (entries : List Entry) : List String :=
  entries.flatMap fun | .groups names => names | _ => []

def keywordsOf (entries : List Entry) : List Keyword :=
  entries.flatMap fun | .keywords ks => ks | _ => []

/-- The set that a keyword character clashes with: it must be in `wanted`, and must neither be an
operator nor punctuation. -/
def clashOf? (entries : List Entry) (wanted : SetName) (c : Char) : Option SetName :=
  if !(setOf wanted entries).contains c then some wanted
  else if (setOf .operators entries).contains c then some .operators
  else if (setOf .punctuation entries).contains c then some .punctuation
  else none

/-- The first character of a keyword that clashes with a set. -/
def clash? (entries : List Entry) (k : Keyword) : Option LanguageError :=
  match k.text.toList with
  | [] => none
  | first :: later =>
    let check := fun (wanted, c) =>
      (clashOf? entries wanted c).map (LanguageError.keywordClash k.text c)
    ((SetName.keyStart, first) :: later.map ((SetName.keyContinue, ·))).findSome? check

def ofEntries (entries : List Entry) : Except LanguageError Definition := do
  let some name := nameOf? entries | throw (.missingField .compiledName)
  let groupNames := groupNamesOf entries
  let declared := keywordsOf entries
  if let some k := declared.find? (·.group.index ≥ groupNames.length) then
    throw (.undeclaredGroup k.text k.group)
  let keywords := KeywordTable.ofList declared
  if let some error := keywords.entries.findSome? (clash? entries) then throw error
  return {
    name
    extensions := Extension.collect (entries.flatMap fun | .extensions texts => texts | _ => [])
    groups := Group.ofKeywords groupNames declared
    keywords
    keyStart := setOf .keyStart entries
    keyContinue := setOf .keyContinue entries
    operators := setOf .operators entries
    punctuation := setOf .punctuation entries
    numberContinue := setOf .numberContinue entries
    lineComment := Definition.markOf
      (entries.filterMap fun | .lineComment mark => some mark | _ => none).getLast?
    blockComment := Definition.marksOf
      (entries.filterMap fun | .blockComment marks => some marks | _ => none).getLast?
    delimiters := entries.filterMap fun | .delimiter d => some d | _ => none
    plain := false }

def parse (text : String) : Except LanguageError Definition := do
  let entries ← (readLines text).mapM id
  ofEntries (entries.filterMap id)

/-- What is worth a remark while reading a compiled file. -/
inductive Remark where
  | unknownKey (line : Nat) (key : String)
  | repeatedKeyword (language word : String)
deriving DecidableEq, Repr

/-- The declarations of texts that are among `seen` or declared before. -/
def repeatedAfter (seen : List String) : List Keyword → List String
  | [] => []
  | k :: rest =>
    if k.text ∈ seen then k.text :: repeatedAfter seen rest
    else repeatedAfter (k.text :: seen) rest

/-- The remarks on a compiled file, up to what cannot be read in it. -/
def remarks (text : String) : List Remark :=
  let results := readLines text
  let read := results.takeWhile Except.isOk
  let unknown := read.mapIdx fun i result =>
    match result with
    | .ok (some (.unknown key)) => [Remark.unknownKey (i + 1) key]
    | _ => []
  let entries := read.filterMap fun
    | .ok entry => entry
    | .error _ => none
  let repeated := match nameOf? entries with
    | some name =>
      let groupCount := (groupNamesOf entries).length
      (repeatedAfter [] ((keywordsOf entries).takeWhile (·.group.index < groupCount))).map
        (Remark.repeatedKeyword name)
    | none => []
  unknown.flatten ++ (if results.all Except.isOk then repeated else [])

end Highlighter.Compiled
