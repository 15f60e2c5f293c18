/-! Values of TOML documents. Numbers with a fraction, dates and times are kept as they are written,
since no setting and no language description has one. -/
namespace Highlighter.Toml

/-- How a table came about, which decides how it may grow. -/
inductive Origin where
  /-- By a header of its own, or as the document. -/
  | header
  /-- By a longer header. -/
  | implied
  | dotted
  | braces
deriving DecidableEq, Repr

inductive Value where
  | string (text : String)
  | integer (n : Int)
  | float (text : String)
  | boolean (b : Bool)
  | datetime (text : String)
  | array (items : List Value)
  /-- The keys of a table differ. -/
  | table (origin : Origin) (entries : List (String × Value))
  /-- An array of tables that stand under headers of their own. -/
  | tables (rows : List (List (String × Value)))
deriving Inhabited, Repr

abbrev Entries := List (String × Value)

/-- Why a document cannot be read. -/
inductive Fault where
  /-- The text does not follow the grammar; so many characters of it are left. -/
  | malformed (left : Nat)
  /-- A key stands for something else already. -/
  | redefined (key : String)
  /-- A value is not of the kind that belongs there. -/
  | wrongKind (expected : String)
  /-- A key without which a table means nothing is not there. -/
  | absent (key : String)
deriving DecidableEq, Repr

def Fault.message : Fault → String
  | malformed left => s!"malformed {left} characters before the end"
  | redefined key => String.join ["duplicate key ", key]
  | wrongKind expected => String.join ["expected ", expected]
  | absent key => String.join ["missing key ", key]

end Highlighter.Toml
