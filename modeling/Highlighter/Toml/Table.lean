import Highlighter.Toml.Value

/-! How the tables of a TOML document grow. A header opens a table once; the tables on the way to
it come about by themselves. A key with dots grows tables that only such keys have made. -/
namespace Highlighter.Toml

/-- The entries with another value for a key that is among them. -/
def Entries.replace (entries : Entries) (key : String) (value : Value) : Entries :=
  entries.map fun (k, v) => if k = key then (k, value) else (k, v)

def Entries.remove (entries : Entries) (key : String) : Entries := entries.filter (·.1 != key)

/-- Changes the entries of the table that `path` leads to from a table of the given origin, and
makes the tables that are missing on the way. Of an array of tables the last one is meant. -/
def descend {α : Type} (byDots : Bool) (path : List String) (origin : Origin) (entries : Entries)
    (change : Origin → Entries → Except Fault (α × Entries)) : Except Fault (α × Entries) :=
  match path with
  | [] => change origin entries
  | key :: rest =>
    match entries.lookup key with
    | none => do
      let origin := if byDots then Origin.dotted else .implied
      let (a, inner) ← descend byDots rest origin [] change
      return (a, entries ++ [(key, .table origin inner)])
    | some (.tables rows) => do
      let (a, last) ← descend byDots rest .header (rows.getLast?.getD []) change
      return (a, entries.replace key (.tables (rows.dropLast ++ [last])))
    | some (.table origin inner) =>
      if origin = .braces || (byDots && origin = .header) then .error (.redefined key)
      else do
        let (a, inner) ← descend byDots rest origin inner change
        return (a, entries.replace key (.table origin inner))
    | some _ => .error (.redefined key)

/-- Gives a key a value; the key has a path of dotted keys before it. A table that dotted keys have
made takes values by dotted keys only, and any other one by plain keys only. -/
def assign (entries : Entries) (path : List String) (key : String) (value : Value) :
    Except Fault Entries :=
  let add (origin : Origin) (entries : Entries) : Except Fault (Unit × Entries) :=
    if decide (origin = .dotted) = path.isEmpty || (entries.lookup key).isSome then
      .error (.redefined key)
    else .ok ((), entries ++ [(key, value)])
  (·.2) <$> descend true path .header entries add

/-- A table whose keys are being read, and where in the document it belongs. -/
structure Section where
  /-- The path of the header; the document itself has none. -/
  path : List String
  isRow : Bool
  entries : Entries

def Section.close (s : Section) (root : Entries) : Except Fault Entries :=
  match s.path.getLast? with
  | none => .ok s.entries
  | some key =>
    let place (_ : Origin) (entries : Entries) : Except Fault (Unit × Entries) :=
      match s.isRow, entries.lookup key with
      | true, none => .ok ((), entries ++ [(key, .tables [s.entries])])
      | true, some (.tables rows) =>
        .ok ((), Entries.replace entries key (.tables (rows ++ [s.entries])))
      | false, none => .ok ((), entries ++ [(key, .table .header s.entries)])
      | _, some _ => .error (.redefined key)
    (·.2) <$> descend false s.path.dropLast .header root place

/-- The section that a header opens, and the document without it. -/
def Section.openTable (root : Entries) (path : List String) : Except Fault (Section × Entries) :=
  let key := path.getLast?.getD ""
  let take (_ : Origin) (entries : Entries) : Except Fault (Entries × Entries) :=
    match entries.lookup key with
    | none => .ok ([], entries)
    | some (.table .implied inner) => .ok (inner, Entries.remove entries key)
    | some _ => .error (.redefined key)
  do
    let (entries, root) ← descend false path.dropLast .header root take
    return (⟨path, false, entries⟩, root)

def Section.openRow (root : Entries) (path : List String) : Except Fault (Section × Entries) :=
  let key := path.getLast?.getD ""
  let check (_ : Origin) (entries : Entries) : Except Fault (Unit × Entries) :=
    match entries.lookup key with
    | none | some (.tables _) => .ok ((), entries)
    | some _ => .error (.redefined key)
  do
    let (_, root) ← descend false path.dropLast .header root check
    return (⟨path, true, []⟩, root)

end Highlighter.Toml
