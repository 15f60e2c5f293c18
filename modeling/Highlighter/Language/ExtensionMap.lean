import Highlighter.Language.Extension

/-! Which language an extension belongs to. Of several languages that claim an extension the first
one has it. -/
namespace Highlighter

/-- Extensions with the names of their languages, in the order of the claims. -/
structure ExtensionMap where
  entries : List (String × String)
deriving DecidableEq, Repr

namespace ExtensionMap

instance : EmptyCollection ExtensionMap := ⟨⟨[]⟩⟩

instance : Inhabited ExtensionMap := ⟨∅⟩

def size (m : ExtensionMap) : Nat := m.entries.length

def isEmpty (m : ExtensionMap) : Bool := m.entries.isEmpty

def get? (m : ExtensionMap) (extension : String) : Option String :=
  m.entries.lookup (Extension.normalize extension)

/-- Whether a claim of an extension is the first one, and the map with it. -/
def insert (m : ExtensionMap) (extension language : String) : Bool × ExtensionMap :=
  let extension := Extension.normalize extension
  if extension = "" || (m.entries.lookup extension).isSome then (false, m)
  else (true, ⟨m.entries ++ [(extension, language)]⟩)

/-- A claim of an extension that another language has. -/
structure Conflict where
  extension : String
  kept : String
  ignored : String
deriving DecidableEq, Repr

def conflict? (m : ExtensionMap) (extension language : String) : Option Conflict :=
  (m.get? extension).bind fun kept =>
    if kept = language then none else some ⟨Extension.normalize extension, kept, language⟩

/-- The map after the claims of a list. -/
def insertAll (m : ExtensionMap) (claims : List (String × String)) : ExtensionMap :=
  claims.foldl (fun m (extension, language) => (m.insert extension language).2) m

def conflictsAfter (m : ExtensionMap) : List (String × String) → List Conflict
  | [] => []
  | (extension, language) :: rest =>
    (m.conflict? extension language).toList ++
      conflictsAfter (m.insert extension language).2 rest

end ExtensionMap
end Highlighter
