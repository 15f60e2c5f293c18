import Highlighter.Text.Number

/-! Keyword groups are numbered in the order of their declaration. A table of them is addressed by
these numbers, which no other table shares. -/
namespace Highlighter

/-- The number of a keyword group. -/
structure GroupId where
  index : Nat
deriving DecidableEq, Repr, Inhabited

/-- The group at a position; positions of more than 32 bits number no group. -/
def GroupId.ofIndex? (index : Nat) : Option GroupId :=
  if index < Text.limit32 then some ⟨index⟩ else none

instance : ToString GroupId := ⟨fun id => toString id.index⟩

/-- Values numbered by group. -/
structure GroupTable (α : Type) where
  items : List α
deriving DecidableEq, Repr, Inhabited

namespace GroupTable
variable {α : Type}

instance : EmptyCollection (GroupTable α) := ⟨⟨[]⟩⟩

def size (t : GroupTable α) : Nat := t.items.length

def isEmpty (t : GroupTable α) : Bool := t.items.isEmpty

def nextId (t : GroupTable α) : GroupId := ⟨t.size⟩

/-- The table with a value at its end, and the number of this value. -/
def push (t : GroupTable α) (a : α) : GroupTable α × GroupId := (⟨t.items ++ [a]⟩, t.nextId)

def get? (t : GroupTable α) (id : GroupId) : Option α := t.items[id.index]?

/-- The table with another value at a number that is in use. -/
def set (t : GroupTable α) (id : GroupId) (a : α) : GroupTable α := ⟨t.items.set id.index a⟩

def ids (t : GroupTable α) : List GroupId := (List.range t.size).map GroupId.mk

def enumerated (t : GroupTable α) : List (GroupId × α) := t.ids.zip t.items

end GroupTable

/-- A named set of words that are shown alike; the words stand in the order of declaration. -/
structure Group where
  id : GroupId
  name : String
  words : List String
deriving DecidableEq, Repr, Inhabited

namespace Group

def contains (g : Group) (word : String) : Bool := g.words.contains word

/-- Whether two groups differ in the order of their words at most. -/
def sameAs (g h : Group) : Bool :=
  g.id = h.id && g.name = h.name && g.words.length = h.words.length && g.words.all h.contains

end Group
end Highlighter
