import Highlighter.Text.Quoted

/-! Finite sets of characters, made for asking of each character of a text whether it is a member. The
members below U+0100 are bits of a table. The others stand in ascending order, each once, and none of
them has a place in the table; so two sets with the same members are the same value. -/
namespace Highlighter

namespace CharSet

/-- A place in the table: one of its words, and a bit of the word. -/
@[ext]
structure Slot where
  word : Fin 4
  position : Fin 64
deriving DecidableEq

/-- The word in which this bit alone is set. -/
def Slot.bit (slot : Slot) : UInt64 := 1 <<< UInt64.ofNat slot.position

/-- The place of a character in the table, if it has one. -/
def slot? (c : Char) : Option Slot :=
  if narrow : c.toNat < 0x100 then
    some ⟨⟨c.toNat / 64, by omega⟩, ⟨c.toNat % 64, by omega⟩⟩
  else none

end CharSet

/-- A finite set of characters. -/
structure CharSet where
  table : Vector UInt64 4
  /-- The members that have no place in the table. -/
  wide : List Char
  ascending : wide.Pairwise (· < ·)
  apart : ∀ c ∈ wide, CharSet.slot? c = none
deriving DecidableEq

namespace CharSet

/-- The members with `c` in its place among them. -/
def addTo (c : Char) : List Char → List Char
  | [] => [c]
  | m :: rest =>
    if c < m then c :: m :: rest
    else if c = m then m :: rest
    else m :: addTo c rest

theorem mem_addTo {a c : Char} {cs : List Char} : a ∈ addTo c cs ↔ a = c ∨ a ∈ cs := by
  induction cs with
  | nil => simp [addTo]
  | cons m rest ih =>
    simp only [addTo]
    split
    · simp
    · split
      · rename_i same
        simp [same]
      · simp only [List.mem_cons, ih]
        grind

theorem pairwise_addTo (c : Char) {cs : List Char} (sorted : cs.Pairwise (· < ·)) :
    (addTo c cs).Pairwise (· < ·) := by
  induction cs with
  | nil => simp [addTo]
  | cons m rest ih =>
    have parts := List.pairwise_cons.mp sorted
    simp only [addTo]
    split
    · rename_i smaller
      refine List.pairwise_cons.mpr ⟨fun a member => ?_, sorted⟩
      rcases List.mem_cons.mp member with rfl | member
      · exact smaller
      · exact Char.lt_trans smaller (parts.1 a member)
    · split
      · exact sorted
      · rename_i notSmaller notSame
        refine List.pairwise_cons.mpr ⟨fun a member => ?_, ih parts.2⟩
        rcases mem_addTo.mp member with rfl | member
        · exact Std.lt_of_le_of_ne (Char.not_lt.mp notSmaller) (Ne.symm notSame)
        · exact parts.1 a member

theorem apart_addTo {c : Char} {cs : List Char} (unplaced : slot? c = none)
    (apart : ∀ a ∈ cs, slot? a = none) : ∀ a ∈ addTo c cs, slot? a = none := by
  intro a member
  rcases mem_addTo.mp member with rfl | earlier
  · exact unplaced
  · exact apart a earlier

protected def empty : CharSet := ⟨Vector.replicate 4 0, [], List.Pairwise.nil, nofun⟩

instance : EmptyCollection CharSet := ⟨CharSet.empty⟩

instance : Inhabited CharSet := ⟨∅⟩

/-- The word of the table that a place is in. -/
def wordAt (s : CharSet) (slot : Slot) : UInt64 := s.table[slot.word]

def marks (s : CharSet) (slot : Slot) : Bool := s.wordAt slot &&& slot.bit != 0

def mark (s : CharSet) (slot : Slot) : CharSet :=
  { s with table := s.table.set slot.word (s.wordAt slot ||| slot.bit) }

def unmark (s : CharSet) (slot : Slot) : CharSet :=
  { s with table := s.table.set slot.word (s.wordAt slot &&& ~~~slot.bit) }

def contains (s : CharSet) (c : Char) : Bool :=
  match slot? c with
  | some slot => s.marks slot
  | none => s.wide.contains c

/-- Whether `c` was no member yet, and the set with it. -/
def insert (s : CharSet) (c : Char) : Bool × CharSet :=
  match place : slot? c with
  | some slot => (!s.marks slot, s.mark slot)
  | none =>
    (!s.wide.contains c, { s with
      wide := addTo c s.wide
      ascending := pairwise_addTo c s.ascending
      apart := apart_addTo place s.apart })

/-- Whether `c` was a member, and the set without it. -/
def remove (s : CharSet) (c : Char) : Bool × CharSet :=
  match slot? c with
  | some slot => (s.marks slot, s.unmark slot)
  | none =>
    (s.wide.contains c, { s with
      wide := s.wide.filter (· != c)
      ascending := s.ascending.filter _
      apart := fun a member => s.apart a (List.mem_filter.mp member).1 })

def add (s : CharSet) (c : Char) : CharSet := (s.insert c).2

def addAll (s : CharSet) (cs : List Char) : CharSet := cs.foldl add s

def ofList (cs : List Char) : CharSet := (∅ : CharSet).addAll cs

def ofString (text : String) : CharSet := ofList text.toList

def without (s : CharSet) (cs : List Char) : CharSet := cs.foldl (fun s c => (s.remove c).2) s

/-- How many bits of a word are set. -/
def bitCount (word : UInt64) : Nat := word.toBitVec.cpop.toNat

def size (s : CharSet) : Nat :=
  s.table.foldl (fun count word => count + bitCount word) s.wide.length

def isEmpty (s : CharSet) : Bool := s.table.all (· == 0) && s.wide.isEmpty

/-- The characters that have a place in the table. -/
def narrow : List Char := (List.range 0x100).map Char.ofNat

/-- The members in ascending order. -/
def members (s : CharSet) : List Char := narrow.filter s.contains ++ s.wide

instance : Membership Char CharSet := ⟨fun s c => c ∈ s.members⟩

instance (c : Char) (s : CharSet) : Decidable (c ∈ s) :=
  inferInstanceAs (Decidable (c ∈ s.members))

protected def toString (s : CharSet) : String := String.ofList s.members

instance : ToString CharSet := ⟨CharSet.toString⟩

def summary (s : CharSet) : String :=
  String.join ["CharSet(", Text.quoted s.toString, ")"]

end CharSet
end Highlighter
