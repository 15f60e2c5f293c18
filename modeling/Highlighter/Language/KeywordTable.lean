import Highlighter.Language.Group

/-! The keywords of a language in ascending order of their texts. A text that is declared again
keeps the group that it was first declared in. -/
namespace Highlighter

/-- A word of a keyword group. -/
structure Keyword where
  text : String
  group : GroupId
deriving DecidableEq, Repr, Inhabited

/-- Keywords in ascending order of their texts. -/
structure KeywordTable where
  entries : List Keyword
  ascending : entries.Pairwise (·.text < ·.text)
deriving DecidableEq

namespace KeywordTable

/-- The entries with `k` in its place, unless its text is there already. -/
def addTo (k : Keyword) : List Keyword → List Keyword
  | [] => [k]
  | e :: rest =>
    if k.text < e.text then k :: e :: rest
    else if k.text = e.text then e :: rest
    else e :: addTo k rest

theorem mem_addTo {a k : Keyword} {es : List Keyword} (member : a ∈ addTo k es) :
    a = k ∨ a ∈ es := by
  induction es with
  | nil => simpa [addTo] using member
  | cons e rest ih =>
    simp only [addTo] at member
    split at member
    · simpa using member
    · split at member
      · exact .inr member
      · rcases List.mem_cons.mp member with rfl | member
        · simp
        · rcases ih member with rfl | member <;> simp [*]

theorem pairwise_addTo (k : Keyword) {es : List Keyword}
    (sorted : es.Pairwise (·.text < ·.text)) : (addTo k es).Pairwise (·.text < ·.text) := by
  induction es with
  | nil => simp [addTo]
  | cons e rest ih =>
    have parts := List.pairwise_cons.mp sorted
    simp only [addTo]
    split
    · rename_i smaller
      refine List.pairwise_cons.mpr ⟨fun a member => ?_, sorted⟩
      rcases List.mem_cons.mp member with rfl | member
      · exact smaller
      · exact String.lt_trans smaller (parts.1 a member)
    · split
      · exact sorted
      · rename_i notSmaller notSame
        refine List.pairwise_cons.mpr ⟨fun a member => ?_, ih parts.2⟩
        rcases mem_addTo member with rfl | member
        · exact Std.lt_of_le_of_ne (String.not_lt.mp notSmaller) (Ne.symm notSame)
        · exact parts.1 a member

instance : EmptyCollection KeywordTable := ⟨⟨[], List.Pairwise.nil⟩⟩

instance : Inhabited KeywordTable := ⟨∅⟩

/-- The table with one more keyword, unless its text is there already. -/
def add (t : KeywordTable) (k : Keyword) : KeywordTable :=
  ⟨addTo k t.entries, pairwise_addTo k t.ascending⟩

/-- The table of declared keywords: the first declaration of a text counts. -/
def ofList (ks : List Keyword) : KeywordTable := ks.foldl add ∅

def size (t : KeywordTable) : Nat := t.entries.length

def lookup (t : KeywordTable) (word : String) : Option GroupId :=
  (t.entries.find? (·.text = word)).map (·.group)

def firstChars (t : KeywordTable) : List Char := t.entries.flatMap (·.text.toList.take 1)

/-- The characters of keywords after their first ones. -/
def laterChars (t : KeywordTable) : List Char := t.entries.flatMap (·.text.toList.drop 1)

end KeywordTable

/-- The declarations whose text is neither among `seen` nor declared before. -/
def Keyword.firstAfter (seen : List String) : List Keyword → List Keyword
  | [] => []
  | k :: rest =>
    if k.text ∈ seen then firstAfter seen rest else k :: firstAfter (k.text :: seen) rest

/-- The declarations that count, in their order: the first one of each text. -/
def Keyword.firsts (ks : List Keyword) : List Keyword := firstAfter [] ks

/-- The groups with these names, each with the words that count and are declared in it. -/
def Group.ofKeywords (names : List String) (ks : List Keyword) : GroupTable Group :=
  ⟨names.mapIdx fun i name =>
    { id := ⟨i⟩, name
      words := ((Keyword.firsts ks).filter (·.group.index = i)).map (·.text) }⟩

end Highlighter
