import Highlighter.Proofs.Language.Ownership
import Mathlib.Data.List.Sort
import Mathlib.Data.String.Basic

/-! The character sets of a language follow from the set of its words. How the words are ordered,
grouped and repeated decides which group a word belongs to, but every word stands in the keyword table
once, and the table is all that the character sets are made from. -/
namespace Highlighter

/-- The words that any group declares; empty words are nobody's. -/
def Declaration.words (d : Declaration) : Set String :=
  {word | word ≠ "" ∧ ∃ group ∈ d.groups, word ∈ group.words}

namespace KeywordTable

/-- The texts of the keywords, in ascending order. -/
def texts (t : KeywordTable) : List String := t.entries.map (·.text)

end KeywordTable

namespace Definition

/-- The character sets of a definition are those of a language with these words. -/
structure SetsOf (words : Set String) (d : Definition) : Prop where
  starts : ∀ c, c ∈ d.keyStart ↔ ∃ word ∈ words, word.toList.head? = some c
  continues : ∀ c, c ∈ d.keyContinue ↔ ∃ word ∈ words, c ∈ word.toList.tail
  operators : ∀ c, c ∈ d.operators ↔
    c ∈ operatorAlphabet.toList ∧ ∀ word ∈ words, c ∉ word.toList
  punctuation : ∀ c, c ∈ d.punctuation ↔
    c ∈ punctuationAlphabet.toList ∧ ∀ word ∈ words, c ∉ word.toList

variable {words : Set String} {d e : Definition}

/-- There is one set of each kind for a set of words. -/
theorem SetsOf.unique (one : d.SetsOf words) (other : e.SetsOf words) :
    d.keyStart = e.keyStart ∧ d.keyContinue = e.keyContinue ∧ d.operators = e.operators ∧
      d.punctuation = e.punctuation :=
  ⟨CharSet.ext_mem fun c => (one.starts c).trans (other.starts c).symm,
    CharSet.ext_mem fun c => (one.continues c).trans (other.continues c).symm,
    CharSet.ext_mem fun c => (one.operators c).trans (other.operators c).symm,
    CharSet.ext_mem fun c => (one.punctuation c).trans (other.punctuation c).symm⟩

/-- Words with characters of both alphabets and one of neither, in two groups. -/
def grouped : Declaration :=
  { name := "a", groups := [⟨"x", ["->", "if", ""]⟩, ⟨"y", ["if", "\u00e9:"]⟩] }

end Definition
end Highlighter
