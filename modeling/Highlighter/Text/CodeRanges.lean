/-! Sets of code points as tables of ranges, looked up by bisection. -/
namespace Highlighter.Text

/-- A set of code points: disjoint closed ranges in ascending order. -/
structure CodeRanges where
  ranges : Array (Nat × Nat)

namespace CodeRanges

/-- The position in `[lo, hi)` of the first range that ends at or after `code`, or `hi`. -/
def locate (t : CodeRanges) (code lo hi : Nat) : Nat :=
  if lo < hi then
    match t.ranges[(lo + hi) / 2]? with
    | some (_, last) =>
      if last < code then t.locate code ((lo + hi) / 2 + 1) hi
      else t.locate code lo ((lo + hi) / 2)
    | none => hi
  else lo
termination_by hi - lo

def contains (t : CodeRanges) (c : Char) : Bool :=
  match t.ranges[t.locate c.toNat 0 t.ranges.size]? with
  | some (first, _) => first ≤ c.toNat
  | none => false

end CodeRanges
end Highlighter.Text
