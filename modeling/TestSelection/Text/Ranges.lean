/-
# Tables of ranges

A class of characters is given by the ranges of its code points, in ascending order and with both
ends included.
-/

namespace TestSelection
namespace Text

/-- Whether a number lies in the ranges `lo, …, hi - 1` of a table, by halving. The ranges ascend,
so the middle one tells which half can hold the number. -/
def inRanges (table : Array (Nat × Nat)) (n lo hi : Nat) : Bool :=
  if lo < hi then
    let mid := (lo + hi) / 2
    let range := table.getD mid (0, 0)
    if n < range.1 then inRanges table n lo mid
    else if range.2 < n then inRanges table n (mid + 1) hi
    else true
  else false
termination_by hi - lo

/-- Whether a number lies in one of the ranges of a table. -/
def isIn (table : Array (Nat × Nat)) (n : Nat) : Bool := inRanges table n 0 table.size

end Text
end TestSelection
