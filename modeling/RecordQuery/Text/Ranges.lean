/-!
# Intervals of code points

A class of characters is given by the intervals of its code points.

* `isBetween`: membership in one interval.
* `inRanges`: membership in one of several.
-/

namespace RecordQuery.Text

def isBetween (first last : Nat) (c : Char) : Bool :=
  first ≤ c.toNat && c.toNat ≤ last

def inRanges (ranges : List (Nat × Nat)) (c : Char) : Bool :=
  ranges.any fun (first, last) => isBetween first last c

end RecordQuery.Text
