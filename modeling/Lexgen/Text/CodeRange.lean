/-!
Sets of code points and maps on code points, held as short lists of ranges. A range is a first
point, a last point and the distance between neighbours, so that alternating runs stay one row.
-/

namespace Lexgen.Text

/-- Rows `(first, last, step)`. -/
abbrev CodeSet := List (Nat × Nat × Nat)

/-- Rows `(first, last, step, image)`: `first` goes to `image`, and the points after it keep
their distance. -/
abbrev CodeShift := List (Nat × Nat × Nat × Nat)

/-- A point lies in a range when it is one of `first`, `first + step`, … up to `last`. -/
def inRange (first last step point : Nat) : Bool :=
  first ≤ point && point ≤ last && (point - first) % step == 0

def CodeSet.holds (set : CodeSet) (point : Nat) : Bool :=
  set.any fun (first, last, step) => inRange first last step point

/-- The point that the first row covering `point` sends it to. -/
def CodeShift.image? (rows : CodeShift) (point : Nat) : Option Nat :=
  (rows.find? fun (first, last, step, _) => inRange first last step point).map
    fun (first, _, _, image) => image + (point - first)

end Lexgen.Text
