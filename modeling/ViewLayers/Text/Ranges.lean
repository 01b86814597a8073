/-!
A set of numbers given by the increasing list of points at which membership changes: outside
before the first, inside from the first to the second, and so on.
-/

namespace ViewLayers.Text

/-- Membership in the set with these bounds: an odd number of changes lies at or below `n`. -/
def within (bounds : List Nat) (n : Nat) : Bool :=
  (bounds.takeWhile (· ≤ n)).length % 2 == 1

end ViewLayers.Text
