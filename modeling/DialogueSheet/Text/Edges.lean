/-
# Classes of characters given by their edges

A class is a list of code points in ascending order at which membership changes:
outside before the first, inside from the first to before the second, and so on.
-/

namespace DialogueSheet
namespace Text

/-- Whether `n` is in the class: an odd number of edges lie at or before it. -/
def inRuns (edges : List Nat) (n : Nat) : Bool :=
  (edges.takeWhile (· ≤ n)).length % 2 == 1

end Text
end DialogueSheet
