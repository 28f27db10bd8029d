/-!
# Sets of characters as ranges

A property of characters is a list of inclusive ranges of code points in increasing order.  Keeping the list
sorted lets a search stop at the first range that starts beyond the code point, so asking about an ASCII
character never walks a table.
-/

namespace ProductGraph
namespace Unicode

/-- Inclusive ranges of code points, sorted and apart from each other. -/
abbrev Ranges := List (Nat × Nat)

namespace Ranges

/-- Whether a code point lies in one of the ranges.  The search ends at the first range beyond it. -/
def contains : Ranges → Nat → Bool
  | [], _ => false
  | (low, high) :: rest, point =>
    if point < low then false else point ≤ high || contains rest point

end Ranges

end Unicode
end ProductGraph
