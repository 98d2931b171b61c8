/-!
# Range tables

A property of characters is a list of inclusive code point ranges in increasing order.
-/

namespace FrontEnd.Unicode

/-- Inclusive ranges, each above the one before. -/
abbrev Ranges := List (Nat × Nat)

/-- Whether a range holds `v`. The ranges increase, so the search ends at one that starts above. -/
def Ranges.covers : Ranges → Nat → Bool
  | [], _ => false
  | (low, high) :: rest, v => low ≤ v && (v ≤ high || Ranges.covers rest v)

end FrontEnd.Unicode
