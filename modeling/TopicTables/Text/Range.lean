/-! # Character classes given by ranges

A class of characters is a list of closed ranges of code points, in increasing order.
-/

namespace TopicTables.Text

/-- A list of closed ranges of code points. -/
abbrev Ranges := List (Nat × Nat)

/-- The code point of the character lies in one of the ranges. -/
def Ranges.holds (ranges : Ranges) (c : Char) : Bool :=
  ranges.any fun range => range.1 ≤ c.toNat && c.toNat ≤ range.2

theorem Ranges.holds_nil (c : Char) : Ranges.holds [] c = false := rfl

theorem Ranges.holds_cons (range : Nat × Nat) (ranges : Ranges) (c : Char) :
    Ranges.holds (range :: ranges) c =
      ((range.1 ≤ c.toNat && c.toNat ≤ range.2) || Ranges.holds ranges c) := rfl

end TopicTables.Text
