/-!
# Ranges of characters

Tables of characters are lists of closed ranges of code points.
-/

namespace CloudBilling.Text

/-- Whether a character lies in one of some closed ranges of code points. -/
def isWithin (ranges : List (Nat × Nat)) (c : Char) : Bool :=
  ranges.any fun range => range.1 ≤ c.toNat && c.toNat ≤ range.2

end CloudBilling.Text
