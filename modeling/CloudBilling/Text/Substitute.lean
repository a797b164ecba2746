/-!
# Substitution in texts

Every occurrence of a pattern, from the left and without overlap, is replaced in one pass; what
was put in is not looked at again.
-/

namespace CloudBilling.Text

/-- Replace every occurrence of a pattern. An empty pattern occurs nowhere. -/
def substitute (pattern replacement : List Char) : List Char → List Char
  | [] => []
  | c :: rest =>
      if pattern ≠ [] ∧ pattern.isPrefixOf (c :: rest) then
        replacement ++ substitute pattern replacement (rest.drop (pattern.length - 1))
      else c :: substitute pattern replacement rest
termination_by text => text.length

end CloudBilling.Text
