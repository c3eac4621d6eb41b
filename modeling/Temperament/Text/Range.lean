/-!
# Ranges of code points
-/

namespace Temperament.Text

/-- Code points given by the first and the last of each stretch. -/
abbrev Ranges := List (Nat × Nat)

def Ranges.contains (ranges : Ranges) (c : Char) : Bool :=
  ranges.any fun range => range.1 ≤ c.toNat && c.toNat ≤ range.2

end Temperament.Text
