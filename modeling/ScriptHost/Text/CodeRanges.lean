/-!
# Ranges of code points

A set of characters as a list of closed ranges of code points.
-/
namespace ScriptHost.Text

abbrev CodeRanges := List (Nat × Nat)

def CodeRanges.contains (rs : CodeRanges) (c : Char) : Bool :=
  rs.any fun (first, last) => first ≤ c.toNat && c.toNat ≤ last

end ScriptHost.Text
