/-!
Sets of characters given as ranges of code points.
-/
namespace ResourceQuery.Text

/-- A set of code points: both ends of a range belong to it. -/
abbrev Ranges := List (Nat × Nat)

/-- Whether some range holds the character. -/
def Ranges.holds (ranges : Ranges) (c : Char) : Bool :=
  ranges.any fun range => range.1 ≤ c.toNat && c.toNat ≤ range.2

end ResourceQuery.Text
