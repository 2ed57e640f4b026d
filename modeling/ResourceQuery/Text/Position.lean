/-!
Positions in texts of several lines.
-/
namespace ResourceQuery.Text

/-- The line and the column of a position, both counted from 1. -/
def lineColumn (text : List Char) (position : Nat) : Nat × Nat :=
  let before := text.take position
  (before.count '\n' + 1, (before.reverse.takeWhile (· ≠ '\n')).length + 1)

end ResourceQuery.Text
