import ResourceQuery.Text.Classes

/-!
Integers in decimal digits. Digits of every script count. A decimal text of more than
`maxDigits` digits is neither read nor written, leading zeros included and the sign left out.
-/
namespace ResourceQuery.Number

/-- The most digits that an integer may have in decimal text. -/
def maxDigits : Nat := 4300

/-- The number that digits denote, the first being the most significant; characters that are no
digits count as zero. -/
def ofDigits (digits : List Char) : Nat :=
  digits.foldl (fun value c => 10 * value + (Text.digitValue? c).getD 0) 0

/-- The digits of a number. -/
def digits (n : Nat) : List Char := Nat.toDigits 10 n

/-- The digits of a number with zeros in front up to a width. -/
def padded (width n : Nat) : List Char :=
  List.replicate (width - (digits n).length) '0' ++ digits n

/-- An integer with `-` in front if it is negative. -/
def integerText (n : Int) : List Char :=
  if n < 0 then '-' :: digits n.natAbs else digits n.natAbs

/-- Whether an integer has few enough digits to be written. -/
def isWritable (n : Int) : Bool := (digits n.natAbs).length ≤ maxDigits

/-- A sign in front of a text: whether it is `-`, and the text after it. -/
def takeSign : List Char → Bool × List Char
  | '-' :: rest => (true, rest)
  | '+' :: rest => (false, rest)
  | rest => (false, rest)

/-- A magnitude with a sign. -/
def signed (negative : Bool) (magnitude : Nat) : Int :=
  if negative then -(magnitude : Int) else magnitude

/-- The digits of a number below `10 ^ width`, or none when the text has another length or holds a
character that is no ASCII digit. -/
def fixedWidth? (width : Nat) (text : List Char) : Option Nat :=
  if text.length = width ∧ text.all Char.isDigit then some (ofDigits text) else none

/-- Drop the single underscores that stand between two digits; nothing if an underscore stands
elsewhere. -/
def withoutUnderscores? : List Char → Option (List Char)
  | [] => some []
  | ['_'] => none
  | c :: '_' :: next :: rest =>
    if c = '_' ∨ next = '_' then none else (withoutUnderscores? (next :: rest)).map (c :: ·)
  | c :: rest => if c = '_' then none else (withoutUnderscores? rest).map (c :: ·)

/-- An integer as people type it: blanks around it, a sign, and digits of any script in which
single underscores may group the digits. -/
def loose? (text : List Char) : Option Int :=
  let (negative, body) := takeSign (Text.strip text)
  match withoutUnderscores? body with
  | none => none
  | some plain =>
    if plain ≠ [] ∧ plain.all Text.isDigit ∧ plain.length ≤ maxDigits then
      some (signed negative (ofDigits plain))
    else none

end ResourceQuery.Number
