import ResourceQuery.Text.Identifiers
import ResourceQuery.Text.Letters
import ResourceQuery.Text.Numerals
import ResourceQuery.Text.Unprintable

/-!
Classes of characters: blanks, letters, digits, word characters, identifiers and printable
characters. Each class is the one of Unicode and treats ASCII directly. `strip` drops the blanks
at both ends of a text.
-/
namespace ResourceQuery.Text

/-- What is said of all or of some characters of a text is tested for one after the other. -/
instance decidableAll {p : Char → Prop} [DecidablePred p] (text : List Char) : Decidable (∀ c ∈ text, p c) :=
  List.decidableBAll p text

instance decidableAny {p : Char → Prop} [DecidablePred p] (text : List Char) : Decidable (∃ c ∈ text, p c) :=
  List.decidableBEx p text

/-- Characters differ if a class holds only one of them. -/
theorem ne_of_class {isIn : Char → Bool} {c other : Char} (inside : isIn c = true) (outside : isIn other = false) :
    c ≠ other := by
  rintro rfl
  rw [inside] at outside
  cases outside

/-- White space, the separators of records and units included. -/
def isBlank (c : Char) : Bool :=
  let n := c.toNat
  (9 ≤ n && n ≤ 13) || (28 ≤ n && n ≤ 32) || n == 0x85 || n == 0xA0 || n == 0x1680 ||
    (0x2000 ≤ n && n ≤ 0x200A) || n == 0x2028 || n == 0x2029 || n == 0x202F || n == 0x205F ||
    n == 0x3000

/-- Letters of any script. -/
def isLetter (c : Char) : Bool :=
  if c.toNat < 0x80 then c.isAlpha else letterRanges.holds c

/-- The value of a decimal digit of any script. -/
def digitValue? (c : Char) : Option Nat :=
  if c.toNat < 0x80 then
    if c.isDigit then some (c.toNat - 48) else none
  else
    (zeros.find? fun first => first ≤ c.toNat && c.toNat < first + 10).map (c.toNat - ·)

/-- Decimal digits of any script. -/
def isDigit (c : Char) : Bool := (digitValue? c).isSome

/-- Letters, numerals and the underscore. -/
def isWord (c : Char) : Bool :=
  if c.toNat < 0x80 then c.isAlphanum || c == '_'
  else letterRanges.holds c || numeralRanges.holds c

/-- Characters that a quoted text shows as themselves. -/
def isPrintable (c : Char) : Bool :=
  if c.toNat < 0x80 then 32 ≤ c.toNat && c.toNat < 127 else !unprintableRanges.holds c

/-- Characters that may start an identifier. -/
def startsIdentifier (c : Char) : Bool :=
  c == '_' || (isLetter c && !identifierNonStarters.holds c) || identifierStarters.holds c

/-- Characters that may go on an identifier. -/
def continuesIdentifier (c : Char) : Bool :=
  (isWord c && !identifierBreakers.holds c) || identifierJoiners.holds c

/-- An identifier: one character that may start it, then characters that may go on. -/
def isIdentifier : List Char → Bool
  | [] => false
  | c :: rest => startsIdentifier c && rest.all continuesIdentifier

/-- The value of an ASCII hexadecimal digit. -/
def hexValue? (c : Char) : Option Nat :=
  let n := c.toNat
  if 48 ≤ n && n ≤ 57 then some (n - 48)
  else if 65 ≤ n && n ≤ 70 then some (n - 55)
  else if 97 ≤ n && n ≤ 102 then some (n - 87)
  else none

/-- The text without the blanks at its start. -/
def stripStart (text : List Char) : List Char := text.dropWhile isBlank

/-- The text without the blanks at its end. -/
def stripEnd (text : List Char) : List Char := (text.reverse.dropWhile isBlank).reverse

/-- The text without the blanks at both ends. -/
def strip (text : List Char) : List Char := stripEnd (stripStart text)

/-- The parts with the separator between each two of them. -/
def joined (separator : String) : List String → String
  | [] => ""
  | [part] => part
  | part :: next :: rest => part ++ separator ++ joined separator (next :: rest)

/-- The parts between separators. -/
def splitOn (separator : Char) : List Char → List (List Char)
  | [] => [[]]
  | c :: rest =>
    if c = separator then [] :: splitOn separator rest
    else
      match splitOn separator rest with
      | [] => [[c]]
      | first :: more => (c :: first) :: more

/-- The text with every pair of the two characters put down as `new`, from left to right. -/
def replacePair (first second : Char) (new : List Char) : List Char → List Char
  | a :: b :: rest =>
    if a = first ∧ b = second then new ++ replacePair first second new rest
    else a :: replacePair first second new (b :: rest)
  | rest => rest

end ResourceQuery.Text
