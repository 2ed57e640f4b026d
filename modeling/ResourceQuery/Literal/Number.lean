import ResourceQuery.Error
import ResourceQuery.Number.Scientific
import ResourceQuery.Value

/-!
Numbers as literals: integers in decimal, hexadecimal, octal or binary digits, `Infinity`, and
decimal fractions. Blanks around a number do not count.
-/
namespace ResourceQuery.Literal
open ResourceQuery.Number (Binary64 Scientific)

/-- A number as it is written: an integer, or a floating point number. -/
inductive Numeral
  | int (n : Int)
  | real (x : Binary64)

/-- The value of a number. -/
def Numeral.toValue : Numeral → Value
  | .int n => .int n
  | .real x => .real x

/-- The base that a letter after a zero stands for. -/
def base? (mark : Char) : Option Nat :=
  if mark = 'x' ∨ mark = 'X' then some 16
  else if mark = 'o' ∨ mark = 'O' then some 8
  else if mark = 'b' ∨ mark = 'B' then some 2
  else none

/-- The value of a digit in a base. -/
def digitIn? (base : Nat) (c : Char) : Option Nat :=
  (Text.hexValue? c).filter (· < base)

/-- The number that ASCII digits denote in a base. -/
def ofBase? (base : Nat) (digits : List Char) : Option Nat :=
  digits.foldlM (fun value c => (digitIn? base c).map (base * value + ·)) 0

/-- An integer with its base in front, such as `0x1F`, `-0o17` or `0b101`. -/
def prefixed? (text : List Char) : Option Int :=
  let (negative, body) := Number.takeSign text
  match body with
  | '0' :: mark :: first :: rest => do
    let base ← base? mark
    let magnitude ← ofBase? base (first :: rest)
    return Number.signed negative magnitude
  | _ => none

/-- Whether a text is an integer in decimal digits. -/
def isDecimal (text : List Char) : Bool :=
  let digits := (Number.takeSign text).2
  !digits.isEmpty && digits.all Text.isDigit

/-- An integer in decimal digits, unless they are too many. -/
def decimal (text : List Char) : Except Error Int :=
  let (negative, digits) := Number.takeSign text
  if Number.maxDigits < digits.length then .error (.longInteger digits.length)
  else .ok (Number.signed negative (Number.ofDigits digits))

/-- The spellings of infinity. -/
def infinity? (text : List Char) : Option Binary64 :=
  let (negative, word) := Number.takeSign text
  if word = "Infinity".toList then some (.infinite negative) else none

/-- The number that a text denotes; nothing if it denotes none. -/
def number? (text : List Char) : Except Error (Option Numeral) :=
  let text := Text.strip text
  if isDecimal text then do return some (.int (← decimal text))
  else
    .ok <| ((prefixed? text).map Numeral.int) <|>
      ((infinity? text).map Numeral.real) <|>
      ((Scientific.read? text).map fun x => Numeral.real x.value)

/-- The number that a text denotes. -/
def number (text : List Char) : Except Error Numeral := do
  match ← number? text with
  | some numeral => return numeral
  | none => throw (.literal ⟨.number, String.ofList text⟩)

end ResourceQuery.Literal
