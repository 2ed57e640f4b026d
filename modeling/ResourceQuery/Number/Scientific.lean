import ResourceQuery.Number.Binary64
import ResourceQuery.Number.Decimal

/-!
Decimal fractions with an exponent. `Scientific.read?` takes a whole text apart into its sign,
its digits before and after the point and its exponent; `Scientific.value` is the nearest floating
point number.
-/
namespace ResourceQuery.Number

/-- A decimal fraction: the digits before the point, those after it, and a power of ten. -/
structure Scientific where
  negative : Bool
  whole : List Char
  fraction : List Char
  exponent : Int

namespace Scientific

/-- The floating point number nearest to the fraction. -/
def value (x : Scientific) : Binary64 :=
  Binary64.ofScientific x.negative (ofDigits (x.whole ++ x.fraction))
    (x.exponent - x.fraction.length)

/-- An exponent: nothing, or `e` or `E` and an integer with a sign or without. -/
def exponent? : List Char → Option Int
  | [] => some 0
  | mark :: rest =>
    let (negative, digits) := takeSign rest
    if (mark = 'e' ∨ mark = 'E') ∧ digits ≠ [] ∧ digits.all Text.isDigit then
      some (signed negative (ofDigits digits))
    else none

/-- A fraction of any script's digits: a sign, digits with a point in, after or before them, and
an exponent. -/
def read? (text : List Char) : Option Scientific :=
  let (negative, body) := takeSign text
  let whole := body.takeWhile Text.isDigit
  let rest := body.dropWhile Text.isDigit
  match rest with
  | '.' :: rest =>
    let fraction := rest.takeWhile Text.isDigit
    if whole = [] ∧ fraction = [] then none
    else
      (exponent? (rest.dropWhile Text.isDigit)).map fun exponent =>
        ⟨negative, whole, fraction, exponent⟩
  | rest =>
    if whole = [] then none
    else (exponent? rest).map fun exponent => ⟨negative, whole, [], exponent⟩

end Scientific
end ResourceQuery.Number
