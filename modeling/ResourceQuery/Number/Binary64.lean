/-!
Floating point numbers of 64 bits as exact numbers: a finite one is `mantissa * 2 ^ exponent` with
a sign. `Binary64.ofRatio` rounds a fraction to the nearest of them, and a tie to the even
mantissa.
-/
namespace ResourceQuery.Number

/-- A floating point number. A finite one is canonical when its mantissa has 53 bits, or fewer
with the least exponent. NaNs are told apart by a label: a NaN is the same as itself and as no
other. -/
inductive Binary64
  | nan (label : Nat)
  | infinite (negative : Bool)
  | finite (negative : Bool) (mantissa : Nat) (exponent : Int)
  deriving DecidableEq, Inhabited

namespace Binary64

/-- The least exponent. -/
def minExponent : Int := -1074

/-- The greatest exponent of a finite number. -/
def maxExponent : Int := 971

/-- Zero with a sign. -/
def zero (negative : Bool) : Binary64 := .finite negative 0 minExponent

/-- `numerator / denominator` to the nearest integer, a tie to the even one. -/
def roundQuotient (numerator denominator : Nat) : Nat :=
  let quotient := numerator / denominator
  let twice := 2 * (numerator % denominator)
  if twice < denominator then quotient
  else if denominator < twice then quotient + 1
  else quotient + quotient % 2

/-- `2 ^ exponent` as a factor: of the numerator for a positive exponent, else of the
denominator. -/
def scale (exponent : Int) : Nat × Nat :=
  if 0 ≤ exponent then (Nat.pow 2 exponent.toNat, 1) else (1, Nat.pow 2 (-exponent).toNat)

/-- The number nearest to `numerator / denominator`, with a sign. -/
def ofRatio (negative : Bool) (numerator denominator : Nat) : Binary64 :=
  if numerator = 0 then zero negative
  else
    let least : Int := (numerator.log2 : Int) - denominator.log2 - 53
    let (below, above) := scale least
    let exponent :=
      if Nat.pow 2 53 * below * denominator ≤ numerator * above then least + 1 else least
    let exponent := max exponent minExponent
    let (below, above) := scale exponent
    let mantissa := roundQuotient (numerator * above) (denominator * below)
    let (mantissa, exponent) :=
      if mantissa = Nat.pow 2 53 then (Nat.pow 2 52, exponent + 1) else (mantissa, exponent)
    if maxExponent < exponent then .infinite negative else .finite negative mantissa exponent

/-- The number nearest to `coefficient * 10 ^ exponent`, with a sign. Powers of ten that lead out
of the range whatever the digits are decided without computing them. -/
def ofScientific (negative : Bool) (coefficient : Nat) (exponent : Int) : Binary64 :=
  let length : Int := (Nat.toDigits 10 coefficient).length
  if coefficient = 0 then zero negative
  else if 310 < length + exponent then .infinite negative
  else if length + exponent < -330 then zero negative
  else if 0 ≤ exponent then ofRatio negative (coefficient * Nat.pow 10 exponent.toNat) 1
  else ofRatio negative coefficient (Nat.pow 10 (-exponent).toNat)

/-- Whether two numbers have the same value; a NaN has none. -/
def equals : Binary64 → Binary64 → Bool
  | .infinite a, .infinite b => a == b
  | .finite a m e, .finite b n f => if m = 0 ∧ n = 0 then true else a == b && m == n && e == f
  | _, _ => false

/-- Whether a number has the value of an integer. -/
def equalsInt : Binary64 → Int → Bool
  | .finite negative mantissa exponent, n =>
    let signed : Int := if negative then -(mantissa : Int) else mantissa
    let (below, above) := scale exponent
    signed * below == n * above
  | _, _ => false

end Binary64
end ResourceQuery.Number
