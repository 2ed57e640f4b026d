import ResourceQuery.Number.Binary64
import ResourceQuery.Number.Decimal

/-!
Floating point numbers in decimal. `shortest` finds the fewest digits that read back as the same
number, and of these the nearest to it: the numbers that read as `m * 2 ^ q` fill an interval
around it, whose ends belong to it when `m` is even, and for 1, 2, … digits its two neighbours on
the decimal grid are tried. `Binary64.text` lays the digits out.
-/
namespace ResourceQuery.Number

/-- A positive number as a fraction. -/
structure Fraction where
  numerator : Nat
  denominator : Nat

/-- The exponent of the first decimal digit of a positive fraction: the `e` with
`10 ^ e ≤ x < 10 ^ (e + 1)`. -/
def Fraction.magnitude (x : Fraction) : Int :=
  if x.denominator ≤ x.numerator then ((digits (x.numerator / x.denominator)).length : Int) - 1
  else
    -((digits ((x.denominator + x.numerator - 1) / x.numerator - 1)).length : Int)

/-- `mantissa * 2 ^ exponent` as a fraction. -/
def binaryFraction (mantissa : Nat) (exponent : Int) : Fraction :=
  let (below, above) := Binary64.scale exponent
  ⟨mantissa * below, above⟩

/-- The neighbour on the grid of step `10 ^ step` that reads back as `mantissa * 2 ^ exponent`, as
a multiple of the step: the nearer one if both do, and the even one of two equally near. -/
def gridPoint? (mantissa : Nat) (exponent : Int) (step : Int) : Option Nat :=
  let (below, above) := Binary64.scale (exponent - 2)
  let tenBelow := if 0 ≤ step then Nat.pow 10 step.toNat else 1
  let tenAbove := if 0 ≤ step then 1 else Nat.pow 10 (-step).toNat
  let unit := below * tenAbove
  let grid := above * tenBelow
  let value := 4 * mantissa * unit
  let gap := if mantissa = Nat.pow 2 52 ∧ Binary64.minExponent < exponent then 1 else 2
  let low := (4 * mantissa - gap) * unit
  let high := (4 * mantissa + 2) * unit
  let inside (point : Nat) : Bool :=
    if mantissa % 2 = 0 then low ≤ point && point ≤ high else low < point && point < high
  let floor := value / grid
  let remainder := value % grid
  if inside (floor * grid) && floor ≠ 0 then
    if inside ((floor + 1) * grid) &&
        (grid < 2 * remainder || (grid == 2 * remainder && floor % 2 == 1)) then some (floor + 1)
    else some floor
  else if inside ((floor + 1) * grid) then some (floor + 1)
  else none

/-- The first of the digit counts from `count` on, of which `left` remain to be tried, that reads
back. -/
def shortestFrom (mantissa : Nat) (exponent magnitude : Int) : (left : Nat) → (count : Nat) → Nat × Int
  | 0, _ => (mantissa, 0)
  | left + 1, count =>
    let step := magnitude + 1 - count
    match gridPoint? mantissa exponent step with
    | some point => (point, step)
    | none => shortestFrom mantissa exponent magnitude left (count + 1)

/-- A coefficient and a power of ten that read back as `mantissa * 2 ^ exponent`, with the fewest
digits. -/
def shortest (mantissa : Nat) (exponent : Int) : Nat × Int :=
  shortestFrom mantissa exponent (binaryFraction mantissa exponent).magnitude 17 1

/-- A coefficient without its last zeros, and how many they were; at most `fuel` of them. -/
def dropZeros : (fuel : Nat) → Nat → Nat × Nat
  | 0, n => (n, 0)
  | fuel + 1, n =>
    if n % 10 = 0 ∧ n ≠ 0 then
      let (rest, count) := dropZeros fuel (n / 10)
      (rest, count + 1)
    else (n, 0)

/-- How a decimal is laid out: the least and the greatest exponent of the first digit that is
written with a point and no exponent, and the least number of exponent digits. -/
structure Layout where
  leastPlain : Int
  greatestPlain : Int
  exponentDigits : Nat

/-- Numbers from `0.0001` up to below `10 ^ 16` are written without an exponent, and an exponent
has a sign and at least two digits. -/
def layout : Layout := ⟨-4, 15, 2⟩

/-- The layout of digits whose first one stands for `10 ^ magnitude`. -/
def Layout.text (layout : Layout) (digits : List Char) (magnitude : Int) : List Char :=
  if layout.leastPlain ≤ magnitude ∧ magnitude ≤ layout.greatestPlain then
    if magnitude < 0 then
      '0' :: '.' :: List.replicate (-magnitude - 1).toNat '0' ++ digits
    else
      let whole := magnitude.toNat + 1
      let integer := digits.take whole ++ List.replicate (whole - digits.length) '0'
      let fraction := digits.drop whole
      integer ++ '.' :: (if fraction.isEmpty then ['0'] else fraction)
  else
    let point := if digits.length ≤ 1 then digits else digits.take 1 ++ '.' :: digits.drop 1
    point ++ 'e' :: (if magnitude < 0 then '-' else '+') ::
      padded layout.exponentDigits magnitude.natAbs

/-- How numbers without digits are spelled. -/
structure Spelling where
  nan : String
  infinity : String
  negativeInfinity : String

/-- A floating point number in decimal. -/
def Binary64.text (spelling : Spelling) : Binary64 → String
  | .nan _ => spelling.nan
  | .infinite negative => if negative then spelling.negativeInfinity else spelling.infinity
  | .finite negative mantissa exponent =>
    let body :=
      if mantissa = 0 then ['0', '.', '0']
      else
        let (point, step) := shortest mantissa exponent
        let (coefficient, zeros) := dropZeros 17 point
        let coefficientDigits := digits coefficient
        layout.text coefficientDigits (step + zeros + coefficientDigits.length - 1)
    String.ofList (if negative then '-' :: body else body)

/-- The short spelling: `inf`, `-inf`, `nan`. -/
def shortSpelling : Spelling := ⟨"nan", "inf", "-inf"⟩

/-- The long spelling: `Infinity`, `-Infinity`, `NaN`. -/
def longSpelling : Spelling := ⟨"NaN", "Infinity", "-Infinity"⟩

end ResourceQuery.Number
