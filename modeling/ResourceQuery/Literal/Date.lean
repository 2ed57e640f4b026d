import ResourceQuery.Literal.Number
import ResourceQuery.Time.Iso

/-!
Dates as literals: in the notation of ISO 8601, as a count of milliseconds since 1970, and as the
start of a date whose missing parts are filled in. A date without an offset is in UTC.
-/
namespace ResourceQuery.Literal
open ResourceQuery.Number (Binary64)
open ResourceQuery.Time (Moment)

/-- The first `width` characters as a number if they are digits of any script, and the rest. -/
def takeDigits? (width : Nat) (text : List Char) : Option (Nat × List Char) :=
  let head := text.take width
  if head.length = width ∧ head.all Text.isDigit then
    some (Number.ofDigits head, text.drop width)
  else none

/-- The text after a character that has to come next. -/
def expect? (c : Char) : List Char → Option (List Char)
  | [] => none
  | first :: rest => if first = c then some rest else none

/-- The microseconds of a fraction of one to three digits, and what follows it. -/
def milliseconds? : List Char → Option (Nat × List Char)
  | '.' :: rest =>
    let digits := (rest.take 3).takeWhile Text.isDigit
    if digits.isEmpty then none
    else
      some (Number.ofDigits digits * Nat.pow 10 (3 - digits.length) * 1000,
        rest.drop digits.length)
  | rest => some (0, rest)

/-- The fields of `YYYY-MM-DDTHH:MM:SSZ`, with a fraction of one to three digits before the `Z` or
without one; digits of any script will do. The fields need not be in range. -/
def fullFields? (text : List Char) : Option Moment := do
  let (year, rest) ← takeDigits? 4 text
  let (month, rest) ← takeDigits? 2 (← expect? '-' rest)
  let (day, rest) ← takeDigits? 2 (← expect? '-' rest)
  let (hour, rest) ← takeDigits? 2 (← expect? 'T' rest)
  let (minute, rest) ← takeDigits? 2 (← expect? ':' rest)
  let (second, rest) ← takeDigits? 2 (← expect? ':' rest)
  let (microsecond, rest) ← milliseconds? rest
  if rest = ['Z'] then some ⟨⟨year, month, day⟩, hour, minute, second, microsecond, some 0⟩
  else none

/-- The text with `+00:00` for every `Z`. -/
def spellUtc (text : List Char) : List Char :=
  text.flatMap fun c => if c = 'Z' then "+00:00".toList else [c]

/-- The date of any other text. -/
def generalDate? (text : List Char) : Option Moment :=
  (Time.Iso.read? (spellUtc text)).map Moment.orUtc

/-- The date that a text denotes. -/
def date? (text : List Char) : Option Moment :=
  match fullFields? text with
  | some moment => moment.checked?
  | none => generalDate? text

/-- The fault that a text is no date. -/
def badDate (text : List Char) : Error := .literal ⟨.date, String.ofList text⟩

/-- The date that a text denotes, or the fault that it is none. -/
def date (text : List Char) : Except Error Moment :=
  match date? text with
  | some moment => .ok moment
  | none => .error (badDate text)

/-- A count of milliseconds in microseconds. The whole milliseconds count exactly; the rest of a
floating point number is turned into microseconds as a floating point number, and then the sum is
rounded, a tie to the even number. -/
def Numeral.microseconds? : Numeral → Option Int
  | .int n => some (n * 1000)
  | .real (.finite negative mantissa exponent) =>
    let (below, above) := Binary64.scale exponent
    let whole := mantissa * below / above
    let rest := mantissa * below % above
    match Binary64.ofRatio false (1000 * rest) above with
    | .finite _ restMantissa restExponent =>
      let (below, above) := Binary64.scale restExponent
      some (Number.signed negative
        (Binary64.roundQuotient (whole * 1000 * above + restMantissa * below) above))
    | _ => none
  | .real _ => none

/-- The date so many microseconds after the start of 1970. -/
def sinceEpoch? (microseconds : Int) : Option Moment :=
  Moment.ofMicroseconds? (Moment.epoch.instant + microseconds) (some 0)

/-- The date of a count of milliseconds since the start of 1970. -/
def epoch (text : List Char) : Except Error Moment := do
  match (← number text).microseconds?.bind sinceEpoch? with
  | some moment => return moment
  | none => throw (badDate text)

/-- The date whose parts stand in for missing ones. -/
def partialTemplate : List Char := "0000-01-01T00:00:00Z".toList

/-- A partial date filled up: zeros in front of a short year, and the end of the template after
it. -/
def fillUp (text : List Char) : List Char :=
  let year := List.replicate (4 - text.length) '0' ++ text
  year ++ partialTemplate.drop year.length

/-- The date that a partial date denotes. -/
def partialDate (text : List Char) : Except Error Moment := date (fillUp text)

end ResourceQuery.Literal
