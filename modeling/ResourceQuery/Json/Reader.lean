import ResourceQuery.Json.Basic
import ResourceQuery.Number.Scientific
import ResourceQuery.Text.Position

/-!
Reading JSON. Beyond the standard, `NaN`, `Infinity` and `-Infinity` are numbers, and of members
with one key the last counts. `Json.read` gives the value of a whole text, or the first fault and
where it is.
-/
namespace ResourceQuery.Json
open ResourceQuery.Number (Binary64 Scientific)

/-- A fault, with the number of characters from it to the end of the text in place of its
position. -/
def failAt {α : Type} (cause : Cause) (left : Nat) : Except Fault α :=
  .error (.malformed cause left)

/-- White space between the parts of a value. -/
def isSpace (c : Char) : Bool := c = ' ' || c = '\t' || c = '\n' || c = '\r'

/-- The text without the white space at its start. -/
def skipSpace (input : List Char) : List Char := input.dropWhile isSpace

/-! ### Texts -/

/-- The number that four hexadecimal digits denote. -/
def fourHex? (a b c d : Char) : Option Nat := do
  let a ← Text.hexValue? a
  let b ← Text.hexValue? b
  let c ← Text.hexValue? c
  let d ← Text.hexValue? d
  return ((a * 16 + b) * 16 + c) * 16 + d

/-- The characters of code units: a pair of surrogates is one character. Half of a pair is no
character, and the replacement character stands in its place. -/
def joinUnits : List Nat → List Char
  | [] => []
  | [unit] => [unitChar unit]
  | high :: low :: rest =>
    if isHigh high && isLow low then
      Char.ofNat (0x10000 + (high - 0xD800) * 0x400 + (low - 0xDC00)) :: joinUnits rest
    else unitChar high :: joinUnits (low :: rest)
where
  /-- Whether a unit is the first of a pair. -/
  isHigh (unit : Nat) : Bool := 0xD800 ≤ unit && unit < 0xDC00
  /-- Whether a unit is the second of a pair. -/
  isLow (unit : Nat) : Bool := 0xDC00 ≤ unit && unit < 0xE000
  /-- The character of a unit that stands alone. -/
  unitChar (unit : Nat) : Char := if isHigh unit || isLow unit then '\uFFFD' else Char.ofNat unit

/-- The code of an escape letter. -/
def escapeCode? : Char → Option Nat
  | '"' => some 34
  | '\\' => some 92
  | '/' => some 47
  | 'b' => some 8
  | 'f' => some 12
  | 'n' => some 10
  | 'r' => some 13
  | 't' => some 9
  | _ => none

/-- A unit before those that follow. -/
def consUnit (unit : Nat) (rest : Except Fault (List Nat × List Char)) :
    Except Fault (List Nat × List Char) :=
  rest.map fun (units, left) => (unit :: units, left)

/-- The units of a text after its opening quote, from which `start` characters are left. -/
def textUnits (start : Nat) : List Char → Except Fault (List Nat × List Char)
  | [] => failAt .unterminatedText start
  | '"' :: rest => .ok ([], rest)
  | ['\\'] => failAt .unterminatedText start
  | '\\' :: 'u' :: a :: b :: c :: d :: rest =>
    match fourHex? a b c d with
    | none => failAt .badUnicodeEscape (rest.length + 5)
    | some unit =>
      if rest.isEmpty then failAt .badUnicodeEscape (rest.length + 5)
      else consUnit unit (textUnits start rest)
  | '\\' :: 'u' :: rest => failAt .badUnicodeEscape (rest.length + 1)
  | '\\' :: c :: rest =>
    match escapeCode? c with
    | some code => consUnit code (textUnits start rest)
    | none => failAt .badEscape (rest.length + 2)
  | c :: rest =>
    if c.toNat < 0x20 then failAt .controlCharacter (rest.length + 1)
    else consUnit c.toNat (textUnits start rest)

/-- A text after its opening quote, from which `start` characters are left. -/
def textBody (start : Nat) (input : List Char) : Except Fault (String × List Char) := do
  let (units, rest) ← textUnits start input
  return (String.ofList (joinUnits units), rest)

/-! ### Numbers -/

/-- The exponent of a number, if one stands there whole, and the text after it. -/
def exponentPart? : List Char → Option (Int × List Char)
  | mark :: rest =>
    if mark = 'e' ∨ mark = 'E' then
      let (negative, body) := Number.takeSign rest
      let digits := body.takeWhile Char.isDigit
      if digits = [] then none
      else some (Number.signed negative (Number.ofDigits digits), body.dropWhile Char.isDigit)
    else none
  | [] => none

/-- The digits after a point, if there are any, and the text after them. -/
def fractionPart? : List Char → Option (List Char × List Char)
  | '.' :: rest =>
    let digits := rest.takeWhile Char.isDigit
    if digits = [] then none else some (digits, rest.dropWhile Char.isDigit)
  | _ => none

/-- The digits before the point: a zero alone, or digits that do not start with one. -/
def wholePart? : List Char → Option (List Char × List Char)
  | '0' :: rest => some (['0'], rest)
  | input =>
    let digits := input.takeWhile Char.isDigit
    if digits = [] then none else some (digits, input.dropWhile Char.isDigit)

/-- A number at the start of a text; without a fraction and an exponent it is an integer. -/
def number (input : List Char) : Except Fault (Json × List Char) :=
  let (negative, body) := match input with
    | '-' :: rest => (true, rest)
    | rest => (false, rest)
  match wholePart? body with
  | none => failAt .value input.length
  | some (whole, rest) =>
    let (fraction, rest, hasFraction) := match fractionPart? rest with
      | some (digits, rest) => (digits, rest, true)
      | none => ([], rest, false)
    let (exponent, rest, hasExponent) := match exponentPart? rest with
      | some (exponent, rest) => (exponent, rest, true)
      | none => (0, rest, false)
    if hasFraction || hasExponent then
      .ok (.real (Scientific.value ⟨negative, whole, fraction, exponent⟩), rest)
    else if Number.maxDigits < whole.length then .error (.digitLimit whole.length)
    else .ok (.int (Number.signed negative (Number.ofDigits whole)), rest)

/-- A word of its own or a number. -/
def scalar : List Char → Except Fault (Json × List Char)
  | 'n' :: 'u' :: 'l' :: 'l' :: rest => .ok (.null, rest)
  | 't' :: 'r' :: 'u' :: 'e' :: rest => .ok (.bool true, rest)
  | 'f' :: 'a' :: 'l' :: 's' :: 'e' :: rest => .ok (.bool false, rest)
  | 'N' :: 'a' :: 'N' :: rest => .ok (.real (.nan 0), rest)
  | 'I' :: 'n' :: 'f' :: 'i' :: 'n' :: 'i' :: 't' :: 'y' :: rest =>
    .ok (.real (.infinite false), rest)
  | '-' :: 'I' :: 'n' :: 'f' :: 'i' :: 'n' :: 'i' :: 't' :: 'y' :: rest =>
    .ok (.real (.infinite true), rest)
  | input => number input

/-! ### Values -/

mutual

/-- The value at the start of a text. -/
def value : (fuel : Nat) → List Char → Except Fault (Json × List Char)
  | 0, input => failAt .value input.length
  | fuel + 1, input =>
    match input with
    | '"' :: rest => do
      let (s, rest) ← textBody input.length rest
      return (.text s, rest)
    | '[' :: rest =>
      match skipSpace rest with
      | ']' :: rest => .ok (.array [], rest)
      | rest => do
        let (items, rest) ← elements fuel rest
        return (.array items, rest)
    | '\x7b' :: rest =>
      match skipSpace rest with
      | '\x7d' :: rest => .ok (.object [], rest)
      | rest => do
        let (pairs, rest) ← members fuel rest
        return (.object (Entries.ofPairs pairs), rest)
    | input => scalar input

/-- The elements of an array up to its closing bracket. -/
def elements : (fuel : Nat) → List Char → Except Fault (List Json × List Char)
  | 0, input => failAt .value input.length
  | fuel + 1, input => do
    let (item, rest) ← value fuel input
    match skipSpace rest with
    | ']' :: rest => return ([item], rest)
    | ',' :: rest =>
      let (items, rest) ← elements fuel (skipSpace rest)
      return (item :: items, rest)
    | rest => failAt .comma rest.length

/-- The members of an object up to its closing brace. -/
def members : (fuel : Nat) → List Char → Except Fault (List (String × Json) × List Char)
  | 0, input => failAt .value input.length
  | fuel + 1, input =>
    match input with
    | '"' :: rest => do
      let (key, rest) ← textBody input.length rest
      match skipSpace rest with
      | ':' :: rest =>
        let (item, rest) ← value fuel (skipSpace rest)
        match skipSpace rest with
        | '\x7d' :: rest => return ([(key, item)], rest)
        | ',' :: rest =>
          let (pairs, rest) ← members fuel (skipSpace rest)
          return ((key, item) :: pairs, rest)
        | rest => failAt .comma rest.length
      | rest => failAt .colon rest.length
    | input => failAt .propertyName input.length

end

/-- A text that is one value with white space around it. -/
def document (input : List Char) : Except Fault Json :=
  if input.head? = some '\uFEFF' then failAt .byteOrderMark input.length
  else do
    let (result, rest) ← value (2 * input.length + 2) (skipSpace input)
    match skipSpace rest with
    | [] => return result
    | rest => failAt .extraData rest.length

/-- The value of a text. -/
def read (source : String) : Except Fault Json :=
  match document source.toList with
  | .ok result => .ok result
  | .error (.malformed cause left) => .error (.malformed cause (source.length - left))
  | .error (.digitLimit count) => .error (.digitLimit count)

/-- The wording of a cause with the place where it was found. -/
def malformedMessage (source : String) (cause : Cause) (position : Nat) : String :=
  let (line, column) := Text.lineColumn source.toList position
  cause.message ++ ": line " ++ Nat.repr line ++ " column " ++ Nat.repr column ++
    " (char " ++ Nat.repr position ++ ")"

end ResourceQuery.Json
