import ResourceQuery.Number.Decimal
import ResourceQuery.Time.Moment

/-!
Dates and times in the notation of ISO 8601. `Iso.read?` takes a date (`YYYY-MM-DD`, `YYYYMMDD`,
`YYYY-Www`, `YYYY-Www-D`, `YYYYWww` or `YYYYWwwD`), then any one character and a time with or
without colons, a fraction after `.` or `,` of which six digits count, and an offset that is
written like a time. The character NUL ends a time as the end of the text does. `Iso.text` writes a
moment in the extended form.
-/
namespace ResourceQuery.Time.Iso
open ResourceQuery.Number (ofDigits padded)

/-- The first `width` characters as a number if they are ASCII digits, and the rest. -/
def takeNumber? (width : Nat) (text : List Char) : Option (Nat × List Char) :=
  let head := text.take width
  if head.length = width ∧ head.all Char.isDigit then some (ofDigits head, text.drop width)
  else none

/-! ### Dates -/

/-- How many characters of a text its date takes. The week form with hyphens is taken without its
day when a digit follows where the character after the day would be; in the compact week form an
odd number of digits after the week starts with the day. -/
def dateLength? (text : List Char) : Option Nat :=
  let length := text.length
  if length = 7 then some 7
  else if text[4]? = some '-' then
    if text[5]? = some 'W' then
      if text[8]? = some '-' then
        if length = 9 then none
        else if (text[10]?.map Char.isDigit).getD false then some 8
        else some 10
      else some 8
    else some 10
  else if text[4]? = some 'W' then
    let finish := 7 + ((text.drop 7).takeWhile Char.isDigit).length
    if finish < 9 then some finish
    else if finish % 2 = 0 then some 7
    else some 8
  else some 8

/-- The week date after the `W`: a day only if the date is longer than the week form. -/
def weekDate? (year : Nat) (extended hasDay : Bool) (text : List Char) : Option Date := do
  let (week, rest) ← takeNumber? 2 text
  if hasDay then
    let rest ← if extended then (if rest.head? = some '-' then some rest.tail else none) else some rest
    let (day, _) ← takeNumber? 1 rest
    Date.ofWeek? year week day
  else Date.ofWeek? year week 1

/-- The date at the start of a text, of which it takes `length` characters. -/
def date? (length : Nat) (text : List Char) : Option Date := do
  let (year, rest) ← takeNumber? 4 text
  let extended := rest.head? = some '-'
  let rest := if extended then rest.tail else rest
  match rest with
  | 'W' :: rest => weekDate? year extended ((if extended then 8 else 7) < length) rest
  | _ =>
    let (month, rest) ← takeNumber? 2 rest
    let rest ← if extended then (if rest.head? = some '-' then some rest.tail else none) else some rest
    let (day, _) ← takeNumber? 2 rest
    some ⟨year, month, day⟩

/-! ### Times -/

/-- Hour, minute, second and microsecond, and whether something is left over after them. -/
structure Clock where
  hour : Nat := 0
  minute : Nat := 0
  second : Nat := 0
  microsecond : Nat := 0
  leftOver : Bool := false

/-- The character that ends a time before the text does. -/
def nul : Char := Char.ofNat 0

/-- Whether a text goes on where a time could end; at its end that is what `followed` says. What
comes after a NUL does not count. -/
def goesOn (followed : Bool) : List Char → Bool
  | [] => followed
  | c :: _ => c ≠ nul

/-- The fraction of a second: up to six digits, none of the first six characters being anything
else, and then digits that do not count. -/
def fraction? (followed : Bool) (clock : Clock) (text : List Char) : Option Clock :=
  let counted := min 6 text.length
  match takeNumber? counted text with
  | none => none
  | some (value, rest) =>
    some { clock with
      microsecond := value * Nat.pow 10 (6 - counted)
      leftOver := goesOn followed (rest.dropWhile Char.isDigit) }

/-- What follows a field of a time. -/
inductive AfterField
  | stop (leftOver : Bool)
  | field (rest : List Char)
  | fraction (rest : List Char)
  | bad

/-- How a time goes on after a field, where fields are divided by colons or not at all. One last
ASCII character is left over whatever it is, unless it is a NUL. -/
def afterField (followed colons : Bool) : List Char → AfterField
  | [] => .stop followed
  | c :: rest =>
    if rest.isEmpty && c.toNat < 0x80 then .stop (c ≠ nul)
    else if colons && c = ':' then .field rest
    else if c = '.' || c = ',' then .fraction rest
    else if colons then .bad
    else .field (c :: rest)

/-- A time without its offset. `followed` says whether an offset follows. -/
def clock? (followed : Bool) (text : List Char) : Option Clock := do
  let (hour, rest) ← takeNumber? 2 text
  let colons := rest.head? = some ':'
  let clock : Clock := { hour }
  match afterField followed colons rest with
  | .bad => none
  | .stop leftOver => some { clock with leftOver }
  | .fraction rest => fraction? followed clock rest
  | .field rest =>
    let (minute, rest) ← takeNumber? 2 rest
    let clock := { clock with minute }
    match afterField followed colons rest with
    | .bad => none
    | .stop leftOver => some { clock with leftOver }
    | .fraction rest => fraction? followed clock rest
    | .field rest =>
      let (second, rest) ← takeNumber? 2 rest
      let clock := { clock with second }
      match afterField followed colons rest with
      | .bad => none
      | .stop leftOver => some { clock with leftOver }
      | .fraction rest => fraction? followed clock rest
      | .field rest => fraction? followed clock rest

/-- Whether a character starts an offset. -/
def startsOffset (c : Char) : Bool := c = '+' || c = '-' || c = 'Z'

/-- The offset in microseconds that a text denotes. One without whole seconds is none at all. -/
def offset? : List Char → Option Int
  | 'Z' :: rest => if goesOn false rest then none else some 0
  | sign :: rest =>
    match clock? false rest with
    | none => none
    | some clock =>
      let seconds := clock.hour * 3600 + clock.minute * 60 + clock.second
      if clock.leftOver then none
      else if seconds = 0 then some 0
      else
        let size : Int := seconds * perSecond + clock.microsecond
        some (if sign = '-' then -size else size)
  | [] => none

/-- A time and its offset, if it has one. What is left over after the time is skipped only before
an offset. -/
def time? (text : List Char) : Option (Clock × Option Int) :=
  let own := text.takeWhile (!startsOffset ·)
  let rest := text.dropWhile (!startsOffset ·)
  match clock? (!rest.isEmpty) own with
  | none => none
  | some clock =>
    if rest.isEmpty then
      if clock.leftOver then none else some (clock, none)
    else (offset? rest).map fun offset => (clock, some offset)

/-- The moment that a text denotes. -/
def read? (text : List Char) : Option Moment := do
  if text.length < 7 then none
  let length ← dateLength? text
  let date ← date? length text
  if text.length ≤ length then
    Moment.checked? ⟨date, 0, 0, 0, 0, none⟩
  else
    let (clock, offset) ← time? (text.drop (length + 1))
    Moment.checked? ⟨date, clock.hour, clock.minute, clock.second, clock.microsecond, offset⟩

/-! ### Writing -/

/-- A date as `YYYY-MM-DD`. -/
def dateText (date : Date) : List Char :=
  padded 4 date.year ++ '-' :: padded 2 date.month ++ '-' :: padded 2 date.day

/-- A time of day as `HH:MM:SS`. -/
def clockText (moment : Moment) : List Char :=
  padded 2 moment.hour ++ ':' :: padded 2 moment.minute ++ ':' :: padded 2 moment.second

/-- Microseconds as a fraction of six digits, left out when they are zero. -/
def fractionText (microsecond : Nat) : List Char :=
  if microsecond = 0 then [] else '.' :: padded 6 microsecond

/-- An offset as `+HH:MM`, with seconds and their fraction where they are not zero. -/
def offsetText (offset : Int) : List Char :=
  let size := offset.natAbs
  let seconds := size / perSecond
  let micros := size % perSecond
  let tail :=
    if seconds % 60 = 0 ∧ micros = 0 then []
    else ':' :: padded 2 (seconds % 60) ++ fractionText micros
  (if offset < 0 then '-' else '+') ::
    padded 2 (seconds / 3600) ++ ':' :: padded 2 (seconds / 60 % 60) ++ tail

/-- A moment in the extended form, with a separator between date and time. -/
def textWith (separator : Char) (moment : Moment) : String :=
  String.ofList (dateText moment.date ++ separator :: clockText moment ++
    fractionText moment.microsecond ++ (moment.offset.map offsetText).getD [])

/-- A moment in the extended form. -/
def text (moment : Moment) : String := textWith 'T' moment

end ResourceQuery.Time.Iso
