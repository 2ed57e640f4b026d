import ResourceQuery.Json.Writer
import ResourceQuery.Literal.Basic
import ResourceQuery.Query.Argument
import ResourceQuery.Value.Shown

/-!
Writing values as literals. A text that would be read as something else without a tag gets the tag
`string`; dates, patterns and mappings always have a tag.
-/
namespace ResourceQuery.Literal
open ResourceQuery.Time (Moment)

/-- One character of a text. The escapes of `<` and `>` have a backslash in front, for otherwise
they would be read as comparators. -/
def escapeChar (c : Char) : List Char :=
  if c = '<' ∨ c = '>' then '\\' :: Text.Percent.escape c.toNat
  else Text.Percent.encode Text.Percent.isUnreserved [c]

/-- A text in which all but ASCII letters, digits and `_.-~` is escaped. -/
def escape (text : List Char) : List Char := text.flatMap escapeChar

/-- A literal with a tag. -/
def tagged (tag : String) (text : List Char) : String := tag ++ ":" ++ String.ofList (escape text)

/-- A text as a literal. -/
def printText (s : String) : Except Error String :=
  if s.isEmpty then .ok "string:"
  else do
    let escaped := escape s.toList
    match ← auto (Argument.unquote escaped) with
    | .text read => return if read = s then String.ofList escaped else tagged "string" s.toList
    | _ => return tagged "string" s.toList

/-- A date in UTC. To the millisecond it is written with three digits and without zeros in front of
the year, else with six digits. -/
def utcText (moment : Moment) : List Char :=
  if moment.microsecond % 1000 ≠ 0 then
    Time.Iso.dateText moment.date ++ 'T' :: Time.Iso.clockText moment ++
      Time.Iso.fractionText moment.microsecond ++ ['Z']
  else
    Number.digits moment.date.year ++ '-' :: Number.padded 2 moment.date.month ++
      '-' :: Number.padded 2 moment.date.day ++ 'T' :: Time.Iso.clockText moment ++
      '.' :: Number.padded 3 (moment.microsecond / 1000) ++ ['Z']

/-- A date as a literal. -/
def printMoment (moment : Moment) : Except Error String :=
  match moment.toUtc? with
  | some utc => .ok ("date:" ++ String.ofList (utcText utc))
  | none => .error .calendarRange

/-- The document of a mapping; dates and patterns have none. -/
def document (entries : List (String × Value)) : Except Error Json :=
  match (Value.mapping entries).toJson fun _ => .error .kind with
  | .ok json => .ok json
  | .error .kind => .error .noDocument
  | .error .digits => .error .wideInteger

/-- A value as a literal. Lists and nodes are no literals. -/
def print : Value → Except Error String
  | .null => .ok "null"
  | .bool b => .ok (if b then "true" else "false")
  | .int n => shownInt n
  | .real (.infinite negative) => .ok (if negative then "-Infinity" else "Infinity")
  | .real x => .ok (x.text Number.shortSpelling)
  | .text s => printText s
  | .moment m => printMoment m
  | .pattern p => .ok (tagged (if p.flags.ignoreCase then "re" else "RE") p.source.toList)
  | .mapping entries => do return tagged "json" ((← document entries).write .compact).toList
  | .list _ => .error (.unprintable "list")
  | .tuple _ => .error (.unprintable "tuple")
  | .node _ _ => .error (.unprintable "Query")

end ResourceQuery.Literal
