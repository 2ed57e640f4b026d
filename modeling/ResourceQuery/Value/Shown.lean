import ResourceQuery.Error
import ResourceQuery.Time.Iso
import ResourceQuery.Value

/-!
Values as listings show them: texts in quotes, dates and patterns as the expressions that make
them, containers with their items.
-/
namespace ResourceQuery
open ResourceQuery.Time (Moment)

/-- An integer in decimal digits, unless they are too many. -/
def shownInt (n : Int) : Except Error String :=
  if Number.isWritable n then .ok (String.ofList (Number.integerText n)) else .error .wideInteger

/-- The named parts of a duration, in microseconds, that are not zero: days, and what is left of
them in seconds and microseconds. -/
def durationParts (duration : Int) : List (String × Int) :=
  let seconds := duration.fdiv Time.perSecond
  [("days", seconds.fdiv 86400), ("seconds", seconds.fmod 86400),
    ("microseconds", duration.fmod Time.perSecond)].filter fun part => part.2 ≠ 0

/-- A duration as the expression that makes it. -/
def shownDuration (duration : Int) : String :=
  let parts := (durationParts duration).map fun (name, n) =>
    name ++ "=" ++ String.ofList (Number.integerText n)
  "datetime.timedelta(" ++ Text.joined ", " parts ++ ")"

/-- A time zone as the expression that makes it. -/
def shownZone (offset : Int) : String :=
  if offset = 0 then "datetime.timezone.utc"
  else "datetime.timezone(" ++ shownDuration offset ++ ")"

/-- A date as the expression that makes it; seconds and microseconds are left out where all that
follows is zero. -/
def shownMoment (moment : Moment) : String :=
  let clock := [moment.hour, moment.minute] ++
    (if moment.second = 0 ∧ moment.microsecond = 0 then [] else [moment.second]) ++
    (if moment.microsecond = 0 then [] else [moment.microsecond])
  let fields := ([moment.date.year, moment.date.month, moment.date.day] ++ clock).map Nat.repr
  let zone := (moment.offset.map fun offset => "tzinfo=" ++ shownZone offset).toList
  "datetime.datetime(" ++ Text.joined ", " (fields ++ zone) ++ ")"

/-- The names of the flags of a pattern. -/
def flagNames (flags : Pattern.Flags) : List String :=
  [(flags.template, "re.TEMPLATE"), (flags.ignoreCase, "re.IGNORECASE"),
    (flags.multiline, "re.MULTILINE"), (flags.dotAll, "re.DOTALL"), (flags.verbose, "re.VERBOSE"),
    (flags.ascii, "re.ASCII")].filterMap fun (set, name) => if set then some name else none

/-- The most characters of a pattern that are shown, its quotes included. -/
def shownPatternLength : Nat := 200

/-- A pattern as the expression that makes it. -/
def shownPattern (pattern : Pattern) : String :=
  let source := String.ofList ((Text.quoted pattern.source).toList.take shownPatternLength)
  let names := flagNames pattern.flags
  let flags := if names.isEmpty then [] else [Text.joined "|" names]
  "re.compile(" ++ Text.joined ", " (source :: flags) ++ ")"

namespace Value

mutual

/-- A value as a listing shows it. -/
def shown : Value → Except Error String
  | .null => .ok "None"
  | .bool b => .ok (if b then "True" else "False")
  | .int n => shownInt n
  | .real x => .ok (x.text Number.shortSpelling)
  | .text s => .ok (Text.quoted s)
  | .moment m => .ok (shownMoment m)
  | .pattern p => .ok (shownPattern p)
  | .list items => do return "[" ++ Text.joined ", " (← shownItems items) ++ "]"
  | .tuple items => do
    let parts ← shownItems items
    return "(" ++ Text.joined ", " parts ++ (if parts.length = 1 then ",)" else ")")
  | .mapping entries => do return "\x7b" ++ Text.joined ", " (← shownEntries entries) ++ "\x7d"
  | .node name args => do
    let name ← shown name
    let parts ← shownItems args
    return "Query(name=" ++ name ++ ", args=[" ++ Text.joined ", " parts ++ "])"
termination_by structural value => value

def shownItems : List Value → Except Error (List String)
  | [] => .ok []
  | item :: rest => do
    let head ← shown item
    let tail ← shownItems rest
    return head :: tail
termination_by structural items => items

def shownEntries : List (String × Value) → Except Error (List String)
  | [] => .ok []
  | (key, value) :: rest => do
    let head ← shown value
    let tail ← shownEntries rest
    return (Text.quoted key ++ ": " ++ head) :: tail
termination_by structural entries => entries

end

end Value
end ResourceQuery
