import ResourceQuery.Time.Calendar

/-!
Points in time: a date, a time of day to the microsecond and, unless it is left open, the offset
from UTC. `Moment.instant` counts the microseconds from 0001-01-01T00:00:00 UTC, and
`Moment.ofMicroseconds?` goes back from a count.
-/
namespace ResourceQuery.Time

/-- Microseconds in a second. -/
def perSecond : Nat := 1000000

/-- Microseconds in a day. -/
def perDay : Nat := 86400 * perSecond

/-- A point in time. `offset` is how far its clock is ahead of UTC, in microseconds; without an
offset the time zone is left open. -/
structure Moment where
  date : Date
  hour : Nat
  minute : Nat
  second : Nat
  microsecond : Nat
  offset : Option Int
  deriving DecidableEq, Inhabited, Repr

namespace Moment

/-- Whether the fields are in range and the offset is less than a day. -/
def isValid (moment : Moment) : Bool :=
  moment.date.isValid && moment.hour < 24 && moment.minute < 60 && moment.second < 60 &&
    moment.microsecond < perSecond &&
    match moment.offset with
    | none => true
    | some offset => offset.natAbs < perDay

/-- The moment itself if it is valid. -/
def checked? (moment : Moment) : Option Moment := if moment.isValid then some moment else none

/-- Microseconds on the moment's own clock since the start of 0001-01-01. -/
def ownClock (moment : Moment) : Nat :=
  (moment.date.dayNumber * 86400 + moment.hour * 3600 + moment.minute * 60 + moment.second) *
    perSecond + moment.microsecond

/-- Microseconds since the start of 0001-01-01 in UTC; an open time zone counts as UTC. -/
def instant (moment : Moment) : Int := (moment.ownClock : Int) - moment.offset.getD 0

/-- The moment of a number of microseconds on its own clock, if its year is in the calendar. -/
def ofMicroseconds? (count : Int) (offset : Option Int) : Option Moment :=
  if count < 0 then none
  else
    let count := count.toNat
    let seconds := count / perSecond
    let clock := seconds % 86400
    let moment : Moment :=
      ⟨Date.ofDayNumber (seconds / 86400), clock / 3600, clock / 60 % 60, clock % 60,
        count % perSecond, offset⟩
    if moment.date.year ≤ maxYear then some moment else none

/-- The moment on the clock of UTC, if its year stays in the calendar. -/
def toUtc? (moment : Moment) : Option Moment := ofMicroseconds? moment.instant (some 0)

/-- The moment with an open time zone taken as UTC. -/
def orUtc (moment : Moment) : Moment := { moment with offset := some (moment.offset.getD 0) }

/-- 1970-01-01T00:00:00 UTC. -/
def epoch : Moment := ⟨⟨1970, 1, 1⟩, 0, 0, 0, 0, some 0⟩

/-- Whether two moments are the same point in time; an open time zone agrees only with an open
one. -/
def equals (a b : Moment) : Bool :=
  match a.offset, b.offset with
  | none, none => a == b
  | some _, some _ => a.instant == b.instant
  | _, _ => false

end Moment
end ResourceQuery.Time
