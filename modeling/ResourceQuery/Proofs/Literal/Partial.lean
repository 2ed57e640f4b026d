import ResourceQuery.Proofs.Literal.Stamp
import ResourceQuery.Proofs.Time.Moment

/-!
Partial dates: a year of up to four digits, or a year of four digits and the parts behind it as far as they are
written. Filled up, such a text is the date in full with January, the first day and midnight for what is missing
(`PartialDate.fillUp_text`), and it is read as that date if there is one (`partialDate_text`).
-/
namespace ResourceQuery.Literal
open ResourceQuery.Number (ofDigits)
open ResourceQuery.Time (Moment)

namespace Digits

/-- Digits with zeros in front. -/
def widen {width : Nat} (digits : Digits width) {wide : Nat} (few : width ≤ wide) : Digits wide where
  text := List.replicate (wide - width) '0' ++ digits.text
  length_eq := by
    rw [List.length_append, List.length_replicate, digits.length_eq]
    omega
  isDigit := List.forall_mem_append.mpr ⟨Number.zeros_isDigit _, digits.isDigit⟩

/-- Zeros in front do not change a number. -/
theorem value_widen {width : Nat} (digits : Digits width) {wide : Nat} (few : width ≤ wide) :
    (digits.widen few).value = digits.value := by
  rw [value, widen, Number.ofDigits_append (Number.zeros_isDigit _) digits.isDigit, Number.ofDigits_zeros]
  simp [value]

/-- The digits of the first month and of the first day. -/
def first : Digits 2 := ⟨['0', '1'], rfl, by decide⟩

/-- The digits of a time at its start. -/
def zero : Digits 2 := ⟨['0', '0'], rfl, by decide⟩

end Digits

/-- The parts of a date that are written: the year alone in up to four digits, or in four digits and the other parts up to
one of them. A `Z` can stand behind the second. -/
inductive PartialDate
  | toYear {width : Nat} (some : 0 < width) (few : width ≤ 4) (year : Digits width)
  | toMonth (year : Digits 4) (month : Digits 2)
  | toDay (year : Digits 4) (month day : Digits 2)
  | toHour (year : Digits 4) (month day hour : Digits 2)
  | toMinute (year : Digits 4) (month day hour minute : Digits 2)
  | toSecond (stamp : Stamp) (marked : Bool)

namespace PartialDate

/-- The parts as they are written. -/
def text : PartialDate → List Char
  | toYear _ _ year => year.text
  | toMonth year month => year.text ++ '-' :: month.text
  | toDay year month day => year.text ++ '-' :: month.text ++ '-' :: day.text
  | toHour year month day hour => year.text ++ '-' :: month.text ++ '-' :: day.text ++ 'T' :: hour.text
  | toMinute year month day hour minute =>
    year.text ++ '-' :: month.text ++ '-' :: day.text ++ 'T' :: hour.text ++ ':' :: minute.text
  | toSecond stamp marked => stamp.text (if marked then ['Z'] else [])

/-- The fields that are written, with 1 for a month and a day that are missing and 0 for a time. -/
def moment : PartialDate → Moment
  | toYear _ _ year => ⟨⟨year.value, 1, 1⟩, 0, 0, 0, 0, some 0⟩
  | toMonth year month => ⟨⟨year.value, month.value, 1⟩, 0, 0, 0, 0, some 0⟩
  | toDay year month day => ⟨⟨year.value, month.value, day.value⟩, 0, 0, 0, 0, some 0⟩
  | toHour year month day hour => ⟨⟨year.value, month.value, day.value⟩, hour.value, 0, 0, 0, some 0⟩
  | toMinute year month day hour minute => ⟨⟨year.value, month.value, day.value⟩, hour.value, minute.value, 0, 0, some 0⟩
  | toSecond stamp _ => stamp.moment 0

/-- The date in full. -/
def stamp : PartialDate → Stamp
  | toYear _ few year => ⟨year.widen few, .first, .first, .zero, .zero, .zero⟩
  | toMonth year month => ⟨year, month, .first, .zero, .zero, .zero⟩
  | toDay year month day => ⟨year, month, day, .zero, .zero, .zero⟩
  | toHour year month day hour => ⟨year, month, day, hour, .zero, .zero⟩
  | toMinute year month day hour minute => ⟨year, month, day, hour, minute, .zero⟩
  | toSecond stamp _ => stamp

/-- The fields make a date of the calendar and a time of day. -/
structure InCalendar (given : PartialDate) : Prop where
  proper : given.moment.date.Proper
  year : given.moment.date.year ≤ 9999
  hour : given.moment.hour < 24
  minute : given.moment.minute < 60
  second : given.moment.second < 60

theorem moment_stamp (given : PartialDate) : given.stamp.moment 0 = given.moment := by
  have first : Digits.first.value = 1 := by decide
  have zero : Digits.zero.value = 0 := by decide
  cases given <;> simp [stamp, moment, Stamp.moment, Digits.value_widen, first, zero]

/-- A text of four characters or more is filled up at its end only. -/
theorem fillUp_long {front : List Char} (long : 4 ≤ front.length) :
    fillUp front = front ++ partialTemplate.drop front.length := by
  rw [fillUp, Nat.sub_eq_zero_of_le long, List.replicate_zero, List.nil_append]

/-- **Filled up, a partial date is the date in full.** -/
theorem fillUp_text (given : PartialDate) : fillUp given.text = given.stamp.text ['Z'] := by
  have template : partialTemplate = ['0', '0', '0', '0'] ++ '-' :: Digits.first.text ++ '-' :: Digits.first.text ++
      'T' :: Digits.zero.text ++ ':' :: Digits.zero.text ++ ':' :: Digits.zero.text ++ ['Z'] := rfl
  cases given with
  | toYear some few year =>
    have wide := (year.widen few).length_eq
    rw [Digits.widen] at wide
    rw [text, fillUp, year.length_eq, wide]
    simp [template, stamp, Stamp.text, Stamp.dateText, Stamp.clockText, Digits.widen]
  | toMonth | toDay | toHour | toMinute =>
    rw [fillUp_long (by simp [text, Digits.length_eq])]
    simp [template, text, stamp, Stamp.text, Stamp.dateText, Stamp.clockText, Digits.length_eq, Digits.first, Digits.zero]
  | toSecond stamp marked =>
    have length : ∀ tail, (stamp.text tail).length = 19 + tail.length := by
      intro tail
      simp [Stamp.text, Stamp.dateText, Stamp.clockText, Digits.length_eq]
      omega
    cases marked with
    | false =>
      rw [text, fillUp_long (by simp [length]), length]
      exact (stamp.text_append [] ['Z']).symm
    | true =>
      rw [text, fillUp_long (by simp [length]), length]
      exact List.append_nil _

theorem isValid_moment {given : PartialDate} : given.moment.isValid = true ↔ given.InCalendar := by
  have utc : given.moment.microsecond < Time.perSecond ∧ given.moment.offset.all (·.natAbs < Time.perDay) = true := by
    rw [← moment_stamp]
    exact ⟨(by decide : 0 < Time.perSecond), rfl⟩
  rw [Moment.isValid_iff, Time.Date.isValid_iff, Time.maxYear]
  constructor
  · rintro ⟨⟨begun, last, monthLow, monthHigh, dayLow, dayHigh⟩, hour, minute, second, _⟩
    exact ⟨⟨begun, ⟨monthLow, monthHigh⟩, ⟨dayLow, dayHigh⟩⟩, last, hour, minute, second⟩
  · rintro ⟨⟨begun, month, day⟩, last, hour, minute, second⟩
    exact ⟨⟨begun, last, month.1, month.2, day.1, day.2⟩, hour, minute, second, utc⟩

end PartialDate

/-- **Partial dates.** A partial date is read as the date of UTC that its parts say, from the first month and day and from
midnight where they say nothing, if that is a date of the calendar and a time of day. If it is none, then the text is refused
as it is filled up. -/
theorem partialDate_text (given : PartialDate) :
    (given.InCalendar → partialDate given.text = .ok given.moment) ∧
      (¬ given.InCalendar → partialDate given.text = .error (badDate (given.stamp.text ['Z']))) := by
  have read : date? (given.stamp.text ['Z']) = given.moment.checked? := by
    rw [← given.moment_stamp]
    exact date?_stamp given.stamp .none
  rw [partialDate, given.fillUp_text, date, read, Moment.checked?]
  constructor
  · intro inside
    rw [if_pos (PartialDate.isValid_moment.mpr inside)]
  · intro outside
    rw [if_neg fun valid => outside (PartialDate.isValid_moment.mp valid)]

/-- An hour on a leap day, the same day of a year that is none, a year of one digit, and the year before the first. -/
theorem partialDate_text_leap :
    partialDate ['2', '0', '0', '0', '-', '0', '2', '-', '2', '9', 'T', '2', '3'] = .ok ⟨⟨2000, 2, 29⟩, 23, 0, 0, 0, some 0⟩ ∧
      partialDate ['1', '9', '0', '0', '-', '0', '2', '-', '2', '9'] = .error (badDate "1900-02-29T00:00:00Z".toList) ∧
      partialDate ['7'] = .ok ⟨⟨7, 1, 1⟩, 0, 0, 0, 0, some 0⟩ ∧
      partialDate ['0'] = .error (badDate "0000-01-01T00:00:00Z".toList) := by
  have hour := partialDate_text (.toHour ⟨['2', '0', '0', '0'], rfl, by decide⟩ ⟨['0', '2'], rfl, by decide⟩
    ⟨['2', '9'], rfl, by decide⟩ ⟨['2', '3'], rfl, by decide⟩)
  have day := partialDate_text (.toDay ⟨['1', '9', '0', '0'], rfl, by decide⟩ ⟨['0', '2'], rfl, by decide⟩
    ⟨['2', '9'], rfl, by decide⟩)
  have seven := partialDate_text (.toYear (by decide) (by decide) ⟨['7'], rfl, by decide⟩)
  have zero := partialDate_text (.toYear (by decide) (by decide) ⟨['0'], rfl, by decide⟩)
  refine ⟨hour.1 ⟨⟨by decide, by decide, by decide⟩, by decide, by decide, by decide, by decide⟩, day.2 fun inside => ?_,
    seven.1 ⟨⟨by decide, by decide, by decide⟩, by decide, by decide, by decide, by decide⟩, zero.2 fun inside => ?_⟩
  · exact absurd inside.proper.day (by decide)
  · exact absurd inside.proper.year (by decide)

end ResourceQuery.Literal
