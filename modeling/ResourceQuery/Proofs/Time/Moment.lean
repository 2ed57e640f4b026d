import ResourceQuery.Proofs.Time.Calendar
import ResourceQuery.Time.Moment

/-!
Points in time are found again. The moment that is found for a count of microseconds is valid and
shows that count on its clock (`Moment.ofMicroseconds?_spec`), and a valid moment is found for the count
on its clock (`Moment.ofMicroseconds?_ownClock`). So the moment on the clock of UTC is the one valid moment
of UTC that is the same point in time (`Moment.toUtc?_eq_some_iff`). A moment is found for the counts of the
calendar's years (`Moment.exists_ofMicroseconds?_iff`), and clocks go on as their fields do, read from the year
on (`Moment.fields_lt_iff`).
-/
namespace ResourceQuery.Time

theorem Date.isValid_iff {date : Date} : date.isValid = true ↔
    1 ≤ date.year ∧ date.year ≤ maxYear ∧ 1 ≤ date.month ∧ date.month ≤ 12 ∧ 1 ≤ date.day ∧
      date.day ≤ daysInMonth date.year date.month := by
  simp only [isValid, Bool.and_eq_true, decide_eq_true_eq, and_assoc]

namespace Moment

/-- The moment of a count is valid and shows the count on its clock. -/
theorem ofMicroseconds?_spec {count : Int} {offset : Option Int} {moment : Moment}
    (found : ofMicroseconds? count offset = some moment) (small : offset.all (·.natAbs < perDay) = true) :
    moment.isValid = true ∧ (moment.ownClock : Int) = count ∧ moment.offset = offset := by
  unfold ofMicroseconds? at found
  split at found
  · cases found
  · rename_i positive
    simp only at found
    split at found
    · rename_i inCalendar
      obtain rfl := Option.some.inj found
      have split := Nat.div_add_mod count.toNat perSecond
      have micro := Nat.mod_lt count.toNat (by decide : 0 < perSecond)
      generalize count.toNat / perSecond = seconds at inCalendar split ⊢
      generalize count.toNat % perSecond = rest at split micro ⊢
      obtain ⟨year, monthLow, monthHigh, dayLow, dayHigh, number⟩ := Date.ofDayNumber_spec (seconds / 86400)
      refine ⟨?_, ?_, rfl⟩
      · have date := Date.isValid_iff.mpr ⟨year, inCalendar, monthLow, monthHigh, dayLow, dayHigh⟩
        simp only [isValid, date, micro, Bool.and_eq_true, decide_eq_true_eq, true_and, and_true]
        refine ⟨⟨⟨by omega, by omega⟩, by omega⟩, ?_⟩
        cases offset with
        | none => rfl
        | some offset => simpa using small
      · have seconds_eq : seconds / 86400 * 86400 + seconds % 86400 / 3600 * 3600 + seconds % 86400 / 60 % 60 * 60 +
            seconds % 86400 % 60 = seconds := by omega
        simp only [ownClock, number, seconds_eq, Nat.mul_comm seconds, split]
        omega
    · cases found

theorem isValid_iff {moment : Moment} : moment.isValid = true ↔
    moment.date.isValid = true ∧ moment.hour < 24 ∧ moment.minute < 60 ∧ moment.second < 60 ∧
      moment.microsecond < perSecond ∧ moment.offset.all (·.natAbs < perDay) = true := by
  obtain ⟨_, _, _, _, _, offset⟩ := moment
  cases offset <;> simp [isValid, and_assoc]

/-- The days, the seconds of the day and the microseconds that a clock shows. -/
theorem ownClock_split {moment : Moment} (valid : moment.isValid = true) :
    moment.ownClock % perSecond = moment.microsecond ∧
      moment.ownClock / perSecond / 86400 = moment.date.dayNumber ∧
      moment.ownClock / perSecond % 86400 = moment.hour * 3600 + moment.minute * 60 + moment.second := by
  obtain ⟨_, hour, minute, second, micro, _⟩ := isValid_iff.mp valid
  have positive : 0 < perSecond := by decide
  have seconds : moment.ownClock / perSecond =
      moment.date.dayNumber * 86400 + moment.hour * 3600 + moment.minute * 60 + moment.second := by
    rw [ownClock, Nat.mul_comm, Nat.mul_add_div positive, Nat.div_eq_of_lt micro, Nat.add_zero]
  refine ⟨?_, ?_, ?_⟩
  · rw [ownClock, Nat.mul_comm, Nat.mul_add_mod, Nat.mod_eq_of_lt micro]
  · rw [seconds]
    omega
  · rw [seconds]
    omega

/-- A valid moment is the moment of the count on its clock. -/
theorem ofMicroseconds?_ownClock {moment : Moment} (valid : moment.isValid = true) :
    ofMicroseconds? moment.ownClock moment.offset = some moment := by
  obtain ⟨micro, days, seconds⟩ := ownClock_split valid
  obtain ⟨date, hour, minute, second, _⟩ := isValid_iff.mp valid
  obtain ⟨year, yearMax, month, monthMax, day, dayMax⟩ := Date.isValid_iff.mp date
  have found := Date.ofDayNumber_dayNumber ⟨year, ⟨month, monthMax⟩, ⟨day, dayMax⟩⟩
  have hours : (moment.hour * 3600 + moment.minute * 60 + moment.second) / 3600 = moment.hour := by omega
  have minutes : (moment.hour * 3600 + moment.minute * 60 + moment.second) / 60 % 60 = moment.minute := by omega
  have last : (moment.hour * 3600 + moment.minute * 60 + moment.second) % 60 = moment.second := by omega
  rw [ofMicroseconds?, if_neg (Int.not_lt.mpr (Int.natCast_nonneg _))]
  simp only [Int.toNat_natCast, micro, days, seconds, found, hours, minutes, last]
  exact if_pos yearMax

/-- The moment of UTC that is found for a count is the one valid moment of UTC at that point in time. -/
theorem ofMicroseconds?_utc_iff {count : Int} {utc : Moment} : ofMicroseconds? count (some 0) = some utc ↔
    utc.isValid = true ∧ utc.offset = some 0 ∧ utc.instant = count := by
  constructor
  · intro found
    obtain ⟨valid, clock, offset⟩ := ofMicroseconds?_spec found (by decide)
    exact ⟨valid, offset, by simp [instant, clock, offset]⟩
  · rintro ⟨valid, zone, rfl⟩
    have clock : utc.instant = utc.ownClock := by simp [instant, zone]
    rw [clock, ← zone, ofMicroseconds?_ownClock valid]

/-- The moment on the clock of UTC is the one valid moment of UTC that is the same point in time. -/
theorem toUtc?_eq_some_iff {moment utc : Moment} : moment.toUtc? = some utc ↔
    utc.isValid = true ∧ utc.offset = some 0 ∧ utc.instant = moment.instant :=
  ofMicroseconds?_utc_iff

/-- A moment is found for the counts of microseconds in the years of the calendar. -/
theorem exists_ofMicroseconds?_iff {count : Int} {offset : Option Int} :
    (∃ moment, ofMicroseconds? count offset = some moment) ↔
      0 ≤ count ∧ count < (daysBeforeYear (maxYear + 1) * perDay : Nat) := by
  unfold ofMicroseconds?
  by_cases negative : count < 0
  · simp only [negative, if_true]
    constructor
    · rintro ⟨_, ⟨⟩⟩
    · omega
  · obtain ⟨year, monthLow, monthHigh, dayLow, dayHigh, number⟩ :=
      Date.ofDayNumber_spec (count.toNat / perSecond / 86400)
    have found : (Date.ofDayNumber (count.toNat / perSecond / 86400)).Proper :=
      ⟨year, ⟨monthLow, monthHigh⟩, ⟨dayLow, dayHigh⟩⟩
    have inCalendar := found.year_le_iff (by decide : 1 ≤ maxYear)
    rw [number] at inCalendar
    have days : count.toNat / perSecond / 86400 < daysBeforeYear (maxYear + 1) ↔
        count < (daysBeforeYear (maxYear + 1) * perDay : Nat) := by
      rw [Nat.div_div_eq_div_mul, Nat.div_lt_iff_lt_mul (by decide), Nat.mul_comm perSecond]
      show count.toNat < daysBeforeYear (maxYear + 1) * perDay ↔ _
      omega
    simp only [negative, if_false, Option.ite_none_right_eq_some, exists_and_left, Option.some.injEq, exists_eq',
      and_true, inCalendar, days]
    omega

/-- The fields of a clock, from the year on. -/
def fields (moment : Moment) : List Nat :=
  [moment.date.year, moment.date.month, moment.date.day, moment.hour, moment.minute, moment.second, moment.microsecond]

theorem ownClock_lt_of_fields {a b : Moment} (valid : a.isValid = true) (also : b.isValid = true)
    (less : a.fields < b.fields) : a.ownClock < b.ownClock := by
  obtain ⟨date, hour, minute, second, micro, _⟩ := isValid_iff.mp valid
  obtain ⟨otherDate, otherHour, otherMinute, otherSecond, otherMicro, _⟩ := isValid_iff.mp also
  obtain ⟨year, _, month, monthMax, day, dayMax⟩ := Date.isValid_iff.mp date
  obtain ⟨otherYear, _, otherMonth, otherMonthMax, otherDay, otherDayMax⟩ := Date.isValid_iff.mp otherDate
  have found : a.date.Proper := ⟨year, ⟨month, monthMax⟩, ⟨day, dayMax⟩⟩
  have other : b.date.Proper := ⟨otherYear, ⟨otherMonth, otherMonthMax⟩, ⟨otherDay, otherDayMax⟩⟩
  have ofDays : a.date.dayNumber < b.date.dayNumber → a.ownClock < b.ownClock := by
    intro earlier
    simp only [ownClock, perSecond] at micro otherMicro ⊢
    omega
  simp only [fields, List.cons_lt_cons_iff, List.not_lt_nil, and_false, or_false] at less
  rcases less with earlier | ⟨years, earlier | ⟨months, earlier | ⟨days, rest⟩⟩⟩
  · exact ofDays (found.lt_of_year other earlier)
  · exact ofDays (found.lt_of_month other years earlier)
  · refine ofDays ?_
    simp only [Date.dayNumber, years, months]
    omega
  · have same : a.date.dayNumber = b.date.dayNumber := by simp only [Date.dayNumber, years, months, days]
    simp only [ownClock, perSecond, same] at micro otherMicro ⊢
    omega

/-- **A valid clock is behind another exactly if its fields are, read from the year on.** -/
theorem fields_lt_iff {a b : Moment} (valid : a.isValid = true) (also : b.isValid = true) :
    a.fields < b.fields ↔ a.ownClock < b.ownClock := by
  refine ⟨ownClock_lt_of_fields valid also, fun behind => ?_⟩
  rcases Std.lt_trichotomy a.fields b.fields with less | same | more
  · exact less
  · have clock : a.ownClock = b.ownClock := by
      simp only [fields, List.cons.injEq, and_true] at same
      simp only [ownClock, Date.dayNumber, same]
    exact absurd clock (Nat.ne_of_lt behind)
  · exact absurd behind (Nat.lt_asymm (ownClock_lt_of_fields also valid more))

end Moment
end ResourceQuery.Time
