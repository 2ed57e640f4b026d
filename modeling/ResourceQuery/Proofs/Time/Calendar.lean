import ResourceQuery.Time.Calendar

/-!
The calendar is consistent. Every day number is the number of the date that is found for it, and
that date has a month and a day that exist (`Date.ofDayNumber_spec`). No two dates that exist share a
number, so every one is found for its number (`Date.ofDayNumber_dayNumber`).
-/
namespace ResourceQuery.Time

def daysInYear (year : Nat) : Nat := if isLeap year then 366 else 365

/-- The months of a year make up the year. -/
theorem daysBeforeMonth_all (year : Nat) : daysBeforeMonth year 13 = daysInYear year := by
  simp only [daysBeforeMonth, daysInMonth, daysInYear]
  split <;> rfl

theorem daysBeforeMonth_succ (year : Nat) {month : Nat} (begun : 1 ≤ month) :
    daysBeforeMonth year (month + 1) = daysBeforeMonth year month + daysInMonth year month := by
  obtain ⟨less, rfl⟩ : ∃ less, month = less + 1 := ⟨month - 1, by omega⟩
  rfl

/-- The month and day that are found lie in the year and make up the day that was counted. -/
theorem Date.monthDay_spec (year : Nat) : ∀ (left month day : Nat), 1 ≤ month → month + left = 12 →
    daysBeforeMonth year month + day < daysInYear year →
    1 ≤ (monthDay year left month day).1 ∧ (monthDay year left month day).1 ≤ 12 ∧
      1 ≤ (monthDay year left month day).2 ∧
      (monthDay year left month day).2 ≤ daysInMonth year (monthDay year left month day).1 ∧
      daysBeforeMonth year (monthDay year left month day).1 + (monthDay year left month day).2 =
        daysBeforeMonth year month + day + 1
  | 0, month, day, begun, last, inside => by
    obtain rfl : month = 12 := by omega
    have whole := daysBeforeMonth_succ year begun
    rw [daysBeforeMonth_all] at whole
    simp only [monthDay]
    omega
  | left + 1, month, day, begun, last, inside => by
    rw [monthDay]
    split
    · simp only
      omega
    · have next := daysBeforeMonth_succ year begun
      obtain ⟨low, high, first, most, same⟩ :=
        monthDay_spec year left (month + 1) (day - daysInMonth year month) (by omega) (by omega) (by omega)
      exact ⟨low, high, first, most, by omega⟩

/-- The days before a year that is counted by cycles of 400, 100, 4 and 1 years. -/
theorem daysBeforeYear_cycles {cycles centuries fours ones : Nat} (centuriesLe : centuries ≤ 3) (foursLe : fours ≤ 24)
    (onesLe : ones ≤ 3) :
    daysBeforeYear (400 * cycles + 100 * centuries + 4 * fours + ones + 1) =
      146097 * cycles + 36524 * centuries + 1461 * fours + 365 * ones := by
  simp only [daysBeforeYear]
  omega

/-- A year that is the last of its four is a leap year, unless it is the last of a century and not
of a cycle. -/
theorem isLeap_cycles {cycles centuries fours : Nat} (foursLe : fours ≤ 24)
    (whole : fours = 24 → centuries = 3) :
    isLeap (400 * cycles + 100 * centuries + 4 * fours + 3 + 1) = true := by
  simp only [isLeap, Bool.and_eq_true, Bool.or_eq_true, beq_iff_eq, bne_iff_ne]
  omega

/-- **The date of a day number exists in its year, and has that number.** -/
theorem Date.ofDayNumber_spec (number : Nat) :
    1 ≤ (ofDayNumber number).year ∧ 1 ≤ (ofDayNumber number).month ∧ (ofDayNumber number).month ≤ 12 ∧
      1 ≤ (ofDayNumber number).day ∧
      (ofDayNumber number).day ≤ daysInMonth (ofDayNumber number).year (ofDayNumber number).month ∧
      (ofDayNumber number).dayNumber = number := by
  simp only [ofDayNumber]
  generalize cyclesEq : number / 146097 = cycles
  generalize centuriesEq : min (number % 146097 / 36524) 3 = centuries
  generalize foursEq : (number % 146097 - centuries * 36524) / 1461 = fours
  generalize onesEq : min ((number % 146097 - centuries * 36524) % 1461 / 365) 3 = ones
  generalize dayEq : (number % 146097 - centuries * 36524) % 1461 - ones * 365 = day
  have counts : centuries ≤ 3 ∧ fours ≤ 24 ∧ ones ≤ 3 := by omega
  have whole : number = 146097 * cycles + 36524 * centuries + 1461 * fours + 365 * ones + day := by omega
  have days := @daysBeforeYear_cycles cycles _ _ _ counts.1 counts.2.1 counts.2.2
  have inside : day < daysInYear (400 * cycles + 100 * centuries + 4 * fours + ones + 1) := by
    unfold daysInYear
    by_cases short : day < 365
    · split <;> omega
    · -- the day that only the last of four years has
      obtain rfl : ones = 3 := by omega
      rw [isLeap_cycles counts.2.1 (by omega), if_pos rfl]
      omega
  obtain ⟨low, high, first, most, same⟩ :=
    monthDay_spec _ 11 1 day (by omega) (by omega) (by simpa [daysBeforeMonth] using inside)
  refine ⟨by omega, low, high, first, most, ?_⟩
  simp only [dayNumber, days]
  have start : daysBeforeMonth (400 * cycles + 100 * centuries + 4 * fours + ones + 1) 1 = 0 := rfl
  omega

/-- The years go on without a gap. -/
theorem daysBeforeYear_succ {year : Nat} (begun : 1 ≤ year) :
    daysBeforeYear (year + 1) = daysBeforeYear year + daysInYear year := by
  obtain ⟨past, rfl⟩ : ∃ past, year = past + 1 := ⟨year - 1, by omega⟩
  have fours : (past + 1) / 4 = past / 4 + if (past + 1) % 4 = 0 then 1 else 0 := by split <;> omega
  have centuries : (past + 1) / 100 = past / 100 + if (past + 1) % 100 = 0 then 1 else 0 := by split <;> omega
  have cycles : (past + 1) / 400 = past / 400 + if (past + 1) % 400 = 0 then 1 else 0 := by split <;> omega
  have fewer : past / 100 ≤ past / 4 := by omega
  have inCentury : (past + 1) % 100 = 0 → (past + 1) % 4 = 0 := by omega
  have inCycle : (past + 1) % 400 = 0 → (past + 1) % 100 = 0 := by omega
  have leap : daysInYear (past + 1) = if (past + 1) % 4 = 0 ∧ ((past + 1) % 100 ≠ 0 ∨ (past + 1) % 400 = 0) then 366 else 365 := by
    simp [daysInYear, isLeap]
  simp only [daysBeforeYear, Nat.add_sub_cancel, fours, centuries, cycles, leap]
  grind

theorem daysBeforeYear_mono {first last : Nat} (begun : 1 ≤ first) (le : first ≤ last) :
    daysBeforeYear first ≤ daysBeforeYear last := by
  induction le with
  | refl => exact Nat.le_refl _
  | step le ih =>
    rw [Nat.succ_eq_add_one, daysBeforeYear_succ (Nat.le_trans begun le)]
    exact Nat.le_trans ih (Nat.le_add_right _ _)

theorem daysBeforeMonth_mono (year : Nat) {first last : Nat} (le : first ≤ last) :
    daysBeforeMonth year first ≤ daysBeforeMonth year last := by
  induction le with
  | refl => exact Nat.le_refl _
  | @step month _ ih =>
    refine Nat.le_trans ih ?_
    cases month with
    | zero => exact Nat.le_refl _
    | succ month => exact Nat.le_add_right _ _

namespace Date

/-- Whether the month and the day exist in their year. -/
structure Proper (date : Date) : Prop where
  year : 1 ≤ date.year
  month : 1 ≤ date.month ∧ date.month ≤ 12
  day : 1 ≤ date.day ∧ date.day ≤ daysInMonth date.year date.month

/-- The day number of a date lies in its year. -/
theorem Proper.inYear {date : Date} (found : date.Proper) :
    daysBeforeYear date.year ≤ date.dayNumber ∧ date.dayNumber < daysBeforeYear (date.year + 1) := by
  obtain ⟨year, month, day⟩ := found
  have next := daysBeforeMonth_succ date.year month.1
  have whole : daysBeforeMonth date.year (date.month + 1) ≤ daysBeforeMonth date.year 13 := daysBeforeMonth_mono _ (by omega)
  rw [daysBeforeMonth_all] at whole
  rw [daysBeforeYear_succ year]
  simp only [Date.dayNumber]
  omega

/-- The dates up to a year have the day numbers before the next year. -/
theorem Proper.year_le_iff {date : Date} (found : date.Proper) {last : Nat} (begun : 1 ≤ last) :
    date.year ≤ last ↔ date.dayNumber < daysBeforeYear (last + 1) := by
  constructor
  · intro early
    exact Nat.lt_of_lt_of_le found.inYear.2 (daysBeforeYear_mono (Nat.le_add_left _ _) (Nat.succ_le_succ early))
  · intro before
    refine Nat.not_lt.mp fun late => ?_
    have after : daysBeforeYear (last + 1) ≤ daysBeforeYear date.year := daysBeforeYear_mono (by omega) late
    exact absurd before (Nat.not_lt.mpr (Nat.le_trans after found.inYear.1))

/-- A later year has larger day numbers. -/
theorem Proper.lt_of_year {date other : Date} (found : date.Proper) (also : other.Proper) (less : date.year < other.year) :
    date.dayNumber < other.dayNumber :=
  Nat.lt_of_lt_of_le found.inYear.2 (Nat.le_trans (daysBeforeYear_mono (Nat.le_add_left _ _) less) also.inYear.1)

/-- In a year a later month has larger day numbers. -/
theorem Proper.lt_of_month {date other : Date} (found : date.Proper) (also : other.Proper) (same : date.year = other.year)
    (less : date.month < other.month) : date.dayNumber < other.dayNumber := by
  have next := daysBeforeMonth_succ date.year found.month.1
  have before : daysBeforeMonth date.year (date.month + 1) ≤ daysBeforeMonth date.year other.month :=
    daysBeforeMonth_mono date.year less
  have inside := found.day
  have begun := also.day
  simp only [dayNumber, same] at next before inside begun ⊢
  omega

/-- Dates with one number are one date. -/
theorem Proper.unique {date other : Date} (found : date.Proper) (also : other.Proper)
    (same : date.dayNumber = other.dayNumber) : date = other := by
  have years : date.year = other.year := by
    rcases Nat.lt_trichotomy date.year other.year with less | equal | more
    · exact absurd same (Nat.ne_of_lt (found.lt_of_year also less))
    · exact equal
    · exact absurd same.symm (Nat.ne_of_lt (also.lt_of_year found more))
  have months : date.month = other.month := by
    rcases Nat.lt_trichotomy date.month other.month with less | equal | more
    · exact absurd same (Nat.ne_of_lt (found.lt_of_month also years less))
    · exact equal
    · exact absurd same.symm (Nat.ne_of_lt (also.lt_of_month found years.symm more))
  have begun := found.day
  have alsoBegun := also.day
  obtain ⟨year, month, day⟩ := date
  obtain ⟨_, _, otherDay⟩ := other
  cases years
  cases months
  simp only [dayNumber] at same begun alsoBegun
  obtain rfl : day = otherDay := by omega
  rfl

/-- A date that exists is the date of its number. -/
theorem ofDayNumber_dayNumber {date : Date} (found : date.Proper) : ofDayNumber date.dayNumber = date := by
  obtain ⟨year, monthLow, monthHigh, dayLow, dayHigh, number⟩ := ofDayNumber_spec date.dayNumber
  exact Proper.unique ⟨year, ⟨monthLow, monthHigh⟩, ⟨dayLow, dayHigh⟩⟩ found number

end Date

end ResourceQuery.Time
