import ResourceQuery.Proofs.Literal.Stamp
import ResourceQuery.Proofs.Time.Moment

/-!
Which written dates are read. A date of UTC is written with three digits of a second, and without
zeros in front of the year, if it is one to the millisecond, and with six digits otherwise. It is
read as the date it was written for unless its year is short of four digits (`date_utcText`), and
then it is no date at all (`date_utcText_short`).
-/
namespace ResourceQuery.Literal
open ResourceQuery.Number (padded ofDigits digits)
open ResourceQuery.Time (Moment Date)

theorem digits_eq_padded {width n : Nat} (wide : width ≤ (digits n).length) : digits n = padded width n := by
  rw [padded, Nat.sub_eq_zero_of_le wide, List.replicate_zero, List.nil_append]

theorem takeDigits?_none {width : Nat} {text : List Char} {c : Char} (member : c ∈ text.take width)
    (other : Text.isDigit c = false) : takeDigits? width text = none := by
  refine if_neg fun found => ?_
  rw [List.all_eq_true.mp found.2 c member] at other
  cases other

theorem takeNumber?_none {width : Nat} {text : List Char} {c : Char} (member : c ∈ text.take width)
    (other : c.isDigit = false) : Time.Iso.takeNumber? width text = none := by
  refine if_neg fun found => ?_
  rw [List.all_eq_true.mp found.2 c member] at other
  cases other

/-- The fields of a valid moment have as many digits as they are written with. -/
theorem fields_fit {moment : Moment} (valid : moment.isValid = true) :
    moment.date.year < 10 ^ 4 ∧ moment.date.month < 10 ^ 2 ∧ moment.date.day < 10 ^ 2 ∧ moment.hour < 10 ^ 2 ∧
      moment.minute < 10 ^ 2 ∧ moment.second < 10 ^ 2 ∧ moment.microsecond < 10 ^ 6 := by
  simp only [Moment.isValid, Bool.and_eq_true, decide_eq_true_eq, Time.Date.isValid_iff, Time.maxYear] at valid
  have micro : Time.perSecond = 10 ^ 6 := rfl
  have month : Time.daysInMonth moment.date.year moment.date.month ≤ 31 := by
    unfold Time.daysInMonth
    split
    · split <;> decide
    all_goals decide
  omega

/-- The stamp of a valid moment. -/
def Stamp.ofMoment {moment : Moment} (valid : moment.isValid = true) : Stamp :=
  have fits := fields_fit valid
  { year := .ofNat fits.1 (by decide)
    month := .ofNat fits.2.1 (by decide)
    day := .ofNat fits.2.2.1 (by decide)
    hour := .ofNat fits.2.2.2.1 (by decide)
    minute := .ofNat fits.2.2.2.2.1 (by decide)
    second := .ofNat fits.2.2.2.2.2.1 (by decide) }

theorem Stamp.ofMoment_text {moment : Moment} (valid : moment.isValid = true) (tail : List Char) :
    (ofMoment valid).text tail = Time.Iso.dateText moment.date ++ 'T' :: Time.Iso.clockText moment ++ tail := rfl

theorem Stamp.moment_ofMoment {moment : Moment} (valid : moment.isValid = true) (utc : moment.offset = some 0) :
    (ofMoment valid).moment moment.microsecond = moment := by
  simp only [Stamp.moment, ofMoment, Digits.value_ofNat, ← utc]

theorem utcText_three {moment : Moment} (whole : moment.microsecond % 1000 = 0) :
    ∃ rest, utcText moment = digits moment.date.year ++ '-' :: rest ∧
      Time.Iso.dateText moment.date ++ 'T' :: Time.Iso.clockText moment ++ '.' :: padded 3 (moment.microsecond / 1000) ++ ['Z'] =
        padded 4 moment.date.year ++ '-' :: rest :=
  ⟨padded 2 moment.date.month ++ '-' :: padded 2 moment.date.day ++ 'T' :: Time.Iso.clockText moment ++
      '.' :: padded 3 (moment.microsecond / 1000) ++ ['Z'],
    by simp [utcText, whole], by simp [Time.Iso.dateText]⟩

theorem year_digits {year : Nat} (long : 1000 ≤ year) : 4 ≤ (digits year).length := by
  have count : ¬ (digits year).length ≤ 3 := by
    rw [digits, Nat.length_toDigits_le_iff (by decide) (by decide)]
    omega
  omega

/-- A date of UTC is written as its stamp, unless its year is short of four digits, and its fraction is to the
millisecond or to the microsecond. -/
theorem utcText_eq_stamp {moment : Moment} (valid : moment.isValid = true)
    (readable : 1000 ≤ moment.date.year ∨ moment.microsecond % 1000 ≠ 0) :
    ∃ fraction : Fraction, fraction.microsecond = moment.microsecond ∧
      utcText moment = (Stamp.ofMoment valid).text (fraction.text ++ ['Z']) := by
  obtain ⟨_, _, _, _, _, _, micro⟩ := fields_fit valid
  by_cases whole : moment.microsecond % 1000 = 0
  · have fits : moment.microsecond / 1000 < 10 ^ 3 := by omega
    refine ⟨.digits (by decide) (by decide) (.ofNat fits (by decide)), ?_, ?_⟩
    · rw [Fraction.microsecond, Digits.value_ofNat]
      omega
    · obtain ⟨rest, written, same⟩ := utcText_three whole
      rw [digits_eq_padded (year_digits (readable.resolve_right (· whole))), ← same] at written
      rw [written, Stamp.ofMoment_text, ← List.append_assoc]
      rfl
  · refine ⟨.digits (by decide) (by decide) (.ofNat micro (by decide)), ?_, ?_⟩
    · rw [Fraction.microsecond, Digits.value_ofNat, Nat.sub_self, Nat.pow_zero, Nat.mul_one]
    · have some : moment.microsecond ≠ 0 := by omega
      rw [Stamp.ofMoment_text, ← List.append_assoc]
      simp [utcText, whole, Time.Iso.fractionText, some, Fraction.text, Digits.ofNat]

/-- **A date of UTC whose year has four digits, or that is written with six digits of a second, is read
as it is written.** -/
theorem date_utcText {moment : Moment} (valid : moment.isValid = true) (utc : moment.offset = some 0)
    (readable : 1000 ≤ moment.date.year ∨ moment.microsecond % 1000 ≠ 0) : date (utcText moment) = .ok moment := by
  obtain ⟨fraction, same, written⟩ := utcText_eq_stamp valid readable
  have checked : moment.checked? = some moment := if_pos valid
  rw [date, written, date?_stamp, same, Stamp.moment_ofMoment valid utc, checked]

/-- **A date of UTC to the millisecond whose year is short of four digits is no date.** -/
theorem date_utcText_short {moment : Moment} (short : moment.date.year < 1000) (whole : moment.microsecond % 1000 = 0) :
    date (utcText moment) = .error (badDate (utcText moment)) := by
  obtain ⟨rest, written, _⟩ := utcText_three whole
  have count : (digits moment.date.year).length ≤ 3 := by
    rw [digits, Nat.length_toDigits_le_iff (by decide) (by decide)]
    omega
  have hyphen : ∀ rest, '-' ∈ (digits moment.date.year ++ '-' :: rest).take 4 := by
    intro rest
    obtain ⟨more, split⟩ : ∃ more, 4 - (digits moment.date.year).length = more + 1 :=
      ⟨3 - (digits moment.date.year).length, by omega⟩
    rw [List.take_append, split, List.take_succ_cons]
    simp
  have noFields : fullFields? (utcText moment) = none := by
    rw [written, fullFields?, takeDigits?_none (hyphen rest) (by decide)]
    rfl
  have noMark : 'Z' ∉ digits moment.date.year := fun member => absurd (digits_isDigit member) (by decide)
  have general : generalDate? (utcText moment) = none := by
    have spelled : spellUtc (utcText moment) = digits moment.date.year ++ '-' :: spellUtc rest := by
      rw [written, spellUtc_append, spellUtc_eq_self noMark]
      rfl
    have noDate : ∀ length, Time.Iso.date? length (digits moment.date.year ++ '-' :: spellUtc rest) = none := by
      intro length
      rw [Time.Iso.date?, takeNumber?_none (hyphen (spellUtc rest)) (by decide)]
      rfl
    rw [generalDate?, spelled, Time.Iso.read?]
    simp only [noDate, Option.bind_eq_bind, Option.bind_none]
    split <;> simp
  simp only [date, date?, noFields, general]

end ResourceQuery.Literal
