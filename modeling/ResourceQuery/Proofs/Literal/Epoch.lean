import ResourceQuery.Proofs.Literal.Plain
import ResourceQuery.Proofs.Time.Moment

/-!
Dates as counts of milliseconds. An integer is a date exactly if it counts milliseconds into the years of the
calendar; the date is that many milliseconds after the start of 1970, and a later one for a larger integer
(`epoch_integer`).
-/
namespace ResourceQuery.Literal
open ResourceQuery.Number (integerText isWritable)
open ResourceQuery.Time (Moment)

/-- A date that is found for a count of microseconds since 1970 is that far away from it. -/
theorem sinceEpoch?_eq_some_iff {count : Int} {moment : Moment} : sinceEpoch? count = some moment ↔
    moment.isValid = true ∧ moment.offset = some 0 ∧ moment.instant = Moment.epoch.instant + count :=
  Moment.ofMicroseconds?_utc_iff

/-- The counts of milliseconds that dates are found for. -/
theorem exists_sinceEpoch?_iff {m : Int} :
    (∃ moment, sinceEpoch? (m * 1000) = some moment) ↔ -62135596800000 ≤ m ∧ m ≤ 253402300799999 := by
  have start : Moment.epoch.instant = 62135596800000000 := by decide
  have finish : Time.daysBeforeYear (Time.maxYear + 1) * Time.perDay = 315537897600000000 := by decide
  rw [sinceEpoch?, Moment.exists_ofMicroseconds?_iff, start, finish]
  omega

/-- An integer counts whole milliseconds. -/
theorem epoch_integerText {m : Int} (few : isWritable m = true) :
    epoch (integerText m) = (sinceEpoch? (m * 1000)).elim (.error (badDate (integerText m))) .ok := by
  have read : number (integerText m) = .ok (.int m) := by
    rw [number, number?_integerText few]
    rfl
  rw [epoch, read]
  cases found : sinceEpoch? (m * 1000) with
  | none => simp [Numeral.microseconds?, found, throw, throwThe, MonadExceptOf.throw]
  | some moment => simp [Numeral.microseconds?, found]

theorem epoch_eq_ok_iff {m : Int} (few : isWritable m = true) {moment : Moment} :
    epoch (integerText m) = .ok moment ↔ sinceEpoch? (m * 1000) = some moment := by
  rw [epoch_integerText few]
  cases sinceEpoch? (m * 1000) <;> simp

/-- **Counts of milliseconds.** Let an integer have not too many digits. It is a date exactly if it lies between the
first and the last millisecond of the calendar. The date is a valid one of UTC, and that many milliseconds after the
start of 1970. Any other integer is refused as no date, and of two integers the larger one is the later date. -/
theorem epoch_integer {m : Int} (few : isWritable m = true) :
    ((∃ moment, epoch (integerText m) = .ok moment) ↔ -62135596800000 ≤ m ∧ m ≤ 253402300799999) ∧
    (∀ moment, epoch (integerText m) = .ok moment →
      moment.isValid = true ∧ moment.offset = some 0 ∧ moment.instant - Moment.epoch.instant = m * 1000) ∧
    (¬ (-62135596800000 ≤ m ∧ m ≤ 253402300799999) → epoch (integerText m) = .error (badDate (integerText m))) ∧
    ∀ n : Int, isWritable n = true → m < n → ∀ earlier later, epoch (integerText m) = .ok earlier →
      epoch (integerText n) = .ok later → earlier.instant < later.instant ∧ earlier.fields < later.fields := by
  refine ⟨?_, ?_, ?_, ?_⟩
  · simp only [epoch_eq_ok_iff few]
    exact exists_sinceEpoch?_iff
  · intro moment done
    obtain ⟨valid, zone, far⟩ := sinceEpoch?_eq_some_iff.mp ((epoch_eq_ok_iff few).mp done)
    exact ⟨valid, zone, by omega⟩
  · intro outside
    have none : sinceEpoch? (m * 1000) = none :=
      Option.eq_none_iff_forall_ne_some.mpr fun moment found => outside (exists_sinceEpoch?_iff.mp ⟨moment, found⟩)
    rw [epoch_integerText few, none]
    rfl
  · intro n more less earlier later first second
    obtain ⟨valid, zone, far⟩ := sinceEpoch?_eq_some_iff.mp ((epoch_eq_ok_iff few).mp first)
    obtain ⟨also, otherZone, farther⟩ := sinceEpoch?_eq_some_iff.mp ((epoch_eq_ok_iff more).mp second)
    have behind : earlier.instant < later.instant := by omega
    refine ⟨behind, (Moment.fields_lt_iff valid also).mpr ?_⟩
    simp only [Moment.instant, zone, otherZone, Option.getD_some] at behind
    omega

/-- The last millisecond of the calendar is a date, after that of any smaller integer, and the next one is none. -/
theorem epoch_integer_last :
    isWritable 253402300799999 = true ∧ isWritable 253402300800000 = true ∧
      (∃ moment, epoch (integerText 253402300799999) = .ok moment ∧
        moment.instant - Moment.epoch.instant = 253402300799999000 ∧
        ∀ first, epoch (integerText (-62135596800000)) = .ok first → first.fields < moment.fields) ∧
      epoch (integerText 253402300800000) = .error (badDate "253402300800000".toList) := by
  have few : isWritable 253402300799999 = true := by decide
  have more : isWritable 253402300800000 = true := by decide
  have fewest : isWritable (-62135596800000) = true := by decide
  obtain ⟨⟨-, inside⟩, far, -, -⟩ := epoch_integer few
  obtain ⟨-, -, -, later⟩ := epoch_integer fewest
  obtain ⟨-, -, refused, -⟩ := epoch_integer more
  obtain ⟨moment, done⟩ := inside (by decide)
  refine ⟨few, more, ⟨moment, done, (far moment done).2.2, fun first start => ?_⟩, refused (by decide)⟩
  exact (later _ few (by decide) first moment start done).2

end ResourceQuery.Literal
