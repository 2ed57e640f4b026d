import ResourceQuery.Literal.Date
import ResourceQuery.Proofs.Number.Layout

/-!
Dates in full: a date and a time of UTC to the second, each field in as many digits as it has, and up to six
digits of a fraction. With at most three of them such a text is read as its fields stand (`fullFields?_short`),
and in the general notation it is read as the same date, or as none, whatever its fields are
(`generalDate?_text`). So the first reading is only a shorter way to what the second gives (`date_timestamp`).
-/
namespace ResourceQuery.Literal
open ResourceQuery.Number (ofDigits)
open ResourceQuery.Time (Moment)

/-- So many digits of ASCII. -/
structure Digits (width : Nat) where
  text : List Char
  length_eq : text.length = width
  isDigit : ∀ c ∈ text, c.isDigit = true

namespace Digits

variable {width : Nat}

/-- The number that digits denote. -/
def value (digits : Digits width) : Nat := ofDigits digits.text

theorem all_isDigit (digits : Digits width) : digits.text.all Char.isDigit = true :=
  List.all_eq_true.mpr digits.isDigit

theorem isDigit_text (digits : Digits width) : ∀ c ∈ digits.text, Text.isDigit c = true := fun c member =>
  Number.isDigit_of_ascii (digits.isDigit c member)

theorem ne_nil (digits : Digits width) (some : 0 < width) : digits.text ≠ [] := by
  rw [← List.length_pos_iff, digits.length_eq]
  exact some

/-- What is no digit stands nowhere among digits. -/
theorem notMem (digits : Digits width) {c : Char} (other : c.isDigit = false) : c ∉ digits.text := by
  intro member
  rw [digits.isDigit c member] at other
  cases other

theorem takeDigits? (digits : Digits width) (rest : List Char) :
    Literal.takeDigits? width (digits.text ++ rest) = some (digits.value, rest) := by
  have all : digits.text.all Text.isDigit = true := List.all_eq_true.mpr digits.isDigit_text
  simp [Literal.takeDigits?, List.take_left' digits.length_eq, List.drop_left' digits.length_eq, digits.length_eq, all, value]

theorem takeNumber? (digits : Digits width) (rest : List Char) :
    Time.Iso.takeNumber? width (digits.text ++ rest) = some (digits.value, rest) := by
  simp [Time.Iso.takeNumber?, List.take_left' digits.length_eq, List.drop_left' digits.length_eq, digits.length_eq,
    digits.all_isDigit, value]

theorem length_padded {n : Nat} (fits : n < 10 ^ width) (some : 0 < width) : (Number.padded width n).length = width := by
  have length := (Nat.length_toDigits_le_iff (by decide : 1 < 10) some).mpr fits
  rw [Number.padded, List.length_append, List.length_replicate, Number.digits]
  omega

/-- A number as digits of a width, with zeros in front. -/
def ofNat {n : Nat} (fits : n < 10 ^ width) (some : 0 < width) : Digits width where
  text := Number.padded width n
  length_eq := length_padded fits some
  isDigit := Number.padded_isDigit width n

theorem value_ofNat {n : Nat} (fits : n < 10 ^ width) (some : 0 < width) : (ofNat fits some).value = n :=
  Number.ofDigits_padded width n

end Digits

/-- A date and a time to the second, in digits. -/
structure Stamp where
  year : Digits 4
  month : Digits 2
  day : Digits 2
  hour : Digits 2
  minute : Digits 2
  second : Digits 2

/-- The fraction of a second: up to six digits. -/
inductive Fraction
  | none
  | digits {width : Nat} (some : 0 < width) (few : width ≤ 6) (number : Digits width)

namespace Fraction

/-- How many digits a fraction has. -/
def width : Fraction → Nat
  | none => 0
  | @digits width _ _ _ => width

/-- A fraction behind its point; without digits there is no point. -/
def text : Fraction → List Char
  | none => []
  | digits _ _ number => '.' :: number.text

def microsecond : Fraction → Nat
  | none => 0
  | @digits width _ _ number => number.value * 10 ^ (6 - width)

end Fraction

namespace Stamp

def dateText (stamp : Stamp) : List Char := stamp.year.text ++ '-' :: stamp.month.text ++ '-' :: stamp.day.text

def clockText (stamp : Stamp) : List Char := stamp.hour.text ++ ':' :: stamp.minute.text ++ ':' :: stamp.second.text

/-- A stamp and what follows it. -/
def text (stamp : Stamp) (tail : List Char) : List Char := stamp.dateText ++ 'T' :: stamp.clockText ++ tail

/-- What the fields of a stamp say, with the microseconds of a fraction. They need not be in range. -/
def moment (stamp : Stamp) (microsecond : Nat) : Moment :=
  ⟨⟨stamp.year.value, stamp.month.value, stamp.day.value⟩, stamp.hour.value, stamp.minute.value, stamp.second.value,
    microsecond, some 0⟩

theorem text_append (stamp : Stamp) (first second : List Char) :
    stamp.text (first ++ second) = stamp.text first ++ second := by
  simp [text]

end Stamp

variable (stamp : Stamp) (fraction : Fraction)

/-- Digits behind a sign are read as a field, whatever comes of it. -/
theorem field_text {α : Type} {width : Nat} (sign : Char) (number : Digits width) (rest : List Char)
    (next : Nat × List Char → Option α) :
    ((expect? sign (sign :: (number.text ++ rest))).bind fun behind => (takeDigits? width behind).bind next) =
      next (number.value, rest) := by
  have met : expect? sign (sign :: (number.text ++ rest)) = some (number.text ++ rest) := if_pos rfl
  rw [met, Option.bind_some, number.takeDigits?, Option.bind_some]

theorem fullFields?_text (tail : List Char) :
    fullFields? (stamp.text tail) = (do
      let (microsecond, rest) ← milliseconds? tail
      if rest = ['Z'] then some (stamp.moment microsecond) else none) := by
  simp only [Stamp.text, Stamp.dateText, Stamp.clockText, List.append_assoc, List.cons_append, fullFields?]
  rw [stamp.year.takeDigits?]
  refine (field_text '-' stamp.month _ _).trans ?_
  refine (field_text '-' stamp.day _ _).trans ?_
  refine (field_text 'T' stamp.hour _ _).trans ?_
  refine (field_text ':' stamp.minute _ _).trans ?_
  refine (field_text ':' stamp.second _ _).trans ?_
  rfl

/-- A fraction of at most three digits is one of milliseconds. -/
theorem milliseconds?_short (short : fraction.width ≤ 3) :
    milliseconds? (fraction.text ++ ['Z']) = some (fraction.microsecond, ['Z']) := by
  cases fraction with
  | none => rfl
  | @digits width some few digits =>
    simp only [Fraction.width] at short
    have length := digits.length_eq
    -- three characters are looked at, so with fewer digits the `Z` can be one of them, but no digit follows
    obtain ⟨last, taken⟩ : ∃ last, (digits.text ++ ['Z']).take 3 = digits.text ++ last ∧
        ∀ c ∈ last.head?, Text.isDigit c = false := by
      refine ⟨['Z'].take (3 - width), ?_, ?_⟩
      · rw [List.take_append, List.take_of_length_le (by omega), length]
      · cases 3 - width with
        | zero => simp
        | succ more =>
          rintro c ⟨⟩
          decide
    have front := (Number.span_append digits.isDigit_text taken.2).1
    have filled : digits.text.isEmpty = false := by simpa using digits.ne_nil some
    have scale : Nat.pow 10 (3 - width) * 1000 = 10 ^ (6 - width) := by
      have split : 6 - width = 3 - width + 3 := by omega
      rw [split, Nat.pow_add]
      rfl
    simp only [milliseconds?, Fraction.text, List.cons_append, taken.1, front, filled, length, Fraction.microsecond,
      List.drop_left' length, Nat.mul_assoc, scale, Digits.value]
    rfl

/-- The fields of a stamp with such a fraction are read, whether or not they are in range. -/
theorem fullFields?_short (short : fraction.width ≤ 3) :
    fullFields? (stamp.text (fraction.text ++ ['Z'])) = some (stamp.moment fraction.microsecond) := by
  rw [fullFields?_text, milliseconds?_short fraction short]
  rfl

/-- After three digits of a longer fraction there is more than the end. -/
theorem milliseconds?_long (long : 3 < fraction.width) :
    ∃ value rest, milliseconds? (fraction.text ++ ['Z']) = some (value, rest) ∧ rest ≠ ['Z'] := by
  cases fraction with
  | none => cases long
  | @digits width some few digits =>
    simp only [Fraction.width] at long
    have length := digits.length_eq
    have three : (digits.text ++ ['Z']).take 3 = digits.text.take 3 := List.take_append_of_le_length (by omega)
    have front : (digits.text.take 3).takeWhile Text.isDigit = digits.text.take 3 := by
      have all : ∀ c ∈ digits.text.take 3, Text.isDigit c = true := fun c member =>
        digits.isDigit_text c (List.mem_of_mem_take member)
      simpa using (Number.span_append all (by simp : ∀ c ∈ ([] : List Char).head?, Text.isDigit c = false)).1
    have filled : (digits.text.take 3).isEmpty = false := by simpa using digits.ne_nil some
    refine ⟨ofDigits (digits.text.take 3) * Nat.pow 10 (3 - (digits.text.take 3).length) * 1000,
      (digits.text ++ ['Z']).drop (digits.text.take 3).length, ?_, ?_⟩
    · simp only [milliseconds?, Fraction.text, List.cons_append, three, front, filled]
      rfl
    · intro same
      have count := congrArg List.length same
      simp [length] at count
      omega

/-! ### The general notation -/

theorem spellUtc_append (a b : List Char) : spellUtc (a ++ b) = spellUtc a ++ spellUtc b := List.flatMap_append

theorem spellUtc_eq_self {text : List Char} (noMark : 'Z' ∉ text) : spellUtc text = text := by
  induction text with
  | nil => rfl
  | cons c text ih =>
    rw [List.mem_cons, not_or] at noMark
    rw [spellUtc, List.flatMap_cons, if_neg (Ne.symm noMark.1), ← spellUtc, ih noMark.2]
    rfl

theorem spellUtc_text :
    spellUtc (stamp.text (fraction.text ++ ['Z'])) = stamp.text (fraction.text ++ "+00:00".toList) := by
  have noMark : ∀ {width : Nat} (digits : Digits width), 'Z' ∉ digits.text := fun digits => digits.notMem (by decide)
  have noMarkInside : 'Z' ∉ fraction.text := by
    cases fraction with
    | none => simp [Fraction.text]
    | digits some few digits => simp [Fraction.text, noMark]
  have noMarkBefore : 'Z' ∉ stamp.text fraction.text := by
    simp [Stamp.text, Stamp.dateText, Stamp.clockText, noMark, noMarkInside]
  have offset : spellUtc ['Z'] = "+00:00".toList := by
    rw [spellUtc, List.flatMap_singleton, if_pos rfl]
  rw [Stamp.text_append, spellUtc_append, spellUtc_eq_self noMarkBefore, offset, ← Stamp.text_append]

theorem dateLength?_text (tail : List Char) :
    7 ≤ (stamp.text tail).length ∧ Time.Iso.dateLength? (stamp.text tail) = some 10 := by
  have year := stamp.year.length_eq
  have month := stamp.month.length_eq
  have day := stamp.day.length_eq
  have hyphen : (stamp.text tail)[4]? = some '-' := by
    simp [Stamp.text, Stamp.dateText, year]
  have noWeek : (stamp.text tail)[5]? ≠ some 'W' := by
    obtain ⟨c, rest, split⟩ := List.exists_cons_of_ne_nil (stamp.month.ne_nil (by decide))
    have digit := stamp.month.isDigit c (by simp [split])
    have at5 : (stamp.text tail)[5]? = some c := by
      simp [Stamp.text, Stamp.dateText, split, List.getElem?_append_right, year]
    rw [at5]
    rintro ⟨⟩
    exact absurd digit (by decide)
  have long : 7 < (stamp.text tail).length := by
    simp [Stamp.text, Stamp.dateText, year, month, day]
    omega
  refine ⟨by omega, ?_⟩
  simp only [Time.Iso.dateLength?]
  rw [if_neg (by omega), if_pos hyphen, if_neg noWeek]

theorem date?_text (tail : List Char) (microsecond : Nat) :
    Time.Iso.date? 10 (stamp.text tail) = some (stamp.moment microsecond).date := by
  simp only [Stamp.text, Stamp.dateText, List.append_assoc, List.cons_append, Time.Iso.date?]
  simp only [Digits.takeNumber?, Option.bind_eq_bind, Option.bind_some, List.head?_cons, List.tail_cons, decide_true, if_true]
  split
  · rename_i rest week
    have start : stamp.month.text.head? = some 'W' := by
      rw [← List.head?_append_of_ne_nil _ (stamp.month.ne_nil (by decide)), week, List.head?_cons]
    exact absurd (List.mem_of_head? start) (stamp.month.notMem (by decide))
  · rfl

theorem afterField_colon {rest : List Char} (more : rest ≠ []) (followed : Bool) :
    Time.Iso.afterField followed true (':' :: rest) = .field rest := by
  simp [Time.Iso.afterField, more]

theorem afterField_point {rest : List Char} (more : rest ≠ []) (followed : Bool) :
    Time.Iso.afterField followed true ('.' :: rest) = .fraction rest := by
  simp [Time.Iso.afterField, more]

theorem fraction?_digits {width : Nat} (few : width ≤ 6) (digits : Digits width) (followed : Bool) (clock : Time.Iso.Clock) :
    Time.Iso.fraction? followed clock digits.text =
      some { clock with microsecond := digits.value * 10 ^ (6 - width), leftOver := followed } := by
  have whole := digits.takeNumber? []
  rw [List.append_nil] at whole
  simp [Time.Iso.fraction?, digits.length_eq, Nat.min_eq_right few, whole, Time.Iso.goesOn]

theorem clock?_text (followed : Bool) :
    Time.Iso.clock? followed (stamp.clockText ++ fraction.text) =
      some ⟨stamp.hour.value, stamp.minute.value, stamp.second.value, fraction.microsecond, followed⟩ := by
  have more : ∀ (digits : Digits 2) (rest : List Char), digits.text ++ rest ≠ [] := fun digits rest =>
    List.append_ne_nil_of_left_ne_nil (digits.ne_nil (by decide)) rest
  simp only [Stamp.clockText, List.append_assoc, List.cons_append, Time.Iso.clock?, Digits.takeNumber?,
    Option.bind_eq_bind, Option.bind_some, List.head?_cons, decide_true, afterField_colon (more _ _)]
  cases fraction with
  | none => rfl
  | digits some few digits =>
    simp only [Fraction.text, afterField_point (digits.ne_nil some), fraction?_digits few, Fraction.microsecond]

theorem time?_text :
    Time.Iso.time? (stamp.clockText ++ fraction.text ++ "+00:00".toList) =
      some (⟨stamp.hour.value, stamp.minute.value, stamp.second.value, fraction.microsecond, true⟩, some 0) := by
  have digit : ∀ {width : Nat} (digits : Digits width), ∀ c ∈ digits.text, (!Time.Iso.startsOffset c) = true := by
    intro width digits c member
    have differs : c ≠ '+' ∧ c ≠ '-' ∧ c ≠ 'Z' := by
      refine ⟨?_, ?_, ?_⟩ <;> rintro rfl <;> exact digits.notMem (by decide) member
    simp [Time.Iso.startsOffset, differs]
  have inside : ∀ c ∈ fraction.text, (!Time.Iso.startsOffset c) = true := by
    cases fraction with
    | none => simp [Fraction.text]
    | digits some few digits =>
      simp only [Fraction.text, List.forall_mem_cons]
      exact ⟨by decide, digit digits⟩
  have own : ∀ c ∈ stamp.clockText ++ fraction.text, (!Time.Iso.startsOffset c) = true := by
    simp only [Stamp.clockText, List.forall_mem_append, List.forall_mem_cons]
    exact ⟨⟨⟨digit _, by decide, digit _⟩, by decide, digit _⟩, inside⟩
  have stop : ∀ c ∈ "+00:00".toList.head?, (!Time.Iso.startsOffset c) = false := by
    rintro _ ⟨⟩
    rfl
  obtain ⟨take, drop⟩ := @Number.span_append (!Time.Iso.startsOffset ·) _ "+00:00".toList own stop
  have offset : Time.Iso.offset? "+00:00".toList = some 0 := by decide +kernel
  have more : "+00:00".toList.isEmpty = false := rfl
  simp only [Time.Iso.time?, take, drop, more, clock?_text, offset, Bool.not_false]
  rfl

/-- A stamp with a fraction and the offset of UTC is read in the general notation, if its fields are in range. -/
theorem read?_text :
    Time.Iso.read? (stamp.text (fraction.text ++ "+00:00".toList)) = (stamp.moment fraction.microsecond).checked? := by
  obtain ⟨long, taken⟩ := dateLength?_text stamp (fraction.text ++ "+00:00".toList)
  have length : (stamp.dateText ++ ['T']).length = 11 := by
    simp [Stamp.dateText, Digits.length_eq]
  have rest : (stamp.text (fraction.text ++ "+00:00".toList)).drop 11 =
      stamp.clockText ++ fraction.text ++ "+00:00".toList := by
    have split : stamp.text (fraction.text ++ "+00:00".toList) =
        (stamp.dateText ++ ['T']) ++ (stamp.clockText ++ fraction.text ++ "+00:00".toList) := by simp [Stamp.text]
    rw [split, List.drop_left' length]
  have more : ¬ (stamp.text (fraction.text ++ "+00:00".toList)).length ≤ 10 := by
    intro short
    have gone := List.drop_eq_nil_of_le (Nat.le_succ_of_le short)
    rw [rest] at gone
    simp at gone
  rw [Time.Iso.read?]
  simp only [Nat.not_lt.mpr long, if_false, taken, Option.bind_eq_bind, Option.bind_some,
    date?_text stamp _ fraction.microsecond, more, rest, time?_text]
  rfl

/-- In the general notation a stamp of UTC is read as what its fields say, if they are in range. -/
theorem generalDate?_text :
    generalDate? (stamp.text (fraction.text ++ ['Z'])) = (stamp.moment fraction.microsecond).checked? := by
  rw [generalDate?, spellUtc_text, read?_text]
  unfold Moment.checked?
  split <;> rfl

/-- A stamp of UTC is read as what its fields say, if they are in range. -/
theorem date?_stamp :
    date? (stamp.text (fraction.text ++ ['Z'])) = (stamp.moment fraction.microsecond).checked? := by
  by_cases short : fraction.width ≤ 3
  · rw [date?, fullFields?_short stamp fraction short]
  · -- a digit stands where the `Z` has to, so that the general notation decides
    obtain ⟨value, rest, taken, other⟩ := milliseconds?_long fraction (Nat.not_le.mp short)
    have none : fullFields? (stamp.text (fraction.text ++ ['Z'])) = none := by
      rw [fullFields?_text, taken]
      exact if_neg other
    rw [date?, none]
    exact generalDate?_text stamp fraction

/-! ### Which texts are stamps -/

theorem isDigit_ascii {c : Char} (ascii : c.toNat < 0x80) (digit : Text.isDigit c = true) : c.isDigit = true := by
  rw [Text.isDigit, Text.digitValue?, if_pos ascii] at digit
  by_contra other
  rw [if_neg other] at digit
  cases digit

theorem eq_cons_of_expect? {c : Char} {text rest : List Char} (met : expect? c text = some rest) : text = c :: rest := by
  cases text with
  | nil => cases met
  | cons first more =>
    rw [expect?] at met
    split at met
    · rename_i same
      cases met
      rw [same]
    · cases met

variable {text rest : List Char}

/-- Digits taken from a text of ASCII are its first characters. -/
theorem exists_digits (ascii : ∀ c ∈ text, c.toNat < 0x80) {width n : Nat}
    (taken : takeDigits? width text = some (n, rest)) : ∃ number : Digits width, text = number.text ++ rest := by
  rw [takeDigits?] at taken
  split at taken
  · rename_i held
    cases taken
    refine ⟨⟨text.take width, held.1, fun c member => ?_⟩, (List.take_append_drop width text).symm⟩
    exact isDigit_ascii (ascii c (List.mem_of_mem_take member)) (List.all_eq_true.mp held.2 c member)
  · cases taken

/-- What comes of a field in a text of ASCII comes of digits behind the sign. -/
theorem exists_field {α : Type} (ascii : ∀ c ∈ text, c.toNat < 0x80) {sign : Char} {width : Nat}
    {next : Nat × List Char → Option α} {result : α}
    (made : ((expect? sign text).bind fun behind => (takeDigits? width behind).bind next) = some result) :
    ∃ (number : Digits width) (n : Nat) (rest : List Char), text = sign :: (number.text ++ rest) ∧
      (∀ c ∈ rest, c.toNat < 0x80) ∧ next (n, rest) = some result := by
  obtain ⟨behind, met, field⟩ := Option.bind_eq_some_iff.mp made
  obtain ⟨⟨n, rest⟩, taken, later⟩ := Option.bind_eq_some_iff.mp field
  obtain rfl := eq_cons_of_expect? met
  have others := (List.forall_mem_cons.mp ascii).2
  obtain ⟨number, rfl⟩ := exists_digits others taken
  exact ⟨number, n, rest, rfl, (List.forall_mem_append.mp others).2, later⟩

/-- What is read as milliseconds in ASCII is a fraction of at most three digits. -/
theorem exists_fraction (ascii : ∀ c ∈ text, c.toNat < 0x80) {n : Nat} (taken : milliseconds? text = some (n, rest)) :
    ∃ fraction : Fraction, fraction.width ≤ 3 ∧ text = fraction.text ++ rest := by
  rw [milliseconds?.eq_def] at taken
  split at taken
  · rename_i more
    have front : (more.take 3).takeWhile Text.isDigit <+: more.take 3 := List.takeWhile_prefix _
    generalize digits : (more.take 3).takeWhile Text.isDigit = found at taken front
    have few : found.length ≤ 3 := front.length_le.trans (List.length_take_le 3 more)
    obtain ⟨behind, split⟩ := front.trans (List.take_prefix 3 more)
    have inDigits : ∀ c ∈ found, c.isDigit = true := by
      intro c member
      refine isDigit_ascii (ascii c (List.mem_cons_of_mem _ ?_)) ?_
      · rw [← split]
        exact List.mem_append_left _ member
      · rw [← digits] at member
        exact List.mem_takeWhile_imp member
    cases found with
    | nil => cases taken
    | cons first others =>
      cases taken
      refine ⟨.digits (Nat.succ_pos _) (few.trans (by decide)) ⟨first :: others, rfl, inDigits⟩, few, ?_⟩
      rw [← split, List.drop_left]
      rfl
  · cases taken
    exact ⟨.none, Nat.zero_le 3, rfl⟩

/-- A text of the form `YYYY-MM-DDTHH:MM:SSZ`, with up to three digits of a second behind a point. -/
def IsTimestamp (text : List Char) : Prop :=
  ∃ (stamp : Stamp) (fraction : Fraction), fraction.width ≤ 3 ∧ text = stamp.text (fraction.text ++ ['Z'])

theorem isTimestamp_of_fullFields? (ascii : ∀ c ∈ text, c.toNat < 0x80) {moment : Moment}
    (found : fullFields? text = some moment) : IsTimestamp text := by
  unfold fullFields? at found
  obtain ⟨⟨_, _⟩, taken, fromMonth⟩ := Option.bind_eq_some_iff.mp found
  obtain ⟨year, rfl⟩ := exists_digits ascii taken
  obtain ⟨month, _, _, rfl, asciiDay, fromDay⟩ := exists_field (List.forall_mem_append.mp ascii).2 fromMonth
  obtain ⟨day, _, _, rfl, asciiHour, fromHour⟩ := exists_field asciiDay fromDay
  obtain ⟨hour, _, _, rfl, asciiMinute, fromMinute⟩ := exists_field asciiHour fromHour
  obtain ⟨minute, _, _, rfl, asciiSecond, fromSecond⟩ := exists_field asciiMinute fromMinute
  obtain ⟨second, _, _, rfl, asciiFraction, fromFraction⟩ := exists_field asciiSecond fromSecond
  obtain ⟨⟨_, last⟩, parts, ended⟩ := Option.bind_eq_some_iff.mp fromFraction
  obtain ⟨fraction, short, rfl⟩ := exists_fraction asciiFraction parts
  have final : last = ['Z'] := (Option.ite_none_right_eq_some.mp ended).1
  refine ⟨⟨year, month, day, hour, minute, second⟩, fraction, short, ?_⟩
  simp [Stamp.text, Stamp.dateText, Stamp.clockText, final]

/-- **A text of ASCII is read by its fields exactly if it is a timestamp, and a timestamp is read as the date, or refused
with the fault, that the general notation alone gives.** -/
theorem date_timestamp (ascii : ∀ c ∈ text, c.toNat < 0x80) :
    ((fullFields? text).isSome = true ↔ IsTimestamp text) ∧
      (IsTimestamp text → date text = (generalDate? text).elim (.error (badDate text)) .ok) := by
  constructor
  · constructor
    · intro some
      obtain ⟨moment, found⟩ := Option.isSome_iff_exists.mp some
      exact isTimestamp_of_fullFields? ascii found
    · rintro ⟨stamp, fraction, short, rfl⟩
      rw [fullFields?_short stamp fraction short]
      rfl
  · rintro ⟨stamp, fraction, _, rfl⟩
    rw [date, date?_stamp, generalDate?_text]
    cases (stamp.moment fraction.microsecond).checked? <;> rfl

/-- The last day of a leap year's February, and the same day of another year. -/
theorem date_timestamp_february :
    (∀ c ∈ "2000-02-29T23:59:59.07Z".toList, c.toNat < 0x80) ∧
      date "2000-02-29T23:59:59.07Z".toList = .ok ⟨⟨2000, 2, 29⟩, 23, 59, 59, 70000, some 0⟩ ∧
      (∀ c ∈ "2001-02-29T23:59:59.07Z".toList, c.toNat < 0x80) ∧
      date "2001-02-29T23:59:59.07Z".toList = .error (badDate "2001-02-29T23:59:59.07Z".toList) := by
  have leap : ∀ c ∈ "2000-02-29T23:59:59.07Z".toList, c.toNat < 0x80 := by decide
  have common : ∀ c ∈ "2001-02-29T23:59:59.07Z".toList, c.toNat < 0x80 := by decide
  have leapDay : generalDate? "2000-02-29T23:59:59.07Z".toList = some ⟨⟨2000, 2, 29⟩, 23, 59, 59, 70000, some 0⟩ := by
    decide +kernel
  have noDay : generalDate? "2001-02-29T23:59:59.07Z".toList = none := by decide +kernel
  refine ⟨leap, ?_, common, ?_⟩
  · rw [(date_timestamp leap).2 ((date_timestamp leap).1.mp (by decide +kernel)), leapDay]
    rfl
  · rw [(date_timestamp common).2 ((date_timestamp common).1.mp (by decide +kernel)), noDay]
    rfl

end ResourceQuery.Literal
