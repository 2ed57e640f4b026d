import Mathlib.Tactic.Positivity
import ResourceQuery.Proofs.Literal.Plain
import ResourceQuery.Proofs.Number.Shortest

/-!
Decimals as they are laid out. However a layout divides digits between the parts of a decimal, the
decimal has the value of the digits (`Layout.text_decimal`), and so what `Binary64.text` writes for
a finite number is a decimal that rounds to the number (`Binary64.text_decimal`) and is read as it
(`Scientific.read?_text`).
-/
namespace ResourceQuery.Number
open ResourceQuery.Literal (digitValue?_digit ofDigits_eq ofDigits_digits digits_isDigit digits_ne_nil)

theorem isDigit_of_ascii {c : Char} (digit : c.isDigit = true) : Text.isDigit c = true := by
  rw [Text.isDigit, digitValue?_digit digit]
  rfl

theorem ofDigits_append {a b : List Char} (first : ∀ c ∈ a, c.isDigit = true) (last : ∀ c ∈ b, c.isDigit = true) :
    ofDigits (a ++ b) = 10 ^ b.length * ofDigits a + ofDigits b := by
  rw [ofDigits_eq (List.forall_mem_append.mpr ⟨first, last⟩), ofDigits_eq first, ofDigits_eq last,
    Nat.ofDigitChars_append, Nat.ofDigitChars_eq_ofDigitChars_zero]

theorem zeros_isDigit (count : Nat) : ∀ c ∈ List.replicate count '0', c.isDigit = true := by
  intro c member
  obtain rfl := List.eq_of_mem_replicate member
  decide

theorem ofDigits_zeros (count : Nat) : ofDigits (List.replicate count '0') = 0 := by
  rw [ofDigits_eq (zeros_isDigit count), Nat.ofDigitChars_replicate_zero, Nat.mul_zero]

theorem padded_isDigit (width n : Nat) : ∀ c ∈ padded width n, c.isDigit = true :=
  List.forall_mem_append.mpr ⟨zeros_isDigit _, fun _ => digits_isDigit⟩

theorem padded_ne_nil (width n : Nat) : padded width n ≠ [] :=
  List.append_ne_nil_of_right_ne_nil _ (digits_ne_nil n)

theorem ofDigits_padded (width n : Nat) : ofDigits (padded width n) = n := by
  rw [padded, ofDigits_append (zeros_isDigit _) fun _ => digits_isDigit, ofDigits_zeros, ofDigits_digits,
    Nat.mul_zero, Nat.zero_add]

/-- The digits of a positive number do not start with a zero. -/
theorem digits_head {n : Nat} (pos : n ≠ 0) : (digits n).head? ≠ some '0' := by
  have base : 1 < 10 := by decide
  unfold digits
  induction n using Nat.base_induction 10 base with
  | single n small =>
    rw [Nat.toDigits_of_lt_base small, List.head?_cons]
    have each : ∀ n < 10, n ≠ 0 → some (Nat.digitChar n) ≠ some '0' := by decide
    exact each n small pos
  | digit n last small more ih =>
    rw [← Nat.toDigits_append_toDigits base more small, List.head?_append_of_ne_nil _ Nat.toDigits_ne_nil]
    exact ih (by omega)

/-- A decimal as it is laid out: digits, digits after a point unless there are none, and a power of
ten if there is one. -/
structure Decimal where
  whole : List Char
  fraction : List Char
  power : Option Int

namespace Decimal

/-- The text of a power of ten. -/
def powerText : Option Int → List Char
  | none => []
  | some power => 'e' :: (if power < 0 then '-' else '+') :: padded layout.exponentDigits power.natAbs

/-- The text of the digits after the point. -/
def fractionText (fraction : List Char) : List Char := if fraction = [] then [] else '.' :: fraction

def text (decimal : Decimal) : List Char :=
  decimal.whole ++ fractionText decimal.fraction ++ powerText decimal.power

/-- The digits of a decimal, as a number. -/
def coefficient (decimal : Decimal) : Nat := ofDigits (decimal.whole ++ decimal.fraction)

/-- What the last digit counts, as a power of ten. -/
def unit (decimal : Decimal) : Int := decimal.power.getD 0 - decimal.fraction.length

/-- A decimal that starts with one zero or with another digit. -/
structure Spelled (decimal : Decimal) : Prop where
  whole : ∀ c ∈ decimal.whole, c.isDigit = true
  fraction : ∀ c ∈ decimal.fraction, c.isDigit = true
  filled : decimal.whole ≠ []
  start : decimal.whole = ['0'] ∨ decimal.whole.head? ≠ some '0'

/-- A decimal that is no integer in form. -/
structure Valid (decimal : Decimal) : Prop extends decimal.Spelled where
  marked : decimal.fraction ≠ [] ∨ decimal.power ≠ none

/-- Whether a decimal stands for digits whose first one counts `10 ^ magnitude`. -/
structure Shows (decimal : Decimal) (digits : List Char) (magnitude : Int) : Prop extends decimal.Valid where
  value : (decimal.coefficient * 10 ^ decimal.unit : ℚ) = ofDigits digits * 10 ^ (magnitude + 1 - digits.length)

section

variable {text : List Char} (digits : ∀ c ∈ text, c.isDigit = true) (filled : text ≠ [])
  (head : text.head? ≠ some '0') (magnitude : Int)
include digits filled

/-- Digits behind a zero, a point and more zeros. -/
theorem shows_small (negative : magnitude < 0) :
    Shows ⟨['0'], List.replicate (-magnitude - 1).toNat '0' ++ text, none⟩ text magnitude where
  whole := (by decide : ∀ c ∈ ['0'], c.isDigit = true)
  fraction := List.forall_mem_append.mpr ⟨zeros_isDigit _, digits⟩
  filled := by simp
  start := .inl rfl
  marked := .inl (List.append_ne_nil_of_right_ne_nil _ filled)
  value := by
    have zeros : ofDigits ('0' :: List.replicate (-magnitude - 1).toNat '0') = 0 :=
      ofDigits_zeros ((-magnitude - 1).toNat + 1)
    have same : ofDigits (['0'] ++ (List.replicate (-magnitude - 1).toNat '0' ++ text)) = ofDigits text := by
      rw [← List.append_assoc, ofDigits_append (List.forall_mem_append.mpr ⟨by decide, zeros_isDigit _⟩) digits,
        List.singleton_append, zeros, Nat.mul_zero, Nat.zero_add]
    have unit : (0 : Int) - ((List.replicate (-magnitude - 1).toNat '0' ++ text).length : Nat) =
        magnitude + 1 - text.length := by
      rw [List.length_append, List.length_replicate]
      omega
    simp only [coefficient, Decimal.unit, same, Option.getD_none, unit]

include head

/-- Digits before zeros, a point and a zero. -/
theorem shows_whole (length : (text.length : Int) ≤ magnitude + 1) :
    Shows ⟨text ++ List.replicate (magnitude.toNat + 1 - text.length) '0', ['0'], none⟩ text magnitude where
  whole := List.forall_mem_append.mpr ⟨digits, zeros_isDigit _⟩
  fraction := (by decide : ∀ c ∈ ['0'], c.isDigit = true)
  filled := List.append_ne_nil_of_left_ne_nil filled _
  start := by
    rw [List.head?_append_of_ne_nil _ filled]
    exact .inr head
  marked := .inl (by simp)
  value := by
    have zeros : List.replicate (magnitude.toNat + 1 - text.length) '0' ++ ['0'] =
        List.replicate (magnitude.toNat + 1 - text.length + 1) '0' := List.replicate_succ'.symm
    have same : ofDigits (text ++ List.replicate (magnitude.toNat + 1 - text.length) '0' ++ ['0']) =
        10 ^ (magnitude.toNat + 1 - text.length + 1) * ofDigits text := by
      rw [List.append_assoc, zeros, ofDigits_append digits (zeros_isDigit _), ofDigits_zeros, List.length_replicate,
        Nat.add_zero]
    have some := List.length_pos_iff.mpr filled
    have unit : magnitude + 1 - text.length = ((magnitude.toNat + 1 - text.length + 1 : Nat) : Int) + (0 - 1) := by omega
    simp only [coefficient, Decimal.unit, same, Option.getD_none, List.length_singleton]
    rw [unit, zpow_add₀ (by norm_num), zpow_natCast]
    push_cast
    ring

/-- Digits with a point after the first few of them, and a power of ten for the others. -/
theorem shows_point (count : Nat) (inside : count < text.length) (power : Option Int)
    (place : power.getD 0 = magnitude - count) (marked : text.drop (count + 1) ≠ [] ∨ power ≠ none) :
    Shows ⟨text.take (count + 1), text.drop (count + 1), power⟩ text magnitude where
  whole c member := digits c (List.mem_of_mem_take member)
  fraction c member := digits c (List.mem_of_mem_drop member)
  filled := by simp [filled]
  start := by
    rw [List.head?_take]
    exact .inr (by simpa using head)
  marked := marked
  value := by
    have unit : power.getD 0 - ((text.drop (count + 1)).length : Nat) = magnitude + 1 - text.length := by
      rw [List.length_drop]
      omega
    simp only [coefficient, Decimal.unit, List.take_append_drop, unit]

end

end Decimal

/-- However digits are laid out, they stand for the same number. -/
theorem Layout.text_decimal {n : Nat} (pos : n ≠ 0) (magnitude : Int) :
    ∃ decimal : Decimal, layout.text (digits n) magnitude = decimal.text ∧ decimal.Shows (digits n) magnitude := by
  have each : ∀ c ∈ digits n, c.isDigit = true := fun _ => digits_isDigit
  have filled := digits_ne_nil n
  have head := digits_head pos
  generalize digits n = text at each filled head
  unfold Layout.text
  split
  · split
    · rename_i negative
      refine ⟨_, ?_, Decimal.shows_small each filled magnitude negative⟩
      simp [Decimal.text, Decimal.fractionText, Decimal.powerText, filled]
    · simp only [List.isEmpty_iff]
      by_cases whole : text.drop (magnitude.toNat + 1) = []
      · have length : text.length ≤ magnitude.toNat + 1 := by simpa using whole
        refine ⟨_, ?_, Decimal.shows_whole each filled head magnitude (by omega)⟩
        simp [Decimal.text, Decimal.fractionText, Decimal.powerText, whole, List.take_of_length_le length]
      · have length : magnitude.toNat + 1 < text.length := by simpa using whole
        have none : magnitude.toNat + 1 - text.length = 0 := by omega
        refine ⟨_, ?_, Decimal.shows_point each filled head magnitude magnitude.toNat (by omega) .none ?_ (.inl whole)⟩
        · simp [Decimal.text, Decimal.fractionText, Decimal.powerText, whole, none]
        · rw [Option.getD_none]
          omega
  · have some := List.length_pos_iff.mpr filled
    refine ⟨_, ?_, Decimal.shows_point each filled head magnitude 0 some (.some magnitude) (by simp) (.inr (by simp))⟩
    by_cases single : text.length ≤ 1
    · simp [Decimal.text, Decimal.fractionText, Decimal.powerText, single, List.take_of_length_le single,
        List.drop_eq_nil_of_le single]
    · have more : text.tail ≠ [] := by
        rw [ne_eq, ← List.drop_one, List.drop_eq_nil_iff]
        exact single
      simp [Decimal.text, Decimal.fractionText, Decimal.powerText, single, more]

/-- A sign in front of a text. -/
def withSign (negative : Bool) (text : List Char) : List Char := if negative then '-' :: text else text

/-- The floating point number that a decimal with a sign rounds to. -/
def Decimal.value (negative : Bool) (decimal : Decimal) : Binary64 :=
  Scientific.value ⟨negative, decimal.whole, decimal.fraction, decimal.power.getD 0⟩

theorem Canonical.zero {exponent : Int} (canonical : Binary64.Canonical 0 exponent) :
    exponent = Binary64.minExponent := by
  obtain ⟨_, least, _, normal⟩ := canonical
  have top : ¬ Binary64.minExponent < exponent := fun above => absurd (normal above) (by norm_num)
  omega

/-- **What is written for a finite number rounds to the number.** -/
theorem Binary64.text_decimal (spelling : Spelling) (negative : Bool) {mantissa : Nat} {exponent : Int}
    (canonical : Canonical mantissa exponent) :
    ∃ decimal : Decimal, (text spelling (.finite negative mantissa exponent)).toList = withSign negative decimal.text ∧
      decimal.Valid ∧ decimal.value negative = .finite negative mantissa exponent := by
  simp only [text, String.toList_ofList]
  by_cases zero : mantissa = 0
  · subst zero
    obtain rfl := Canonical.zero canonical
    exact ⟨⟨['0'], ['0'], none⟩, rfl, ⟨⟨by decide, by decide, by decide, by decide⟩, by decide⟩, rfl⟩
  rw [if_neg zero]
  have near := shortest_reads canonical zero
  have split := dropZeros_eq 17 (shortest mantissa exponent).1
  generalize shortest mantissa exponent = found at near split ⊢
  obtain ⟨point, step⟩ := found
  generalize dropZeros 17 point = dropped at near split ⊢
  obtain ⟨coefficient, zeros⟩ := dropped
  simp only at near split ⊢
  have cast : (point : ℚ) = coefficient * 10 ^ (zeros : Int) := by
    rw [← split, zpow_natCast]
    push_cast
    ring
  have some : coefficient ≠ 0 := by
    rintro rfl
    obtain ⟨low, _⟩ := reads_range canonical zero near
    rw [cast, Nat.cast_zero, zero_mul, zero_mul] at low
    exact absurd low (not_le.mpr (by positivity))
  obtain ⟨decimal, spelled, shows⟩ := Layout.text_decimal some (step + zeros + (digits coefficient).length - 1)
  refine ⟨decimal, by rw [spelled, withSign], shows.toValid, ?_⟩
  refine ofScientific_eq_finite negative canonical zero ?_
  have same := shows.value
  rw [ofDigits_digits, show step + zeros + (digits coefficient).length - 1 + 1 - (digits coefficient).length =
    zeros + step by ring, zpow_add₀ (by norm_num), ← mul_assoc, ← cast] at same
  rw [← same] at near
  exact near

/-! ### Reading -/

/-- Characters of a class are taken up to the first one that is not of it. -/
theorem span_append {isIn : Char → Bool} {front rest : List Char} (all : ∀ c ∈ front, isIn c = true)
    (stop : ∀ c ∈ rest.head?, isIn c = false) :
    (front ++ rest).takeWhile isIn = front ∧ (front ++ rest).dropWhile isIn = rest := by
  rw [List.takeWhile_append_of_pos all, List.dropWhile_append_of_pos all]
  cases rest with
  | nil => exact ⟨List.append_nil _, rfl⟩
  | cons c rest =>
    have last : isIn c = false := stop c rfl
    rw [List.takeWhile_cons_of_neg (by simp [last]), List.dropWhile_cons_of_neg (by simp [last]), List.append_nil]
    exact ⟨rfl, rfl⟩

theorem takeSign_withSign (negative : Bool) {text : List Char} (filled : text ≠ [])
    (digit : ∀ c ∈ text.head?, c.isDigit = true) : takeSign (withSign negative text) = (negative, text) := by
  cases negative with
  | true => rfl
  | false =>
    cases text with
    | nil => exact absurd rfl filled
    | cons c rest =>
      have first : c.isDigit = true := digit c rfl
      unfold takeSign
      split
      · rename_i same
        cases same
        exact absurd first (by decide)
      · rename_i same
        cases same
        exact absurd first (by decide)
      · rfl

namespace Decimal

theorem Spelled.head {decimal : Decimal} (spelled : decimal.Spelled) : ∀ c ∈ decimal.text.head?, c.isDigit = true := by
  intro c member
  rw [text, List.append_assoc, List.head?_append_of_ne_nil _ spelled.filled] at member
  exact spelled.whole c (List.mem_of_head? member)

theorem Spelled.text_ne_nil {decimal : Decimal} (spelled : decimal.Spelled) : decimal.text ≠ [] := by
  rw [text, List.append_assoc]
  exact List.append_ne_nil_of_left_ne_nil spelled.filled _

theorem exponent?_powerText (power : Option Int) : Scientific.exponent? (powerText power) = some (power.getD 0) := by
  cases power with
  | none => rfl
  | some power =>
    have digits : (padded layout.exponentDigits power.natAbs).all Text.isDigit = true :=
      List.all_eq_true.mpr fun c member => isDigit_of_ascii (padded_isDigit _ _ c member)
    have sign : takeSign ((if power < 0 then '-' else '+') :: padded layout.exponentDigits power.natAbs) =
        (decide (power < 0), padded layout.exponentDigits power.natAbs) := by
      split <;> simp_all [takeSign]
    have value : signed (decide (power < 0)) power.natAbs = power := by
      simp only [signed, decide_eq_true_eq]
      omega
    simp [powerText, Scientific.exponent?, sign, padded_ne_nil, digits, ofDigits_padded, value]

theorem powerText_stop (power : Option Int) : ∀ c ∈ (powerText power).head?, Text.isDigit c = false := by
  cases power with
  | none => simp [powerText]
  | some power =>
    rintro c ⟨⟩
    decide

/-- A decimal is read as it is written. -/
theorem Valid.read? {decimal : Decimal} (valid : decimal.Valid) (negative : Bool) :
    Scientific.read? (withSign negative decimal.text) =
      some ⟨negative, decimal.whole, decimal.fraction, decimal.power.getD 0⟩ := by
  have sign := takeSign_withSign negative valid.toSpelled.text_ne_nil valid.toSpelled.head
  have whole : ∀ c ∈ decimal.whole, Text.isDigit c = true := fun c member => isDigit_of_ascii (valid.whole c member)
  have fraction : ∀ c ∈ decimal.fraction, Text.isDigit c = true := fun c member =>
    isDigit_of_ascii (valid.fraction c member)
  have last := powerText_stop decimal.power
  have power := exponent?_powerText decimal.power
  rw [text, List.append_assoc] at sign
  simp only [Scientific.read?, text, List.append_assoc, sign]
  by_cases none : decimal.fraction = []
  · obtain ⟨take, drop⟩ := span_append whole last
    have spelled : fractionText decimal.fraction = [] := if_pos none
    simp only [spelled, List.nil_append, take, drop]
    rw [none]
    cases written : decimal.power with
    | none => simp [powerText, Scientific.exponent?, valid.filled]
    | some exponent =>
      rw [written, powerText] at power
      simp [powerText, valid.filled, power]
  · have spelled : fractionText decimal.fraction = '.' :: decimal.fraction := if_neg none
    have point : Text.isDigit '.' = false := by decide
    obtain ⟨take, drop⟩ := @span_append _ _ ('.' :: (decimal.fraction ++ powerText decimal.power)) whole (by simp [point])
    obtain ⟨takeLast, dropLast⟩ := span_append fraction last
    simp [spelled, take, drop, takeLast, dropLast, valid.filled, power]

end Decimal
end ResourceQuery.Number
