import Mathlib.Algebra.Order.Field.Power
import Mathlib.Tactic.FieldSimp
import Mathlib.Tactic.Linarith
import Mathlib.Tactic.NormNum
import Mathlib.Tactic.Positivity
import Mathlib.Tactic.Ring
import ResourceQuery.Number.Binary64

/-!
Rounding to floating point numbers. The fractions between the half-way points around a canonical
number, the points included if its mantissa is even, are the ones that `Reads` describes, and
`ofRatio` and `ofScientific` round each of them to the number. What they give is canonical.
-/
namespace ResourceQuery.Number.Binary64

/-- The mantissa and the exponent of a finite number: 53 bits, or fewer with the least exponent. -/
structure Canonical (mantissa : Nat) (exponent : Int) : Prop where
  small : mantissa < 2 ^ 53
  least : minExponent ≤ exponent
  most : exponent ≤ maxExponent
  normal : minExponent < exponent → 2 ^ 52 ≤ mantissa

/-- How far below a number, in units of its last bit, the numbers start that are rounded to it. -/
def gapBelow (mantissa : Nat) (exponent : Int) : ℚ :=
  if mantissa = 2 ^ 52 ∧ minExponent < exponent then 1 / 4 else 1 / 2

/-- The fractions that read as `mantissa * 2 ^ exponent`. -/
structure Reads (mantissa : Nat) (exponent : Int) (x : ℚ) : Prop where
  low : (mantissa - gapBelow mantissa exponent) * 2 ^ exponent ≤ x
  high : x ≤ (mantissa + 1 / 2) * 2 ^ exponent
  ends : mantissa % 2 = 1 →
    (mantissa - gapBelow mantissa exponent) * 2 ^ exponent < x ∧ x < (mantissa + 1 / 2) * 2 ^ exponent

theorem roundQuotient_eq_nat {numerator denominator m : Nat} (pos : 0 < denominator)
    (low : 2 * (m * denominator) ≤ 2 * numerator + denominator)
    (high : 2 * numerator ≤ 2 * (m * denominator) + denominator)
    (ends : m % 2 = 1 → 2 * (m * denominator) < 2 * numerator + denominator ∧
      2 * numerator < 2 * (m * denominator) + denominator) :
    roundQuotient numerator denominator = m := by
  have split := Nat.div_add_mod numerator denominator
  have rest := Nat.mod_lt numerator pos
  unfold roundQuotient
  generalize numerator / denominator = quotient at split ⊢
  generalize numerator % denominator = remainder at split rest ⊢
  rw [Nat.mul_comm] at split
  obtain below | rfl | rfl | above : m < quotient ∨ m = quotient ∨ m = quotient + 1 ∨ quotient + 2 ≤ m := by omega
  · have bound := Nat.mul_le_mul_right denominator (show m + 1 ≤ quotient from below)
    rw [Nat.add_mul] at bound
    omega
  · simp only
    split
    · rfl
    · rename_i notBelow
      split
      · omega
      · by_cases odd : m % 2 = 1
        · have strict := ends odd
          omega
        · omega
  · rw [Nat.add_mul] at low high ends
    simp only
    split
    · omega
    · split
      · rfl
      · by_cases odd : (quotient + 1) % 2 = 1
        · have strict := ends odd
          omega
        · omega
  · have bound := Nat.mul_le_mul_right denominator above
    rw [Nat.add_mul] at bound
    omega

/-- A quotient is rounded to a number at most one half away, and to one just one half away only if
that is even. -/
theorem roundQuotient_eq {numerator denominator m : Nat} (pos : 0 < denominator)
    (low : (m : ℚ) - 1 / 2 ≤ numerator / denominator) (high : (numerator / denominator : ℚ) ≤ m + 1 / 2)
    (ends : m % 2 = 1 → (m : ℚ) - 1 / 2 < numerator / denominator ∧ (numerator / denominator : ℚ) < m + 1 / 2) :
    roundQuotient numerator denominator = m := by
  have divisor : (0 : ℚ) < denominator := by exact_mod_cast pos
  rw [le_div_iff₀ divisor] at low
  rw [div_le_iff₀ divisor] at high
  rw [lt_div_iff₀ divisor, div_lt_iff₀ divisor] at ends
  refine roundQuotient_eq_nat pos ?_ ?_ fun odd => ?_
  · have scaled : (2 * (m * denominator) : ℚ) ≤ 2 * numerator + denominator := by linarith
    exact_mod_cast scaled
  · have scaled : (2 * numerator : ℚ) ≤ 2 * (m * denominator) + denominator := by linarith
    exact_mod_cast scaled
  · obtain ⟨above, below⟩ := ends odd
    have first : (2 * (m * denominator) : ℚ) < 2 * numerator + denominator := by linarith
    have second : (2 * numerator : ℚ) < 2 * (m * denominator) + denominator := by linarith
    exact ⟨by exact_mod_cast first, by exact_mod_cast second⟩

/-- A quotient is rounded to a number at most one half away. -/
theorem roundQuotient_near {numerator denominator : Nat} (pos : 0 < denominator) :
    (roundQuotient numerator denominator : ℚ) - 1 / 2 ≤ numerator / denominator ∧
      (numerator / denominator : ℚ) ≤ roundQuotient numerator denominator + 1 / 2 := by
  have divisor : (0 : ℚ) < denominator := by exact_mod_cast pos
  have split := Nat.div_add_mod numerator denominator
  have rest := Nat.mod_lt numerator pos
  have bounds : 2 * (roundQuotient numerator denominator * denominator) ≤ 2 * numerator + denominator ∧
      2 * numerator ≤ 2 * (roundQuotient numerator denominator * denominator) + denominator := by
    unfold roundQuotient
    generalize numerator / denominator = quotient at split ⊢
    generalize numerator % denominator = remainder at split rest ⊢
    rw [Nat.mul_comm] at split
    simp only
    split
    · omega
    · split
      · rw [Nat.add_mul]
        omega
      · obtain even | odd : quotient % 2 = 0 ∨ quotient % 2 = 1 := by omega
        · rw [even, Nat.add_zero]
          omega
        · rw [odd, Nat.add_mul]
          omega
  have first : (2 * (roundQuotient numerator denominator * denominator) : ℚ) ≤ 2 * numerator + denominator := by
    exact_mod_cast bounds.1
  have second : (2 * numerator : ℚ) ≤ 2 * (roundQuotient numerator denominator * denominator) + denominator := by
    exact_mod_cast bounds.2
  rw [le_div_iff₀ divisor, div_le_iff₀ divisor]
  constructor <;> linarith

theorem scale_pos (exponent : Int) : 0 < (scale exponent).1 ∧ 0 < (scale exponent).2 := by
  unfold scale
  split
  · exact ⟨Nat.pow_pos (by decide), Nat.one_pos⟩
  · exact ⟨Nat.one_pos, Nat.pow_pos (by decide)⟩

/-- A power is a factor of the numerator for a positive exponent, and else of the denominator. -/
theorem factor_eq {base : Nat} (some : base ≠ 0) (exponent : Int) :
    ((if 0 ≤ exponent then Nat.pow base exponent.toNat else 1 : Nat) : ℚ) =
      base ^ exponent * (if 0 ≤ exponent then 1 else Nat.pow base (-exponent).toNat : Nat) := by
  split
  · rename_i positive
    obtain ⟨n, rfl⟩ := Int.eq_ofNat_of_zero_le positive
    simp
  · rename_i negative
    obtain ⟨n, rfl⟩ : ∃ n : Nat, exponent = -(n : Int) := ⟨(-exponent).toNat, by omega⟩
    simp [some]

/-- The factors of a power of two. -/
theorem scale_eq (exponent : Int) : ((scale exponent).1 : ℚ) = 2 ^ exponent * (scale exponent).2 := by
  rw [scale, apply_ite Prod.fst, apply_ite Prod.snd]
  exact_mod_cast factor_eq two_ne_zero exponent

theorem scaled_quotient (numerator denominator : Nat) (exponent : Int) :
    ((numerator * (scale exponent).2 : Nat) : ℚ) / ((denominator * (scale exponent).1 : Nat) : ℚ) =
      numerator / denominator / 2 ^ exponent := by
  have factor : (0 : ℚ) < (scale exponent).2 := by exact_mod_cast (scale_pos exponent).2
  have power : (0 : ℚ) < 2 ^ exponent := by positivity
  push_cast
  rw [scale_eq, div_div]
  field_simp

/-- The exponent with which a fraction has 53 bits before the point. -/
def binade (numerator denominator : Nat) : Int :=
  let least : Int := (numerator.log2 : Int) - denominator.log2 - 53
  if Nat.pow 2 53 * (scale least).1 * denominator ≤ numerator * (scale least).2 then least + 1 else least

/-- A positive number between powers of two that are given by its binary digits. -/
theorem log2_bounds {n : Nat} (pos : 0 < n) : (2 : ℚ) ^ (n.log2 : Int) ≤ n ∧ (n : ℚ) < 2 ^ ((n.log2 : Int) + 1) := by
  have low := Nat.log2_self_le (Nat.ne_of_gt pos)
  have high := @Nat.lt_log2_self n
  constructor
  · rw [zpow_natCast]
    exact_mod_cast low
  · have power : (2 : ℚ) ^ ((n.log2 : Int) + 1) = ((2 ^ (n.log2 + 1) : Nat) : ℚ) := by
      push_cast
      rw [← zpow_natCast]
      push_cast
      rfl
    rw [power]
    exact_mod_cast high

theorem binade_spec {numerator denominator : Nat} (pos : 0 < numerator) (divisor : 0 < denominator) :
    (2 : ℚ) ^ (52 : Int) * 2 ^ binade numerator denominator ≤ numerator / denominator ∧
      (numerator / denominator : ℚ) < 2 ^ (53 : Int) * 2 ^ binade numerator denominator := by
  obtain ⟨topLow, topHigh⟩ := log2_bounds pos
  obtain ⟨lowLow, lowHigh⟩ := log2_bounds divisor
  have two : (2 : ℚ) ≠ 0 := by norm_num
  have below : (0 : ℚ) < denominator := by exact_mod_cast divisor
  have powers : ∀ a : Int, (0 : ℚ) < 2 ^ a := fun a => by positivity
  have least : (2 : ℚ) ^ (52 : Int) * 2 ^ ((numerator.log2 : Int) - denominator.log2 - 53) ≤ numerator / denominator := by
    rw [le_div_iff₀ below, ← zpow_add₀ two]
    calc (2 : ℚ) ^ (52 + ((numerator.log2 : Int) - denominator.log2 - 53)) * denominator
        ≤ 2 ^ (52 + ((numerator.log2 : Int) - denominator.log2 - 53)) * 2 ^ ((denominator.log2 : Int) + 1) :=
          mul_le_mul_of_nonneg_left lowHigh.le (powers _).le
      _ = 2 ^ (numerator.log2 : Int) := by
          rw [← zpow_add₀ two]
          congr 1
          ring
      _ ≤ numerator := topLow
  have most : (numerator / denominator : ℚ) < 2 ^ (54 : Int) * 2 ^ ((numerator.log2 : Int) - denominator.log2 - 53) := by
    rw [div_lt_iff₀ below, ← zpow_add₀ two]
    calc (numerator : ℚ) < 2 ^ ((numerator.log2 : Int) + 1) := topHigh
      _ = 2 ^ (54 + ((numerator.log2 : Int) - denominator.log2 - 53)) * 2 ^ (denominator.log2 : Int) := by
          rw [← zpow_add₀ two]
          congr 1
          ring
      _ ≤ 2 ^ (54 + ((numerator.log2 : Int) - denominator.log2 - 53)) * denominator :=
          mul_le_mul_of_nonneg_left lowLow (powers _).le
  simp only [binade]
  generalize (numerator.log2 : Int) - denominator.log2 - 53 = guess at least most ⊢
  have factor : (0 : ℚ) < (scale guess).2 := by exact_mod_cast (scale_pos guess).2
  have test : Nat.pow 2 53 * (scale guess).1 * denominator ≤ numerator * (scale guess).2 ↔
      (2 : ℚ) ^ (53 : Int) * 2 ^ guess ≤ numerator / denominator := by
    have cast : Nat.pow 2 53 * (scale guess).1 * denominator ≤ numerator * (scale guess).2 ↔
        (2 ^ 53 * (scale guess).1 * denominator : ℚ) ≤ numerator * (scale guess).2 := by
      rw [Nat.pow_eq]
      exact_mod_cast Iff.rfl
    have shared : (2 ^ 53 * (2 ^ guess * (scale guess).2) * denominator : ℚ) =
        (2 : ℚ) ^ (53 : Int) * 2 ^ guess * denominator * (scale guess).2 := by
      norm_num
      ring
    rw [cast, scale_eq, shared, le_div_iff₀ below, mul_le_mul_iff_left₀ factor]
  by_cases wide : Nat.pow 2 53 * (scale guess).1 * denominator ≤ numerator * (scale guess).2
  · rw [if_pos wide]
    have above := test.mp wide
    have next : (2 : ℚ) ^ (guess + 1) = 2 * 2 ^ guess := by
      rw [zpow_add₀ two, zpow_one]
      ring
    rw [next]
    norm_num at above most ⊢
    constructor <;> linarith
  · rw [if_neg wide]
    exact ⟨least, lt_of_not_ge fun above => wide (test.mpr above)⟩

/-- Powers of two are in order as their exponents are. -/
theorem exponent_lt {a b : Int} {x : ℚ} {low high : Int} (least : (2 : ℚ) ^ low * 2 ^ a ≤ x)
    (most : x < (2 : ℚ) ^ high * 2 ^ b) : low + a < high + b := by
  have two : (2 : ℚ) ≠ 0 := by norm_num
  rw [← zpow_add₀ two] at least most
  exact (zpow_lt_zpow_iff_right₀ (by norm_num : (1 : ℚ) < 2)).mp (lt_of_le_of_lt least most)

/-! ### Rounding -/

/-- A mantissa of 54 bits is one of 53 with the next exponent. -/
def normalized (negative : Bool) (mantissa : Nat) (exponent : Int) : Binary64 :=
  let (mantissa, exponent) :=
    if mantissa = Nat.pow 2 53 then (Nat.pow 2 52, exponent + 1) else (mantissa, exponent)
  if maxExponent < exponent then .infinite negative else .finite negative mantissa exponent

theorem ofRatio_eq (negative : Bool) {numerator : Nat} (pos : 0 < numerator) (denominator : Nat) :
    ofRatio negative numerator denominator =
      normalized negative
        (roundQuotient (numerator * (scale (max (binade numerator denominator) minExponent)).2)
          (denominator * (scale (max (binade numerator denominator) minExponent)).1))
        (max (binade numerator denominator) minExponent) := by
  rw [ofRatio, if_neg (by omega)]
  rfl

theorem scaled_pos {denominator : Nat} (divisor : 0 < denominator) (exponent : Int) :
    0 < denominator * (scale exponent).1 := Nat.mul_pos divisor (scale_pos exponent).1

/-- The mantissa of a fraction with a given exponent. -/
theorem roundQuotient_scaled {numerator denominator m : Nat} (divisor : 0 < denominator) (exponent : Int)
    (low : ((m : ℚ) - 1 / 2) * 2 ^ exponent ≤ numerator / denominator)
    (high : (numerator / denominator : ℚ) ≤ (m + 1 / 2) * 2 ^ exponent)
    (ends : m % 2 = 1 → ((m : ℚ) - 1 / 2) * 2 ^ exponent < numerator / denominator ∧
      (numerator / denominator : ℚ) < (m + 1 / 2) * 2 ^ exponent) :
    roundQuotient (numerator * (scale exponent).2) (denominator * (scale exponent).1) = m := by
  have power : (0 : ℚ) < 2 ^ exponent := by positivity
  refine roundQuotient_eq (scaled_pos divisor exponent) ?_ ?_ fun odd => ?_
  · rwa [scaled_quotient, le_div_iff₀ power]
  · rwa [scaled_quotient, div_le_iff₀ power]
  · rw [scaled_quotient, lt_div_iff₀ power, div_lt_iff₀ power]
    exact ends odd

theorem gapBelow_bounds (mantissa : Nat) (exponent : Int) :
    1 / 4 ≤ gapBelow mantissa exponent ∧ gapBelow mantissa exponent ≤ 1 / 2 := by
  unfold gapBelow
  split <;> norm_num

section
variable {mantissa numerator denominator : Nat} {exponent : Int}

theorem half_le (mantissa : Nat) (exponent : Int) :
    (mantissa - 1 / 2 : ℚ) * 2 ^ exponent ≤ (mantissa - gapBelow mantissa exponent) * 2 ^ exponent := by
  have gap := (gapBelow_bounds mantissa exponent).2
  exact mul_le_mul_of_nonneg_right (by linarith) (by positivity)

/-- A fraction that reads as a number lies in the binade of the number or in a lower one. -/
theorem binade_le (small : mantissa < 2 ^ 53) (pos : 0 < numerator) (divisor : 0 < denominator)
    (near : Reads mantissa exponent (numerator / denominator)) : binade numerator denominator ≤ exponent := by
  have power : (0 : ℚ) < 2 ^ exponent := by positivity
  have bits : (mantissa : ℚ) + 1 ≤ 2 ^ 53 := by exact_mod_cast small
  have top : (numerator / denominator : ℚ) < 2 ^ (53 : Int) * 2 ^ exponent :=
    calc (numerator / denominator : ℚ)
      _ ≤ (mantissa + 1 / 2) * 2 ^ exponent := near.high
      _ < 2 ^ (53 : Int) * 2 ^ exponent := mul_lt_mul_of_pos_right (by norm_num at bits ⊢; linarith) power
  have := exponent_lt (binade_spec pos divisor).1 top
  omega

/-- A fraction that reads as a number and lies in a lower binade lies in the next one, at its very
end, and the number is a power of two. -/
theorem binade_next (canonical : Canonical mantissa exponent) (pos : 0 < numerator) (divisor : 0 < denominator)
    (near : Reads mantissa exponent (numerator / denominator)) (above : minExponent < exponent)
    (lower : binade numerator denominator < exponent) :
    mantissa = 2 ^ 52 ∧ binade numerator denominator = exponent - 1 ∧
      (2 ^ 53 - 1 / 2) * 2 ^ (exponent - 1) ≤ (numerator / denominator : ℚ) ∧
      (numerator / denominator : ℚ) < 2 ^ 53 * 2 ^ (exponent - 1) := by
  have power : (0 : ℚ) < 2 ^ exponent := by positivity
  have unit : (0 : ℚ) < 2 ^ (exponent - 1) := by positivity
  have half : (2 : ℚ) ^ exponent = 2 * 2 ^ (exponent - 1) := by
    rw [zpow_sub₀ (by norm_num), zpow_one]
    ring
  have binadeHigh := (binade_spec pos divisor).2
  have below : (numerator / denominator : ℚ) < 2 ^ (52 : Int) * 2 ^ exponent := by
    by_contra notBelow
    have := exponent_lt (not_lt.mp notBelow) binadeHigh
    omega
  norm_num at below
  have least : mantissa = 2 ^ 52 := by
    by_contra other
    have more : 2 ^ 52 + 1 ≤ mantissa := by
      have := canonical.normal above
      omega
    have more : (2 : ℚ) ^ 52 + 1 ≤ mantissa := by exact_mod_cast more
    have wide : (2 : ℚ) ^ 52 * 2 ^ exponent ≤ (mantissa - 1 / 2) * 2 ^ exponent :=
      mul_le_mul_of_nonneg_right (by linarith) power.le
    norm_num at wide
    linarith [half_le mantissa exponent, near.low]
  have low : (2 ^ 53 - 1 / 2) * 2 ^ (exponent - 1) ≤ (numerator / denominator : ℚ) := by
    have start := near.low
    rw [show gapBelow mantissa exponent = 1 / 4 from if_pos ⟨least, above⟩, half,
      show (mantissa : ℚ) = 2 ^ 52 by exact_mod_cast least] at start
    linarith
  have next : exponent - 1 ≤ binade numerator denominator := by
    have bottom : (2 : ℚ) ^ (52 : Int) * 2 ^ (exponent - 1) ≤ numerator / denominator := by
      norm_num at low ⊢
      linarith
    have := exponent_lt bottom binadeHigh
    omega
  refine ⟨least, by omega, low, ?_⟩
  rw [half] at below
  norm_num
  linarith

/-- A fraction that reads as a number is rounded to it. -/
theorem ofRatio_eq_finite (negative : Bool) (canonical : Canonical mantissa exponent) (some : mantissa ≠ 0)
    (divisor : 0 < denominator) (near : Reads mantissa exponent (numerator / denominator)) :
    ofRatio negative numerator denominator = .finite negative mantissa exponent := by
  have positive : (0 : ℚ) < numerator / denominator := by
    have one : (1 : ℚ) ≤ mantissa := by exact_mod_cast Nat.pos_of_ne_zero some
    refine lt_of_lt_of_le (mul_pos ?_ (by positivity)) ((half_le mantissa exponent).trans near.low)
    linarith
  have pos : 0 < numerator := by
    rcases Nat.eq_zero_or_pos numerator with zero | pos
    · simp [zero] at positive
    · exact pos
  have below := binade_le canonical.small pos divisor near
  rw [ofRatio_eq negative pos]
  by_cases same : max (binade numerator denominator) minExponent = exponent
  · have start := half_le mantissa exponent
    have rounded := roundQuotient_scaled divisor exponent (start.trans near.low) near.high fun odd =>
      ⟨lt_of_le_of_lt start (near.ends odd).1, (near.ends odd).2⟩
    have fits : mantissa ≠ Nat.pow 2 53 := by
      have small := canonical.small
      rw [Nat.pow_eq]
      omega
    rw [same, rounded, normalized]
    simp [fits, Int.not_lt.mpr canonical.most]
  · have above : minExponent < exponent := by
      have least := canonical.least
      omega
    obtain ⟨power, next, low, high⟩ := binade_next canonical pos divisor near above (by omega)
    have lower : max (binade numerator denominator) minExponent = exponent - 1 := by omega
    have unit : (0 : ℚ) < 2 ^ (exponent - 1) := by positivity
    have rounded := @roundQuotient_scaled numerator denominator (2 ^ 53) divisor (exponent - 1)
      (by push_cast; exact low) (by push_cast; linarith) (fun odd => by norm_num at odd)
    rw [lower, rounded, normalized]
    simp [power, Int.not_lt.mpr canonical.most]

end

/-- A number as it is read: no NaN, and canonical if it is finite. -/
def Proper : Binary64 → Prop
  | .nan _ => False
  | .infinite _ => True
  | .finite _ mantissa exponent => Canonical mantissa exponent

theorem zero_proper (negative : Bool) : (zero negative).Proper :=
  ⟨by norm_num, le_refl _, by decide, fun less => absurd less (lt_irrefl _)⟩

theorem ofRatio_proper (negative : Bool) (numerator : Nat) {denominator : Nat} (divisor : 0 < denominator) :
    (ofRatio negative numerator denominator).Proper := by
  rcases Nat.eq_zero_or_pos numerator with rfl | pos
  · exact zero_proper negative
  obtain ⟨binadeLow, binadeHigh⟩ := binade_spec pos divisor
  rw [ofRatio_eq negative pos]
  generalize binade numerator denominator = digit at binadeLow binadeHigh ⊢
  obtain ⟨exponent, chosen⟩ : ∃ exponent, max digit minExponent = exponent := ⟨_, rfl⟩
  rw [chosen]
  have power : (0 : ℚ) < 2 ^ exponent := by positivity
  obtain ⟨nearLow, nearHigh⟩ := @roundQuotient_near (numerator * (scale exponent).2) _ (scaled_pos divisor exponent)
  rw [scaled_quotient] at nearLow nearHigh
  generalize roundQuotient _ _ = mantissa at nearLow nearHigh ⊢
  have high : (numerator / denominator : ℚ) / 2 ^ exponent < 2 ^ 53 := by
    rw [div_lt_iff₀ power]
    refine lt_of_lt_of_le binadeHigh ?_
    rw [show (2 : ℚ) ^ (53 : Int) = 2 ^ 53 by norm_num]
    refine mul_le_mul_of_nonneg_left (zpow_le_zpow_right₀ (by norm_num) ?_) (by norm_num)
    omega
  have bits : mantissa ≤ 2 ^ 53 := by
    have : (mantissa : ℚ) < ((2 ^ 53 + 1 : Nat) : ℚ) := by
      push_cast
      linarith
    have : mantissa < 2 ^ 53 + 1 := by exact_mod_cast this
    omega
  have normal : minExponent < exponent → 2 ^ 52 ≤ mantissa := by
    intro above
    obtain rfl : digit = exponent := by omega
    have low : (2 : ℚ) ^ 52 ≤ (numerator / denominator : ℚ) / 2 ^ digit := by
      rw [le_div_iff₀ power]
      exact_mod_cast binadeLow
    have : ((2 ^ 52 : Nat) : ℚ) < ((mantissa + 1 : Nat) : ℚ) := by
      push_cast
      linarith
    have : 2 ^ 52 < mantissa + 1 := by exact_mod_cast this
    omega
  unfold normalized
  rw [Nat.pow_eq, Nat.pow_eq]
  by_cases full : mantissa = 2 ^ 53
  · rw [if_pos full]
    simp only
    split
    · trivial
    · rename_i fits
      exact ⟨by norm_num, by omega, by omega, fun _ => le_refl _⟩
  · rw [if_neg full]
    simp only
    split
    · trivial
    · rename_i fits
      exact ⟨by omega, by omega, by omega, normal⟩

/-! ### Decimal fractions -/

theorem ofScientific_proper (negative : Bool) (coefficient : Nat) (exponent : Int) :
    (ofScientific negative coefficient exponent).Proper := by
  unfold ofScientific
  simp only
  split
  · exact zero_proper negative
  split
  · trivial
  split
  · exact zero_proper negative
  split
  · exact ofRatio_proper negative _ Nat.one_pos
  · exact ofRatio_proper negative _ (Nat.pow_pos (by decide))

/-- A positive number between powers of ten that are given by its decimal digits. -/
theorem digits_bounds {n : Nat} (pos : 0 < n) :
    (10 : ℚ) ^ (((Nat.toDigits 10 n).length : Int) - 1) ≤ n ∧ (n : ℚ) < 10 ^ ((Nat.toDigits 10 n).length : Int) := by
  have some : 0 < (Nat.toDigits 10 n).length := Nat.length_toDigits_pos
  have high := (Nat.length_toDigits_le_iff (by decide : 1 < 10) some).mp (le_refl (Nat.toDigits 10 n).length)
  have low : 10 ^ ((Nat.toDigits 10 n).length - 1) ≤ n := by
    rcases Nat.eq_zero_or_pos ((Nat.toDigits 10 n).length - 1) with one | more
    · rw [one]
      exact pos
    · by_contra less
      have := (Nat.length_toDigits_le_iff (by decide : 1 < 10) more).mpr (Nat.lt_of_not_le less)
      omega
  generalize (Nat.toDigits 10 n).length = length at some high low
  constructor
  · rw [show (length : Int) - 1 = ((length - 1 : Nat) : Int) by omega, zpow_natCast]
    exact_mod_cast low
  · rw [zpow_natCast]
    exact_mod_cast high

theorem ten_pow_lt {a b : Int} {x : ℚ} (least : (10 : ℚ) ^ a ≤ x) (most : x < (10 : ℚ) ^ b) : a < b :=
  (zpow_lt_zpow_iff_right₀ (by norm_num : (1 : ℚ) < 10)).mp (lt_of_le_of_lt least most)

/-- The least finite number is greater than `10 ^ -330`, and the greatest is less than `10 ^ 309`. -/
theorem two_pow_bounds : (10 : ℚ) ^ (-330 : Int) ≤ 1 / 2 * 2 ^ (-1074 : Int) ∧
    (2 : ℚ) ^ 53 * 2 ^ (971 : Int) < 10 ^ (309 : Int) := by
  have small : 2 ^ 1075 ≤ 10 ^ 330 := by decide +kernel
  have large : 2 ^ 1024 < 10 ^ 309 := by decide +kernel
  have two : (2 : ℚ) ≠ 0 := by norm_num
  have small : (2 : ℚ) ^ 1075 ≤ 10 ^ 330 := by exact_mod_cast small
  have large : (2 : ℚ) ^ 1024 < 10 ^ 309 := by exact_mod_cast large
  constructor
  · have inverse := one_div_le_one_div_of_le (pow_pos (by norm_num) _) small
    calc (10 : ℚ) ^ (-330 : Int) = 1 / 10 ^ 330 := by rw [zpow_neg, one_div]; rfl
      _ ≤ 1 / 2 ^ 1075 := inverse
      _ = 2 ^ (-((1 + 1074 : Nat) : Int)) := by rw [zpow_neg, zpow_natCast, one_div]
      _ = 1 / 2 * 2 ^ (-1074 : Int) := by
          rw [Nat.cast_add, neg_add, zpow_add₀ two, Nat.cast_one, zpow_neg_one, one_div]
          rfl
  · calc (2 : ℚ) ^ 53 * 2 ^ (971 : Int) = 2 ^ 1024 := by
          rw [show (2 : ℚ) ^ (971 : Int) = 2 ^ 971 from rfl, ← pow_add]
      _ < 10 ^ 309 := large

/-- What reads as a finite number is neither too great nor too small for the powers of ten that are
looked at. -/
theorem reads_range {mantissa : Nat} {exponent : Int} (canonical : Canonical mantissa exponent) (some : mantissa ≠ 0)
    {x : ℚ} (near : Reads mantissa exponent x) : (10 : ℚ) ^ (-330 : Int) ≤ x ∧ x < 10 ^ (309 : Int) := by
  obtain ⟨small, least, most, _⟩ := canonical
  obtain ⟨low, high, _⟩ := near
  obtain ⟨_, gapHigh⟩ := gapBelow_bounds mantissa exponent
  have power : (0 : ℚ) < 2 ^ exponent := by positivity
  have one : (1 : ℚ) ≤ mantissa := by exact_mod_cast Nat.pos_of_ne_zero some
  have bits : (mantissa : ℚ) + 1 ≤ 2 ^ 53 := by exact_mod_cast small
  have bottom : (2 : ℚ) ^ (-1074 : Int) ≤ 2 ^ exponent := zpow_le_zpow_right₀ (by norm_num) least
  have top : (2 : ℚ) ^ exponent ≤ 2 ^ (971 : Int) := zpow_le_zpow_right₀ (by norm_num) most
  constructor
  · calc (10 : ℚ) ^ (-330 : Int) ≤ 1 / 2 * 2 ^ (-1074 : Int) := two_pow_bounds.1
      _ ≤ 1 / 2 * 2 ^ exponent := mul_le_mul_of_nonneg_left bottom (by norm_num)
      _ ≤ (mantissa - gapBelow mantissa exponent) * 2 ^ exponent :=
          mul_le_mul_of_nonneg_right (by linarith) power.le
      _ ≤ x := low
  · calc x ≤ (mantissa + 1 / 2) * 2 ^ exponent := high
      _ ≤ 2 ^ 53 * 2 ^ exponent := mul_le_mul_of_nonneg_right (by linarith) power.le
      _ ≤ 2 ^ 53 * 2 ^ (971 : Int) := mul_le_mul_of_nonneg_left top (by norm_num)
      _ < 10 ^ (309 : Int) := two_pow_bounds.2

/-- A decimal fraction that reads as a number is rounded to it. -/
theorem ofScientific_eq_finite (negative : Bool) {mantissa : Nat} {exponent : Int}
    (canonical : Canonical mantissa exponent) (some : mantissa ≠ 0) {coefficient : Nat} {power : Int}
    (near : Reads mantissa exponent (coefficient * 10 ^ power)) :
    ofScientific negative coefficient power = .finite negative mantissa exponent := by
  obtain ⟨bottom, top⟩ := reads_range canonical some near
  have ten : (10 : ℚ) ≠ 0 := by norm_num
  have pos : 0 < coefficient := by
    rcases Nat.eq_zero_or_pos coefficient with zero | pos
    · rw [zero, Nat.cast_zero, zero_mul] at bottom
      exact absurd bottom (not_le.mpr (by positivity))
    · exact pos
  obtain ⟨low, high⟩ := digits_bounds pos
  have scale : (0 : ℚ) < 10 ^ power := by positivity
  have notLarge : ((Nat.toDigits 10 coefficient).length : Int) - 1 + power < 309 := by
    refine ten_pow_lt ?_ top
    rw [zpow_add₀ ten]
    exact mul_le_mul_of_nonneg_right low scale.le
  have notSmall : (-330 : Int) < (Nat.toDigits 10 coefficient).length + power := by
    refine ten_pow_lt bottom ?_
    rw [zpow_add₀ ten]
    exact mul_lt_mul_of_pos_right high scale
  unfold ofScientific
  simp only
  rw [if_neg (by omega), if_neg (by omega), if_neg (by omega)]
  split
  · rename_i positive
    obtain ⟨n, rfl⟩ := Int.eq_ofNat_of_zero_le positive
    refine ofRatio_eq_finite negative canonical some Nat.one_pos ?_
    simpa using near
  · obtain ⟨n, rfl⟩ : ∃ n : Nat, power = -(n : Int) := ⟨(-power).toNat, by omega⟩
    refine ofRatio_eq_finite negative canonical some (Nat.pow_pos (by decide)) ?_
    rw [zpow_neg, zpow_natCast, ← div_eq_mul_inv] at near
    simpa using near

end ResourceQuery.Number.Binary64
