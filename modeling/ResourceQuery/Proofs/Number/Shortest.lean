import Mathlib.Data.Nat.Cast.Order.Field
import Mathlib.Tactic.LinearCombination
import ResourceQuery.Number.Shortest
import ResourceQuery.Proofs.Number.Rounding

/-!
The shortest digits read back. A point of a decimal grid that `gridPoint?` gives lies in the
interval of the number (`gridPoint?_reads`); with 17 digits the grid is so fine that there is one
(`gridPoint?_found`), and so `shortest` gives digits that read as the number (`shortest_reads`).
-/
namespace ResourceQuery.Number
open Binary64

/-- The two factors of a power of ten, in the order in which a grid uses them. -/
def tenScale (step : Int) : Nat × Nat :=
  (if 0 ≤ step then Nat.pow 10 step.toNat else 1, if 0 ≤ step then 1 else Nat.pow 10 (-step).toNat)

theorem tenScale_pos (step : Int) : 0 < (tenScale step).1 ∧ 0 < (tenScale step).2 := by
  unfold tenScale
  split
  · exact ⟨Nat.pow_pos (by decide), Nat.one_pos⟩
  · exact ⟨Nat.one_pos, Nat.pow_pos (by decide)⟩

theorem tenScale_eq (step : Int) : ((tenScale step).1 : ℚ) = 10 ^ step * (tenScale step).2 := by
  rw [tenScale]
  exact_mod_cast factor_eq (show 10 ≠ 0 by decide) step

/-- A quarter of the last bit of a number, as a multiple of the unit of a grid. -/
def gridUnit (exponent step : Int) : Nat := (scale (exponent - 2)).1 * (tenScale step).2

/-- The step of a grid, as a multiple of the same unit. -/
def gridStep (exponent step : Int) : Nat := (scale (exponent - 2)).2 * (tenScale step).1

theorem gridStep_pos (exponent step : Int) : 0 < gridStep exponent step :=
  Nat.mul_pos (scale_pos _).2 (tenScale_pos _).1

/-- Four units are one last bit. -/
theorem gridUnit_eq (exponent step : Int) :
    4 * (gridUnit exponent step : ℚ) * 10 ^ step = gridStep exponent step * 2 ^ exponent := by
  have power : (2 : ℚ) ^ exponent = 4 * 2 ^ (exponent - 2) := by
    rw [zpow_sub₀ (by norm_num)]
    norm_num
    ring
  unfold gridUnit gridStep
  push_cast
  rw [scale_eq, tenScale_eq, power]
  ring

/-- Whether a multiple of the step of a grid lies in the interval of a number. -/
def insideGrid (mantissa : Nat) (exponent step : Int) (point : Nat) : Bool :=
  let gap := if mantissa = Nat.pow 2 52 ∧ minExponent < exponent then 1 else 2
  let low := (4 * mantissa - gap) * gridUnit exponent step
  let high := (4 * mantissa + 2) * gridUnit exponent step
  if mantissa % 2 = 0 then low ≤ point * gridStep exponent step && point * gridStep exponent step ≤ high
  else low < point * gridStep exponent step && point * gridStep exponent step < high

/-- The neighbour of a number on a grid is its floor or the point after it, and lies in the interval
of the number. -/
theorem gridPoint?_eq (mantissa : Nat) (exponent step : Int) :
    gridPoint? mantissa exponent step =
      let floor := 4 * mantissa * gridUnit exponent step / gridStep exponent step
      let remainder := 4 * mantissa * gridUnit exponent step % gridStep exponent step
      if insideGrid mantissa exponent step floor && floor ≠ 0 then
        if insideGrid mantissa exponent step (floor + 1) &&
            (gridStep exponent step < 2 * remainder || (gridStep exponent step == 2 * remainder && floor % 2 == 1)) then
          some (floor + 1)
        else some floor
      else if insideGrid mantissa exponent step (floor + 1) then some (floor + 1)
      else none := rfl

theorem gap_eq (mantissa : Nat) (exponent : Int) :
    ((if mantissa = Nat.pow 2 52 ∧ minExponent < exponent then 1 else 2 : Nat) : ℚ) = 4 * gapBelow mantissa exponent := by
  unfold gapBelow
  rw [Nat.pow_eq]
  split <;> norm_num

/-- How much one part of the common measure of a grid and a number is. -/
def gridPart (exponent step : Int) : ℚ := 10 ^ step / gridStep exponent step

theorem gridPart_pos (exponent step : Int) : 0 < gridPart exponent step := by
  have grid : (0 : ℚ) < gridStep exponent step := by exact_mod_cast gridStep_pos exponent step
  unfold gridPart
  positivity

theorem bits_eq (exponent step : Int) (count : ℚ) :
    count * 2 ^ exponent = 4 * count * gridUnit exponent step * gridPart exponent step := by
  have grid : (0 : ℚ) < gridStep exponent step := by exact_mod_cast gridStep_pos exponent step
  have unit := gridUnit_eq exponent step
  unfold gridPart
  rw [mul_div_assoc', eq_div_iff grid.ne']
  linear_combination -count * unit

theorem point_eq (exponent step : Int) (point : ℚ) :
    point * 10 ^ step = point * gridStep exponent step * gridPart exponent step := by
  have grid : (0 : ℚ) < gridStep exponent step := by exact_mod_cast gridStep_pos exponent step
  unfold gridPart
  field_simp

/-- What lies in the interval on a grid reads as the number, and nothing else does. -/
theorem insideGrid_iff {mantissa : Nat} {exponent step : Int} (some : mantissa ≠ 0) {point : Nat} :
    insideGrid mantissa exponent step point = true ↔ Reads mantissa exponent (point * 10 ^ step) := by
  have part := gridPart_pos exponent step
  have gapCast := gap_eq mantissa exponent
  have gapLe : (if mantissa = Nat.pow 2 52 ∧ minExponent < exponent then 1 else 2) ≤ 4 * mantissa := by
    split <;> omega
  simp only [insideGrid]
  generalize (if mantissa = Nat.pow 2 52 ∧ minExponent < exponent then 1 else 2 : Nat) = gap at gapCast gapLe ⊢
  have low : (((4 * mantissa - gap) * gridUnit exponent step : Nat) : ℚ) =
      4 * (mantissa - gapBelow mantissa exponent) * gridUnit exponent step := by
    push_cast [Nat.cast_sub gapLe]
    rw [gapCast]
    ring
  have high : (((4 * mantissa + 2) * gridUnit exponent step : Nat) : ℚ) =
      4 * (mantissa + 1 / 2) * gridUnit exponent step := by
    push_cast
    ring
  have place : ((point * gridStep exponent step : Nat) : ℚ) = point * gridStep exponent step := Nat.cast_mul _ _
  -- the three numbers of the interval, each as a multiple of the same part
  have lower := bits_eq exponent step (mantissa - gapBelow mantissa exponent)
  have upper := bits_eq exponent step (mantissa + 1 / 2)
  have middle := point_eq exponent step point
  rw [← low] at lower
  rw [← high] at upper
  rw [← place] at middle
  generalize (4 * mantissa - gap) * gridUnit exponent step = least at lower ⊢
  generalize (4 * mantissa + 2) * gridUnit exponent step = most at upper ⊢
  generalize point * gridStep exponent step = here at middle ⊢
  have leftLe : (mantissa - gapBelow mantissa exponent) * 2 ^ exponent ≤ (point * 10 ^ step : ℚ) ↔ least ≤ here := by
    rw [lower, middle, mul_le_mul_iff_left₀ part, Nat.cast_le]
  have rightLe : (point * 10 ^ step : ℚ) ≤ (mantissa + 1 / 2) * 2 ^ exponent ↔ here ≤ most := by
    rw [upper, middle, mul_le_mul_iff_left₀ part, Nat.cast_le]
  have leftLt : (mantissa - gapBelow mantissa exponent) * 2 ^ exponent < (point * 10 ^ step : ℚ) ↔ least < here := by
    rw [lower, middle, mul_lt_mul_iff_left₀ part, Nat.cast_lt]
  have rightLt : (point * 10 ^ step : ℚ) < (mantissa + 1 / 2) * 2 ^ exponent ↔ here < most := by
    rw [upper, middle, mul_lt_mul_iff_left₀ part, Nat.cast_lt]
  constructor
  · intro inside
    by_cases even : mantissa % 2 = 0
    · rw [if_pos even, Bool.and_eq_true, decide_eq_true_eq, decide_eq_true_eq] at inside
      exact ⟨leftLe.mpr inside.1, rightLe.mpr inside.2, fun odd => by omega⟩
    · rw [if_neg even, Bool.and_eq_true, decide_eq_true_eq, decide_eq_true_eq] at inside
      exact ⟨leftLe.mpr inside.1.le, rightLe.mpr inside.2.le, fun _ => ⟨leftLt.mpr inside.1, rightLt.mpr inside.2⟩⟩
  · rintro ⟨above, below, ends⟩
    by_cases even : mantissa % 2 = 0
    · rw [if_pos even, Bool.and_eq_true, decide_eq_true_eq, decide_eq_true_eq]
      exact ⟨leftLe.mp above, rightLe.mp below⟩
    · rw [if_neg even, Bool.and_eq_true, decide_eq_true_eq, decide_eq_true_eq]
      obtain ⟨strictLeft, strictRight⟩ := ends (by omega)
      exact ⟨leftLt.mp strictLeft, rightLt.mp strictRight⟩

/-- A point that is found reads as the number. -/
theorem gridPoint?_reads {mantissa : Nat} {exponent step : Int} (some : mantissa ≠ 0) {point : Nat}
    (found : gridPoint? mantissa exponent step = .some point) : Reads mantissa exponent (point * 10 ^ step) := by
  rw [gridPoint?_eq] at found
  simp only at found
  rw [← insideGrid_iff some]
  split at found
  · rename_i floor
    split at found
    · rename_i next
      cases found
      exact (Bool.and_eq_true _ _ ▸ next).1
    · cases found
      exact (Bool.and_eq_true _ _ ▸ floor).1
  · split at found
    · rename_i next
      cases found
      exact next
    · cases found

/-- A number lies between its floor on a grid and the point after it, and the remainder says how far
above the floor it is. -/
theorem floor_eq (mantissa : Nat) (exponent step : Int) :
    (mantissa * 2 ^ exponent : ℚ) = (4 * mantissa * gridUnit exponent step / gridStep exponent step : Nat) * 10 ^ step +
      (4 * mantissa * gridUnit exponent step % gridStep exponent step : Nat) * gridPart exponent step := by
  have split := Nat.div_add_mod (4 * mantissa * gridUnit exponent step) (gridStep exponent step)
  have cast : ((4 * mantissa * gridUnit exponent step : Nat) : ℚ) =
      gridStep exponent step * (4 * mantissa * gridUnit exponent step / gridStep exponent step : Nat) +
        (4 * mantissa * gridUnit exponent step % gridStep exponent step : Nat) := by
    exact_mod_cast split.symm
  rw [bits_eq, point_eq]
  push_cast at cast
  rw [cast]
  ring

/-- Half a step of a grid of 17 digits is less than the interval of a number extends below it. -/
theorem half_step_lt {mantissa : Nat} {exponent magnitude : Int} (small : mantissa < 2 ^ 53)
    (low : (10 : ℚ) ^ magnitude ≤ mantissa * 2 ^ exponent) :
    10 ^ (magnitude - 16) / 2 < gapBelow mantissa exponent * 2 ^ exponent := by
  have power : (0 : ℚ) < 2 ^ exponent := by positivity
  have bits : (mantissa : ℚ) + 1 ≤ 2 ^ 53 := by exact_mod_cast small
  have split : (10 : ℚ) ^ magnitude = 10 ^ 16 * 10 ^ (magnitude - 16) := by
    rw [zpow_sub₀ (by norm_num)]
    norm_num
    ring
  rw [split] at low
  unfold gapBelow
  split
  · rename_i least
    have cast : (mantissa : ℚ) = 2 ^ 52 := by exact_mod_cast least.1
    rw [cast] at low
    linarith
  · have top : (mantissa : ℚ) * 2 ^ exponent ≤ 2 ^ 53 * 2 ^ exponent :=
      mul_le_mul_of_nonneg_right (by linarith) power.le
    linarith

/-- A point at most half a step away from a number lies in its interval if half a step is less than
the interval extends. -/
theorem insideGrid_near {mantissa : Nat} {exponent step : Int} (some : mantissa ≠ 0)
    (half : (10 : ℚ) ^ step / 2 < gapBelow mantissa exponent * 2 ^ exponent) {point : Nat}
    (low : mantissa * 2 ^ exponent - 10 ^ step / 2 ≤ (point * 10 ^ step : ℚ))
    (high : (point * 10 ^ step : ℚ) ≤ mantissa * 2 ^ exponent + 10 ^ step / 2) :
    insideGrid mantissa exponent step point = true := by
  have gap : gapBelow mantissa exponent * 2 ^ exponent ≤ 1 / 2 * 2 ^ exponent :=
    mul_le_mul_of_nonneg_right (gapBelow_bounds mantissa exponent).2 (by positivity)
  have above : (mantissa - gapBelow mantissa exponent) * 2 ^ exponent < point * 10 ^ step := by linarith
  have below : (point * 10 ^ step : ℚ) < (mantissa + 1 / 2) * 2 ^ exponent := by linarith
  rw [insideGrid_iff some]
  exact ⟨above.le, below.le, fun _ => ⟨above, below⟩⟩

/-- On a grid of 17 digits there is a point that reads as the number. -/
theorem gridPoint?_found {mantissa : Nat} {exponent magnitude : Int} (canonical : Canonical mantissa exponent)
    (some : mantissa ≠ 0) (low : (10 : ℚ) ^ magnitude ≤ mantissa * 2 ^ exponent) :
    gridPoint? mantissa exponent (magnitude - 16) ≠ none := by
  have half := half_step_lt canonical.small low
  have start : (10 : ℚ) ^ (magnitude - 16) / 2 < mantissa * 2 ^ exponent := by
    have steps : (10 : ℚ) ^ (magnitude - 16) ≤ 10 ^ magnitude := zpow_le_zpow_right₀ (by norm_num) (by omega)
    have step : (0 : ℚ) < 10 ^ (magnitude - 16) := by positivity
    linarith
  have whole := floor_eq mantissa exponent (magnitude - 16)
  have rest := Nat.mod_lt (4 * mantissa * gridUnit exponent (magnitude - 16)) (gridStep_pos exponent (magnitude - 16))
  have part := gridPart_pos exponent (magnitude - 16)
  have step := point_eq exponent (magnitude - 16) 1
  rw [gridPoint?_eq]
  simp only
  generalize 4 * mantissa * gridUnit exponent (magnitude - 16) / gridStep exponent (magnitude - 16) = floor at whole ⊢
  generalize 4 * mantissa * gridUnit exponent (magnitude - 16) % gridStep exponent (magnitude - 16) = remainder
    at whole rest ⊢
  have below : (remainder : ℚ) * gridPart exponent (magnitude - 16) < 10 ^ (magnitude - 16) := by
    rw [one_mul, one_mul] at step
    rw [step]
    exact mul_lt_mul_of_pos_right (by exact_mod_cast rest) part
  have above : (0 : ℚ) ≤ remainder * gridPart exponent (magnitude - 16) := by positivity
  generalize (remainder : ℚ) * gridPart exponent (magnitude - 16) = excess at whole below above
  by_cases near : excess ≤ 10 ^ (magnitude - 16) / 2
  · -- the floor is at most half a step away
    have inside := @insideGrid_near _ _ _ some half floor (by linarith) (by linarith)
    have positive : floor ≠ 0 := by
      rintro rfl
      rw [Nat.cast_zero, zero_mul] at whole
      linarith
    rw [inside, Bool.true_and, if_pos (by simpa using positive)]
    split <;> simp
  · have inside := @insideGrid_near _ _ _ some half (floor + 1) (by push_cast; linarith) (by push_cast; linarith)
    rw [inside]
    split
    · split <;> simp
    · simp

/-! ### The digits that are found -/

/-- The magnitude of a positive fraction is not too great. -/
theorem magnitude_le {x : Fraction} (pos : 0 < x.numerator) (divisor : 0 < x.denominator) :
    (10 : ℚ) ^ x.magnitude ≤ x.numerator / x.denominator := by
  have below : (0 : ℚ) < x.denominator := by exact_mod_cast divisor
  unfold Fraction.magnitude
  split
  · rename_i whole
    obtain ⟨low, _⟩ := digits_bounds (Nat.div_pos whole divisor)
    exact low.trans Nat.cast_div_le
  · rename_i proper
    rw [Nat.not_le] at proper
    -- the quotient that is rounded up, without one, is at least one
    have count : 1 ≤ (x.denominator + x.numerator - 1) / x.numerator - 1 := by
      have two : 2 ≤ (x.denominator + x.numerator - 1) / x.numerator := by
        rw [Nat.le_div_iff_mul_le pos]
        omega
      omega
    have covers : x.denominator ≤ ((x.denominator + x.numerator - 1) / x.numerator - 1 + 1) * x.numerator := by
      have split := Nat.div_add_mod (x.denominator + x.numerator - 1) x.numerator
      have rest := Nat.mod_lt (x.denominator + x.numerator - 1) pos
      rw [Nat.sub_add_cancel (by omega), Nat.mul_comm]
      omega
    obtain ⟨_, high⟩ := digits_bounds count
    generalize (x.denominator + x.numerator - 1) / x.numerator - 1 = quotient at covers high
    rw [← Number.digits] at high
    have next : (quotient : ℚ) + 1 ≤ 10 ^ ((digits quotient).length : Int) := by
      rw [zpow_natCast] at high ⊢
      exact_mod_cast high
    have covered : (x.denominator : ℚ) ≤ (quotient + 1) * x.numerator := by exact_mod_cast covers
    have above : (0 : ℚ) < x.numerator := by exact_mod_cast pos
    rw [zpow_neg, inv_le_comm₀ (by positivity) (by positivity), inv_div, div_le_iff₀ above]
    exact covered.trans (mul_le_mul_of_nonneg_right next above.le)

theorem binaryFraction_magnitude {mantissa : Nat} (some : mantissa ≠ 0) (exponent : Int) :
    (10 : ℚ) ^ (binaryFraction mantissa exponent).magnitude ≤ mantissa * 2 ^ exponent := by
  obtain ⟨above, below⟩ := scale_pos exponent
  have bound := @magnitude_le (binaryFraction mantissa exponent) (Nat.mul_pos (Nat.pos_of_ne_zero some) above) below
  have divisor : (0 : ℚ) < (scale exponent).2 := by exact_mod_cast below
  have same : ((mantissa * (scale exponent).1 : Nat) : ℚ) / (scale exponent).2 = mantissa * 2 ^ exponent := by
    push_cast
    rw [scale_eq, div_eq_iff divisor.ne']
    ring
  exact bound.trans_eq same

/-- Where the last grid has a point that reads as the number, the point that is given is one of some
grid. -/
theorem shortestFrom_spec {mantissa : Nat} {exponent magnitude : Int} :
    ∀ (left count : Nat), gridPoint? mantissa exponent (magnitude + 1 - (count + left)) ≠ none →
      ∃ point step, shortestFrom mantissa exponent magnitude (left + 1) count = (point, step) ∧
        gridPoint? mantissa exponent step = some point
  | 0, count, last => by
    rw [Int.natCast_zero, add_zero] at last
    obtain ⟨point, found⟩ := Option.ne_none_iff_exists'.mp last
    exact ⟨point, magnitude + 1 - count, by simp only [shortestFrom, found], found⟩
  | left + 1, count, last => by
    rw [shortestFrom]
    cases found : gridPoint? mantissa exponent (magnitude + 1 - count) with
    | some point => exact ⟨point, magnitude + 1 - count, rfl, found⟩
    | none =>
      refine shortestFrom_spec left (count + 1) ?_
      have same : magnitude + 1 - (count + ((left + 1 : Nat) : Int)) = magnitude + 1 - (((count + 1 : Nat) : Int) + left) := by
        push_cast
        ring
      rwa [same] at last

/-- The shortest digits of a number read as the number. -/
theorem shortest_reads {mantissa : Nat} {exponent : Int} (canonical : Canonical mantissa exponent)
    (some : mantissa ≠ 0) :
    Reads mantissa exponent ((shortest mantissa exponent).1 * 10 ^ (shortest mantissa exponent).2) := by
  have last := gridPoint?_found canonical some (binaryFraction_magnitude some exponent)
  have step : (binaryFraction mantissa exponent).magnitude + 1 - (((1 : Nat) : Int) + ((16 : Nat) : Int)) =
      (binaryFraction mantissa exponent).magnitude - 16 := by
    push_cast
    ring
  rw [← step] at last
  obtain ⟨point, step, given, found⟩ := shortestFrom_spec 16 1 last
  rw [shortest, given]
  exact gridPoint?_reads some found

/-- Zeros that are dropped at the end count as a power of ten. -/
theorem dropZeros_eq : ∀ (fuel n : Nat), (dropZeros fuel n).1 * 10 ^ (dropZeros fuel n).2 = n
  | 0, n => by simp [dropZeros]
  | fuel + 1, n => by
    rw [dropZeros]
    split
    · rename_i more
      have ih := dropZeros_eq fuel (n / 10)
      simp only
      calc (dropZeros fuel (n / 10)).1 * 10 ^ ((dropZeros fuel (n / 10)).2 + 1)
          = 10 * ((dropZeros fuel (n / 10)).1 * 10 ^ (dropZeros fuel (n / 10)).2) := by ring
        _ = 10 * (n / 10) := by rw [ih]
        _ = n := by omega
    · simp

end ResourceQuery.Number
