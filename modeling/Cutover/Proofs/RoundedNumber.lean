import Cutover.Number.Shortest
import Mathlib.Algebra.Order.Field.Power
import Mathlib.Data.Rat.Cast.Order
import Mathlib.Tactic.FieldSimp
import Mathlib.Tactic.Linarith
import Mathlib.Tactic.NormNum
import Mathlib.Tactic.Positivity
import Mathlib.Tactic.Ring

/-!
# The number nearest to a fraction

A fraction that is nearer to a number than to its neighbours is rounded to it: main statement
`RoundsTo.ofRatio_eq`.  The range of such fractions reaches half a unit to each side, or a quarter below the
number where the unit changes, and its ends belong to it if the significand is even (`roundingRange_low`,
`roundingRange_high`).

The fraction is taken in units of a power of two (`inUnits_spec`).  The unit in which it has 53 digits is found
from the lengths of numerator and denominator (`unitExponent_spec`); it is the only one (`eq_of_unit`), so it
is the unit of the number, except for fractions just below the least number with a unit, whose digits carry
into it (`RoundsTo.of_unit_ne`).  Division with a remainder then rounds to the significand (`roundDiv_eq`).
-/

namespace Cutover.Binary64

/-! ### Rounding to an integer -/

/-- A quotient is rounded to the integer from which it is no more than a half away, if that integer is even
or the half is not reached. -/
theorem roundDiv_eq {n d m : ℕ} (hd : 0 < d) (hlow : 2 * (m * d) ≤ 2 * n + d)
    (hhigh : 2 * n ≤ 2 * (m * d) + d)
    (hodd : m % 2 = 1 → 2 * (m * d) < 2 * n + d ∧ 2 * n < 2 * (m * d) + d) : roundDiv n d = m := by
  have hdiv : d * (n / d) + n % d = n := Nat.div_add_mod n d
  have hmod : n % d < d := Nat.mod_lt n hd
  rw [roundDiv]
  generalize n / d = q at hdiv ⊢
  generalize n % d = r at hdiv hmod ⊢
  have hq : q ≤ m := by
    by_contra hlt
    have hmore : d * (m + 1) ≤ d * q := Nat.mul_le_mul_left d (by omega)
    rw [Nat.mul_add, Nat.mul_comm d m] at hmore
    omega
  have hm : m ≤ q + 1 := by
    by_contra hlt
    have hmore : d * (q + 2) ≤ d * m := Nat.mul_le_mul_left d (by omega)
    rw [Nat.mul_add, Nat.mul_comm d m] at hmore
    omega
  rw [Nat.mul_comm m d] at hlow hhigh hodd
  obtain rfl | rfl : m = q ∨ m = q + 1 := by omega
  · split_ifs <;> omega
  · rw [Nat.mul_add, Nat.mul_one] at hlow hhigh hodd
    split_ifs <;> omega

/-! ### Fractions in units of a power of two -/

/-- A fraction in units of `2 ^ e`, as numerator and denominator. -/
def inUnits (n d : ℕ) (e : ℤ) : ℕ × ℕ :=
  if 0 ≤ e then (n, d * Nat.pow 2 e.toNat) else (n * Nat.pow 2 (-e).toNat, d)

variable {n d m : ℕ} {e : ℤ} {x : ℚ}

/-- The quotient of the two numbers is the fraction over the unit. -/
theorem inUnits_spec (hd : 0 < d) (hx : x = n / d) (e : ℤ) :
    0 < (inUnits n d e).2 ∧ ((inUnits n d e).1 : ℚ) = x / 2 ^ e * (inUnits n d e).2 := by
  have hd' : (d : ℚ) ≠ 0 := by exact_mod_cast hd.ne'
  have hpow : (2 : ℚ) ^ e ≠ 0 := zpow_ne_zero e (by norm_num)
  rw [hx, inUnits]
  split
  next h =>
    obtain ⟨k, rfl⟩ := Int.eq_ofNat_of_zero_le h
    refine ⟨Nat.mul_pos hd (Nat.pow_pos (by decide)), ?_⟩
    simp only [Int.toNat_natCast, Nat.pow_eq, Nat.cast_mul, Nat.cast_pow, Nat.cast_ofNat, zpow_natCast]
    field_simp
  next h =>
    obtain ⟨k, hk⟩ := Int.eq_ofNat_of_zero_le (show 0 ≤ -e by omega)
    obtain rfl : e = -(k : ℤ) := by omega
    refine ⟨hd, ?_⟩
    simp only [neg_neg, Int.toNat_natCast, Nat.pow_eq, Nat.cast_mul, Nat.cast_pow, Nat.cast_ofNat,
      zpow_neg, zpow_natCast]
    field_simp

/-- A fraction in units of a power of two is rounded to a number of units from which it is no more than half
a unit away. -/
theorem roundDiv_inUnits (hd : 0 < d) (hx : x = n / d) (hlow : (m - 1 / 2) * 2 ^ e ≤ x)
    (hhigh : x ≤ (m + 1 / 2) * 2 ^ e)
    (hodd : m % 2 = 1 → (m - 1 / 2) * 2 ^ e < x ∧ x < (m + 1 / 2) * 2 ^ e) :
    roundDiv (inUnits n d e).1 (inUnits n d e).2 = m := by
  obtain ⟨hpos, hunits⟩ := inUnits_spec hd hx e
  generalize (inUnits n d e).1 = a at hunits ⊢
  generalize (inUnits n d e).2 = b at hunits hpos ⊢
  have hb : (0 : ℚ) < b := by exact_mod_cast hpos
  have hpow : (0 : ℚ) < 2 ^ e := by positivity
  rw [← le_div_iff₀ hpow] at hlow
  rw [← div_le_iff₀ hpow] at hhigh
  rw [← lt_div_iff₀ hpow, ← div_lt_iff₀ hpow] at hodd
  generalize x / 2 ^ e = y at hunits hlow hhigh hodd
  -- the bounds in whole numbers
  have hlow' : ((2 * (m * b) : ℕ) : ℚ) ≤ (2 * a + b : ℕ) := by
    push_cast
    nlinarith
  have hhigh' : ((2 * a : ℕ) : ℚ) ≤ (2 * (m * b) + b : ℕ) := by
    push_cast
    nlinarith
  refine roundDiv_eq hpos (by exact_mod_cast hlow') (by exact_mod_cast hhigh') fun hm => ?_
  obtain ⟨hlow, hhigh⟩ := hodd hm
  have hlow' : ((2 * (m * b) : ℕ) : ℚ) < (2 * a + b : ℕ) := by
    push_cast
    nlinarith
  have hhigh' : ((2 * a : ℕ) : ℚ) < (2 * (m * b) + b : ℕ) := by
    push_cast
    nlinarith
  exact ⟨by exact_mod_cast hlow', by exact_mod_cast hhigh'⟩

/-! ### The unit of a fraction -/

/-- The exponent of the unit in which a fraction has 53 digits. -/
def unitExponent (n d : ℕ) : ℤ :=
  let guess : ℤ := (Nat.log2 n : ℤ) - Nat.log2 d - 53
  if Nat.pow 2 53 ≤ (inUnits n d guess).1 / (inUnits n d guess).2 then guess + 1 else guess

/-- Whether a fraction is at least so many units. -/
theorem le_div_inUnits_iff (hd : 0 < d) (hx : x = n / d) (e : ℤ) :
    m ≤ (inUnits n d e).1 / (inUnits n d e).2 ↔ m * 2 ^ e ≤ x := by
  obtain ⟨hpos, hunits⟩ := inUnits_spec hd hx e
  generalize (inUnits n d e).1 = a at hunits ⊢
  generalize (inUnits n d e).2 = b at hunits hpos ⊢
  have hb : (0 : ℚ) < b := by exact_mod_cast hpos
  have hpow : (0 : ℚ) < 2 ^ e := by positivity
  rw [Nat.le_div_iff_mul_le hpos, ← Nat.cast_le (α := ℚ), Nat.cast_mul, hunits,
    mul_le_mul_iff_of_pos_right hb, le_div_iff₀ hpow]

theorem log2_spec (hn : 0 < n) : (2 : ℚ) ^ (n.log2 : ℤ) ≤ n ∧ (n : ℚ) < 2 ^ (n.log2 + 1 : ℤ) := by
  constructor
  · exact_mod_cast Nat.log2_self_le hn.ne'
  · exact_mod_cast Nat.lt_log2_self

/-- The lengths of the two numbers of a fraction leave two places for the unit. -/
theorem guess_spec (hn : 0 < n) (hd : 0 < d) (hx : x = n / d) :
    2 ^ 52 * 2 ^ ((n.log2 : ℤ) - d.log2 - 53) < x ∧ x < 2 ^ 54 * 2 ^ ((n.log2 : ℤ) - d.log2 - 53) := by
  have hpos : (0 : ℚ) < d := by exact_mod_cast hd
  obtain ⟨hn_low, hn_high⟩ := log2_spec hn
  obtain ⟨hd_low, hd_high⟩ := log2_spec hd
  have hlength {a : ℕ} {b c e : ℤ} (h : a + e + b = c) : (2 : ℚ) ^ a * 2 ^ e * 2 ^ b = 2 ^ c := by
    rw [← zpow_natCast, ← zpow_add₀ (by norm_num), ← zpow_add₀ (by norm_num), h]
  generalize hguess : (n.log2 : ℤ) - d.log2 - 53 = guess
  rw [hx, lt_div_iff₀ hpos, div_lt_iff₀ hpos]
  constructor
  · calc (2 : ℚ) ^ 52 * 2 ^ guess * d < 2 ^ 52 * 2 ^ guess * 2 ^ (d.log2 + 1 : ℤ) :=
          mul_lt_mul_of_pos_left hd_high (by positivity)
      _ = 2 ^ (n.log2 : ℤ) := hlength (by omega)
      _ ≤ n := hn_low
  · calc (n : ℚ) < 2 ^ (n.log2 + 1 : ℤ) := hn_high
      _ = 2 ^ 54 * 2 ^ guess * 2 ^ (d.log2 : ℤ) := (hlength (by omega)).symm
      _ ≤ 2 ^ 54 * 2 ^ guess * d := mul_le_mul_of_nonneg_left hd_low (by positivity)

/-- A fraction has 53 digits before the point of its unit. -/
theorem unitExponent_spec (hn : 0 < n) (hd : 0 < d) (hx : x = n / d) :
    2 ^ 52 * 2 ^ unitExponent n d ≤ x ∧ x < 2 ^ 53 * 2 ^ unitExponent n d := by
  obtain ⟨hlow, hhigh⟩ := guess_spec hn hd hx
  rw [unitExponent]
  generalize (n.log2 : ℤ) - d.log2 - 53 = guess at hlow hhigh ⊢
  have hlarge :
      Nat.pow 2 53 ≤ (inUnits n d guess).1 / (inUnits n d guess).2 ↔ 2 ^ 53 * 2 ^ guess ≤ x := by
    rw [le_div_inUnits_iff hd hx, Nat.pow_eq, Nat.cast_pow, Nat.cast_ofNat]
  split
  next h =>
    rw [zpow_add_one₀ (by norm_num)]
    have hmost := hlarge.mp h
    constructor <;> linarith
  next h =>
    exact ⟨hlow.le, lt_of_not_ge fun hmost => h (hlarge.mpr hmost)⟩

/-- A fraction has 53 digits in one unit only. -/
theorem eq_of_unit {e f : ℤ} (he : 2 ^ 52 * 2 ^ e ≤ x ∧ x < 2 ^ 53 * 2 ^ e)
    (hf : 2 ^ 52 * 2 ^ f ≤ x ∧ x < 2 ^ 53 * 2 ^ f) : e = f := by
  have hle {e f : ℤ} (he : 2 ^ 52 * 2 ^ e ≤ x) (hf : x < 2 ^ 53 * 2 ^ f) : e ≤ f := by
    have hpow : (2 : ℚ) ^ e < 2 ^ (f + 1) := by
      rw [zpow_add_one₀ (by norm_num)]
      linarith
    exact Int.lt_add_one_iff.mp ((zpow_lt_zpow_iff_right₀ (by norm_num)).mp hpow)
  exact le_antisymm (hle he.1 hf.2) (hle hf.1 he.2)

/-! ### Numbers and the fractions that round to them -/

/-- The normal form of a number that is not zero: 53 digits at most, and as many as the least exponent
allows. -/
structure IsNormal (m : ℕ) (e : ℤ) : Prop where
  pos : 0 < m
  lt : m < 2 ^ 53
  least : minExponent ≤ e
  greatest : e ≤ maxExponent
  full : e = minExponent ∨ 2 ^ 52 ≤ m

/-- A fraction in the range in which every fraction rounds to `m · 2 ^ e`; the ends of the range belong to it
if `m` is even. -/
structure RoundsTo (x : ℚ) (m : ℕ) (e : ℤ) : Prop where
  low : (roundingRange m e).1 * 2 ^ (e - 2) ≤ x
  high : x ≤ (roundingRange m e).2 * 2 ^ (e - 2)
  odd : m % 2 = 1 → (roundingRange m e).1 * 2 ^ (e - 2) < x ∧ x < (roundingRange m e).2 * 2 ^ (e - 2)

theorem two_zpow_eq (e : ℤ) : (2 : ℚ) ^ e = 4 * 2 ^ (e - 2) := by
  rw [zpow_sub₀ (by norm_num)]
  norm_num
  ring

/-- The least fraction that rounds to a number is half a unit below it, or a quarter where the unit changes. -/
theorem roundingRange_low (hpos : 0 < m) (e : ℤ) :
    ((roundingRange m e).1 : ℚ) * 2 ^ (e - 2) =
      if m = 2 ^ 52 ∧ minExponent < e then ((m : ℚ) - 1 / 4) * 2 ^ e else ((m : ℚ) - 1 / 2) * 2 ^ e := by
  rw [roundingRange, two_zpow_eq e]
  simp only [Nat.pow_eq, Bool.and_eq_true, decide_eq_true_eq]
  split
  · rw [Nat.cast_sub (by omega)]
    push_cast
    ring
  · rw [Nat.cast_sub (by omega)]
    push_cast
    ring

theorem roundingRange_high (m : ℕ) (e : ℤ) :
    ((roundingRange m e).2 : ℚ) * 2 ^ (e - 2) = (m + 1 / 2) * 2 ^ e := by
  rw [roundingRange, two_zpow_eq e]
  push_cast
  ring

/-- What rounds to a number is no more than half a unit away from it. -/
theorem RoundsTo.near (h : RoundsTo x m e) (hpos : 0 < m) :
    (m - 1 / 2) * 2 ^ e ≤ x ∧ x ≤ (m + 1 / 2) * 2 ^ e ∧
      (m % 2 = 1 → (m - 1 / 2) * 2 ^ e < x ∧ x < (m + 1 / 2) * 2 ^ e) := by
  obtain ⟨hlow, hhigh, hodd⟩ := h
  rw [roundingRange_high] at hhigh hodd
  rw [roundingRange_low hpos] at hlow hodd
  have hpow : (0 : ℚ) < 2 ^ e := by positivity
  split_ifs at hlow hodd
  · refine ⟨by nlinarith, hhigh, fun hm => ⟨?_, (hodd hm).2⟩⟩
    have hless := (hodd hm).1
    nlinarith
  · exact ⟨hlow, hhigh, hodd⟩

theorem RoundsTo.pos (h : RoundsTo x m e) (hm : 0 < m) : 0 < x := by
  have hlow := (h.near hm).1
  have hone : (1 : ℚ) ≤ m := by exact_mod_cast hm
  have hunit : (0 : ℚ) < 2 ^ e := by positivity
  nlinarith

theorem RoundsTo.of_lt (hlow : (roundingRange m e).1 * 2 ^ (e - 2) < x)
    (hhigh : x < (roundingRange m e).2 * 2 ^ (e - 2)) : RoundsTo x m e :=
  ⟨hlow.le, hhigh.le, fun _ => ⟨hlow, hhigh⟩⟩

/-! ### The number nearest to a fraction -/

theorem ofRatio_eq (negative : Bool) (hn : n ≠ 0) (d : ℕ) :
    ofRatio negative n d =
      let e := max minExponent (unitExponent n d)
      let m := roundDiv (inUnits n d e).1 (inUnits n d e).2
      let rounded := if m = Nat.pow 2 53 then (Nat.pow 2 52, e + 1) else (m, e)
      if maxExponent < rounded.2 then .infinite negative else .finite negative rounded.1 rounded.2 := by
  rw [ofRatio, if_neg hn]
  simp only [decide_eq_true_eq]
  rfl

/-- A fraction in the range of a number but not in its unit is just below the least number with that unit. -/
theorem RoundsTo.of_unit_ne (h : RoundsTo x m e) (hm : IsNormal m e) (hn : 0 < n) (hd : 0 < d)
    (hx : x = n / d) (hne : max minExponent (unitExponent n d) ≠ e) :
    m = 2 ^ 52 ∧ max minExponent (unitExponent n d) = e - 1 ∧
      roundDiv (inUnits n d (e - 1)).1 (inUnits n d (e - 1)).2 = 2 ^ 53 := by
  have hunit := unitExponent_spec hn hd hx
  have hpow : (0 : ℚ) < 2 ^ e := by positivity
  have hhalf : (2 : ℚ) ^ (e - 1) = 2 ^ e / 2 := zpow_sub_one₀ (by norm_num) e
  have hmost : (m : ℚ) + 1 ≤ 2 ^ 53 := by exact_mod_cast hm.lt
  have hleast := hm.least
  obtain ⟨hlow, hhigh, -⟩ := h.near hm.pos
  -- with 53 digits in the unit of the number the fraction would have that unit
  have hless : x < 2 ^ 52 * 2 ^ e := by
    by_contra hge
    have hsame : unitExponent n d = e := eq_of_unit hunit ⟨not_lt.mp hge, by nlinarith⟩
    omega
  have hbelow : unitExponent n d < e := by
    have hpows : (2 : ℚ) ^ unitExponent n d < 2 ^ e := by linarith [hunit.1]
    exact (zpow_lt_zpow_iff_right₀ (by norm_num)).mp hpows
  have hmin : minExponent < e := by omega
  -- any greater significand would keep the fraction above the place where the unit changes
  have hsig : m = 2 ^ 52 := by
    have hfull : 2 ^ 52 ≤ m := hm.full.resolve_left (by omega)
    by_contra hsig
    have hmore : ((2 : ℚ) ^ 52 + 1) ≤ m := by
      exact_mod_cast (show 2 ^ 52 + 1 ≤ m by omega)
    nlinarith
  have hquarter : ((m : ℚ) - 1 / 4) * 2 ^ e ≤ x := by
    have hlow := h.low
    rwa [roundingRange_low hm.pos, if_pos ⟨hsig, hmin⟩] at hlow
  subst hsig
  push_cast at hquarter
  have hsame : unitExponent n d = e - 1 := by
    apply eq_of_unit hunit
    rw [hhalf]
    constructor <;> linarith
  refine ⟨rfl, by omega, roundDiv_inUnits hd hx ?_ ?_ fun hodd => absurd hodd (by decide)⟩
  · rw [hhalf]
    push_cast
    linarith
  · rw [hhalf]
    push_cast
    linarith

/-- A fraction rounds to the number in whose range it is. -/
theorem RoundsTo.ofRatio_eq (h : RoundsTo x m e) (hm : IsNormal m e) (hn : 0 < n) (hd : 0 < d)
    (hx : x = n / d) (negative : Bool) : ofRatio negative n d = .finite negative m e := by
  obtain ⟨hlow, hhigh, hodd⟩ := h.near hm.pos
  have hgreatest : ¬ maxExponent < e := not_lt.mpr hm.greatest
  rw [Binary64.ofRatio_eq negative hn.ne']
  by_cases hsame : max minExponent (unitExponent n d) = e
  · have hround := roundDiv_inUnits hd hx hlow hhigh hodd
    have hless : m ≠ Nat.pow 2 53 := hm.lt.ne
    simp only [hsame, hround, if_neg hless, if_neg hgreatest]
  · -- the digits carry into the unit of the number
    obtain ⟨rfl, hunit, hround⟩ := h.of_unit_ne hm hn hd hx hsame
    simp only [hunit, hround, Nat.pow_eq, if_true, sub_add_cancel, if_neg hgreatest]

end Cutover.Binary64
