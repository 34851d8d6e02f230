import Cutover.Proofs.NumeralText
import Cutover.Proofs.RoundedNumber
import Mathlib.Data.List.DropRight

/-!
# Shortest decimals round to their numbers

The digits that are written for a number are a decimal that rounds to it (`digits_spec`), and a decimal that
rounds to a number is read as the number (`RoundsTo.ofDecimal_eq`).

The decimals with as many digits behind the point are the steps of a grid.  The search compares two steps, the
last one that the number has reached and the next one, with the range of what rounds to the number, in whole
parts; the comparisons decide exactly whether a step rounds to the number (`isInside_iff`).  The first digit
is where the search supposes it (`decimalPoint_spec`), so that the steps for seventeen digits are narrower
than the range and one of the two is inside (`isInside_of_narrow`): the search ends.  Zeros at the end of
what it found only move the point (`significant_spec`).
-/

namespace Cutover.Binary64

open Text

variable {n d m count k : ℕ} {e scale : ℤ} {x : ℚ}

/-! ### The fraction of a number and the place of its point -/

/-- Digits that are moved before the point count by as much more. -/
theorem ten_pow_mul_zpow {places : ℕ} {k l : ℤ} (h : places + k = l) :
    (10 : ℚ) ^ places * 10 ^ k = 10 ^ l := by
  rw [← zpow_natCast, ← zpow_add₀ (by norm_num), h]

theorem fraction_pos (m : ℕ) (e : ℤ) : 0 < (fraction m e).2 := by
  rw [fraction]
  split
  · exact Nat.one_pos
  · exact Nat.pow_pos (by decide)

theorem fraction_eq (m : ℕ) (e : ℤ) : ((fraction m e).1 : ℚ) = m * 2 ^ e * (fraction m e).2 := by
  rw [fraction]
  split
  next h =>
    obtain ⟨k, rfl⟩ := Int.eq_ofNat_of_zero_le h
    simp
  next h =>
    obtain ⟨k, hk⟩ := Int.eq_ofNat_of_zero_le (show 0 ≤ -e by omega)
    obtain rfl : e = -(k : ℤ) := by omega
    simp

/-- How many digits there are in the whole part of a fraction. -/
theorem length_quotient (hd : 0 < d) (hle : d ≤ n) :
    10 ^ (Numeral.write (n / d)).length * d ≤ 10 * (n : ℚ) ∧
      (n : ℚ) < 10 ^ (Numeral.write (n / d)).length * d := by
  have hfirst := Numeral.pow_length_write_le (Nat.div_pos hle hd)
  have hless : n < 10 ^ (Numeral.write (n / d)).length * d :=
    (Nat.div_lt_iff_lt_mul hd).mp (Numeral.lt_pow_length_write (n / d))
  generalize (Numeral.write (n / d)).length = length at hfirst hless
  have hmost : 10 ^ length * d ≤ 10 * n :=
    calc 10 ^ length * d ≤ 10 * (n / d) * d := Nat.mul_le_mul_right d hfirst
      _ ≤ 10 * n := by
        rw [Nat.mul_assoc]
        exact Nat.mul_le_mul_left 10 (Nat.div_mul_le_self n d)
  exact ⟨by exact_mod_cast hmost, by exact_mod_cast hless⟩

/-- The digits of a fraction begin at its point. -/
theorem decimalPoint_spec (hn : 0 < n) (hd : 0 < d) (hx : x = n / d) :
    10 ^ (decimalPoint n d - 1) ≤ x ∧ x < 10 ^ decimalPoint n d := by
  have hn' : (0 : ℚ) < n := by exact_mod_cast hn
  have hd' : (0 : ℚ) < d := by exact_mod_cast hd
  rw [decimalPoint, hx, le_div_iff₀ hd', div_lt_iff₀ hd', zpow_sub_one₀ (by norm_num)]
  split
  next hle =>
    obtain ⟨hmost, hless⟩ := length_quotient hd hle
    rw [zpow_natCast]
    exact ⟨by linarith, hless⟩
  next hlt =>
    -- the place of the first digit behind the point is found in the other quotient
    obtain ⟨hmost, hless⟩ := length_quotient hn (Nat.le_of_not_le hlt)
    generalize (Numeral.write (d / n)).length = length at hmost hless ⊢
    have hpow : (0 : ℚ) < 10 ^ length := by positivity
    have hplace (k : ℤ) : (10 : ℚ) ^ length * 10 ^ (k - length) = 10 ^ k :=
      ten_pow_mul_zpow (add_sub_cancel _ _)
    simp only [Nat.pow_eq]
    split
    next hsmall =>
      have hsmall : (n : ℚ) * 10 ^ length < d * 10 := by exact_mod_cast hsmall
      have hpoint : (10 : ℚ) ^ length * 10 ^ (1 - (length : ℤ)) = 10 := hplace 1
      generalize (10 : ℚ) ^ (1 - (length : ℤ)) = point at hpoint
      constructor <;> nlinarith
    next hlarge =>
      have hlarge : (d : ℚ) * 10 ≤ n * 10 ^ length := by exact_mod_cast not_lt.mp hlarge
      have hpoint : (10 : ℚ) ^ length * 10 ^ (2 - (length : ℤ)) = 10 ^ (2 : ℤ) := hplace 2
      generalize (10 : ℚ) ^ (2 - (length : ℤ)) = point at hpoint
      constructor <;> nlinarith

/-! ### Decimals of a given length -/

/-- Quarters of the unit of a number on a grid of decimals, in parts so small that they and the steps of
the grid are whole. -/
def onGrid (e scale : ℤ) (quarters : ℕ) : ℕ :=
  if 0 ≤ scale then quarters * (fraction 1 (e - 2)).1 * Nat.pow 10 scale.toNat
  else quarters * (fraction 1 (e - 2)).1

/-- The step of the grid in the same parts. -/
def gridStep (e scale : ℤ) : ℕ :=
  if 0 ≤ scale then (fraction 1 (e - 2)).2 else (fraction 1 (e - 2)).2 * Nat.pow 10 (-scale).toNat

/-- Whether so many steps of the grid round to a number. -/
def isInside (m : ℕ) (e scale : ℤ) (k : ℕ) : Bool :=
  if m % 2 = 0 then
    onGrid e scale (roundingRange m e).1 ≤ k * gridStep e scale &&
      k * gridStep e scale ≤ onGrid e scale (roundingRange m e).2
  else
    onGrid e scale (roundingRange m e).1 < k * gridStep e scale &&
      k * gridStep e scale < onGrid e scale (roundingRange m e).2

/-- The step of the grid at which a number is, or the last one before it. -/
def lastStep (m : ℕ) (e scale : ℤ) : ℕ :=
  onGrid e scale (4 * m) / gridStep e scale

/-- Of the two steps around a number one that is inside is chosen. -/
theorem exists_decimalOfLength?_eq (m : ℕ) (e : ℤ) {scale point : ℤ} (hscale : scale = count - point) :
    ∃ nearer, (nearer = lastStep m e scale ∨ nearer = lastStep m e scale + 1) ∧
      decimalOfLength? m e point count =
        if isInside m e scale (lastStep m e scale) && isInside m e scale (lastStep m e scale + 1) then
          some nearer
        else if isInside m e scale (lastStep m e scale) then some (lastStep m e scale)
        else if isInside m e scale (lastStep m e scale + 1) then some (lastStep m e scale + 1)
        else none := by
  subst hscale
  let distance :=
    onGrid e (count - point) (4 * m) - lastStep m e (count - point) * gridStep e (count - point)
  refine ⟨if 2 * distance ≤ gridStep e (count - point) then lastStep m e (count - point)
    else lastStep m e (count - point) + 1, ?_, rfl⟩
  split
  · exact .inl rfl
  · exact .inr rfl

/-- What the parts of a grid are. -/
theorem exists_parts (e scale : ℤ) : ∃ parts : ℕ, 0 < parts ∧
    (∀ quarters : ℕ, (onGrid e scale quarters : ℚ) = quarters * 2 ^ (e - 2) * parts) ∧
    (gridStep e scale : ℚ) = 10 ^ (-scale) * parts := by
  have hunit := fraction_eq 1 (e - 2)
  have hpos := fraction_pos 1 (e - 2)
  rw [Nat.cast_one, one_mul] at hunit
  simp only [onGrid, gridStep]
  split
  next h =>
    obtain ⟨k, rfl⟩ := Int.eq_ofNat_of_zero_le h
    refine ⟨(fraction 1 (e - 2)).2 * 10 ^ k, Nat.mul_pos hpos (Nat.pow_pos (by decide)),
      fun quarters => ?_, ?_⟩
    · simp only [Int.toNat_natCast, Nat.pow_eq, Nat.cast_mul, Nat.cast_pow, Nat.cast_ofNat, hunit]
      ring
    · simp only [Nat.cast_mul, Nat.cast_pow, Nat.cast_ofNat, zpow_neg, zpow_natCast]
      field_simp
  next h =>
    obtain ⟨k, hk⟩ := Int.eq_ofNat_of_zero_le (show 0 ≤ -scale by omega)
    refine ⟨(fraction 1 (e - 2)).2, hpos, fun quarters => ?_, ?_⟩
    · rw [Nat.cast_mul, hunit]
      ring
    · simp only [hk, Int.toNat_natCast, Nat.pow_eq, Nat.cast_mul, Nat.cast_pow, Nat.cast_ofNat, zpow_natCast]
      ring

/-- So many steps of the grid are inside if they are in the range of what rounds to the number. -/
theorem isInside_iff : isInside m e scale k = true ↔ RoundsTo (k * 10 ^ (-scale)) m e := by
  obtain ⟨parts, hparts, hgrid, hstep⟩ := exists_parts e scale
  have hpos : (0 : ℚ) < parts := by exact_mod_cast hparts
  have hsteps : ((k * gridStep e scale : ℕ) : ℚ) = k * 10 ^ (-scale) * parts := by
    rw [Nat.cast_mul, hstep, mul_assoc]
  have hle (quarters : ℕ) : onGrid e scale quarters ≤ k * gridStep e scale ↔
      (quarters : ℚ) * 2 ^ (e - 2) ≤ k * 10 ^ (-scale) := by
    rw [← Nat.cast_le (α := ℚ), hsteps, hgrid, mul_le_mul_iff_of_pos_right hpos]
  have hge (quarters : ℕ) : k * gridStep e scale ≤ onGrid e scale quarters ↔
      k * 10 ^ (-scale) ≤ (quarters : ℚ) * 2 ^ (e - 2) := by
    rw [← Nat.cast_le (α := ℚ), hsteps, hgrid, mul_le_mul_iff_of_pos_right hpos]
  have hlt (quarters : ℕ) : onGrid e scale quarters < k * gridStep e scale ↔
      (quarters : ℚ) * 2 ^ (e - 2) < k * 10 ^ (-scale) := by
    rw [← not_le, hge, not_le]
  have hgt (quarters : ℕ) : k * gridStep e scale < onGrid e scale quarters ↔
      k * 10 ^ (-scale) < (quarters : ℚ) * 2 ^ (e - 2) := by
    rw [← not_le, hle, not_le]
  rw [isInside]
  split
  next heven =>
    rw [Bool.and_eq_true, decide_eq_true_eq, decide_eq_true_eq, hle, hge]
    exact ⟨fun ⟨hlow, hhigh⟩ => ⟨hlow, hhigh, fun hodd => by omega⟩, fun h => ⟨h.low, h.high⟩⟩
  next hodd =>
    rw [Bool.and_eq_true, decide_eq_true_eq, decide_eq_true_eq, hlt, hgt]
    exact ⟨fun h => ⟨h.1.le, h.2.le, fun _ => h⟩, fun h => h.odd (by omega)⟩

/-- The number is between two steps of the grid. -/
theorem lastStep_spec (m : ℕ) (e scale : ℤ) :
    (lastStep m e scale : ℚ) * 10 ^ (-scale) ≤ m * 2 ^ e ∧
      m * 2 ^ e < (lastStep m e scale + 1 : ℚ) * 10 ^ (-scale) := by
  obtain ⟨parts, hparts, hgrid, hstep⟩ := exists_parts e scale
  have hpos : (0 : ℚ) < parts := by exact_mod_cast hparts
  have hwhole : ((onGrid e scale (4 * m) : ℕ) : ℚ) = m * 2 ^ e * parts := by
    rw [hgrid, two_zpow_eq e]
    push_cast
    ring
  have hsteps : 0 < gridStep e scale := by
    have hpow : (0 : ℚ) < 10 ^ (-scale) * parts := by positivity
    exact_mod_cast hstep ▸ hpow
  have hlow : lastStep m e scale * gridStep e scale ≤ onGrid e scale (4 * m) := Nat.div_mul_le_self _ _
  have hhigh : onGrid e scale (4 * m) < (lastStep m e scale + 1) * gridStep e scale :=
    Nat.lt_mul_of_div_lt (Nat.lt_succ_self _) hsteps
  rw [← Nat.cast_le (α := ℚ), Nat.cast_mul, hstep, hwhole, ← mul_assoc] at hlow
  rw [← Nat.cast_lt (α := ℚ), Nat.cast_mul, hstep, hwhole, ← mul_assoc, Nat.cast_add_one] at hhigh
  exact ⟨le_of_mul_le_mul_right hlow hpos, lt_of_mul_lt_mul_right hhigh hpos.le⟩

/-- On a grid of seventeen digits one of the steps around a number rounds to it. -/
theorem isInside_of_narrow (hm : IsNormal m e) (hnarrow : 10 ^ 16 * 10 ^ (-scale) ≤ (m : ℚ) * 2 ^ e) :
    isInside m e scale (lastStep m e scale) = true ∨ isInside m e scale (lastStep m e scale + 1) = true := by
  obtain ⟨hbelow, habove⟩ := lastStep_spec m e scale
  rw [isInside_iff, isInside_iff]
  generalize lastStep m e scale = last at hbelow habove ⊢
  generalize (10 : ℚ) ^ (-scale) = step at hnarrow hbelow habove ⊢
  have hunit : (0 : ℚ) < 2 ^ e := by positivity
  have hmost : (m : ℚ) < 2 ^ 53 := by exact_mod_cast hm.lt
  -- the range is wider than a step, and the number is inside
  have hwide : ((roundingRange m e).1 : ℚ) * 2 ^ (e - 2) + step < (roundingRange m e).2 * 2 ^ (e - 2) ∧
      ((roundingRange m e).1 : ℚ) * 2 ^ (e - 2) < m * 2 ^ e := by
    rw [roundingRange_low hm.pos, roundingRange_high]
    split_ifs with hleast
    · have hsig : (m : ℚ) = 2 ^ 52 := by exact_mod_cast hleast.1
      rw [hsig] at hnarrow ⊢
      constructor <;> nlinarith
    · constructor <;> nlinarith
  -- if the last step is still below the range, the next one cannot be beyond it
  by_cases hin : ((roundingRange m e).1 : ℚ) * 2 ^ (e - 2) < last * step
  · left
    refine .of_lt hin ?_
    rw [roundingRange_high]
    nlinarith
  · right
    push_cast
    exact .of_lt (by linarith) (by linarith)

/-- A decimal that was chosen rounds to the number and is no more than a step above it. -/
theorem of_decimalOfLength? {point : ℤ} (h : decimalOfLength? m e point count = some k) :
    RoundsTo (k * 10 ^ (point - count)) m e ∧ (k - 1 : ℚ) * 10 ^ (point - count) ≤ m * 2 ^ e := by
  obtain ⟨scale, hscale⟩ : ∃ scale : ℤ, scale = count - point := ⟨_, rfl⟩
  obtain ⟨nearer, hnearer, heq⟩ := exists_decimalOfLength?_eq m e hscale
  have hback : point - count = -scale := by omega
  rw [heq] at h
  rw [hback, ← isInside_iff]
  obtain ⟨hinside, hk⟩ :
      isInside m e scale k = true ∧ (k = lastStep m e scale ∨ k = lastStep m e scale + 1) := by
    generalize lastStep m e scale = last at h hnearer
    grind
  have hlast := (lastStep_spec m e scale).1
  have hpos : (0 : ℚ) < 10 ^ (-scale) := by positivity
  refine ⟨hinside, ?_⟩
  obtain rfl | rfl := hk
  · linarith
  · rw [Nat.cast_add_one, add_sub_cancel_right]
    exact hlast

/-- Seventeen digits suffice. -/
theorem exists_decimalOfLength? {point : ℤ} (hm : IsNormal m e)
    (hpoint : 10 ^ (point - 1) ≤ (m : ℚ) * 2 ^ e) : ∃ k, decimalOfLength? m e point 17 = some k := by
  obtain ⟨scale, hscale⟩ : ∃ scale : ℤ, scale = (17 : ℕ) - point := ⟨_, rfl⟩
  obtain ⟨nearer, -, heq⟩ := exists_decimalOfLength?_eq m e hscale
  have hinside : isInside m e scale (lastStep m e scale) = true ∨
      isInside m e scale (lastStep m e scale + 1) = true := by
    apply isInside_of_narrow hm
    rwa [ten_pow_mul_zpow (show ((16 : ℕ) : ℤ) + -scale = point - 1 by omega)]
  rw [heq]
  split_ifs with hboth hlast hnext
  · exact ⟨_, rfl⟩
  · exact ⟨_, rfl⟩
  · exact ⟨_, rfl⟩
  · exact (hinside.elim hlast hnext).elim

/-! ### The digits that are written -/

/-- What is dropped from the end of a row of digits are zeros. -/
theorem exists_dropEndWhile (cs : List Char) :
    ∃ zeros, cs = dropEndWhile (· == '0') cs ++ List.replicate zeros '0' := by
  have hzeros : cs.rtakeWhile (· == '0') = List.replicate (cs.rtakeWhile (· == '0')).length '0' :=
    List.eq_replicate_iff.mpr ⟨rfl, fun c hc => beq_iff_eq.mp (List.mem_rtakeWhile_imp (p := (· == '0')) hc)⟩
  refine ⟨(cs.rtakeWhile (· == '0')).length, ?_⟩
  rw [← hzeros]
  exact List.rdropWhile_append_rtakeWhile.symm

/-- Digits that begin with another one than a zero, as they are written for a number. -/
structure AreDigits (ds : List Char) : Prop where
  digits : ∀ c ∈ ds, Numeral.isDigit c = true
  first : ∃ c cs, ds = c :: cs ∧ c ≠ '0'

theorem AreDigits.length_pos {ds : List Char} (h : AreDigits ds) : 0 < ds.length := by
  obtain ⟨c, cs, rfl, -⟩ := h.first
  exact Nat.succ_pos cs.length

/-- Zeros at the end only move the point. -/
theorem significant_spec (k : ℕ) (point : ℤ) (count : ℕ) :
    (Numeral.read (significant k point count).1 : ℚ) *
        10 ^ ((significant k point count).2 - (significant k point count).1.length) =
      k * 10 ^ (point - count) := by
  obtain ⟨zeros, hzeros⟩ := exists_dropEndWhile (Numeral.write k)
  have hread : Numeral.read (Numeral.write k) = k := Numeral.read_write k
  have hlength : (Numeral.write k).length = (dropEndWhile (· == '0') (Numeral.write k)).length + zeros := by
    conv_lhs => rw [hzeros]
    rw [List.length_append, List.length_replicate]
  rw [hzeros, Numeral.read_append_replicate] at hread
  rw [significant]
  dsimp only
  rw [hlength]
  generalize dropEndWhile (· == '0') (Numeral.write k) = ds at hread ⊢
  have hpow : (10 : ℚ) ^ (point + ((ds.length + zeros : ℕ) - count) - ds.length : ℤ) =
      10 ^ zeros * 10 ^ (point - count) :=
    (ten_pow_mul_zpow (by omega)).symm
  rw [hpow, ← hread]
  push_cast
  ring

/-- The digits of a number that is not zero, without zeros at the end. -/
theorem areDigits_significant (hk : 0 < k) (point : ℤ) (count : ℕ) :
    AreDigits (significant k point count).1 := by
  obtain ⟨zeros, hzeros⟩ := exists_dropEndWhile (Numeral.write k)
  obtain ⟨c, cs, hwrite, hc⟩ := Numeral.exists_write_eq_cons_of_pos hk
  have hdigits := Numeral.write_digits k
  rw [significant]
  dsimp only
  generalize dropEndWhile (· == '0') (Numeral.write k) = ds at hzeros ⊢
  rw [hzeros] at hdigits hwrite
  refine ⟨fun c hc => hdigits c (List.mem_append_left _ hc), ?_⟩
  cases ds with
  | nil =>
    have hmem : c ∈ List.replicate zeros '0' := by
      rw [List.nil_append] at hwrite
      exact hwrite ▸ List.mem_cons_self
    exact absurd (List.eq_of_mem_replicate hmem) hc
  | cons first ds => exact ⟨first, ds, rfl, (List.cons.inj hwrite).1 ▸ hc⟩

theorem length_significant_le {length : ℕ} (hlength : 0 < length) (hk : k < 10 ^ length) (point : ℤ)
    (count : ℕ) : (significant k point count).1.length ≤ length := by
  obtain ⟨zeros, hzeros⟩ := exists_dropEndWhile (Numeral.write k)
  have hmost := Numeral.length_write_le hlength hk
  rw [hzeros, List.length_append] at hmost
  exact le_trans (Nat.le_add_right _ _) hmost

/-- What is written for a number are the digits of a decimal that was chosen. -/
theorem exists_digits_eq (hm : IsNormal m e) :
    ∃ k count point, digits m e = significant k point count ∧ decimalOfLength? m e point count = some k ∧
      count ≤ 17 ∧ (m : ℚ) * 2 ^ e < 10 ^ point := by
  have hden := fraction_pos m e
  have hfraction := fraction_eq m e
  rw [digits]
  generalize fraction m e = ratio at hden hfraction ⊢
  obtain ⟨n, d⟩ := ratio
  dsimp only at hden hfraction ⊢
  have hden' : (0 : ℚ) < d := by exact_mod_cast hden
  have hm' : (0 : ℚ) < m := by exact_mod_cast hm.pos
  have hnum : 0 < n := by
    have hpos : (0 : ℚ) < m * 2 ^ e * d := by positivity
    exact_mod_cast hfraction ▸ hpos
  obtain ⟨hlow, hhigh⟩ := decimalPoint_spec hnum hden ((eq_div_iff hden'.ne').mpr hfraction.symm)
  generalize decimalPoint n d = point at hlow hhigh ⊢
  cases hfind : (List.range 17).findSome? fun i =>
      (decimalOfLength? m e point (i + 1)).map (significant · point (i + 1)) with
  | none =>
    obtain ⟨k, hk⟩ := exists_decimalOfLength? hm hlow
    have hnone := List.findSome?_eq_none_iff.mp hfind 16 (by decide)
    rw [hk] at hnone
    cases hnone
  | some chosen =>
    obtain ⟨i, hi, hchosen⟩ := List.exists_of_findSome?_eq_some hfind
    obtain ⟨k, hk, rfl⟩ := Option.map_eq_some_iff.mp hchosen
    exact ⟨k, i + 1, point, rfl, hk, List.mem_range.mp hi, hhigh⟩

/-- The digits that are written for a number round to it, and there are no more than eighteen. -/
theorem digits_spec (hm : IsNormal m e) :
    AreDigits (digits m e).1 ∧ (digits m e).1.length ≤ 18 ∧
      RoundsTo (Numeral.read (digits m e).1 * 10 ^ ((digits m e).2 - (digits m e).1.length)) m e := by
  obtain ⟨k, count, point, hdigits, hk, hcount, hpoint⟩ := exists_digits_eq hm
  obtain ⟨hrounds, hstep⟩ := of_decimalOfLength? hk
  have hpos : 0 < k := by
    have hpos := hrounds.pos hm.pos
    have hgrid : (0 : ℚ) < 10 ^ (point - count) := by positivity
    exact_mod_cast pos_of_mul_pos_left hpos hgrid.le
  have hmost : k < 10 ^ 18 := by
    have hgrid : (0 : ℚ) < 10 ^ (point - count) := by positivity
    have hlength : (10 : ℚ) ^ count * 10 ^ (point - count) = 10 ^ point :=
      ten_pow_mul_zpow (add_sub_cancel _ _)
    have hless : (k - 1 : ℚ) < 10 ^ count :=
      lt_of_mul_lt_mul_right (hlength ▸ lt_of_le_of_lt hstep hpoint) hgrid.le
    have hcount : (10 : ℚ) ^ count ≤ 10 ^ 17 := pow_le_pow_right₀ (by norm_num) hcount
    have hk : (k : ℚ) < 10 ^ 18 := by linarith
    exact_mod_cast hk
  rw [hdigits, significant_spec]
  exact ⟨areDigits_significant hpos point count, length_significant_le (by decide) hmost point count,
    hrounds⟩

/-! ### Decimals are read -/

theorem ten_zpow_lt_least : (10 : ℚ) ^ (-324 : ℤ) < 1 / 2 * 2 ^ minExponent := by
  have hpowers : (2 * 2 ^ 1074 : ℚ) < 10 ^ 324 := by
    exact_mod_cast (by decide +kernel : 2 * 2 ^ 1074 < 10 ^ 324)
  calc (10 : ℚ) ^ (-324 : ℤ) = (10 ^ 324)⁻¹ := by rw [zpow_neg, zpow_ofNat]
    _ < (2 * 2 ^ 1074)⁻¹ := inv_strictAnti₀ (by positivity) hpowers
    _ = 1 / 2 * 2 ^ minExponent := by rw [mul_inv, one_div, minExponent, zpow_neg, zpow_ofNat]

theorem greatest_lt_ten_zpow : (2 : ℚ) ^ 53 * 2 ^ maxExponent < 10 ^ (309 : ℤ) := by
  rw [maxExponent, zpow_ofNat, zpow_ofNat]
  exact_mod_cast (by decide +kernel : 2 ^ 53 * 2 ^ 971 < 10 ^ 309)

/-- What rounds to a number is neither too small nor too large to be one. -/
theorem RoundsTo.mem_range (h : RoundsTo x m e) (hm : IsNormal m e) :
    (10 : ℚ) ^ (-324 : ℤ) < x ∧ x < 10 ^ (309 : ℤ) := by
  obtain ⟨hlow, hhigh, -⟩ := h.near hm.pos
  have hone : (1 : ℚ) ≤ m := by exact_mod_cast hm.pos
  have hmost : (m : ℚ) + 1 ≤ 2 ^ 53 := by exact_mod_cast hm.lt
  have hunit : (0 : ℚ) < 2 ^ e := by positivity
  have hleast : (2 : ℚ) ^ minExponent ≤ 2 ^ e := zpow_le_zpow_right₀ (by norm_num) hm.least
  have hgreatest : (2 : ℚ) ^ e ≤ 2 ^ maxExponent := zpow_le_zpow_right₀ (by norm_num) hm.greatest
  constructor
  · calc (10 : ℚ) ^ (-324 : ℤ) < 1 / 2 * 2 ^ minExponent := ten_zpow_lt_least
      _ ≤ (m - 1 / 2) * 2 ^ e := by nlinarith
      _ ≤ x := hlow
  · calc x ≤ (m + 1 / 2) * 2 ^ e := hhigh
      _ ≤ 2 ^ 53 * 2 ^ maxExponent := by nlinarith
      _ < 10 ^ (309 : ℤ) := greatest_lt_ten_zpow

/-- A decimal of a bounded number of digits is read as the number to which it rounds. -/
theorem RoundsTo.ofDecimal_eq {digits : ℕ} (h : RoundsTo (digits * 10 ^ scale) m e) (hm : IsNormal m e)
    (hdigits : digits < 10 ^ 40) (negative : Bool) :
    ofDecimal negative digits scale = .finite negative m e := by
  have hpow : (0 : ℚ) < 10 ^ scale := by positivity
  have hpos : 0 < digits := by
    exact_mod_cast pos_of_mul_pos_left (h.pos hm.pos) hpow.le
  obtain ⟨hsmall, hlarge⟩ := h.mem_range hm
  -- what is settled by its magnitude alone rounds to no number
  have hleast : -364 < scale := by
    have hless : (10 : ℚ) ^ (-324 : ℤ) < 10 ^ (40 + scale) := by
      have hdigits : (digits : ℚ) < 10 ^ (40 : ℤ) := by exact_mod_cast hdigits
      rw [zpow_add₀ (by norm_num)]
      nlinarith
    have hlt := (zpow_lt_zpow_iff_right₀ (by norm_num)).mp hless
    omega
  have hgreatest : scale < 309 := by
    have hless : (10 : ℚ) ^ scale < 10 ^ (309 : ℤ) := by
      have hone : (1 : ℚ) ≤ digits := by exact_mod_cast hpos
      exact lt_of_le_of_lt (le_mul_of_one_le_left hpow.le hone) hlarge
    exact (zpow_lt_zpow_iff_right₀ (by norm_num)).mp hless
  have hlog : digits.log2 < 133 := (Nat.log2_lt hpos.ne').mpr (lt_trans hdigits (by norm_num))
  rw [ofDecimal, if_neg hpos.ne']
  dsimp only
  rw [if_neg (by omega), if_neg (by omega)]
  split
  next hscale =>
    obtain ⟨k, rfl⟩ := Int.eq_ofNat_of_zero_le hscale
    apply h.ofRatio_eq hm
    · exact Nat.mul_pos hpos (Nat.pow_pos (by decide))
    · exact Nat.one_pos
    · simp
  next hscale =>
    obtain ⟨k, hk⟩ := Int.eq_ofNat_of_zero_le (show 0 ≤ -scale by omega)
    obtain rfl : scale = -(k : ℤ) := by omega
    apply h.ofRatio_eq hm hpos
    · exact Nat.pow_pos (by decide)
    · simp [div_eq_mul_inv]

end Cutover.Binary64
