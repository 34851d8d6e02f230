import Cutover.Text.Numeral
import Mathlib.Algebra.Group.Nat.Defs
import Mathlib.Data.List.TakeDrop
import Mathlib.Tactic.Ring

/-!
# Rows of digits

How a number is written: with how many digits, with which digit first, and with zeros in front.  Main
statements: `read_writePadded`, zeros in front do not count, `length_writePadded`, with them a number has
the digits it was given, `readHex?_writeHex`, the hexadecimal digits of a number read back as the number,
and `span_digits`, the digits at the start of a text end where others begin.
-/

namespace Cutover.Text.Numeral

/-- The digits at the start of a text, and what follows them. -/
theorem span_digits {cs rest : List Char} (hcs : ∀ c ∈ cs, isDigit c = true)
    (hrest : ∀ c ∈ rest.head?, isDigit c = false) : (cs ++ rest).span isDigit = (cs, rest) := by
  rw [List.span_eq_takeWhile_dropWhile, List.takeWhile_append_of_pos hcs,
    List.dropWhile_append_of_pos hcs]
  cases rest with
  | nil => rw [List.takeWhile_nil, List.dropWhile_nil, List.append_nil]
  | cons c rest =>
    have hc : ¬isDigit c = true := by
      rw [hrest c rfl]
      exact Bool.false_ne_true
    rw [List.takeWhile_cons_of_neg hc, List.dropWhile_cons_of_neg hc, List.append_nil]

/-! ### Without zeros in front -/

theorem exists_write_eq_cons (n : Nat) : ∃ c cs, write n = c :: cs ∧ isDigit c = true := by
  cases hwrite : write n with
  | nil => exact absurd hwrite (write_ne_nil n)
  | cons c cs => exact ⟨c, cs, rfl, write_digits n c (hwrite ▸ List.mem_cons_self)⟩

/-- The digits of a number do not begin with a zero, unless it is zero. -/
theorem write_cases (n : Nat) : write n = ['0'] ∨ ∃ c cs, write n = c :: cs ∧ c ≠ '0' := by
  induction n using Nat.strongRecOn with
  | ind n ih =>
    rw [write]
    split
    next hlt =>
      by_cases hzero : n = 0
      · subst hzero
        exact .inl rfl
      · refine .inr ⟨digit n, [], rfl, fun heq => hzero ?_⟩
        rw [← value_digit hlt, heq]
        rfl
    next hge =>
      obtain hone | ⟨c, cs, hcs, hc⟩ := ih (n / 10) (by omega)
      · -- a zero in front of the last digit would mean that there is nothing in front of it
        have hread := read_write (n / 10)
        rw [hone] at hread
        have hzero : n / 10 = 0 := hread.symm
        omega
      · exact .inr ⟨c, cs ++ [digit (n % 10)], by rw [hcs, List.cons_append], hc⟩

theorem exists_write_eq_cons_of_pos {n : Nat} (hn : 0 < n) : ∃ c cs, write n = c :: cs ∧ c ≠ '0' := by
  refine (write_cases n).resolve_left fun hzero => ?_
  have hread := read_write n
  rw [hzero] at hread
  exact absurd hread hn.ne

/-- How many digits a number has. -/
theorem lt_pow_length_write (n : Nat) : n < 10 ^ (write n).length := by
  induction n using Nat.strongRecOn with
  | ind n ih =>
    rw [write]
    split
    next hlt => exact hlt
    next hge =>
      have hless := ih (n / 10) (by omega)
      rw [List.length_append, List.length_singleton, Nat.pow_succ]
      omega

theorem pow_length_write_le {n : Nat} (hn : 0 < n) : 10 ^ (write n).length ≤ 10 * n := by
  induction n using Nat.strongRecOn with
  | ind n ih =>
    rw [write]
    split
    next hlt =>
      rw [List.length_singleton]
      omega
    next hge =>
      have hmost := ih (n / 10) (by omega) (by omega)
      rw [List.length_append, List.length_singleton, Nat.pow_succ]
      omega

/-! ### Rows put together -/

/-- Digits in front count by as many places as there are digits behind them. -/
theorem read_append (cs more : List Char) :
    read (cs ++ more) = read cs * 10 ^ more.length + read more := by
  have hfold (n : Nat) : more.foldl (fun n c => 10 * n + value c) n = n * 10 ^ more.length + read more := by
    induction more generalizing n with
    | nil => rw [List.foldl_nil, List.length_nil, Nat.pow_zero, Nat.mul_one]; rfl
    | cons c more ih =>
      have hread : read (c :: more) = value c * 10 ^ more.length + read more := by
        rw [read, List.foldl_cons, Nat.mul_zero, Nat.zero_add, ih]
      rw [List.foldl_cons, ih, hread, List.length_cons, Nat.pow_succ]
      ring
  rw [read, List.foldl_append, hfold]
  rfl

theorem value_lt {c : Char} (h : isDigit c = true) : value c < 10 := by
  rw [isDigit, Bool.and_eq_true, decide_eq_true_eq, decide_eq_true_eq] at h
  rw [value]
  omega

/-- A row of digits stands for a number that has no more digits. -/
theorem read_lt {cs : List Char} (h : ∀ c ∈ cs, isDigit c = true) : read cs < 10 ^ cs.length := by
  induction cs with
  | nil => exact Nat.zero_lt_one
  | cons c cs ih =>
    obtain ⟨hc, hcs⟩ := List.forall_mem_cons.mp h
    have hread : read (c :: cs) = read [c] * 10 ^ cs.length + read cs := read_append [c] cs
    have hvalue : read [c] = value c := by
      rw [read, List.foldl_cons, List.foldl_nil, Nat.mul_zero, Nat.zero_add]
    have hless : value c < 10 := value_lt hc
    calc read (c :: cs) = value c * 10 ^ cs.length + read cs := by rw [hread, hvalue]
      _ < (value c + 1) * 10 ^ cs.length := by rw [Nat.succ_mul]; exact Nat.add_lt_add_left (ih hcs) _
      _ ≤ 10 * 10 ^ cs.length := Nat.mul_le_mul_right _ hless
      _ = 10 ^ (c :: cs).length := (Nat.pow_succ' ..).symm

theorem read_replicate (count : Nat) (cs : List Char) :
    read (List.replicate count '0' ++ cs) = read cs := by
  induction count with
  | zero => rfl
  | succ count ih =>
    rw [List.replicate_succ, List.cons_append]
    exact ih

/-- Zeros behind a row of digits multiply its number. -/
theorem read_append_replicate (cs : List Char) (count : Nat) :
    read (cs ++ List.replicate count '0') = read cs * 10 ^ count := by
  have hzero : read (List.replicate count '0') = 0 := by
    have hzeros := read_replicate count []
    rwa [List.append_nil] at hzeros
  rw [read_append, hzero, List.length_replicate, Nat.add_zero]

/-! ### With zeros in front -/

theorem length_write_le {count n : Nat} (hcount : 0 < count) (h : n < 10 ^ count) :
    (write n).length ≤ count := by
  obtain rfl | hn := Nat.eq_zero_or_pos n
  · rw [write]
    exact hcount
  · have hless : 10 ^ (write n).length < 10 ^ (count + 1) := by
      have hmost := pow_length_write_le hn
      rw [Nat.pow_succ 10 count]
      omega
    exact Nat.lt_succ_iff.mp ((Nat.pow_lt_pow_iff_right (by decide)).mp hless)

/-- A number in a fixed number of digits. -/
theorem length_writePadded {count n : Nat} (hcount : 0 < count) (h : n < 10 ^ count) :
    (writePadded count n).length = count := by
  rw [writePadded, List.length_append, List.length_replicate]
  exact Nat.sub_add_cancel (length_write_le hcount h)

theorem read_writePadded (count n : Nat) : read (writePadded count n) = n := by
  rw [writePadded, read_replicate, read_write]

theorem writePadded_digits (count n : Nat) : ∀ c ∈ writePadded count n, isDigit c = true := by
  rw [writePadded, List.forall_mem_append]
  exact ⟨fun c hc => List.eq_of_mem_replicate hc ▸ rfl, write_digits n⟩

/-! ### Hexadecimal digits -/

theorem readHex?_concat (cs : List Char) (c : Char) :
    readHex? (cs ++ [c]) = (readHex? cs).bind fun n => (hexValue? c).map (16 * n + ·) := by
  rw [readHex?, List.foldlM_append]
  simp [readHex?]

/-- The hexadecimal digits of a number that has no more read back as the number. -/
theorem readHex?_writeHex {count n : Nat} (h : n < 16 ^ count) :
    readHex? (writeHex count n) = some n := by
  induction count generalizing n with
  | zero =>
    obtain rfl : n = 0 := by simpa using h
    rfl
  | succ count ih =>
    have hhigh : n / 16 < 16 ^ count := by
      rw [Nat.pow_succ] at h
      omega
    have hlow : n % 16 < 16 := Nat.mod_lt _ (by decide)
    rw [writeHex, readHex?_concat, ih hhigh, hexValue?_hexDigit hlow]
    exact congrArg some (Nat.div_add_mod n 16)

end Cutover.Text.Numeral
