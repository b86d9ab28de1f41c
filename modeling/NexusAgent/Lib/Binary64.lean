import Mathlib.Data.Nat.Log
import Mathlib.Tactic.Ring

/-!
# Integers as double-precision numbers

A language whose only number type is the IEEE 754 binary64 format reads an integer as the
nearest representable number, a tie going to the even significand. `Binary64.ofInt` is that
number, again as an integer: a representable number of magnitude at least `2 ^ 53` is one.
-/

namespace Binary64

/-- The number of low bits of `n` that a significand of 53 bits has no room for. -/
def dropped (n : ℕ) : ℕ := Nat.log2 n + 1 - 53

/-- The representable number nearest to `n`, a tie going to the even significand. -/
def roundNat (n : ℕ) : ℕ :=
  let unit := 2 ^ dropped n
  let quotient := n / unit
  let rest := n % unit
  if 2 * rest < unit then quotient * unit
  else if unit < 2 * rest then (quotient + 1) * unit
  else (quotient + quotient % 2) * unit

/-- The representable number nearest to an integer. -/
def ofInt (x : ℤ) : ℤ :=
  if 0 ≤ x then roundNat x.toNat else -roundNat (-x).toNat

/-- Nothing is dropped from a number below `2 ^ 53`. -/
lemma dropped_of_lt {n : ℕ} (h : n < 2 ^ 53) : dropped n = 0 := by
  have hlog : Nat.log2 n < 53 := by
    rcases Nat.eq_zero_or_pos n with rfl | hpos
    · decide
    · exact (Nat.log2_lt hpos.ne').2 h
  unfold dropped
  omega

/-- The rounding is at least the multiple of the unit below the number. -/
lemma quotient_le_roundNat (n : ℕ) :
    n / 2 ^ dropped n * 2 ^ dropped n ≤ roundNat n := by
  have hmono {a b : ℕ} (hab : a ≤ b) : a * 2 ^ dropped n ≤ b * 2 ^ dropped n :=
    Nat.mul_le_mul_right _ hab
  simp only [roundNat]
  split_ifs
  · exact le_rfl
  · exact hmono (Nat.le_succ _)
  · exact hmono (Nat.le_add_right _ _)

/-- A number below `2 ^ 53` is representable. -/
lemma roundNat_of_lt {n : ℕ} (h : n < 2 ^ 53) : roundNat n = n := by
  simp [roundNat, dropped_of_lt h, Nat.mod_one]

/-- The rounding of a number of at least `2 ^ 53` is at least `2 ^ 53`. -/
lemma le_roundNat {n : ℕ} (h : 2 ^ 53 ≤ n) : 2 ^ 53 ≤ roundNat n := by
  have hn : n ≠ 0 := by omega
  have hlog : 53 ≤ Nat.log2 n := (Nat.le_log2 hn).2 h
  have hk : Nat.log2 n = 52 + dropped n := by unfold dropped; omega
  have hquotient : 2 ^ 52 ≤ n / 2 ^ dropped n := by
    rw [Nat.le_div_iff_mul_le (Nat.two_pow_pos _), ← pow_add, ← hk]
    exact Nat.log2_self_le hn
  have hunit : 2 ^ 1 ≤ 2 ^ dropped n := Nat.pow_le_pow_right (by decide) (by omega)
  calc
    2 ^ 53 = 2 ^ 52 * 2 ^ 1 := by norm_num
    _ ≤ n / 2 ^ dropped n * 2 ^ dropped n := Nat.mul_le_mul hquotient hunit
    _ ≤ roundNat n := quotient_le_roundNat n

/-- An integer of magnitude at most `2 ^ 53` is representable. -/
theorem ofInt_of_abs_le {x : ℤ} (hlo : -2 ^ 53 ≤ x) (hhi : x ≤ 2 ^ 53) : ofInt x = x := by
  have hround {n : ℕ} (h : n ≤ 2 ^ 53) : roundNat n = n := by
    rcases Nat.lt_or_eq_of_le h with hlt | rfl
    · exact roundNat_of_lt hlt
    · decide
  unfold ofInt
  split_ifs with hx
  all_goals
    rw [hround (by omega)]
    omega

/-- Numbers of at least `2 ^ 53` stay there. -/
lemma le_ofInt {x : ℤ} (h : 2 ^ 53 ≤ x) : 2 ^ 53 ≤ ofInt x := by
  have hx : 0 ≤ x := by omega
  have hround : 2 ^ 53 ≤ roundNat x.toNat := le_roundNat (by omega)
  rw [ofInt, if_pos hx]
  exact_mod_cast hround

/-- Below `2 ^ 53`, two integers in order are two numbers in order. -/
theorem ofInt_lt_ofInt {x y : ℤ} (hlo : -2 ^ 53 ≤ x) (hhi : x < 2 ^ 53) (h : x < y) :
    ofInt x < ofInt y := by
  rw [ofInt_of_abs_le hlo hhi.le]
  rcases le_total y (2 ^ 53) with hy | hy
  · rwa [ofInt_of_abs_le (by omega) hy]
  · exact lt_of_lt_of_le hhi (le_ofInt hy)

/-- From `2 ^ 53` on an integer and its successor can be one number. -/
example : ofInt (2 ^ 53 + 1) = ofInt (2 ^ 53) := by decide

end Binary64
