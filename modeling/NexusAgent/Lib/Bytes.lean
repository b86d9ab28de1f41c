import Mathlib.Algebra.Ring.Nat

/-!
# Encodings into bytes

Fixed-width encodings of numbers and the bytes of a text, and that they can be read back. A
record whose fields are encoded one after another, each with a fixed width or a length before it,
is read back field by field with `List.append_inj`.

- `bigEndian_inj`: a number is determined by its bytes, as far as the width reaches.
- `textBytes_inj`: a text is determined by its bytes.
-/

abbrev Bytes := List UInt8

/-- The lowest `width` bytes of a number, the most significant byte first. -/
def bigEndian : ℕ → ℕ → Bytes
  | 0, _ => []
  | width + 1, n => bigEndian width (n / 256) ++ [UInt8.ofNat n]

@[simp]
lemma length_bigEndian (width n : ℕ) : (bigEndian width n).length = width := by
  induction width generalizing n with
  | zero => rfl
  | succ width ih => simp [bigEndian, ih]

theorem bigEndian_inj {width n m : ℕ} (hn : n < 256 ^ width) (hm : m < 256 ^ width)
    (h : bigEndian width n = bigEndian width m) : n = m := by
  induction width generalizing n m with
  | zero =>
    omega
  | succ width ih =>
    obtain ⟨hhigh, hlow⟩ := List.append_inj' h rfl
    have hdiv : n / 256 = m / 256 := by
      apply ih _ _ hhigh
      · exact Nat.div_lt_of_lt_mul (by rwa [Nat.pow_succ, Nat.mul_comm] at hn)
      · exact Nat.div_lt_of_lt_mul (by rwa [Nat.pow_succ, Nat.mul_comm] at hm)
    have hmod : n % 256 = m % 256 := by
      simpa using congrArg UInt8.toNat (List.singleton_inj.1 hlow)
    calc n = 256 * (n / 256) + n % 256 := (Nat.div_add_mod n 256).symm
      _ = 256 * (m / 256) + m % 256 := by rw [hdiv, hmod]
      _ = m := Nat.div_add_mod m 256

def textBytes (s : String) : Bytes := s.toByteArray.data.toList

theorem textBytes_inj {s t : String} (h : textBytes s = textBytes t) : s = t := by
  apply String.toByteArray_inj.1
  exact ByteArray.ext (Array.toList_inj.1 h)
