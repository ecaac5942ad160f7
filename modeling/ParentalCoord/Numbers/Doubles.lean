import Mathlib.Algebra.Order.Ring.Int
import Mathlib.Data.Int.Notation
import Mathlib.Tactic.SplitIfs

/-!
Whole numbers in a binary floating format.

A whole number is rounded to a significand of a fixed number of bits: to the nearest
multiple of the unit in the last place, and of two that are as near to the one with an even
significand.
-/

namespace Numbers

variable {precision m n d : ℕ}

/-! ## Rounding a quotient -/

/-- `n / d`, rounded to the nearest. -/
def roundedQuotient (n d : ℕ) : ℕ :=
  if 2 * (n % d) < d ∨ (2 * (n % d) = d ∧ n / d % 2 = 0) then n / d else n / d + 1

theorem le_roundedQuotient : n / d ≤ roundedQuotient n d := by
  unfold roundedQuotient
  split <;> omega

theorem roundedQuotient_le : roundedQuotient n d ≤ n / d + 1 := by
  unfold roundedQuotient
  split <;> omega

theorem roundedQuotient_of_dvd (positive : 0 < d) (divides : d ∣ n) :
    roundedQuotient n d = n / d := by
  unfold roundedQuotient
  have rest : n % d = 0 := Nat.mod_eq_zero_of_dvd divides
  rw [rest, if_pos (Or.inl (by omega))]

theorem roundedQuotient_mono (le : m ≤ n) : roundedQuotient m d ≤ roundedQuotient n d := by
  rcases Nat.lt_or_eq_of_le (Nat.div_le_div_right (c := d) le) with less | same
  · calc roundedQuotient m d ≤ m / d + 1 := roundedQuotient_le
      _ ≤ n / d := less
      _ ≤ roundedQuotient n d := le_roundedQuotient
  · -- The quotients agree, so the remainders stand as the numbers do.
    have rests : m % d ≤ n % d := by
      have first := Nat.div_add_mod m d
      have second := Nat.div_add_mod n d
      rw [same] at first
      omega
    unfold roundedQuotient
    rw [same]
    split <;> split <;> omega

/-! ## Rounding to a significand -/

/-- The unit in the last place of a number. -/
def lastPlace (precision n : ℕ) : ℕ := 2 ^ (n.log2 + 1 - precision)

def nearest (precision n : ℕ) : ℕ :=
  roundedQuotient n (lastPlace precision n) * lastPlace precision n

theorem lastPlace_pos : 0 < lastPlace precision n := Nat.two_pow_pos _

theorem nearest_of_dvd (divides : lastPlace precision n ∣ n) : nearest precision n = n := by
  rw [nearest, roundedQuotient_of_dvd lastPlace_pos divides]
  exact Nat.div_mul_cancel divides

/-- What has a factor `2 ^ k` is exact up to `k` bits more than the significand has. -/
theorem nearest_of_factor {k : ℕ} (factor : 2 ^ k ∣ n) (bound : n < 2 ^ (precision + k)) :
    nearest precision n = n := by
  apply nearest_of_dvd
  by_cases zero : n = 0
  · rw [zero]
    exact Nat.dvd_zero _
  · have width : n.log2 < precision + k := (Nat.log2_lt zero).mpr bound
    exact Nat.dvd_trans (Nat.pow_dvd_pow 2 (by omega)) factor

theorem nearest_of_lt (bound : n < 2 ^ precision) : nearest precision n = n :=
  nearest_of_factor (k := 0) (Nat.one_dvd n) bound

/-- The power of two above a number that has more bits than the significand. -/
theorem next_binade (wide : precision ≤ n.log2) :
    2 ^ (n.log2 + 1) = 2 ^ precision * lastPlace precision n := by
  rw [lastPlace, ← Nat.pow_add]
  congr 1
  omega

/-- The power of two below such a number. -/
theorem binade (positive : 0 < precision) (wide : precision ≤ n.log2) :
    2 ^ n.log2 = 2 ^ (precision - 1) * lastPlace precision n := by
  rw [lastPlace, ← Nat.pow_add]
  congr 1
  omega

theorem nearest_of_narrow (narrow : n.log2 < precision) : nearest precision n = n := by
  apply nearest_of_lt
  calc n < 2 ^ (n.log2 + 1) := Nat.lt_log2_self
    _ ≤ 2 ^ precision := Nat.pow_le_pow_right (by decide) narrow

theorem nearest_le_next : nearest precision n ≤ 2 ^ (n.log2 + 1) := by
  by_cases wide : precision ≤ n.log2
  · have below : n / lastPlace precision n < 2 ^ precision := by
      rw [Nat.div_lt_iff_lt_mul lastPlace_pos, ← next_binade wide]
      exact Nat.lt_log2_self
    rw [next_binade wide, nearest]
    apply Nat.mul_le_mul_right
    exact Nat.le_trans roundedQuotient_le below
  · rw [nearest_of_narrow (by omega)]
    exact Nat.le_of_lt Nat.lt_log2_self

theorem two_pow_le_nearest (positive : 0 < precision) (nonzero : n ≠ 0) :
    2 ^ n.log2 ≤ nearest precision n := by
  by_cases wide : precision ≤ n.log2
  · have above : 2 ^ (precision - 1) ≤ n / lastPlace precision n := by
      rw [Nat.le_div_iff_mul_le lastPlace_pos, ← binade positive wide]
      exact Nat.log2_self_le nonzero
    rw [binade positive wide, nearest]
    apply Nat.mul_le_mul_right
    exact Nat.le_trans above le_roundedQuotient
  · rw [nearest_of_narrow (by omega)]
    exact Nat.log2_self_le nonzero

/-- Rounding keeps the order.  Within a binade the unit is one; across two, a power of two
stands between the numbers. -/
theorem nearest_mono (positive : 0 < precision) (le : m ≤ n) :
    nearest precision m ≤ nearest precision n := by
  by_cases zero : m = 0
  · rw [zero, nearest_of_lt (Nat.two_pow_pos precision)]
    exact Nat.zero_le _
  · have nonzero : n ≠ 0 := by omega
    have binades : m.log2 ≤ n.log2 :=
      (Nat.le_log2 nonzero).mpr (Nat.le_trans (Nat.log2_self_le zero) le)
    rcases Nat.lt_or_eq_of_le binades with lower | same
    · calc nearest precision m ≤ 2 ^ (m.log2 + 1) := nearest_le_next
        _ ≤ 2 ^ n.log2 := Nat.pow_le_pow_right (by decide) lower
        _ ≤ nearest precision n := two_pow_le_nearest positive nonzero
    · have units : lastPlace precision m = lastPlace precision n := by
        rw [lastPlace, lastPlace, same]
      rw [nearest, nearest, units]
      exact Nat.mul_le_mul_right _ (roundedQuotient_mono le)

/-- One bit more than the significand has: an odd number lies between two that are held, and
goes to the one whose significand is even. -/
theorem nearest_of_one_bit_more (lower : 2 ^ precision ≤ n) (upper : n < 2 ^ (precision + 1)) :
    nearest precision n = if n % 4 = 3 then n + 1 else if n % 4 = 1 then n - 1 else n := by
  have nonzero : n ≠ 0 := Nat.ne_of_gt (Nat.lt_of_lt_of_le (Nat.two_pow_pos _) lower)
  have bits : n.log2 = precision := by
    have most : n.log2 < precision + 1 := (Nat.log2_lt nonzero).mpr upper
    have least : precision ≤ n.log2 := (Nat.le_log2 nonzero).mpr lower
    omega
  have unit : lastPlace precision n = 2 := by
    rw [lastPlace, bits, Nat.add_sub_cancel_left, Nat.pow_one]
  rw [nearest, unit, roundedQuotient]
  split_ifs <;> omega

/-! ## Doubles -/

/-- A number of the format of 64 bits that is whole or infinite. -/
inductive Double where
  | finite (value : ℤ)
  | infinite (negative : Bool)
  deriving DecidableEq

/-- The first power of two past the finite doubles. -/
@[irreducible] def Double.limit : ℕ := 2 ^ 1024

/-- The double that an operation answers whose exact result is whole. -/
def Double.ofExact (value : ℤ) : Double :=
  if nearest 53 value.natAbs < Double.limit then .finite (value.sign * nearest 53 value.natAbs)
  else .infinite (value < 0)

/-- The value of a finite one. -/
def Double.finite? : Double → Option ℤ
  | .finite value => some value
  | .infinite _ => none

theorem Double.ofExact_of_held {value : ℤ} (held : nearest 53 value.natAbs = value.natAbs)
    (bound : value.natAbs < Double.limit) : Double.ofExact value = .finite value := by
  rw [Double.ofExact, held, if_pos bound, Int.sign_mul_natAbs]

theorem Double.ofExact_of_lt {value : ℤ} (bound : value.natAbs < 2 ^ 53) :
    Double.ofExact value = .finite value := by
  apply Double.ofExact_of_held (nearest_of_lt bound)
  exact Nat.lt_of_lt_of_le bound (by decide +kernel)

theorem Double.ofExact_natCast (value : ℕ) : Double.ofExact value =
    if nearest 53 value < Double.limit then .finite (nearest 53 value) else .infinite false := by
  rw [Double.ofExact, Int.natAbs_natCast]
  by_cases zero : value = 0
  · rw [zero]
    rfl
  · have positive : ¬(value : ℤ) < 0 := by omega
    rw [Int.sign_natCast_of_ne_zero zero, Int.one_mul, decide_eq_false positive]

end Numbers
