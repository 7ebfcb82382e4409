import Mathlib

/-!
# Powers modulo a number

`powMod` squares and multiplies, so that powers with long exponents can be computed, and a prime
number be recognised by Lucas's test.
-/

namespace PowerMod

/-- `a ^ n % m` for an exponent of at most `bits` bits. -/
def powMod (m : ℕ) : (bits a n : ℕ) → ℕ
  | 0, _, _ => 1 % m
  | bits + 1, a, n =>
    powMod m bits (a * a % m) (n / 2) * (if n % 2 = 1 then a else 1) % m

theorem powMod_eq (m : ℕ) {bits n : ℕ} (hn : n < 2 ^ bits) (a : ℕ) :
    powMod m bits a n = a ^ n % m := by
  induction bits generalizing a n with
  | zero =>
    obtain rfl : n = 0 := by omega
    rfl
  | succ bits ih =>
    have hhalf : n / 2 < 2 ^ bits := by
      rw [Nat.pow_succ] at hn
      omega
    have hlast : (if n % 2 = 1 then a else 1) = a ^ (n % 2) := by
      rcases Nat.mod_two_eq_zero_or_one n with h | h <;> simp [h]
    rw [powMod, ih hhalf, hlast, ← Nat.pow_mod, ← Nat.pow_two, ← Nat.pow_mul, Nat.mod_mul_mod,
      ← Nat.pow_add, Nat.div_add_mod]

theorem cast_pow_eq_one_iff {p : ℕ} (hp : 1 < p) (a n : ℕ) :
    (a : ZMod p) ^ n = 1 ↔ a ^ n % p = 1 := by
  rw [← Nat.cast_pow, ← Nat.cast_one, ZMod.natCast_eq_natCast_iff', Nat.mod_eq_of_lt hp]

/-- Lucas's test with base `a` for a number that is one more than three times a power of two. -/
theorem prime_of_powMod {p k : ℕ} (hp : p = 3 * 2 ^ (k + 1) + 1) (a bits : ℕ)
    (hbits : p < 2 ^ bits) (hall : powMod p bits a (p - 1) = 1)
    (htwo : powMod p bits a ((p - 1) / 2) ≠ 1)
    (hthree : powMod p bits a ((p - 1) / 3) ≠ 1) : p.Prime := by
  have hgt : 1 < p := by
    have := Nat.two_pow_pos (k + 1)
    omega
  have hlt (q : ℕ) : (p - 1) / q < 2 ^ bits := by
    have := Nat.div_le_self (p - 1) q
    omega
  rw [powMod_eq p (by omega)] at hall
  rw [powMod_eq p (hlt 2)] at htwo
  rw [powMod_eq p (hlt 3)] at hthree
  apply lucas_primality p (a : ZMod p) ((cast_pow_eq_one_iff hgt a _).mpr hall)
  intro q hq hdvd hone
  rw [cast_pow_eq_one_iff hgt] at hone
  rw [show p - 1 = 3 * 2 ^ (k + 1) by omega, hq.dvd_mul] at hdvd
  rcases hdvd with hdvd | hdvd
  · rw [Nat.prime_dvd_prime_iff_eq hq Nat.prime_three] at hdvd
    exact hthree (hdvd ▸ hone)
  · obtain rfl := (Nat.prime_dvd_prime_iff_eq hq Nat.prime_two).mp (hq.dvd_of_dvd_pow hdvd)
    exact htwo hone

/-- A number that a prime does not divide has no power that the prime divides. -/
theorem pow_mod_ne_zero {p f : ℕ} (hp : p.Prime) (hpos : 0 < f) (hlt : f < p) (x : ℕ) :
    f ^ x % p ≠ 0 := by
  intro hzero
  have hdvd := hp.dvd_of_dvd_pow (Nat.dvd_of_mod_eq_zero hzero)
  exact absurd (Nat.le_of_dvd hpos hdvd) (by omega)

end PowerMod
