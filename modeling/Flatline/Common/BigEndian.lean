import Mathlib

/-!
# Numbers as big-endian octets

`octets n` is the shortest big-endian form of a number, `value` reads any form, and `fixed k n` is
the form of `k` octets. Each is the base-256 digits of the number, in reverse.
-/

namespace BigEndian

/-- The number that octets stand for. -/
def value (octets : List UInt8) : ℕ :=
  Nat.ofDigits 256 (octets.reverse.map UInt8.toNat)

/-- The shortest octets of a number. -/
def octets (n : ℕ) : List UInt8 :=
  ((Nat.digits 256 n).map UInt8.ofNat).reverse

/-- The octets of a number, with zeros in front up to `k` octets. -/
def fixed (k n : ℕ) : List UInt8 :=
  List.replicate (k - (octets n).length) 0 ++ octets n

@[simp] theorem value_nil : value [] = 0 := rfl

theorem value_append (front back : List UInt8) :
    value (front ++ back) = value front * 256 ^ back.length + value back := by
  unfold value
  rw [List.reverse_append, List.map_append, Nat.ofDigits_append, List.length_map,
    List.length_reverse, Nat.mul_comm, Nat.add_comm]

theorem value_cons (octet : UInt8) (rest : List UInt8) :
    value (octet :: rest) = octet.toNat * 256 ^ rest.length + value rest := by
  have hone : value [octet] = octet.toNat := by
    change Nat.ofDigits 256 [octet.toNat] = _
    rw [Nat.ofDigits_singleton]
  rw [← hone, ← value_append, List.singleton_append]

/-- Zeros in front do not count. -/
theorem value_zero_cons (rest : List UInt8) : value (0 :: rest) = value rest := by
  rw [value_cons]
  simp

theorem value_lt (octets : List UInt8) : value octets < 256 ^ octets.length := by
  have hdigits : ∀ digit ∈ octets.reverse.map UInt8.toNat, digit < 256 := by
    intro digit hdigit
    obtain ⟨octet, -, rfl⟩ := List.mem_map.mp hdigit
    exact octet.toNat_lt
  have hlt := Nat.ofDigits_lt_base_pow_length (by omega) hdigits
  rwa [List.length_map, List.length_reverse] at hlt

theorem map_toNat_ofNat_digits (n : ℕ) :
    ((Nat.digits 256 n).map UInt8.ofNat).map UInt8.toNat = Nat.digits 256 n := by
  rw [List.map_map]
  refine (List.map_congr_left fun digit hdigit => ?_).trans (List.map_id _)
  have hlt := Nat.digits_lt_base (by omega) hdigit
  simp only [Function.comp_apply, UInt8.toNat_ofNat', id_eq]
  omega

/-- Reading the octets of a number gives the number. -/
@[simp] theorem value_octets (n : ℕ) : value (octets n) = n := by
  unfold value octets
  rw [List.reverse_reverse, map_toNat_ofNat_digits, Nat.ofDigits_digits]

/-- The shortest form does not start with a zero. -/
theorem head?_octets (n : ℕ) : (octets n).head? ≠ some 0 := by
  unfold octets
  rw [List.head?_reverse, List.getLast?_map]
  by_cases hn : n = 0
  · subst hn
    rw [Nat.digits_zero]
    exact fun h => by cases h
  · have hne : Nat.digits 256 n ≠ [] := Nat.digits_ne_nil_iff_ne_zero.mpr hn
    rw [List.getLast?_eq_getLast_of_ne_nil hne]
    intro h
    have hlast := Nat.getLast_digit_ne_zero 256 hn
    have hlt := Nat.digits_lt_base (by omega) (List.getLast_mem hne)
    have hzero := congrArg UInt8.toNat (Option.some.inj h)
    rw [UInt8.toNat_ofNat'] at hzero
    apply hlast
    have hsmall := Nat.mod_eq_of_lt hlt
    rw [show 2 ^ 8 = 256 from rfl, hsmall] at hzero
    exact hzero

theorem length_octets_le {n k : ℕ} (h : n < 256 ^ k) : (octets n).length ≤ k := by
  unfold octets
  rw [List.length_reverse, List.length_map]
  exact (Nat.digits_length_le_iff (by omega) n).mpr h

theorem octets_ne_nil {n : ℕ} (h : n ≠ 0) : octets n ≠ [] := by
  intro hnil
  have hvalue := value_octets n
  rw [hnil] at hvalue
  exact h hvalue.symm

theorem value_replicate_append (k : ℕ) (rest : List UInt8) :
    value (List.replicate k 0 ++ rest) = value rest := by
  induction k with
  | zero => rfl
  | succ k ih => rw [List.replicate_succ, List.cons_append, value_zero_cons, ih]

@[simp] theorem value_fixed (k n : ℕ) : value (fixed k n) = n := by
  rw [fixed, value_replicate_append, value_octets]

theorem length_fixed {k n : ℕ} (h : n < 256 ^ k) : (fixed k n).length = k := by
  have hle := length_octets_le h
  rw [fixed, List.length_append, List.length_replicate]
  omega

/-- Octets without zeros in front are the shortest form of their number. -/
theorem octets_value {form : List UInt8} (h : form.head? ≠ some 0) : octets (value form) = form := by
  have hdigits : ∀ digit ∈ form.reverse.map UInt8.toNat, digit < 256 := by
    intro digit hdigit
    obtain ⟨octet, -, rfl⟩ := List.mem_map.mp hdigit
    exact octet.toNat_lt
  have hlast : ∀ hne : form.reverse.map UInt8.toNat ≠ [],
      (form.reverse.map UInt8.toNat).getLast hne ≠ 0 := by
    intro hne hzero
    rw [List.getLast_map, List.getLast_reverse] at hzero
    apply h
    rw [List.head?_eq_some_head (fun hnil => hne (by rw [hnil]; rfl))]
    exact congrArg some (UInt8.toNat_inj.mp hzero)
  unfold value octets
  rw [Nat.digits_ofDigits 256 (by omega) _ hdigits hlast, List.map_map, List.map_reverse,
    List.reverse_reverse]
  refine (List.map_congr_left fun octet _ => ?_).trans (List.map_id _)
  exact UInt8.ofNat_toNat

/-- The octets of a form without its zeros in front. -/
def stripZeros (form : List UInt8) : List UInt8 :=
  form.dropWhile (· = 0)

theorem value_stripZeros (form : List UInt8) : value (stripZeros form) = value form := by
  induction form with
  | nil => rfl
  | cons octet rest ih =>
    unfold stripZeros at ih ⊢
    by_cases hzero : octet = 0
    · subst hzero
      rw [List.dropWhile_cons_of_pos (by decide), ih, value_zero_cons]
    · rw [List.dropWhile_cons_of_neg (by simpa using hzero)]

theorem head?_stripZeros (form : List UInt8) : (stripZeros form).head? ≠ some 0 := by
  induction form with
  | nil => exact fun h => by cases h
  | cons octet rest ih =>
    unfold stripZeros at ih ⊢
    by_cases hzero : octet = 0
    · subst hzero
      rwa [List.dropWhile_cons_of_pos (by decide)]
    · rw [List.dropWhile_cons_of_neg (by simpa using hzero)]
      exact fun h => hzero (Option.some.inj h)

/-- Any form of a number is its shortest form with zeros in front. -/
theorem stripZeros_eq (form : List UInt8) : stripZeros form = octets (value form) := by
  rw [← value_stripZeros, octets_value (head?_stripZeros form)]

/-- The form of `k` octets of a number is the only one. -/
theorem fixed_value (form : List UInt8) : fixed form.length (value form) = form := by
  induction form with
  | nil => rfl
  | cons octet rest ih =>
    by_cases hzero : octet = 0
    · subst hzero
      have hle : (octets (value rest)).length ≤ rest.length := length_octets_le (value_lt rest)
      rw [value_zero_cons, fixed, List.length_cons, Nat.succ_sub hle, List.replicate_succ,
        List.cons_append]
      exact congrArg _ ih
    · have hhead : (octet :: rest).head? ≠ some 0 := fun h => hzero (Option.some.inj h)
      rw [fixed, octets_value hhead, Nat.sub_self, List.replicate_zero, List.nil_append]

end BigEndian
