import Flatline.Common.BigEndian
import Flatline.Wire.Text

/-!
# Integers of keys and signatures

A number is written as an SSH `mpint`, as the client writes it, and as a DER `INTEGER`. `mpint` and
the DER forms are those of the standards; `toInteger` is the client's.

Source: `src/ssh/mod.rs` (`MultiplePrecisionInteger`).
-/

namespace Flatline

open BigEndian

/-! ## SSH -/

/-- `Vec<u8>::into_integer`. -/
def intoInteger (octets : Bytes) : Bytes :=
  match stripZeros octets with
  | [] => List.replicate 4 0
  | first :: rest => if first &&& 0x80 ≠ 0 then 0 :: first :: rest else first :: rest

/-- `BigNum::to_integer`. -/
def toInteger (n : ℕ) : Bytes :=
  intoInteger (octets n)

/-- The content of an `mpint`: two's complement, as short as possible, nothing for zero. -/
def mpint (n : ℕ) : Bytes :=
  match octets n with
  | [] => []
  | first :: rest => if first.toNat < 128 then first :: rest else 0 :: first :: rest

theorem stripZeros_octets (n : ℕ) : stripZeros (octets n) = octets n := by
  rw [stripZeros_eq, value_octets]

theorem and_high_ne_zero (b : UInt8) : b &&& 0x80 ≠ 0 ↔ ¬ b.toNat < 128 := by
  have hall : ∀ n < 256, UInt8.ofNat n &&& 0x80 ≠ 0 ↔ ¬ (UInt8.ofNat n).toNat < 128 := by
    decide +kernel
  have hb := hall b.toNat b.toNat_lt
  rwa [UInt8.ofNat_toNat] at hb

/-- The client writes `mpint`s, except for zero. -/
theorem toInteger_eq_mpint {n : ℕ} (h : n ≠ 0) : toInteger n = mpint n := by
  unfold toInteger intoInteger mpint
  rw [stripZeros_octets]
  cases hoctets : octets n with
  | nil => exact absurd hoctets (octets_ne_nil h)
  | cons first rest =>
    simp only [and_high_ne_zero]
    by_cases hlow : first.toNat < 128
    · rw [if_neg (not_not.mpr hlow), if_pos hlow]
    · rw [if_pos hlow, if_neg hlow]

/-- Reading what the client writes gives the number. -/
@[simp] theorem value_toInteger (n : ℕ) : value (toInteger n) = n := by
  have hvalue := value_octets n
  unfold toInteger intoInteger
  rw [stripZeros_octets]
  cases hoctets : octets n with
  | nil =>
    rw [hoctets] at hvalue
    exact hvalue
  | cons first rest =>
    rw [hoctets] at hvalue
    simp only
    split
    · rwa [value_zero_cons]
    · exact hvalue

/-- `into_integer` depends on the number only. -/
theorem intoInteger_eq (form : Bytes) : intoInteger form = toInteger (value form) := by
  unfold toInteger intoInteger
  rw [stripZeros_octets, stripZeros_eq]

/-- The content of the `mpint` of a number that is not negative. -/
structure IsMpint (n : ℕ) (content : Bytes) : Prop where
  value : value content = n
  /-- The sign bit is clear. -/
  positive : ∀ first ∈ content.head?, first.toNat < 128
  /-- A zero in front is there for the sign bit. -/
  shortest : ∀ rest, content = 0 :: rest → ∃ second ∈ rest.head?, 128 ≤ second.toNat
  zero : n = 0 → content = []

theorem isMpint_mpint (n : ℕ) : IsMpint n (mpint n) := by
  have hvalue := value_octets n
  have hhead := head?_octets n
  unfold mpint
  cases hoctets : octets n with
  | nil =>
    rw [hoctets] at hvalue
    exact ⟨hvalue, nofun, nofun, fun _ => rfl⟩
  | cons first rest =>
    rw [hoctets] at hvalue hhead
    have hfirst : first ≠ 0 := fun h => hhead (congrArg some h)
    have hne : n ≠ 0 := by
      rintro rfl
      cases hoctets
    simp only
    split
    · next hlow =>
      refine ⟨hvalue, ?_, fun _ h => absurd (List.cons.inj h).1 hfirst, fun h => absurd h hne⟩
      rintro _ ⟨⟩
      exact hlow
    · next hhigh =>
      refine ⟨(value_zero_cons _).trans hvalue, ?_, ?_, fun h => absurd h hne⟩
      · rintro _ ⟨⟩
        decide
      · rintro _ ⟨⟩
        exact ⟨first, rfl, Nat.le_of_not_lt hhigh⟩

/-- Exactly the numbers that are not zero become the content of their `mpint`; two forms become the
same exactly when they stand for the same number, and what a form becomes stands for it and stays as
it is. -/
theorem intoInteger_exact (form form' : Bytes) :
    (IsMpint (value form) (intoInteger form) ↔ value form ≠ 0) ∧
      (intoInteger form = intoInteger form' ↔ value form = value form') ∧
      value (intoInteger form) = value form ∧
      intoInteger (intoInteger form) = intoInteger form := by
  have hvalue : value (intoInteger form) = value form := by
    rw [intoInteger_eq, value_toInteger]
  refine ⟨⟨fun h hzero => ?_, fun h => ?_⟩, ⟨fun h => ?_, fun h => ?_⟩, hvalue, ?_⟩
  · have hnil := h.zero hzero
    rw [intoInteger_eq, hzero] at hnil
    cases hnil
  · rw [intoInteger_eq, toInteger_eq_mpint h]
    exact isMpint_mpint _
  · have hsame := congrArg value h
    rwa [intoInteger_eq, intoInteger_eq, value_toInteger, value_toInteger] at hsame
  · rw [intoInteger_eq, intoInteger_eq, h]
  · rw [intoInteger_eq (intoInteger form), hvalue, ← intoInteger_eq]

/-- Zero becomes four octets. -/
theorem intoInteger_zero : ¬ ∀ form, IsMpint (value form) (intoInteger form) := by
  intro h
  cases (h []).zero rfl

theorem length_toInteger_le {n k : ℕ} (h : n < 256 ^ k) : (toInteger n).length ≤ k + 4 := by
  have hle := length_octets_le h
  unfold toInteger intoInteger
  rw [stripZeros_octets]
  cases hoctets : octets n with
  | nil =>
    rw [List.length_replicate]
    omega
  | cons first rest =>
    rw [hoctets, List.length_cons] at hle
    simp only
    split
    · simp only [List.length_cons]
      omega
    · simp only [List.length_cons]
      omega

/-! ## DER -/

/-- The length of a value. -/
def derLength (length : ℕ) : Bytes :=
  if length < 128 then [UInt8.ofNat length]
  else UInt8.ofNat (128 + (octets length).length) :: octets length

/-- The content of an `INTEGER`. -/
def derContent (n : ℕ) : Bytes :=
  if n = 0 then [0] else mpint n

/-- A number as an `INTEGER`. -/
def derInteger (n : ℕ) : Bytes :=
  0x02 :: (derLength (derContent n).length ++ derContent n)

/-- Two numbers as a `SEQUENCE`: a signature of DSA or of ECDSA. -/
def derSignature (r s : ℕ) : Bytes :=
  0x30 :: (derLength (derInteger r ++ derInteger s).length ++ (derInteger r ++ derInteger s))

theorem value_derContent (n : ℕ) : value (derContent n) = n := by
  unfold derContent
  split
  · next h =>
    subst h
    rfl
  · next h => rw [← toInteger_eq_mpint h, value_toInteger]

theorem length_derContent {n k : ℕ} (h : n < 256 ^ k) :
    1 ≤ (derContent n).length ∧ (derContent n).length ≤ k + 1 := by
  unfold derContent
  split
  · exact ⟨Nat.le_refl 1, Nat.le_add_left 1 k⟩
  · next hne =>
    have hle := length_octets_le h
    unfold mpint
    cases hoctets : octets n with
    | nil => exact absurd hoctets (octets_ne_nil hne)
    | cons first rest =>
      rw [hoctets, List.length_cons] at hle
      simp only
      split
      · simp only [List.length_cons]
        omega
      · simp only [List.length_cons]
        omega

/-- A signature of DSA in DER is never the one in the form that SSH wants: two numbers of twenty
octets each. -/
theorem derSignature_ne_fixed {r s : ℕ} (hr : r < 256 ^ 20) (hs : s < 256 ^ 20) :
    derSignature r s ≠ fixed 20 r ++ fixed 20 s := by
  intro heq
  obtain ⟨hr₁, hr₂⟩ := length_derContent hr
  obtain ⟨hs₁, hs₂⟩ := length_derContent hs
  have hvalues : value (derContent r) = r ∧ value (derContent s) = s :=
    ⟨value_derContent r, value_derContent s⟩
  have hform : derSignature r s =
      (0x30 :: UInt8.ofNat (4 + (derContent r).length + (derContent s).length) :: 0x02 ::
        UInt8.ofNat (derContent r).length :: (derContent r ++ [0x02])) ++
      (UInt8.ofNat (derContent s).length :: derContent s) := by
    have hshort : ∀ n, 1 ≤ (derContent n).length → (derContent n).length ≤ 21 → derInteger n =
        0x02 :: UInt8.ofNat (derContent n).length :: derContent n := by
      intro n _ hle
      rw [derInteger, derLength, if_pos (by omega), List.singleton_append]
    rw [derSignature, hshort r hr₁ hr₂, hshort s hs₁ hs₂, derLength, if_pos]
    · simp [Nat.add_comm, Nat.add_left_comm]
    · simp only [List.length_append, List.length_cons]
      omega
  generalize derContent r = a at *
  generalize derContent s = b at *
  rw [hform] at heq
  have hlengths := congrArg List.length heq
  simp only [List.length_append, List.length_cons, List.length_nil, length_fixed hr,
    length_fixed hs] at hlengths
  -- the tag of the sequence is the first of the twenty octets, so `r` needs all of them
  have hlong : 20 ≤ a.length := by
    cases hfixed : fixed 20 r with
    | nil =>
      have hlength := length_fixed hr
      rw [hfixed] at hlength
      cases hlength
    | cons first rest =>
      have hlength := length_fixed hr
      have hvalue := value_fixed 20 r
      rw [hfixed] at hlength hvalue heq
      injection heq with hfirst _
      rw [← hfirst, value_cons, show rest.length = 19 by rw [List.length_cons] at hlength; omega]
        at hvalue
      have hlt := value_lt a
      rw [hvalues.1] at hlt
      by_contra hshort
      have hpow : 256 ^ a.length ≤ 256 ^ 19 := Nat.pow_le_pow_right (by omega) (by omega)
      have htag : (0x30 : UInt8).toNat = 48 := rfl
      rw [htag] at hvalue
      omega
  -- so the length of the second number is one of the last twenty octets, in front of that number
  rcases List.append_eq_append_iff.mp heq with ⟨between, hfixed, -⟩ | ⟨between, -, hfixed⟩
  · have hlength := congrArg List.length hfixed
    simp only [List.length_append, List.length_cons, List.length_nil, length_fixed hr] at hlength
    omega
  · have hvalue := value_fixed 20 s
    rw [hfixed, value_append, value_cons, hvalues.2, UInt8.toNat_ofNat'] at hvalue
    have hpow : 0 < 256 ^ b.length := Nat.pow_pos (by omega)
    have hpos : 0 < b.length % 2 ^ 8 * 256 ^ b.length :=
      Nat.mul_pos (by rw [Nat.mod_eq_of_lt (by omega)]; omega) hpow
    omega

end Flatline
