import Mathlib

/-!
# Base64

The standard encoding of octets by the letters of an alphabet of 64, with padding, and its inverse.
-/

namespace Base64

/-- `=`, the padding. -/
def pad : UInt8 := 0x3D

/-- The letter of six bits: `A` to `Z`, `a` to `z`, `0` to `9`, `+` and `/`. -/
def letter (n : ℕ) : UInt8 :=
  UInt8.ofNat (
    if n < 26 then n + 0x41
    else if n < 52 then n - 26 + 0x61
    else if n < 62 then n - 52 + 0x30
    else if n = 62 then 0x2B
    else 0x2F)

/-- The six bits of a letter. -/
def sextet (c : UInt8) : Option ℕ :=
  let n := c.toNat
  if 0x41 ≤ n ∧ n ≤ 0x5A then some (n - 0x41)
  else if 0x61 ≤ n ∧ n ≤ 0x7A then some (n - 0x61 + 26)
  else if 0x30 ≤ n ∧ n ≤ 0x39 then some (n - 0x30 + 52)
  else if n = 0x2B then some 62
  else if n = 0x2F then some 63
  else none

/-- Three octets to four letters, the rest at the end padded. -/
def encode : List UInt8 → List UInt8
  | [] => []
  | [a] => [letter (a.toNat / 4), letter (a.toNat % 4 * 16), pad, pad]
  | [a, b] =>
    [letter (a.toNat / 4), letter (a.toNat % 4 * 16 + b.toNat / 16), letter (b.toNat % 16 * 4), pad]
  | a :: b :: c :: rest =>
    letter (a.toNat / 4) :: letter (a.toNat % 4 * 16 + b.toNat / 16) ::
      letter (b.toNat % 16 * 4 + c.toNat / 64) :: letter (c.toNat % 64) :: encode rest

/-- Four letters to three octets, fewer where the last group is padded. -/
def decode : List UInt8 → Option (List UInt8)
  | [] => some []
  | w :: x :: y :: z :: rest =>
    if y = pad ∧ z = pad ∧ rest = [] then do
      return [UInt8.ofNat ((← sextet w) * 4 + (← sextet x) / 16)]
    else if z = pad ∧ rest = [] then do
      let y ← sextet y
      let x ← sextet x
      return [UInt8.ofNat ((← sextet w) * 4 + x / 16), UInt8.ofNat (x % 16 * 16 + y / 4)]
    else do
      let x ← sextet x
      let y ← sextet y
      return UInt8.ofNat ((← sextet w) * 4 + x / 16) :: UInt8.ofNat (x % 16 * 16 + y / 4) ::
        UInt8.ofNat (y % 4 * 64 + (← sextet z)) :: (← decode rest)
  | _ => none

/-! ## Letters -/

theorem toNat_letter (n : ℕ) (h : n < 64) : (letter n).toNat =
    if n < 26 then n + 0x41
    else if n < 52 then n - 26 + 0x61
    else if n < 62 then n - 52 + 0x30
    else if n = 62 then 0x2B
    else 0x2F := by
  rw [letter, UInt8.toNat_ofNat', Nat.mod_eq_of_lt]
  split_ifs <;> omega

theorem sextet_letter {n : ℕ} (h : n < 64) : sextet (letter n) = some n := by
  have hletter := toNat_letter n h
  unfold sextet
  simp only [hletter]
  split_ifs <;> first | (exfalso; omega) | exact congrArg some (by omega)

/-- The letters and the padding are visible characters, and none of them is a colon. -/
structure IsChar (c : UInt8) : Prop where
  ge : 0x2B ≤ c.toNat
  le : c.toNat ≤ 0x7A
  ne_colon : c.toNat ≠ 0x3A

theorem isChar_letter {n : ℕ} (h : n < 64) : IsChar (letter n) := by
  have hletter := toNat_letter n h
  constructor <;> rw [hletter] <;> split_ifs <;> omega

theorem isChar_pad : IsChar pad := by
  constructor <;> decide

theorem letter_ne_pad {n : ℕ} (h : n < 64) : letter n ≠ pad := by
  intro heq
  have hletter := toNat_letter n h
  rw [heq] at hletter
  change 0x3D = _ at hletter
  split_ifs at hletter <;> omega

/-! ## Encodings -/

theorem isChar_of_mem_encode {octets : List UInt8} {c : UInt8} (h : c ∈ encode octets) :
    IsChar c := by
  fun_induction encode octets with
  | case1 => cases h
  | case2 a =>
    have ha := a.toNat_lt
    simp only [List.mem_cons, List.not_mem_nil, or_false] at h
    rcases h with rfl | rfl | rfl | rfl
    · exact isChar_letter (by omega)
    · exact isChar_letter (by omega)
    · exact isChar_pad
    · exact isChar_pad
  | case3 a b =>
    have ha := a.toNat_lt
    have hb := b.toNat_lt
    simp only [List.mem_cons, List.not_mem_nil, or_false] at h
    rcases h with rfl | rfl | rfl | rfl
    · exact isChar_letter (by omega)
    · exact isChar_letter (by omega)
    · exact isChar_letter (by omega)
    · exact isChar_pad
  | case4 a b c' rest ih =>
    have ha := a.toNat_lt
    have hb := b.toNat_lt
    have hc := c'.toNat_lt
    simp only [List.mem_cons] at h
    rcases h with rfl | rfl | rfl | rfl | h
    · exact isChar_letter (by omega)
    · exact isChar_letter (by omega)
    · exact isChar_letter (by omega)
    · exact isChar_letter (by omega)
    · exact ih h

theorem encode_ne_nil {octets : List UInt8} (h : octets ≠ []) : encode octets ≠ [] := by
  fun_cases encode octets with
  | case1 => exact absurd rfl h
  | _ => exact List.cons_ne_nil _ _

/-! ## Decoding inverts encoding -/

/-- The octet of the first letter and the high bits of the second. -/
theorem first_octet (a : UInt8) {m : ℕ} (hm : m < 16) :
    UInt8.ofNat (a.toNat / 4 * 4 + (a.toNat % 4 * 16 + m) / 16) = a := by
  have ha := a.toNat_lt
  apply UInt8.toNat_inj.mp
  rw [UInt8.toNat_ofNat']
  omega

/-- The octet of the low bits of the second letter and the high bits of the third. -/
theorem second_octet (b : UInt8) (k : ℕ) {m : ℕ} (hm : m < 4) :
    UInt8.ofNat ((k * 16 + b.toNat / 16) % 16 * 16 + (b.toNat % 16 * 4 + m) / 4) = b := by
  have hb := b.toNat_lt
  apply UInt8.toNat_inj.mp
  rw [UInt8.toNat_ofNat']
  omega

/-- The octet of the low bits of the third letter and the fourth. -/
theorem third_octet (c : UInt8) (k : ℕ) :
    UInt8.ofNat ((k * 4 + c.toNat / 64) % 4 * 64 + c.toNat % 64) = c := by
  have hc := c.toNat_lt
  apply UInt8.toNat_inj.mp
  rw [UInt8.toNat_ofNat']
  omega

theorem decode_encode (octets : List UInt8) : decode (encode octets) = some octets := by
  fun_induction encode octets with
  | case1 => rfl
  | case2 a =>
    have ha := a.toNat_lt
    rw [decode, if_pos ⟨rfl, rfl, rfl⟩, sextet_letter (by omega), sextet_letter (by omega)]
    exact congrArg (fun octet => some [octet]) (first_octet a (by omega : 0 < 16))
  | case3 a b =>
    have ha := a.toNat_lt
    have hb := b.toNat_lt
    have hpad : letter (b.toNat % 16 * 4) ≠ pad := letter_ne_pad (by omega)
    rw [decode, if_neg fun h => hpad h.1, if_pos ⟨rfl, rfl⟩, sextet_letter (by omega),
      sextet_letter (by omega), sextet_letter (by omega)]
    exact congrArg₂ (fun octet octet' => some [octet, octet']) (first_octet a (by omega))
      (second_octet b _ (by omega : 0 < 4))
  | case4 a b c rest ih =>
    have ha := a.toNat_lt
    have hb := b.toNat_lt
    have hc := c.toNat_lt
    have hpad : letter (c.toNat % 64) ≠ pad := letter_ne_pad (by omega)
    rw [decode, if_neg fun h => hpad h.2.1, if_neg fun h => hpad h.1, sextet_letter (by omega),
      sextet_letter (by omega), sextet_letter (by omega), sextet_letter (by omega), ih]
    change some (_ :: _ :: _ :: rest) = _
    rw [first_octet a (by omega), second_octet b _ (by omega), third_octet]

theorem length_of_tail_nil {w x y z : UInt8} {rest : List UInt8} (h : rest = []) :
    (w :: x :: y :: z :: rest).length % 4 = 0 := by
  rw [h]
  simp only [List.length_cons, List.length_nil]

/-- What is not a whole number of groups is no encoding. -/
theorem decode_eq_none {text : List UInt8} (h : text.length % 4 ≠ 0) : decode text = none := by
  fun_induction decode text with
  | case1 => exact absurd rfl h
  | case2 w x y z rest hpad => exact absurd (length_of_tail_nil hpad.2.2) h
  | case3 w x y z rest hpads hpad => exact absurd (length_of_tail_nil hpad.2) h
  | case4 w x y z rest hpads hpad ih =>
    have hrest : rest.length % 4 ≠ 0 := by
      simp only [List.length_cons] at h
      omega
    rw [ih hrest]
    cases sextet x <;> cases sextet y <;> cases sextet w <;> cases sextet z <;> rfl
  | case5 => rfl

end Base64
