import Mathlib

/-!
# Octets and text

Everything the client reads or writes is a list of octets. Text (`str`, `String`) is the list of
its UTF-8 octets; `utf8Valid` is the check that `std::str::from_utf8` makes before octets are
called text.
-/

namespace Flatline

/-- A byte string, `Vec<u8>` or `&[u8]`. -/
abbrev Bytes := List UInt8

/-- A text, `String` or `&str`, given by its UTF-8 octets. -/
abbrev Text := Bytes

/-- The octets of an ASCII literal. -/
def ascii (s : String) : Text :=
  s.toList.map fun c => c.toNat.toUInt8

/-! ## UTF-8 validity -/

/-- A continuation octet of a multi-octet sequence. -/
def utf8Continuation (b : UInt8) : Bool :=
  0x80 ≤ b && b ≤ 0xBF

/-- The second octet allowed after the first octet `a` of a three-octet sequence: no overlong
form and no surrogate. -/
def utf8SecondOfThree (a b : UInt8) : Bool :=
  if a = 0xE0 then 0xA0 ≤ b && b ≤ 0xBF
  else if a = 0xED then 0x80 ≤ b && b ≤ 0x9F
  else utf8Continuation b

/-- The second octet allowed after the first octet `a` of a four-octet sequence: no overlong form
and nothing above U+10FFFF. -/
def utf8SecondOfFour (a b : UInt8) : Bool :=
  if a = 0xF0 then 0x90 ≤ b && b ≤ 0xBF
  else if a = 0xF4 then 0x80 ≤ b && b ≤ 0x8F
  else utf8Continuation b

/-- The check of `std::str::from_utf8`. -/
def utf8Valid : Bytes → Bool
  | [] => true
  | a :: rest =>
    if a < 0x80 then utf8Valid rest
    else match rest with
      | [] => false
      | b :: rest₂ =>
        if 0xC2 ≤ a && a ≤ 0xDF then utf8Continuation b && utf8Valid rest₂
        else match rest₂ with
          | [] => false
          | c :: rest₃ =>
            if 0xE0 ≤ a && a ≤ 0xEF then
              utf8SecondOfThree a b && utf8Continuation c && utf8Valid rest₃
            else match rest₃ with
              | [] => false
              | d :: rest₄ =>
                if 0xF0 ≤ a && a ≤ 0xF4 then
                  utf8SecondOfFour a b && utf8Continuation c && utf8Continuation d &&
                    utf8Valid rest₄
                else false

/-- ASCII octets are valid text. -/
theorem utf8Valid_of_forall_lt {bs : Bytes} (h : ∀ b ∈ bs, b < 0x80) : utf8Valid bs = true := by
  induction bs with
  | nil => rfl
  | cons b rest ih =>
    have hb : b < 0x80 := h b (by simp)
    have hrest : utf8Valid rest = true := ih fun c hc => h c (by simp [hc])
    unfold utf8Valid
    simp [hb, hrest]

/-- Two texts make a text. -/
theorem utf8Valid_append {s t : Bytes} (hs : utf8Valid s = true) (ht : utf8Valid t = true) :
    utf8Valid (s ++ t) = true := by
  fun_induction utf8Valid s with
  | case1 => exact ht
  | case2 a rest ha ih =>
    rw [List.cons_append, utf8Valid.eq_def]
    simp only [ha, if_true, ih hs]
  | case4 a ha b rest hb ih =>
    obtain ⟨hcont, hrest⟩ := Bool.and_eq_true_iff.mp hs
    rw [List.cons_append, List.cons_append, utf8Valid.eq_def]
    simp only [ha, if_false, hb, if_true, hcont, ih hrest, Bool.and_self]
  | case6 a ha b hb c rest hc ih =>
    obtain ⟨hcont, hrest⟩ := Bool.and_eq_true_iff.mp hs
    simp only [List.cons_append]
    rw [utf8Valid.eq_def]
    simp only [ha, if_false, hb, hc, if_true, hcont, ih hrest, Bool.and_self, Bool.false_eq_true]
  | case8 a ha b hb c hc d rest hd ih =>
    obtain ⟨hcont, hrest⟩ := Bool.and_eq_true_iff.mp hs
    simp only [List.cons_append]
    rw [utf8Valid.eq_def]
    simp only [ha, if_false, hb, hc, hd, if_true, hcont, ih hrest, Bool.and_self, Bool.false_eq_true]
  | _ => cases hs

/-! ### Parts of a text -/

theorem continuation_of_secondOfThree {a b : UInt8} (h : utf8SecondOfThree a b = true) :
    utf8Continuation b = true := by
  unfold utf8SecondOfThree at h
  unfold utf8Continuation
  simp only [Bool.and_eq_true, decide_eq_true_eq] at h ⊢
  split_ifs at h
  all_goals
    simp only [utf8Continuation, Bool.and_eq_true, decide_eq_true_eq, UInt8.le_iff_toNat_le] at h ⊢
    obtain ⟨hlow, hhigh⟩ := h
    constructor
    · exact Nat.le_trans (by decide) hlow
    · exact Nat.le_trans hhigh (by decide)

theorem continuation_of_secondOfFour {a b : UInt8} (h : utf8SecondOfFour a b = true) :
    utf8Continuation b = true := by
  unfold utf8SecondOfFour at h
  unfold utf8Continuation
  simp only [Bool.and_eq_true, decide_eq_true_eq] at h ⊢
  split_ifs at h
  all_goals
    simp only [utf8Continuation, Bool.and_eq_true, decide_eq_true_eq, UInt8.le_iff_toNat_le] at h ⊢
    obtain ⟨hlow, hhigh⟩ := h
    constructor
    · exact Nat.le_trans (by decide) hlow
    · exact Nat.le_trans hhigh (by decide)

/-- Behind the first octet of a longer sequence comes a continuation, -/
theorem continuation_second {a b : UInt8} {rest : Bytes} (ha : ¬ a < 0x80)
    (h : utf8Valid (a :: b :: rest) = true) : utf8Continuation b = true := by
  rw [utf8Valid.eq_def] at h
  simp only [ha, if_false] at h
  split at h
  · exact (Bool.and_eq_true_iff.mp h).1
  · split at h
    · cases h
    · split at h
      · exact continuation_of_secondOfThree (Bool.and_eq_true_iff.mp (Bool.and_eq_true_iff.mp h).1).1
      · split at h
        · cases h
        · split at h
          · exact continuation_of_secondOfFour (Bool.and_eq_true_iff.mp
              (Bool.and_eq_true_iff.mp (Bool.and_eq_true_iff.mp h).1).1).1
          · cases h

/-- behind the second octet of a sequence of more than two another one, -/
theorem continuation_third {a b c : UInt8} {rest : Bytes} (ha : ¬ a < 0x80)
    (htwo : ¬ (decide (0xC2 ≤ a) && decide (a ≤ 0xDF)) = true)
    (h : utf8Valid (a :: b :: c :: rest) = true) : utf8Continuation c = true := by
  rw [utf8Valid.eq_def] at h
  simp only [ha, if_false, htwo, Bool.false_eq_true] at h
  split at h
  · exact (Bool.and_eq_true_iff.mp (Bool.and_eq_true_iff.mp h).1).2
  · split at h
    · cases h
    · split at h
      · exact (Bool.and_eq_true_iff.mp (Bool.and_eq_true_iff.mp (Bool.and_eq_true_iff.mp h).1).1).2
      · cases h

/-- and behind the third of a sequence of four the last one. -/
theorem continuation_fourth {a b c d : UInt8} {rest : Bytes} (ha : ¬ a < 0x80)
    (htwo : ¬ (decide (0xC2 ≤ a) && decide (a ≤ 0xDF)) = true)
    (hthree : ¬ (decide (0xE0 ≤ a) && decide (a ≤ 0xEF)) = true)
    (h : utf8Valid (a :: b :: c :: d :: rest) = true) : utf8Continuation d = true := by
  rw [utf8Valid.eq_def] at h
  simp only [ha, if_false, htwo, hthree, Bool.false_eq_true] at h
  split at h
  · exact (Bool.and_eq_true_iff.mp (Bool.and_eq_true_iff.mp h).1).2
  · cases h

/-- What stands in front of a character is a text by itself. -/
theorem utf8Valid_of_append {s t : Bytes} (h : utf8Valid (s ++ t) = true)
    (ht : ∀ octet ∈ t.head?, ¬ utf8Continuation octet = true) : utf8Valid s = true := by
  fun_induction utf8Valid s with
  | case1 => rfl
  | case2 a rest ha ih =>
    rw [List.cons_append, utf8Valid.eq_def] at h
    simp only [ha, if_true] at h
    exact ih h
  | case3 a ha =>
    rcases t with _ | ⟨b, t⟩
    · rw [utf8Valid.eq_def] at h
      simp [ha] at h
    · exact absurd (continuation_second ha h) (ht b rfl)
  | case4 a ha b rest hb ih =>
    rw [List.cons_append, List.cons_append, utf8Valid.eq_def] at h
    simp only [ha, if_false, hb, if_true] at h
    obtain ⟨hcont, hrest⟩ := Bool.and_eq_true_iff.mp h
    rw [hcont, ih hrest]
    rfl
  | case5 a ha b hb =>
    rcases t with _ | ⟨c, t⟩
    · rw [List.append_nil, utf8Valid.eq_def] at h
      simp only [ha, if_false, hb, Bool.false_eq_true] at h
    · exact absurd (continuation_third ha hb h) (ht c rfl)
  | case6 a ha b hb c rest hc ih =>
    simp only [List.cons_append] at h
    rw [utf8Valid.eq_def] at h
    simp only [ha, if_false, hb, hc, if_true, Bool.false_eq_true] at h
    obtain ⟨hcont, hrest⟩ := Bool.and_eq_true_iff.mp h
    rw [hcont, ih hrest]
    rfl
  | case7 a ha b hb c hc =>
    rcases t with _ | ⟨d, t⟩
    · rw [List.append_nil, utf8Valid.eq_def] at h
      simp only [ha, if_false, hb, hc, Bool.false_eq_true] at h
    · exact absurd (continuation_fourth ha hb hc h) (ht d rfl)
  | case8 a ha b hb c hc d rest hd ih =>
    simp only [List.cons_append] at h
    rw [utf8Valid.eq_def] at h
    simp only [ha, if_false, hb, hc, hd, if_true, Bool.false_eq_true] at h
    obtain ⟨hcont, hrest⟩ := Bool.and_eq_true_iff.mp h
    rw [hcont, ih hrest]
    rfl
  | case9 a ha b hb c hc d rest hd =>
    simp only [List.cons_append] at h
    rw [utf8Valid.eq_def] at h
    simp only [ha, if_false, hb, hc, hd, Bool.false_eq_true] at h

/-! ## Name lists -/

/-- The octet of `,`. -/
def comma : UInt8 := 0x2C

/-- `text.split(',')`: the fields between the commas, one empty field for an empty text. -/
def splitComma (t : Text) : List Text :=
  t.splitOn comma

/-- `names.join(",")`. -/
def joinComma (names : List Text) : Text :=
  List.intercalate [comma] names

/-- Splitting a joined, nonempty list of comma-free names gives the names back. -/
theorem splitComma_joinComma {names : List Text} (hne : names ≠ [])
    (hfree : ∀ name ∈ names, comma ∉ name) : splitComma (joinComma names) = names :=
  List.splitOn_intercalate comma hfree hne

theorem joinComma_cons_cons (name next : Text) (rest : List Text) :
    joinComma (name :: next :: rest) = name ++ comma :: joinComma (next :: rest) := by
  unfold joinComma
  rw [List.intercalate_cons_cons, List.append_assoc]
  rfl

/-- Names that are texts make a text. -/
theorem utf8Valid_joinComma {names : List Text} (h : ∀ name ∈ names, utf8Valid name = true) :
    utf8Valid (joinComma names) = true := by
  induction names with
  | nil => rfl
  | cons name rest ih =>
    have hname := h name List.mem_cons_self
    have hrest := ih fun next hnext => h next (List.mem_cons_of_mem _ hnext)
    cases rest with
    | nil =>
      rw [joinComma, List.intercalate_singleton]
      exact hname
    | cons next rest =>
      rw [joinComma_cons_cons]
      refine utf8Valid_append hname ?_
      rw [utf8Valid.eq_def]
      exact hrest

/-- Only the empty list of names is written as nothing. -/
theorem joinComma_eq_nil {names : List Text} (h : ∀ name ∈ names, name ≠ []) :
    joinComma names = [] ↔ names = [] := by
  constructor
  · intro hjoin
    cases names with
    | nil => rfl
    | cons name rest =>
      have hname := h name List.mem_cons_self
      cases rest with
      | nil =>
        rw [joinComma, List.intercalate_singleton] at hjoin
        exact absurd hjoin hname
      | cons next rest =>
        rw [joinComma_cons_cons] at hjoin
        exact absurd (List.append_eq_nil_iff.mp hjoin).1 hname
  · rintro rfl
    rfl
end Flatline
