import Flatline.Common.Base64
import Flatline.Cipher.Blobs
import Flatline.Key.PublicFiles

/-!
# What the public key parser does with text

The steps of `parse_public_key_file` in front of texts whose ends are known: line endings, trimming,
and the loops over blanks and words.

Source: `src/key.rs` (`parse_public_key_file`).
-/

namespace Flatline

open Triple Consumer Trimming

/-! ## Visible characters -/

/-- Printable ASCII but the space. -/
def IsVisible (octet : UInt8) : Prop :=
  0x21 ≤ octet.toNat ∧ octet.toNat ≤ 0x7E

/-- A continuation octet of UTF-8. -/
def IsContinuation (octet : UInt8) : Prop :=
  utf8Continuation octet = true

theorem IsVisible.lt {octet : UInt8} (h : IsVisible octet) : octet < 0x80 := by
  have hle := h.2
  rw [UInt8.lt_iff_toNat_lt]
  change octet.toNat < 128
  omega

theorem isVisible_of_isChar {octet : UInt8} (h : Base64.IsChar octet) : IsVisible octet := by
  have hge := h.ge
  have hle := h.le
  constructor <;> omega

theorem not_isSpaceOrTab_of_isVisible {octet : UInt8} (h : IsVisible octet) :
    Parser.isSpaceOrTab octet = false := by
  have hge := h.1
  unfold Parser.isSpaceOrTab
  rw [Bool.or_eq_false_iff]
  constructor
  all_goals
    rw [beq_eq_false_iff_ne]
    rintro rfl
    simp at hge

theorem IsVisible.ne_newline {octet : UInt8} (h : IsVisible octet) : octet ≠ newline := by
  rintro rfl
  exact absurd h.1 (by decide)

theorem IsVisible.ne_carriageReturn {octet : UInt8} (h : IsVisible octet) :
    octet ≠ carriageReturn := by
  rintro rfl
  exact absurd h.1 (by decide)

/-- A check that all characters of a literal are visible. -/
theorem visible_of_all {text : Text} (h : (text.all fun octet =>
    decide (0x21 ≤ octet.toNat) && decide (octet.toNat ≤ 0x7E)) = true) :
    ∀ octet ∈ text, IsVisible octet := by
  intro octet hoctet
  have hvisible := List.all_eq_true.mp h octet hoctet
  rw [Bool.and_eq_true, decide_eq_true_eq, decide_eq_true_eq] at hvisible
  exact hvisible

/-! ## White space -/

theorem whitespace_isCode : IsCode whitespace :=
  isCode_of_all (by decide) (by decide)

theorem whitespace_reverse_isCode : IsCode (whitespace.map List.reverse) :=
  isCode_of_all (by decide) (by decide)

/-- No white space begins or ends with a visible character, and all but its first octet are
continuations. -/
structure IsWhite (p : Bytes) : Prop where
  head : ∀ octet ∈ p.head?, ¬ IsVisible octet ∧ ¬ IsContinuation octet
  last : ∀ octet ∈ p.getLast?, ¬ IsVisible octet
  tail : ∀ octet ∈ p.tail, IsContinuation octet

theorem isWhite_of_mem {p : Bytes} (hp : p ∈ whitespace) : IsWhite p := by
  have hall : (whitespace.all fun p =>
      p.head?.all (fun octet => !(decide (0x21 ≤ octet.toNat) && decide (octet.toNat ≤ 0x7E)) &&
        !utf8Continuation octet) &&
      p.getLast?.all (fun octet => !(decide (0x21 ≤ octet.toNat) && decide (octet.toNat ≤ 0x7E))) &&
      p.tail.all utf8Continuation) = true := by decide
  have hp := List.all_eq_true.mp hall p hp
  simp only [Bool.and_eq_true, Option.all_eq_true, Bool.not_eq_true', Bool.and_eq_false_iff,
    decide_eq_false_iff_not, List.all_eq_true] at hp
  obtain ⟨⟨hhead, hlast⟩, htail⟩ := hp
  refine ⟨fun octet hoctet => ⟨fun hvisible => ?_, ?_⟩, fun octet hoctet hvisible => ?_, htail⟩
  · exact (hhead octet hoctet).1.elim (fun h => h hvisible.1) fun h => h hvisible.2
  · exact Bool.eq_false_iff.mp (hhead octet hoctet).2
  · exact (hlast octet hoctet).elim (fun h => h hvisible.1) fun h => h hvisible.2

theorem not_isContinuation_of_utf8Valid {octet : UInt8} {rest : Bytes}
    (h : utf8Valid (octet :: rest) = true) : ¬ IsContinuation octet := by
  unfold IsContinuation utf8Continuation
  rw [Bool.and_eq_true, decide_eq_true_eq, decide_eq_true_eq]
  rintro ⟨hge, hle⟩
  have hlt : ¬ octet < 0x80 := UInt8.not_lt.mpr hge
  -- every sequence of more than one octet begins above the continuations
  have hfirst : ∀ low high : UInt8, 0xBF < low → (decide (low ≤ octet) && decide (octet ≤ high)) =
      false := by
    intro low high hlow
    rw [Bool.and_eq_false_iff]
    left
    rw [decide_eq_false_iff_not, UInt8.not_le]
    exact UInt8.lt_of_le_of_lt hle hlow
  unfold utf8Valid at h
  simp only [hlt, if_false, hfirst 0xC2 0xDF (by decide), hfirst 0xE0 0xEF (by decide),
    hfirst 0xF0 0xF4 (by decide), Bool.false_eq_true] at h
  split at h
  · cases h
  · split at h
    · cases h
    · split at h <;> cases h

/-! ## Trimming -/

theorem trimStart_visible {octet : UInt8} (h : IsVisible octet) (rest : Bytes) :
    trimStart whitespace (octet :: rest) = octet :: rest := by
  apply trimStart_of_forall
  rintro p hp ⟨rest', hbegins⟩
  rcases p with _ | ⟨first, p⟩
  · exact whitespace_isCode.ne_nil hp rfl
  · injection hbegins with hfirst
    exact ((isWhite_of_mem hp).head first rfl).1 (hfirst ▸ h)

theorem trimEnd_visible {octet : UInt8} (h : IsVisible octet) (front : Bytes) :
    trimEnd whitespace (front ++ [octet]) = front ++ [octet] := by
  apply trimEnd_of_forall
  rintro p hp ⟨front', hends⟩
  have hlast := congrArg List.getLast? hends
  rw [List.getLast?_append, List.getLast?_append,
    List.getLast?_eq_some_getLast (whitespace_isCode.ne_nil hp)] at hlast
  have heq : p.getLast (whitespace_isCode.ne_nil hp) = octet := Option.some.inj hlast
  refine (isWhite_of_mem hp).last octet ?_ h
  rw [List.getLast?_eq_some_getLast (whitespace_isCode.ne_nil hp), heq]
  rfl

/-- A text that begins and ends with visible characters is not trimmed. -/
theorem trim_visible {first last : UInt8} (hfirst : IsVisible first) (hlast : IsVisible last)
    {text front rest : Bytes} (hbegins : text = first :: rest) (hends : text = front ++ [last]) :
    trim text = text := by
  unfold trim
  have hstart : trimStart whitespace text = text := by
    rw [hbegins]
    exact trimStart_visible hfirst rest
  rw [hstart, hends]
  exact trimEnd_visible hlast front

theorem singleton_mem_whitespace {octet : UInt8} (h : Parser.isSpaceOrTab octet = true) :
    [octet] ∈ whitespace := by
  unfold Parser.isSpaceOrTab at h
  rw [Bool.or_eq_true, beq_iff_eq, beq_iff_eq] at h
  rcases h with rfl | rfl <;> decide

theorem flatten_singletons (octets : Bytes) :
    (octets.map fun octet => [octet]).flatten = octets := by
  induction octets with
  | nil => rfl
  | cons octet rest ih => rw [List.map_cons, List.flatten_cons, ih, List.singleton_append]

theorem trimEnd_append_blanks {blanks : Bytes}
    (h : ∀ octet ∈ blanks, Parser.isSpaceOrTab octet = true) (front : Bytes) :
    trimEnd whitespace (front ++ blanks) = trimEnd whitespace front := by
  have hmem : ∀ p ∈ blanks.map fun octet => [octet], p ∈ whitespace := by
    intro p hp
    obtain ⟨octet, hoctet, rfl⟩ := List.mem_map.mp hp
    exact singleton_mem_whitespace (h octet hoctet)
  have htrim := trimEnd_append_flatten whitespace_reverse_isCode hmem front
  rwa [flatten_singletons] at htrim

theorem trimStart_cons_white {octet : UInt8} (h : [octet] ∈ whitespace) (rest : Bytes) :
    trimStart whitespace (octet :: rest) = trimStart whitespace rest :=
  trimStart_append_pattern whitespace_isCode h rest

theorem trimEnd_append_white {octet : UInt8} (h : [octet] ∈ whitespace) (front : Bytes) :
    trimEnd whitespace (front ++ [octet]) = trimEnd whitespace front :=
  trimEnd_append_pattern whitespace_reverse_isCode h front

/-- Behind anything, a text is trimmed by itself, as long as something is left of it. -/
theorem trimEnd_append_text (front : Bytes) {text : Text} (htext : utf8Valid text = true) :
    trimEnd whitespace (front ++ text) =
      if trimEnd whitespace text = [] then trimEnd whitespace front
      else front ++ trimEnd whitespace text := by
  refine trimEnd_append whitespace_reverse_isCode (fun p hp => (isWhite_of_mem hp).tail) front ?_
  intro octet hoctet
  rcases text with _ | ⟨first, rest⟩
  · cases hoctet
  · cases hoctet
    exact not_isContinuation_of_utf8Valid htext

theorem utf8Valid_trimEnd {text : Text} (h : utf8Valid text = true) :
    utf8Valid (trimEnd whitespace text) = true := by
  obtain ⟨ps, hps, htext⟩ := exists_trimEnd whitespace_reverse_isCode text
  rw [htext] at h
  refine utf8Valid_of_append h ?_
  rcases ps with _ | ⟨p, ps⟩
  · intro octet hoctet
    cases hoctet
  · obtain ⟨first, rest, hp⟩ :=
      List.exists_cons_of_ne_nil (whitespace_isCode.ne_nil (hps p List.mem_cons_self))
    intro octet hoctet
    rw [List.flatten_cons, hp] at hoctet
    refine ((isWhite_of_mem (hps p List.mem_cons_self)).head octet ?_).2
    rw [hp]
    exact hoctet

theorem mem_of_mem_trimEnd {octet : UInt8} {text : Text} (h : octet ∈ trimEnd whitespace text) :
    octet ∈ text := by
  obtain ⟨ps, -, heq⟩ := exists_trimStart whitespace_reverse_isCode text.reverse
  unfold trimEnd at h
  rw [List.mem_reverse] at h
  rw [← List.mem_reverse, heq]
  exact List.mem_append_right _ h

theorem mem_of_mem_trim {octet : UInt8} {text : Text} (h : octet ∈ trim text) : octet ∈ text := by
  obtain ⟨ps, -, heq⟩ := exists_trimStart whitespace_isCode text
  rw [heq]
  exact List.mem_append_right _ (mem_of_mem_trimEnd h)

/-! ## Line endings -/

/-- `\n`, `\r\n` and `\r`. -/
inductive LineEnding where
  | lf
  | crlf
  | cr
deriving DecidableEq, Repr

def LineEnding.octets : LineEnding → Bytes
  | lf => [newline]
  | crlf => [carriageReturn, newline]
  | cr => [carriageReturn]

/-- No line ends inside. -/
structure IsUnbroken (text : Text) : Prop where
  no_newline : newline ∉ text
  no_carriageReturn : carriageReturn ∉ text

theorem isUnbroken_append {s t : Text} (hs : IsUnbroken s) (ht : IsUnbroken t) :
    IsUnbroken (s ++ t) where
  no_newline h := (List.mem_append.mp h).elim hs.no_newline ht.no_newline
  no_carriageReturn h := (List.mem_append.mp h).elim hs.no_carriageReturn ht.no_carriageReturn

theorem isUnbroken_of_visible {text : Text} (h : ∀ octet ∈ text, IsVisible octet) :
    IsUnbroken text where
  no_newline hmem := (h newline hmem).ne_newline rfl
  no_carriageReturn hmem := (h carriageReturn hmem).ne_carriageReturn rfl

/-- `replace("\r\n", "\n").replace('\r', "\n")`. -/
def normalized (content : Text) : Text :=
  replaceCr (replaceCrLf content)

theorem replaceCrLf_append {text : Text} (h : carriageReturn ∉ text) (rest : Text) :
    replaceCrLf (text ++ rest) = text ++ replaceCrLf rest := by
  induction text with
  | nil => rfl
  | cons octet text ih =>
    have hoctet : octet ≠ carriageReturn := fun heq => h (heq ▸ List.mem_cons_self)
    have htext : carriageReturn ∉ text := fun hmem => h (List.mem_cons_of_mem octet hmem)
    rw [List.cons_append, List.cons_append, ← ih htext]
    rcases text ++ rest with _ | ⟨second, rest'⟩
    · rfl
    · rw [replaceCrLf, if_neg fun hcrlf => hoctet hcrlf.1]

theorem replaceCr_append (s t : Text) : replaceCr (s ++ t) = replaceCr s ++ replaceCr t :=
  List.map_append

theorem replaceCr_unbroken {text : Text} (h : carriageReturn ∉ text) : replaceCr text = text := by
  unfold replaceCr
  refine (List.map_congr_left fun octet hoctet => ?_).trans (List.map_id text)
  rw [if_neg fun heq => h (by rwa [← heq]), id_eq]

theorem normalized_append {text : Text} (h : carriageReturn ∉ text) (rest : Text) :
    normalized (text ++ rest) = text ++ normalized rest := by
  unfold normalized
  rw [replaceCrLf_append h, replaceCr_append, replaceCr_unbroken h]

theorem normalized_unbroken {text : Text} (h : carriageReturn ∉ text) : normalized text = text := by
  have happend := normalized_append h []
  rwa [List.append_nil, show normalized [] = [] from rfl, List.append_nil] at happend

/-- An ending becomes a newline, unless it is a carriage return with a newline behind it. -/
theorem normalized_ending (ending : LineEnding) {rest : Text} (h : rest.head? ≠ some newline) :
    normalized (ending.octets ++ rest) = newline :: normalized rest := by
  cases ending with
  | lf => exact normalized_append (by decide) rest
  | crlf =>
    change replaceCr (replaceCrLf (carriageReturn :: newline :: rest)) = _
    rw [replaceCrLf, if_pos ⟨rfl, rfl⟩]
    rfl
  | cr =>
    change replaceCr (replaceCrLf (carriageReturn :: rest)) = _
    rcases rest with _ | ⟨octet, rest⟩
    · rfl
    · rw [replaceCrLf, if_neg fun hcrlf => h (by rw [hcrlf.2]; rfl)]
      rfl

/-! ## Blanks and words -/

namespace Parser

/-- Spaces and tabs. -/
def IsBlanks (octets : Bytes) : Prop :=
  ∀ octet ∈ octets, isSpaceOrTab octet = true

theorem isBlanks_nil : IsBlanks [] := fun _ h => absurd h List.not_mem_nil

/-- A word: a text without spaces and tabs, and not empty. -/
structure IsWord (word : Text) : Prop where
  ne_nil : word ≠ []
  no_blank : ∀ octet ∈ word, isSpaceOrTab octet = false
  valid : utf8Valid word = true

/-- A blank comes first. -/
def StartsBlank (octets : Bytes) : Prop :=
  ∃ blank rest, octets = blank :: rest ∧ isSpaceOrTab blank = true

theorem isWord_of_visible {text : Text} (hne : text ≠ []) (h : ∀ octet ∈ text, IsVisible octet) :
    IsWord text where
  ne_nil := hne
  no_blank octet hoctet := not_isSpaceOrTab_of_isVisible (h octet hoctet)
  valid := utf8Valid_of_forall_lt fun octet hoctet => (h octet hoctet).lt

theorem startsBlank_append {blanks : Bytes} (hne : blanks ≠ []) (h : IsBlanks blanks)
    (rest : Bytes) : StartsBlank (blanks ++ rest) := by
  rcases blanks with _ | ⟨blank, blanks⟩
  · exact absurd rfl hne
  · exact ⟨blank, blanks ++ rest, rfl, h blank List.mem_cons_self⟩

theorem untilBlank_eq (data : Bytes) : untilBlank data =
    match data.findIdx? isSpaceOrTab with
    | some i => (some <$> fromUtf8 (data.take i)) (data.drop i)
    | none => .ok none data := by
  unfold untilBlank peek
  rw [get_bind]
  cases data.findIdx? isSpaceOrTab <;> rfl

section Words

variable {word blanks tail : Bytes} (hword : IsWord word)

include hword

theorem skipBlanks_word (hblanks : IsBlanks blanks) (tail : Bytes) :
    skipBlanks (blanks ++ (word ++ tail)) = .ok () (word ++ tail) := by
  obtain ⟨octet, rest, rfl⟩ := List.exists_cons_of_ne_nil hword.ne_nil
  have hdrop : (blanks ++ (octet :: rest ++ tail)).dropWhile isSpaceOrTab =
      octet :: rest ++ tail := by
    rw [List.dropWhile_append_of_pos hblanks, List.cons_append, List.dropWhile_cons_of_neg]
    rw [hword.no_blank octet List.mem_cons_self]
    exact Bool.false_ne_true
  unfold skipBlanks
  rw [hdrop]
  rfl

theorem findIdx?_word : word.findIdx? isSpaceOrTab = none :=
  List.findIdx?_eq_none_iff.mpr hword.no_blank

theorem untilBlank_word (htail : StartsBlank tail) :
    untilBlank (word ++ tail) = .ok (some word) tail := by
  obtain ⟨blank, rest, rfl, hblank⟩ := htail
  have hfind : (word ++ blank :: rest).findIdx? isSpaceOrTab = some word.length := by
    rw [List.findIdx?_append, findIdx?_word hword, List.findIdx?_cons, if_pos hblank]
    simp
  rw [untilBlank_eq, hfind]
  change (some <$> fromUtf8 ((word ++ blank :: rest).take word.length))
    ((word ++ blank :: rest).drop word.length) = _
  rw [List.take_left, List.drop_left]
  unfold fromUtf8
  rw [if_pos hword.valid]
  rfl

theorem untilBlank_end : untilBlank word = .ok none word := by
  rw [untilBlank_eq, findIdx?_word hword]

/-! ### The three loops -/

theorem methodField_word (htail : StartsBlank tail) :
    methodField (word ++ tail) = .ok word tail := by
  have hskip : skipBlanks (word ++ tail) = .ok () (word ++ tail) :=
    skipBlanks_word hword isBlanks_nil tail
  unfold methodField
  rw [bind_of_ok hskip, bind_of_ok (untilBlank_word hword htail)]
  rfl

theorem methodField_end : ∃ error rest, methodField word = .error error rest := by
  have hskip : skipBlanks (word ++ []) = .ok () (word ++ []) :=
    skipBlanks_word hword isBlanks_nil []
  rw [List.append_nil] at hskip
  unfold methodField
  rw [bind_of_ok hskip, bind_of_ok (untilBlank_end hword)]
  exact ⟨_, _, rfl⟩

theorem wordField_word (hblanks : IsBlanks blanks) (htail : StartsBlank tail) :
    wordField (blanks ++ (word ++ tail)) = .ok word tail := by
  unfold wordField
  rw [bind_of_ok (skipBlanks_word hword hblanks tail), bind_of_ok (untilBlank_word hword htail)]
  rfl

theorem wordField_end (hblanks : IsBlanks blanks) : wordField (blanks ++ word) = .ok word [] := by
  have hskip := skipBlanks_word hword hblanks []
  rw [List.append_nil] at hskip
  unfold wordField
  rw [bind_of_ok hskip, bind_of_ok (untilBlank_end hword)]
  change fromUtf8 word [] = _
  unfold fromUtf8
  rw [if_pos hword.valid]
  rfl

theorem commentField_end (hblanks : IsBlanks blanks) :
    commentField (blanks ++ word) = .ok (some word) [] := by
  obtain ⟨octet, hoctet⟩ := List.exists_mem_of_ne_nil word hword.ne_nil
  have hall : ¬ (blanks ++ word).all isSpaceOrTab = true := by
    intro hall
    have hblank := List.all_eq_true.mp hall octet (List.mem_append_right blanks hoctet)
    rw [hword.no_blank octet hoctet] at hblank
    cases hblank
  unfold commentField peek
  rw [get_bind, if_neg hall]
  change (wordField >>= fun word => pure (some word)) _ = _
  rw [bind_of_ok (wordField_end hword hblanks)]
  rfl

end Words

theorem commentField_nil : commentField [] = .ok none [] := rfl

/-! ### No comment has blanks -/

/-- No word that a field is read as has a blank in it. -/
def HasNoBlank (word : Text) : Prop :=
  ∀ octet ∈ word, isSpaceOrTab octet = false

theorem hasNoBlank_take {data : Bytes} {i : ℕ} (h : data.findIdx? isSpaceOrTab = some i) :
    HasNoBlank (data.take i) := by
  intro octet hoctet
  obtain ⟨j, hj, rfl⟩ := List.mem_take_iff_getElem.mp hoctet
  obtain ⟨hi, -, hbefore⟩ := List.findIdx?_eq_some_iff_getElem.mp h
  exact Bool.not_eq_true _ ▸ hbefore j (by omega)

theorem eq_of_fromUtf8 {octets data rest : Bytes} {word : Text}
    (h : fromUtf8 octets data = .ok word rest) : word = octets := by
  unfold fromUtf8 at h
  split_ifs at h
  · injection h with hword
    exact hword.symm
  · cases h

theorem hasNoBlank_wordField {data rest : Bytes} {word : Text}
    (h : wordField data = .ok word rest) : HasNoBlank word := by
  obtain ⟨⟨⟩, data₁, -, h⟩ := bind_eq_ok_iff.mp h
  obtain ⟨found, data₂, huntil, h⟩ := bind_eq_ok_iff.mp h
  rw [untilBlank_eq] at huntil
  cases hfind : data₁.findIdx? isSpaceOrTab with
  | some i =>
    rw [hfind] at huntil
    obtain ⟨taken, data₃, htaken, huntil⟩ := bind_eq_ok_iff.mp huntil
    cases huntil
    injection h with hword
    rw [← hword, eq_of_fromUtf8 htaken]
    exact hasNoBlank_take hfind
  | none =>
    rw [hfind] at huntil
    cases huntil
    rw [eq_of_fromUtf8 h]
    exact List.findIdx?_eq_none_iff.mp hfind

theorem hasNoBlank_commentField {data rest : Bytes} {comment : Option Text}
    (h : commentField data = .ok comment rest) : HasNoBlank (comment.getD []) := by
  unfold commentField peek at h
  rw [get_bind] at h
  split_ifs at h
  · cases h
    exact fun _ hmem => absurd hmem List.not_mem_nil
  · obtain ⟨word, data₁, hword, h⟩ := bind_eq_ok_iff.mp h
    cases h
    exact hasNoBlank_wordField hword

/-- The comment of a line has no blank in it, whatever the line is. -/
theorem hasNoBlank_lineFields {text method content : Text} {comment : Option Text}
    (h : Consumer.run' lineFields text = .ok (method, content, comment)) :
    HasNoBlank (comment.getD []) := by
  obtain ⟨rest, h⟩ := run'_eq_ok_iff.mp h
  obtain ⟨method', data₁, -, h⟩ := bind_eq_ok_iff.mp h
  obtain ⟨content', data₂, -, h⟩ := bind_eq_ok_iff.mp h
  obtain ⟨comment', data₃, hcomment, h⟩ := bind_eq_ok_iff.mp h
  cases h
  exact hasNoBlank_commentField hcomment

/-! ## Blocks -/

theorem ssh2Block_eq_some_iff {text comment line : Text} :
    ssh2Block text = some (comment, line) ↔
      ∃ front body first value, stripPrefix ssh2PublicKeyHeader text = some front ∧
        stripSuffix ssh2PublicKeyFooter front = some body ∧
        (trim body).splitOn newline = [first, line] ∧
        stripPrefix (ascii "Comment:") first = some value ∧ ssh2Comment value = comment := by
  unfold ssh2Block
  constructor
  · intro h
    obtain ⟨front, hfront, h⟩ := Option.bind_eq_some_iff.mp h
    obtain ⟨body, hbody, h⟩ := Option.bind_eq_some_iff.mp h
    split at h
    · next first second hlines =>
      obtain ⟨value, hvalue, h⟩ := Option.bind_eq_some_iff.mp h
      cases h
      exact ⟨front, body, first, value, hfront, hbody, hlines, hvalue, rfl⟩
    · cases h
  · rintro ⟨front, body, first, value, hfront, hbody, hlines, hvalue, rfl⟩
    simp only [hfront, hbody, hlines, hvalue, Option.bind_eq_bind, Option.bind_some,
      Option.pure_def]

theorem mem_of_stripPrefix {front text rest : Text} (h : stripPrefix front text = some rest)
    {octet : UInt8} (hoctet : octet ∈ rest) : octet ∈ text := by
  unfold stripPrefix at h
  split_ifs at h
  cases h
  exact List.mem_of_mem_drop hoctet

theorem mem_of_stripSuffix {back text rest : Text} (h : stripSuffix back text = some rest)
    {octet : UInt8} (hoctet : octet ∈ rest) : octet ∈ text := by
  unfold stripSuffix at h
  split_ifs at h
  cases h
  exact List.mem_of_mem_take hoctet

/-- A text of one line is no block. -/
theorem ssh2Block_eq_none {text : Text} (h : newline ∉ text) : ssh2Block text = none := by
  rw [Option.eq_none_iff_forall_ne_some]
  rintro ⟨comment, line⟩ hsome
  obtain ⟨front, body, first, value, hfront, hbody, hlines, -⟩ := ssh2Block_eq_some_iff.mp hsome
  have hbroken : newline ∉ trim body := fun hmem =>
    h (mem_of_stripPrefix hfront (mem_of_stripSuffix hbody (mem_of_mem_trim hmem)))
  rw [List.splitOn_eq_singleton hbroken] at hlines
  cases hlines

end Parser

end Flatline
