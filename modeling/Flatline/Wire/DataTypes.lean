import Flatline.Common.Triple
import Flatline.Wire.Buffer

/-!
# Data types on the wire

The data types of RFC 4251, section 5, as relations between values and octets: `boolean`, `uint32`,
`string` and `name-list`, and lists of them as the messages of the protocol use them. A value can
have several encodings, since any nonzero octet is TRUE.

`WireValue` is a field with its value, `FieldKind` a field without one. The lemmas about `Consumer`
say what its reading steps make of the octets of a field, and which field the octets are that they
have consumed.
-/

namespace Flatline

/-! ## Values -/

/-- A field of a message with its value. -/
inductive WireValue where
  | boolean (value : Bool)
  | uint32 (value : UInt32)
  | string (content : Bytes)
  /-- A string that holds UTF-8. -/
  | text (content : Text)
  | nameList (names : List Text)
  /-- A number of pairs of a text and a string, and the pairs. -/
  | pairs (entries : List (Text × Bytes))
  /-- Strings up to the end of the message. -/
  | strings (contents : List Bytes)
  /-- Octets that stand for themselves. -/
  | raw (content : Bytes)
deriving DecidableEq, Repr

/-- The octets of a string. -/
def EncodesString (content octets : Bytes) : Prop :=
  content.length < UInt32.size ∧ octets = (Field.one content).put

/-- The names of a name-list: texts, not empty and without a comma. -/
def IsName (name : Text) : Prop :=
  name ≠ [] ∧ comma ∉ name ∧ utf8Valid name = true

instance (name : Text) : Decidable (IsName name) :=
  inferInstanceAs (Decidable (_ ∧ _ ∧ _))

/-- The octets of pairs of a text and a string, one after the other. -/
inductive EncodesPairs : List (Text × Bytes) → Bytes → Prop where
  | nil : EncodesPairs [] []
  | cons {name value : Bytes} {entries : List (Text × Bytes)} {o₁ o₂ o₃ : Bytes}
      (hname : utf8Valid name = true) (h₁ : EncodesString name o₁) (h₂ : EncodesString value o₂)
      (h₃ : EncodesPairs entries o₃) : EncodesPairs ((name, value) :: entries) (o₁ ++ (o₂ ++ o₃))

/-- The octets of strings, one after the other. -/
inductive EncodesStrings : List Bytes → Bytes → Prop where
  | nil : EncodesStrings [] []
  | cons {content : Bytes} {contents : List Bytes} {o₁ o₂ : Bytes}
      (h₁ : EncodesString content o₁) (h₂ : EncodesStrings contents o₂) :
      EncodesStrings (content :: contents) (o₁ ++ o₂)

/-- The octets of a field. -/
def WireValue.Encodes : WireValue → Bytes → Prop
  | .boolean value, octets => ∃ octet : UInt8, octets = [octet] ∧ (octet ≠ 0 ↔ value = true)
  | .uint32 value, octets => octets = toBeBytes value
  | .string content, octets => EncodesString content octets
  | .text content, octets => utf8Valid content = true ∧ EncodesString content octets
  | .nameList names, octets => (∀ name ∈ names, IsName name) ∧
    EncodesString (joinComma names) octets
  | .pairs entries, octets => ∃ octets', entries.length < UInt32.size ∧
    octets = toBeBytes (UInt32.ofNat entries.length) ++ octets' ∧ EncodesPairs entries octets'
  | .strings contents, octets => EncodesStrings contents octets
  | .raw content, octets => octets = content

/-- The octets of fields, one after the other. -/
inductive EncodesAll : List WireValue → Bytes → Prop where
  | nil : EncodesAll [] []
  | cons {value : WireValue} {values : List WireValue} {o₁ o₂ : Bytes}
      (h₁ : value.Encodes o₁) (h₂ : EncodesAll values o₂) :
      EncodesAll (value :: values) (o₁ ++ o₂)

/-! ## Kinds -/

/-- A field without its value. -/
inductive FieldKind where
  | boolean
  | uint32
  | string
  | pairs
  | strings
deriving DecidableEq, Repr

/-- What is laid out for a value. -/
def WireValue.kind? : WireValue → Option FieldKind
  | .boolean _ => some .boolean
  | .uint32 _ => some .uint32
  | .string _ | .text _ | .nameList _ => some .string
  | .pairs _ => some .pairs
  | .strings _ => some .strings
  | .raw _ => none

/-- The octets are a field of the kind, in full. -/
def FieldKind.Shapes : FieldKind → Bytes → Prop
  | .boolean, octets => octets.length = 1
  | .uint32, octets => octets.length = 4
  | .string, octets => ∃ content, EncodesString content octets
  | .pairs, octets => ∃ entries octets', entries.length < UInt32.size ∧
    octets = toBeBytes (UInt32.ofNat entries.length) ++ octets' ∧ EncodesPairs entries octets'
  | .strings, octets => ∃ contents, EncodesStrings contents octets

/-- The octets are fields of the kinds, each in full. -/
inductive ShapesAll : List FieldKind → Bytes → Prop where
  | nil : ShapesAll [] []
  | cons {kind : FieldKind} {kinds : List FieldKind} {o₁ o₂ : Bytes}
      (h₁ : kind.Shapes o₁) (h₂ : ShapesAll kinds o₂) : ShapesAll (kind :: kinds) (o₁ ++ o₂)

theorem ShapesAll.append {kinds kinds' : List FieldKind} {o o' : Bytes} (h : ShapesAll kinds o)
    (h' : ShapesAll kinds' o') : ShapesAll (kinds ++ kinds') (o ++ o') := by
  induction h with
  | nil => exact h'
  | cons h₁ _ ih =>
    rw [List.append_assoc]
    exact .cons h₁ ih

/-! ## Reading what is encoded -/

namespace Consumer

variable {octets rest rest' : Bytes} {error : Error}

theorem consumeOne_of_encodes {content : Bytes} (h : EncodesString content octets)
    (rest : Bytes) : consumeOne (octets ++ rest) = .ok content rest := by
  obtain ⟨hfits, rfl⟩ := h
  exact consumeOne_append rest hfits

/-- Octets begin with one string only. -/
theorem encodesString_inj {content content' octets' : Bytes}
    (h : EncodesString content octets) (h' : EncodesString content' octets')
    (heq : octets ++ rest = octets' ++ rest') : content = content' ∧ rest = rest' := by
  have hread := consumeOne_of_encodes h rest
  rw [heq, consumeOne_of_encodes h'] at hread
  injection hread with hcontent hrest
  exact ⟨hcontent.symm, hrest.symm⟩

theorem encodesPairs_inj {entries entries' : List (Text × Bytes)} (h : EncodesPairs entries octets)
    (h' : EncodesPairs entries' octets) (hlength : entries.length = entries'.length) :
    entries = entries' := by
  induction h generalizing entries' with
  | nil => exact (List.length_eq_zero_iff.mp hlength.symm).symm
  | @cons name value entries o₁ o₂ o₃ hname h₁ h₂ h₃ ih =>
    generalize hoctets : o₁ ++ (o₂ ++ o₃) = octets at h'
    cases h' with
    | nil => cases hlength
    | cons hname' h₁' h₂' h₃' =>
      obtain ⟨rfl, hoctets⟩ := encodesString_inj h₁ h₁' hoctets
      obtain ⟨rfl, rfl⟩ := encodesString_inj h₂ h₂' hoctets
      rw [ih h₃' (Nat.succ.inj hlength)]

/-- Octets are one list of pairs only. -/
theorem pairs_inj {entries entries' : List (Text × Bytes)}
    (h : WireValue.Encodes (.pairs entries) octets)
    (h' : WireValue.Encodes (.pairs entries') octets) : entries = entries' := by
  obtain ⟨octets₁, hfits, rfl, hentries⟩ := h
  obtain ⟨octets₂, hfits', hoctets, hentries'⟩ := h'
  have hread := consumeU32_append (UInt32.ofNat entries.length) octets₁
  rw [hoctets, consumeU32_append] at hread
  injection hread with hcount hoctets
  refine encodesPairs_inj hentries (hoctets ▸ hentries') ?_
  calc entries.length
    _ = (UInt32.ofNat entries.length).toNat := (UInt32.toNat_ofNat_of_lt hfits).symm
    _ = (UInt32.ofNat entries'.length).toNat := by rw [hcount]
    _ = entries'.length := UInt32.toNat_ofNat_of_lt hfits'

theorem consumeText_of_encodes {content : Text} (hvalid : utf8Valid content = true)
    (h : EncodesString content octets) (rest : Bytes) :
    consumeText error (octets ++ rest) = .ok content rest := by
  unfold consumeText
  rw [Triple.bind_of_ok (consumeOne_of_encodes h rest), if_pos hvalid]
  rfl

/-! ## Fields that have been read -/

/-- An integer is read from its four octets. -/
theorem toBeBytes_of_consumeU32 {n : UInt32} (h : consumeU32 rest = .ok n rest') :
    rest = toBeBytes n ++ rest' := by
  unfold consumeU32 at h
  split at h
  · next a b c d tail =>
    injection h with hn hrest
    have ha := a.toNat_lt
    have hb := b.toNat_lt
    have hc := c.toNat_lt
    have hd := d.toNat_lt
    have hvalue : n.toNat = a.toNat * 0x1000000 + b.toNat * 0x10000 + c.toNat * 0x100 + d.toNat := by
      rw [← hn, fromBeBytes, UInt32.toNat_ofNat', Nat.mod_eq_of_lt]
      omega
    rw [← hrest, toBeBytes, hvalue]
    simp only [List.cons_append, List.nil_append, List.cons.injEq, and_true]
    refine ⟨?_, ?_, ?_, ?_⟩ <;>
      (apply UInt8.toNat_inj.mp; simp only [UInt8.toNat_ofNat']; omega)
  · cases h

/-- A string is read from its octets. -/
theorem encodesString_of_consumeOne {content : Bytes} (h : consumeOne rest = .ok content rest') :
    ∃ octets, EncodesString content octets ∧ rest = octets ++ rest' := by
  unfold consumeOne at h
  split at h
  · next len tail hlen =>
    split at h
    · cases h
    · next hle =>
      injection h with hcontent hrest
      have hlength : content.length = len.toNat := by
        rw [← hcontent, List.length_take]
        omega
      refine ⟨(Field.one content).put, ⟨?_, rfl⟩, ?_⟩
      · rw [hlength]
        exact len.toNat_lt
      · rw [toBeBytes_of_consumeU32 hlen, Field.put, hlength, UInt32.ofNat_toNat,
          List.append_assoc, ← hcontent, ← hrest, List.take_append_drop]
  · cases h

/-- A text is read from its octets, and they are UTF-8. -/
theorem encodesString_of_consumeText {content : Text}
    (h : consumeText error rest = .ok content rest') :
    utf8Valid content = true ∧ ∃ octets, EncodesString content octets ∧ rest = octets ++ rest' := by
  unfold consumeText at h
  obtain ⟨content', rest₁, hone, h⟩ := Triple.bind_eq_ok_iff.mp h
  by_cases hvalid : utf8Valid content' = true
  · rw [if_pos hvalid] at h
    injection h with hcontent hrest
    obtain rfl := hcontent
    obtain rfl := hrest
    exact ⟨hvalid, encodesString_of_consumeOne hone⟩
  · rw [if_neg hvalid] at h
    cases h

end Consumer

/-! ## Reading fields one after the other -/

/-- A reading step returns a value, whatever it leaves unread. -/
def Reads {α : Type} (m : Consumer α) (octets : Bytes) (a : α) : Prop :=
  ∃ rest, m octets = .ok a rest

section Reads

variable {α : Type} {a : α} {values : List WireValue} {octets rest : Bytes} {p : Prop}
  [Decidable p]

theorem Reads.run' {m : Consumer α} (h : Reads m octets a) : Consumer.run' m octets = .ok a := by
  obtain ⟨rest, h⟩ := h
  unfold Consumer.run'
  rw [h]

theorem reads_pure (a : α) (octets : Bytes) : Reads (pure a) octets a := ⟨octets, rfl⟩

theorem Reads.bind {β : Type} {b : β} {m : Consumer β} {f : β → Consumer α}
    (hm : m (octets ++ rest) = .ok b rest) (hf : Reads (f b) rest a) :
    Reads (m >>= f) (octets ++ rest) a := by
  obtain ⟨rest', hf⟩ := hf
  exact ⟨rest', by rw [Triple.bind_of_ok hm, hf]⟩

theorem reads_if_pos {m m' : Consumer α} (hp : p) (h : Reads m octets a) :
    Reads (if p then m else m') octets a := by
  rw [if_pos hp]
  exact h

theorem reads_if_neg {m m' : Consumer α} (hp : ¬ p) (h : Reads m' octets a) :
    Reads (if p then m else m') octets a := by
  rw [if_neg hp]
  exact h

theorem reads_u8 {b : Bool} {f : UInt8 → Consumer α} (h : EncodesAll (.boolean b :: values) octets)
    (hf : ∀ octet rest, EncodesAll values rest → Reads (f octet) rest a) :
    Reads (Consumer.consumeU8 >>= f) octets a := by
  obtain _ | ⟨⟨octet, rfl, -⟩, hrest⟩ := h
  exact (hf octet _ hrest).bind (Consumer.consumeU8_cons octet _)

theorem reads_u32 {n : UInt32} {f : UInt32 → Consumer α}
    (h : EncodesAll (.uint32 n :: values) octets)
    (hf : ∀ rest, EncodesAll values rest → Reads (f n) rest a) :
    Reads (Consumer.consumeU32 >>= f) octets a := by
  obtain _ | ⟨rfl, hrest⟩ := h
  exact (hf _ hrest).bind (Consumer.consumeU32_append n _)

theorem reads_one {content : Bytes} {f : Bytes → Consumer α}
    (h : EncodesAll (.string content :: values) octets)
    (hf : ∀ rest, EncodesAll values rest → Reads (f content) rest a) :
    Reads (Consumer.consumeOne >>= f) octets a := by
  obtain _ | ⟨hstring, hrest⟩ := h
  exact (hf _ hrest).bind (Consumer.consumeOne_of_encodes hstring _)

theorem reads_text {content : Text} {error : Error} {f : Text → Consumer α}
    (h : EncodesAll (.text content :: values) octets)
    (hf : ∀ rest, EncodesAll values rest → Reads (f content) rest a) :
    Reads (Consumer.consumeText error >>= f) octets a := by
  obtain _ | ⟨⟨hvalid, hstring⟩, hrest⟩ := h
  exact (hf _ hrest).bind (Consumer.consumeText_of_encodes hvalid hstring _)

theorem reads_raw {content : Bytes} {len : ℕ} {f : Bytes → Consumer α}
    (h : EncodesAll (.raw content :: values) octets) (hlen : content.length = len)
    (hf : ∀ rest, EncodesAll values rest → Reads (f content) rest a) :
    Reads (Consumer.consumeBytes len >>= f) octets a := by
  obtain _ | ⟨rfl, hrest⟩ := h
  subst hlen
  exact (hf _ hrest).bind (Consumer.consumeBytes_append _ _)

theorem string_of_text {content : Text} (h : EncodesAll (.text content :: values) octets) :
    EncodesAll (.string content :: values) octets := by
  obtain _ | ⟨⟨-, hstring⟩, hrest⟩ := h
  exact .cons hstring hrest

end Reads

end Flatline
