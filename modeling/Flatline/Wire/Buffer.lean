import Flatline.Error

/-!
# Wire buffers

`Producer` appends big-endian integers and length-prefixed strings to a byte vector; `Consumer`
reads them back from a slice. A producer is the vector built so far. A consumer is the part of the
slice that is still unread: `data[pos..]`, all that any of its methods looks at.

Source: `src/ssh/buffer.rs`.
-/

namespace Flatline

/-! ## Integers -/

/-- `u32::to_be_bytes`. -/
def toBeBytes (n : UInt32) : Bytes :=
  [UInt8.ofNat (n.toNat / 0x1000000), UInt8.ofNat (n.toNat / 0x10000),
    UInt8.ofNat (n.toNat / 0x100), UInt8.ofNat n.toNat]

/-- `u32::from_be_bytes`. -/
def fromBeBytes (a b c d : UInt8) : UInt32 :=
  UInt32.ofNat (a.toNat * 0x1000000 + b.toNat * 0x10000 + c.toNat * 0x100 + d.toNat)

/-- `u64::to_be_bytes`. -/
def toBeBytes64 (n : UInt64) : Bytes :=
  [UInt8.ofNat (n.toNat / 2 ^ 56), UInt8.ofNat (n.toNat / 2 ^ 48),
    UInt8.ofNat (n.toNat / 2 ^ 40), UInt8.ofNat (n.toNat / 2 ^ 32),
    UInt8.ofNat (n.toNat / 2 ^ 24), UInt8.ofNat (n.toNat / 2 ^ 16),
    UInt8.ofNat (n.toNat / 2 ^ 8), UInt8.ofNat n.toNat]

/-- `u64::from_be_bytes`. -/
def fromBeBytes64 (a b c d e f g h : UInt8) : UInt64 :=
  UInt64.ofNat (a.toNat * 2 ^ 56 + b.toNat * 2 ^ 48 + c.toNat * 2 ^ 40 + d.toNat * 2 ^ 32 +
    e.toNat * 2 ^ 24 + f.toNat * 2 ^ 16 + g.toNat * 2 ^ 8 + h.toNat)

/-- `a + b` of `u64`; an overflow is a panic. -/
def checkedAdd (a b : ℕ) : Option ℕ :=
  if a + b < 2 ^ 64 then some (a + b) else none

theorem checkedAdd_of_lt {a b : ℕ} (h : a + b < 2 ^ 64) : checkedAdd a b = some (a + b) :=
  if_pos h

@[simp] theorem length_toBeBytes (n : UInt32) : (toBeBytes n).length = 4 := rfl

@[simp] theorem length_toBeBytes64 (n : UInt64) : (toBeBytes64 n).length = 8 := rfl

/-- Reading four octets back gives the integer that wrote them. -/
theorem fromBeBytes_toBeBytes (n : UInt32) :
    fromBeBytes (UInt8.ofNat (n.toNat / 0x1000000)) (UInt8.ofNat (n.toNat / 0x10000))
      (UInt8.ofNat (n.toNat / 0x100)) (UInt8.ofNat n.toNat) = n := by
  have hn : n.toNat < 2 ^ 32 := n.toNat_lt
  apply UInt32.toNat_inj.mp
  simp only [fromBeBytes, UInt8.toNat_ofNat', UInt32.toNat_ofNat']
  omega

/-- Reading eight octets back gives the integer that wrote them. -/
theorem fromBeBytes64_toBeBytes64 (n : UInt64) :
    fromBeBytes64 (UInt8.ofNat (n.toNat / 2 ^ 56)) (UInt8.ofNat (n.toNat / 2 ^ 48))
      (UInt8.ofNat (n.toNat / 2 ^ 40)) (UInt8.ofNat (n.toNat / 2 ^ 32))
      (UInt8.ofNat (n.toNat / 2 ^ 24)) (UInt8.ofNat (n.toNat / 2 ^ 16))
      (UInt8.ofNat (n.toNat / 2 ^ 8)) (UInt8.ofNat n.toNat) = n := by
  have hn : n.toNat < 2 ^ 64 := n.toNat_lt
  apply UInt64.toNat_inj.mp
  simp only [fromBeBytes64, UInt8.toNat_ofNat', UInt64.toNat_ofNat']
  omega

/-! ## Producer -/

/-- One field of `make_buffer!` and `make_buffer_without_header!`. -/
inductive Field where
  | u8 (n : UInt8)
  | u32 (n : UInt32)
  | u64 (n : UInt64)
  /-- `put_one`: a four-octet length, then the octets. -/
  | one (content : Bytes)
  | bytes (content : Bytes)
  | oneListU32 (items : List UInt32)
deriving DecidableEq, Repr

/-- `match_type!`: the octets `make_buffer!` counts for one field. -/
def Field.size : Field → ℕ
  | .u8 _ => 1
  | .u32 _ => 4
  | .u64 _ => 8
  | .one content => 4 + content.length
  | .bytes content => content.length
  | .oneListU32 items => 4 + items.length * 4

/-- `put_type!`: the octets one field appends. `put_one` casts the length with `as u32`, and so does
the list, whose length counts its own four octets. -/
def Field.put : Field → Bytes
  | .u8 n => [n]
  | .u32 n => toBeBytes n
  | .u64 n => toBeBytes64 n
  | .one content => toBeBytes (UInt32.ofNat content.length) ++ content
  | .bytes content => content
  | .oneListU32 items =>
    toBeBytes (UInt32.ofNat (4 + items.length * 4)) ++ items.flatMap toBeBytes

/-- `make_buffer_without_header!`. -/
def makeBufferWithoutHeader (fields : List Field) : Bytes :=
  fields.flatMap Field.put

/-- The length `make_buffer!` computes. -/
def fieldsSize (fields : List Field) : ℕ :=
  (fields.map Field.size).sum

/-- `make_buffer!`: the length, cast with `as u32`, and the fields. -/
def makeBuffer (fields : List Field) : Bytes :=
  toBeBytes (UInt32.ofNat (fieldsSize fields)) ++ makeBufferWithoutHeader fields

/-- `bool` written as one octet, `want_reply.into()`. -/
def Field.bool (b : Bool) : Field :=
  .u8 (if b then 1 else 0)

theorem length_flatMap_toBeBytes (items : List UInt32) :
    (items.flatMap toBeBytes).length = items.length * 4 := by
  induction items with
  | nil => rfl
  | cons item rest ih =>
    rw [List.flatMap_cons, List.length_append, ih, List.length_cons, length_toBeBytes]
    omega

/-- Every kind of field is counted as it is written. -/
theorem Field.length_put (field : Field) : field.put.length = field.size := by
  cases field with
  | u8 n | u32 n | u64 n | bytes content => rfl
  | one content => rw [put, List.length_append, length_toBeBytes, size]
  | oneListU32 items =>
    rw [put, List.length_append, length_toBeBytes, length_flatMap_toBeBytes, size]

/-- The computed length is the number of octets that the fields take. -/
theorem length_makeBufferWithoutHeader (fields : List Field) :
    (makeBufferWithoutHeader fields).length = fieldsSize fields := by
  unfold makeBufferWithoutHeader fieldsSize
  induction fields with
  | nil => rfl
  | cons field rest ih =>
    rw [List.flatMap_cons, List.length_append, ih, field.length_put, List.map_cons, List.sum_cons]

/-! ## Consumer -/

/-- A reading step: it returns a value or an error and leaves the unread octets behind. -/
abbrev Consumer := EStateM Error Bytes

namespace Consumer

/-- `consume_u8`. -/
def consumeU8 : Consumer UInt8 := fun rest =>
  match rest with
  | b :: rest' => .ok b rest'
  | [] => .error (.invalidFormat (ascii "Unexpected end of buffer while reading u8")) rest

/-- `consume_u32`. -/
def consumeU32 : Consumer UInt32 := fun rest =>
  match rest with
  | a :: b :: c :: d :: rest' => .ok (fromBeBytes a b c d) rest'
  | _ => .error (.invalidFormat (ascii "Unexpected end of buffer while reading u32")) rest

/-- `consume_u64`. -/
def consumeU64 : Consumer UInt64 := fun rest =>
  match rest with
  | a :: b :: c :: d :: e :: f :: g :: h :: rest' => .ok (fromBeBytes64 a b c d e f g h) rest'
  | _ => .error (.invalidFormat (ascii "Unexpected end of buffer while reading u64")) rest

/-- `consume_bytes`. -/
def consumeBytes (len : ℕ) : Consumer Bytes := fun rest =>
  if rest.length < len then
    .error (.invalidFormat (ascii "Unexpected end of buffer while reading bytes")) rest
  else
    .ok (rest.take len) (rest.drop len)

/-- `consume_one`: a length-prefixed string. The four length octets stay consumed when the
announced length is longer than what is left. -/
def consumeOne : Consumer Bytes := fun rest =>
  match consumeU32 rest with
  | .ok len rest' =>
    if len.toNat > rest'.length then
      .error (.invalidFormat (ascii "Unexpected end of buffer while reading one")) rest'
    else
      .ok (rest'.take len.toNat) (rest'.drop len.toNat)
  | .error e rest' => .error e rest'

/-- `str::from_utf8(consume_one()?)` under the error `error`. -/
def consumeText (error : Error) : Consumer Text := do
  let content ← consumeOne
  if utf8Valid content then return content else throw error

/-- `peek`: the unread octets. -/
def peek : Consumer Bytes :=
  get

/-- Run a consumer on a slice, `Consumer::new(data)`, and keep its result. -/
def run' {α : Type} (m : Consumer α) (data : Bytes) : Except Error α :=
  match m data with
  | .ok a _ => .ok a
  | .error e _ => .error e

/-! ### Reading what a producer wrote -/

@[simp] theorem consumeU8_cons (b : UInt8) (rest : Bytes) :
    consumeU8 (b :: rest) = .ok b rest := rfl

@[simp] theorem consumeU32_append (n : UInt32) (rest : Bytes) :
    consumeU32 (toBeBytes n ++ rest) = .ok n rest := by
  simp only [toBeBytes, consumeU32, List.cons_append, List.nil_append]
  rw [fromBeBytes_toBeBytes]

@[simp] theorem consumeU64_append (n : UInt64) (rest : Bytes) :
    consumeU64 (toBeBytes64 n ++ rest) = .ok n rest := by
  simp only [toBeBytes64, consumeU64, List.cons_append, List.nil_append]
  rw [fromBeBytes64_toBeBytes64]

@[simp] theorem consumeBytes_append (content rest : Bytes) :
    consumeBytes content.length (content ++ rest) = .ok content rest := by
  simp [consumeBytes]

/-- A string whose length fits in 32 bits is read back as it was written. -/
theorem consumeOne_append {content : Bytes} (rest : Bytes) (h : content.length < UInt32.size) :
    consumeOne ((Field.one content).put ++ rest) = .ok content rest := by
  have hlen : (UInt32.ofNat content.length).toNat = content.length :=
    UInt32.toNat_ofNat_of_lt h
  simp only [Field.put, List.append_assoc, consumeOne, consumeU32_append, hlen,
    List.length_append]
  rw [if_neg (by omega)]
  simp

/-! ### What is too short -/

theorem exists_of_four_le {octets : Bytes} (h : 4 ≤ octets.length) :
    ∃ a b c d rest, octets = a :: b :: c :: d :: rest := by
  rcases octets with _ | ⟨a, _ | ⟨b, _ | ⟨c, _ | ⟨d, rest⟩⟩⟩⟩
  · cases h
  · simp at h
  · simp at h
  · simp at h
  · exact ⟨a, b, c, d, rest, rfl⟩

theorem exists_of_eight_le {octets : Bytes} (h : 8 ≤ octets.length) :
    ∃ a b c d e f g h rest, octets = a :: b :: c :: d :: e :: f :: g :: h :: rest := by
  have hfour : 4 ≤ octets.length := by omega
  obtain ⟨a, b, c, d, rest, rfl⟩ := exists_of_four_le hfour
  simp only [List.length_cons] at h
  have hrest : 4 ≤ rest.length := by omega
  obtain ⟨e, f, g, last, rest, rfl⟩ := exists_of_four_le hrest
  exact ⟨a, b, c, d, e, f, g, last, rest, rfl⟩

theorem consumeU32_of_lt {octets : Bytes} (h : octets.length < 4) : consumeU32 octets =
    .error (.invalidFormat (ascii "Unexpected end of buffer while reading u32")) octets := by
  unfold consumeU32
  split
  · simp only [List.length_cons] at h
    omega
  · rfl

theorem consumeU64_of_lt {octets : Bytes} (h : octets.length < 8) : consumeU64 octets =
    .error (.invalidFormat (ascii "Unexpected end of buffer while reading u64")) octets := by
  unfold consumeU64
  split
  · simp only [List.length_cons] at h
    omega
  · rfl

theorem consumeOne_of_lt {octets : Bytes} (h : octets.length < 4) : consumeOne octets =
    .error (.invalidFormat (ascii "Unexpected end of buffer while reading u32")) octets := by
  unfold consumeOne
  rw [consumeU32_of_lt h]

/-! ### What a read consumes -/

/-- A 32-bit read takes four octets. -/
theorem consumeU32_length {rest rest' : Bytes} {n : UInt32} (h : consumeU32 rest = .ok n rest') :
    rest'.length + 4 = rest.length := by
  unfold consumeU32 at h
  split at h
  · injection h with _ hrest
    simp [← hrest]
  · cases h

/-- A string read takes at least the four octets of the length. -/
theorem consumeOne_length {rest rest' content : Bytes} (h : consumeOne rest = .ok content rest') :
    rest'.length + 4 ≤ rest.length := by
  unfold consumeOne at h
  split at h
  · next len rest₁ hlen =>
      have hfour := consumeU32_length hlen
      split at h
      · cases h
      · injection h with _ hrest
        rw [← hrest, List.length_drop]
        omega
  · cases h

end Consumer

end Flatline
