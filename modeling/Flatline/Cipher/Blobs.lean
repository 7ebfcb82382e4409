import Flatline.Cipher.Signatures

/-!
# Blobs of strings

Keys and signatures are strings one after the other. Here is what each reading step of the signers,
the verifiers and the key parser does in front of such a blob.

Source: `src/cipher/signature.rs`, `src/key.rs`.
-/

namespace Flatline

open BigEndian Triple Consumer

/-- Strings one after the other: a key, or a signature. -/
def blob (fields : List Bytes) : Bytes :=
  makeBufferWithoutHeader (fields.map .one)

/-- Every string is short enough for its length field. -/
def Fit (fields : List Bytes) : Prop :=
  ∀ field ∈ fields, field.length < UInt32.size

variable {field : Bytes} {rest : List Bytes} {κ : Type} (tail : Bytes)

@[simp] theorem blob_nil : blob [] = [] := rfl

theorem blob_cons (field : Bytes) (rest : List Bytes) :
    blob (field :: rest) = (Field.one field).put ++ blob rest := rfl

theorem length_blob_cons (field : Bytes) (rest : List Bytes) :
    (blob (field :: rest)).length = 4 + field.length + (blob rest).length := by
  rw [blob_cons, List.length_append, Field.length_put]
  rfl

/-! ## Runs of a reader -/

/-- A read that returns a value and the octets behind. -/
theorem run'_eq_ok_iff {α : Type} {m : Consumer α} {octets : Bytes} {a : α} :
    Consumer.run' m octets = .ok a ↔ ∃ rest, m octets = .ok a rest := by
  unfold Consumer.run'
  split
  · next b rest hm =>
    constructor
    · rintro ⟨⟩
      exact ⟨rest, hm⟩
    · rintro ⟨rest', h⟩
      rw [hm] at h
      injection h with hb
      rw [hb]
  · next e rest hm =>
    constructor
    · rintro ⟨⟩
    · rintro ⟨rest', h⟩
      rw [hm] at h
      cases h

theorem expectOne_eq_ok_iff {expected octets rest : Bytes} {error : Error} :
    expectOne expected error octets = .ok () rest ↔ consumeOne octets = .ok expected rest := by
  unfold expectOne
  rw [bind_eq_ok_iff]
  constructor
  · rintro ⟨content, rest₁, hone, h⟩
    by_cases hcontent : content = expected
    · rw [if_pos hcontent] at h
      injection h with _ hrest
      rw [hone, hcontent, hrest]
    · rw [if_neg hcontent] at h
      cases h
  · intro h
    exact ⟨expected, rest, h, by rw [if_pos rfl]; rfl⟩

/-! ## Reading in front of a tail -/

theorem consumeOne_blob_append (hfield : field.length < UInt32.size) :
    consumeOne (blob (field :: rest) ++ tail) = .ok field (blob rest ++ tail) := by
  rw [blob_cons, List.append_assoc]
  exact consumeOne_append (blob rest ++ tail) hfield

theorem consumeText_blob_append (error : Error) (hfield : field.length < UInt32.size)
    (htext : utf8Valid field = true) :
    consumeText error (blob (field :: rest) ++ tail) = .ok field (blob rest ++ tail) := by
  unfold consumeText
  rw [bind_of_ok (consumeOne_blob_append tail hfield), if_pos htext]
  rfl

theorem ofExcept_eq_ok {α : Type} {result : Except Error α} {a : α} (h : result = .ok a) :
    (ofExcept result : Consumer α) tail = .ok a tail := by
  subst h
  rfl

/-! ## Reading a blob to its end -/

theorem consumeOne_blob (hfield : field.length < UInt32.size) :
    consumeOne (blob (field :: rest)) = .ok field (blob rest) :=
  consumeOne_append (blob rest) hfield

theorem expectOne_blob (error : Error) (hfield : field.length < UInt32.size) :
    expectOne field error (blob (field :: rest)) = .ok () (blob rest) := by
  unfold expectOne
  rw [bind_of_ok (consumeOne_blob hfield), if_pos rfl]
  rfl

theorem consumeBigNum_blob (hfield : field.length < UInt32.size) :
    consumeBigNum (blob (field :: rest)) = .ok (value field) (blob rest) := by
  unfold consumeBigNum
  rw [bind_of_ok (consumeOne_blob hfield)]
  rfl

theorem expectCurve_blob {self : Ecdsa κ} (hfield : field.length < UInt32.size)
    (htext : utf8Valid field = true) (hcurve : field <:+ self.name) :
    self.expectCurve (blob (field :: rest)) = .ok () (blob rest) := by
  unfold Ecdsa.expectCurve
  rw [bind_of_ok (consumeOne_blob hfield), if_pos ⟨htext, hcurve⟩]
  rfl

/-! ## Keys of ECDSA -/

namespace Ecdsa

variable {o : OpenSsl} {identifier publicKey : Bytes} {point : o.EcPoint}

/-- A signer takes a key with any end of its name as the identifier. -/
theorem initializeSigner_blob {self : Ecdsa o.EcPrivate} {e : Bytes} {key : o.EcPrivate}
    (hfit : Fit [self.name, identifier, publicKey, e]) (htext : utf8Valid identifier = true)
    (hend : identifier <:+ self.name) (hpoint : o.pointFromBytes self.nid publicKey = .ok point)
    (hkey : o.ecPrivate self.nid (value e) point = .ok key) :
    self.initializeSigner (blob [self.name, identifier, publicKey, e]) =
      .ok { self with key := some key } := by
  refine run'_eq_ok_iff.mpr ⟨blob [], ?_⟩
  rw [bind_of_ok (expectOne_blob _ (hfit self.name (by simp))),
    bind_of_ok (expectCurve_blob (hfit identifier (by simp)) htext hend),
    bind_of_ok (consumeOne_blob (hfit publicKey (by simp))),
    bind_of_ok (consumeBigNum_blob (hfit e (by simp))), bind_of_ok (ofExcept_eq_ok _ hpoint),
    bind_of_ok (ofExcept_eq_ok _ hkey)]
  rfl

/-- A verifier takes a key with any end of its name as the identifier. -/
theorem initializeVerifier_blob {self : Ecdsa o.EcPublic} {key : o.EcPublic}
    (hfit : Fit [self.name, identifier, publicKey]) (htext : utf8Valid identifier = true)
    (hend : identifier <:+ self.name) (hpoint : o.pointFromBytes self.nid publicKey = .ok point)
    (hkey : o.ecPublic self.nid point = .ok key) :
    self.initializeVerifier (blob [self.name, identifier, publicKey]) =
      .ok { self with key := some key } := by
  refine run'_eq_ok_iff.mpr ⟨blob [], ?_⟩
  rw [bind_of_ok (expectOne_blob _ (hfit self.name (by simp))),
    bind_of_ok (expectCurve_blob (hfit identifier (by simp)) htext hend),
    bind_of_ok (consumeOne_blob (hfit publicKey (by simp))),
    bind_of_ok (ofExcept_eq_ok _ hpoint), bind_of_ok (ofExcept_eq_ok _ hkey)]
  rfl

end Ecdsa

end Flatline
