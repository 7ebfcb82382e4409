import Flatline.Cipher.Blobs
import Flatline.Key.OpenSsh

/-!
# What the key parser makes of an encoding

Files in the `openssh-key-v1` format that are not encrypted, and what the parser returns for the
fields of each kind of key.

Source: `src/key.rs` (`parse_private_key_file_open_ssh`).
-/

namespace Flatline

namespace Parser

open Triple Consumer

/-! ## The private section -/

/-- The private section of a key: two equal checksums, the fields and the padding. -/
def encodeSection (check : UInt32) (fields : List Bytes) (padding : Bytes) : Bytes :=
  toBeBytes check ++ (toBeBytes check ++ (blob fields ++ padding))

/-- `k` octets of padding: 1, 2, 3 and so on. -/
def padding (k : ℕ) : Bytes :=
  (List.range k).map fun i => UInt8.ofNat (i + 1)

@[simp] theorem length_padding (k : ℕ) : (padding k).length = k := by
  rw [padding, List.length_map, List.length_range]

/-- The loop accepts the padding from any of its octets on. -/
theorem isPadding_range' (i k : ℕ) :
    isPadding i ((List.range' i k).map fun j => UInt8.ofNat (j + 1)) = true := by
  induction k generalizing i with
  | zero => rfl
  | succ k ih =>
    rw [List.range'_succ, List.map_cons, isPadding, ih, beq_self_eq_true]
    rfl

theorem isPadding_padding (k : ℕ) : isPadding 0 (padding k) = true := by
  rw [padding, List.range_eq_range']
  exact isPadding_range' 0 k

theorem privateSection_of_keyFields {check : UInt32} {method : Text} {fields : List Bytes}
    {publicKeyData tail : Bytes} {result : Private} (hmethod : method.length < UInt32.size)
    (htext : utf8Valid method = true)
    (hfields : keyFields method publicKeyData (blob fields ++ tail) = .ok result tail)
    (htail : isPadding 0 tail = true) :
    privateSection publicKeyData (encodeSection check (method :: fields) tail) = .ok result := by
  refine run'_eq_ok_iff.mpr ⟨tail, ?_⟩
  unfold encodeSection
  rw [bind_of_ok (consumeU32_append check _), bind_of_ok (consumeU32_append check _),
    if_neg (not_not.mpr rfl), bind_of_ok (consumeText_blob_append _ _ hmethod htext),
    bind_of_ok hfields]
  unfold peek
  rw [get_bind, if_pos htail]
  rfl

/-- The names of the ECDSA algorithms. -/
def ecdsaNames : List Text :=
  [ascii "ecdsa-sha2-nistp256", ascii "ecdsa-sha2-nistp384", ascii "ecdsa-sha2-nistp521"]

theorem keyFields_ecdsa {method : Text} (hmethod : method ∈ ecdsaNames) (publicKeyData : Bytes) :
    keyFields method publicKeyData = ecdsaKey method publicKeyData := by
  have hnames : ∀ name ∈ ecdsaNames, name ≠ ascii "ssh-rsa" ∧ name ≠ ascii "ssh-ed25519" := by
    simp only [ecdsaNames, List.forall_mem_cons, List.not_mem_nil, false_implies, implies_true,
      and_true]
    decide
  obtain ⟨hrsa, hed25519⟩ := hnames method hmethod
  simp only [ecdsaNames, List.mem_cons, List.not_mem_nil, or_false] at hmethod
  unfold keyFields
  rw [if_neg hrsa, if_neg hed25519, if_pos hmethod]

/-- A public blob passes the comparison with the fields it is made of. -/
theorem expectOnes_blob {first second third : Bytes} (hfit : Fit [first, second, third])
    (error₁ error₂ error₃ : Error) :
    Consumer.run' (do
      expectOne first error₁
      expectOne second error₂
      expectOne third error₃) (blob [first, second, third]) = .ok () := by
  refine run'_eq_ok_iff.mpr ⟨blob [], ?_⟩
  rw [bind_of_ok (expectOne_blob _ (hfit first (by simp))),
    bind_of_ok (expectOne_blob _ (hfit second (by simp)))]
  exact expectOne_blob _ (hfit third (by simp))

theorem ecdsaKey_blob {method curve publicKey privateKey comment : Bytes}
    (hfit : Fit [method, curve, publicKey, privateKey, comment]) (hcurve : curve <:+ method)
    (hcomment : utf8Valid comment = true) (tail : Bytes) :
    ecdsaKey method (blob [method, curve, publicKey])
        (blob [curve, publicKey, privateKey, comment] ++ tail) =
      .ok {
        type := method
        publicBlob := blob [method, curve, publicKey]
        privateBlob := blob [method, curve, publicKey, privateKey]
        comment } tail := by
  have hpublic : Fit [method, curve, publicKey] := fun field hfield =>
    hfit field (List.mem_of_mem_take (i := 3) hfield)
  unfold ecdsaKey
  rw [bind_of_ok (consumeOne_blob_append _ (hfit curve (by simp))), if_neg (not_not.mpr hcurve),
    bind_of_ok (consumeOne_blob_append _ (hfit publicKey (by simp))),
    bind_of_ok (consumeOne_blob_append _ (hfit privateKey (by simp))),
    bind_of_ok (ofExcept_eq_ok _ (expectOnes_blob hpublic _ _ _)),
    bind_of_ok (consumeText_blob_append _ _ (hfit comment (by simp)) hcomment)]
  rfl

/-! ## The envelope -/

variable {δ : Type} [FileDecrypt δ]

/-- A file whose private section is not encrypted. -/
def plainFile (publicKeyData encryptedData : Bytes) : Bytes :=
  openSshMagic ++ (blob [ascii "none", ascii "none", []] ++
    (toBeBytes 1 ++ blob [publicKeyData, encryptedData]))

theorem envelope_plainFile (self : Parser δ) {publicKeyData encryptedData : Bytes}
    (hfit : Fit [publicKeyData, encryptedData]) (hblock : encryptedData.length % 8 = 0)
    (passphrase : Option Bytes) :
    self.envelope (plainFile publicKeyData encryptedData) passphrase =
      .ok (publicKeyData, encryptedData) := by
  have hnone : (ascii "none").length < UInt32.size := by decide
  have hnil : ([] : Bytes).length < UInt32.size := by decide
  refine run'_eq_ok_iff.mpr ⟨blob [], ?_⟩
  unfold plainFile
  rw [bind_of_ok (consumeBytes_append openSshMagic _), if_neg (not_not.mpr rfl),
    bind_of_ok (consumeOne_blob_append _ hnone), bind_of_ok (consumeOne_blob_append _ hnone),
    bind_of_ok (consumeOne_blob_append _ hnil), blob_nil, List.nil_append,
    bind_of_ok (consumeU32_append 1 _), if_neg (not_not.mpr rfl),
    bind_of_ok (consumeOne_blob (hfit publicKeyData (by simp))),
    bind_of_ok (consumeOne_blob (hfit encryptedData (by simp))), if_pos rfl,
    if_neg (not_not.mpr hblock)]
  rfl

end Parser

end Flatline
