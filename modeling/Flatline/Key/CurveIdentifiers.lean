import Flatline.Cipher.Blobs
import Flatline.Key.OpenSshEncoding

/-!
# Curve identifiers

An ECDSA key names its curve twice: in the name of its algorithm, `ecdsa-sha2-X`, and in a field of
its own, which has to be `X`. Three places read that field. Each of them asks only that it is an end
of the algorithm's name, so `curveIdentifiers_checked_iff` says the same of all three: an identifier
is told from `X` exactly when it is no such end.

Source: `src/key.rs` (`parse_private_key_file_open_ssh`), `src/cipher/signature.rs` (`Ecdsa`).
-/

namespace Flatline

open BigEndian Triple Consumer

/-! ## Readers of ECDSA keys -/

/-- `X` of the algorithms `ecdsa-sha2-X`. -/
def Nid.curve : Nid → Text
  | .x962Prime256V1 => ascii "nistp256"
  | .secp384R1 => ascii "nistp384"
  | .secp521R1 => ascii "nistp521"

/-- `ecdsa-sha2-X`. -/
def Nid.algorithm (nid : Nid) : Text :=
  ascii "ecdsa-sha2-" ++ nid.curve

/-- The signer or the verifier of a curve, without a key. -/
def Ecdsa.ofNid {κ : Type} : Nid → Ecdsa κ
  | .x962Prime256V1 => ecdsaSha2Nistp256
  | .secp384R1 => ecdsaSha2Nistp384
  | .secp521R1 => ecdsaSha2Nistp521

theorem Ecdsa.name_ofNid {κ : Type} (nid : Nid) : (ofNid nid : Ecdsa κ).name = nid.algorithm := by
  cases nid
  · change ascii "ecdsa-sha2-nistp256" = ascii "ecdsa-sha2-" ++ ascii "nistp256"
    decide
  · change ascii "ecdsa-sha2-nistp384" = ascii "ecdsa-sha2-" ++ ascii "nistp384"
    decide
  · change ascii "ecdsa-sha2-nistp521" = ascii "ecdsa-sha2-" ++ ascii "nistp521"
    decide

theorem Ecdsa.nid_ofNid {κ : Type} (nid : Nid) : (ofNid nid : Ecdsa κ).nid = nid := by
  cases nid <;> rfl

/-- What reads ECDSA keys: the key type and the identifier that stand in a key, and the algorithms
that it accepts the key for. -/
structure CurveReader (β : Type) where
  head : β → Except Error (Bytes × Bytes)
  Accepts : Nid → β → Prop

/-- The reader tells the identifier from `X`: it accepts a key that has it as a key of
`ecdsa-sha2-X` only when this is its type and the identifier is `X`. -/
def CurveReader.Checks {β : Type} (reader : CurveReader β) (nid : Nid) (identifier : Bytes) :
    Prop :=
  ∀ key keyType, reader.head key = .ok (keyType, identifier) → reader.Accepts nid key →
    keyType = nid.algorithm ∧ identifier = nid.curve

/-- The key type and the identifier of a blob. -/
def keyHead : Consumer (Bytes × Bytes) := do
  let keyType ← consumeOne
  return (keyType, ← consumeOne)

/-- The key type and the identifier of a private section, behind the two checksums. -/
def sectionHead : Consumer (Bytes × Bytes) := do
  let _ ← consumeU32
  let _ ← consumeU32
  keyHead

/-- `Signature::initialize`. -/
def signerReader (o : OpenSsl) : CurveReader Bytes where
  head := Consumer.run' keyHead
  Accepts nid key :=
    ∃ self : Ecdsa o.EcPrivate, (Ecdsa.ofNid nid).initializeSigner key = .ok self

/-- `Verify::initialize`. -/
def verifierReader (o : OpenSsl) : CurveReader Bytes where
  head := Consumer.run' keyHead
  Accepts nid key :=
    ∃ self : Ecdsa o.EcPublic, (Ecdsa.ofNid nid).initializeVerifier key = .ok self

/-- `parse_private_key_file_open_ssh`, on a file and a passphrase. -/
def fileReader {δ : Type} [FileDecrypt δ] (self : Parser δ) :
    CurveReader (Bytes × Option Bytes) where
  head := fun (content, passphrase) => do
    let (_, encryptedData) ← self.envelope content passphrase
    Consumer.run' sectionHead encryptedData
  Accepts nid := fun (content, passphrase) =>
    ∃ result, self.parsePrivateKeyFileOpenSsh content passphrase = .ok result ∧
      result.type = nid.algorithm

/-! ## Ends of the name -/

/-- The reader asks for an end of the algorithm's name, and for nothing else of the identifier. -/
structure CurveReader.AsksForEnd {β : Type} (reader : CurveReader β) : Prop where
  sound {nid : Nid} {key : β} {keyType identifier : Bytes}
    (hhead : reader.head key = .ok (keyType, identifier)) (haccepts : reader.Accepts nid key) :
    keyType = nid.algorithm ∧ identifier <:+ nid.algorithm
  complete {nid : Nid} {identifier : Bytes} (hend : identifier <:+ nid.algorithm) :
    ∃ key, reader.head key = .ok (nid.algorithm, identifier) ∧ reader.Accepts nid key

theorem CurveReader.AsksForEnd.checks_iff {β : Type} {reader : CurveReader β}
    (h : reader.AsksForEnd) (nid : Nid) (identifier : Bytes) :
    reader.Checks nid identifier ↔ identifier = nid.curve ∨ ¬ identifier <:+ nid.algorithm := by
  constructor
  · intro hchecks
    by_cases hend : identifier <:+ nid.algorithm
    · obtain ⟨key, hhead, haccepts⟩ := h.complete hend
      exact Or.inl (hchecks key nid.algorithm hhead haccepts).2
    · exact Or.inr hend
  · rintro hor key keyType hhead haccepts
    obtain ⟨htype, hend⟩ := h.sound hhead haccepts
    exact ⟨htype, hor.resolve_right (not_not.mpr hend)⟩

theorem length_algorithm (nid : Nid) : nid.algorithm.length = 19 := by
  cases nid <;> decide

theorem algorithm_lt (nid : Nid) : ∀ octet ∈ nid.algorithm, octet < 0x80 := by
  have hall : (nid.algorithm.all fun octet => decide (octet < 0x80)) = true := by
    cases nid <;> decide
  intro octet hoctet
  exact of_decide_eq_true (List.all_eq_true.mp hall octet hoctet)

section Ends

variable {nid : Nid} {identifier : Bytes} (hend : identifier <:+ nid.algorithm)

include hend

theorem length_end : identifier.length ≤ 19 := by
  have hle := hend.length_le
  rwa [length_algorithm] at hle

theorem end_fits : identifier.length < UInt32.size :=
  Nat.lt_of_le_of_lt (length_end hend) (by decide)

theorem utf8Valid_end : utf8Valid identifier = true :=
  utf8Valid_of_forall_lt fun octet hoctet => algorithm_lt nid octet (hend.subset hoctet)

theorem fit_head {fields : List Bytes} (hfit : Fit fields) :
    Fit (nid.algorithm :: identifier :: fields) := by
  intro field hfield
  rcases List.mem_cons.mp hfield with rfl | hfield
  · exact end_fits (List.suffix_refl nid.algorithm)
  · rcases List.mem_cons.mp hfield with rfl | hfield
    · exact end_fits hend
    · exact hfit field hfield

end Ends

/-! ## The signer and the verifier -/

theorem expectCurve_sound {κ : Type} {self : Ecdsa κ} {octets rest : Bytes}
    (h : self.expectCurve octets = .ok () rest) :
    ∃ identifier, consumeOne octets = .ok identifier rest ∧ identifier <:+ self.name := by
  unfold Ecdsa.expectCurve at h
  obtain ⟨identifier, rest₁, hone, h⟩ := bind_eq_ok_iff.mp h
  by_cases hcurve : utf8Valid identifier = true ∧ identifier <:+ self.name
  · rw [if_pos hcurve] at h
    injection h with _ hrest
    exact ⟨identifier, by rw [hone, hrest], hcurve.2⟩
  · rw [if_neg hcurve] at h
    cases h

/-- Behind the two checks, the key begins with the name and an end of it. -/
theorem keyHead_of_checks {κ : Type} {self : Ecdsa κ} {octets rest rest' keyType identifier : Bytes}
    (hname : expectOne self.name mismatchKey octets = .ok () rest)
    (hcurve : self.expectCurve rest = .ok () rest')
    (hhead : Consumer.run' keyHead octets = .ok (keyType, identifier)) :
    keyType = self.name ∧ identifier <:+ self.name := by
  obtain ⟨identifier', hone, hend⟩ := expectCurve_sound hcurve
  obtain ⟨rest₁, hhead⟩ := run'_eq_ok_iff.mp hhead
  unfold keyHead at hhead
  rw [bind_of_ok (expectOne_eq_ok_iff.mp hname), bind_of_ok hone] at hhead
  injection hhead with hpair
  injection hpair with htype hidentifier
  exact ⟨htype.symm, hidentifier ▸ hend⟩

theorem keyHead_blob {nid : Nid} {identifier : Bytes} (hend : identifier <:+ nid.algorithm)
    (rest : List Bytes) :
    Consumer.run' keyHead (blob (nid.algorithm :: identifier :: rest)) =
      .ok (nid.algorithm, identifier) := by
  have hname : nid.algorithm.length < UInt32.size := end_fits List.suffix_rfl
  apply run'_eq_ok_iff.mpr
  unfold keyHead
  rw [bind_of_ok (consumeOne_blob hname), bind_of_ok (consumeOne_blob (end_fits hend))]
  exact ⟨_, rfl⟩

/-- OpenSSL has keys of every curve. -/
structure OpenSsl.HasEcKeys (o : OpenSsl) : Prop where
  privateKey (nid : Nid) : ∃ publicKey e point key, Fit [publicKey, e] ∧
    o.pointFromBytes nid publicKey = .ok point ∧ o.ecPrivate nid (value e) point = .ok key
  publicKey (nid : Nid) : ∃ publicKey point key, Fit [publicKey] ∧
    o.pointFromBytes nid publicKey = .ok point ∧ o.ecPublic nid point = .ok key

theorem signerReader_asksForEnd {o : OpenSsl} (ho : o.HasEcKeys) :
    (signerReader o).AsksForEnd where
  sound := by
    rintro nid key keyType identifier hhead ⟨self, haccepts⟩
    obtain ⟨rest, haccepts⟩ := run'_eq_ok_iff.mp haccepts
    obtain ⟨⟨⟩, rest₁, hname, haccepts⟩ := bind_eq_ok_iff.mp haccepts
    obtain ⟨⟨⟩, rest₂, hcurve, -⟩ := bind_eq_ok_iff.mp haccepts
    have hself : (Ecdsa.ofNid nid : Ecdsa o.EcPrivate).name = nid.algorithm := Ecdsa.name_ofNid nid
    rw [← hself]
    exact keyHead_of_checks hname hcurve hhead
  complete := by
    intro nid identifier hend
    obtain ⟨publicKey, e, point, key, hfit, hpoint, hkey⟩ := ho.privateKey nid
    have hself : (Ecdsa.ofNid nid : Ecdsa o.EcPrivate).name = nid.algorithm := Ecdsa.name_ofNid nid
    have htext := utf8Valid_end hend
    have hfit' := fit_head hend hfit
    refine ⟨blob [nid.algorithm, identifier, publicKey, e], keyHead_blob hend _, ?_⟩
    rw [← hself] at hend hfit' ⊢
    rw [← Ecdsa.nid_ofNid (κ := o.EcPrivate) nid] at hpoint hkey
    exact ⟨_, Ecdsa.initializeSigner_blob hfit' htext hend hpoint hkey⟩

theorem verifierReader_asksForEnd {o : OpenSsl} (ho : o.HasEcKeys) :
    (verifierReader o).AsksForEnd where
  sound := by
    rintro nid key keyType identifier hhead ⟨self, haccepts⟩
    obtain ⟨rest, haccepts⟩ := run'_eq_ok_iff.mp haccepts
    obtain ⟨⟨⟩, rest₁, hname, haccepts⟩ := bind_eq_ok_iff.mp haccepts
    obtain ⟨⟨⟩, rest₂, hcurve, -⟩ := bind_eq_ok_iff.mp haccepts
    have hself : (Ecdsa.ofNid nid : Ecdsa o.EcPublic).name = nid.algorithm := Ecdsa.name_ofNid nid
    rw [← hself]
    exact keyHead_of_checks hname hcurve hhead
  complete := by
    intro nid identifier hend
    obtain ⟨publicKey, point, key, hfit, hpoint, hkey⟩ := ho.publicKey nid
    have hself : (Ecdsa.ofNid nid : Ecdsa o.EcPublic).name = nid.algorithm := Ecdsa.name_ofNid nid
    have htext := utf8Valid_end hend
    have hfit' := fit_head hend hfit
    refine ⟨blob [nid.algorithm, identifier, publicKey], keyHead_blob hend _, ?_⟩
    rw [← hself] at hend hfit' ⊢
    rw [← Ecdsa.nid_ofNid (κ := o.EcPublic) nid] at hpoint hkey
    exact ⟨_, Ecdsa.initializeVerifier_blob hfit' htext hend hpoint hkey⟩

/-! ## Key files -/

section Files

open Flatline.Parser

/-- The type of a key is the name that its section begins with. -/
theorem type_of_keyFields (method publicKeyData : Bytes) :
    Holds (fun _ => True) (keyFields method publicKeyData)
      (fun result _ => result.type = method) fun _ _ => True := by
  have hstop : ∀ e : Error, Holds (fun _ => True) (throw e : Consumer Private)
      (fun result _ => result.type = method) fun _ _ => True :=
    fun e => Holds.throw fun _ _ => trivial
  unfold keyFields
  split_ifs
  · unfold rsaKey
    repeat (apply Holds.after; intro _)
    exact Holds.pure fun _ _ => rfl
  · unfold ed25519Key
    apply Holds.after; intro publicKey
    apply Holds.after; intro secret
    apply Holds.after; intro _
    split_ifs
    · exact hstop _
    · exact hstop _
    · exact Holds.after fun comment => Holds.pure fun _ _ => rfl
  · unfold ecdsaKey
    apply Holds.after; intro curve
    split_ifs
    · repeat (apply Holds.after; intro _)
      exact Holds.pure fun _ _ => rfl
    · exact hstop _
  · exact hstop _

/-- The identifier of an ECDSA key that is accepted is an end of its type. -/
theorem curve_of_ecdsaKey {method publicKeyData octets rest : Bytes} {result : Private}
    (h : ecdsaKey method publicKeyData octets = .ok result rest) :
    ∃ curve rest', consumeOne octets = .ok curve rest' ∧ curve <:+ method := by
  unfold ecdsaKey at h
  obtain ⟨curve, rest', hone, h⟩ := bind_eq_ok_iff.mp h
  by_cases hcurve : curve <:+ method
  · exact ⟨curve, rest', hone, hcurve⟩
  · rw [if_pos hcurve] at h
    cases h

theorem algorithm_mem (nid : Nid) : nid.algorithm ∈ ecdsaNames := by
  cases nid <;> decide

theorem sectionHead_of_accepted {publicKeyData encryptedData keyType identifier : Bytes}
    {result : Private} {nid : Nid} (h : privateSection publicKeyData encryptedData = .ok result)
    (htype : result.type = nid.algorithm)
    (hhead : Consumer.run' sectionHead encryptedData = .ok (keyType, identifier)) :
    keyType = nid.algorithm ∧ identifier <:+ nid.algorithm := by
  obtain ⟨rest, h⟩ := run'_eq_ok_iff.mp h
  obtain ⟨check1, rest₁, hcheck1, h⟩ := bind_eq_ok_iff.mp h
  obtain ⟨check2, rest₂, hcheck2, h⟩ := bind_eq_ok_iff.mp h
  by_cases hcheck : check1 = check2
  · rw [if_neg (not_not.mpr hcheck)] at h
    obtain ⟨method, rest₃, hmethod, h⟩ := bind_eq_ok_iff.mp h
    obtain ⟨result', rest₄, hfields, h⟩ := bind_eq_ok_iff.mp h
    have hresult : result' = result := by
      obtain ⟨left, rest₅, -, h⟩ := bind_eq_ok_iff.mp h
      by_cases hpadding : isPadding 0 left = true
      · rw [if_pos hpadding] at h
        injection h
      · rw [if_neg hpadding] at h
        cases h
    subst hresult
    have hname : method = nid.algorithm := by
      rw [← htype]
      exact ((type_of_keyFields method publicKeyData).of_ok trivial hfields).symm
    have hone : consumeOne rest₂ = .ok method rest₃ := by
      unfold consumeText at hmethod
      obtain ⟨content, rest', hone, hmethod⟩ := bind_eq_ok_iff.mp hmethod
      by_cases htext : utf8Valid content = true
      · rw [if_pos htext] at hmethod
        injection hmethod with hcontent hrest
        rw [hone, hcontent, hrest]
      · rw [if_neg htext] at hmethod
        cases hmethod
    rw [hname, keyFields_ecdsa (algorithm_mem nid)] at hfields
    obtain ⟨curve, rest', hcurve, hend⟩ := curve_of_ecdsaKey hfields
    obtain ⟨last, hhead⟩ := run'_eq_ok_iff.mp hhead
    unfold sectionHead keyHead at hhead
    rw [bind_of_ok hcheck1, bind_of_ok hcheck2, bind_of_ok hone, bind_of_ok hcurve] at hhead
    injection hhead with hpair
    injection hpair with hkeyType hidentifier
    exact ⟨hkeyType ▸ hname, hidentifier ▸ hend⟩
  · rw [if_pos hcheck] at h
    cases h

variable {δ : Type} [FileDecrypt δ]

/-- The section of a key that has nothing but its identifier, padded to whole blocks. -/
def bareSection (nid : Nid) (identifier : Bytes) : Bytes :=
  encodeSection 0 [nid.algorithm, identifier, [], [], []]
    (padding (7 - (identifier.length + 46) % 8))

/-- A file with that section, and the public key that goes with it. -/
def bareFile (nid : Nid) (identifier : Bytes) : Bytes :=
  plainFile (blob [nid.algorithm, identifier, []]) (bareSection nid identifier)

section Bare

variable {nid : Nid} {identifier : Bytes} (hend : identifier <:+ nid.algorithm)

include hend in
theorem fit_bare : Fit [nid.algorithm, identifier, [], [], []] :=
  fit_head hend (by simp [Fit])

theorem length_bareSection : (bareSection nid identifier).length =
    47 + identifier.length + (7 - (identifier.length + 46) % 8) := by
  unfold bareSection encodeSection
  simp only [List.length_append, length_blob_cons, length_toBeBytes, length_padding,
    length_algorithm, blob_nil, List.length_nil]
  omega

include hend

theorem envelope_bareFile (self : Parser δ) : self.envelope (bareFile nid identifier) none =
    .ok (blob [nid.algorithm, identifier, []], bareSection nid identifier) := by
  have hlength := length_end hend
  have hsection : (bareSection nid identifier).length = _ := length_bareSection
  have hblob : (blob [nid.algorithm, identifier, []]).length = 31 + identifier.length := by
    simp only [length_blob_cons, length_algorithm, blob_nil, List.length_nil]
    omega
  have hsize : 100 < UInt32.size := by decide
  have hfit : Fit [blob [nid.algorithm, identifier, []], bareSection nid identifier] := by
    simp only [Fit, List.forall_mem_cons, List.not_mem_nil, false_implies, implies_true, and_true]
    constructor <;> omega
  refine envelope_plainFile self hfit ?_ none
  rw [hsection]
  omega

theorem privateSection_bareSection :
    ∃ result, privateSection (blob [nid.algorithm, identifier, []]) (bareSection nid identifier) =
      .ok result ∧ result.type = nid.algorithm := by
  have hname : nid.algorithm.length < UInt32.size := end_fits (List.suffix_refl _)
  have hfields := ecdsaKey_blob (fit_bare hend) hend rfl
    (padding (7 - (identifier.length + 46) % 8))
  rw [← keyFields_ecdsa (algorithm_mem nid)] at hfields
  exact ⟨_, privateSection_of_keyFields hname (utf8Valid_end (List.suffix_refl _)) hfields
    (isPadding_padding _), rfl⟩

theorem sectionHead_bareSection :
    Consumer.run' sectionHead (bareSection nid identifier) = .ok (nid.algorithm, identifier) := by
  apply run'_eq_ok_iff.mpr
  unfold sectionHead bareSection encodeSection keyHead
  rw [bind_of_ok (consumeU32_append 0 _), bind_of_ok (consumeU32_append 0 _),
    bind_of_ok (consumeOne_blob_append _ (end_fits (List.suffix_refl _))),
    bind_of_ok (consumeOne_blob_append _ (end_fits hend))]
  exact ⟨_, rfl⟩

end Bare

theorem fileReader_asksForEnd (self : Parser δ) : (fileReader self).AsksForEnd where
  sound := by
    rintro nid ⟨content, passphrase⟩ keyType identifier hhead ⟨result, haccepts, htype⟩
    obtain ⟨⟨publicKeyData, encryptedData⟩, henvelope, haccepts⟩ :=
      Except.bind_eq_ok_iff.mp haccepts
    obtain ⟨sections, henvelope', hhead⟩ := Except.bind_eq_ok_iff.mp hhead
    rw [henvelope] at henvelope'
    injection henvelope' with hsections
    subst hsections
    exact sectionHead_of_accepted haccepts htype hhead
  complete := by
    intro nid identifier hend
    obtain ⟨result, haccepts, htype⟩ := privateSection_bareSection hend
    refine ⟨(bareFile nid identifier, none), ?_, result, ?_, htype⟩
    · exact Except.bind_eq_ok_iff.mpr
        ⟨_, envelope_bareFile hend self, sectionHead_bareSection hend⟩
    · exact Except.bind_eq_ok_iff.mpr ⟨_, envelope_bareFile hend self, haccepts⟩

end Files

/-! ## Keys with the base point -/

/-- The uncompressed octets of the base point. -/
def Nid.basePoint : Nid → Bytes
  | .x962Prime256V1 => 0x04 ::
    (fixed 32 0x6b17d1f2e12c4247f8bce6e563a440f277037d812deb33a0f4a13945d898c296 ++
      fixed 32 0x4fe342e2fe1a7f9b8ee7eb4a7c0f9e162bce33576b315ececbb6406837bf51f5)
  | .secp384R1 => 0x04 ::
    (fixed 24 0xaa87ca22be8b05378eb1c71ef320ad746e1d3b628ba79b98 ++
      fixed 24 0x59f741e082542a385502f25dbf55296c3a545e3872760ab7 ++
      fixed 24 0x3617de4a96262c6f5d9e98bf9292dc29f8f41dbd289a147c ++
      fixed 24 0xe9da3113b5f0b8c00a60b1ce1d7e819d7a431d7c90ea0e5f)
  | .secp521R1 => 0x04 ::
    (fixed 33 0x00c6858e06b70404e9cd9e3ecb662395b4429c648139053fb521f828af606b4d3d ++
      fixed 33 0xbaa14b5e77efe75928fe1dc127a2ffa8de3348b3c1856a429bf97e7e31c2e5bd66 ++
      fixed 33 0x011839296a789a3bc0045c8a5fb42c7d1bd998f54449579b446817afbd17273e66 ++
      fixed 33 0x2c97ee72995ef42640c550b9013fad0761353c7086a272c24088be94769fd16650)

theorem length_basePoint (nid : Nid) : nid.basePoint.length < UInt32.size := by
  have hsize : 1000 < UInt32.size := by decide
  cases nid
  all_goals
    simp only [Nid.basePoint, List.length_cons, List.length_append]
    repeat rw [length_fixed (by norm_num)]
    omega

/-- OpenSSL, as far as the key 1 and the base point go. -/
def basePointOnly : OpenSsl where
  Ed25519Private := Empty
  Ed25519Public := Empty
  RsaPrivate := Empty
  RsaPublic := Empty
  DsaPrivate := Empty
  DsaPublic := Empty
  EcPoint := Unit
  EcPrivate := Unit
  EcPublic := Unit
  digest _ _ := .error .openssl
  privateKeyFromRawBytes _ := .error .openssl
  publicKeyFromRawBytes _ := .error .openssl
  digestSign _ _ := .error .openssl
  digestVerify _ _ _ := .error .openssl
  rsaPrivate _ _ _ _ _ _ _ _ := .error .openssl
  rsaPublic _ _ := .error .openssl
  rsaSign _ _ _ := .error .openssl
  rsaVerify _ _ _ _ := .error .openssl
  dsaPrivate _ _ _ _ _ := .error .openssl
  dsaPublic _ _ _ _ := .error .openssl
  signToVec _ _ := .error .openssl
  dsaVerify _ _ _ := .error .openssl
  pointFromBytes nid octets := if octets = nid.basePoint then .ok () else .error .openssl
  ecPrivate _ e _ := if e = 1 then .ok () else .error .openssl
  ecPublic _ _ := .ok ()
  ecdsaSign _ _ := .error .openssl
  ecdsaVerify _ _ _ := .error .openssl
  ed25519Matches _ _ := False
  rsaMatches _ _ := False
  dsaMatches _ _ := False
  ecMatches _ _ := True

theorem basePointOnly_hasEcKeys : basePointOnly.HasEcKeys where
  privateKey nid := by
    have hone : value [1] = 1 := by rw [value_cons]; rfl
    refine ⟨nid.basePoint, [1], (), (), ?_, if_pos rfl, ?_⟩
    · simp only [Fit, List.forall_mem_cons, List.not_mem_nil, false_implies, implies_true,
        and_true]
      exact ⟨length_basePoint nid, by decide⟩
    · change (if value [1] = 1 then Except.ok () else Except.error Error.openssl) = .ok ()
      exact if_pos hone
  publicKey nid := by
    refine ⟨nid.basePoint, (), (), ?_, if_pos rfl, rfl⟩
    simp only [Fit, List.forall_mem_cons, List.not_mem_nil, false_implies, implies_true, and_true]
    exact length_basePoint nid

instance : FileDecrypt Empty where
  blockSize cipher := cipher.elim
  isGaloisCounterMode cipher := cipher.elim
  tagLen cipher := cipher.elim
  updateSequenceNumber _ cipher := cipher.elim
  additionalAuthenticatedData _ cipher := cipher.elim
  update _ cipher := cipher.elim
  authenticationTag _ cipher := cipher.elim
  finalize cipher := cipher.elim
  keyLen cipher := cipher.elim
  ivLen cipher := cipher.elim
  initializeKeys _ _ cipher := cipher.elim

/-- A parser for files that are not encrypted. -/
def plainParser : Parser Empty where
  cipher _ := none
  bcryptPbkdf _ _ _ _ := none

/-! ## The three places -/

/-- An identifier is checked, in any of the three places, exactly when it is the curve's own or no
end of the algorithm's name. -/
theorem curveIdentifiers_checked_iff {δ : Type} [FileDecrypt δ] (self : Parser δ) {o : OpenSsl}
    (ho : o.HasEcKeys) (nid : Nid) (identifier : Bytes) :
    ((fileReader self).Checks nid identifier ↔
      identifier = nid.curve ∨ ¬ identifier <:+ nid.algorithm) ∧
    ((signerReader o).Checks nid identifier ↔
      identifier = nid.curve ∨ ¬ identifier <:+ nid.algorithm) ∧
    ((verifierReader o).Checks nid identifier ↔
      identifier = nid.curve ∨ ¬ identifier <:+ nid.algorithm) :=
  ⟨(fileReader_asksForEnd self).checks_iff nid identifier,
    (signerReader_asksForEnd ho).checks_iff nid identifier,
    (verifierReader_asksForEnd ho).checks_iff nid identifier⟩

theorem curveIdentifiers_checked_iff_p256 :
    (signerReader basePointOnly).Checks .x962Prime256V1 (ascii "p256") ↔
    ascii "p256" = Nid.x962Prime256V1.curve ∨ ¬ ascii "p256" <:+ Nid.x962Prime256V1.algorithm :=
  (curveIdentifiers_checked_iff plainParser basePointOnly_hasEcKeys .x962Prime256V1
    (ascii "p256")).2.1

/-- A key of `ecdsa-sha2-nistp256` with an empty identifier is accepted in every place. -/
theorem empty_identifier_accepted :
    ¬ (fileReader plainParser).Checks .x962Prime256V1 [] ∧
    ¬ (signerReader basePointOnly).Checks .x962Prime256V1 [] ∧
    ¬ (verifierReader basePointOnly).Checks .x962Prime256V1 [] := by
  have hnot : ¬ ([] = Nid.x962Prime256V1.curve ∨ ¬ [] <:+ Nid.x962Prime256V1.algorithm) := by
    rintro (hcurve | hend)
    · revert hcurve
      decide
    · exact hend List.nil_suffix
  refine ⟨fun h => hnot ?_, fun h => hnot ?_, fun h => hnot ?_⟩
  · exact ((fileReader_asksForEnd plainParser).checks_iff _ _).mp h
  · exact ((signerReader_asksForEnd basePointOnly_hasEcKeys).checks_iff _ _).mp h
  · exact ((verifierReader_asksForEnd basePointOnly_hasEcKeys).checks_iff _ _).mp h

end Flatline
