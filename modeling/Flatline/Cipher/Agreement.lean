import Flatline.Cipher.Blobs
import Flatline.Common.Except

/-!
# Signers and verifiers agree

Each algorithm writes the raw part of a signature in one place and reads it in another. For a key
pair whose halves OpenSSL matches, `agree_iff` says which algorithms have signatures that the
verifier of the same name accepts, in the form that the algorithm prescribes: all but `ssh-dss`.

Source: `src/cipher/signature.rs`.
-/

namespace Flatline

open BigEndian Triple Consumer

variable {o : OpenSsl}

/-! ## Key pairs -/

/-- The names of the RSA algorithms. -/
def rsaNames : List Text :=
  [ascii "rsa-sha2-256", ascii "rsa-sha2-512", ascii "ssh-rsa"]

/-- The names of the ECDSA algorithms, each with its curve and the curve's name in blobs. -/
def ecdsaCurves : List (Text × Nid × Text) :=
  [(ascii "ecdsa-sha2-nistp256", .x962Prime256V1, ascii "nistp256"),
    (ascii "ecdsa-sha2-nistp384", .secp384R1, ascii "nistp384"),
    (ascii "ecdsa-sha2-nistp521", .secp521R1, ascii "nistp521")]

/-- The blobs of a private and a public key for an algorithm, the halves of one key. -/
inductive IsKeyPair (o : OpenSsl) : Text → Bytes → Bytes → Prop
  | ed25519 {secret point : Bytes} {k : o.Ed25519Private} {k' : o.Ed25519Public}
      (hfit : Fit [secret, point])
      (hprivate : o.privateKeyFromRawBytes secret = .ok k)
      (hpublic : o.publicKeyFromRawBytes point = .ok k') (hmatches : o.ed25519Matches k k') :
    IsKeyPair o (ascii "ssh-ed25519") (blob [ascii "ssh-ed25519", secret])
      (blob [ascii "ssh-ed25519", point])
  | rsa {name : Text} {n e d iqmp p q n' e' : Bytes} {k : o.RsaPrivate} {k' : o.RsaPublic}
      (hname : name ∈ rsaNames) (hfit : Fit [n, e, d, iqmp, p, q, n', e'])
      (hp : 1 < value p) (hq : 1 < value q) (hn : value n' = value n) (he : value e' = value e)
      (hprivate : o.rsaPrivate (value n) (value e) (value d) (value d % (value p - 1))
        (value d % (value q - 1)) (value iqmp) (value p) (value q) = .ok k)
      (hpublic : o.rsaPublic (value n) (value e) = .ok k') (hmatches : o.rsaMatches k k') :
    IsKeyPair o name (blob [ascii "ssh-rsa", n, e, d, iqmp, p, q]) (blob [ascii "ssh-rsa", e', n'])
  | dsa {p q g y x p' q' g' y' : Bytes} {k : o.DsaPrivate} {k' : o.DsaPublic}
      (hfit : Fit [p, q, g, y, x, p', q', g', y'])
      (hp : value p' = value p) (hq : value q' = value q) (hg : value g' = value g)
      (hy : value y' = value y)
      (hprivate : o.dsaPrivate (value p) (value q) (value g) (value x) (value y) = .ok k)
      (hpublic : o.dsaPublic (value p) (value q) (value g) (value y) = .ok k')
      (hmatches : o.dsaMatches k k') :
    IsKeyPair o (ascii "ssh-dss") (blob [ascii "ssh-dss", p, q, g, y, x])
      (blob [ascii "ssh-dss", p', q', g', y'])
  | ecdsa {name curve : Text} {nid : Nid} {point e : Bytes} {decoded : o.EcPoint} {k : o.EcPrivate}
      {k' : o.EcPublic} (hname : (name, nid, curve) ∈ ecdsaCurves) (hfit : Fit [point, e])
      (hpoint : o.pointFromBytes nid point = .ok decoded)
      (hprivate : o.ecPrivate nid (value e) decoded = .ok k)
      (hpublic : o.ecPublic nid decoded = .ok k') (hmatches : o.ecMatches k k') :
    IsKeyPair o name (blob [name, curve, point, e]) (blob [name, curve, point])

/-! ## Raw parts -/

/-- `raw` is the signature of `data` that OpenSSL makes with the signer's key, in the form that the
algorithm prescribes. -/
def Signer.Prescribes (data raw : Bytes) : Signer o → Prop
  | .ed25519 self => raw.length = 64 ∧ ∃ k, self.ctx = some k ∧ o.digestSign k data = .ok raw
  | .rsa self => ∃ k hash, self.ctx = some k ∧ o.digest self.hash data = .ok hash ∧
      o.rsaSign self.hash k hash = .ok raw
  | .dsa self => ∃ k r s, self.key = some k ∧ o.signToVec k data = .ok (derSignature r s) ∧
      AreSigned 20 r s ∧ raw = fixed 20 r ++ fixed 20 s
  | .ecdsa self => ∃ k hash r s, self.key = some k ∧ o.digest self.hash data = .ok hash ∧
      o.ecdsaSign k hash = .ok (r, s) ∧ raw = blob [mpint r, mpint s]

/-- Signer and verifier of one name agree about a key pair and a message: what the signer returns
has the prescribed form, and the verifier accepts it. -/
def Agree (o : OpenSsl) (name : Text) (privateKey publicKey data : Bytes) : Prop :=
  ∃ signer verifier signer' verifier' raw,
    Signer.newByName o name = some signer ∧ Verifier.newByName o name = some verifier ∧
    signer.initializeKey privateKey = .ok signer' ∧
    verifier.initializeKey publicKey = .ok verifier' ∧
    signer'.signature data = .ok raw ∧
    verifier'.verify (blob [name, raw]) data = .ok true ∧
    signer'.Prescribes data raw

/-! ### Ed25519 -/

theorem ed25519_agree (ho : o.Correct) {secret point : Bytes} {k : o.Ed25519Private}
    {k' : o.Ed25519Public} (hfit : Fit [secret, point])
    (hprivate : o.privateKeyFromRawBytes secret = .ok k)
    (hpublic : o.publicKeyFromRawBytes point = .ok k') (hmatches : o.ed25519Matches k k')
    (data : Bytes) :
    Agree o (ascii "ssh-ed25519") (blob [ascii "ssh-ed25519", secret])
      (blob [ascii "ssh-ed25519", point]) data := by
  have hname : (ascii "ssh-ed25519").length < UInt32.size := by decide
  have hsigner : Ed25519.initializeSigner o (blob [ascii "ssh-ed25519", secret]) =
      .ok { ctx := some k } := by
    refine run'_eq_ok_iff.mpr ⟨blob [], ?_⟩
    rw [bind_of_ok (expectOne_blob _ hname), bind_of_ok (consumeOne_blob (hfit secret (by simp))),
      bind_of_ok (ofExcept_eq_ok _ hprivate)]
    rfl
  have hverifier : Ed25519.initializeVerifier o (blob [ascii "ssh-ed25519", point]) =
      .ok { ctx := some k' } := by
    refine run'_eq_ok_iff.mpr ⟨blob [], ?_⟩
    rw [bind_of_ok (expectOne_blob _ hname), bind_of_ok (consumeOne_blob (hfit point (by simp))),
      bind_of_ok (ofExcept_eq_ok _ hpublic)]
    rfl
  obtain ⟨raw, hsign, hlength, hverify⟩ := ho.ed25519 hmatches data
  have hraw : raw.length < UInt32.size := by
    rw [hlength]
    decide
  have haccepts : (Ed25519.mk (some k')).verify (blob [ascii "ssh-ed25519", raw]) data =
      .ok true := by
    have hkey : initialized "Uninitialize" (Ed25519.mk (some k')).ctx = .ok k' := rfl
    refine run'_eq_ok_iff.mpr ⟨blob [], ?_⟩
    rw [bind_of_ok (consumeOne_blob hname), if_neg (not_not.mpr rfl),
      bind_of_ok (consumeOne_blob hraw), bind_of_ok (ofExcept_eq_ok _ hkey), hverify]
    rfl
  refine ⟨_, _, .ed25519 { ctx := some k }, .ed25519 { ctx := some k' }, raw, rfl, rfl, ?_, ?_,
    hsign, haccepts, hlength, k, rfl, hsign⟩
  · rw [Signer.initializeKey, hsigner]
    rfl
  · rw [Verifier.initializeKey, hverifier]
    rfl

/-! ### RSA -/

theorem crtExponent_of_lt {d p : ℕ} (h : 1 < p) : Rsa.crtExponent d p = .ok (d % (p - 1)) := by
  unfold Rsa.crtExponent
  rw [if_neg (by omega), show ((p : ℤ) - 1).natAbs = p - 1 by omega]

namespace Rsa

theorem initializeSigner_blob (self : Rsa o.RsaPrivate) {n e d iqmp p q : Bytes}
    {k : o.RsaPrivate} (hfit : Fit [n, e, d, iqmp, p, q]) (hp : 1 < value p) (hq : 1 < value q)
    (hkey : o.rsaPrivate (value n) (value e) (value d) (value d % (value p - 1))
      (value d % (value q - 1)) (value iqmp) (value p) (value q) = .ok k) :
    self.initializeSigner (blob [ascii "ssh-rsa", n, e, d, iqmp, p, q]) =
      .ok { self with ctx := some k } := by
  refine run'_eq_ok_iff.mpr ⟨blob [], ?_⟩
  rw [bind_of_ok (expectOne_blob _ (of_decide_eq_true rfl)),
    bind_of_ok (consumeBigNum_blob (hfit n (by simp))),
    bind_of_ok (consumeBigNum_blob (hfit e (by simp))),
    bind_of_ok (consumeBigNum_blob (hfit d (by simp))),
    bind_of_ok (consumeBigNum_blob (hfit iqmp (by simp))),
    bind_of_ok (consumeBigNum_blob (hfit p (by simp))),
    bind_of_ok (consumeBigNum_blob (hfit q (by simp))),
    bind_of_ok (ofExcept_eq_ok _ (crtExponent_of_lt hp)),
    bind_of_ok (ofExcept_eq_ok _ (crtExponent_of_lt hq)), bind_of_ok (ofExcept_eq_ok _ hkey)]
  rfl

theorem initializeVerifier_blob (self : Rsa o.RsaPublic) {n e : Bytes} {k : o.RsaPublic}
    (hfit : Fit [e, n]) (hkey : o.rsaPublic (value n) (value e) = .ok k) :
    self.initializeVerifier (blob [ascii "ssh-rsa", e, n]) = .ok { self with ctx := some k } := by
  refine run'_eq_ok_iff.mpr ⟨blob [], ?_⟩
  rw [bind_of_ok (expectOne_blob _ (of_decide_eq_true rfl)),
    bind_of_ok (consumeBigNum_blob (hfit e (by simp))),
    bind_of_ok (consumeBigNum_blob (hfit n (by simp))), bind_of_ok (ofExcept_eq_ok _ hkey)]
  rfl

/-- The verifier hands the raw part on as it is. -/
theorem verify_blob (self : Rsa o.RsaPublic) {raw data hash : Bytes} {k : o.RsaPublic}
    (hfit : Fit [self.name, raw]) (hctx : self.ctx = some k)
    (hdigest : o.digest self.hash data = .ok hash)
    (hverify : o.rsaVerify self.hash k hash raw = .ok true) :
    self.verify (blob [self.name, raw]) data = .ok true := by
  refine Except.bind_eq_ok_iff.mpr ⟨hash, hdigest, ?_⟩
  refine Except.bind_eq_ok_iff.mpr ⟨k, by rw [hctx]; rfl, ?_⟩
  refine run'_eq_ok_iff.mpr ⟨blob [], ?_⟩
  rw [bind_of_ok (expectOne_blob _ (hfit self.name (by simp))),
    bind_of_ok (consumeOne_blob (hfit raw (by simp))), hverify]
  rfl

end Rsa

/-- One algorithm of RSA: signer and verifier have one name and one digest. -/
theorem rsa_agree (ho : o.Correct) {name : Text} (signer : Rsa o.RsaPrivate)
    (verifier : Rsa o.RsaPublic) {n e d iqmp p q n' e' : Bytes} {k : o.RsaPrivate}
    {k' : o.RsaPublic} (hsigner : Signer.newByName o name = some (.rsa signer))
    (hverifier : Verifier.newByName o name = some (.rsa verifier))
    (hname : verifier.name = name) (hlength : name.length < UInt32.size)
    (hhash : verifier.hash = signer.hash) (hfit : Fit [n, e, d, iqmp, p, q, n', e'])
    (hp : 1 < value p) (hq : 1 < value q) (hn : value n' = value n) (he : value e' = value e)
    (hprivate : o.rsaPrivate (value n) (value e) (value d) (value d % (value p - 1))
      (value d % (value q - 1)) (value iqmp) (value p) (value q) = .ok k)
    (hpublic : o.rsaPublic (value n) (value e) = .ok k') (hmatches : o.rsaMatches k k')
    (data : Bytes) :
    Agree o name (blob [ascii "ssh-rsa", n, e, d, iqmp, p, q])
      (blob [ascii "ssh-rsa", e', n']) data := by
  obtain ⟨hash, hdigest⟩ := ho.digest signer.hash data
  obtain ⟨raw, hsign, hraw, hverify⟩ := ho.rsa hmatches hdigest
  have hfits : Fit [n, e, d, iqmp, p, q] := fun field h =>
    hfit field (List.mem_append_left [n', e'] h)
  have hfits' : Fit [e', n'] := fun field h => hfit field (by grind)
  have hinit := signer.initializeSigner_blob hfits hp hq hprivate
  have hinit' := verifier.initializeVerifier_blob hfits'
    ((congrArg₂ o.rsaPublic hn he).trans hpublic)
  have hsignature : Rsa.signature { signer with ctx := some k } data = .ok raw := by
    unfold Rsa.signature
    rw [hdigest]
    exact hsign
  have haccepts : Rsa.verify { verifier with ctx := some k' } (blob [name, raw]) data =
      .ok true := by
    rw [← hname]
    refine Rsa.verify_blob { verifier with ctx := some k' } ?_ rfl (by rw [hhash, hdigest])
      (by rw [hhash, hverify])
    simp [Fit, hname, hlength, hraw]
  refine ⟨_, _, .rsa { signer with ctx := some k }, .rsa { verifier with ctx := some k' }, raw,
    hsigner, hverifier, ?_, ?_, hsignature, haccepts, k, hash, rfl, hdigest, hsign⟩
  · rw [Signer.initializeKey, hinit]
    rfl
  · rw [Verifier.initializeKey, hinit']
    rfl

/-! ### ECDSA -/

namespace Ecdsa

/-- The signer writes the two numbers as `mpint`s. -/
theorem signature_eq (self : Ecdsa o.EcPrivate) {data hash : Bytes} {k : o.EcPrivate} {r s : ℕ}
    (hkey : self.key = some k) (hdigest : o.digest self.hash data = .ok hash)
    (hsign : o.ecdsaSign k hash = .ok (r, s)) (hr : r ≠ 0) (hs : s ≠ 0) :
    self.signature data = .ok (blob [mpint r, mpint s]) := by
  rw [← toInteger_eq_mpint hr, ← toInteger_eq_mpint hs]
  refine Except.bind_eq_ok_iff.mpr ⟨hash, hdigest, ?_⟩
  refine Except.bind_eq_ok_iff.mpr ⟨k, by rw [hkey]; rfl, ?_⟩
  exact Except.bind_eq_ok_iff.mpr ⟨(r, s), hsign, rfl⟩

theorem value_mpint {n : ℕ} (h : n ≠ 0) : value (mpint n) = n := by
  rw [← toInteger_eq_mpint h, value_toInteger]

/-- The verifier reads the two numbers back. -/
theorem verify_blob (self : Ecdsa o.EcPublic) {data hash : Bytes} {k : o.EcPublic} {r s : ℕ}
    (hlength : self.name.length < UInt32.size) (hsigned : AreSigned 66 r s)
    (hkey : self.key = some k) (hdigest : o.digest self.hash data = .ok hash)
    (hverify : o.ecdsaVerify k hash (derSignature r s) = .ok true) :
    self.verify (blob [self.name, blob [mpint r, mpint s]]) data = .ok true := by
  have hr : r ≠ 0 := Nat.pos_iff_ne_zero.mp hsigned.r_pos
  have hs : s ≠ 0 := Nat.pos_iff_ne_zero.mp hsigned.s_pos
  have hlengths : (mpint r).length ≤ 70 ∧ (mpint s).length ≤ 70 := by
    rw [← toInteger_eq_mpint hr, ← toInteger_eq_mpint hs]
    exact ⟨length_toInteger_le hsigned.r_lt, length_toInteger_le hsigned.s_lt⟩
  have hmax : 148 < UInt32.size := of_decide_eq_true rfl
  have hraw : (blob [mpint r, mpint s]).length < UInt32.size := by
    rw [length_blob_cons, length_blob_cons, blob_nil, List.length_nil]
    omega
  have hunwrap : Consumer.run' (do
      expectOne self.name mismatchKey
      consumeOne) (blob [self.name, blob [mpint r, mpint s]]) =
      .ok (blob [mpint r, mpint s]) := by
    refine run'_eq_ok_iff.mpr ⟨blob [], ?_⟩
    rw [bind_of_ok (expectOne_blob _ hlength)]
    exact consumeOne_blob hraw
  have hread : Consumer.run' (do
      let r ← consumeBigNum
      return (r, ← consumeBigNum)) (blob [mpint r, mpint s]) = .ok (r, s) := by
    refine run'_eq_ok_iff.mpr ⟨blob [], ?_⟩
    rw [bind_of_ok (consumeBigNum_blob (by omega)), bind_of_ok (consumeBigNum_blob (by omega)),
      value_mpint hr, value_mpint hs]
    rfl
  refine Except.bind_eq_ok_iff.mpr ⟨_, hunwrap, ?_⟩
  refine Except.bind_eq_ok_iff.mpr ⟨(r, s), hread, ?_⟩
  refine Except.bind_eq_ok_iff.mpr ⟨hash, hdigest, ?_⟩
  exact Except.bind_eq_ok_iff.mpr ⟨k, by rw [hkey]; rfl, hverify⟩

end Ecdsa

/-- One algorithm of ECDSA. -/
theorem ecdsa_agree (ho : o.Correct) {name : Text} (signer : Ecdsa o.EcPrivate)
    (verifier : Ecdsa o.EcPublic) {curve point e : Bytes} {decoded : o.EcPoint} {k : o.EcPrivate}
    {k' : o.EcPublic} (hsigner : Signer.newByName o name = some (.ecdsa signer))
    (hverifier : Verifier.newByName o name = some (.ecdsa verifier))
    (hname : signer.name = name ∧ verifier.name = name) (hnid : verifier.nid = signer.nid)
    (hhash : verifier.hash = signer.hash) (hlength : name.length < UInt32.size)
    (hcurve : curve.length < UInt32.size) (htext : utf8Valid curve = true)
    (hend : curve <:+ name) (hfit : Fit [point, e])
    (hpoint : o.pointFromBytes signer.nid point = .ok decoded)
    (hprivate : o.ecPrivate signer.nid (value e) decoded = .ok k)
    (hpublic : o.ecPublic signer.nid decoded = .ok k') (hmatches : o.ecMatches k k')
    (data : Bytes) :
    Agree o name (blob [name, curve, point, e]) (blob [name, curve, point]) data := by
  obtain ⟨rfl, hname⟩ := hname
  have hpoints := hfit point (by simp)
  have he := hfit e (by simp)
  have hfits : Fit [signer.name, curve, point, e] := by simp [Fit, hlength, hcurve, hpoints, he]
  have hfits' : Fit [verifier.name, curve, point] := by
    simp [Fit, hname, hlength, hcurve, hpoints]
  have hinit := Ecdsa.initializeSigner_blob hfits htext hend hpoint hprivate
  have hinit' := Ecdsa.initializeVerifier_blob hfits' htext (hname ▸ hend) (hnid ▸ hpoint)
    (hnid ▸ hpublic)
  obtain ⟨hash, hdigest⟩ := ho.digest signer.hash data
  obtain ⟨r, s, hsigned, hsign, hverify⟩ := ho.ecdsa hmatches hash
  have hsignature := Ecdsa.signature_eq { signer with key := some k } rfl hdigest hsign
    (Nat.pos_iff_ne_zero.mp hsigned.r_pos) (Nat.pos_iff_ne_zero.mp hsigned.s_pos)
  have haccepts := Ecdsa.verify_blob { verifier with key := some k' } (hname ▸ hlength) hsigned rfl
    (hhash ▸ hdigest) hverify
  refine ⟨_, _, .ecdsa { signer with key := some k }, .ecdsa { verifier with key := some k' },
    blob [mpint r, mpint s], hsigner, hverifier, ?_, ?_, hsignature, ?_, k, hash, r, s, rfl,
    hdigest, hsign, rfl⟩
  · rw [Signer.initializeKey, hinit]
    rfl
  · rw [Verifier.initializeKey, ← hname, hinit']
    rfl
  · rw [← hname]
    exact haccepts

/-! ### DSA -/

/-- The signer of DSA returns what OpenSSL returns, which is DER. -/
theorem dsa_not_agree (privateKey publicKey data : Bytes) :
    ¬Agree o (ascii "ssh-dss") privateKey publicKey data := by
  rintro ⟨signer, verifier, signer', verifier', raw, hsigner, -, hinit, -, hsignature, -, hform⟩
  obtain rfl : Signer.dsa { key := none } = signer := Option.some.inj hsigner
  have hdsa : ∃ self : Dsa o.DsaPrivate, signer' = .dsa self := by
    rw [Signer.initializeKey] at hinit
    cases hrun : Dsa.initializeSigner o privateKey with
    | error e =>
      rw [hrun] at hinit
      cases hinit
    | ok self =>
      rw [hrun] at hinit
      exact ⟨self, (Except.ok.inj hinit).symm⟩
  obtain ⟨self, rfl⟩ := hdsa
  obtain ⟨k, r, s, hkey, hder, hsigned, hraw⟩ := hform
  have hreturned : o.signToVec k data = .ok raw := by
    rw [Signer.signature, Dsa.signature, hkey] at hsignature
    exact hsignature
  rw [hder, hraw] at hreturned
  exact derSignature_ne_fixed hsigned.r_lt hsigned.s_lt (Except.ok.inj hreturned)

/-! ## All algorithms -/

/-- The curves of the three algorithms, as the registries have them. -/
theorem ecdsaCurves_checked {name curve : Text} {nid : Nid} (h : (name, nid, curve) ∈ ecdsaCurves) :
    name.length < UInt32.size ∧ curve.length < UInt32.size ∧ utf8Valid curve = true ∧
      curve <:+ name ∧ name ≠ ascii "ssh-dss" := by
  have hall : (ecdsaCurves.all fun (name, _, curve) => decide (name.length < UInt32.size ∧
      curve.length < UInt32.size ∧ utf8Valid curve = true ∧ curve <:+ name ∧
        name ≠ ascii "ssh-dss")) = true := by decide +kernel
  exact of_decide_eq_true (List.all_eq_true.mp hall _ h)

theorem rsaNames_checked {name : Text} (h : name ∈ rsaNames) :
    name.length < UInt32.size ∧ name ≠ ascii "ssh-dss" := by
  have hall : (rsaNames.all fun name => decide (name.length < UInt32.size ∧
      name ≠ ascii "ssh-dss")) = true := by decide +kernel
  exact of_decide_eq_true (List.all_eq_true.mp hall _ h)

/-- Signer and verifier agree about every key pair and every message of every algorithm but one. -/
theorem agree_iff (ho : o.Correct) {name : Text} {privateKey publicKey : Bytes}
    (hpair : IsKeyPair o name privateKey publicKey) (data : Bytes) :
    Agree o name privateKey publicKey data ↔ name ≠ ascii "ssh-dss" := by
  cases hpair with
  | ed25519 hfit hprivate hpublic hmatches =>
    exact iff_of_true (ed25519_agree ho hfit hprivate hpublic hmatches data)
      (by decide)
  | rsa hname hfit hp hq hn he hprivate hpublic hmatches =>
    obtain ⟨hlength, hother⟩ := rsaNames_checked hname
    refine iff_of_true ?_ hother
    simp only [rsaNames, List.mem_cons, List.not_mem_nil, or_false] at hname
    rcases hname with rfl | rfl | rfl
    · exact rsa_agree ho .rsaSha2256 .rsaSha2256 rfl rfl rfl hlength rfl
        hfit hp hq hn he hprivate hpublic hmatches data
    · exact rsa_agree ho .rsaSha2512 .rsaSha2512 rfl rfl rfl hlength rfl
        hfit hp hq hn he hprivate hpublic hmatches data
    · exact rsa_agree ho .sshRsa .sshRsa rfl rfl rfl hlength rfl
        hfit hp hq hn he hprivate hpublic hmatches data
  | dsa hfit hp hq hg hy hprivate hpublic hmatches =>
    exact iff_of_false (dsa_not_agree _ _ data) (not_not.mpr rfl)
  | ecdsa hname hfit hpoint hprivate hpublic hmatches =>
    obtain ⟨hlength, hcurve, htext, hend, hother⟩ := ecdsaCurves_checked hname
    refine iff_of_true ?_ hother
    simp only [ecdsaCurves, List.mem_cons, Prod.mk.injEq, List.not_mem_nil, or_false] at hname
    rcases hname with ⟨rfl, rfl, rfl⟩ | ⟨rfl, rfl, rfl⟩ | ⟨rfl, rfl, rfl⟩
    · exact ecdsa_agree ho .ecdsaSha2Nistp256 .ecdsaSha2Nistp256 rfl rfl
        ⟨rfl, rfl⟩ rfl rfl hlength hcurve htext hend hfit hpoint hprivate hpublic hmatches data
    · exact ecdsa_agree ho .ecdsaSha2Nistp384 .ecdsaSha2Nistp384 rfl rfl
        ⟨rfl, rfl⟩ rfl rfl hlength hcurve htext hend hfit hpoint hprivate hpublic hmatches data
    · exact ecdsa_agree ho .ecdsaSha2Nistp521 .ecdsaSha2Nistp521 rfl rfl
        ⟨rfl, rfl⟩ rfl rfl hlength hcurve htext hend hfit hpoint hprivate hpublic hmatches data

/-! ## Two keys -/

/-- A secret key of Ed25519. -/
def secretKey : Bytes := [
  0x9D, 0x61, 0xB1, 0x9D, 0xEF, 0xFD, 0x5A, 0x60, 0xBA, 0x84, 0x4A, 0xF4, 0x92, 0xEC, 0x2C, 0xC4,
  0x44, 0x49, 0xC5, 0x69, 0x7B, 0x32, 0x69, 0x19, 0x70, 0x3B, 0xAC, 0x03, 0x1C, 0xAE, 0x7F, 0x60]

/-- The public key that belongs to it. -/
def publicKey : Bytes := [
  0xD7, 0x5A, 0x98, 0x01, 0x82, 0xB1, 0x0A, 0xB7, 0xD5, 0x4B, 0xFE, 0xD3, 0xC9, 0x64, 0x07, 0x3A,
  0x0E, 0xE1, 0x72, 0xF3, 0xDA, 0xA6, 0x23, 0x25, 0xAF, 0x02, 0x1A, 0x68, 0xF7, 0x07, 0x51, 0x1A]

/-- Its signature of the empty message. -/
def emptySignature : Bytes := [
  0xE5, 0x56, 0x43, 0x00, 0xC3, 0x60, 0xAC, 0x72, 0x90, 0x86, 0xE2, 0xCC, 0x80, 0x6E, 0x82, 0x8A,
  0x84, 0x87, 0x7F, 0x1E, 0xB8, 0xE5, 0xD9, 0x74, 0xD8, 0x73, 0xE0, 0x65, 0x22, 0x49, 0x01, 0x55,
  0x5F, 0xB8, 0x82, 0x15, 0x90, 0xA3, 0x3B, 0xAC, 0xC6, 0x1E, 0x39, 0x70, 0x1C, 0xF9, 0xB4, 0x6B,
  0xD2, 0x5B, 0xF5, 0xF0, 0x59, 0x5B, 0xBE, 0x24, 0x65, 0x51, 0x41, 0x43, 0x8E, 0x7A, 0x10, 0x0B]

/-- The numbers of a private key of DSA, in the order of its blob. -/
def dsaKey : ℕ × ℕ × ℕ × ℕ × ℕ := (
  0xBC70475BA8E15F06960F244513878C97B861E1F69B86C37B1CFC76EEC6E37D3F * 2 ^ 256 +
  0xE6419102468AADFBA619D90032142EB83017A2CB7E0E02D562E4B69ACF05C6E1,
  0xC47E604605F9EB87E7DB270D1E2162169FBBA639,
  0x8254398EF666229C370B64630A0BBA44C52D4ED84374397AD64C06EAF681235F * 2 ^ 256 +
  0xA132532D2E074571F48635DF1CFE1E01D5526B7C7262413E3B802721C9EC536D,
  0x8949B870EE23B547BEC73145EEB0EC806F28507312DCF6CD1290B16F71776759 * 2 ^ 256 +
  0x60B06789F11C794A6E2C346D3C672C2652C0033BBA38F3216983CD26D05AA4E6,
  0x7A40A149176468C50335B78A54CBED0795DD0483)

/-- Its signature of the empty message. -/
def emptyDsaSignature : ℕ × ℕ := (
  0x21021A3394DF51E26127778FFE2BF165E721C972,
  0x63CF3193DD0F92406BB00248D34652EEBAFB84D6)

/-- OpenSSL, as far as these two keys and the empty message go. -/
def twoKeys : OpenSsl where
  Ed25519Private := Unit
  Ed25519Public := Unit
  RsaPrivate := Empty
  RsaPublic := Empty
  DsaPrivate := Unit
  DsaPublic := Unit
  EcPoint := Empty
  EcPrivate := Empty
  EcPublic := Empty
  digest _ _ := .ok []
  privateKeyFromRawBytes octets := if octets = secretKey then .ok () else .error .openssl
  publicKeyFromRawBytes octets := if octets = publicKey then .ok () else .error .openssl
  digestSign _ _ := .ok emptySignature
  digestVerify _ _ signature := .ok (signature = emptySignature)
  rsaPrivate _ _ _ _ _ _ _ _ := .error .openssl
  rsaPublic _ _ := .error .openssl
  rsaSign _ key := key.elim
  rsaVerify _ key := key.elim
  dsaPrivate p q g x y := if (p, q, g, y, x) = dsaKey then .ok () else .error .openssl
  dsaPublic p q g y := if (p, q, g, y, dsaKey.2.2.2.2) = dsaKey then .ok () else .error .openssl
  signToVec _ _ := .ok (derSignature emptyDsaSignature.1 emptyDsaSignature.2)
  dsaVerify _ _ signature :=
    .ok (signature = derSignature emptyDsaSignature.1 emptyDsaSignature.2)
  pointFromBytes _ _ := .error .openssl
  ecPrivate _ _ point := point.elim
  ecPublic _ point := point.elim
  ecdsaSign key := key.elim
  ecdsaVerify key := key.elim
  ed25519Matches _ _ := True
  rsaMatches _ _ := True
  dsaMatches _ _ := True
  ecMatches _ _ := True

theorem twoKeys_correct : twoKeys.Correct where
  digest _ _ := ⟨_, rfl⟩
  ed25519 _ _ := ⟨_, rfl, rfl, congrArg _ (decide_eq_true rfl)⟩
  rsa {k} := k.elim
  dsa _ _ := ⟨_, _, ⟨of_decide_eq_true rfl, of_decide_eq_true rfl, of_decide_eq_true rfl,
    of_decide_eq_true rfl⟩, rfl, congrArg _ (decide_eq_true rfl)⟩
  ecdsa {k} := k.elim

theorem agree_iff_ed25519 :
    Agree twoKeys (ascii "ssh-ed25519") (blob [ascii "ssh-ed25519", secretKey])
      (blob [ascii "ssh-ed25519", publicKey]) [] ↔ ascii "ssh-ed25519" ≠ ascii "ssh-dss" :=
  agree_iff twoKeys_correct (.ed25519 (by unfold Fit; decide) (if_pos rfl) (if_pos rfl) trivial) []

/-- Neither a verifier nor anyone else can read what the signer of DSA writes. -/
theorem agree_fails_on_dsa :
    ¬ ∀ o : OpenSsl, o.Correct → ∀ name privateKey publicKey,
      IsKeyPair o name privateKey publicKey →
        ∀ data, Agree o name privateKey publicKey data := by
  intro hagree
  have hprivate : twoKeys.dsaPrivate (value (mpint dsaKey.1)) (value (mpint dsaKey.2.1))
      (value (mpint dsaKey.2.2.1)) (value (mpint dsaKey.2.2.2.2)) (value (mpint dsaKey.2.2.2.1)) =
      .ok () := by
    simp only [twoKeys]
    rw [if_pos (by decide +kernel)]
  have hpublic : twoKeys.dsaPublic (value (mpint dsaKey.1)) (value (mpint dsaKey.2.1))
      (value (mpint dsaKey.2.2.1)) (value (mpint dsaKey.2.2.2.1)) = .ok () := by
    simp only [twoKeys]
    rw [if_pos (by decide +kernel)]
  have hpair : IsKeyPair twoKeys (ascii "ssh-dss")
      (blob [ascii "ssh-dss", mpint dsaKey.1, mpint dsaKey.2.1, mpint dsaKey.2.2.1,
        mpint dsaKey.2.2.2.1, mpint dsaKey.2.2.2.2])
      (blob [ascii "ssh-dss", mpint dsaKey.1, mpint dsaKey.2.1, mpint dsaKey.2.2.1,
        mpint dsaKey.2.2.2.1]) :=
    .dsa (by unfold Fit; decide +kernel) rfl rfl rfl rfl hprivate hpublic trivial
  exact dsa_not_agree _ _ [] (hagree twoKeys twoKeys_correct _ _ _ hpair [])

end Flatline
