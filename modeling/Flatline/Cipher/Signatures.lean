import Flatline.Cipher.Integers
import Flatline.Common.Triple
import Flatline.Kex.Config
import Flatline.Wire.Buffer

/-!
# Public-key signatures

The signers and the verifiers of the two registries, over the calls they make into OpenSSL. A key
comes as a blob of strings; a signature goes out as a blob of its algorithm's name and the raw part.
`OpenSsl` is what OpenSSL does, and `OpenSsl.Correct` what it promises.

Source: `src/cipher/signature.rs`.
-/

namespace Flatline

open BigEndian Triple

/-! ## OpenSSL -/

/-- The digests in use. -/
inductive Digest where
  | sha1
  | sha256
  | sha384
  | sha512
deriving DecidableEq, Repr

/-- `Nid`: the curves in use. -/
inductive Nid where
  | x962Prime256V1
  | secp384R1
  | secp521R1
deriving DecidableEq, Repr

/-- The calls into OpenSSL. The four relations tell which private and public keys belong to each
other. -/
structure OpenSsl where
  Ed25519Private : Type
  Ed25519Public : Type
  RsaPrivate : Type
  RsaPublic : Type
  DsaPrivate : Type
  DsaPublic : Type
  EcPoint : Type
  EcPrivate : Type
  EcPublic : Type
  /-- `MdCtx` from `digest_init` to `digest_final`. -/
  digest : Digest → Bytes → Except Error Bytes
  /-- `PKey::private_key_from_raw_bytes`. -/
  privateKeyFromRawBytes : Bytes → Except Error Ed25519Private
  /-- `PKey::public_key_from_raw_bytes`. -/
  publicKeyFromRawBytes : Bytes → Except Error Ed25519Public
  digestSign : Ed25519Private → (data : Bytes) → Except Error Bytes
  digestVerify : Ed25519Public → (data signature : Bytes) → Except Error Bool
  /-- `RsaPrivateKeyBuilder` and the `PkeyCtx` made of its key. -/
  rsaPrivate : (n e d dmp1 dmq1 iqmp p q : ℕ) → Except Error RsaPrivate
  /-- `Rsa::from_public_components` and the `PkeyCtx` made of its key. -/
  rsaPublic : (n e : ℕ) → Except Error RsaPublic
  rsaSign : Digest → RsaPrivate → (hash : Bytes) → Except Error Bytes
  rsaVerify : Digest → RsaPublic → (hash signature : Bytes) → Except Error Bool
  /-- `Dsa::from_private_components`. -/
  dsaPrivate : (p q g x y : ℕ) → Except Error DsaPrivate
  /-- `Dsa::from_public_components`. -/
  dsaPublic : (p q g y : ℕ) → Except Error DsaPublic
  /-- `Signer::sign_to_vec` with SHA-1. -/
  signToVec : DsaPrivate → (data : Bytes) → Except Error Bytes
  /-- `Verifier::verify` with SHA-1. -/
  dsaVerify : DsaPublic → (data signature : Bytes) → Except Error Bool
  /-- `EcPoint::from_bytes`. -/
  pointFromBytes : Nid → Bytes → Except Error EcPoint
  /-- `EcKey::from_private_components`. -/
  ecPrivate : Nid → (e : ℕ) → EcPoint → Except Error EcPrivate
  /-- `EcKey::from_public_key` and `check_key`. -/
  ecPublic : Nid → EcPoint → Except Error EcPublic
  /-- `EcdsaSig::sign`: the two numbers of the signature. -/
  ecdsaSign : EcPrivate → (hash : Bytes) → Except Error (ℕ × ℕ)
  /-- `PkeyCtx::verify`. -/
  ecdsaVerify : EcPublic → (hash signature : Bytes) → Except Error Bool
  ed25519Matches : Ed25519Private → Ed25519Public → Prop
  rsaMatches : RsaPrivate → RsaPublic → Prop
  dsaMatches : DsaPrivate → DsaPublic → Prop
  ecMatches : EcPrivate → EcPublic → Prop

/-- The numbers of a signature of DSA or of ECDSA: not zero, and of at most `k` octets. -/
structure AreSigned (k r s : ℕ) : Prop where
  r_pos : 0 < r
  r_lt : r < 256 ^ k
  s_pos : 0 < s
  s_lt : s < 256 ^ k

/-- What OpenSSL promises: a signature made with a private key is accepted under the public key that
belongs to it. `sign_to_vec` gives the DER form of the two numbers of a DSA signature, which the
verifiers of DSA and ECDSA take. -/
structure OpenSsl.Correct (o : OpenSsl) : Prop where
  digest (md : Digest) (data : Bytes) : ∃ hash, o.digest md data = .ok hash
  ed25519 {k : o.Ed25519Private} {k' : o.Ed25519Public} (h : o.ed25519Matches k k') (data : Bytes) :
    ∃ signature, o.digestSign k data = .ok signature ∧ signature.length = 64 ∧
      o.digestVerify k' data signature = .ok true
  rsa {k : o.RsaPrivate} {k' : o.RsaPublic} (h : o.rsaMatches k k') {md : Digest}
    {data hash : Bytes} (hhash : o.digest md data = .ok hash) :
    ∃ signature, o.rsaSign md k hash = .ok signature ∧ signature.length < UInt32.size ∧
      o.rsaVerify md k' hash signature = .ok true
  dsa {k : o.DsaPrivate} {k' : o.DsaPublic} (h : o.dsaMatches k k') (data : Bytes) :
    ∃ r s, AreSigned 20 r s ∧ o.signToVec k data = .ok (derSignature r s) ∧
      o.dsaVerify k' data (derSignature r s) = .ok true
  ecdsa {k : o.EcPrivate} {k' : o.EcPublic} (h : o.ecMatches k k') (hash : Bytes) :
    ∃ r s, AreSigned 66 r s ∧ o.ecdsaSign k hash = .ok (r, s) ∧
      o.ecdsaVerify k' hash (derSignature r s) = .ok true

/-! ## Reading blobs -/

namespace Consumer

/-- `if consume_one()? != expected { return Err(error) }`. -/
def expectOne (expected : Bytes) (error : Error) : Consumer Unit := do
  if (← consumeOne) = expected then return else throw error

/-- `BigNum::from_slice(consume_one()?)`. -/
def consumeBigNum : Consumer ℕ := do
  return value (← consumeOne)

end Consumer

/-- `MismatchKeySnafu`. -/
def mismatchKey : Error :=
  .cipher .mismatchKey

/-- `self.ctx.context(InvalidOperation { detail })`. -/
def initialized {κ : Type} (detail : String) : Option κ → Except Error κ
  | some key => .ok key
  | none => .error (.invalidOperation (ascii detail))

/-- `unwrap_or(false)`. -/
def unwrapOrFalse : Except Error Bool → Bool
  | .ok accepted => accepted
  | .error _ => false

open Consumer

/-! ## Ed25519 -/

/-- `signature::Ed25519`. -/
structure Ed25519 (κ : Type) where
  ctx : Option κ

namespace Ed25519

variable {o : OpenSsl}

/-- `Signature::initialize`. -/
def initializeSigner (o : OpenSsl) (key : Bytes) : Except Error (Ed25519 o.Ed25519Private) :=
  Consumer.run' (do
    expectOne (ascii "ssh-ed25519") mismatchKey
    let key ← consumeOne
    return { ctx := some (← ofExcept (o.privateKeyFromRawBytes key)) }) key

/-- `Signature::signature`. -/
def signature (self : Ed25519 o.Ed25519Private) (data : Bytes) : Except Error Bytes := do
  o.digestSign (← initialized "Uninitialize" self.ctx) data

/-- `Verify::initialize`. -/
def initializeVerifier (o : OpenSsl) (key : Bytes) : Except Error (Ed25519 o.Ed25519Public) :=
  Consumer.run' (do
    expectOne (ascii "ssh-ed25519") mismatchKey
    let key ← consumeOne
    return { ctx := some (← ofExcept (o.publicKeyFromRawBytes key)) }) key

/-- `Verify::verify`. Another algorithm's signature is no error here. -/
def verify (self : Ed25519 o.Ed25519Public) (signature data : Bytes) : Except Error Bool :=
  Consumer.run' (do
    if (← consumeOne) ≠ ascii "ssh-ed25519" then
      return false
    else
      let signature ← consumeOne
      let key ← ofExcept (initialized "Uninitialize" self.ctx)
      return unwrapOrFalse (o.digestVerify key data signature)) signature

end Ed25519

/-! ## RSA -/

/-- `signature::Rsa`. -/
structure Rsa (κ : Type) where
  name : Text
  hash : Digest
  ctx : Option κ

namespace Rsa

variable {κ : Type} {o : OpenSsl}

/-- `rsa_sha2_256`. -/
def rsaSha2256 : Rsa κ where
  name := ascii "rsa-sha2-256"
  hash := .sha256
  ctx := none

/-- `rsa_sha2_512`. -/
def rsaSha2512 : Rsa κ where
  name := ascii "rsa-sha2-512"
  hash := .sha512
  ctx := none

/-- `ssh_rsa`. -/
def sshRsa : Rsa κ where
  name := ascii "ssh-rsa"
  hash := .sha1
  ctx := none

/-- `checked_rem` of the private exponent by a prime less one, which is negative for zero. -/
def crtExponent (d p : ℕ) : Except Error ℕ :=
  if p = 1 then .error .openssl else .ok (d % ((p : ℤ) - 1).natAbs)

/-- `Signature::initialize`. -/
def initializeSigner (self : Rsa o.RsaPrivate) (key : Bytes) : Except Error (Rsa o.RsaPrivate) :=
  Consumer.run' (do
    expectOne (ascii "ssh-rsa") mismatchKey
    let n ← consumeBigNum
    let e ← consumeBigNum
    let d ← consumeBigNum
    let iqmp ← consumeBigNum
    let p ← consumeBigNum
    let q ← consumeBigNum
    let dmp1 ← ofExcept (crtExponent d p)
    let dmq1 ← ofExcept (crtExponent d q)
    return { self with ctx := some (← ofExcept (o.rsaPrivate n e d dmp1 dmq1 iqmp p q)) }) key

/-- `Signature::signature`. -/
def signature (self : Rsa o.RsaPrivate) (data : Bytes) : Except Error Bytes := do
  let hash ← o.digest self.hash data
  o.rsaSign self.hash (← initialized "Uninitialized" self.ctx) hash

/-- `Verify::initialize`. The exponent comes first here. -/
def initializeVerifier (self : Rsa o.RsaPublic) (key : Bytes) : Except Error (Rsa o.RsaPublic) :=
  Consumer.run' (do
    expectOne (ascii "ssh-rsa") mismatchKey
    let e ← consumeBigNum
    let n ← consumeBigNum
    return { self with ctx := some (← ofExcept (o.rsaPublic n e)) }) key

/-- `Verify::verify`. -/
def verify (self : Rsa o.RsaPublic) (signature data : Bytes) : Except Error Bool := do
  let hash ← o.digest self.hash data
  let key ← initialized "it must be initialized before verify" self.ctx
  Consumer.run' (do
    expectOne self.name mismatchKey
    let signature ← consumeOne
    return unwrapOrFalse (o.rsaVerify self.hash key hash signature)) signature

end Rsa

/-! ## DSA -/

/-- `signature::Dsa`. -/
structure Dsa (κ : Type) where
  key : Option κ

namespace Dsa

variable {o : OpenSsl}

/-- `Signature::initialize`. -/
def initializeSigner (o : OpenSsl) (key : Bytes) : Except Error (Dsa o.DsaPrivate) :=
  Consumer.run' (do
    expectOne (ascii "ssh-dss") mismatchKey
    let p ← consumeBigNum
    let q ← consumeBigNum
    let g ← consumeBigNum
    let y ← consumeBigNum
    let x ← consumeBigNum
    return { key := some (← ofExcept (o.dsaPrivate p q g x y)) }) key

/-- `Signature::signature`: what OpenSSL returns, as it is. -/
def signature (self : Dsa o.DsaPrivate) (data : Bytes) : Except Error Bytes := do
  o.signToVec (← initialized "Uninitialized" self.key) data

/-- `Verify::initialize`. -/
def initializeVerifier (o : OpenSsl) (key : Bytes) : Except Error (Dsa o.DsaPublic) :=
  Consumer.run' (do
    expectOne (ascii "ssh-dss") mismatchKey
    let p ← consumeBigNum
    let q ← consumeBigNum
    let g ← consumeBigNum
    let y ← consumeBigNum
    return { key := some (← ofExcept (o.dsaPublic p q g y)) }) key

/-- `Verify::verify`: the raw part is two numbers of twenty octets, OpenSSL wants DER. -/
def verify (self : Dsa o.DsaPublic) (signature data : Bytes) : Except Error Bool :=
  Consumer.run' (do
    expectOne (ascii "ssh-dss") mismatchKey
    let signature ← consumeOne
    if signature.length ≠ 40 then
      throw (.cipher .signatureVerificationFailed)
    else
      let r := value (signature.take 20)
      let s := value (signature.drop 20)
      let key ← ofExcept (initialized "Uninitialize" self.key)
      return unwrapOrFalse (o.dsaVerify key data (derSignature r s))) signature

end Dsa

/-! ## ECDSA -/

/-- `signature::Ecdsa`. -/
structure Ecdsa (κ : Type) where
  name : Text
  nid : Nid
  hash : Digest
  key : Option κ

namespace Ecdsa

variable {κ : Type} {o : OpenSsl}

/-- `ecdsa_sha2_nistp256`. -/
def ecdsaSha2Nistp256 : Ecdsa κ where
  name := ascii "ecdsa-sha2-nistp256"
  nid := .x962Prime256V1
  hash := .sha256
  key := none

/-- `ecdsa_sha2_nistp384`. -/
def ecdsaSha2Nistp384 : Ecdsa κ where
  name := ascii "ecdsa-sha2-nistp384"
  nid := .secp384R1
  hash := .sha384
  key := none

/-- `ecdsa_sha2_nistp521`. -/
def ecdsaSha2Nistp521 : Ecdsa κ where
  name := ascii "ecdsa-sha2-nistp521"
  nid := .secp521R1
  hash := .sha512
  key := none

/-- The check of the curve's name in a blob: any end of the algorithm's name will do. -/
def expectCurve (self : Ecdsa κ) : Consumer Unit := do
  let nid ← consumeOne
  if utf8Valid nid = true ∧ nid <:+ self.name then return else throw mismatchKey

/-- `Signature::initialize`. -/
def initializeSigner (self : Ecdsa o.EcPrivate) (key : Bytes) :
    Except Error (Ecdsa o.EcPrivate) :=
  Consumer.run' (do
    expectOne self.name mismatchKey
    self.expectCurve
    let publicKey ← consumeOne
    let e ← consumeBigNum
    let point ← ofExcept (o.pointFromBytes self.nid publicKey)
    return { self with key := some (← ofExcept (o.ecPrivate self.nid e point)) }) key

/-- `Signature::signature`. -/
def signature (self : Ecdsa o.EcPrivate) (data : Bytes) : Except Error Bytes := do
  let hash ← o.digest self.hash data
  let (r, s) ← o.ecdsaSign (← initialized "Uninitialized" self.key) hash
  return makeBufferWithoutHeader [.one (toInteger r), .one (toInteger s)]

/-- `Verify::initialize`. -/
def initializeVerifier (self : Ecdsa o.EcPublic) (key : Bytes) : Except Error (Ecdsa o.EcPublic) :=
  Consumer.run' (do
    expectOne self.name mismatchKey
    self.expectCurve
    let publicKey ← consumeOne
    let point ← ofExcept (o.pointFromBytes self.nid publicKey)
    return { self with key := some (← ofExcept (o.ecPublic self.nid point)) }) key

/-- `Verify::verify`. -/
def verify (self : Ecdsa o.EcPublic) (signature data : Bytes) : Except Error Bool := do
  let signature ← Consumer.run' (do
    expectOne self.name mismatchKey
    consumeOne) signature
  let (r, s) ← Consumer.run' (do
    let r ← consumeBigNum
    return (r, ← consumeBigNum)) signature
  let hash ← o.digest self.hash data
  o.ecdsaVerify (← initialized "Uninitialized" self.key) hash (derSignature r s)

end Ecdsa

/-! ## Registries -/

/-- `Box<dyn Signature>`. -/
inductive Signer (o : OpenSsl) where
  | ed25519 (self : Ed25519 o.Ed25519Private)
  | rsa (self : Rsa o.RsaPrivate)
  | dsa (self : Dsa o.DsaPrivate)
  | ecdsa (self : Ecdsa o.EcPrivate)

namespace Signer

variable {o : OpenSsl}

/-- `name`. -/
def name : Signer o → Text
  | ed25519 _ => ascii "ssh-ed25519"
  | rsa self => self.name
  | dsa _ => ascii "ssh-dss"
  | ecdsa self => self.name

/-- `initialize`. -/
def initializeKey (key : Bytes) : Signer o → Except Error (Signer o)
  | ed25519 _ => ed25519 <$> Ed25519.initializeSigner o key
  | rsa self => rsa <$> self.initializeSigner key
  | dsa _ => dsa <$> Dsa.initializeSigner o key
  | ecdsa self => ecdsa <$> self.initializeSigner key

/-- `signature`. -/
def signature (data : Bytes) : Signer o → Except Error Bytes
  | ed25519 self => self.signature data
  | rsa self => self.signature data
  | dsa self => self.signature data
  | ecdsa self => self.signature data

/-- The registry of signers, `new_signature_all`. -/
def all (o : OpenSsl) : List (Text × Signer o) :=
  [(ascii "ssh-ed25519", ed25519 { ctx := none }),
    (ascii "rsa-sha2-256", rsa .rsaSha2256),
    (ascii "rsa-sha2-512", rsa .rsaSha2512),
    (ascii "ssh-rsa", rsa .sshRsa),
    (ascii "ssh-dss", dsa { key := none }),
    (ascii "ecdsa-sha2-nistp521", ecdsa .ecdsaSha2Nistp521),
    (ascii "ecdsa-sha2-nistp256", ecdsa .ecdsaSha2Nistp256),
    (ascii "ecdsa-sha2-nistp384", ecdsa .ecdsaSha2Nistp384)]

/-- `new_signature_by_name`. -/
def newByName (o : OpenSsl) (name : Text) : Option (Signer o) :=
  (all o).lookup name

/-- A signer as the session uses it: it is given its key for each signature. -/
def toSignature (self : Signer o) : Signature where
  name := self.name
  initializeKey key := (fun _ => ()) <$> self.initializeKey key
  signature key data := do (← self.initializeKey key).signature data

end Signer

/-- `Box<dyn Verify>`. -/
inductive Verifier (o : OpenSsl) where
  | ed25519 (self : Ed25519 o.Ed25519Public)
  | rsa (self : Rsa o.RsaPublic)
  | dsa (self : Dsa o.DsaPublic)
  | ecdsa (self : Ecdsa o.EcPublic)

namespace Verifier

variable {o : OpenSsl}

/-- `initialize`. -/
def initializeKey (key : Bytes) : Verifier o → Except Error (Verifier o)
  | ed25519 _ => ed25519 <$> Ed25519.initializeVerifier o key
  | rsa self => rsa <$> self.initializeVerifier key
  | dsa _ => dsa <$> Dsa.initializeVerifier o key
  | ecdsa self => ecdsa <$> self.initializeVerifier key

/-- `verify`. -/
def verify (signature data : Bytes) : Verifier o → Except Error Bool
  | ed25519 self => self.verify signature data
  | rsa self => self.verify signature data
  | dsa self => self.verify signature data
  | ecdsa self => self.verify signature data

/-- The registry of verifiers, `new_verify_all`. -/
def all (o : OpenSsl) : List (Text × Verifier o) :=
  [(ascii "ssh-ed25519", ed25519 { ctx := none }),
    (ascii "rsa-sha2-256", rsa .rsaSha2256),
    (ascii "rsa-sha2-512", rsa .rsaSha2512),
    (ascii "ssh-rsa", rsa .sshRsa),
    (ascii "ssh-dss", dsa { key := none }),
    (ascii "ecdsa-sha2-nistp521", ecdsa .ecdsaSha2Nistp521),
    (ascii "ecdsa-sha2-nistp256", ecdsa .ecdsaSha2Nistp256),
    (ascii "ecdsa-sha2-nistp384", ecdsa .ecdsaSha2Nistp384)]

/-- `new_verify_by_name`. -/
def newByName (o : OpenSsl) (name : Text) : Option (Verifier o) :=
  (all o).lookup name

end Verifier

end Flatline
