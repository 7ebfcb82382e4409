import Flatline.Cipher.Signatures
import Flatline.Common.PowerMod
import Mathlib

/-!
# Finite-field Diffie-Hellman

The two implementations over the integers modulo a prime: the fixed groups and the group exchange,
whose group the server chooses. Both raise the server's public value to the client's secret exponent
and return the result as an `mpint`; neither looks at the range of the server's value, so `0` or the
prime itself give the shared secret zero.

Source: `src/cipher/kex.rs`.
-/

namespace Flatline

open BigEndian PowerMod

/-! ## OpenSSL -/

/-- `Dh<Private>`. -/
structure DhKey where
  primeP : ℕ
  generator : ℕ
  privateKey : ℕ
  publicKey : ℕ
deriving DecidableEq, Repr

/-- The calls into OpenSSL. -/
structure DhCalls where
  /-- `Dh::from_pqg(p, None, g)` and `generate_key` on it, with randomness `seed`. -/
  generateKey : (seed p g : ℕ) → Except Error DhKey
  /-- `BigNumRef::mod_exp`. -/
  modExp : (a exponent modulus : ℕ) → Except Error ℕ

/-- What OpenSSL promises: a key is of the group it was asked for, and `mod_exp` computes powers
modulo odd numbers. -/
structure DhCalls.Correct (o : DhCalls) : Prop where
  primeP_eq {seed p g : ℕ} {key : DhKey} (h : o.generateKey seed p g = .ok key) : key.primeP = p
  modExp_eq (a exponent : ℕ) {modulus : ℕ} (h : Odd modulus) :
    o.modExp a exponent modulus = .ok (a ^ exponent % modulus)

/-! ## Group exchange -/

/-- `ExchangeDiffieHellmanImpl`. -/
structure ExchangeDiffieHellmanImpl where
  name : Text
  min : UInt32
  numberOfBits : UInt32
  max : UInt32
  hasher : Digest
  key : Option DhKey
deriving DecidableEq, Repr

namespace ExchangeDiffieHellmanImpl

def sha1 : ExchangeDiffieHellmanImpl where
  name := ascii "diffie-hellman-group-exchange-sha1"
  min := 2048
  numberOfBits := 4096
  max := 8192
  hasher := .sha1
  key := none

def sha256 : ExchangeDiffieHellmanImpl where
  name := ascii "diffie-hellman-group-exchange-sha256"
  min := 2048
  numberOfBits := 4096
  max := 8192
  hasher := .sha256
  key := none

/-- `Exchange::set_recommended_number_of_bits`. -/
def setRecommendedNumberOfBits (self : ExchangeDiffieHellmanImpl) (bits : UInt32) :
    ExchangeDiffieHellmanImpl :=
  if bits ≥ self.min ∧ bits ≤ self.max then { self with numberOfBits := bits } else self

/-- `Exchange::initialize`. -/
def initializeGroup (self : ExchangeDiffieHellmanImpl) (o : DhCalls) (seed : ℕ) (p g : Bytes) :
    Except Error ExchangeDiffieHellmanImpl :=
  let p := value p
  let bits := p.size
  if bits < self.min.toNat ∨ bits > self.max.toNat then .error (.cipher .invalidPrime) else do
    let key ← o.generateKey seed p (value g)
    return { self with key := some key }

/-- `KeyExchange::generate_key`. -/
def generateKey (self : ExchangeDiffieHellmanImpl) : Except Error Bytes := do
  return toInteger (← initialized "Initialize first" self.key).publicKey

/-- `KeyExchange::compute_secret_key`. -/
def computeSecretKey (self : ExchangeDiffieHellmanImpl) (o : DhCalls) (serverPublicKey : Bytes) :
    Except Error Bytes := do
  let key ← initialized "Generate key first" self.key
  return toInteger (← o.modExp (value serverPublicKey) key.privateKey key.primeP)

end ExchangeDiffieHellmanImpl

/-! ## Fixed groups -/

/-- `parse_hex` of a text of words. -/
def parseHex (words : List UInt32) : Bytes :=
  words.flatMap toBeBytes

/-- `value::P_GROUP1_VALUE`. -/
def pGroup1Value : Bytes := parseHex
  [0xFFFFFFFF, 0xFFFFFFFF, 0xC90FDAA2, 0x2168C234, 0xC4C6628B, 0x80DC1CD1,
    0x29024E08, 0x8A67CC74, 0x020BBEA6, 0x3B139B22, 0x514A0879, 0x8E3404DD,
    0xEF9519B3, 0xCD3A431B, 0x302B0A6D, 0xF25F1437, 0x4FE1356D, 0x6D51C245,
    0xE485B576, 0x625E7EC6, 0xF44C42E9, 0xA637ED6B, 0x0BFF5CB6, 0xF406B7ED,
    0xEE386BFB, 0x5A899FA5, 0xAE9F2411, 0x7C4B1FE6, 0x49286651, 0xECE65381,
    0xFFFFFFFF, 0xFFFFFFFF]

/-- `value::P_GROUP14_VALUE`. -/
def pGroup14Value : Bytes := parseHex
  [0xFFFFFFFF, 0xFFFFFFFF, 0xC90FDAA2, 0x2168C234, 0xC4C6628B, 0x80DC1CD1,
    0x29024E08, 0x8A67CC74, 0x020BBEA6, 0x3B139B22, 0x514A0879, 0x8E3404DD,
    0xEF9519B3, 0xCD3A431B, 0x302B0A6D, 0xF25F1437, 0x4FE1356D, 0x6D51C245,
    0xE485B576, 0x625E7EC6, 0xF44C42E9, 0xA637ED6B, 0x0BFF5CB6, 0xF406B7ED,
    0xEE386BFB, 0x5A899FA5, 0xAE9F2411, 0x7C4B1FE6, 0x49286651, 0xECE45B3D,
    0xC2007CB8, 0xA163BF05, 0x98DA4836, 0x1C55D39A, 0x69163FA8, 0xFD24CF5F,
    0x83655D23, 0xDCA3AD96, 0x1C62F356, 0x208552BB, 0x9ED52907, 0x7096966D,
    0x670C354E, 0x4ABC9804, 0xF1746C08, 0xCA18217C, 0x32905E46, 0x2E36CE3B,
    0xE39E772C, 0x180E8603, 0x9B2783A2, 0xEC07A28F, 0xB5C55DF0, 0x6F4C52C9,
    0xDE2BCBF6, 0x95581718, 0x3995497C, 0xEA956AE5, 0x15D22618, 0x98FA0510,
    0x15728E5A, 0x8AACAA68, 0xFFFFFFFF, 0xFFFFFFFF]

/-- `value::P_GROUP16_VALUE`. -/
def pGroup16Value : Bytes := parseHex
  [0xFFFFFFFF, 0xFFFFFFFF, 0xC90FDAA2, 0x2168C234, 0xC4C6628B, 0x80DC1CD1,
    0x29024E08, 0x8A67CC74, 0x020BBEA6, 0x3B139B22, 0x514A0879, 0x8E3404DD,
    0xEF9519B3, 0xCD3A431B, 0x302B0A6D, 0xF25F1437, 0x4FE1356D, 0x6D51C245,
    0xE485B576, 0x625E7EC6, 0xF44C42E9, 0xA637ED6B, 0x0BFF5CB6, 0xF406B7ED,
    0xEE386BFB, 0x5A899FA5, 0xAE9F2411, 0x7C4B1FE6, 0x49286651, 0xECE45B3D,
    0xC2007CB8, 0xA163BF05, 0x98DA4836, 0x1C55D39A, 0x69163FA8, 0xFD24CF5F,
    0x83655D23, 0xDCA3AD96, 0x1C62F356, 0x208552BB, 0x9ED52907, 0x7096966D,
    0x670C354E, 0x4ABC9804, 0xF1746C08, 0xCA18217C, 0x32905E46, 0x2E36CE3B,
    0xE39E772C, 0x180E8603, 0x9B2783A2, 0xEC07A28F, 0xB5C55DF0, 0x6F4C52C9,
    0xDE2BCBF6, 0x95581718, 0x3995497C, 0xEA956AE5, 0x15D22618, 0x98FA0510,
    0x15728E5A, 0x8AAAC42D, 0xAD33170D, 0x04507A33, 0xA85521AB, 0xDF1CBA64,
    0xECFB8504, 0x58DBEF0A, 0x8AEA7157, 0x5D060C7D, 0xB3970F85, 0xA6E1E4C7,
    0xABF5AE8C, 0xDB0933D7, 0x1E8C94E0, 0x4A25619D, 0xCEE3D226, 0x1AD2EE6B,
    0xF12FFA06, 0xD98A0864, 0xD8760273, 0x3EC86A64, 0x521F2B18, 0x177B200C,
    0xBBE11757, 0x7A615D6C, 0x770988C0, 0xBAD946E2, 0x08E24FA0, 0x74E5AB31,
    0x43DB5BFC, 0xE0FD108E, 0x4B82D120, 0xA9210801, 0x1A723C12, 0xA787E6D7,
    0x88719A10, 0xBDBA5B26, 0x99C32718, 0x6AF4E23C, 0x1A946834, 0xB6150BDA,
    0x2583E9CA, 0x2AD44CE8, 0xDBBBC2DB, 0x04DE8EF9, 0x2E8EFC14, 0x1FBECAA6,
    0x287C5947, 0x4E6BC05D, 0x99B2964F, 0xA090C3A2, 0x233BA186, 0x515BE7ED,
    0x1F612970, 0xCEE2D7AF, 0xB81BDD76, 0x2170481C, 0xD0069127, 0xD5B05AA9,
    0x93B4EA98, 0x8D8FDDC1, 0x86FFB7DC, 0x90A6C08F, 0x4DF435C9, 0x34063199,
    0xFFFFFFFF, 0xFFFFFFFF]

/-- `value::P_GROUP18_VALUE`. -/
def pGroup18Value : Bytes := parseHex
  [0xFFFFFFFF, 0xFFFFFFFF, 0xC90FDAA2, 0x2168C234, 0xC4C6628B, 0x80DC1CD1,
    0x29024E08, 0x8A67CC74, 0x020BBEA6, 0x3B139B22, 0x514A0879, 0x8E3404DD,
    0xEF9519B3, 0xCD3A431B, 0x302B0A6D, 0xF25F1437, 0x4FE1356D, 0x6D51C245,
    0xE485B576, 0x625E7EC6, 0xF44C42E9, 0xA637ED6B, 0x0BFF5CB6, 0xF406B7ED,
    0xEE386BFB, 0x5A899FA5, 0xAE9F2411, 0x7C4B1FE6, 0x49286651, 0xECE45B3D,
    0xC2007CB8, 0xA163BF05, 0x98DA4836, 0x1C55D39A, 0x69163FA8, 0xFD24CF5F,
    0x83655D23, 0xDCA3AD96, 0x1C62F356, 0x208552BB, 0x9ED52907, 0x7096966D,
    0x670C354E, 0x4ABC9804, 0xF1746C08, 0xCA18217C, 0x32905E46, 0x2E36CE3B,
    0xE39E772C, 0x180E8603, 0x9B2783A2, 0xEC07A28F, 0xB5C55DF0, 0x6F4C52C9,
    0xDE2BCBF6, 0x95581718, 0x3995497C, 0xEA956AE5, 0x15D22618, 0x98FA0510,
    0x15728E5A, 0x8AAAC42D, 0xAD33170D, 0x04507A33, 0xA85521AB, 0xDF1CBA64,
    0xECFB8504, 0x58DBEF0A, 0x8AEA7157, 0x5D060C7D, 0xB3970F85, 0xA6E1E4C7,
    0xABF5AE8C, 0xDB0933D7, 0x1E8C94E0, 0x4A25619D, 0xCEE3D226, 0x1AD2EE6B,
    0xF12FFA06, 0xD98A0864, 0xD8760273, 0x3EC86A64, 0x521F2B18, 0x177B200C,
    0xBBE11757, 0x7A615D6C, 0x770988C0, 0xBAD946E2, 0x08E24FA0, 0x74E5AB31,
    0x43DB5BFC, 0xE0FD108E, 0x4B82D120, 0xA9210801, 0x1A723C12, 0xA787E6D7,
    0x88719A10, 0xBDBA5B26, 0x99C32718, 0x6AF4E23C, 0x1A946834, 0xB6150BDA,
    0x2583E9CA, 0x2AD44CE8, 0xDBBBC2DB, 0x04DE8EF9, 0x2E8EFC14, 0x1FBECAA6,
    0x287C5947, 0x4E6BC05D, 0x99B2964F, 0xA090C3A2, 0x233BA186, 0x515BE7ED,
    0x1F612970, 0xCEE2D7AF, 0xB81BDD76, 0x2170481C, 0xD0069127, 0xD5B05AA9,
    0x93B4EA98, 0x8D8FDDC1, 0x86FFB7DC, 0x90A6C08F, 0x4DF435C9, 0x34028492,
    0x36C3FAB4, 0xD27C7026, 0xC1D4DCB2, 0x602646DE, 0xC9751E76, 0x3DBA37BD,
    0xF8FF9406, 0xAD9E530E, 0xE5DB382F, 0x413001AE, 0xB06A53ED, 0x9027D831,
    0x179727B0, 0x865A8918, 0xDA3EDBEB, 0xCF9B14ED, 0x44CE6CBA, 0xCED4BB1B,
    0xDB7F1447, 0xE6CC254B, 0x33205151, 0x2BD7AF42, 0x6FB8F401, 0x378CD2BF,
    0x5983CA01, 0xC64B92EC, 0xF032EA15, 0xD1721D03, 0xF482D7CE, 0x6E74FEF6,
    0xD55E702F, 0x46980C82, 0xB5A84031, 0x900B1C9E, 0x59E7C97F, 0xBEC7E8F3,
    0x23A97A7E, 0x36CC88BE, 0x0F1D45B7, 0xFF585AC5, 0x4BD407B2, 0x2B4154AA,
    0xCC8F6D7E, 0xBF48E1D8, 0x14CC5ED2, 0x0F8037E0, 0xA79715EE, 0xF29BE328,
    0x06A1D58B, 0xB7C5DA76, 0xF550AA3D, 0x8A1FBFF0, 0xEB19CCB1, 0xA313D55C,
    0xDA56C9EC, 0x2EF29632, 0x387FE8D7, 0x6E3C0468, 0x043E8F66, 0x3F4860EE,
    0x12BF2D5B, 0x0B7474D6, 0xE694F91E, 0x6DBE1159, 0x74A3926F, 0x12FEE5E4,
    0x38777CB6, 0xA932DF8C, 0xD8BEC4D0, 0x73B931BA, 0x3BC832B6, 0x8D9DD300,
    0x741FA7BF, 0x8AFC47ED, 0x2576F693, 0x6BA42466, 0x3AAB639C, 0x5AE4F568,
    0x3423B474, 0x2BF1C978, 0x238F16CB, 0xE39D652D, 0xE3FDB8BE, 0xFC848AD9,
    0x22222E04, 0xA4037C07, 0x13EB57A8, 0x1A23F0C7, 0x3473FC64, 0x6CEA306B,
    0x4BCBC886, 0x2F8385DD, 0xFA9D4B7F, 0xA2C087E8, 0x79683303, 0xED5BDD3A,
    0x062B3CF5, 0xB3A278A6, 0x6D2A13F8, 0x3F44F82D, 0xDF310EE0, 0x74AB6A36,
    0x4597E899, 0xA0255DC1, 0x64F31CC5, 0x0846851D, 0xF9AB4819, 0x5DED7EA1,
    0xB1D510BD, 0x7EE74D73, 0xFAF36BC3, 0x1ECFA268, 0x359046F4, 0xEB879F92,
    0x4009438B, 0x481C6CD7, 0x889A002E, 0xD5EE382B, 0xC9190DA6, 0xFC026E47,
    0x9558E447, 0x5677E9AA, 0x9E3050E2, 0x765694DF, 0xC81F56E8, 0x80B96E71,
    0x60C980DD, 0x98EDD3DF, 0xFFFFFFFF, 0xFFFFFFFF]

/-- `value::G_VALUE`. -/
def gValue : UInt32 := 2

/-- `StandardDiffieHellmanImpl`. -/
structure StandardDiffieHellmanImpl where
  name : Text
  p : Bytes
  g : UInt32
  hasher : Digest
  key : Option DhKey
deriving DecidableEq, Repr

namespace StandardDiffieHellmanImpl

/-- `StandardDiffieHellmanImpl::new`. -/
def new (name : Text) (p : Bytes) (g : UInt32) (hasher : Digest) : StandardDiffieHellmanImpl where
  name
  p
  g
  hasher
  key := none

def dhGroup1Sha1 : StandardDiffieHellmanImpl :=
  new (ascii "diffie-hellman-group1-sha1") pGroup1Value gValue .sha1

def dhGroup14Sha1 : StandardDiffieHellmanImpl :=
  new (ascii "diffie-hellman-group14-sha1") pGroup14Value gValue .sha1

def dhGroup14Sha256 : StandardDiffieHellmanImpl :=
  new (ascii "diffie-hellman-group14-sha256") pGroup14Value gValue .sha256

def dhGroup16Sha512 : StandardDiffieHellmanImpl :=
  new (ascii "diffie-hellman-group16-sha512") pGroup16Value gValue .sha512

def dhGroup18Sha512 : StandardDiffieHellmanImpl :=
  new (ascii "diffie-hellman-group18-sha512") pGroup18Value gValue .sha512

/-- `KeyExchange::generate_key`. -/
def generateKey (self : StandardDiffieHellmanImpl) (o : DhCalls) (seed : ℕ) :
    Except Error (Bytes × StandardDiffieHellmanImpl) := do
  let key ← o.generateKey seed (value self.p) self.g.toNat
  return (toInteger key.publicKey, { self with key := some key })

/-- `KeyExchange::compute_secret_key`. -/
def computeSecretKey (self : StandardDiffieHellmanImpl) (o : DhCalls) (serverPublicKey : Bytes) :
    Except Error Bytes := do
  let key ← initialized "Generate key first" self.key
  return toInteger (← o.modExp (value serverPublicKey) key.privateKey (value self.p))

end StandardDiffieHellmanImpl

/-! ## Both methods -/

/-- The finite-field methods among the registered key exchanges. -/
inductive FiniteField where
  | exchange (self : ExchangeDiffieHellmanImpl)
  | standard (self : StandardDiffieHellmanImpl)
deriving DecidableEq, Repr

namespace FiniteField

/-- Their part of the registry, `new_kex_by_name`. -/
def all : List (Text × FiniteField) :=
  [(ascii "diffie-hellman-group14-sha256", standard .dhGroup14Sha256),
    (ascii "diffie-hellman-group16-sha512", standard .dhGroup16Sha512),
    (ascii "diffie-hellman-group14-sha1", standard .dhGroup14Sha1),
    (ascii "diffie-hellman-group18-sha512", standard .dhGroup18Sha512),
    (ascii "diffie-hellman-group-exchange-sha256", exchange .sha256),
    (ascii "diffie-hellman-group-exchange-sha1", exchange .sha1),
    (ascii "diffie-hellman-group1-sha1", standard .dhGroup1Sha1)]

/-- `KeyExchange::compute_secret_key`. -/
def computeSecretKey (o : DhCalls) (serverPublicKey : Bytes) : FiniteField → Except Error Bytes
  | exchange self => self.computeSecretKey o serverPublicKey
  | standard self => self.computeSecretKey o serverPublicKey

/-- The prime and the secret exponent in use, once there is a key. -/
def group : FiniteField → Option (ℕ × ℕ)
  | exchange self => self.key.map fun key => (key.primeP, key.privateKey)
  | standard self => self.key.map fun key => (value self.p, key.privateKey)

/-- The states that the methods lead to from the registry; `compute_secret_key` changes none. -/
inductive Reachable (o : DhCalls) : FiniteField → Prop
  | newByName {name : Text} {m : FiniteField} (hnew : (name, m) ∈ all) : Reachable o m
  | setRecommendedNumberOfBits {self : ExchangeDiffieHellmanImpl}
      (h : Reachable o (exchange self)) (bits : UInt32) :
      Reachable o (exchange (self.setRecommendedNumberOfBits bits))
  | loaded {self self' : ExchangeDiffieHellmanImpl} (h : Reachable o (exchange self))
      {seed : ℕ} {p g : Bytes} (hrun : self.initializeGroup o seed p g = .ok self') :
      Reachable o (exchange self')
  | generated {self self' : StandardDiffieHellmanImpl} (h : Reachable o (standard self))
      {seed : ℕ} {publicKey : Bytes} (hrun : self.generateKey o seed = .ok (publicKey, self')) :
      Reachable o (standard self')

/-- A method accepts the server's public value only from the allowed range, and what it returns
then is the `mpint` of the power, which is not zero. -/
def RangeChecked (o : DhCalls) (m : FiniteField) (serverPublicKey : Bytes) : Prop :=
  ∀ secret, m.computeSecretKey o serverPublicKey = .ok secret →
    ∃ p x, m.group = some (p, x) ∧
      1 ≤ value serverPublicKey ∧ value serverPublicKey ≤ p - 1 ∧
      secret = mpint (value serverPublicKey ^ x % p) ∧ value secret ≠ 0

/-- A method's group is large enough. -/
def IsLarge : FiniteField → Prop
  | exchange self => 2 < self.min.toNat ∧ ∀ key, self.key = some key → 2 < key.primeP
  | standard self => 2 < value self.p

theorem isLarge_all : ∀ entry ∈ all, entry.2.IsLarge := by
  have hstandard : ∀ p ∈ [pGroup1Value, pGroup14Value, pGroup16Value, pGroup18Value],
      2 < value p := by
    decide +kernel
  have hexchange : ∀ entry ∈ [ExchangeDiffieHellmanImpl.sha1, ExchangeDiffieHellmanImpl.sha256],
      2 < entry.min.toNat ∧ entry.key = none := by
    decide
  simp only [List.forall_mem_cons, List.not_mem_nil, false_implies, implies_true, and_true] at *
  obtain ⟨h₁, h₁₄, h₁₆, h₁₈⟩ := hstandard
  obtain ⟨⟨hmin, hnone⟩, hmin', hnone'⟩ := hexchange
  simp only [all, List.forall_mem_cons, List.not_mem_nil, false_implies, implies_true, and_true]
  refine ⟨h₁₄, h₁₆, h₁₄, h₁₈, ⟨hmin', ?_⟩, ⟨hmin, ?_⟩, h₁⟩
  · intro key hkey
    rw [hnone'] at hkey
    cases hkey
  · intro key hkey
    rw [hnone] at hkey
    cases hkey

theorem Reachable.isLarge {o : DhCalls} (ho : o.Correct) {m : FiniteField} (hm : Reachable o m) :
    m.IsLarge := by
  induction hm with
  | newByName hnew => exact isLarge_all _ hnew
  | setRecommendedNumberOfBits h bits ih =>
    unfold ExchangeDiffieHellmanImpl.setRecommendedNumberOfBits
    split
    · exact ih
    · exact ih
  | @loaded self self' h seed p g hrun ih =>
    simp only [ExchangeDiffieHellmanImpl.initializeGroup] at hrun
    by_cases hbits : (value p).size < self.min.toNat ∨ (value p).size > self.max.toNat
    · rw [if_pos hbits] at hrun
      cases hrun
    · rw [if_neg hbits] at hrun
      cases hkey : o.generateKey seed (value p) (value g) with
      | error e =>
        rw [hkey] at hrun
        cases hrun
      | ok key =>
        rw [hkey] at hrun
        cases hrun
        refine ⟨ih.1, ?_⟩
        rintro _ ⟨⟩
        have hmin := ih.1
        have hsize : 2 ^ 2 ≤ value p := Nat.lt_size.mp (by omega)
        rw [ho.primeP_eq hkey]
        omega
  | @generated self self' h seed publicKey hrun ih =>
    unfold StandardDiffieHellmanImpl.generateKey at hrun
    cases hkey : o.generateKey seed (value self.p) self.g.toNat with
    | error e =>
      rw [hkey] at hrun
      cases hrun
    | ok key =>
      rw [hkey] at hrun
      cases hrun
      exact ih

/-- The prime of a group in use is odd. -/
theorem Reachable.odd {o : DhCalls} (ho : o.Correct) {m : FiniteField} (hm : Reachable o m)
    {p x : ℕ} (hgroup : m.group = some (p, x)) (hprime : p.Prime) : Odd p := by
  apply hprime.odd_of_ne_two
  rintro rfl
  have hlarge := hm.isLarge ho
  cases m with
  | exchange self =>
    obtain ⟨key, hkey, hpair⟩ := Option.map_eq_some_iff.mp hgroup
    have hvalue : 2 < key.primeP := hlarge.2 key hkey
    simp only [Prod.mk.injEq] at hpair
    omega
  | standard self =>
    obtain ⟨key, hkey, hpair⟩ := Option.map_eq_some_iff.mp hgroup
    have hvalue : 2 < value self.p := hlarge
    simp only [Prod.mk.injEq] at hpair
    omega

/-- With a key the secret is the power, whatever the server's value is. -/
theorem computeSecretKey_eq {o : DhCalls} (ho : o.Correct) {m : FiniteField} {p x : ℕ}
    (hgroup : m.group = some (p, x)) (hodd : Odd p) (f : Bytes) :
    m.computeSecretKey o f = .ok (toInteger (value f ^ x % p)) := by
  cases m with
  | exchange self =>
    obtain ⟨key, hkey, hpair⟩ := Option.map_eq_some_iff.mp hgroup
    cases hpair
    simp only [computeSecretKey, ExchangeDiffieHellmanImpl.computeSecretKey, hkey]
    change (do return toInteger (← o.modExp (value f) _ _)) = _
    rw [ho.modExp_eq _ _ hodd]
    rfl
  | standard self =>
    obtain ⟨key, hkey, hpair⟩ := Option.map_eq_some_iff.mp hgroup
    cases hpair
    simp only [computeSecretKey, StandardDiffieHellmanImpl.computeSecretKey, hkey]
    change (do return toInteger (← o.modExp (value f) _ _)) = _
    rw [ho.modExp_eq _ _ hodd]
    rfl

theorem computeSecretKey_of_none {m : FiniteField} (hgroup : m.group = none) (o : DhCalls)
    (f : Bytes) : ∃ e, m.computeSecretKey o f = .error e := by
  cases m with
  | exchange self =>
    have hkey : self.key = none := Option.map_eq_none_iff.mp hgroup
    simp only [computeSecretKey, ExchangeDiffieHellmanImpl.computeSecretKey, hkey]
    exact ⟨_, rfl⟩
  | standard self =>
    have hkey : self.key = none := Option.map_eq_none_iff.mp hgroup
    simp only [computeSecretKey, StandardDiffieHellmanImpl.computeSecretKey, hkey]
    exact ⟨_, rfl⟩

/-- In every state that the methods lead to, with whatever prime, the server's value is range
checked exactly when there is no key yet or the value is in range anyway. -/
theorem rangeChecked_iff {o : DhCalls} (ho : o.Correct) {m : FiniteField} (hm : Reachable o m)
    (hprime : ∀ p x, m.group = some (p, x) → p.Prime) (f : Bytes) :
    RangeChecked o m f ↔
      ∀ p x, m.group = some (p, x) → 1 ≤ value f ∧ value f ≤ p - 1 := by
  cases hgroup : m.group with
  | none =>
    obtain ⟨e, herror⟩ := computeSecretKey_of_none hgroup o f
    refine iff_of_true (fun secret hok => ?_) (by simp)
    rw [herror] at hok
    cases hok
  | some group =>
    obtain ⟨p, x⟩ := group
    have hp := hprime p x hgroup
    have hok := computeSecretKey_eq ho hgroup (hm.odd ho hgroup hp) f
    constructor
    · rintro hchecked p' x' ⟨⟩
      obtain ⟨p', x', hgroup', hpos, hle, -⟩ := hchecked _ hok
      rw [hgroup] at hgroup'
      cases hgroup'
      exact ⟨hpos, hle⟩
    · intro hrange secret hsecret
      rw [hok] at hsecret
      cases hsecret
      obtain ⟨hpos, hle⟩ := hrange p x rfl
      have hlt : value f < p := by
        have := hp.one_lt
        omega
      have hne := pow_mod_ne_zero hp hpos hlt x
      exact ⟨p, x, hgroup, hpos, hle, toInteger_eq_mpint hne, by rwa [value_toInteger]⟩

end FiniteField

/-! ## A group exchange -/

/-- OpenSSL with the secret exponent given by the randomness. -/
def DhCalls.computing : DhCalls where
  generateKey seed p g := .ok
    { primeP := p, generator := g, privateKey := seed, publicKey := powMod p seed.size g seed }
  modExp a exponent modulus := .ok (powMod modulus exponent.size a exponent)

theorem DhCalls.computing_correct : DhCalls.computing.Correct where
  primeP_eq := by
    rintro seed p g key ⟨⟩
    rfl
  modExp_eq a exponent modulus _ :=
    congrArg Except.ok (powMod_eq modulus (Nat.lt_size_self exponent) a)

/-- A prime that a server may choose, of 2210 bits. -/
def chosenPrime : ℕ := 3 * 2 ^ (2207 + 1) + 1

theorem prime_chosenPrime : chosenPrime.Prime :=
  prime_of_powMod chosenPrime.eq_1 11 2210 (by decide +kernel) (by decide +kernel)
    (by decide +kernel) (by decide +kernel)

/-- A group exchange over that prime, with generator 11 and the secret exponent 5. -/
def chosenExchange : ExchangeDiffieHellmanImpl :=
  { ExchangeDiffieHellmanImpl.sha256 with
    key := some
      { primeP := chosenPrime, generator := 11, privateKey := 5, publicKey := 161051 } }

theorem reachable_chosenExchange :
    FiniteField.Reachable .computing (.exchange chosenExchange) := by
  have hnew : (ascii "diffie-hellman-group-exchange-sha256", .exchange .sha256) ∈
      FiniteField.all := by
    simp [FiniteField.all]
  have hrun : ExchangeDiffieHellmanImpl.sha256.initializeGroup .computing 5 (octets chosenPrime)
      [11] = .ok chosenExchange := by
    decide +kernel
  exact (FiniteField.Reachable.newByName hnew).loaded hrun

/-- The value 2 passes the group exchange and gives the secret 32. -/
theorem rangeChecked_chosenExchange :
    FiniteField.RangeChecked .computing (.exchange chosenExchange) [2] :=
  (FiniteField.rangeChecked_iff DhCalls.computing_correct reachable_chosenExchange
    (by rintro p x ⟨⟩; exact prime_chosenPrime) [2]).mpr
    (by rintro p x ⟨⟩; decide +kernel)

/-- The value zero passes too, and gives a secret that everybody knows. -/
theorem zero_passes :
    ¬ FiniteField.RangeChecked .computing (.exchange chosenExchange) [0] := by
  intro hchecked
  obtain ⟨p, x, -, hpos, -⟩ := hchecked [0, 0, 0, 0] (by decide +kernel)
  exact absurd hpos (by decide)

end Flatline
