import Flatline.Wire.Buffer
import Flatline.Wire.Protocol

/-!
# Algorithms and client configuration

The trait objects of `src/cipher` are records of functions here: what the handshake asks of an
algorithm is a field, and how the algorithm computes it is left open. `Config` is the client's
ordered choice of algorithms.

Source: `src/session/handshake.rs`, `src/cipher/kex.rs`, `src/cipher/signature.rs`.
-/

namespace Flatline

/-! ## Algorithm interfaces -/

/-- Message numbers that RFC 4253 reserves for key-exchange methods. -/
def isKexMethodCode (code : UInt8) : Prop :=
  30 ≤ code ∧ code ≤ 49

instance (code : UInt8) : Decidable (isKexMethodCode code) :=
  inferInstanceAs (Decidable (_ ∧ _))

/-- `kex::Exchange`: the group sub-negotiation of `diffie-hellman-group-exchange-*`. -/
structure Exchange where
  min : UInt32
  max : UInt32
  numberOfBits : UInt32
  requestCode : UInt8
  responseCode : UInt8
  /-- Whether the group `p`, `g` is accepted. -/
  initializeGroup : (p g : Bytes) → Except Error Unit
  requestCode_kex : isKexMethodCode requestCode
  responseCode_kex : isKexMethodCode responseCode

/-- `set_recommended_number_of_bits`: values outside `min..=max` are ignored. -/
def Exchange.setRecommendedNumberOfBits (exchange : Exchange) (bits : UInt32) : Exchange :=
  if bits ≥ exchange.min ∧ bits ≤ exchange.max then { exchange with numberOfBits := bits }
  else exchange

/-- `kex::Information`: the values hashed into the exchange hash. -/
structure Information where
  clientVersion : Text
  serverVersion : Text
  clientKexInit : Bytes
  serverKexInit : Bytes
  serverHostKey : Bytes
  clientPublicKey : Bytes
  serverPublicKey : Bytes
  secretKey : Bytes
deriving DecidableEq, Repr

/-- `kex::KeyExchange`. The client's ephemeral key depends on the group a group exchange has
loaded and on randomness, `seed`. -/
structure KeyExchange where
  name : Text
  requestCode : UInt8
  responseCode : UInt8
  exchange : Option Exchange
  generateKey : (group : Option (Bytes × Bytes)) → (seed : ℕ) → Except Error Bytes
  computeSecretKey : (group : Option (Bytes × Bytes)) → (seed : ℕ) → (serverPublicKey : Bytes) →
    Except Error Bytes
  computeHash : Information → Except Error Bytes
  computeCommunicateKey : (secretKey sessionId hash : Bytes) → (version : UInt8) → (len : ℕ) →
    Except Error Bytes
  requestCode_kex : isKexMethodCode requestCode
  responseCode_kex : isKexMethodCode responseCode

/-- `signature::Verify`: host-key verification. -/
structure Verify where
  name : Text
  initializeKey : (key : Bytes) → Except Error Unit
  verify : (key signature data : Bytes) → Except Error Bool

/-- What key exchange asks of `crypt::Encrypt` and `crypt::Decrypt`. -/
structure Cipher where
  name : Text
  ivLen : ℕ
  keyLen : ℕ
  blockSize : ℕ
  initializeKey : (iv key : Bytes) → Except Error Unit

/-- What key exchange asks of `mac::Mac`. -/
structure Mac where
  name : Text
  keyLen : ℕ
  initializeKey : (key : Bytes) → Except Error Unit

/-- What key exchange asks of `compress::Encode` and `compress::Decode`. -/
structure Compression where
  name : Text

/-- `signature::Signature`: the client's own signatures. -/
structure Signature where
  name : Text
  initializeKey : (key : Bytes) → Except Error Unit
  signature : (key data : Bytes) → Except Error Bytes

/-! ## Configuration -/

/-- `IndexMap<String, T>`: entries in insertion order, no key twice. -/
structure IndexMap (α : Type) where
  entries : List (Text × α)
  nodup : (entries.map Prod.fst).Nodup

/-- `IndexMap::keys`. -/
def IndexMap.keys {α : Type} (map : IndexMap α) : List Text :=
  map.entries.map Prod.fst

/-- `IndexMap::get`. -/
def IndexMap.get {α : Type} (map : IndexMap α) (key : Text) : Option α :=
  map.entries.lookup key

/-- `handshake::Config`. -/
structure Config where
  kex : IndexMap KeyExchange
  hostKey : IndexMap Verify
  signer : IndexMap Signature
  cryptClientToServer : IndexMap Cipher
  cryptServerToClient : IndexMap Cipher
  macClientToServer : IndexMap Mac
  macServerToClient : IndexMap Mac
  compressClientToServer : IndexMap Compression
  compressServerToClient : IndexMap Compression
  keyStrict : Bool
  ext : Bool
  disableCompat : Bool

/-! ## Server quirks -/

/-- `handshake::CompatOptions`. -/
structure CompatOptions where
  unsupportedRekey : Bool
  curve25519Pad : Bool
  specifyServerSignAlgorithm : Bool
  oldSessionId : Bool
  limitedDhEx : Bool
deriving DecidableEq, Repr

/-- `CompatOptions::parse`. -/
def CompatOptions.parse (versionSuffix : Text) : CompatOptions where
  unsupportedRekey := (ascii "Sun_SSH_1.0").isPrefixOf versionSuffix
  curve25519Pad := (ascii "OpenSSH_6.5").isPrefixOf versionSuffix ||
    (ascii "OpenSSH_6.6").isPrefixOf versionSuffix
  specifyServerSignAlgorithm := (ascii "OpenSSH_7.4").isPrefixOf versionSuffix
  oldSessionId := (ascii "3.0 SecureCRT").isPrefixOf versionSuffix ||
    (ascii "1.7 SecureFX").isPrefixOf versionSuffix
  limitedDhEx := (ascii "Cisco-1.").isPrefixOf versionSuffix

/-! ## Matched methods -/

/-- The eight negotiated slots. -/
inductive Slot where
  | kex
  | hostKey
  | cryptClientToServer
  | cryptServerToClient
  | macClientToServer
  | macServerToClient
  | compressClientToServer
  | compressServerToClient
deriving DecidableEq, Repr

/-- `handshake::MatchedMethods`: one algorithm per negotiated slot. `names` records under which
name of the configuration each was found; the source keeps the instances only. -/
structure MatchedMethods where
  names : Slot → Text
  kex : KeyExchange
  hostKey : Verify
  cryptClientToServer : Cipher
  cryptServerToClient : Cipher
  macClientToServer : Mac
  macServerToClient : Mac
  compressClientToServer : Compression
  compressServerToClient : Compression

/-- The key material `MatchedMethods::initialize` loads into ciphers and MACs. -/
structure Keys where
  localIv : Bytes
  localKey : Bytes
  remoteIv : Bytes
  remoteKey : Bytes
  localMacKey : Bytes
  remoteMacKey : Bytes
deriving DecidableEq, Repr

/-- `MatchedMethods::initialize`. The labels are the octets of `A` to `F`. -/
def MatchedMethods.initializeKeys (matched : MatchedMethods) (hash sessionId secretKey : Bytes) :
    Except Error Keys := do
  let compute := matched.kex.computeCommunicateKey secretKey sessionId hash
  let localIv ← compute 0x41 matched.cryptClientToServer.ivLen
  let localKey ← compute 0x43 matched.cryptClientToServer.keyLen
  matched.cryptClientToServer.initializeKey localIv localKey
  let remoteIv ← compute 0x42 matched.cryptServerToClient.ivLen
  let remoteKey ← compute 0x44 matched.cryptServerToClient.keyLen
  matched.cryptServerToClient.initializeKey remoteIv remoteKey
  let localMacKey ← compute 0x45 matched.macClientToServer.keyLen
  let remoteMacKey ← compute 0x46 matched.macServerToClient.keyLen
  matched.macClientToServer.initializeKey localMacKey
  matched.macServerToClient.initializeKey remoteMacKey
  return { localIv, localKey, remoteIv, remoteKey, localMacKey, remoteMacKey }

/-- `need` of `key_exchange`: the largest key, block or IV the negotiated algorithms use. -/
def MatchedMethods.need (matched : MatchedMethods) : ℕ :=
  matched.cryptClientToServer.keyLen
    |> max matched.cryptClientToServer.blockSize
    |> max matched.cryptClientToServer.ivLen
    |> max matched.macClientToServer.keyLen
    |> max matched.cryptServerToClient.keyLen
    |> max matched.cryptServerToClient.blockSize
    |> max matched.cryptServerToClient.ivLen
    |> max matched.macServerToClient.keyLen

/-- The group size `key_exchange` recommends for a group exchange. -/
def MatchedMethods.groupBits (matched : MatchedMethods) (config : Config)
    (compat : CompatOptions) : UInt32 :=
  let need := matched.need * 8
  let bits : UInt32 :=
    if need ≤ 112 then 2048
    else if need ≤ 128 then 3072
    else if need ≤ 192 then 7680
    else 8192
  if !config.disableCompat && compat.limitedDhEx && bits > 4096 then 4096 else bits

/-! ## Accepting algorithms -/

/-- A key-exchange method that accepts whatever it reads; concrete runs use it. -/
def KeyExchange.accepting (name : Text) : KeyExchange where
  name
  requestCode := 30
  responseCode := 31
  exchange := none
  generateKey _ _ := .ok []
  computeSecretKey _ _ _ := .ok []
  computeHash _ := .ok []
  computeCommunicateKey _ _ _ _ _ := .ok []
  requestCode_kex := by decide
  responseCode_kex := by decide

/-- A host-key algorithm that accepts every signature. -/
def Verify.accepting (name : Text) : Verify where
  name
  initializeKey _ := .ok ()
  verify _ _ _ := .ok true

/-- A cipher that accepts every key. -/
def Cipher.accepting (name : Text) : Cipher where
  name
  ivLen := 16
  keyLen := 32
  blockSize := 16
  initializeKey _ _ := .ok ()

/-- A MAC that accepts every key. -/
def Mac.accepting (name : Text) : Mac where
  name
  keyLen := 32
  initializeKey _ := .ok ()

/-- The map with the one entry `value` under `name`. -/
def IndexMap.single {α : Type} (name : Text) (value : α) : IndexMap α where
  entries := [(name, value)]
  nodup := by simp

/-- A configuration with the key-exchange methods `kex` and one accepting algorithm in every other
slot. -/
def Config.accepting (kex : IndexMap KeyExchange) (keyStrict : Bool) : Config where
  kex
  hostKey := .single (ascii "ssh-ed25519") (.accepting (ascii "ssh-ed25519"))
  signer := { entries := [], nodup := List.nodup_nil }
  cryptClientToServer := .single (ascii "aes256-ctr") (Cipher.accepting (ascii "aes256-ctr"))
  cryptServerToClient := .single (ascii "aes256-ctr") (Cipher.accepting (ascii "aes256-ctr"))
  macClientToServer := .single (ascii "hmac-sha2-256") (Mac.accepting (ascii "hmac-sha2-256"))
  macServerToClient := .single (ascii "hmac-sha2-256") (Mac.accepting (ascii "hmac-sha2-256"))
  compressClientToServer := .single (ascii "none") { name := ascii "none" }
  compressServerToClient := .single (ascii "none") { name := ascii "none" }
  keyStrict
  ext := false
  disableCompat := false

end Flatline
