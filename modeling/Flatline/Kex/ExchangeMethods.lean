import Flatline.Cipher.DiffieHellman
import Flatline.Cipher.KeySchedule
import Flatline.Kex.Exchange

/-!
# The methods of the registry

What the handshake asks of a key-exchange method, as each registered method answers it. Keys are put
in use only after the server has signed the hash of what the client has seen; so a server that signs
its own exchanges only, and a digest without collisions, leave nobody between the two a choice.

Source: `src/cipher/kex.rs` (the implementations of `KeyExchange`), `src/session/handshake.rs`
(`MatchedMethods::initialize`).
-/

namespace Flatline

open BigEndian

/-! ## Methods -/

theorem isKexMethodCode_30 : isKexMethodCode 30 := by decide

theorem isKexMethodCode_31 : isKexMethodCode 31 := by decide

/-- The calls of the methods over curves and of ML-KEM. The secrets come from the randomness
`seed`. -/
structure CurveCalls where
  /-- `EcKey::generate` and the uncompressed form of its point. -/
  ecGenerate : Nid → (seed : ℕ) → Except Error Bytes
  /-- `EcPoint::from_bytes` and `Deriver::derive_to_vec`. -/
  ecDerive : Nid → (seed : ℕ) → (peer : Bytes) → Except Error Bytes
  /-- `PkeyCtx::keygen` and `raw_public_key`. -/
  x25519Generate : (seed : ℕ) → Except Error Bytes
  /-- `public_key_from_raw_bytes` and `PkeyCtx::derive`. -/
  x25519Derive : (seed : ℕ) → (peer : Bytes) → Except Error Bytes
  /-- `mlkem768::portable::generate_key_pair`: the public half. -/
  mlkemGenerate : (seed : ℕ) → Bytes
  /-- `mlkem768::portable::decapsulate`. -/
  mlkemDecapsulate : (seed : ℕ) → (ciphertext : Bytes) → Bytes

namespace KeyExchange

variable (o : MdCalls) (curves : CurveCalls) (dh : DhCalls)

/-- `compute_hash`, over the group that has been loaded for methods that load one. -/
def hashExchange (hasher : Digest) (group : Option GroupFields) (info : Information) :
    Except Error Bytes :=
  o.digest hasher (info.transcript group)

/-- `EllipticCurveDiffieHellmanImpl`. -/
def ellipticCurveDiffieHellman (name : Text) (nid : Nid) (hasher : Digest) : KeyExchange where
  name
  requestCode := 30
  responseCode := 31
  exchange := none
  generateKey _ seed := curves.ecGenerate nid seed
  computeSecretKey _ seed serverPublicKey := do
    return intoInteger (← curves.ecDerive nid seed serverPublicKey)
  computeHash := hashExchange o hasher none
  computeCommunicateKey := computeKeys o hasher
  requestCode_kex := isKexMethodCode_30
  responseCode_kex := isKexMethodCode_31

def ecdhSha2Nistp256 : KeyExchange :=
  ellipticCurveDiffieHellman o curves (ascii "ecdh-sha2-nistp256") .x962Prime256V1 .sha256

def ecdhSha2Nistp384 : KeyExchange :=
  ellipticCurveDiffieHellman o curves (ascii "ecdh-sha2-nistp384") .secp384R1 .sha384

def ecdhSha2Nistp521 : KeyExchange :=
  ellipticCurveDiffieHellman o curves (ascii "ecdh-sha2-nistp521") .secp521R1 .sha512

/-- `Curve25519Impl`. -/
def curve25519 (name : Text) (hasher : Digest) : KeyExchange where
  name
  requestCode := 30
  responseCode := 31
  exchange := none
  generateKey _ seed := curves.x25519Generate seed
  computeSecretKey _ seed serverPublicKey := do
    return intoInteger (← curves.x25519Derive seed serverPublicKey)
  computeHash := hashExchange o hasher none
  computeCommunicateKey := computeKeys o hasher
  requestCode_kex := isKexMethodCode_30
  responseCode_kex := isKexMethodCode_31

def curve25519Sha256 : KeyExchange :=
  curve25519 o curves (ascii "curve25519-sha256") .sha256

def curve25519Sha256Libssh : KeyExchange :=
  curve25519 o curves (ascii "curve25519-sha256@libssh.org") .sha256

/-- `MlKem768X25519`. -/
def mlKem768X25519 : KeyExchange where
  name := ascii "mlkem768x25519-sha256"
  requestCode := 30
  responseCode := 31
  exchange := none
  generateKey _ seed := do
    return curves.mlkemGenerate seed ++ (← curves.x25519Generate seed)
  computeSecretKey _ seed serverPublicKey :=
    if serverPublicKey.length ≠ 1088 + 32 then .error (.cipher .keyLengthMismatch) else do
      let secretKey1 := curves.mlkemDecapsulate seed (serverPublicKey.take 1088)
      let secretKey2 ← curves.x25519Derive seed (serverPublicKey.drop 1088)
      o.digest .sha256 (secretKey1 ++ secretKey2)
  computeHash := hashExchange o .sha256 none
  computeCommunicateKey := computeKeys o .sha256
  requestCode_kex := isKexMethodCode_30
  responseCode_kex := isKexMethodCode_31

/-- `StandardDiffieHellmanImpl`: the secret exponent is the one that `generate_key` draws. -/
def standardDiffieHellman (self : StandardDiffieHellmanImpl) : KeyExchange where
  name := self.name
  requestCode := 30
  responseCode := 31
  exchange := none
  generateKey _ seed := do
    return (← self.generateKey dh seed).1
  computeSecretKey _ seed serverPublicKey := do
    (← self.generateKey dh seed).2.computeSecretKey dh serverPublicKey
  computeHash := hashExchange o self.hasher none
  computeCommunicateKey := computeKeys o self.hasher
  requestCode_kex := isKexMethodCode_30
  responseCode_kex := isKexMethodCode_31

/-- The group sub-negotiation of `ExchangeDiffieHellmanImpl`; `seed` is the randomness of the key that
a group is loaded with. -/
def groupExchange (self : ExchangeDiffieHellmanImpl) (seed : ℕ) : Exchange where
  min := self.min
  max := self.max
  numberOfBits := self.numberOfBits
  requestCode := 34
  responseCode := 31
  initializeGroup p g := (self.initializeGroup dh seed p g).map fun _ => ()
  requestCode_kex := by decide
  responseCode_kex := isKexMethodCode_31

/-- `ExchangeDiffieHellmanImpl` with the server's group loaded under `key`. -/
def exchangeDiffieHellman (self : ExchangeDiffieHellmanImpl) (key : DhKey) (seed : ℕ) :
    KeyExchange where
  name := self.name
  requestCode := 32
  responseCode := 33
  exchange := some (groupExchange dh self seed)
  generateKey _ _ := .ok (toInteger key.publicKey)
  computeSecretKey _ _ serverPublicKey :=
    { self with key := some key : ExchangeDiffieHellmanImpl }.computeSecretKey dh serverPublicKey
  computeHash := hashExchange o self.hasher (some {
    min := self.min
    numberOfBits := self.numberOfBits
    max := self.max
    primeP := toInteger key.primeP
    generator := toInteger key.generator })
  computeCommunicateKey := computeKeys o self.hasher
  requestCode_kex := by decide
  responseCode_kex := by decide

/-- The methods of the registry, in its order, as they are when the server's reply comes. -/
inductive Registered : KeyExchange → Digest → Option GroupFields → Prop
  | mlKem768X25519 : Registered (mlKem768X25519 o curves) .sha256 none
  | curve25519Sha256Libssh : Registered (curve25519Sha256Libssh o curves) .sha256 none
  | curve25519Sha256 : Registered (curve25519Sha256 o curves) .sha256 none
  | ecdhSha2Nistp256 : Registered (ecdhSha2Nistp256 o curves) .sha256 none
  | ecdhSha2Nistp384 : Registered (ecdhSha2Nistp384 o curves) .sha384 none
  | ecdhSha2Nistp521 : Registered (ecdhSha2Nistp521 o curves) .sha512 none
  | standard {name : Text} {self : StandardDiffieHellmanImpl}
      (h : (name, .standard self) ∈ FiniteField.all) :
    Registered (standardDiffieHellman o dh self) self.hasher none
  | exchange {self : ExchangeDiffieHellmanImpl} {key : DhKey} {seed : ℕ}
      (h : FiniteField.Reachable dh (.exchange { self with key := some key })) :
    Registered (exchangeDiffieHellman o dh self key seed) self.hasher (some {
      min := self.min
      numberOfBits := self.numberOfBits
      max := self.max
      primeP := toInteger key.primeP
      generator := toInteger key.generator })

variable {o curves dh}

theorem Registered.computeHash_eq {kex : KeyExchange} {hasher : Digest}
    {group : Option GroupFields} (h : Registered o curves dh kex hasher group) (info : Information) :
    kex.computeHash info = o.digest hasher (info.transcript group) := by
  cases h <;> rfl

theorem Registered.computeCommunicateKey_eq {kex : KeyExchange} {hasher : Digest}
    {group : Option GroupFields} (h : Registered o curves dh kex hasher group) :
    kex.computeCommunicateKey = computeKeys o hasher := by
  cases h <;> rfl

end KeyExchange

/-! ## Keys of an exchange -/

/-- The keys that are put in use are those of RFC 4253, section 7.2, with the labels `A`, `C` and `E`
for what the client sends, and `B`, `D` and `F` for what it receives. -/
structure Keys.AreDerived (o : MdCalls) (hasher : Digest) (matched : MatchedMethods)
    (secretKey sessionId hash : Bytes) (keys : Keys) : Prop where
  localIv : IsDerived o hasher secretKey sessionId hash 0x41 matched.cryptClientToServer.ivLen
    keys.localIv
  localKey : IsDerived o hasher secretKey sessionId hash 0x43 matched.cryptClientToServer.keyLen
    keys.localKey
  remoteIv : IsDerived o hasher secretKey sessionId hash 0x42 matched.cryptServerToClient.ivLen
    keys.remoteIv
  remoteKey : IsDerived o hasher secretKey sessionId hash 0x44 matched.cryptServerToClient.keyLen
    keys.remoteKey
  localMacKey : IsDerived o hasher secretKey sessionId hash 0x45 matched.macClientToServer.keyLen
    keys.localMacKey
  remoteMacKey : IsDerived o hasher secretKey sessionId hash 0x46 matched.macServerToClient.keyLen
    keys.remoteMacKey

/-- What the client hashes when it reads the server's reply. -/
def ReplyContext.information (ctx : ReplyContext) (hostKey serverPublicKey secretKey : Bytes) :
    Information where
  clientVersion := ctx.clientVersion
  serverVersion := ctx.serverVersion
  clientKexInit := ctx.clientKexMsg
  serverKexInit := ctx.serverKexMsg
  serverHostKey := hostKey
  clientPublicKey := ctx.clientPublicKey
  serverPublicKey
  secretKey

theorem areDerived_of_initializeKeys {o : MdCalls} {hasher : Digest} {matched : MatchedMethods}
    {secretKey sessionId hash : Bytes} {keys : Keys}
    (hcompute : matched.kex.computeCommunicateKey = computeKeys o hasher)
    (h : matched.initializeKeys hash sessionId secretKey = .ok keys) :
    keys.AreDerived o hasher matched secretKey sessionId hash := by
  unfold MatchedMethods.initializeKeys at h
  rw [hcompute] at h
  obtain ⟨localIv, hlocalIv, h⟩ := Except.bind_eq_ok_iff.mp h
  obtain ⟨localKey, hlocalKey, h⟩ := Except.bind_eq_ok_iff.mp h
  obtain ⟨_, -, h⟩ := Except.bind_eq_ok_iff.mp h
  obtain ⟨remoteIv, hremoteIv, h⟩ := Except.bind_eq_ok_iff.mp h
  obtain ⟨remoteKey, hremoteKey, h⟩ := Except.bind_eq_ok_iff.mp h
  obtain ⟨_, -, h⟩ := Except.bind_eq_ok_iff.mp h
  obtain ⟨localMacKey, hlocalMacKey, h⟩ := Except.bind_eq_ok_iff.mp h
  obtain ⟨remoteMacKey, hremoteMacKey, h⟩ := Except.bind_eq_ok_iff.mp h
  obtain ⟨_, -, h⟩ := Except.bind_eq_ok_iff.mp h
  obtain ⟨_, -, h⟩ := Except.bind_eq_ok_iff.mp h
  injection h with h
  subst h
  exact ⟨isDerived_of_computeKeys hlocalIv, isDerived_of_computeKeys hlocalKey,
    isDerived_of_computeKeys hremoteIv, isDerived_of_computeKeys hremoteKey,
    isDerived_of_computeKeys hlocalMacKey, isDerived_of_computeKeys hremoteMacKey⟩

/-- An exchange that the client has accepted: the server has signed the hash of what the client has
seen, the user trusts its key, and the keys come from that hash and the shared secret. -/
structure Accepted (o : MdCalls) (hasher : Digest) (group : Option GroupFields)
    (matched : MatchedMethods) (ctx : ReplyContext) (hostKey serverPublicKey signature : Bytes)
    (secretKey hash : Bytes) (keys : Keys) : Prop where
  secret : matched.kex.computeSecretKey ctx.group ctx.seed serverPublicKey = .ok secretKey
  hashed : o.digest hasher
    ((ctx.information hostKey serverPublicKey secretKey).transcript group) = .ok hash
  verified : matched.hostKey.verify hostKey signature hash = .ok true
  trusted : ctx.verifyServerHostKey matched.hostKey.name hostKey = true
  derived : keys.AreDerived o hasher matched (Field.one secretKey).put (ctx.sessionId.getD hash)
    hash

/-- New keys come from an accepted exchange only. -/
theorem accepted_of_readReply {o : MdCalls} {curves : CurveCalls} {dh : DhCalls} {hasher : Digest}
    {group : Option GroupFields} {matched : MatchedMethods} {ctx : ReplyContext}
    {payload hash : Bytes} {keys : Keys}
    (hkex : KeyExchange.Registered o curves dh matched.kex hasher group)
    (h : matched.readReply ctx payload = .ok (hash, keys)) :
    ∃ hostKey serverPublicKey signature secretKey,
      Consumer.run' consumeReply payload = .ok (hostKey, serverPublicKey, signature) ∧
      Accepted o hasher group matched ctx hostKey serverPublicKey signature secretKey hash keys := by
  unfold MatchedMethods.readReply at h
  obtain ⟨⟨hostKey, serverPublicKey, signature⟩, hread, h⟩ := Except.bind_eq_ok_iff.mp h
  obtain ⟨secretKey, hsecret, h⟩ := Except.bind_eq_ok_iff.mp h
  obtain ⟨hash', hhash, h⟩ := Except.bind_eq_ok_iff.mp h
  obtain ⟨_, -, h⟩ := Except.bind_eq_ok_iff.mp h
  obtain ⟨verified, hverify, h⟩ := Except.bind_eq_ok_iff.mp h
  rw [Except.ite_error_eq_ok_iff] at h
  obtain ⟨hverified, h⟩ := h
  rw [Except.ite_error_eq_ok_iff] at h
  obtain ⟨htrusted, h⟩ := h
  obtain ⟨keys', hkeys, h⟩ := Except.bind_eq_ok_iff.mp h
  injection h with h
  injection h with hhash' hkeys'
  subst hhash' hkeys'
  rw [hkex.computeHash_eq] at hhash
  have hverified : verified = true := by simpa using hverified
  rw [hverified] at hverify
  exact ⟨hostKey, serverPublicKey, signature, secretKey, hread, hsecret, hhash, hverify,
    by simpa using htrusted, areDerived_of_initializeKeys hkex.computeCommunicateKey_eq hkeys⟩

/-! ## Agreement -/

/-- What the client relies on: the holder of a trusted key has signed the hash of an exchange that
it took part in, and none of the texts hashed by the two sides collide. -/
structure Authentic (o : MdCalls) (hasher : Digest) (matched : MatchedMethods) (ctx : ReplyContext)
    (tookPart : Information → Option GroupFields → Prop) (texts : Bytes → Prop) : Prop where
  signed {hostKey signature hash : Bytes}
    (h : matched.hostKey.verify hostKey signature hash = .ok true)
    (htrusted : ctx.verifyServerHostKey matched.hostKey.name hostKey = true) :
    ∃ info group, tookPart info group ∧ o.digest hasher (info.transcript group) = .ok hash
  fits {info : Information} {group : Option GroupFields} (h : tookPart info group) : info.Fits
  server {info : Information} {group : Option GroupFields} (h : tookPart info group) :
    texts (info.transcript group)
  collisionFree {text text' hash : Bytes} (h : texts text) (h' : texts text')
    (hhash : o.digest hasher text = .ok hash) (hhash' : o.digest hasher text' = .ok hash) :
    text = text'

/-- Whoever changes anything of an exchange between client and server ends it: the server took part
in an exchange with the versions, the `SSH_MSG_KEXINIT`s and the host key that the client has seen,
and if it hashed as many fields, with the same public values, secret and group. -/
theorem exchange_agreed {o : MdCalls} {curves : CurveCalls} {dh : DhCalls} {hasher : Digest}
    {group : Option GroupFields} {matched : MatchedMethods} {ctx : ReplyContext}
    {payload hash : Bytes} {keys : Keys} {tookPart : Information → Option GroupFields → Prop}
    {texts : Bytes → Prop} (hkex : KeyExchange.Registered o curves dh matched.kex hasher group)
    (hauthentic : Authentic o hasher matched ctx tookPart texts)
    (h : matched.readReply ctx payload = .ok (hash, keys))
    (hclient : ∀ hostKey serverPublicKey signature secretKey,
      Consumer.run' consumeReply payload = .ok (hostKey, serverPublicKey, signature) →
      Accepted o hasher group matched ctx hostKey serverPublicKey signature secretKey hash keys →
      (ctx.information hostKey serverPublicKey secretKey).Fits ∧
        texts ((ctx.information hostKey serverPublicKey secretKey).transcript group)) :
    ∃ hostKey serverPublicKey signature secretKey info group',
      Consumer.run' consumeReply payload = .ok (hostKey, serverPublicKey, signature) ∧
      Accepted o hasher group matched ctx hostKey serverPublicKey signature secretKey hash keys ∧
      tookPart info group' ∧ info.clientVersion = ctx.clientVersion ∧
      info.serverVersion = ctx.serverVersion ∧ info.clientKexInit = ctx.clientKexMsg ∧
      info.serverKexInit = ctx.serverKexMsg ∧ info.serverHostKey = hostKey ∧
      (GroupsFit group' group → group' = group ∧
        info = ctx.information hostKey serverPublicKey secretKey) := by
  obtain ⟨hostKey, serverPublicKey, signature, secretKey, hread, haccepted⟩ :=
    accepted_of_readReply hkex h
  obtain ⟨hfits, htext⟩ := hclient hostKey serverPublicKey signature secretKey hread haccepted
  obtain ⟨info, group', hpart, hhash⟩ := hauthentic.signed haccepted.verified haccepted.trusted
  have hsame := hauthentic.collisionFree (hauthentic.server hpart) htext hhash haccepted.hashed
  obtain ⟨hversion, hserver, hinit, hserverInit, hhostKey⟩ :=
    transcript_versions_inj (hauthentic.fits hpart) hfits hsame
  refine ⟨hostKey, serverPublicKey, signature, secretKey, info, group', hread, haccepted, hpart,
    hversion, hserver, hinit, hserverInit, hhostKey, fun hgroups => ?_⟩
  obtain ⟨hinfo, hgroup⟩ := transcript_inj (hauthentic.fits hpart) hfits hgroups hsame
  exact ⟨hgroup, hinfo⟩

/-! ## A recorded exchange -/

namespace Recorded

/-- The X25519 keys of the two sides and what both derive from them. -/
def clientSecret : ℕ := 0x0008621ec8e2cc2bed5c4647da538420ec2a94b40daec6a74208846873b75776

def clientPublic : Bytes :=
  fixed 32 0x103d94f3bf98ed091258b6fe1926a84fb57df067b0ab0e82d0dd3111a3613a28

def serverPublic : Bytes :=
  fixed 32 0x55a795f8af59ebd0fbcb386e447720314d751d5e6097eab1afbcc20f0270e075

def shared : Bytes :=
  fixed 32 0x03ef4c5b32213db57b4dcd3bbe3649dfa4f5eafaa1dd0acf8458625505064462

/-- The blob of the server's Ed25519 key. -/
def hostKey : Bytes := makeBufferWithoutHeader [.one (ascii "ssh-ed25519"),
  .one (fixed 32 0x1fd182aa6c9195b813c2d7df2ab4a02f6502e4f23f0dc7524f93be534766ef63)]

/-- The server's signature of the exchange hash. -/
def signature : Bytes := makeBufferWithoutHeader [.one (ascii "ssh-ed25519"),
  .one (fixed 64 0x2dbc76207eff4ee1ad35628e8f850336ec7e27fbd6380960f52af51d267700eac11aa1b637cbca05dca247a89a8d7a26f333a9fea3756ede65365b7f2d701703)]

/-- The exchange hash. -/
def hash : Bytes :=
  fixed 32 0x7d24784afdc3e50632284daf478dbe3600b358faf90f8d892fd86eae04d28b53

/-- The `SSH_MSG_KEXINIT` of either side. -/
def kexInit : Bytes :=
  NameLists.agreeableKexInit [ascii "curve25519-sha256"]

/-- What both sides hash. -/
def information : Information where
  clientVersion := ascii "SSH-2.0-flatline_0.1.2"
  serverVersion := ascii "SSH-2.0-OpenSSH_9.0"
  clientKexInit := kexInit
  serverKexInit := kexInit
  serverHostKey := hostKey
  clientPublicKey := clientPublic
  serverPublicKey := serverPublic
  secretKey := intoInteger shared

def transcript : Bytes :=
  information.transcript none

/-- The text behind the key with the label `version`. -/
def keyText (version : UInt8) : Bytes :=
  (Field.one (intoInteger shared)).put ++ hash ++ [version] ++ hash

/-- SHA-256 of the texts that are hashed. -/
def digests : List (Bytes × ℕ) :=
  [(transcript, 0x7d24784afdc3e50632284daf478dbe3600b358faf90f8d892fd86eae04d28b53),
    (keyText 0x41, 0xac20d9b0b71b89f0c2c551b2ef45ac7863d6c6fb52066737af83bb835922e40b),
    (keyText 0x42, 0x325eb1845700a6b7b2972495e4b44a8e65e81a0c3782de60024285cee4d815c3),
    (keyText 0x43, 0x862f20eab0d6d6c1c956c5b6e70f563cce36ceea851f6b8d415b44bab500f436),
    (keyText 0x44, 0x2e6849f863dc6a35cf5b4b5e0c0f3ed0ac20f152eca3505c20b9002215273a97),
    (keyText 0x45, 0xedb604ecff8f4d832b702e00431b90658e584fea6a7f754cd1d3ae5f800a3ae3),
    (keyText 0x46, 0x548b8b0f7a677ecf4051f5903f63455f6f3904401bc72fdf54eb76f0f0f181ff)]

end Recorded

/-- SHA-256 on the recorded texts. -/
def MdCalls.recorded : MdCalls where
  digest md data :=
    match md, Recorded.digests.lookup data with
    | .sha256, some digest => if digest < 256 ^ 32 then .ok (fixed 32 digest) else .error .openssl
    | _, _ => .error .openssl
  length_digest {md data out} h := by
    split at h
    · split at h
      · next hlt =>
        injection h with h
        rw [← h, length_fixed hlt]
        rfl
      · cases h
    · cases h

/-- X25519 on the recorded keys. -/
def CurveCalls.recorded : CurveCalls where
  ecGenerate _ _ := .error .openssl
  ecDerive _ _ _ := .error .openssl
  x25519Generate seed :=
    if seed = Recorded.clientSecret then .ok Recorded.clientPublic else .error .openssl
  x25519Derive seed peer :=
    if seed = Recorded.clientSecret ∧ peer = Recorded.serverPublic then .ok Recorded.shared
    else .error .openssl
  mlkemGenerate _ := []
  mlkemDecapsulate _ _ := []

/-- Groups whose keys are the randomness. -/
def DhCalls.seeds : DhCalls where
  generateKey seed p g := .ok { primeP := p, generator := g, privateKey := seed, publicKey := seed }
  modExp a exponent modulus := .ok (a ^ exponent % modulus)

/-- The first exchange of a client that trusts one key. -/
def ReplyContext.first : ReplyContext where
  clientVersion := Recorded.information.clientVersion
  serverVersion := Recorded.information.serverVersion
  clientKexMsg := Recorded.kexInit
  serverKexMsg := Recorded.kexInit
  group := none
  seed := Recorded.clientSecret
  clientPublicKey := Recorded.clientPublic
  sessionId := none
  verifyServerHostKey _ key := key == Recorded.hostKey

/-- `curve25519-sha256`, and a host key that has signed one hash. -/
def MatchedMethods.signedOnce : MatchedMethods where
  names _ := []
  kex := .curve25519Sha256 .recorded .recorded
  hostKey := {
    name := ascii "ssh-ed25519"
    initializeKey _ := .ok ()
    verify key signature hash :=
      .ok (key == Recorded.hostKey && signature == Recorded.signature && hash == Recorded.hash) }
  cryptClientToServer := .accepting (ascii "aes256-ctr")
  cryptServerToClient := .accepting (ascii "aes256-ctr")
  macClientToServer := .accepting (ascii "hmac-sha2-256")
  macServerToClient := .accepting (ascii "hmac-sha2-256")
  compressClientToServer := ⟨ascii "none"⟩
  compressServerToClient := ⟨ascii "none"⟩

/-- The server's reply in it. -/
def firstReply : Bytes :=
  makeBufferWithoutHeader [.u8 31, .one Recorded.hostKey, .one Recorded.serverPublic,
    .one Recorded.signature]

/-- The keys that both sides then have. -/
def Keys.first : Keys where
  localIv := fixed 16 0xac20d9b0b71b89f0c2c551b2ef45ac78
  localKey := fixed 32 0x862f20eab0d6d6c1c956c5b6e70f563cce36ceea851f6b8d415b44bab500f436
  remoteIv := fixed 16 0x325eb1845700a6b7b2972495e4b44a8e
  remoteKey := fixed 32 0x2e6849f863dc6a35cf5b4b5e0c0f3ed0ac20f152eca3505c20b9002215273a97
  localMacKey := fixed 32 0xedb604ecff8f4d832b702e00431b90658e584fea6a7f754cd1d3ae5f800a3ae3
  remoteMacKey := fixed 32 0x548b8b0f7a677ecf4051f5903f63455f6f3904401bc72fdf54eb76f0f0f181ff

theorem readReply_first :
    MatchedMethods.signedOnce.readReply .first firstReply = .ok (Recorded.hash, .first) := by
  decide +kernel

/-- The server has taken part in one exchange. -/
theorem authentic_signedOnce : Authentic .recorded .sha256 .signedOnce .first
    (fun info group => info = Recorded.information ∧ group = none)
    (fun text => text = Recorded.transcript) where
  signed {hostKey signature hash} h htrusted := by
    have hhash : MdCalls.recorded.digest .sha256 (Recorded.information.transcript none) =
        .ok Recorded.hash := by
      decide +kernel
    injection h with h
    simp only [Bool.and_eq_true, beq_iff_eq] at h
    rw [h.2]
    exact ⟨Recorded.information, none, ⟨rfl, rfl⟩, hhash⟩
  fits {info group} h := by
    rw [h.1]
    constructor <;> decide +kernel
  server {info group} h := by
    rw [h.1, h.2]
    rfl
  collisionFree h h' _ _ := h.trans h'.symm

/-- The client accepts the server's reply, and the two have agreed on everything. -/
theorem exchange_agreed_first : ∃ hostKey serverPublicKey signature secretKey info,
    Accepted .recorded .sha256 none .signedOnce .first hostKey serverPublicKey signature secretKey
      Recorded.hash .first ∧
    info = ReplyContext.first.information hostKey serverPublicKey secretKey ∧
    info = Recorded.information := by
  have hkex : KeyExchange.Registered .recorded .recorded .seeds MatchedMethods.signedOnce.kex
      .sha256 none := .curve25519Sha256
  have hread : Consumer.run' consumeReply firstReply =
      .ok (Recorded.hostKey, Recorded.serverPublic, Recorded.signature) := by
    decide +kernel
  have hsecret : MatchedMethods.signedOnce.kex.computeSecretKey none Recorded.clientSecret
      Recorded.serverPublic = .ok (intoInteger Recorded.shared) := by
    decide +kernel
  obtain ⟨hostKey, serverPublicKey, signature, secretKey, info, group, -, haccepted,
    ⟨hinfo, hgroup⟩, -, -, -, -, -, hagreed⟩ :=
    exchange_agreed hkex authentic_signedOnce readReply_first
      fun hostKey serverPublicKey signature secretKey hread' haccepted => by
        rw [hread] at hread'
        cases hread'
        have hsecret' : MatchedMethods.signedOnce.kex.computeSecretKey none Recorded.clientSecret
            Recorded.serverPublic = .ok secretKey := haccepted.secret
        rw [hsecret] at hsecret'
        cases hsecret'
        exact ⟨authentic_signedOnce.fits ⟨rfl, rfl⟩, rfl⟩
  obtain ⟨-, hsame⟩ := hagreed (hgroup ▸ .none)
  exact ⟨hostKey, serverPublicKey, signature, secretKey, info, haccepted, hsame, hinfo⟩

end Flatline
