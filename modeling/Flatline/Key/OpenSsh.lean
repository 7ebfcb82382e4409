import Flatline.Cipher.Signatures
import Flatline.Transport.CipherStream

/-!
# The `openssh-key-v1` format

A private key file in OpenSSH's own format: an envelope that names the cipher, the key derivation
and the public key, and a private section behind it, encrypted or not. `Parser` is the registry of
ciphers together with the key derivation, `bcrypt_pbkdf`, which is not of this crate.

Source: `src/key.rs` (`parse_private_key_file_open_ssh`).
-/

namespace Flatline

/-! ## Keys and the parser -/

/-- `key::Private`. -/
structure Private where
  type : Text
  publicBlob : Bytes
  privateBlob : Bytes
  comment : Text
deriving DecidableEq, Repr

/-- `crypt::Decrypt`, the part that reading a key file uses. -/
class FileDecrypt (δ : Type) extends PacketDecrypt δ where
  keyLen : δ → ℕ
  ivLen : δ → ℕ
  /-- `initialize`. -/
  initializeKeys : (iv key : Bytes) → δ → Except Error Unit × δ

/-- `key::Parser`. `cipher` makes a new instance of the cipher of that name. -/
structure Parser (δ : Type) where
  cipher : Text → Option δ
  bcryptPbkdf : (passphrase salt : Bytes) → (rounds : UInt32) → (len : ℕ) → Option Bytes

/-- `FormatSnafu { detail }`. -/
def formatError (detail : String) : Error :=
  .key (.formatError (ascii detail))

/-- `TextSnafu`. -/
def keyText : Error :=
  .key .textError

namespace Parser

open Consumer

/-! ## The private section -/

/-- The fields of an RSA key, `"ssh-rsa"`. -/
def rsaKey (method : Text) (publicKeyData : Bytes) : Consumer Private := do
  let n ← consumeOne
  let e ← consumeOne
  ofExcept (Consumer.run' (do
    expectOne method (formatError "Key type mismatched")
    expectOne e (formatError "Rsa e mismatched")
    expectOne n (formatError "Rsa n mismatched")) publicKeyData)
  let d ← consumeOne
  let iqmp ← consumeOne
  let p ← consumeOne
  let q ← consumeOne
  let comment ← consumeText keyText
  return {
    type := method
    publicBlob := publicKeyData
    privateBlob := makeBufferWithoutHeader
      [.one method, .one n, .one e, .one d, .one iqmp, .one p, .one q]
    comment }

/-- The fields of an Ed25519 key, `"ssh-ed25519"`. -/
def ed25519Key (method : Text) (publicKeyData : Bytes) : Consumer Private := do
  let publicKey ← consumeOne
  let secret ← consumeOne
  ofExcept (Consumer.run' (do
    expectOne method (formatError "Key type mismatched")
    expectOne publicKey (formatError "Public key mismatched")) publicKeyData)
  if secret.length ≠ 64 then
    throw (formatError "Unexpected secret length")
  else if publicKey ≠ secret.drop 32 then
    throw (formatError "Unexpected secret key")
  else
    let comment ← consumeText keyText
    return {
      type := method
      publicBlob := publicKeyData
      privateBlob := makeBufferWithoutHeader [.one method, .one (secret.take 32)]
      comment }

/-- The fields of an ECDSA key, `"ecdsa-sha2-nistp256"` and the two others. -/
def ecdsaKey (method : Text) (publicKeyData : Bytes) : Consumer Private := do
  let curve ← consumeOne
  if ¬ curve <:+ method then
    throw (formatError "Curve mismatched")
  else
    let publicKey ← consumeOne
    let privateKey ← consumeOne
    ofExcept (Consumer.run' (do
      expectOne method (formatError "Key type mismatched")
      expectOne curve (formatError "Curve mismatched")
      expectOne publicKey (formatError "Public key dismatched")) publicKeyData)
    let comment ← consumeText keyText
    return {
      type := method
      publicBlob := publicKeyData
      privateBlob := makeBufferWithoutHeader
        [.one method, .one curve, .one publicKey, .one privateKey]
      comment }

/-- `match method`. -/
def keyFields (method : Text) (publicKeyData : Bytes) : Consumer Private :=
  if method = ascii "ssh-rsa" then
    rsaKey method publicKeyData
  else if method = ascii "ssh-ed25519" then
    ed25519Key method publicKeyData
  else if method = ascii "ecdsa-sha2-nistp256" ∨ method = ascii "ecdsa-sha2-nistp384" ∨
      method = ascii "ecdsa-sha2-nistp521" then
    ecdsaKey method publicKeyData
  else
    throw (.key (.unsupportedKeyType method))

/-- The loop over what is left behind the comment: the octets 1, 2, 3 and so on. -/
def isPadding (i : ℕ) : Bytes → Bool
  | [] => true
  | octet :: rest => octet == UInt8.ofNat (i + 1) && isPadding (i + 1) rest

/-- The private section, decrypted. -/
def privateSection (publicKeyData encryptedData : Bytes) : Except Error Private :=
  Consumer.run' (do
    let check1 ← consumeU32
    let check2 ← consumeU32
    if check1 ≠ check2 then
      throw (formatError "Checksum mismatch")
    else
      let method ← consumeText keyText
      let result ← keyFields method publicKeyData
      if isPadding 0 (← peek) then return result
      else throw (formatError "Unexpected padding in private key")) encryptedData

/-! ## The envelope -/

variable {δ : Type} [FileDecrypt δ]

/-- The calls into the cipher. The tag of an AEAD cipher stands behind the encrypted data. -/
def decryptWith (cipher : δ) (iv key encryptedData : Bytes) : Consumer Bytes := do
  let (result, cipher) := FileDecrypt.initializeKeys iv key cipher
  ofExcept result
  let ((result, plainText), cipher) := PacketDecrypt.update encryptedData cipher
  ofExcept result
  let cipher ←
    if PacketDecrypt.isGaloisCounterMode cipher then do
      let tag ← consumeBytes (PacketDecrypt.tagLen cipher)
      let (result, cipher) := PacketDecrypt.authenticationTag tag cipher
      ofExcept result
      pure cipher
    else pure cipher
  let ((result, final), _) := PacketDecrypt.finalize cipher
  ofExcept result
  return plainText ++ final

/-- The salt and the number of rounds, `kdf_options`. -/
def kdfOptions (options : Bytes) : Except Error (Bytes × UInt32) :=
  Consumer.run' (do
    let salt ← consumeOne
    return (salt, ← consumeU32)) options

/-- The branch of an encrypted section. -/
def decryptSection (self : Parser δ) (cipherName kdfName options encryptedData : Bytes)
    (passphrase : Option Bytes) : Consumer Bytes :=
  if kdfName = ascii "none" then throw (formatError "No kv provided")
  else if kdfName ≠ ascii "bcrypt" then throw (formatError "Unsupported kdf")
  else match passphrase with
    | none | some [] => throw (.key .wrongPassphrase)
    | some passphrase => do
      let (salt, round) ← ofExcept (kdfOptions options)
      if ¬ utf8Valid cipherName then throw keyText
      else match self.cipher cipherName with
        | none =>
          throw (.key (.unsupportedAlgorithm (ascii "Unsupported algorithm: " ++ cipherName)))
        | some cipher =>
          if encryptedData.length % PacketDecrypt.blockSize cipher ≠ 0 then
            throw (formatError "Invalid cipher data")
          else
            let keyLen := FileDecrypt.keyLen cipher
            match self.bcryptPbkdf passphrase salt round (keyLen + FileDecrypt.ivLen cipher) with
            | none => throw (.key .decryptionError)
            | some output =>
              decryptWith cipher (output.drop keyLen) (output.take keyLen) encryptedData

/-- `OPEN_SSH_MAGIC`. -/
def openSshMagic : Bytes :=
  ascii "openssh-key-v1" ++ [0]

/-- The envelope: the public key and the private section of a file, decrypted. -/
def envelope (self : Parser δ) (content : Bytes) (passphrase : Option Bytes) :
    Except Error (Bytes × Bytes) :=
  Consumer.run' (do
    if (← consumeBytes openSshMagic.length) ≠ openSshMagic then
      throw (formatError "Invalid OpenSSH magic")
    else
      let cipherName ← consumeOne
      let kdfName ← consumeOne
      let options ← consumeOne
      let numberOfKeys ← consumeU32
      if numberOfKeys ≠ 1 then
        throw (.key (.unsupportedFeature (ascii "Unsupported multiple keys")))
      else
        let publicKeyData ← consumeOne
        let encryptedData ← consumeOne
        let encryptedData ←
          if cipherName = ascii "none" then
            if encryptedData.length % 8 ≠ 0 then throw (formatError "Invalid cipher data")
            else pure encryptedData
          else decryptSection self cipherName kdfName options encryptedData passphrase
        if (← peek) ≠ [] then throw (formatError "Unexpected data after cipher data")
        else return (publicKeyData, encryptedData)) content

/-- `parse_private_key_file_open_ssh`. -/
def parsePrivateKeyFileOpenSsh (self : Parser δ) (content : Bytes) (passphrase : Option Bytes) :
    Except Error Private := do
  let (publicKeyData, encryptedData) ← self.envelope content passphrase
  privateSection publicKeyData encryptedData

end Parser

end Flatline
