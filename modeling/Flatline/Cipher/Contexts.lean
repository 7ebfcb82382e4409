import Flatline.Cipher.GaloisCounter
import Flatline.Common.BlockModes

/-!
# Contexts of OpenSSL

What the ciphers and the MACs call, as parameters: the functions of a context, and what OpenSSL
documents about them. A relation between a context and what it has been given says how the context
goes on; nothing else is known of it.

Source: `src/cipher/crypt.rs`, `src/cipher/mac.rs` (`CipherCtx`, `MdCtx`, `Crypter`).
-/

namespace Flatline

/-! ## Results -/

/-- `.context(builder::OpenSSL)`. -/
def opensslContext {σ α : Type} : Option α → EStateM Error σ α
  | some a => return a
  | none => throw .openssl

/-- The result of a method, and the state that it leaves. -/
def outcome {σ α : Type} (m : EStateM Error σ α) (s : σ) : Except Error α × σ :=
  match m s with
  | .ok a s' => (.ok a, s')
  | .error e s' => (.error e, s')

theorem outcome_of_ok {σ α : Type} {m : EStateM Error σ α} {s s' : σ} {a : α}
    (h : m s = .ok a s') : outcome m s = (.ok a, s') := by
  unfold outcome
  rw [h]

/-- What a buffer of `room` zeros holds after the tag has been written to its start. -/
def writtenTo (room : ℕ) (tag : Bytes) : Bytes :=
  tag ++ List.replicate (room - tag.length) 0

theorem writtenTo_of_length {room : ℕ} {tag : Bytes} (h : tag.length = room) :
    writtenTo room tag = tag := by
  unfold writtenTo
  rw [h, Nat.sub_self]
  exact List.append_nil tag

/-! ## Signing contexts -/

/-- The `MdRef`s. -/
inductive MdRef where
  | md5
  | sha1
  | sha256
  | sha512
deriving DecidableEq, Repr

/-- `MdRef::size`. -/
def MdRef.size : MdRef → ℕ
  | md5 => 16
  | sha1 => 20
  | sha256 => 32
  | sha512 => 64

/-- What tags are made with: a digest and an HMAC key, or a key of `Id::POLY1305`. -/
inductive TagAlgorithm where
  | hmac (md : MdRef)
  | poly1305
deriving DecidableEq, Repr

/-- The length of the tags. -/
def TagAlgorithm.size : TagAlgorithm → ℕ
  | hmac md => md.size
  | poly1305 => 16

/-- `MdCtx` for signing, and the keys that it signs with; `none` is an OpenSSL error. Without a buffer
`digest_sign_final` says how long the tag is (`signLength`), with one it writes the tag to its start
(`signFinal`, of the room there is). -/
structure SignCalls where
  PKey : Type
  MdCtx : Type
  hmacKey : Bytes → Option PKey
  poly1305Key : Bytes → Option PKey
  newCtx : Option MdCtx
  signInit : Option MdRef → PKey → MdCtx → Option Unit × MdCtx
  signUpdate : Bytes → MdCtx → Option Unit × MdCtx
  signLength : MdCtx → Option ℕ × MdCtx
  signFinal : (room : ℕ) → MdCtx → Option Bytes × MdCtx
  /-- The tag over some octets. -/
  tag : TagAlgorithm → (key data : Bytes) → Bytes
  /-- The context has been set up with the key, and fed with `fed` since. -/
  Signing : TagAlgorithm → (key fed : Bytes) → MdCtx → Prop
  length_tag (a : TagAlgorithm) (key data : Bytes) : (tag a key data).length = a.size
  newCtx_succeeds : ∃ ctx, newCtx = some ctx
  hmacKey_succeeds {key : Bytes} : key.length < 2 ^ 31 → ∃ pkey, hmacKey key = some pkey
  poly1305Key_succeeds {key : Bytes} : key.length = 32 → ∃ pkey, poly1305Key key = some pkey
  signInit_hmac {key : Bytes} {pkey : PKey} {ctx : MdCtx} (md : MdRef) :
    hmacKey key = some pkey → newCtx = some ctx →
      ∃ ctx', signInit (some md) pkey ctx = (some (), ctx') ∧ Signing (.hmac md) key [] ctx'
  signInit_poly1305 {key : Bytes} {pkey : PKey} {ctx : MdCtx} :
    poly1305Key key = some pkey → newCtx = some ctx →
      ∃ ctx', signInit none pkey ctx = (some (), ctx') ∧ Signing .poly1305 key [] ctx'
  signUpdate_signing {a : TagAlgorithm} {key fed : Bytes} {ctx : MdCtx} (data : Bytes) :
    Signing a key fed ctx →
      ∃ ctx', signUpdate data ctx = (some (), ctx') ∧ Signing a key (fed ++ data) ctx'
  signLength_signing {a : TagAlgorithm} {key fed : Bytes} {ctx : MdCtx} : Signing a key fed ctx →
    ∃ ctx', signLength ctx = (some a.size, ctx') ∧ Signing a key fed ctx'
  signFinal_signing {a : TagAlgorithm} {key fed : Bytes} {ctx : MdCtx} {room : ℕ} :
    Signing a key fed ctx → a.size ≤ room →
      ∃ ctx', signFinal room ctx = (some (tag a key fed), ctx')

/-! ## Ciphers in counter mode and with chained blocks -/

/-- The `openssl::cipher::Cipher`s. -/
inductive EvpCipher where
  | aes128Ctr
  | aes192Ctr
  | aes256Ctr
  | aes128Cbc
  | aes192Cbc
  | aes256Cbc
  | desEde3Cbc
deriving DecidableEq, Repr

/-- `CipherRef::block_size`: a cipher in counter mode codes octet by octet. -/
def EvpCipher.unit : EvpCipher → ℕ
  | aes128Ctr | aes192Ctr | aes256Ctr => 1
  | aes128Cbc | aes192Cbc | aes256Cbc => 16
  | desEde3Cbc => 8

/-- `CipherRef::key_length`. -/
def EvpCipher.keyLength : EvpCipher → ℕ
  | aes128Ctr | aes128Cbc => 16
  | aes192Ctr | aes192Cbc | desEde3Cbc => 24
  | aes256Ctr | aes256Cbc => 32

/-- `CipherRef::iv_length`. -/
def EvpCipher.ivLength : EvpCipher → ℕ
  | desEde3Cbc => 8
  | _ => 16

/-- `CipherCtx` of these ciphers; `none` is an OpenSSL error. `coder` is what a cipher does in either
direction from a state on, and decryption undoes encryption from the same state. -/
structure Evp where
  Ctx : Type
  newCtx : Option Ctx
  init : CrypterMode → EvpCipher → (key iv : Bytes) → Ctx → Option Unit × Ctx
  setPadding : Bool → Ctx → Ctx
  cipherUpdate : Bytes → Ctx → Option Bytes × Ctx
  cipherFinal : Ctx → Option Bytes × Ctx
  setTag : Bytes → Ctx → Option Unit × Ctx
  State : EvpCipher → Type
  coder : CrypterMode → (c : EvpCipher) → BlockCoder (State c) UInt8
  start (c : EvpCipher) : (key iv : Bytes) → State c
  /-- The context does not pad, and goes on as the coder does that has been fed so far. -/
  Codes (mode : CrypterMode) (c : EvpCipher) : (coder mode c).Feed → Ctx → Prop
  size_coder (mode : CrypterMode) (c : EvpCipher) : (coder mode c).size = c.unit
  undoes (c : EvpCipher) : (coder .decrypt c).Undoes (coder .encrypt c)
  newCtx_succeeds : ∃ ctx, newCtx = some ctx
  init_codes (mode : CrypterMode) {c : EvpCipher} {key iv : Bytes} {ctx : Ctx} :
    newCtx = some ctx → c.keyLength ≤ key.length → c.ivLength ≤ iv.length →
      ∃ ctx', init mode c key iv ctx = (some (), ctx') ∧ Codes mode c
        ((coder mode c).start (start c (key.take c.keyLength) (iv.take c.ivLength)))
        (setPadding false ctx')
  cipherUpdate_codes {mode : CrypterMode} {c : EvpCipher} {f : (coder mode c).Feed} {ctx : Ctx}
    (data : Bytes) : Codes mode c f ctx →
      ∃ ctx', cipherUpdate data ctx = (some (f.feed data).1, ctx') ∧
        Codes mode c (f.feed data).2 ctx'
  /-- Octets that make up no block are an error. -/
  cipherFinal_codes {mode : CrypterMode} {c : EvpCipher} {f : (coder mode c).Feed} {ctx : Ctx} :
    Codes mode c f ctx →
      ∃ ctx', cipherFinal ctx = (if f.pending = [] then some [] else none, ctx') ∧
        Codes mode c f ctx'
  setTag_codes {mode : CrypterMode} {c : EvpCipher} {f : (coder mode c).Feed} {ctx : Ctx}
    (tag : Bytes) : Codes mode c f ctx → Codes mode c f (setTag tag ctx).2

/-! ## Key streams -/

theorem UInt8.xor_xor (k x : UInt8) : k ^^^ (k ^^^ x) = x := by
  rw [← UInt8.xor_assoc, UInt8.xor_self, UInt8.zero_xor]

/-- The octets under the key stream of a key and an IV, from a position on. -/
def masked (keystream : (key iv : Bytes) → ℕ → UInt8) (key iv : Bytes) (position : ℕ)
    (data : Bytes) : Bytes :=
  ((BlockCoder.masking (· ^^^ ·) fun s : Bytes × Bytes => keystream s.1 s.2).run data.length
    ((key, iv), position) data).1

section Masked

variable {keystream : (key iv : Bytes) → ℕ → UInt8}

@[simp] theorem length_masked (key iv : Bytes) (position : ℕ) (data : Bytes) :
    (masked keystream key iv position data).length = data.length := by
  refine (BlockCoder.length_run ?_).trans (Nat.mul_one _)
  exact Nat.le_of_eq (Nat.mul_one _)

/-- The key stream takes off what it has put on. -/
theorem masked_masked (key iv : Bytes) (position : ℕ) (data : Bytes) :
    masked keystream key iv position (masked keystream key iv position data) = data := by
  have hundo := (BlockCoder.masking_undoes UInt8.xor_xor
    fun s : Bytes × Bytes => keystream s.1 s.2).run_run (s := ((key, iv), position))
    (Nat.mul_one data.length).symm
  unfold masked
  change (BlockCoder.run _ (masked keystream key iv position data).length _ _).1 = _
  rw [length_masked]
  exact congrArg Prod.fst hundo

end Masked

/-- `CipherCtx` of `Cipher::chacha20`, and the contexts of its tags; `none` is an OpenSSL error.
`initKey` and `initIv` are `encrypt_init` and `decrypt_init` with a key only and with an IV only. -/
structure ChachaCalls where
  sign : SignCalls
  Ctx : Type
  newCtx : Option Ctx
  initKey : CrypterMode → (key : Bytes) → Ctx → Option Unit × Ctx
  initIv : CrypterMode → (iv : Bytes) → Ctx → Option Unit × Ctx
  cipherUpdate : Bytes → Ctx → Option Bytes × Ctx
  cipherFinal : Ctx → Option Bytes × Ctx
  keystream : (key iv : Bytes) → ℕ → UInt8
  /-- The context has got the key. -/
  HasKey : (key : Bytes) → Ctx → Prop
  /-- The context has got the key and the IV, and has coded so many octets with them. -/
  Codes : (key iv : Bytes) → ℕ → Ctx → Prop
  newCtx_succeeds : ∃ ctx, newCtx = some ctx
  initKey_hasKey (mode : CrypterMode) {key : Bytes} {ctx : Ctx} :
    newCtx = some ctx → 32 ≤ key.length →
      ∃ ctx', initKey mode key ctx = (some (), ctx') ∧ HasKey (key.take 32) ctx'
  initIv_codes (mode : CrypterMode) {key iv : Bytes} {ctx : Ctx} :
    HasKey key ctx → iv.length = 16 →
      ∃ ctx', initIv mode iv ctx = (some (), ctx') ∧ Codes key iv 0 ctx'
  cipherUpdate_codes {key iv : Bytes} {n : ℕ} {ctx : Ctx} (data : Bytes) : Codes key iv n ctx →
    ∃ ctx', cipherUpdate data ctx = (some (masked keystream key iv n data), ctx') ∧
      Codes key iv (n + data.length) ctx'
  cipherFinal_codes {key iv : Bytes} {n : ℕ} {ctx : Ctx} : Codes key iv n ctx →
    ∃ ctx', cipherFinal ctx = (some [], ctx')
  length_cipherUpdate {data out : Bytes} {ctx : Ctx} :
    (cipherUpdate data ctx).1 = some out → out.length = data.length
  hasKey_of_codes {key iv : Bytes} {n : ℕ} {ctx : Ctx} : Codes key iv n ctx → HasKey key ctx
  hasKey_cipherUpdate {key : Bytes} {ctx : Ctx} (data : Bytes) :
    HasKey key ctx → HasKey key (cipherUpdate data ctx).2
  hasKey_cipherFinal {key : Bytes} {ctx : Ctx} : HasKey key ctx → HasKey key (cipherFinal ctx).2

/-- `symm::Crypter` of AES-GCM with keys of either length. -/
structure GcmCalls where
  Ctx : Type
  crypter : (keyLen : ℕ) → Crypter Ctx
  keystream : (key iv : Bytes) → ℕ → UInt8
  tag : (key iv aad coded : Bytes) → Bytes
  /-- The context was made with the key and the IV, and has got `aad` and then octets that are `coded`
  when they are encrypted. -/
  Codes : CrypterMode → (key iv aad coded : Bytes) → Ctx → Prop
  length_tag (key iv aad coded : Bytes) : (tag key iv aad coded).length = 16
  new_codes (mode : CrypterMode) {keyLen : ℕ} {key iv : Bytes} :
    key.length = keyLen → iv.length = 12 →
      ∃ ctx, (crypter keyLen).new mode key iv = some ctx ∧ Codes mode key iv [] [] ctx
  pad_codes {mode : CrypterMode} {key iv : Bytes} {ctx : Ctx} (keyLen : ℕ) :
    Codes mode key iv [] [] ctx → Codes mode key iv [] [] ((crypter keyLen).pad false ctx)
  aadUpdate_codes {mode : CrypterMode} {key iv : Bytes} {ctx : Ctx} (keyLen : ℕ) (aad : Bytes) :
    Codes mode key iv [] [] ctx →
      ∃ ctx', (crypter keyLen).aadUpdate aad ctx = (some (), ctx') ∧ Codes mode key iv aad [] ctx'
  update_codes {mode : CrypterMode} {key iv aad : Bytes} {ctx : Ctx} (keyLen : ℕ) (data : Bytes) :
    Codes mode key iv aad [] ctx →
      ∃ ctx', (crypter keyLen).update data ctx = (some (masked keystream key iv 0 data), ctx') ∧
        Codes mode key iv aad (if mode = .encrypt then masked keystream key iv 0 data else data) ctx'
  finalize_encrypt {key iv aad coded : Bytes} {ctx : Ctx} (keyLen : ℕ) :
    Codes .encrypt key iv aad coded ctx →
      ∃ ctx', (crypter keyLen).finalize ctx = (some [], ctx') ∧
        (crypter keyLen).getTag 16 ctx' = some (tag key iv aad coded)
  setTag_decrypt {key iv aad coded expected : Bytes} {ctx : Ctx} (keyLen : ℕ) :
    Codes .decrypt key iv aad coded ctx → expected.length = 16 →
      ∃ ctx', (crypter keyLen).setTag expected ctx = (some (), ctx') ∧
        ((crypter keyLen).finalize ctx').1 =
          if expected = tag key iv aad coded then some [] else none
  length_update {keyLen : ℕ} {data out : Bytes} {ctx : Ctx} :
    ((crypter keyLen).update data ctx).1 = some out → out.length = data.length

end Flatline
