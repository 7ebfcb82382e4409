import Flatline.Cipher.BlockCiphers
import Flatline.Cipher.Macs

/-!
# ChaCha20 and Poly1305

The cipher with a tag of its own that takes its nonce from the sequence number. One half of its key
encrypts the length field, the other half the packet and, before it, the key of the tag; the tag
covers both as they are on the wire. Nothing of a packet is left over for the next one.

Source: `src/cipher/crypt.rs` (`Chacha20Poly1205`).
-/

namespace Flatline

open Triple

/-- `Chacha20Poly1205`. -/
structure Chacha20Poly1205 (o : ChachaCalls) where
  mainCtx : Option o.Ctx
  headerCtx : Option o.Ctx
  macCtx : Option o.sign.MdCtx
  mac : Option Bytes

namespace Chacha20Poly1205

variable {o : ChachaCalls}

/-- A method. What it has changed before it fails stays changed. -/
abbrev Method (o : ChachaCalls) := EStateM Error (Chacha20Poly1205 o)

/-- `new`. -/
def new : Chacha20Poly1205 o where
  mainCtx := none
  headerCtx := none
  macCtx := none
  mac := none

def blockSize : ℕ := 8
def ivLen : ℕ := 0
def keyLen : ℕ := 64
def tagLen : ℕ := 16

/-! ## Methods -/

/-- What is missing in `get_main_ctx`, `get_header_ctx` and `get_mac_ctx`. -/
def orUninitialized {α : Type} : Option α → Method o α
  | some a => return a
  | none => throw (.invalidOperation (ascii "Uninitialized"))

/-- A function of `main_ctx`, behind `get_main_ctx`. -/
def withMain {α : Type} (f : o.Ctx → Option α × o.Ctx) : Method o α := do
  let ctx ← orUninitialized (← get).mainCtx
  modify fun s => { s with mainCtx := some (f ctx).2 }
  opensslContext (f ctx).1

/-- A function of `header_ctx`, behind `get_header_ctx`. -/
def withHeader {α : Type} (f : o.Ctx → Option α × o.Ctx) : Method o α := do
  let ctx ← orUninitialized (← get).headerCtx
  modify fun s => { s with headerCtx := some (f ctx).2 }
  opensslContext (f ctx).1

/-- A function of `mac_ctx`, behind `get_mac_ctx`. -/
def withMac {α : Type} (f : o.sign.MdCtx → Option α × o.sign.MdCtx) : Method o α := do
  let ctx ← orUninitialized (← get).macCtx
  modify fun s => { s with macCtx := some (f ctx).2 }
  opensslContext (f ctx).1

/-- A context with a key. One that is too short fails an assertion of the context. -/
def keyedCtx (mode : CrypterMode) (key : Bytes) : Except Abort o.Ctx :=
  match o.newCtx with
  | none => .error (.error .openssl)
  | some ctx =>
    if key.length < 32 then .error .panic
    else
      match o.initKey mode key ctx with
      | (none, _) => .error (.error .openssl)
      | (some (), ctx) => .ok ctx

/-- `initialize` of either trait. `key[0..32]` panics where the key is too short for it. -/
def initializeKey (mode : CrypterMode) (key : Bytes) (s : Chacha20Poly1205 o) :
    Except Abort (Chacha20Poly1205 o) :=
  if key.length < 32 then .error .panic
  else do
    let mainCtx ← keyedCtx mode (key.take 32)
    let headerCtx ← keyedCtx mode (key.drop 32)
    return { s with mainCtx := some mainCtx, headerCtx := some headerCtx }

/-- The IV of a packet: a block counter of zero, and the sequence number. -/
def ivOf (number : UInt32) : Bytes :=
  List.replicate 8 0 ++ (List.replicate 4 0 ++ toBeBytes number)

/-- The context of the tags under a key. -/
def tagCtx (polyKey : Bytes) : Method o o.sign.MdCtx := do
  let pkey ← opensslContext (o.sign.poly1305Key polyKey)
  let ctx ← opensslContext o.sign.newCtx
  let (result, ctx) := o.sign.signInit none pkey ctx
  opensslContext result
  return ctx

/-- `update_sequence_number` of either trait. -/
def updateSequenceNumber (mode : CrypterMode) (number : UInt32) : Method o Unit := do
  withHeader (o.initIv mode (ivOf number))
  withMain (o.initIv mode (ivOf number))
  let polyKey ← withMain (o.cipherUpdate (List.replicate 64 0))
  let macCtx ← tagCtx (polyKey.take 32)
  modify fun s => { s with macCtx := some macCtx }

/-- The header in its place: `cipher_update` writes to it, and `cipher_final` to its start. -/
def headerUpdate (aad : Bytes) : Method o Bytes := do
  let out ← withHeader (o.cipherUpdate aad)
  let final ← withHeader o.cipherFinal
  return final ++ out.drop final.length

namespace Encrypt

def additionalAuthenticatedData (aad : Bytes) : Method o Bytes := do
  let aad ← headerUpdate aad
  withMac (o.sign.signUpdate aad)
  return aad

def update (data : Bytes) : Method o Bytes := do
  let out ← withMain (o.cipherUpdate data)
  withMac (o.sign.signUpdate out)
  return out

def finalize : Method o Bytes :=
  withMain o.cipherFinal

/-- The tag in a buffer of `tag_len` octets. -/
def authenticationTag : Method o Bytes := do
  let tag ← withMac (o.sign.signFinal tagLen)
  return writtenTo tagLen tag

end Encrypt

namespace Decrypt

def additionalAuthenticatedData (aad : Bytes) : Method o Bytes := do
  withMac (o.sign.signUpdate aad)
  headerUpdate aad

def update (data : Bytes) : Method o Bytes := do
  withMac (o.sign.signUpdate data)
  withMain (o.cipherUpdate data)

def authenticationTag (data : Bytes) : Method o Unit :=
  modify fun s => { s with mac := some data }

def finalize : Method o Bytes := do
  let final ← withMain o.cipherFinal
  let size ← withMac o.sign.signLength
  let tag ← withMac (o.sign.signFinal size)
  if (← get).mac = some tag then
    modify fun s => { s with mac := none }
    return final
  else throw (.cipher .macVerificationFailed)

end Decrypt

/-! ## The packet layer's traits -/

/-- The four octets of a header. -/
def headerOf (data : Bytes) : Header :=
  (data.getD 0 0, data.getD 1 0, data.getD 2 0, data.getD 3 0)

end Chacha20Poly1205

open Chacha20Poly1205

/-- `Chacha20Poly1205` as a `dyn Encrypt`. -/
structure ChachaEncrypt (o : ChachaCalls) where
  cipher : Chacha20Poly1205 o

/-- `Chacha20Poly1205` as a `dyn Decrypt`. -/
structure ChachaDecrypt (o : ChachaCalls) where
  cipher : Chacha20Poly1205 o

variable {o : ChachaCalls}

def ChachaEncrypt.run {α : Type} (m : Method o α) (e : ChachaEncrypt o) :
    Except Error α × ChachaEncrypt o :=
  ((outcome m e.cipher).1, ⟨(outcome m e.cipher).2⟩)

def ChachaDecrypt.run {α : Type} (m : Method o α) (d : ChachaDecrypt o) :
    Except Error α × ChachaDecrypt o :=
  ((outcome m d.cipher).1, ⟨(outcome m d.cipher).2⟩)

instance : PacketEncrypt (ChachaEncrypt o) where
  blockSize _ := blockSize
  isGaloisCounterMode _ := true
  updateSequenceNumber n e := e.run (updateSequenceNumber .encrypt n)
  additionalAuthenticatedData header e :=
    e.run (headerOf <$> Encrypt.additionalAuthenticatedData header.octets)
  update data e := e.run (Encrypt.update data)
  finalize e := e.run Encrypt.finalize
  authenticationTag e := e.run Encrypt.authenticationTag

/-- The room that `cipher_update_vec` makes for the octets and a block, if it comes to that. -/
def ChachaDecrypt.updateRoom (data : Bytes) (d : ChachaDecrypt o) : Bytes :=
  match (d.run (withMac (o.sign.signUpdate data))).1, d.cipher.mainCtx with
  | .ok (), some _ => List.replicate (data.length + 1) 0
  | _, _ => []

/-- The room that `cipher_final_vec` makes, and what it has written when only the tag is wrong. -/
def ChachaDecrypt.finalRoom (d : ChachaDecrypt o) : Bytes :=
  match (d.run (withMain o.cipherFinal)).1, d.cipher.mainCtx with
  | .ok final, _ => final
  | .error _, some _ => [0]
  | .error _, none => []

instance : PacketDecrypt (ChachaDecrypt o) where
  blockSize _ := blockSize
  isGaloisCounterMode _ := true
  tagLen _ := tagLen
  updateSequenceNumber n d := d.run (updateSequenceNumber .decrypt n)
  additionalAuthenticatedData header d :=
    d.run (headerOf <$> Decrypt.additionalAuthenticatedData header.octets)
  update data d :=
    (appended (d.updateRoom data) (d.run (Decrypt.update data)).1, (d.run (Decrypt.update data)).2)
  authenticationTag tag d := d.run (Decrypt.authenticationTag tag)
  finalize d := (appended d.finalRoom (d.run Decrypt.finalize).1, (d.run Decrypt.finalize).2)

/-! ## Contexts -/

namespace Chacha20Poly1205

/-- The octets under the key stream of a packet, from a position on. -/
def packetMasked (o : ChachaCalls) (key : Bytes) (number : UInt32) (position : ℕ) (data : Bytes) :
    Bytes :=
  masked o.keystream key (ivOf number) position data

/-- The key of a packet's tag. -/
def polyKey (o : ChachaCalls) (main : Bytes) (number : UInt32) : Bytes :=
  (packetMasked o main number 0 (List.replicate 64 0)).take 32

/-- The tag of a packet. -/
def tagOf (o : ChachaCalls) (main : Bytes) (number : UInt32) (covered : Bytes) : Bytes :=
  o.sign.tag .poly1305 (polyKey o main number) covered

@[simp] theorem length_packetMasked (key : Bytes) (number : UInt32) (position : ℕ) (data : Bytes) :
    (packetMasked o key number position data).length = data.length :=
  length_masked key (ivOf number) position data

theorem packetMasked_packetMasked (key : Bytes) (number : UInt32) (position : ℕ) (data : Bytes) :
    packetMasked o key number position (packetMasked o key number position data) = data :=
  masked_masked key (ivOf number) position data

theorem length_ivOf (number : UInt32) : (ivOf number).length = 16 := by
  simp [ivOf]

theorem length_polyKey (main : Bytes) (number : UInt32) : (polyKey o main number).length = 32 := by
  rw [polyKey, List.length_take, length_packetMasked, List.length_replicate]
  rfl

@[simp] theorem length_tagOf (main : Bytes) (number : UInt32) (covered : Bytes) :
    (tagOf o main number covered).length = 16 :=
  o.sign.length_tag _ _ _

/-- The instance has its three contexts, with `P`, `Q` and `R`. -/
structure Has (P Q : o.Ctx → Prop) (R : o.sign.MdCtx → Prop) (s : Chacha20Poly1205 o) : Prop where
  main : ∃ ctx, s.mainCtx = some ctx ∧ P ctx
  header : ∃ ctx, s.headerCtx = some ctx ∧ Q ctx
  mac : ∃ ctx, s.macCtx = some ctx ∧ R ctx

/-- Both contexts of the cipher have their keys. -/
structure HasKeys (main header : Bytes) (s : Chacha20Poly1205 o) : Prop where
  main : ∃ ctx, s.mainCtx = some ctx ∧ o.HasKey main ctx
  header : ∃ ctx, s.headerCtx = some ctx ∧ o.HasKey header ctx

section Runs

variable {α : Type} {P Q P' Q' : o.Ctx → Prop} {R R' : o.sign.MdCtx → Prop}
  {s : Chacha20Poly1205 o} {a : α}

theorem withMain_run {f : o.Ctx → Option α × o.Ctx} {ctx ctx' : o.Ctx}
    (hctx : s.mainCtx = some ctx) (hf : f ctx = (some a, ctx')) :
    withMain f s = .ok a { s with mainCtx := some ctx' } := by
  unfold withMain
  rw [get_bind, hctx]
  simp only [orUninitialized, pure_bind, hf]
  rfl

theorem withHeader_run {f : o.Ctx → Option α × o.Ctx} {ctx ctx' : o.Ctx}
    (hctx : s.headerCtx = some ctx) (hf : f ctx = (some a, ctx')) :
    withHeader f s = .ok a { s with headerCtx := some ctx' } := by
  unfold withHeader
  rw [get_bind, hctx]
  simp only [orUninitialized, pure_bind, hf]
  rfl

theorem withMac_run {f : o.sign.MdCtx → Option α × o.sign.MdCtx} {ctx ctx' : o.sign.MdCtx}
    (hctx : s.macCtx = some ctx) (hf : f ctx = (some a, ctx')) :
    withMac f s = .ok a { s with macCtx := some ctx' } := by
  unfold withMac
  rw [get_bind, hctx]
  simp only [orUninitialized, pure_bind, hf]
  rfl

theorem Has.runMain (h : Has P Q R s) {f : o.Ctx → Option α × o.Ctx}
    (hf : ∀ {ctx}, P ctx → ∃ ctx', f ctx = (some a, ctx') ∧ P' ctx') :
    ∃ s', withMain f s = .ok a s' ∧ Has P' Q R s' ∧ s'.mac = s.mac := by
  obtain ⟨⟨ctx, hctx, hP⟩, hheader, hmac⟩ := h
  obtain ⟨ctx', hrun, hP'⟩ := hf hP
  exact ⟨_, withMain_run hctx hrun, ⟨⟨ctx', rfl, hP'⟩, hheader, hmac⟩, rfl⟩

theorem Has.runHeader (h : Has P Q R s) {f : o.Ctx → Option α × o.Ctx}
    (hf : ∀ {ctx}, Q ctx → ∃ ctx', f ctx = (some a, ctx') ∧ Q' ctx') :
    ∃ s', withHeader f s = .ok a s' ∧ Has P Q' R s' ∧ s'.mac = s.mac := by
  obtain ⟨hmain, ⟨ctx, hctx, hQ⟩, hmac⟩ := h
  obtain ⟨ctx', hrun, hQ'⟩ := hf hQ
  exact ⟨_, withHeader_run hctx hrun, ⟨hmain, ⟨ctx', rfl, hQ'⟩, hmac⟩, rfl⟩

theorem Has.runMac (h : Has P Q R s) {f : o.sign.MdCtx → Option α × o.sign.MdCtx}
    (hf : ∀ {ctx}, R ctx → ∃ ctx', f ctx = (some a, ctx') ∧ R' ctx') :
    ∃ s', withMac f s = .ok a s' ∧ Has P Q R' s' ∧ s'.mac = s.mac := by
  obtain ⟨hmain, hheader, ctx, hctx, hR⟩ := h
  obtain ⟨ctx', hrun, hR'⟩ := hf hR
  exact ⟨_, withMac_run hctx hrun, ⟨hmain, hheader, ctx', rfl, hR'⟩, rfl⟩

end Runs

/-! ## Packets -/

section Packets

variable {main header key iv : Bytes} {number : UInt32} {n : ℕ} {fed : Bytes}
  {P Q : o.Ctx → Prop} {R : o.sign.MdCtx → Prop} {s : Chacha20Poly1205 o}

theorem Has.hasKeys (h : Has (o.HasKey main) (o.HasKey header) R s) : HasKeys main header s :=
  ⟨h.main, h.header⟩

theorem Has.signs (h : Has P Q (o.sign.Signing .poly1305 key fed) s) (data : Bytes) :
    ∃ s', withMac (o.sign.signUpdate data) s = .ok () s' ∧
      Has P Q (o.sign.Signing .poly1305 key (fed ++ data)) s' ∧ s'.mac = s.mac :=
  h.runMac (o.sign.signUpdate_signing data)

theorem Has.codes (h : Has (o.Codes key iv n) Q R s) (data : Bytes) :
    ∃ s', withMain (o.cipherUpdate data) s = .ok (masked o.keystream key iv n data) s' ∧
      Has (o.Codes key iv (n + data.length)) Q R s' ∧ s'.mac = s.mac :=
  h.runMain (o.cipherUpdate_codes data)

/-- After `cipher_final` no more is known than that the context has its key. -/
theorem final_hasKey {ctx : o.Ctx} (h : o.Codes key iv n ctx) :
    ∃ ctx', o.cipherFinal ctx = (some [], ctx') ∧ o.HasKey key ctx' := by
  obtain ⟨ctx', hfinal⟩ := o.cipherFinal_codes h
  have hkey := o.hasKey_cipherFinal (o.hasKey_of_codes h)
  rw [hfinal] at hkey
  exact ⟨ctx', hfinal, hkey⟩

theorem Has.finishes (h : Has (o.Codes key iv n) Q R s) :
    ∃ s', withMain o.cipherFinal s = .ok [] s' ∧ Has (o.HasKey key) Q R s' ∧ s'.mac = s.mac :=
  h.runMain final_hasKey

/-- After `digest_sign_final` nothing is known of the context. -/
theorem Has.takesTag (h : Has P Q (o.sign.Signing .poly1305 key fed) s) :
    ∃ s', withMac (o.sign.signFinal 16) s = .ok (o.sign.tag .poly1305 key fed) s' ∧
      Has P Q (fun _ => True) s' ∧ s'.mac = s.mac := by
  refine h.runMac fun hctx => ?_
  obtain ⟨ctx', hrun⟩ := o.sign.signFinal_signing hctx (Nat.le_refl 16)
  exact ⟨ctx', hrun, trivial⟩

theorem Has.updatesHeader (h : Has P (o.Codes key iv n) R s) (aad : Bytes) :
    ∃ s', headerUpdate aad s = .ok (masked o.keystream key iv n aad) s' ∧
      Has P (o.HasKey key) R s' ∧ s'.mac = s.mac := by
  obtain ⟨s₁, hupdate, h₁, hmac₁⟩ := h.runHeader (o.cipherUpdate_codes aad)
  obtain ⟨s₂, hfinal, h₂, hmac₂⟩ := h₁.runHeader final_hasKey
  refine ⟨s₂, ?_, h₂, hmac₂.trans hmac₁⟩
  unfold headerUpdate
  rw [bind_of_ok hupdate, bind_of_ok hfinal]
  rfl

/-- What the tag of a packet covers, in the middle of it. -/
abbrev Fed (o : ChachaCalls) (main : Bytes) (number : UInt32) (fed : Bytes) :
    o.sign.MdCtx → Prop :=
  o.sign.Signing .poly1305 (polyKey o main number) fed

theorem tagCtx_run (hkey : key.length = 32) (s : Chacha20Poly1205 o) :
    ∃ ctx, tagCtx key s = .ok ctx s ∧ o.sign.Signing .poly1305 key [] ctx := by
  obtain ⟨pkey, hpkey⟩ := o.sign.poly1305Key_succeeds hkey
  obtain ⟨empty, hempty⟩ := o.sign.newCtx_succeeds
  obtain ⟨ctx, hinit, hsigning⟩ := o.sign.signInit_poly1305 hpkey hempty
  refine ⟨ctx, ?_, hsigning⟩
  unfold tagCtx
  simp only [hpkey, hempty, opensslContext, pure_bind, hinit]
  rfl

/-- Before a packet both contexts get its IV, and the main one makes the key of the tag. -/
theorem updateSequenceNumber_run (mode : CrypterMode) (number : UInt32)
    (h : HasKeys main header s) :
    ∃ s', updateSequenceNumber mode number s = .ok () s' ∧
      Has (o.Codes main (ivOf number) 64) (o.Codes header (ivOf number) 0) (Fed o main number [])
        s' ∧ s'.mac = s.mac := by
  obtain ⟨⟨mainCtx, hmain, hmainKey⟩, headerCtx, hheader, hheaderKey⟩ := h
  obtain ⟨header₁, hheader₁, hheaderCodes⟩ :=
    o.initIv_codes mode hheaderKey (length_ivOf number)
  obtain ⟨main₁, hmain₁, hmainCodes⟩ := o.initIv_codes mode hmainKey (length_ivOf number)
  obtain ⟨main₂, hmain₂, hmainCodes₂⟩ :=
    o.cipherUpdate_codes (List.replicate 64 0) hmainCodes
  let s₁ : Chacha20Poly1205 o := { s with headerCtx := some header₁ }
  let s₂ : Chacha20Poly1205 o := { s₁ with mainCtx := some main₁ }
  let s₃ : Chacha20Poly1205 o := { s₂ with mainCtx := some main₂ }
  have hrun₁ : withHeader (o.initIv mode (ivOf number)) s = .ok () s₁ :=
    withHeader_run hheader hheader₁
  have hrun₂ : withMain (o.initIv mode (ivOf number)) s₁ = .ok () s₂ :=
    withMain_run hmain hmain₁
  have hrun₃ : withMain (o.cipherUpdate (List.replicate 64 0)) s₂ = .ok _ s₃ :=
    withMain_run rfl hmain₂
  obtain ⟨macCtx, hrun₄, hsigning⟩ := tagCtx_run (length_polyKey main number) s₃
  refine ⟨{ s₃ with macCtx := some macCtx }, ?_,
    ⟨⟨main₂, rfl, hmainCodes₂⟩, ⟨header₁, rfl, hheaderCodes⟩, macCtx, rfl, hsigning⟩, rfl⟩
  unfold updateSequenceNumber
  rw [bind_of_ok hrun₁, bind_of_ok hrun₂, bind_of_ok hrun₃]
  exact bind_of_ok hrun₄

/-- Sealing call by call. -/
theorem seal_runs (h : HasKeys main header s) (number : UInt32) (aad data : Bytes) :
    ∃ s₁ s₂ s₃ s₄ s₅, updateSequenceNumber .encrypt number s = .ok () s₁ ∧
      Encrypt.additionalAuthenticatedData aad s₁ = .ok (packetMasked o header number 0 aad) s₂ ∧
      Encrypt.update data s₂ = .ok (packetMasked o main number 64 data) s₃ ∧
      Encrypt.finalize s₃ = .ok [] s₄ ∧
      Encrypt.authenticationTag s₄ = .ok (tagOf o main number
        (packetMasked o header number 0 aad ++ packetMasked o main number 64 data)) s₅ ∧
      HasKeys main header s₅ := by
  obtain ⟨s₁, hnumber, h₁, -⟩ := updateSequenceNumber_run .encrypt number h
  obtain ⟨t₁, hheader, h₂, -⟩ := h₁.updatesHeader aad
  obtain ⟨s₂, hfed, h₃, -⟩ := h₂.signs (packetMasked o header number 0 aad)
  obtain ⟨t₂, hcoded, h₄, -⟩ := h₃.codes data
  obtain ⟨s₃, hfed', h₅, -⟩ := h₄.signs (packetMasked o main number 64 data)
  obtain ⟨s₄, hfinal, h₆, -⟩ := h₅.finishes
  obtain ⟨s₅, htag, h₇, -⟩ := h₆.takesTag
  refine ⟨s₁, s₂, s₃, s₄, s₅, hnumber, ?_, ?_, hfinal, ?_, h₇.hasKeys⟩
  · unfold Encrypt.additionalAuthenticatedData
    rw [bind_of_ok hheader]
    exact bind_of_ok hfed
  · unfold Encrypt.update
    rw [bind_of_ok hcoded]
    exact bind_of_ok hfed'
  · exact (bind_of_ok htag).trans
      (congrArg (EStateM.Result.ok · s₅) (writtenTo_of_length (length_tagOf main number _)))

/-- Opening call by call: the last one returns if the tag is the one of the packet's octets. -/
theorem open_runs (h : HasKeys main header s) (number : UInt32) (aad data tag : Bytes) :
    ∃ s₁ s₂ s₃ s₄ s₅, updateSequenceNumber .decrypt number s = .ok () s₁ ∧
      Decrypt.additionalAuthenticatedData aad s₁ = .ok (packetMasked o header number 0 aad) s₂ ∧
      Decrypt.update data s₂ = .ok (packetMasked o main number 64 data) s₃ ∧
      Decrypt.authenticationTag tag s₃ = .ok () s₄ ∧
      (Decrypt.finalize s₄ =
        if tag = tagOf o main number (aad ++ data) then .ok [] s₅
        else .error (.cipher .macVerificationFailed) s₅) ∧ HasKeys main header s₅ := by
  obtain ⟨s₁, hnumber, h₁, -⟩ := updateSequenceNumber_run .decrypt number h
  obtain ⟨t₁, hfed, h₂, -⟩ := h₁.signs aad
  obtain ⟨s₂, hheader, h₃, -⟩ := h₂.updatesHeader aad
  obtain ⟨t₂, hfed', h₄, -⟩ := h₃.signs data
  obtain ⟨s₃, hcoded, h₅, -⟩ := h₄.codes data
  let s₄ : Chacha20Poly1205 o := { s₃ with mac := some tag }
  have h₅ : Has (o.Codes main (ivOf number) (64 + data.length)) (o.HasKey header)
      (Fed o main number ([] ++ aad ++ data)) s₄ := ⟨h₅.main, h₅.header, h₅.mac⟩
  obtain ⟨t₄, hfinal, h₆, hmac₄⟩ := h₅.finishes
  obtain ⟨t₅, hsize, h₇, hmac₅⟩ := h₆.runMac o.sign.signLength_signing
  obtain ⟨t₆, htag, h₈, hmac₆⟩ := h₇.takesTag
  have hmac : t₆.mac = some tag := hmac₆.trans (hmac₅.trans hmac₄)
  -- the verdict compares the tag of the packet with the one of what has been fed
  have hrun : Decrypt.finalize s₄ =
      (if t₆.mac = some (tagOf o main number (aad ++ data)) then do
          modify fun s => { s with mac := none }
          return []
        else throw (.cipher .macVerificationFailed) : Method o Bytes) t₆ := by
    unfold Decrypt.finalize
    rw [bind_of_ok hfinal, bind_of_ok hsize]
    exact bind_of_ok htag
  rw [hmac] at hrun
  have hheader : Decrypt.additionalAuthenticatedData aad s₁ =
      .ok (packetMasked o header number 0 aad) s₂ := by
    unfold Decrypt.additionalAuthenticatedData
    rw [bind_of_ok hfed]
    exact hheader
  have hupdate : Decrypt.update data s₂ = .ok (packetMasked o main number 64 data) s₃ := by
    unfold Decrypt.update
    rw [bind_of_ok hfed']
    exact hcoded
  by_cases hright : tag = tagOf o main number (aad ++ data)
  · rw [if_pos (congrArg some hright)] at hrun
    refine ⟨s₁, s₂, s₃, s₄, { t₆ with mac := none }, hnumber, hheader, hupdate, rfl, ?_,
      h₈.main, h₈.header⟩
    rw [if_pos hright]
    exact hrun
  · rw [if_neg fun hsame => hright (Option.some.inj hsame)] at hrun
    refine ⟨s₁, s₂, s₃, s₄, t₆, hnumber, hheader, hupdate, rfl, ?_, h₈.hasKeys⟩
    rw [if_neg hright]
    exact hrun

end Packets

/-! ## Whatever is called before -/

/-- Whatever the method does, the contexts keep their keys. -/
def KeepsKeys {α : Type} (m : Method o α) : Prop :=
  ∀ main header, Holds (HasKeys main header) m (fun _ s => HasKeys main header s)
    (fun _ s => HasKeys main header s)

namespace KeepsKeys

variable {α β : Type}

theorem pure (a : α) : KeepsKeys (Pure.pure a : Method o α) :=
  fun _ _ => Holds.pure fun _ h => h

theorem throw (e : Error) : KeepsKeys (MonadExcept.throw e : Method o α) :=
  fun _ _ => Holds.throw fun _ h => h

theorem bind {m : Method o α} {f : α → Method o β} (hm : KeepsKeys m)
    (hf : ∀ a, KeepsKeys (f a)) : KeepsKeys (m >>= f) :=
  fun main header => (hm main header).bind fun a => hf a main header

theorem opensslContext (a : Option α) : KeepsKeys (Flatline.opensslContext a : Method o α) := by
  cases a with
  | none => exact throw _
  | some a => exact pure a

/-- A program that does not touch the contexts of the cipher. -/
theorem modify {f : Chacha20Poly1205 o → Chacha20Poly1205 o}
    (hf : ∀ s, (f s).mainCtx = s.mainCtx ∧ (f s).headerCtx = s.headerCtx) :
    KeepsKeys (modifyGet fun s => (⟨⟩, f s) : Method o PUnit) := by
  refine fun main header => Holds.modify fun s hs => ?_
  obtain ⟨hmain, hheader⟩ := hf s
  exact ⟨hmain ▸ hs.main, hheader ▸ hs.header⟩

theorem withMain {f : o.Ctx → Option α × o.Ctx}
    (hf : ∀ {key ctx}, o.HasKey key ctx → o.HasKey key (f ctx).2) : KeepsKeys (withMain f) := by
  intro main header s hs
  obtain ⟨⟨ctx, hctx, hkey⟩, hheader⟩ := hs
  have hafter : HasKeys main header { s with mainCtx := some (f ctx).2 } :=
    ⟨⟨_, rfl, hf hkey⟩, hheader⟩
  unfold Chacha20Poly1205.withMain
  rw [get_bind, hctx]
  exact (opensslContext (f ctx).1 main header) _ hafter

theorem withHeader {f : o.Ctx → Option α × o.Ctx}
    (hf : ∀ {key ctx}, o.HasKey key ctx → o.HasKey key (f ctx).2) : KeepsKeys (withHeader f) := by
  intro main header s hs
  obtain ⟨hmain, ctx, hctx, hkey⟩ := hs
  have hafter : HasKeys main header { s with headerCtx := some (f ctx).2 } :=
    ⟨hmain, _, rfl, hf hkey⟩
  unfold Chacha20Poly1205.withHeader
  rw [get_bind, hctx]
  exact (opensslContext (f ctx).1 main header) _ hafter

theorem withMac (f : o.sign.MdCtx → Option α × o.sign.MdCtx) : KeepsKeys (withMac f) := by
  intro main header s hs
  unfold Chacha20Poly1205.withMac
  rw [get_bind]
  cases s.macCtx with
  | none => exact hs
  | some ctx =>
    have hafter : HasKeys main header { s with macCtx := some (f ctx).2 } := ⟨hs.main, hs.header⟩
    exact (opensslContext (f ctx).1 main header) _ hafter

theorem updateSequenceNumber (mode : CrypterMode) (number : UInt32) :
    KeepsKeys (updateSequenceNumber mode number : Method o Unit) := by
  intro main header s hs
  obtain ⟨s', hrun, hhas, -⟩ := updateSequenceNumber_run mode number hs
  obtain ⟨⟨mainCtx, hmain, hmainCodes⟩, ⟨headerCtx, hheader, hheaderCodes⟩, -⟩ := hhas
  rw [hrun]
  exact ⟨⟨mainCtx, hmain, o.hasKey_of_codes hmainCodes⟩,
    headerCtx, hheader, o.hasKey_of_codes hheaderCodes⟩

theorem headerUpdate (aad : Bytes) : KeepsKeys (headerUpdate aad : Method o Bytes) :=
  (withHeader (o.hasKey_cipherUpdate aad)).bind fun _ =>
    (withHeader o.hasKey_cipherFinal).bind fun _ => pure _

theorem mainUpdate (data : Bytes) :
    KeepsKeys (Chacha20Poly1205.withMain (o.cipherUpdate data) : Method o Bytes) :=
  withMain (o.hasKey_cipherUpdate data)

theorem finalize : KeepsKeys (Decrypt.finalize : Method o Bytes) := by
  refine (withMain o.hasKey_cipherFinal).bind fun final => (withMac _).bind fun size =>
    (withMac _).bind fun tag => ?_
  intro main header s hs
  rw [get_bind]
  by_cases htag : s.mac = some tag
  · rw [if_pos htag]
    exact ⟨hs.main, hs.header⟩
  · rw [if_neg htag]
    exact hs

end KeepsKeys

/-- The methods of both traits. -/
inductive Call where
  | updateSequenceNumber (mode : CrypterMode) (number : UInt32)
  | encryptHeader (aad : Bytes)
  | encrypt (data : Bytes)
  | finishEncryption
  | takeTag
  | decryptHeader (aad : Bytes)
  | decrypt (data : Bytes)
  | giveTag (tag : Bytes)
  | finishDecryption

/-- What a method does to the instance, whether it returns or fails. -/
def Call.after (s : Chacha20Poly1205 o) : Call → Chacha20Poly1205 o
  | updateSequenceNumber mode number =>
    (outcome (Chacha20Poly1205.updateSequenceNumber mode number) s).2
  | encryptHeader aad => (outcome (Encrypt.additionalAuthenticatedData aad) s).2
  | encrypt data => (outcome (Encrypt.update data) s).2
  | finishEncryption => (outcome Encrypt.finalize s).2
  | takeTag => (outcome Encrypt.authenticationTag s).2
  | decryptHeader aad => (outcome (Decrypt.additionalAuthenticatedData aad) s).2
  | decrypt data => (outcome (Decrypt.update data) s).2
  | giveTag tag => (outcome (Decrypt.authenticationTag tag) s).2
  | finishDecryption => (outcome Decrypt.finalize s).2

theorem HasKeys.outcome {α : Type} {m : Method o α} (hm : KeepsKeys m) {main header : Bytes}
    {s : Chacha20Poly1205 o} (h : HasKeys main header s) :
    HasKeys main header (outcome m s).2 := by
  unfold Flatline.outcome
  cases hrun : m s with
  | ok a s' => exact (hm main header).of_ok h hrun
  | error e s' => exact (hm main header).of_error h hrun

theorem HasKeys.after {main header : Bytes} {s : Chacha20Poly1205 o} (h : HasKeys main header s)
    (call : Call) : HasKeys main header (call.after s) := by
  cases call with
  | updateSequenceNumber mode number =>
    exact h.outcome (KeepsKeys.updateSequenceNumber mode number)
  | encryptHeader aad =>
    exact h.outcome ((KeepsKeys.headerUpdate aad).bind fun _ =>
      (KeepsKeys.withMac _).bind fun _ => KeepsKeys.pure _)
  | encrypt data =>
    exact h.outcome ((KeepsKeys.mainUpdate data).bind fun _ =>
      (KeepsKeys.withMac _).bind fun _ => KeepsKeys.pure _)
  | finishEncryption => exact h.outcome (KeepsKeys.withMain o.hasKey_cipherFinal)
  | takeTag => exact h.outcome ((KeepsKeys.withMac _).bind fun _ => KeepsKeys.pure _)
  | decryptHeader aad =>
    exact h.outcome ((KeepsKeys.withMac _).bind fun _ => KeepsKeys.headerUpdate aad)
  | decrypt data => exact h.outcome ((KeepsKeys.withMac _).bind fun _ => KeepsKeys.mainUpdate data)
  | giveTag tag => exact ⟨h.main, h.header⟩
  | finishDecryption => exact h.outcome KeepsKeys.finalize

/-- `s` is an instance that has got the key, whatever has been done with it since. -/
def UsesKey (key : Bytes) (s : Chacha20Poly1205 o) : Prop :=
  ∃ (mode : CrypterMode) (s₀ s₁ : Chacha20Poly1205 o) (calls : List Call),
    initializeKey mode key s₀ = .ok s₁ ∧ s = calls.foldl Call.after s₁

theorem of_keyedCtx {mode : CrypterMode} {key : Bytes} {ctx : o.Ctx}
    (h : keyedCtx mode key = .ok ctx) : o.HasKey (key.take 32) ctx := by
  obtain ⟨empty, hempty⟩ := o.newCtx_succeeds
  unfold keyedCtx at h
  rw [hempty] at h
  dsimp only at h
  by_cases hshort : key.length < 32
  · rw [if_pos hshort] at h
    cases h
  · obtain ⟨ctx', hinit, hkey⟩ := o.initKey_hasKey mode hempty (Nat.not_lt.mp hshort)
    rw [if_neg hshort, hinit] at h
    cases h
    exact hkey

theorem keyedCtx_succeeds (mode : CrypterMode) {key : Bytes} (h : 32 ≤ key.length) :
    ∃ ctx : o.Ctx, keyedCtx mode key = .ok ctx := by
  obtain ⟨empty, hempty⟩ := o.newCtx_succeeds
  obtain ⟨ctx, hinit, -⟩ := o.initKey_hasKey mode hempty h
  refine ⟨ctx, ?_⟩
  unfold keyedCtx
  rw [hempty]
  dsimp only
  rw [if_neg (Nat.not_lt.mpr h), hinit]

theorem hasKeys_of_initializeKey {mode : CrypterMode} {key : Bytes} {s s' : Chacha20Poly1205 o}
    (h : initializeKey mode key s = .ok s') :
    HasKeys (key.take 32) ((key.drop 32).take 32) s' := by
  unfold initializeKey at h
  split at h
  · cases h
  · obtain ⟨mainCtx, hmain, h⟩ := Except.bind_eq_ok_iff.mp h
    obtain ⟨headerCtx, hheader, h⟩ := Except.bind_eq_ok_iff.mp h
    cases h
    have hmainKey := of_keyedCtx hmain
    rw [List.take_take] at hmainKey
    exact ⟨⟨mainCtx, rfl, hmainKey⟩, headerCtx, rfl, of_keyedCtx hheader⟩

theorem initializeKey_succeeds (mode : CrypterMode) {key : Bytes} (h : 64 ≤ key.length)
    (s : Chacha20Poly1205 o) : ∃ s', initializeKey mode key s = .ok s' := by
  have htake : 32 ≤ (key.take 32).length := by
    rw [List.length_take]
    omega
  have hdrop : 32 ≤ (key.drop 32).length := by
    rw [List.length_drop]
    omega
  obtain ⟨mainCtx, hmain⟩ := keyedCtx_succeeds (o := o) mode htake
  obtain ⟨headerCtx, hheader⟩ := keyedCtx_succeeds (o := o) mode hdrop
  refine ⟨{ s with mainCtx := some mainCtx, headerCtx := some headerCtx }, ?_⟩
  unfold initializeKey
  rw [if_neg (by omega), hmain]
  change (keyedCtx mode (key.drop 32) >>= _) = _
  rw [hheader]
  rfl

theorem UsesKey.hasKeys {key : Bytes} {s : Chacha20Poly1205 o} (h : UsesKey key s) :
    HasKeys (key.take 32) ((key.drop 32).take 32) s := by
  obtain ⟨mode, s₀, s₁, calls, hinit, rfl⟩ := h
  have hcalls : ∀ s : Chacha20Poly1205 o, HasKeys (key.take 32) ((key.drop 32).take 32) s →
      HasKeys (key.take 32) ((key.drop 32).take 32) (calls.foldl Call.after s) := by
    induction calls with
    | nil => exact fun s hs => hs
    | cons call rest ih => exact fun s hs => ih (call.after s) (hs.after call)
  exact hcalls s₁ (hasKeys_of_initializeKey hinit)

/-! ## Sealing and opening -/

/-- The calls of the packet layer that seal a packet: its header, its content and its tag. -/
def sealPacket (number : UInt32) (aad data : Bytes) : Method o (Bytes × Bytes × Bytes) := do
  updateSequenceNumber .encrypt number
  let aad ← Encrypt.additionalAuthenticatedData aad
  let updated ← Encrypt.update data
  let finalized ← Encrypt.finalize
  let tag ← Encrypt.authenticationTag
  return (aad, updated ++ finalized, tag)

/-- The calls of the packet layer that open one. -/
def openPacket (number : UInt32) (aad data tag : Bytes) : Method o (Bytes × Bytes) := do
  updateSequenceNumber .decrypt number
  let aad ← Decrypt.additionalAuthenticatedData aad
  let updated ← Decrypt.update data
  Decrypt.authenticationTag tag
  let finalized ← Decrypt.finalize
  return (aad, updated ++ finalized)

section Both

variable {main header : Bytes} {s : Chacha20Poly1205 o}

/-- What goes out on the wire. -/
theorem sealPacket_run (number : UInt32) (h : HasKeys main header s) (aad data : Bytes) :
    ∃ s', sealPacket number aad data s =
      .ok (packetMasked o header number 0 aad, packetMasked o main number 64 data,
        tagOf o main number
          (packetMasked o header number 0 aad ++ packetMasked o main number 64 data)) s' := by
  obtain ⟨s₁, s₂, s₃, s₄, s₅, hnumber, hheader, hupdate, hfinal, htag, -⟩ :=
    seal_runs h number aad data
  refine ⟨s₅, ?_⟩
  unfold sealPacket
  rw [bind_of_ok hnumber, bind_of_ok hheader, bind_of_ok hupdate, bind_of_ok hfinal,
    bind_of_ok htag, List.append_nil]
  rfl

/-- What comes in is opened if its tag is the one of its octets. -/
theorem openPacket_run (number : UInt32) (h : HasKeys main header s) (aad data tag : Bytes) :
    ∃ s', openPacket number aad data tag s =
      if tag = tagOf o main number (aad ++ data) then
        .ok (packetMasked o header number 0 aad, packetMasked o main number 64 data) s'
      else .error (.cipher .macVerificationFailed) s' := by
  obtain ⟨s₁, s₂, s₃, s₄, s₅, hnumber, hheader, hupdate, hgive, hfinal, -⟩ :=
    open_runs h number aad data tag
  refine ⟨s₅, ?_⟩
  unfold openPacket
  rw [bind_of_ok hnumber, bind_of_ok hheader, bind_of_ok hupdate, bind_of_ok hgive]
  by_cases htag : tag = tagOf o main number (aad ++ data)
  · rw [if_pos htag] at hfinal
    rw [bind_of_ok hfinal, if_pos htag, List.append_nil]
    rfl
  · rw [if_neg htag] at hfinal
    rw [bind_of_error hfinal, if_neg htag]

end Both

/-- Instances that got the same key, whatever else has been done with them since: what one seals under
a sequence number, the other opens under that number, whatever came before; and it opens nothing that
does not come with the tag of its octets. -/
theorem sealed_packet_opened {key : Bytes} {sealing opening : Chacha20Poly1205 o}
    (hsealing : UsesKey key sealing) (hopening : UsesKey key opening) (number : UInt32)
    (aad data : Bytes) :
    ∃ aad' data' tag sealing',
      sealPacket number aad data sealing = .ok (aad', data', tag) sealing' ∧
      aad'.length = aad.length ∧ data'.length = data.length ∧ tag.length = tagLen ∧
      (∃ opening', openPacket number aad' data' tag opening = .ok (aad, data) opening') ∧
      ∀ received, received ≠ tag → ∃ opening', openPacket number aad' data' received opening =
        .error (.cipher .macVerificationFailed) opening' := by
  obtain ⟨sealing', hseal⟩ := sealPacket_run number hsealing.hasKeys aad data
  refine ⟨_, _, _, sealing', hseal, length_packetMasked _ _ _ _, length_packetMasked _ _ _ _,
    length_tagOf _ _ _, ?_, fun received hne => ?_⟩
  · obtain ⟨opening', hopen⟩ := openPacket_run number hopening.hasKeys
      (packetMasked o ((key.drop 32).take 32) number 0 aad)
      (packetMasked o (key.take 32) number 64 data) (tagOf o (key.take 32) number _)
    rw [if_pos rfl, packetMasked_packetMasked, packetMasked_packetMasked] at hopen
    exact ⟨opening', hopen⟩
  · obtain ⟨opening', hopen⟩ := openPacket_run number hopening.hasKeys
      (packetMasked o ((key.drop 32).take 32) number 0 aad)
      (packetMasked o (key.take 32) number 64 data) received
    rw [if_neg hne] at hopen
    exact ⟨opening', hopen⟩

end Chacha20Poly1205

/-! ## Contexts that record -/

/-- Contexts that remember their key, their IV and how much they have coded, and look the key stream
up. -/
def ChachaCalls.recorded (streams : List ((Bytes × Bytes) × Bytes))
    (tags : List ((TagAlgorithm × Bytes × Bytes) × Bytes)) : ChachaCalls where
  sign := .recorded tags
  Ctx := Option (Bytes × Option (Bytes × ℕ))
  newCtx := some none
  initKey _ key _ :=
    if 32 ≤ key.length then (some (), some (key.take 32, none)) else (none, none)
  initIv _ iv
    | some (key, _) => (some (), some (key, some (iv, 0)))
    | none => (none, none)
  cipherUpdate data
    | some (key, some (iv, n)) =>
      (some (masked (recordedStream streams) key iv n data), some (key, some (iv, n + data.length)))
    | ctx => (none, ctx)
  cipherFinal
    | some (key, some coded) => (some [], some (key, some coded))
    | ctx => (none, ctx)
  keystream := recordedStream streams
  HasKey key ctx := ∃ coded, ctx = some (key, coded)
  Codes key iv n ctx := ctx = some (key, some (iv, n))
  newCtx_succeeds := ⟨_, rfl⟩
  initKey_hasKey _ _ _ _ h := ⟨_, if_pos h, none, rfl⟩
  initIv_codes {key iv ctx} mode h _ := by
    obtain ⟨coded, rfl⟩ := h
    exact ⟨_, rfl, rfl⟩
  cipherUpdate_codes {key iv n ctx} data h := by
    cases h
    exact ⟨_, rfl, rfl⟩
  cipherFinal_codes {key iv n ctx} h := by
    cases h
    exact ⟨_, rfl⟩
  length_cipherUpdate {data out ctx} h := by
    match ctx with
    | some (key, some (iv, n)) =>
      cases h
      exact length_masked key iv n data
    | some (key, none) => cases h
    | none => cases h
  hasKey_of_codes h := ⟨_, h⟩
  hasKey_cipherUpdate {key ctx} data h := by
    obtain ⟨_ | ⟨iv, n⟩, rfl⟩ := h
    · exact ⟨none, rfl⟩
    · exact ⟨_, rfl⟩
  hasKey_cipherFinal {key ctx} h := by
    obtain ⟨_ | coded, rfl⟩ := h
    · exact ⟨none, rfl⟩
    · exact ⟨_, rfl⟩

namespace Chacha20Poly1205

/-- The octets 0 to 63: the key of the cipher. -/
def recordedKey : Bytes :=
  (List.range 64).map UInt8.ofNat

/-- ChaCha20 under both halves of the key, for the packets 3 and 9. -/
def recordedStreams : List ((Bytes × Bytes) × Bytes) :=
  [ ((recordedKey.take 32, ivOf 3),
      BigEndian.fixed 36 0xdb086ae2f45cdddec4f3bbd3394a4e93fa4bde5c2215a0b926d174ee4e7150d22b381beb ++
      BigEndian.fixed 36 0x324b856040df0a5b2d29f76fe1912acdee0b957ba73987c5fcc8497780451cbb324aa471),
    ((recordedKey.drop 32, ivOf 3), BigEndian.fixed 4 0xfb1a928a),
    ((recordedKey.take 32, ivOf 9),
      BigEndian.fixed 32 0xa8195088e882ac4760862f108fce87d86c4dfb39812cd4dac87c99e36a37b840 ++
      BigEndian.fixed 32 0xcf6ec0b4fe0c64e8b018b2d05dfaba8c34a6efb4995172134657867a25e914b5),
    ((recordedKey.drop 32, ivOf 9), BigEndian.fixed 4 0x4674adae) ]

/-- Poly1305 of the packet 3, and of four octets that came as the header of packet 9. -/
def recordedTags : List ((TagAlgorithm × Bytes × Bytes) × Bytes) :=
  [ ((.poly1305, BigEndian.fixed 32 0xdb086ae2f45cdddec4f3bbd3394a4e93fa4bde5c2215a0b926d174ee4e7150d2,
      BigEndian.fixed 12 0xfb1a928281471fbf374ca379), BigEndian.fixed 16 0x5f5655632b1fc2ee60f67aa15bbead07),
    ((.poly1305, BigEndian.fixed 32 0xa8195088e882ac4760862f108fce87d86c4dfb39812cd4dac87c99e36a37b840,
      [1, 1, 1, 1]), BigEndian.fixed 16 0xb685c15e83094402489a63010d48ca2b) ]

/-- The other side has failed to open a packet before. -/
theorem sealed_packet_opened_later :
    ∃ sealing opening : Chacha20Poly1205 (.recorded recordedStreams recordedTags), ∃ sealing',
      sealPacket 3 [0, 0, 0, 8] [1, 2, 3, 4, 5, 6, 7, 8] sealing =
        .ok (BigEndian.fixed 4 0xfb1a9282, BigEndian.fixed 8 0x81471fbf374ca379,
          BigEndian.fixed 16 0x5f5655632b1fc2ee60f67aa15bbead07) sealing' ∧
      ∃ opening', openPacket 3 (BigEndian.fixed 4 0xfb1a9282) (BigEndian.fixed 8 0x81471fbf374ca379)
        (BigEndian.fixed 16 0x5f5655632b1fc2ee60f67aa15bbead07) opening =
          .ok ([0, 0, 0, 8], [1, 2, 3, 4, 5, 6, 7, 8]) opening' := by
  let keyed (key : Bytes) : Option (Bytes × Option (Bytes × ℕ)) := some (key, none)
  let s : Chacha20Poly1205 (.recorded recordedStreams recordedTags) := {
    mainCtx := some (keyed (recordedKey.take 32))
    headerCtx := some (keyed (recordedKey.drop 32))
    macCtx := none
    mac := none }
  let calls : List Call := [.updateSequenceNumber .decrypt 9, .decryptHeader [1, 1, 1, 1],
    .giveTag [], .finishDecryption]
  obtain ⟨aad', data', tag, sealing', hseal, -, -, -, hopen, -⟩ :=
    sealed_packet_opened (⟨.encrypt, new, s, [], rfl, rfl⟩ : UsesKey recordedKey s)
      ⟨.decrypt, new, s, calls, rfl, rfl⟩ 3 [0, 0, 0, 8] [1, 2, 3, 4, 5, 6, 7, 8]
  have hwire : (outcome (sealPacket 3 [0, 0, 0, 8] [1, 2, 3, 4, 5, 6, 7, 8]) s).1 =
      .ok (BigEndian.fixed 4 0xfb1a9282, BigEndian.fixed 8 0x81471fbf374ca379,
        BigEndian.fixed 16 0x5f5655632b1fc2ee60f67aa15bbead07) := by
    decide +kernel
  rw [outcome_of_ok hseal] at hwire
  cases hwire
  exact ⟨s, _, sealing', hseal, hopen⟩

end Chacha20Poly1205

/-! ## The packet layer's assumptions -/

theorem ChachaEncrypt.run_ok {α : Type} {m : Method o α} {e : ChachaEncrypt o} {a : α}
    {s' : Chacha20Poly1205 o} (h : m e.cipher = .ok a s') : e.run m = (.ok a, ⟨s'⟩) := by
  unfold ChachaEncrypt.run
  rw [outcome_of_ok h]

theorem ChachaDecrypt.run_ok {α : Type} {m : Method o α} {d : ChachaDecrypt o} {a : α}
    {s' : Chacha20Poly1205 o} (h : m d.cipher = .ok a s') : d.run m = (.ok a, ⟨s'⟩) := by
  unfold ChachaDecrypt.run
  rw [outcome_of_ok h]

theorem ChachaDecrypt.of_run_ok {α : Type} {m : Method o α} {d : ChachaDecrypt o} {a : α}
    (h : (d.run m).1 = .ok a) : ∃ s', m d.cipher = .ok a s' := by
  unfold ChachaDecrypt.run outcome at h
  cases hrun : m d.cipher with
  | ok b s' =>
    rw [hrun] at h
    exact ⟨s', congrArg (fun b => EStateM.Result.ok b s') (Except.ok.inj h)⟩
  | error e s' =>
    rw [hrun] at h
    cases h

theorem Chacha20Poly1205.length_update {data out : Bytes} {s s' : Chacha20Poly1205 o}
    (h : Decrypt.update data s = .ok out s') : out.length = data.length := by
  obtain ⟨_, s₁, -, hmain⟩ := bind_eq_ok_iff.mp h
  unfold withMain at hmain
  rw [get_bind] at hmain
  cases hctx : s₁.mainCtx with
  | none =>
    rw [hctx] at hmain
    cases hmain
  | some ctx =>
    rw [hctx] at hmain
    cases hout : (o.cipherUpdate data ctx).1 with
    | none =>
      simp only [orUninitialized, pure_bind, hout] at hmain
      cases hmain
    | some out' =>
      simp only [orUninitialized, pure_bind, hout] at hmain
      cases hmain
      exact o.length_cipherUpdate hout

instance : LawfulDecrypt (ChachaDecrypt o) where
  eight_le_blockSize _ := Nat.le_refl 8
  flags_updateSequenceNumber _ _ := rfl
  flags_additionalAuthenticatedData _ _ := rfl
  flags_update _ _ := rfl
  flags_authenticationTag _ _ := rfl
  flags_finalize _ := rfl
  length_update_block data d _ hok := by
    change (appended _ (d.run (Decrypt.update data)).1).1 = _ at hok
    change (appended _ (d.run (Decrypt.update data)).1).2.length = _
    cases hout : (d.run (Decrypt.update data)).1 with
    | error e =>
      rw [hout] at hok
      cases hok
    | ok out =>
      obtain ⟨s', hrun⟩ := ChachaDecrypt.of_run_ok hout
      exact length_update hrun
  length_update_finalize data d := by
    intro updated finalized hupdated _
    change (appended _ (d.run (Decrypt.update data)).1).1 = _ at hupdated
    change _ ≤ (appended _ (d.run (Decrypt.update data)).1).2.length + _
    cases hout : (d.run (Decrypt.update data)).1 with
    | error e =>
      rw [hout] at hupdated
      cases hupdated
    | ok out =>
      obtain ⟨s', hrun⟩ := ChachaDecrypt.of_run_ok hout
      have hlength := length_update hrun
      change _ ≤ out.length + _
      omega

/-- Both ends of a direction: they have the same keys. -/
def ChachaEncrypt.Corresponds (e : ChachaEncrypt o) (d : ChachaDecrypt o) : Prop :=
  ∃ main header, HasKeys main header e.cipher ∧ HasKeys main header d.cipher

theorem octets_headerOf {data : Bytes} (h : data.length = 4) : (headerOf data).octets = data := by
  match data, h with
  | [_, _, _, _], _ => rfl

section Layer

variable {main header : Bytes}

/-- Sealing with the calls of the packet layer. -/
theorem ChachaEncrypt.seals {e : ChachaEncrypt o} (h : HasKeys main header e.cipher) (n : UInt32)
    (aad : Header) (data : Bytes) :
    ∃ e₁ e₂ e₃ e₄, PacketEncrypt.updateSequenceNumber n e = (.ok (), e₁) ∧
      PacketEncrypt.additionalAuthenticatedData aad e₁ =
        (.ok (headerOf (packetMasked o header n 0 aad.octets)), e₂) ∧
      PacketEncrypt.whole data e₂ = (.ok (packetMasked o main n 64 data), e₃) ∧
      PacketEncrypt.authenticationTag e₃ = (.ok (tagOf o main n
        (packetMasked o header n 0 aad.octets ++ packetMasked o main n 64 data)), e₄) ∧
      HasKeys main header e₄.cipher := by
  obtain ⟨s₁, s₂, s₃, s₄, s₅, hnumber, hheader, hupdate, hfinal, htag, hkeys⟩ :=
    seal_runs h n aad.octets data
  have haad : (headerOf <$> Encrypt.additionalAuthenticatedData aad.octets : Method o Header) s₁ =
      .ok (headerOf (packetMasked o header n 0 aad.octets)) s₂ :=
    (bind_of_ok hheader : (Encrypt.additionalAuthenticatedData aad.octets >>= fun data =>
      pure (headerOf data) : Method o Header) _ = _)
  have hwhole := PacketEncrypt.whole_of_ok (e := ⟨s₂⟩) (run_ok hupdate) (run_ok hfinal)
  rw [List.append_nil] at hwhole
  exact ⟨_, _, _, _, run_ok hnumber, run_ok haad, hwhole, run_ok htag, hkeys⟩

/-- Opening with the calls of the packet layer. -/
theorem ChachaDecrypt.opens {d : ChachaDecrypt o} (h : HasKeys main header d.cipher) (n : UInt32)
    (aad : Header) (data : Bytes) :
    ∃ d₁ d₂ d₃ d₄ d₅, PacketDecrypt.updateSequenceNumber n d = (.ok (), d₁) ∧
      PacketDecrypt.additionalAuthenticatedData aad d₁ =
        (.ok (headerOf (packetMasked o header n 0 aad.octets)), d₂) ∧
      PacketDecrypt.update data d₂ = ((.ok (), packetMasked o main n 64 data), d₃) ∧
      PacketDecrypt.authenticationTag (tagOf o main n (aad.octets ++ data)) d₃ = (.ok (), d₄) ∧
      PacketDecrypt.finalize d₄ = ((.ok (), []), d₅) ∧ HasKeys main header d₅.cipher := by
  obtain ⟨s₁, s₂, s₃, s₄, s₅, hnumber, hheader, hupdate, hgive, hfinal, hkeys⟩ :=
    open_runs h n aad.octets data (tagOf o main n (aad.octets ++ data))
  rw [if_pos rfl] at hfinal
  have haad : (headerOf <$> Decrypt.additionalAuthenticatedData aad.octets : Method o Header) s₁ =
      .ok (headerOf (packetMasked o header n 0 aad.octets)) s₂ :=
    (bind_of_ok hheader : (Decrypt.additionalAuthenticatedData aad.octets >>= fun data =>
      pure (headerOf data) : Method o Header) _ = _)
  have hupdated : PacketDecrypt.update data (⟨s₂⟩ : ChachaDecrypt o) =
      ((.ok (), packetMasked o main n 64 data), ⟨s₃⟩) := by
    have hrun := run_ok (d := ⟨s₂⟩) hupdate
    exact Prod.ext (congrArg (fun r => appended _ r.1) hrun) (congrArg (fun r => r.2) hrun)
  have hfinalized : PacketDecrypt.finalize (⟨s₄⟩ : ChachaDecrypt o) = ((.ok (), []), ⟨s₅⟩) := by
    have hrun := run_ok (d := ⟨s₄⟩) hfinal
    exact Prod.ext (congrArg (fun r => appended _ r.1) hrun) (congrArg (fun r => r.2) hrun)
  exact ⟨_, _, _, _, _, run_ok hnumber, run_ok haad, hupdated, run_ok hgive, hfinalized, hkeys⟩

end Layer

namespace ChachaEncrypt

theorem inverts_corresponds : Inverts (@Corresponds o) where
  isGaloisCounterMode _ := rfl
  blockSize _ := rfl
  blockSize_le _ := (by decide : 8 ≤ 252)
  tagLen_le _ := (by decide : 16 ≤ 1024)
  number _ _ hmode := absurd hmode Bool.noConfusion
  whole _ hmode := absurd hmode Bool.noConfusion
  split _ hmode := absurd hmode Bool.noConfusion
  tagged {e e₁ e₂ e₃ e₄ d n aad aad' data out tag} h _ hnumber haad hwhole htag := by
    obtain ⟨main, header, he, hd⟩ := h
    obtain ⟨_, _, _, _, hnumber', haad', hwhole', htag', hafter⟩ := seals he n aad data
    cases hnumber.symm.trans hnumber'
    cases haad.symm.trans haad'
    cases hwhole.symm.trans hwhole'
    cases htag.symm.trans htag'
    obtain ⟨d₁, d₂, d₃, d₄, d₅, hstart, hopen, hupdate, hgive, hfinalize, hkeyed⟩ :=
      ChachaDecrypt.opens hd n (headerOf (packetMasked o header n 0 aad.octets))
        (packetMasked o main n 64 data)
    rw [octets_headerOf (length_packetMasked _ _ _ _), packetMasked_packetMasked] at hopen
    rw [octets_headerOf (length_packetMasked _ _ _ _)] at hgive
    rw [packetMasked_packetMasked] at hupdate
    exact ⟨length_packetMasked _ _ _ _, length_tagOf _ _ _, d₁, d₂, data, d₃, d₄, [], d₅, hstart,
      hopen, hupdate, hgive, hfinalize, List.append_nil _, main, header, hafter, hkeyed⟩

/-- Sealing never fails. -/
theorem seals_always {e : ChachaEncrypt o} {d : ChachaDecrypt o} (h : Corresponds e d) (n : UInt32)
    (header : Header) (data : Bytes) :
    ∃ e₁ header' e₂ out e₃ tag e₄, PacketEncrypt.updateSequenceNumber n e = (.ok (), e₁) ∧
      PacketEncrypt.additionalAuthenticatedData header e₁ = (.ok header', e₂) ∧
      PacketEncrypt.whole data e₂ = (.ok out, e₃) ∧
      PacketEncrypt.authenticationTag e₃ = (.ok tag, e₄) := by
  obtain ⟨main, header', he, -⟩ := h
  obtain ⟨e₁, e₂, e₃, e₄, hnumber, haad, hwhole, htag, -⟩ := seals he n header data
  exact ⟨e₁, _, e₂, _, e₃, _, e₄, hnumber, haad, hwhole, htag⟩

end ChachaEncrypt

/-- Both ends are initialized alike. -/
theorem ChachaEncrypt.corresponds_of_initialize {e : ChachaEncrypt o} {d : ChachaDecrypt o}
    {key : Bytes} (hkey : key.length = keyLen) :
    ∃ e' d', e.cipher.initializeKey .encrypt key = .ok e' ∧
      d.cipher.initializeKey .decrypt key = .ok d' ∧ Corresponds ⟨e'⟩ ⟨d'⟩ := by
  obtain ⟨e', he⟩ := initializeKey_succeeds .encrypt (Nat.le_of_eq hkey.symm) e.cipher
  obtain ⟨d', hd⟩ := initializeKey_succeeds .decrypt (Nat.le_of_eq hkey.symm) d.cipher
  exact ⟨e', d', he, hd, key.take 32, (key.drop 32).take 32, hasKeys_of_initializeKey he,
    hasKeys_of_initializeKey hd⟩

end Flatline
