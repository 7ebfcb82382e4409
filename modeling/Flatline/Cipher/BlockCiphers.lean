import Flatline.Cipher.Contexts
import Flatline.Transport.RoundTrip

/-!
# Ciphers in counter mode and with chained blocks

The seven ciphers that OpenSSL's contexts code on their own: AES in counter mode and with chained
blocks, and triple DES with chained blocks. A context is set up once, and its state goes on from
packet to packet.

Source: `src/cipher/crypt.rs` (`CounterModeOrCipherBlockChaining`).
-/

namespace Flatline

open Triple

/-- `ensure`, and that the block size leaves room for the padding length in one octet. -/
def EvpCipher.Sizes (c : EvpCipher) (blockSize keyLen ivLen : ℕ) : Prop :=
  c.unit ∣ blockSize ∧ 8 ≤ blockSize ∧ blockSize ≤ 252 ∧ c.keyLength = keyLen ∧ c.ivLength = ivLen

instance (c : EvpCipher) (blockSize keyLen ivLen : ℕ) :
    Decidable (c.Sizes blockSize keyLen ivLen) :=
  inferInstanceAs (Decidable (_ ∧ _))

/-- `CounterModeOrCipherBlockChaining`. -/
structure CounterModeOrCipherBlockChaining (evp : Evp) where
  name : Text
  cipher : EvpCipher
  ctx : Option evp.Ctx
  blockSize : ℕ
  keyLen : ℕ
  ivLen : ℕ
  sizes : cipher.Sizes blockSize keyLen ivLen

namespace CounterModeOrCipherBlockChaining

variable {evp : Evp}

/-- A cipher that is not initialized. -/
def new (name : Text) (cipher : EvpCipher) (blockSize keyLen ivLen : ℕ)
    (sizes : cipher.Sizes blockSize keyLen ivLen) : CounterModeOrCipherBlockChaining evp where
  name
  cipher
  ctx := none
  blockSize
  keyLen
  ivLen
  sizes

def aes256Ctr : CounterModeOrCipherBlockChaining evp :=
  new (ascii "aes256-ctr") .aes256Ctr 16 32 16 (by decide)

def aes128Cbc : CounterModeOrCipherBlockChaining evp :=
  new (ascii "aes128-cbc") .aes128Cbc 16 16 16 (by decide)

def aes192Cbc : CounterModeOrCipherBlockChaining evp :=
  new (ascii "aes192-cbc") .aes192Cbc 16 24 16 (by decide)

def aes256Cbc : CounterModeOrCipherBlockChaining evp :=
  new (ascii "aes256-cbc") .aes256Cbc 16 32 16 (by decide)

def aes128Ctr : CounterModeOrCipherBlockChaining evp :=
  new (ascii "aes128-ctr") .aes128Ctr 16 16 16 (by decide)

def aes192Ctr : CounterModeOrCipherBlockChaining evp :=
  new (ascii "aes192-ctr") .aes192Ctr 16 24 16 (by decide)

def desEde3Cbc : CounterModeOrCipherBlockChaining evp :=
  new (ascii "3des-cbc") .desEde3Cbc 8 24 8 (by decide)

/-! ## Methods -/

/-- A method. What it has changed before it fails stays changed. -/
abbrev Method (evp : Evp) := EStateM Error (CounterModeOrCipherBlockChaining evp)

/-- `initialize` of either trait. A key or an IV that is too short fails an assertion of the
context. -/
def initializeCtx (mode : CrypterMode) (iv key : Bytes) (s : CounterModeOrCipherBlockChaining evp) :
    Except Abort (CounterModeOrCipherBlockChaining evp) :=
  match evp.newCtx with
  | none => .error (.error .openssl)
  | some ctx =>
    if key.length < s.cipher.keyLength ∨ iv.length < s.cipher.ivLength then .error .panic
    else
      match evp.init mode s.cipher key iv ctx with
      | (none, _) => .error (.error .openssl)
      | (some (), ctx) => .ok { s with ctx := some (evp.setPadding false ctx) }

/-- A function of the context, behind `get_ctx_mut`. -/
def withCtx {α : Type} (f : evp.Ctx → Option α × evp.Ctx) : Method evp α := do
  match (← get).ctx with
  | none => throw (.invalidOperation (ascii "Uninitialized context"))
  | some ctx =>
    modify fun s => { s with ctx := some (f ctx).2 }
    opensslContext (f ctx).1

/-- `update` of either trait: the octets that it appends. -/
def update (data : Bytes) : Method evp Bytes :=
  withCtx (evp.cipherUpdate data)

/-- `finalize` of either trait: the octets that it appends. -/
def finalize : Method evp Bytes :=
  withCtx evp.cipherFinal

/-- `Decrypt::authentication_tag`. -/
def authenticationTag (tag : Bytes) : Method evp Unit :=
  withCtx (evp.setTag tag)

/-- The room that `cipher_update_vec` and `cipher_final_vec` make for so many octets and a block. -/
def room (n : ℕ) (s : CounterModeOrCipherBlockChaining evp) : Bytes :=
  match s.ctx with
  | none => []
  | some _ => List.replicate (n + s.cipher.unit) 0

end CounterModeOrCipherBlockChaining

open CounterModeOrCipherBlockChaining

variable {evp : Evp}

instance : PacketEncrypt (CounterModeOrCipherBlockChaining evp) where
  blockSize s := s.blockSize
  isGaloisCounterMode _ := false
  updateSequenceNumber _ s := (.ok (), s)
  additionalAuthenticatedData header s := (.ok header, s)
  update data s := outcome (update data) s
  finalize s := outcome finalize s
  authenticationTag s := (.ok [], s)

/-- The octets that a result appends to its buffer. A failure leaves the room there that had been made
for them. -/
def appended (room : Bytes) (result : Except Error Bytes) : Except Error Unit × Bytes :=
  match result with
  | .ok data => (.ok (), data)
  | .error e => (.error e, room)

instance : PacketDecrypt (CounterModeOrCipherBlockChaining evp) where
  blockSize s := s.blockSize
  isGaloisCounterMode _ := false
  tagLen _ := 0
  updateSequenceNumber _ s := (.ok (), s)
  additionalAuthenticatedData header s := (.ok header, s)
  update data s :=
    (appended (s.room data.length) (outcome (update data) s).1, (outcome (update data) s).2)
  authenticationTag tag s := outcome (authenticationTag tag) s
  finalize s := (appended (s.room 0) (outcome finalize s).1, (outcome finalize s).2)

/-! ## Runs -/

namespace CounterModeOrCipherBlockChaining

theorem withCtx_run {α : Type} {f : evp.Ctx → Option α × evp.Ctx}
    {s : CounterModeOrCipherBlockChaining evp} {ctx ctx' : evp.Ctx} {a : α}
    (hctx : s.ctx = some ctx) (hf : f ctx = (some a, ctx')) :
    withCtx f s = .ok a { s with ctx := some ctx' } := by
  unfold withCtx
  rw [get_bind, hctx]
  dsimp only
  rw [hf]
  rfl

theorem withCtx_fails {α : Type} {f : evp.Ctx → Option α × evp.Ctx}
    {s : CounterModeOrCipherBlockChaining evp} {ctx ctx' : evp.Ctx}
    (hctx : s.ctx = some ctx) (hf : f ctx = (none, ctx')) :
    withCtx f s = .error .openssl { s with ctx := some ctx' } := by
  unfold withCtx
  rw [get_bind, hctx]
  dsimp only
  rw [hf]
  rfl

theorem withCtx_none {α : Type} {f : evp.Ctx → Option α × evp.Ctx}
    {s : CounterModeOrCipherBlockChaining evp} (hctx : s.ctx = none) :
    withCtx f s = .error (.invalidOperation (ascii "Uninitialized context")) s := by
  unfold withCtx
  rw [get_bind, hctx]
  rfl

/-- An instance with a context. -/
def holding (s : CounterModeOrCipherBlockChaining evp) (ctx : evp.Ctx) :
    CounterModeOrCipherBlockChaining evp :=
  { s with ctx := some ctx }

theorem holding_of_ctx {s : CounterModeOrCipherBlockChaining evp} {ctx : evp.Ctx}
    (h : s.ctx = some ctx) : s.holding ctx = s := by
  unfold holding
  rw [← h]

section Coding

variable {mode : CrypterMode} {s : CounterModeOrCipherBlockChaining evp}
  {f : (evp.coder mode s.cipher).Feed} {ctx : evp.Ctx}

theorem update_run (h : evp.Codes mode s.cipher f ctx) (data : Bytes) :
    ∃ ctx', update data (s.holding ctx) = .ok (f.feed data).1 (s.holding ctx') ∧
      evp.Codes mode s.cipher (f.feed data).2 ctx' := by
  obtain ⟨ctx', hupdate, hcodes⟩ := evp.cipherUpdate_codes data h
  exact ⟨ctx', withCtx_run rfl hupdate, hcodes⟩

theorem finalize_run (h : evp.Codes mode s.cipher f ctx) (hpending : f.pending = []) :
    ∃ ctx', finalize (s.holding ctx) = .ok [] (s.holding ctx') ∧
      evp.Codes mode s.cipher f ctx' := by
  obtain ⟨ctx', hfinal, hcodes⟩ := evp.cipherFinal_codes h
  rw [if_pos hpending] at hfinal
  exact ⟨ctx', withCtx_run rfl hfinal, hcodes⟩

theorem finalize_fails (h : evp.Codes mode s.cipher f ctx) (hpending : f.pending ≠ []) :
    ∃ ctx', finalize (s.holding ctx) = .error .openssl (s.holding ctx') := by
  obtain ⟨ctx', hfinal, -⟩ := evp.cipherFinal_codes h
  rw [if_neg hpending] at hfinal
  exact ⟨ctx', withCtx_fails rfl hfinal⟩

end Coding

/-- The coder that a key and an IV start. -/
def started (s : CounterModeOrCipherBlockChaining evp) (mode : CrypterMode) (iv key : Bytes) :
    (evp.coder mode s.cipher).Feed :=
  (evp.coder mode s.cipher).start
    (evp.start s.cipher (key.take s.cipher.keyLength) (iv.take s.cipher.ivLength))

theorem of_initializeCtx {mode : CrypterMode} {s s' : CounterModeOrCipherBlockChaining evp}
    {iv key : Bytes} (h : initializeCtx mode iv key s = .ok s') :
    ∃ ctx, s' = s.holding ctx ∧ evp.Codes mode s.cipher (s.started mode iv key) ctx := by
  obtain ⟨empty, hempty⟩ := evp.newCtx_succeeds
  unfold initializeCtx at h
  rw [hempty] at h
  dsimp only at h
  by_cases hshort : key.length < s.cipher.keyLength ∨ iv.length < s.cipher.ivLength
  · rw [if_pos hshort] at h
    cases h
  · obtain ⟨hkey, hiv⟩ := not_or.mp hshort
    obtain ⟨ctx, hinit, hcodes⟩ :=
      evp.init_codes mode hempty (Nat.not_lt.mp hkey) (Nat.not_lt.mp hiv)
    rw [if_neg hshort, hinit] at h
    cases h
    exact ⟨_, rfl, hcodes⟩

/-- Instances that get as much as they ask for are initialized. -/
theorem initializeCtx_succeeds (mode : CrypterMode) (s : CounterModeOrCipherBlockChaining evp)
    {iv key : Bytes} (hiv : iv.length = s.ivLen) (hkey : key.length = s.keyLen) :
    ∃ s', initializeCtx mode iv key s = .ok s' := by
  obtain ⟨-, -, -, hkeyLen, hivLen⟩ := s.sizes
  obtain ⟨empty, hempty⟩ := evp.newCtx_succeeds
  have hkeyLength : s.cipher.keyLength ≤ key.length := by omega
  have hivLength : s.cipher.ivLength ≤ iv.length := by omega
  obtain ⟨ctx, hinit, -⟩ := evp.init_codes mode hempty hkeyLength hivLength
  refine ⟨s.holding (evp.setPadding false ctx), ?_⟩
  unfold initializeCtx
  rw [hempty]
  dsimp only
  rw [if_neg (by omega), hinit]
  rfl

end CounterModeOrCipherBlockChaining

/-! ## Both ends of a direction -/

section Coding

variable {ε δ : Type} [PacketEncrypt ε] [PacketDecrypt δ]

/-- Decrypt octets that arrive in parts: what the calls of `update` append. -/
def PacketDecrypt.updates : List Bytes → δ → (Except Error Unit × Bytes) × δ
  | [], d => ((.ok (), []), d)
  | part :: rest, d =>
    match PacketDecrypt.update part d with
    | ((.error e, out), d) => ((.error e, out), d)
    | ((.ok (), out), d) =>
      let ((result, more), d) := PacketDecrypt.updates rest d
      ((result, out ++ more), d)

/-- Decrypt a packet whose octets arrive in parts. -/
def PacketDecrypt.whole (parts : List Bytes) (d : δ) : Except Error Bytes × δ :=
  match PacketDecrypt.updates parts d with
  | ((.error e, _), d) => (.error e, d)
  | ((.ok (), out), d) =>
    match PacketDecrypt.finalize d with
    | ((.error e, _), d) => (.error e, d)
    | ((.ok (), more), d) => (.ok (out ++ more), d)

/-- Encrypt one packet after the other. -/
def PacketEncrypt.packets : List Bytes → ε → Except Error (List Bytes) × ε
  | [], e => (.ok [], e)
  | packet :: rest, e =>
    match PacketEncrypt.whole packet e with
    | (.error error, e) => (.error error, e)
    | (.ok out, e) =>
      let (result, e) := PacketEncrypt.packets rest e
      (result.map (out :: ·), e)

/-- Decrypt one packet after the other, each in parts. -/
def PacketDecrypt.packets : List (List Bytes) → δ → Except Error (List Bytes) × δ
  | [], d => (.ok [], d)
  | parts :: rest, d =>
    match PacketDecrypt.whole parts d with
    | (.error error, d) => (.error error, d)
    | (.ok packet, d) =>
      let (result, d) := PacketDecrypt.packets rest d
      (result.map (packet :: ·), d)

theorem PacketEncrypt.whole_of_ok {data updated finalized : Bytes} {e e₁ e₂ : ε}
    (hupdate : PacketEncrypt.update data e = (.ok updated, e₁))
    (hfinalize : PacketEncrypt.finalize e₁ = (.ok finalized, e₂)) :
    PacketEncrypt.whole data e = (.ok (updated ++ finalized), e₂) := by
  unfold PacketEncrypt.whole
  rw [hupdate]
  dsimp only
  rw [hfinalize]

theorem PacketDecrypt.whole_of_ok {parts : List Bytes} {updated finalized : Bytes} {d d₁ d₂ : δ}
    (hupdates : PacketDecrypt.updates parts d = ((.ok (), updated), d₁))
    (hfinalize : PacketDecrypt.finalize d₁ = ((.ok (), finalized), d₂)) :
    PacketDecrypt.whole parts d = (.ok (updated ++ finalized), d₂) := by
  unfold PacketDecrypt.whole
  rw [hupdates]
  dsimp only
  rw [hfinalize]

theorem PacketDecrypt.updates_cons {part : Bytes} {rest : List Bytes} {out more : Bytes}
    {d d₁ d₂ : δ} {result : Except Error Unit}
    (hupdate : PacketDecrypt.update part d = ((.ok (), out), d₁))
    (hupdates : PacketDecrypt.updates rest d₁ = ((result, more), d₂)) :
    PacketDecrypt.updates (part :: rest) d = ((result, out ++ more), d₂) := by
  unfold PacketDecrypt.updates
  rw [hupdate]
  dsimp only
  rw [hupdates]

theorem PacketDecrypt.of_updates_cons {part : Bytes} {rest : List Bytes} {out : Bytes} {d d₂ : δ}
    (h : PacketDecrypt.updates (part :: rest) d = ((.ok (), out), d₂)) :
    ∃ first d₁ more, PacketDecrypt.update part d = ((.ok (), first), d₁) ∧
      PacketDecrypt.updates rest d₁ = ((.ok (), more), d₂) ∧ first ++ more = out := by
  unfold PacketDecrypt.updates at h
  rcases hupdate : PacketDecrypt.update part d with ⟨⟨_ | _, first⟩, d₁⟩
  · rw [hupdate] at h
    cases h
  · rw [hupdate] at h
    dsimp only at h
    rcases hupdates : PacketDecrypt.updates rest d₁ with ⟨⟨result, more⟩, d₃⟩
    rw [hupdates] at h
    cases h
    exact ⟨first, d₁, more, rfl, hupdates, rfl⟩

theorem PacketDecrypt.of_updates_singleton {part out : Bytes} {d d' : δ}
    (h : PacketDecrypt.updates [part] d = ((.ok (), out), d')) :
    PacketDecrypt.update part d = ((.ok (), out), d') := by
  obtain ⟨first, d₁, more, hupdate, hnil, rfl⟩ := PacketDecrypt.of_updates_cons h
  cases hnil
  rw [List.append_nil]
  exact hupdate

end Coding

namespace CounterModeOrCipherBlockChaining

/-- Both ends have the same constants, and contexts that code from one state on, with nothing kept. -/
inductive Corresponds : CounterModeOrCipherBlockChaining evp →
    CounterModeOrCipherBlockChaining evp → Prop
  | intro (s : CounterModeOrCipherBlockChaining evp) (state : evp.State s.cipher)
      {encrypting decrypting : evp.Ctx}
      (hencrypting : evp.Codes .encrypt s.cipher ((evp.coder .encrypt s.cipher).start state) encrypting)
      (hdecrypting : evp.Codes .decrypt s.cipher ((evp.coder .decrypt s.cipher).start state) decrypting) :
    Corresponds (s.holding encrypting) (s.holding decrypting)

theorem Corresponds.blockSize_eq {e d : CounterModeOrCipherBlockChaining evp}
    (h : Corresponds e d) : d.blockSize = e.blockSize := by
  cases h
  rfl

/-- Octets that arrive in parts are decrypted as if they had arrived at once. -/
theorem updates_run {s : CounterModeOrCipherBlockChaining evp} {mode : CrypterMode}
    {f : (evp.coder mode s.cipher).Feed} {ctx : evp.Ctx} (h : evp.Codes mode s.cipher f ctx)
    (parts : List Bytes) :
    ∃ ctx', PacketDecrypt.updates parts (s.holding ctx) =
        ((.ok (), (f.feed parts.flatten).1), s.holding ctx') ∧
      evp.Codes mode s.cipher (f.feed parts.flatten).2 ctx' := by
  induction parts generalizing f ctx with
  | nil =>
    rw [List.flatten_nil, f.feed_nil]
    exact ⟨ctx, rfl, h⟩
  | cons part rest ih =>
    obtain ⟨ctx₁, hupdate, hcodes⟩ := update_run h part
    obtain ⟨ctx₂, hrest, hcodes'⟩ := ih hcodes
    have hpart : PacketDecrypt.update part (s.holding ctx) =
        ((.ok (), (f.feed part).1), s.holding ctx₁) := by
      change (appended _ (outcome (update part) (s.holding ctx)).1, _) = _
      rw [outcome_of_ok hupdate]
      rfl
    rw [List.flatten_cons, f.feed_append]
    exact ⟨ctx₂, PacketDecrypt.updates_cons hpart hrest, hcodes'⟩

/-- A packet of whole blocks is encrypted, and decrypted again however its octets arrive. -/
theorem Corresponds.whole {e d : CounterModeOrCipherBlockChaining evp} (h : Corresponds e d)
    {data : Bytes} (hdata : e.blockSize ∣ data.length) :
    ∃ out e', PacketEncrypt.whole data e = (.ok out, e') ∧ out.length = data.length ∧
      e'.blockSize = e.blockSize ∧
      ∀ parts : List Bytes, parts.flatten = out →
        ∃ d₁ d', PacketDecrypt.updates parts d = ((.ok (), data), d₁) ∧
          PacketDecrypt.finalize d₁ = ((.ok (), []), d') ∧ Corresponds e' d' := by
  obtain ⟨s, state, hencrypting, hdecrypting⟩ := h
  have hunit : (evp.coder .encrypt s.cipher).size ∣ data.length := by
    rw [evp.size_coder]
    exact s.sizes.1.trans hdata
  obtain ⟨out, state', hout, hlength, hback⟩ := (evp.undoes s.cipher).feed_feed state hunit
  obtain ⟨ctx₁, hupdate, hcodes⟩ := update_run hencrypting data
  rw [hout] at hupdate hcodes
  obtain ⟨ctx₂, hfinal, hcodes'⟩ := finalize_run hcodes rfl
  refine ⟨out, s.holding ctx₂, ?_, hlength, rfl, ?_⟩
  · exact (PacketEncrypt.whole_of_ok (outcome_of_ok hupdate) (outcome_of_ok hfinal)).trans
      (by rw [List.append_nil])
  · rintro parts rfl
    obtain ⟨ctx₃, hupdates, hcoded⟩ := updates_run hdecrypting parts
    rw [hback] at hupdates hcoded
    obtain ⟨ctx₄, hfinal', hcoded'⟩ := finalize_run hcoded rfl
    refine ⟨_, s.holding ctx₄, hupdates, ?_, .intro s state' hcodes' hcoded'⟩
    change (appended _ (outcome finalize (s.holding ctx₃)).1, _) = _
    rw [outcome_of_ok hfinal']
    rfl

/-- Both ends of a direction that are initialized alike correspond. -/
theorem corresponds_of_initialize {s e d : CounterModeOrCipherBlockChaining evp} {iv key : Bytes}
    (he : initializeCtx .encrypt iv key s = .ok e) (hd : initializeCtx .decrypt iv key s = .ok d) :
    Corresponds e d := by
  obtain ⟨encrypting, rfl, hencrypting⟩ := of_initializeCtx he
  obtain ⟨decrypting, rfl, hdecrypting⟩ := of_initializeCtx hd
  exact .intro s _ hencrypting hdecrypting

/-- One packet after the other. -/
theorem Corresponds.packets {e d : CounterModeOrCipherBlockChaining evp} (h : Corresponds e d)
    {packets : List Bytes} (hpackets : ∀ packet ∈ packets, e.blockSize ∣ packet.length) :
    ∃ outs e', PacketEncrypt.packets packets e = (.ok outs, e') ∧
      outs.map List.length = packets.map List.length ∧
      ∀ parts : List (List Bytes), parts.map List.flatten = outs →
        ∃ d', PacketDecrypt.packets parts d = (.ok packets, d') ∧ Corresponds e' d' := by
  induction packets generalizing e d with
  | nil =>
    refine ⟨[], e, rfl, rfl, fun parts hparts => ⟨d, ?_, h⟩⟩
    rw [List.map_eq_nil_iff.mp hparts]
    rfl
  | cons packet rest ih =>
    obtain ⟨out, e₁, henc, hlength, hblock, hdec⟩ := h.whole (hpackets packet List.mem_cons_self)
    have hpackets' : ∀ packet ∈ rest, e₁.blockSize ∣ packet.length := fun packet hpacket =>
      hblock ▸ hpackets packet (List.mem_cons_of_mem _ hpacket)
    obtain ⟨_, d₁, -, -, hafter⟩ := hdec [out] (by simp)
    obtain ⟨outs, e₂, hrest, hlengths, -⟩ := ih hafter hpackets'
    refine ⟨out :: outs, e₂, ?_, congrArg₂ List.cons hlength hlengths, fun parts hparts => ?_⟩
    · unfold PacketEncrypt.packets
      rw [henc]
      dsimp only
      rw [hrest]
      rfl
    · obtain ⟨part, parts, rfl, hpart, hparts⟩ := List.map_eq_cons_iff.mp hparts
      obtain ⟨_, d₁, hupdates, hfinalize, hafter⟩ := hdec part hpart
      -- the other end depends on the parts, what is encrypted does not
      obtain ⟨_, _, hrest', -, hback⟩ := ih hafter hpackets'
      cases hrest.symm.trans hrest'
      obtain ⟨d₂, hpackets, hend⟩ := hback parts hparts
      refine ⟨d₂, ?_, hend⟩
      unfold PacketDecrypt.packets
      rw [PacketDecrypt.whole_of_ok hupdates hfinalize, List.append_nil]
      dsimp only
      rw [hpackets]
      rfl

/-- However many packets of whole blocks are encrypted one after the other, each is decrypted to what
it was, in whatever parts its octets arrive. -/
theorem packets_decrypted (s : CounterModeOrCipherBlockChaining evp) {iv key : Bytes}
    (hiv : iv.length = s.ivLen) (hkey : key.length = s.keyLen) {packets : List Bytes}
    (hpackets : ∀ packet ∈ packets, s.blockSize ∣ packet.length) :
    ∃ e d outs e', initializeCtx .encrypt iv key s = .ok e ∧
      initializeCtx .decrypt iv key s = .ok d ∧
      PacketEncrypt.packets packets e = (.ok outs, e') ∧
      outs.map List.length = packets.map List.length ∧
      ∀ parts : List (List Bytes), parts.map List.flatten = outs →
        ∃ d', PacketDecrypt.packets parts d = (.ok packets, d') := by
  obtain ⟨e, he⟩ := initializeCtx_succeeds .encrypt s hiv hkey
  obtain ⟨d, hd⟩ := initializeCtx_succeeds .decrypt s hiv hkey
  have hcorresponds := corresponds_of_initialize he hd
  have hblock : e.blockSize = s.blockSize := by
    obtain ⟨ctx, rfl, -⟩ := of_initializeCtx he
    rfl
  obtain ⟨outs, e', henc, hlengths, hdec⟩ :=
    hcorresponds.packets (show ∀ packet ∈ packets, _ from hblock ▸ hpackets)
  refine ⟨e, d, outs, e', he, hd, henc, hlengths, fun parts hparts => ?_⟩
  obtain ⟨d', hpackets', -⟩ := hdec parts hparts
  exact ⟨d', hpackets'⟩

end CounterModeOrCipherBlockChaining

/-! ## The packet layer's assumptions -/

namespace CounterModeOrCipherBlockChaining

/-- What a function of the context leaves. -/
theorem after_withCtx {α : Type} (f : evp.Ctx → Option α × evp.Ctx)
    (s : CounterModeOrCipherBlockChaining evp) :
    (outcome (withCtx f) s).2 = s.ctx.elim s fun ctx => s.holding (f ctx).2 := by
  cases hctx : s.ctx with
  | none =>
    unfold outcome
    rw [withCtx_none hctx]
    rfl
  | some ctx =>
    rcases hf : f ctx with ⟨_ | a, ctx'⟩
    · unfold outcome
      rw [withCtx_fails hctx hf]
      dsimp only [Option.elim]
      rw [hf]
      rfl
    · rw [outcome_of_ok (withCtx_run hctx hf)]
      dsimp only [Option.elim]
      rw [hf]
      rfl

/-- The context, if there is one, decrypts. -/
def Decrypts (s : CounterModeOrCipherBlockChaining evp) : Prop :=
  ∀ ctx, s.ctx = some ctx → ∃ f, evp.Codes .decrypt s.cipher f ctx

theorem Decrypts.after_withCtx {α : Type} {f : evp.Ctx → Option α × evp.Ctx}
    {s : CounterModeOrCipherBlockChaining evp} (h : s.Decrypts)
    (hf : ∀ {feed ctx}, evp.Codes .decrypt s.cipher feed ctx →
      ∃ feed', evp.Codes .decrypt s.cipher feed' (f ctx).2) :
    (outcome (withCtx f) s).2.Decrypts := by
  rw [CounterModeOrCipherBlockChaining.after_withCtx]
  cases hctx : s.ctx with
  | none => exact h
  | some ctx =>
    obtain ⟨feed, hcodes⟩ := h ctx hctx
    rintro _ ⟨⟩
    exact hf hcodes

theorem blockSize_withCtx {α : Type} (f : evp.Ctx → Option α × evp.Ctx)
    (s : CounterModeOrCipherBlockChaining evp) :
    (outcome (withCtx f) s).2.blockSize = s.blockSize := by
  rw [after_withCtx]
  cases s.ctx <;> rfl

theorem Decrypts.after_update {s : CounterModeOrCipherBlockChaining evp} (h : s.Decrypts)
    (data : Bytes) : (outcome (update data) s).2.Decrypts := by
  refine h.after_withCtx fun {feed ctx} hcodes => ?_
  obtain ⟨ctx', hupdate, hcodes'⟩ := evp.cipherUpdate_codes data hcodes
  rw [hupdate]
  exact ⟨_, hcodes'⟩

theorem Decrypts.after_finalize {s : CounterModeOrCipherBlockChaining evp} (h : s.Decrypts) :
    (outcome finalize s).2.Decrypts := by
  refine h.after_withCtx fun {feed ctx} hcodes => ?_
  obtain ⟨ctx', hfinal, hcodes'⟩ := evp.cipherFinal_codes hcodes
  rw [hfinal]
  exact ⟨_, hcodes'⟩

theorem Decrypts.after_authenticationTag {s : CounterModeOrCipherBlockChaining evp} (h : s.Decrypts)
    (tag : Bytes) : (outcome (authenticationTag tag) s).2.Decrypts :=
  h.after_withCtx fun hcodes => ⟨_, evp.setTag_codes tag hcodes⟩

theorem decrypts_of_initializeCtx {s s' : CounterModeOrCipherBlockChaining evp} {iv key : Bytes}
    (h : initializeCtx .decrypt iv key s = .ok s') : s'.Decrypts := by
  obtain ⟨ctx, rfl, hcodes⟩ := of_initializeCtx h
  rintro _ ⟨⟩
  exact ⟨_, hcodes⟩

end CounterModeOrCipherBlockChaining

/-- A `CounterModeOrCipherBlockChaining` as a `dyn Decrypt`. -/
structure BlockDecrypt (evp : Evp) where
  cipher : CounterModeOrCipherBlockChaining evp
  decrypts : cipher.Decrypts

namespace BlockDecrypt

/-- An instance that is not initialized. -/
def ofNew (cipher : CounterModeOrCipherBlockChaining evp) (h : cipher.ctx = none) :
    BlockDecrypt evp where
  cipher
  decrypts := by
    rintro ctx hctx
    rw [h] at hctx
    cases hctx

instance : PacketDecrypt (BlockDecrypt evp) where
  blockSize d := PacketDecrypt.blockSize d.cipher
  isGaloisCounterMode d := PacketDecrypt.isGaloisCounterMode d.cipher
  tagLen d := PacketDecrypt.tagLen d.cipher
  updateSequenceNumber n d := ((PacketDecrypt.updateSequenceNumber n d.cipher).1, d)
  additionalAuthenticatedData header d :=
    ((PacketDecrypt.additionalAuthenticatedData header d.cipher).1, d)
  update data d := ((PacketDecrypt.update data d.cipher).1,
    ⟨(PacketDecrypt.update data d.cipher).2, d.decrypts.after_update data⟩)
  authenticationTag tag d := ((PacketDecrypt.authenticationTag tag d.cipher).1,
    ⟨(PacketDecrypt.authenticationTag tag d.cipher).2, d.decrypts.after_authenticationTag tag⟩)
  finalize d := ((PacketDecrypt.finalize d.cipher).1,
    ⟨(PacketDecrypt.finalize d.cipher).2, d.decrypts.after_finalize⟩)

theorem update_of_cipher {data : Bytes} {d : BlockDecrypt evp} {result : Except Error Unit × Bytes}
    {s : CounterModeOrCipherBlockChaining evp}
    (h : PacketDecrypt.update data d.cipher = (result, s)) :
    ∃ d', PacketDecrypt.update data d = (result, d') ∧ d'.cipher = s := by
  have hresult : (PacketDecrypt.update data d.cipher).1 = result := congrArg Prod.fst h
  exact ⟨(PacketDecrypt.update data d).2, Prod.ext hresult rfl, congrArg Prod.snd h⟩

theorem finalize_of_cipher {d : BlockDecrypt evp} {result : Except Error Unit × Bytes}
    {s : CounterModeOrCipherBlockChaining evp} (h : PacketDecrypt.finalize d.cipher = (result, s)) :
    ∃ d', PacketDecrypt.finalize d = (result, d') ∧ d'.cipher = s := by
  have hresult : (PacketDecrypt.finalize d.cipher).1 = result := congrArg Prod.fst h
  exact ⟨(PacketDecrypt.finalize d).2, Prod.ext hresult rfl, congrArg Prod.snd h⟩

/-- An instance without a context appends nothing. -/
theorem update_uninitialized {data : Bytes} {s : CounterModeOrCipherBlockChaining evp}
    (hctx : s.ctx = none) : (PacketDecrypt.update data s).1.1 ≠ .ok () := by
  have hrun : update data s = .error (.invalidOperation (ascii "Uninitialized context")) s :=
    withCtx_none hctx
  change (appended _ (outcome (update data) s).1).1 ≠ _
  unfold outcome
  rw [hrun]
  intro hok
  cases hok

/-- With a context the octets go to its coder. -/
theorem update_holding {s : CounterModeOrCipherBlockChaining evp} {mode : CrypterMode}
    {f : (evp.coder mode s.cipher).Feed} {ctx : evp.Ctx} (h : evp.Codes mode s.cipher f ctx)
    (data : Bytes) :
    ∃ ctx', PacketDecrypt.update data (s.holding ctx) =
        ((.ok (), (f.feed data).1), s.holding ctx') ∧
      evp.Codes mode s.cipher (f.feed data).2 ctx' := by
  obtain ⟨ctx', hupdate, hcodes⟩ := update_run h data
  refine ⟨ctx', ?_, hcodes⟩
  change (appended _ (outcome (update data) (s.holding ctx)).1, _) = _
  rw [outcome_of_ok hupdate]
  rfl

instance : LawfulDecrypt (BlockDecrypt evp) where
  eight_le_blockSize d := d.cipher.sizes.2.1
  flags_updateSequenceNumber _ _ := rfl
  flags_additionalAuthenticatedData _ _ := rfl
  flags_update data d :=
    congrArg (fun size : ℕ => ((false, size, 0) : Bool × ℕ × ℕ)) (blockSize_withCtx _ d.cipher)
  flags_authenticationTag tag d :=
    congrArg (fun size : ℕ => ((false, size, 0) : Bool × ℕ × ℕ)) (blockSize_withCtx _ d.cipher)
  flags_finalize d :=
    congrArg (fun size : ℕ => ((false, size, 0) : Bool × ℕ × ℕ)) (blockSize_withCtx _ d.cipher)
  length_update_block data d hdata hok := by
    change (PacketDecrypt.update data d.cipher).1.1 = _ at hok
    change (PacketDecrypt.update data d.cipher).1.2.length = _
    change data.length = d.cipher.blockSize at hdata
    cases hctx : d.cipher.ctx with
    | none => exact absurd hok (update_uninitialized hctx)
    | some ctx =>
      obtain ⟨f, hcodes⟩ := d.decrypts ctx hctx
      obtain ⟨ctx', hupdate, -⟩ := update_holding hcodes data
      rw [holding_of_ctx hctx] at hupdate
      rw [hupdate]
      refine f.length_feed_blocks ?_
      rw [evp.size_coder, hdata]
      exact d.cipher.sizes.1
  length_update_finalize data d := by
    intro updated finalized hupdated hfinalized
    change (PacketDecrypt.update data d.cipher).1.1 = _ at hupdated
    change (PacketDecrypt.finalize (PacketDecrypt.update data d.cipher).2).1.1 = _ at hfinalized
    change _ ≤ (PacketDecrypt.update data d.cipher).1.2.length + _
    cases hctx : d.cipher.ctx with
    | none => exact absurd hupdated (update_uninitialized hctx)
    | some ctx =>
      obtain ⟨f, hcodes⟩ := d.decrypts ctx hctx
      obtain ⟨ctx', hupdate, hcodes'⟩ := update_holding hcodes data
      rw [holding_of_ctx hctx] at hupdate
      rw [hupdate] at hfinalized ⊢
      by_cases hpending : (f.feed data).2.pending = []
      · have hlength := f.length_feed data
        rw [hpending, List.length_nil, Nat.add_zero] at hlength
        dsimp only
        omega
      · obtain ⟨ctx'', hfails⟩ := finalize_fails hcodes' hpending
        change (appended _ (outcome finalize (d.cipher.holding ctx')).1).1 = _ at hfinalized
        unfold outcome at hfinalized
        rw [hfails] at hfinalized
        cases hfinalized

/-- `initialize`. -/
def initializeCipher (iv key : Bytes) (d : BlockDecrypt evp) : Except Abort (BlockDecrypt evp) :=
  match h : initializeCtx .decrypt iv key d.cipher with
  | .ok s => .ok ⟨s, decrypts_of_initializeCtx h⟩
  | .error abort => .error abort

theorem initializeCipher_of_cipher {iv key : Bytes} {d : BlockDecrypt evp}
    {s : CounterModeOrCipherBlockChaining evp} (h : initializeCtx .decrypt iv key d.cipher = .ok s) :
    ∃ d', d.initializeCipher iv key = .ok d' ∧ d'.cipher = s := by
  refine ⟨⟨s, decrypts_of_initializeCtx h⟩, ?_, rfl⟩
  unfold initializeCipher
  split
  · next s' hs => cases hs.symm.trans h; rfl
  · next abort hs => cases hs.symm.trans h

/-- Both ends of a direction. -/
def Corresponds (e : CounterModeOrCipherBlockChaining evp) (d : BlockDecrypt evp) : Prop :=
  CounterModeOrCipherBlockChaining.Corresponds e d.cipher

/-- What the packet layer needs of a pair of ciphers. -/
theorem inverts_corresponds : Inverts (@Corresponds evp) where
  isGaloisCounterMode _ := rfl
  blockSize h := h.blockSize_eq
  blockSize_le {e} {d} _ := e.sizes.2.2.1
  tagLen_le _ := Nat.zero_le _
  number n h _ := ⟨_, rfl, h⟩
  whole {e} {e'} {d} {data} {out} h _ hdata hwhole := by
    obtain ⟨_, _, henc, hlength, -, hdec⟩ := h.whole hdata
    cases henc.symm.trans hwhole
    obtain ⟨s₁, s', hupdates, hfinalize, hafter⟩ := hdec [out] (by simp)
    obtain ⟨d₁, hupdate, rfl⟩ := update_of_cipher (PacketDecrypt.of_updates_singleton hupdates)
    obtain ⟨d', hfinal, rfl⟩ := finalize_of_cipher hfinalize
    exact ⟨hlength, _, d₁, _, d', hupdate, hfinal, List.append_nil _, hafter⟩
  split {e} {e'} {d} {data} {out} h _ hdata hle hwhole := by
    obtain ⟨_, _, henc, hlength, -, hdec⟩ := h.whole hdata
    cases henc.symm.trans hwhole
    obtain ⟨s₂, s', hupdates, hfinalize, hafter⟩ :=
      hdec [out.take e.blockSize, out.drop e.blockSize] (by simp)
    obtain ⟨first, s₁, more, hupdate, hmore, happend⟩ := PacketDecrypt.of_updates_cons hupdates
    obtain ⟨d₁, hfirst, rfl⟩ := update_of_cipher hupdate
    obtain ⟨d₂, hrest, rfl⟩ := update_of_cipher (PacketDecrypt.of_updates_singleton hmore)
    obtain ⟨d', hfinal, rfl⟩ := finalize_of_cipher hfinalize
    have hsize : PacketDecrypt.blockSize d = e.blockSize := h.blockSize_eq
    have hblock : (out.take e.blockSize).length = PacketDecrypt.blockSize d := by
      rw [List.length_take, hlength, hsize]
      exact Nat.min_eq_left hle
    have hlen := LawfulDecrypt.length_update_block _ d hblock (by rw [hfirst])
    rw [hfirst, hblock] at hlen
    refine ⟨first, d₁, more, d₂, [], d', hfirst, hrest, hfinal, hlen.trans hsize, ?_, hafter⟩
    rw [List.append_nil]
    exact happend
  tagged _ hmode := absurd hmode Bool.false_ne_true

end BlockDecrypt

/-! ## Contexts that record -/

/-- The size of the blocks of the cipher itself. -/
def EvpCipher.blockLen : EvpCipher → ℕ
  | desEde3Cbc => 8
  | _ => 16

/-- The key stream of counter mode: the blocks of the counter, coded one after the other. -/
def counterStream (f : BlockFunction Bytes UInt8) (s : Bytes × Bytes) (n : ℕ) : UInt8 :=
  (f.encrypt s.1 (BigEndian.fixed f.size
    ((BigEndian.value s.2 + n / f.size) % 256 ^ f.size))).getD (n % f.size) 0

/-- What a context in use remembers: in counter mode the key, the IV and the position, otherwise the
key and the block before. -/
def EvpCipher.Kept : EvpCipher → Type
  | aes128Ctr | aes192Ctr | aes256Ctr => (Bytes × Bytes) × ℕ
  | aes128Cbc | aes192Cbc | aes256Cbc | desEde3Cbc => Bytes × Bytes

/-- The coder of a cipher in either direction, for the block functions of the ciphers. -/
def EvpCipher.coder (f : EvpCipher → BlockFunction Bytes UInt8) :
    CrypterMode → (c : EvpCipher) → BlockCoder c.Kept UInt8
  | _, .aes128Ctr => .masking (· ^^^ ·) (counterStream (f .aes128Ctr))
  | _, .aes192Ctr => .masking (· ^^^ ·) (counterStream (f .aes192Ctr))
  | _, .aes256Ctr => .masking (· ^^^ ·) (counterStream (f .aes256Ctr))
  | .encrypt, .aes128Cbc => (f .aes128Cbc).chaining (· ^^^ ·)
  | .encrypt, .aes192Cbc => (f .aes192Cbc).chaining (· ^^^ ·)
  | .encrypt, .aes256Cbc => (f .aes256Cbc).chaining (· ^^^ ·)
  | .encrypt, .desEde3Cbc => (f .desEde3Cbc).chaining (· ^^^ ·)
  | .decrypt, .aes128Cbc => (f .aes128Cbc).unchaining (· ^^^ ·)
  | .decrypt, .aes192Cbc => (f .aes192Cbc).unchaining (· ^^^ ·)
  | .decrypt, .aes256Cbc => (f .aes256Cbc).unchaining (· ^^^ ·)
  | .decrypt, .desEde3Cbc => (f .desEde3Cbc).unchaining (· ^^^ ·)

/-- What a key and an IV start with. -/
def EvpCipher.start : (c : EvpCipher) → (key iv : Bytes) → c.Kept
  | .aes128Ctr | .aes192Ctr | .aes256Ctr => fun key iv => ((key, iv), 0)
  | .aes128Cbc | .aes192Cbc | .aes256Cbc | .desEde3Cbc => fun key iv => (key, iv)

/-- Contexts that keep a coder, for the block functions of the ciphers. -/
def Evp.ofBlocks (f : EvpCipher → BlockFunction Bytes UInt8)
    (hf : ∀ c, (f c).size = c.blockLen) : Evp where
  Ctx := Option ((mode : CrypterMode) × (c : EvpCipher) × (c.coder f mode).Feed)
  newCtx := some none
  init mode c key iv _ := (some (), some ⟨mode, c,
    (c.coder f mode).start (c.start (key.take c.keyLength) (iv.take c.ivLength))⟩)
  setPadding _ ctx := ctx
  cipherUpdate data
    | some ⟨mode, c, feed⟩ => (some (feed.feed data).1, some ⟨mode, c, (feed.feed data).2⟩)
    | none => (none, none)
  cipherFinal
    | some ⟨mode, c, feed⟩ =>
      (if feed.pending = [] then some [] else none, some ⟨mode, c, feed⟩)
    | none => (none, none)
  setTag _ ctx := (none, ctx)
  State := EvpCipher.Kept
  coder mode c := c.coder f mode
  start := EvpCipher.start
  Codes mode c feed ctx := ctx = some ⟨mode, c, feed⟩
  size_coder mode c := by
    cases c with
    | aes128Ctr => rfl
    | aes192Ctr => rfl
    | aes256Ctr => rfl
    | _ => cases mode <;> exact hf _
  undoes c := by
    cases c with
    | aes128Ctr => exact BlockCoder.masking_undoes UInt8.xor_xor _
    | aes192Ctr => exact BlockCoder.masking_undoes UInt8.xor_xor _
    | aes256Ctr => exact BlockCoder.masking_undoes UInt8.xor_xor _
    | _ => exact BlockFunction.unchaining_undoes _ UInt8.xor_xor
  newCtx_succeeds := ⟨_, rfl⟩
  init_codes _ _ _ _ _ _ _ _ := ⟨_, rfl, rfl⟩
  cipherUpdate_codes _ h := by
    cases h
    exact ⟨_, rfl, rfl⟩
  cipherFinal_codes h := by
    cases h
    exact ⟨_, rfl, rfl⟩
  setTag_codes _ h := h

/-- The octets of a table of key streams; behind their end there are zeros. -/
def recordedStream (table : List ((Bytes × Bytes) × Bytes)) (key iv : Bytes) (n : ℕ) : UInt8 :=
  match table.lookup (key, iv) with
  | some stream => stream.getD n 0
  | none => 0

/-- A block. -/
abbrev Block (size : ℕ) := { block : Bytes // block.length = size }

/-- The permutation that exchanges the blocks of each pair. -/
def exchanging {size : ℕ} (pairs : List (Block size × Block size)) : Equiv.Perm (Block size) :=
  (pairs.map fun pair => Equiv.swap pair.1 pair.2).prod

/-- The block function that exchanges the blocks that a table pairs for the key. -/
def recordedFunction (size : ℕ) (hsize : 0 < size)
    (table : (key : Bytes) → List (Block size × Block size)) : BlockFunction Bytes UInt8 where
  size
  encrypt key block :=
    if h : block.length = size then (exchanging (table key) ⟨block, h⟩).1 else block
  decrypt key block :=
    if h : block.length = size then ((exchanging (table key)).symm ⟨block, h⟩).1 else block
  size_pos := hsize
  length_encrypt {key block} h := by
    rw [dif_pos h]
    exact (exchanging (table key) ⟨block, h⟩).2
  length_decrypt {key block} h := by
    rw [dif_pos h]
    exact ((exchanging (table key)).symm ⟨block, h⟩).2
  decrypt_encrypt {key block} h := by
    simp [h, (exchanging (table key) ⟨block, h⟩).2]

/-- Contexts with the recorded blocks of AES with keys of 16 octets, and no others. -/
def Evp.recorded (table : (key : Bytes) → List (Block 16 × Block 16)) : Evp :=
  .ofBlocks
    (fun
      | .aes128Ctr | .aes128Cbc => recordedFunction 16 (by decide) table
      | .desEde3Cbc => recordedFunction 8 (by decide) fun _ => []
      | _ => recordedFunction 16 (by decide) fun _ => [])
    fun c => by cases c <;> rfl

namespace CounterModeOrCipherBlockChaining

/-- What AES with a key of 16 octets makes of three blocks. -/
def recordedBlocks (key : Bytes) : List (Block 16 × Block 16) :=
  if key = List.replicate 16 4 then
    [ (⟨BigEndian.fixed 16 0x02020202020202020202020202020202, by decide +kernel⟩,
        ⟨BigEndian.fixed 16 0x08ecd8d51bfb4fe8787be1776b839cc2, by decide +kernel⟩),
      (⟨BigEndian.fixed 16 0x0aeedad719f94dea7a79e37569819ec0, by decide +kernel⟩,
        ⟨BigEndian.fixed 16 0xb1dacb19115d55c2fba5b40e51be2b07, by decide +kernel⟩),
      (⟨BigEndian.fixed 16 0xb3d8c91b135f57c0f9a7b60c53bc2905, by decide +kernel⟩,
        ⟨BigEndian.fixed 16 0xd4fc9cb05991b9541dff928ac1bd449a, by decide +kernel⟩) ]
  else []

/-- A block and two blocks, chained. -/
theorem packets_decrypted_chained :
    let s : CounterModeOrCipherBlockChaining (.recorded recordedBlocks) := aes128Cbc
    let packets : List Bytes := [List.replicate 16 1, List.replicate 32 2]
    let outs : List Bytes := [BigEndian.fixed 16 0x08ecd8d51bfb4fe8787be1776b839cc2,
      BigEndian.fixed 32 0xb1dacb19115d55c2fba5b40e51be2b07d4fc9cb05991b9541dff928ac1bd449a]
    ∃ e d e', initializeCtx .encrypt (List.replicate 16 3) (List.replicate 16 4) s = .ok e ∧
      initializeCtx .decrypt (List.replicate 16 3) (List.replicate 16 4) s = .ok d ∧
      PacketEncrypt.packets packets e = (.ok outs, e') ∧
      ∀ parts : List (List Bytes), parts.map List.flatten = outs →
        ∃ d', PacketDecrypt.packets parts d = (.ok packets, d') := by
  intro s packets outs
  obtain ⟨e, d, outs', e', he, hd, hencrypted, -, hdecrypted⟩ :=
    packets_decrypted s (rfl : (List.replicate 16 3 : Bytes).length = 16)
      (rfl : (List.replicate 16 4 : Bytes).length = 16)
      (by decide : ∀ packet ∈ packets, s.blockSize ∣ packet.length)
  have hall : (initializeCtx .encrypt (List.replicate 16 3) (List.replicate 16 4) s).map
      (fun e => (PacketEncrypt.packets packets e).1) = .ok (.ok outs) := by
    decide +kernel
  rw [he, Except.map, hencrypted] at hall
  cases hall
  exact ⟨e, d, e', he, hd, hencrypted, hdecrypted⟩

end CounterModeOrCipherBlockChaining

end Flatline
