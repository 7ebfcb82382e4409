import Flatline.Cipher.BlockCiphers

/-!
# Packets under AES-GCM

The contexts of AES-GCM as the packet layer drives them. The two ends of a direction have the same
IV before each packet, so that what the one seals the other opens.

Source: `src/cipher/crypt.rs` (`GaloisCounterMode`).
-/

namespace Flatline

open Triple

/-! ## The packet layer's traits -/

namespace GaloisCounterMode

variable {σ α : Type}

/-- The constants that the packet layer asks for. -/
def sizesOf (s : GaloisCounterMode σ) : ℕ × ℕ × ℕ :=
  (s.blockSize, s.tagLen, s.keyLen)

theorem sizesOf_leaves {m : Method σ α} (h : Triple.Keeps sizesOf m) (s : GaloisCounterMode σ) :
    sizesOf (leaves m s) = sizesOf s := by
  unfold leaves
  cases hrun : m s with
  | ok a s' => exact h.of_ok hrun
  | error e s' => exact h.of_error hrun

theorem keeps_sizes_withCtx (f : σ → Option α × σ) : Triple.Keeps sizesOf (withCtx f) := by
  refine Triple.Keeps.get_bind fun s => ?_
  cases s.ctx with
  | none => exact Triple.Keeps.throw _
  | some ctx =>
    refine Triple.Keeps.bind (Triple.Keeps.modify ?_) fun _ => ?_
    · exact fun _ => rfl
    · cases (f ctx).1 with
      | none => exact Triple.Keeps.throw _
      | some a => exact Triple.Keeps.pure a

theorem keeps_sizes_reset (lib : Crypter σ) (mode : CrypterMode) :
    Triple.Keeps sizesOf (reset lib mode) := by
  refine Triple.Keeps.get_bind fun s => ?_
  cases s.key with
  | none => exact Triple.Keeps.throw _
  | some key =>
    cases s.iv with
    | none => exact Triple.Keeps.throw _
    | some iv =>
      dsimp only
      by_cases hiv : iv.length = 12
      · rw [if_pos hiv]
        refine Triple.Keeps.bind (Triple.Keeps.modify ?_) fun _ => ?_
        · exact fun _ => rfl
        · cases lib.new mode key (increment iv) with
          | none => exact Triple.Keeps.throw _
          | some ctx =>
            refine Triple.Keeps.modify ?_
            exact fun _ => rfl
      · rw [if_neg hiv]
        exact Triple.Keeps.throw _

/-- What a method returns. A panic is not among the packet layer's results: no IV of twelve octets
leads to one. -/
def returned (m : Method σ α) (s : GaloisCounterMode σ) : Except Error α :=
  match m s with
  | .ok a _ => .ok a
  | .error (.error e) _ => .error e
  | .error .panic _ => .error .openssl

theorem reset_ne_panic {lib : Crypter σ} {mode : CrypterMode} {s s' : GaloisCounterMode σ}
    (h : ∀ iv, s.iv = some iv → iv.length = 12) : reset lib mode s ≠ .error .panic s' := by
  intro hrun
  unfold reset at hrun
  rw [Triple.get_bind] at hrun
  cases hkey : s.key with
  | none =>
    rw [hkey] at hrun
    cases hrun
  | some key =>
    cases hiv : s.iv with
    | none =>
      rw [hkey, hiv] at hrun
      cases hrun
    | some iv =>
      rw [hkey, hiv] at hrun
      dsimp only at hrun
      rw [if_pos (h iv hiv)] at hrun
      cases hnew : lib.new mode key (increment iv) with
      | none =>
        rw [hnew] at hrun
        cases hrun
      | some ctx =>
        rw [hnew] at hrun
        cases hrun

end GaloisCounterMode

open GaloisCounterMode

/-- A `GaloisCounterMode` with the constants of either cipher. -/
structure GcmEncrypt (o : GcmCalls) where
  cipher : GaloisCounterMode o.Ctx
  blockSize : cipher.blockSize = 16
  tagLen : cipher.tagLen = 16

/-- The same as a `dyn Decrypt`. -/
structure GcmDecrypt (o : GcmCalls) where
  cipher : GaloisCounterMode o.Ctx
  blockSize : cipher.blockSize = 16
  tagLen : cipher.tagLen = 16

variable {o : GcmCalls}

def GcmEncrypt.run {α : Type} (m : Method o.Ctx α) (hm : Triple.Keeps sizesOf m)
    (e : GcmEncrypt o) :
    Except Error α × GcmEncrypt o :=
  (returned m e.cipher, {
    cipher := leaves m e.cipher
    blockSize := (congrArg (·.1) (sizesOf_leaves hm e.cipher)).trans e.blockSize
    tagLen := (congrArg (·.2.1) (sizesOf_leaves hm e.cipher)).trans e.tagLen })

def GcmDecrypt.run {α : Type} (m : Method o.Ctx α) (hm : Triple.Keeps sizesOf m)
    (d : GcmDecrypt o) :
    Except Error α × GcmDecrypt o :=
  (returned m d.cipher, {
    cipher := leaves m d.cipher
    blockSize := (congrArg (·.1) (sizesOf_leaves hm d.cipher)).trans d.blockSize
    tagLen := (congrArg (·.2.1) (sizesOf_leaves hm d.cipher)).trans d.tagLen })

theorem keeps_sizes_header (lib : Crypter o.Ctx) (header : Header) :
    Triple.Keeps sizesOf (additionalAuthenticatedData lib header.octets >>= fun _ =>
      (pure header : Method o.Ctx Header)) :=
  (keeps_sizes_withCtx _).bind fun _ => Triple.Keeps.pure header

theorem keeps_sizes_authenticationTag (lib : Crypter o.Ctx) (len : ℕ) :
    Triple.Keeps sizesOf (Encrypt.authenticationTag lib len) :=
  (keeps_sizes_withCtx _).bind fun tag => (keeps_sizes_reset lib .encrypt).bind fun _ =>
    Triple.Keeps.pure tag

theorem keeps_sizes_finalize (lib : Crypter o.Ctx) : Triple.Keeps sizesOf (Decrypt.finalize lib) :=
  (keeps_sizes_withCtx _).bind fun data => (keeps_sizes_reset lib .decrypt).bind fun _ =>
    Triple.Keeps.pure data

instance : PacketEncrypt (GcmEncrypt o) where
  blockSize e := e.cipher.blockSize
  isGaloisCounterMode _ := true
  updateSequenceNumber n e := e.run (updateSequenceNumber n) (Triple.Keeps.pure ())
  additionalAuthenticatedData header e :=
    e.run _ (keeps_sizes_header (o.crypter e.cipher.keyLen) header)
  update data e := e.run (update (o.crypter e.cipher.keyLen) data) (keeps_sizes_withCtx _)
  finalize e := e.run (Encrypt.finalize (o.crypter e.cipher.keyLen)) (keeps_sizes_withCtx _)
  authenticationTag e :=
    e.run _ (keeps_sizes_authenticationTag (o.crypter e.cipher.keyLen) e.cipher.tagLen)

/-- The room that `finalize` leaves in its buffer when the tag is wrong or the instance has not been
initialized; what it has written when only the next context could not be made. -/
def GcmDecrypt.finalRoom (d : GcmDecrypt o) : Bytes :=
  match returned (withCtx (o.crypter d.cipher.keyLen).finalize) d.cipher with
  | .ok data => data
  | .error _ => List.replicate d.cipher.blockSize 0

instance : PacketDecrypt (GcmDecrypt o) where
  blockSize d := d.cipher.blockSize
  isGaloisCounterMode _ := true
  tagLen d := d.cipher.tagLen
  updateSequenceNumber n d := d.run (updateSequenceNumber n) (Triple.Keeps.pure ())
  additionalAuthenticatedData header d :=
    d.run _ (keeps_sizes_header (o.crypter d.cipher.keyLen) header)
  update data d :=
    let (result, d') := d.run (update (o.crypter d.cipher.keyLen) data) (keeps_sizes_withCtx _)
    (appended (List.replicate (data.length + d.cipher.blockSize) 0) result, d')
  authenticationTag tag d :=
    d.run (Decrypt.authenticationTag (o.crypter d.cipher.keyLen) tag) (keeps_sizes_withCtx _)
  finalize d :=
    let (result, d') := d.run _ (keeps_sizes_finalize (o.crypter d.cipher.keyLen))
    (appended d.finalRoom result, d')

/-! ## Packets -/

theorem GcmEncrypt.run_ok {α : Type} {m : Method o.Ctx α} (hm : Triple.Keeps sizesOf m)
    {e : GcmEncrypt o}
    {a : α} {s' : GaloisCounterMode o.Ctx} (h : m e.cipher = .ok a s') :
    ∃ e', e.run m hm = (.ok a, e') ∧ e'.cipher = s' := by
  refine ⟨(e.run m hm).2, Prod.ext ?_ rfl, ?_⟩
  · change returned m e.cipher = _
    unfold returned
    rw [h]
  · change leaves m e.cipher = _
    unfold leaves
    rw [h]

theorem GcmDecrypt.run_ok {α : Type} {m : Method o.Ctx α} (hm : Triple.Keeps sizesOf m)
    {d : GcmDecrypt o}
    {a : α} {s' : GaloisCounterMode o.Ctx} (h : m d.cipher = .ok a s') :
    ∃ d', d.run m hm = (.ok a, d') ∧ d'.cipher = s' := by
  refine ⟨(d.run m hm).2, Prod.ext ?_ rfl, ?_⟩
  · change returned m d.cipher = _
    unfold returned
    rw [h]
  · change leaves m d.cipher = _
    unfold leaves
    rw [h]

theorem GcmDecrypt.of_update_ok {data : Bytes} {d : GcmDecrypt o}
    (h : (PacketDecrypt.update data d).1.1 = .ok ()) :
    (PacketDecrypt.update data d).1.2.length = data.length := by
  change (appended _ (returned (update (o.crypter d.cipher.keyLen) data) d.cipher)).1 = _ at h
  change (appended _ (returned (update (o.crypter d.cipher.keyLen) data) d.cipher)).2.length = _
  unfold returned update withCtx at h ⊢
  rw [get_bind] at h ⊢
  cases hctx : d.cipher.ctx with
  | none =>
    rw [hctx] at h
    cases h
  | some ctx =>
    rw [hctx] at h
    cases hout : ((o.crypter d.cipher.keyLen).update data ctx).1 with
    | none =>
      simp only [hout] at h
      cases h
    | some out =>
      simp only [hout]
      exact o.length_update hout

instance : LawfulDecrypt (GcmDecrypt o) where
  eight_le_blockSize d := by
    change 8 ≤ d.cipher.blockSize
    rw [d.blockSize]
    decide
  flags_updateSequenceNumber _ _ := rfl
  flags_additionalAuthenticatedData header d := by
    have hsizes := sizesOf_leaves (keeps_sizes_header (o.crypter d.cipher.keyLen) header) d.cipher
    exact congrArg (fun p : ℕ × ℕ × ℕ => (true, p.1, p.2.1)) hsizes
  flags_update data d := by
    have hsizes := sizesOf_leaves
      (keeps_sizes_withCtx ((o.crypter d.cipher.keyLen).update data)) d.cipher
    exact congrArg (fun p : ℕ × ℕ × ℕ => (true, p.1, p.2.1)) hsizes
  flags_authenticationTag tag d := by
    have hsizes := sizesOf_leaves
      (keeps_sizes_withCtx ((o.crypter d.cipher.keyLen).setTag tag)) d.cipher
    exact congrArg (fun p : ℕ × ℕ × ℕ => (true, p.1, p.2.1)) hsizes
  flags_finalize d := by
    have hsizes := sizesOf_leaves (keeps_sizes_finalize (o.crypter d.cipher.keyLen)) d.cipher
    exact congrArg (fun p : ℕ × ℕ × ℕ => (true, p.1, p.2.1)) hsizes
  length_update_block _ _ _ hok := GcmDecrypt.of_update_ok hok
  length_update_finalize data d := by
    intro updated finalized hupdated _
    have hlength := GcmDecrypt.of_update_ok hupdated
    change _ ≤ (PacketDecrypt.update data d).1.2.length + _
    omega

namespace GaloisCounterMode

/-- An instance in front of a packet. -/
structure AtPacket (o : GcmCalls) (mode : CrypterMode) (key iv : Bytes)
    (s : GaloisCounterMode o.Ctx) : Prop where
  length_iv : iv.length = 12
  length_key : key.length = s.keyLen
  ctx : ∃ ctx, s.ctx = some ctx ∧ o.Codes mode key iv [] [] ctx
  iv : s.iv = some iv
  key : s.key = some key

theorem withCtx_run {σ α : Type} {f : σ → Option α × σ} {s : GaloisCounterMode σ} {ctx ctx' : σ}
    {a : α} (hctx : s.ctx = some ctx) (hf : f ctx = (some a, ctx')) :
    withCtx f s = .ok a { s with ctx := some ctx' } := by
  unfold withCtx
  rw [get_bind, hctx]
  dsimp only
  rw [hf]
  rfl

theorem length_increment {iv : Bytes} (hiv : iv.length = 12) : (increment iv).length = 12 := by
  have hnext := increment_ivAfter hiv 0
  rw [ivAfter_zero hiv] at hnext
  rw [hnext]
  exact length_ivAfter hiv 1

/-- After a packet the instance is in front of the next one. -/
theorem reset_run (mode : CrypterMode) {key iv : Bytes} {s : GaloisCounterMode o.Ctx}
    (hiv : s.iv = some iv) (hkey : s.key = some key) (hlength : iv.length = 12)
    (hkeyLen : key.length = s.keyLen) :
    ∃ s', reset (o.crypter s.keyLen) mode s = .ok () s' ∧
      AtPacket o mode key (increment iv) s' ∧ sizesOf s' = sizesOf s := by
  obtain ⟨name, blockSize, keyLen, ivLen, tagLen, _, _, ctx⟩ := s
  cases hiv
  cases hkey
  obtain ⟨next, hnew, hcodes⟩ := o.new_codes mode hkeyLen (length_increment hlength)
  refine ⟨⟨name, blockSize, keyLen, ivLen, tagLen, some (increment iv), some key, some next⟩, ?_,
    ⟨length_increment hlength, hkeyLen, ⟨next, rfl, hcodes⟩, rfl, rfl⟩, rfl⟩
  unfold reset
  rw [get_bind]
  dsimp only
  rw [if_pos hlength, hnew]
  rfl

end GaloisCounterMode

section Layer

variable {key iv : Bytes}

/-- Sealing with the calls of the packet layer. -/
theorem GcmEncrypt.seals {e : GcmEncrypt o} (h : AtPacket o .encrypt key iv e.cipher) (n : UInt32)
    (header : Header) (data : Bytes) :
    ∃ e₂ e₃ e₄, PacketEncrypt.updateSequenceNumber n e = (.ok (), e) ∧
      PacketEncrypt.additionalAuthenticatedData header e = (.ok header, e₂) ∧
      PacketEncrypt.whole data e₂ = (.ok (masked o.keystream key iv 0 data), e₃) ∧
      PacketEncrypt.authenticationTag e₃ =
        (.ok (o.tag key iv header.octets (masked o.keystream key iv 0 data)), e₄) ∧
      AtPacket o .encrypt key (increment iv) e₄.cipher ∧ sizesOf e₄.cipher = sizesOf e.cipher := by
  let out := masked o.keystream key iv 0 data
  let s (ctx : o.Ctx) : GaloisCounterMode o.Ctx := { e.cipher with ctx := some ctx }
  obtain ⟨ctx₁, hctx, h₁⟩ := h.ctx
  obtain ⟨ctx₂, haad, h₂⟩ := o.aadUpdate_codes e.cipher.keyLen header.octets h₁
  obtain ⟨ctx₃, hcoded, h₃⟩ := o.update_codes e.cipher.keyLen data h₂
  obtain ⟨ctx₄, hfinal, hget⟩ := o.finalize_encrypt e.cipher.keyLen h₃
  have haad : (additionalAuthenticatedData (o.crypter e.cipher.keyLen) header.octets >>= fun _ =>
      (pure header : Method o.Ctx Header)) e.cipher = .ok header (s ctx₂) :=
    bind_of_ok (withCtx_run hctx haad)
  obtain ⟨e₂, haad, he₂⟩ := run_ok (keeps_sizes_header _ header) haad
  have hupdate : update (o.crypter e₂.cipher.keyLen) data e₂.cipher = .ok out (s ctx₃) := by
    rw [he₂]
    exact withCtx_run rfl hcoded
  obtain ⟨e₃, hupdate, he₃⟩ := run_ok (keeps_sizes_withCtx _) hupdate
  have hfinalize : Encrypt.finalize (o.crypter e₃.cipher.keyLen) e₃.cipher = .ok [] (s ctx₄) := by
    rw [he₃]
    exact withCtx_run rfl hfinal
  obtain ⟨e₄, hfinalize, he₄⟩ := run_ok (keeps_sizes_withCtx _) hfinalize
  have hwhole : PacketEncrypt.whole data e₂ = (.ok (out ++ []), e₄) :=
    PacketEncrypt.whole_of_ok hupdate hfinalize
  rw [List.append_nil] at hwhole
  obtain ⟨s', hreset, hready, hsizes⟩ :=
    reset_run (o := o) .encrypt (s := s ctx₄) h.iv h.key h.length_iv h.length_key
  have htag : Encrypt.authenticationTag (o.crypter e₄.cipher.keyLen) e₄.cipher.tagLen e₄.cipher =
      .ok (o.tag key iv header.octets out) s' := by
    have hrun : withCtx (fun ctx => ((o.crypter e.cipher.keyLen).getTag 16 ctx, ctx)) (s ctx₄) =
        .ok (o.tag key iv header.octets out) (s ctx₄) :=
      withCtx_run rfl (Prod.ext hget rfl)
    rw [e₄.tagLen, he₄]
    unfold Encrypt.authenticationTag
    rw [bind_of_ok hrun, bind_of_ok hreset]
    rfl
  obtain ⟨e₅, htag, he₅⟩ := run_ok (keeps_sizes_authenticationTag _ _) htag
  exact ⟨e₂, e₄, e₅, rfl, haad, hwhole, htag, he₅ ▸ hready, he₅ ▸ hsizes⟩

/-- Opening with the calls of the packet layer. -/
theorem GcmDecrypt.opens {d : GcmDecrypt o} (h : AtPacket o .decrypt key iv d.cipher) (n : UInt32)
    (header : Header) (data : Bytes) :
    ∃ d₂ d₃ d₄ d₅, PacketDecrypt.updateSequenceNumber n d = (.ok (), d) ∧
      PacketDecrypt.additionalAuthenticatedData header d = (.ok header, d₂) ∧
      PacketDecrypt.update data d₂ = ((.ok (), masked o.keystream key iv 0 data), d₃) ∧
      PacketDecrypt.authenticationTag (o.tag key iv header.octets data) d₃ = (.ok (), d₄) ∧
      PacketDecrypt.finalize d₄ = ((.ok (), []), d₅) ∧
      AtPacket o .decrypt key (increment iv) d₅.cipher ∧ sizesOf d₅.cipher = sizesOf d.cipher := by
  let tag := o.tag key iv header.octets data
  let s (ctx : o.Ctx) : GaloisCounterMode o.Ctx := { d.cipher with ctx := some ctx }
  obtain ⟨ctx₁, hctx, h₁⟩ := h.ctx
  obtain ⟨ctx₂, haad, h₂⟩ := o.aadUpdate_codes d.cipher.keyLen header.octets h₁
  obtain ⟨ctx₃, hcoded, h₃⟩ := o.update_codes d.cipher.keyLen data h₂
  obtain ⟨ctx₄, hgiven, hfinal⟩ :=
    o.setTag_decrypt d.cipher.keyLen h₃ (o.length_tag key iv header.octets data)
  have haad : (additionalAuthenticatedData (o.crypter d.cipher.keyLen) header.octets >>= fun _ =>
      (pure header : Method o.Ctx Header)) d.cipher = .ok header (s ctx₂) :=
    bind_of_ok (withCtx_run hctx haad)
  obtain ⟨d₂, haad, hd₂⟩ := run_ok (keeps_sizes_header _ header) haad
  have hupdate : update (o.crypter d₂.cipher.keyLen) data d₂.cipher =
      .ok (masked o.keystream key iv 0 data) (s ctx₃) := by
    rw [hd₂]
    exact withCtx_run rfl hcoded
  obtain ⟨d₃, hupdate, hd₃⟩ := run_ok (keeps_sizes_withCtx _) hupdate
  have hgive : Decrypt.authenticationTag (o.crypter d₃.cipher.keyLen) tag d₃.cipher =
      .ok () (s ctx₄) := by
    rw [hd₃]
    exact withCtx_run rfl hgiven
  obtain ⟨d₄, hgive, hd₄⟩ := run_ok (keeps_sizes_withCtx _) hgive
  let ctx₅ := ((o.crypter d.cipher.keyLen).finalize ctx₄).2
  obtain ⟨s', hreset, hready, hsizes⟩ :=
    reset_run (o := o) .decrypt (s := s ctx₅) h.iv h.key h.length_iv h.length_key
  have hfinalize : Decrypt.finalize (o.crypter d₄.cipher.keyLen) d₄.cipher = .ok [] s' := by
    have hright : (o.crypter d.cipher.keyLen).finalize ctx₄ = (some [], ctx₅) :=
      Prod.ext (hfinal.trans (if_pos rfl)) rfl
    rw [hd₄]
    unfold Decrypt.finalize
    rw [bind_of_ok (withCtx_run rfl hright), bind_of_ok hreset]
    rfl
  obtain ⟨d₅, hfinalize, hd₅⟩ := run_ok (keeps_sizes_finalize _) hfinalize
  refine ⟨d₂, d₃, d₄, d₅, rfl, haad, ?_, hgive, ?_, hd₅ ▸ hready, hd₅ ▸ hsizes⟩
  · exact Prod.ext (congrArg (fun r => appended _ r.1) hupdate) (congrArg (·.2) hupdate)
  · exact Prod.ext (congrArg (fun r => appended _ r.1) hfinalize) (congrArg (·.2) hfinalize)

theorem keeps_sizes_initializeCtx (lib : Crypter o.Ctx) (mode : CrypterMode) (iv key : Bytes) :
    Triple.Keeps sizesOf (initializeCtx lib mode iv key) := by
  unfold initializeCtx
  cases lib.new mode key iv with
  | none => exact Triple.Keeps.throw _
  | some ctx =>
    refine Triple.Keeps.modify ?_
    exact fun _ => rfl

/-- `initialize`. -/
def GcmEncrypt.initializeCipher (iv key : Bytes) (e : GcmEncrypt o) : Except Abort (GcmEncrypt o) :=
  match initializeCtx (o.crypter e.cipher.keyLen) .encrypt iv key e.cipher with
  | .ok () _ => .ok (e.run _ (keeps_sizes_initializeCtx (o.crypter e.cipher.keyLen) .encrypt iv key)).2
  | .error abort _ => .error abort

/-- `initialize`. -/
def GcmDecrypt.initializeCipher (iv key : Bytes) (d : GcmDecrypt o) : Except Abort (GcmDecrypt o) :=
  match initializeCtx (o.crypter d.cipher.keyLen) .decrypt iv key d.cipher with
  | .ok () _ => .ok (d.run _ (keeps_sizes_initializeCtx (o.crypter d.cipher.keyLen) .decrypt iv key)).2
  | .error abort _ => .error abort

/-- Both ends of a direction in front of a packet. -/
def GcmEncrypt.Corresponds (e : GcmEncrypt o) (d : GcmDecrypt o) : Prop :=
  ∃ key iv, AtPacket o .encrypt key iv e.cipher ∧ AtPacket o .decrypt key iv d.cipher

theorem GcmEncrypt.inverts_corresponds : Inverts (@Corresponds o) where
  isGaloisCounterMode _ := rfl
  blockSize {e d} _ := d.blockSize.trans e.blockSize.symm
  blockSize_le {e d} _ := by
    change e.cipher.blockSize ≤ 252
    rw [e.blockSize]
    decide
  tagLen_le {e d} _ := by
    change d.cipher.tagLen ≤ 1024
    rw [d.tagLen]
    decide
  number _ _ hmode := absurd hmode Bool.noConfusion
  whole _ hmode := absurd hmode Bool.noConfusion
  split _ hmode := absurd hmode Bool.noConfusion
  tagged {e e₁ e₂ e₃ e₄ d n header header' data out tag} h _ hnumber haad hwhole htag := by
    obtain ⟨key, iv, he, hd⟩ := h
    obtain ⟨_, _, _, hnumber', haad', hwhole', htag', hafter, -⟩ := seals he n header data
    cases hnumber.symm.trans hnumber'
    cases haad.symm.trans haad'
    cases hwhole.symm.trans hwhole'
    cases htag.symm.trans htag'
    obtain ⟨d₂, d₃, d₄, d₅, hstart, hopen, hupdate, hgive, hfinalize, hready, -⟩ :=
      GcmDecrypt.opens hd n header (masked o.keystream key iv 0 data)
    rw [masked_masked] at hupdate
    exact ⟨length_masked _ _ _ _, (o.length_tag _ _ _ _).trans d.tagLen.symm, d, d₂, data,
      d₃, d₄, [], d₅, hstart, hopen, hupdate, hgive, hfinalize, List.append_nil _, key,
      increment iv, hafter, hready⟩

/-- Sealing never fails. -/
theorem GcmEncrypt.seals_always {e : GcmEncrypt o} {d : GcmDecrypt o} (h : Corresponds e d)
    (n : UInt32) (header : Header) (data : Bytes) :
    ∃ e₁ header' e₂ out e₃ tag e₄, PacketEncrypt.updateSequenceNumber n e = (.ok (), e₁) ∧
      PacketEncrypt.additionalAuthenticatedData header e₁ = (.ok header', e₂) ∧
      PacketEncrypt.whole data e₂ = (.ok out, e₃) ∧
      PacketEncrypt.authenticationTag e₃ = (.ok tag, e₄) := by
  obtain ⟨key, iv, he, -⟩ := h
  obtain ⟨e₂, e₃, e₄, hnumber, haad, hwhole, htag, -⟩ := seals he n header data
  exact ⟨e, _, e₂, _, e₃, _, e₄, hnumber, haad, hwhole, htag⟩

/-- An instance that gets as much as it asks for is in front of the first packet then. -/
theorem initializeCtx_run (mode : CrypterMode) {s : GaloisCounterMode o.Ctx}
    (hiv : iv.length = 12) (hkey : key.length = s.keyLen) :
    ∃ s', initializeCtx (o.crypter s.keyLen) mode iv key s = .ok () s' ∧
      AtPacket o mode key iv s' := by
  obtain ⟨ctx, hnew, hcodes⟩ := o.new_codes mode hkey hiv
  let first := (o.crypter s.keyLen).pad false ctx
  refine ⟨{ s with ctx := some first, iv := some iv, key := some key }, ?_,
    ⟨hiv, hkey, ⟨first, rfl, o.pad_codes s.keyLen hcodes⟩, rfl, rfl⟩⟩
  unfold initializeCtx
  rw [hnew]
  rfl

/-- Both ends are initialized alike. -/
theorem GcmEncrypt.corresponds_of_initialize {e : GcmEncrypt o} {d : GcmDecrypt o}
    (hiv : iv.length = 12) (hkey : key.length = e.cipher.keyLen)
    (hsame : d.cipher.keyLen = e.cipher.keyLen) :
    ∃ e' d', e.initializeCipher iv key = .ok e' ∧ d.initializeCipher iv key = .ok d' ∧
      Corresponds e' d' := by
  obtain ⟨s, hrun, hready⟩ := initializeCtx_run (o := o) .encrypt hiv hkey
  obtain ⟨t, hrun', hready'⟩ :=
    initializeCtx_run (o := o) .decrypt hiv (hkey.trans hsame.symm)
  obtain ⟨e', he, hcipher⟩ := run_ok (keeps_sizes_initializeCtx _ .encrypt iv key) hrun
  obtain ⟨d', hd, hcipher'⟩ := GcmDecrypt.run_ok (keeps_sizes_initializeCtx _ .decrypt iv key) hrun'
  refine ⟨e', d', ?_, ?_, key, iv, hcipher ▸ hready, hcipher' ▸ hready'⟩
  · unfold GcmEncrypt.initializeCipher
    rw [hrun, he]
  · unfold GcmDecrypt.initializeCipher
    rw [hrun', hd]

end Layer

/-! ## Contexts that record -/

/-- What a context was made with, what its tag covers, and the tag that is expected. -/
structure RecordingGcm where
  mode : CrypterMode
  key : Bytes
  iv : Bytes
  aad : Bytes
  coded : Bytes
  expected : Option Bytes
  finished : Bool
deriving DecidableEq, Repr

/-- The tag of a table; behind its end there are zeros. -/
def recordedTag (table : List ((Bytes × Bytes × Bytes × Bytes) × Bytes))
    (key iv aad coded : Bytes) : Bytes :=
  match table.lookup (key, iv, aad, coded) with
  | some tag => (writtenTo 16 tag).take 16
  | none => List.replicate 16 0

theorem length_recordedTag (table : List ((Bytes × Bytes × Bytes × Bytes) × Bytes))
    (key iv aad coded : Bytes) : (recordedTag table key iv aad coded).length = 16 := by
  unfold recordedTag
  split
  · rw [List.length_take, writtenTo, List.length_append, List.length_replicate]
    omega
  · exact List.length_replicate

/-- Contexts that look the key stream and the tag up. -/
def recordingCrypter (streams : List ((Bytes × Bytes) × Bytes))
    (tags : List ((Bytes × Bytes × Bytes × Bytes) × Bytes)) (keyLen : ℕ) : Crypter RecordingGcm where
  new mode key iv :=
    if key.length = keyLen then some ⟨mode, key, iv, [], [], none, false⟩ else none
  pad _ ctx := ctx
  aadUpdate data ctx := (some (), { ctx with aad := ctx.aad ++ data })
  update data ctx :=
    let out := masked (recordedStream streams) ctx.key ctx.iv ctx.coded.length data
    (some out,
      { ctx with coded := ctx.coded ++ if ctx.mode = .encrypt then out else data })
  finalize ctx :=
    match ctx.mode, ctx.expected with
    | .encrypt, _ => (some [], { ctx with finished := true })
    | .decrypt, none => (none, ctx)
    | .decrypt, some tag =>
      (if tag = recordedTag tags ctx.key ctx.iv ctx.aad ctx.coded then some [] else none, ctx)
  getTag len ctx :=
    if ctx.mode = .encrypt ∧ ctx.finished = true ∧ 0 < len ∧ len ≤ 16 then
      some ((recordedTag tags ctx.key ctx.iv ctx.aad ctx.coded).take len)
    else none
  setTag data ctx :=
    if ctx.mode = .decrypt ∧ data.length = 16 then (some (), { ctx with expected := some data })
    else (none, ctx)

def GcmCalls.recorded (streams : List ((Bytes × Bytes) × Bytes))
    (tags : List ((Bytes × Bytes × Bytes × Bytes) × Bytes)) : GcmCalls where
  Ctx := RecordingGcm
  crypter := recordingCrypter streams tags
  keystream := recordedStream streams
  tag := recordedTag tags
  Codes mode key iv aad coded ctx := ctx = ⟨mode, key, iv, aad, coded, none, false⟩
  length_tag := length_recordedTag tags
  new_codes _ _ _ _ hkey _ := ⟨_, if_pos hkey, rfl⟩
  pad_codes _ h := h
  aadUpdate_codes {mode key iv ctx} _ aad h := by
    cases h
    exact ⟨_, rfl, rfl⟩
  update_codes {mode key iv aad ctx} _ data h := by
    cases h
    exact ⟨_, rfl, rfl⟩
  finalize_encrypt {key iv aad coded ctx} _ h := by
    cases h
    refine ⟨_, rfl, ?_⟩
    unfold recordingCrypter
    dsimp only
    rw [if_pos ⟨rfl, rfl, by decide, by decide⟩,
      List.take_of_length_le (Nat.le_of_eq (length_recordedTag tags key iv aad coded))]
  setTag_decrypt {key iv aad coded expected ctx} _ h hlength := by
    cases h
    exact ⟨_, if_pos ⟨rfl, hlength⟩, rfl⟩
  length_update {keyLen data out ctx} h := by
    cases h
    exact length_masked _ _ _ _

end Flatline
