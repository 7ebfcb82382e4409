import Flatline.Transport.RoundTrip

/-!
# Trait objects

A trait object is one of several ciphers. What the packet layer needs of a pair of ciphers holds of
their images in a larger type, and of a choice between several pairs.
-/

namespace Flatline

variable {ε ε' δ δ' ι μ : Type}

/-- `f` embeds one kind of cipher into another: all methods commute with it. -/
structure EncryptEmbedding [PacketEncrypt ε] [PacketEncrypt ε'] (f : ε → ε') : Prop where
  blockSize (e : ε) : PacketEncrypt.blockSize (f e) = PacketEncrypt.blockSize e
  isGaloisCounterMode (e : ε) :
    PacketEncrypt.isGaloisCounterMode (f e) = PacketEncrypt.isGaloisCounterMode e
  updateSequenceNumber (n : UInt32) (e : ε) : PacketEncrypt.updateSequenceNumber n (f e) =
    (PacketEncrypt.updateSequenceNumber n e).map id f
  additionalAuthenticatedData (header : Header) (e : ε) :
    PacketEncrypt.additionalAuthenticatedData header (f e) =
      (PacketEncrypt.additionalAuthenticatedData header e).map id f
  update (data : Bytes) (e : ε) :
    PacketEncrypt.update data (f e) = (PacketEncrypt.update data e).map id f
  finalize (e : ε) : PacketEncrypt.finalize (f e) = (PacketEncrypt.finalize e).map id f
  authenticationTag (e : ε) :
    PacketEncrypt.authenticationTag (f e) = (PacketEncrypt.authenticationTag e).map id f

/-- The same for decryption. -/
structure DecryptEmbedding [PacketDecrypt δ] [PacketDecrypt δ'] (g : δ → δ') : Prop where
  blockSize (d : δ) : PacketDecrypt.blockSize (g d) = PacketDecrypt.blockSize d
  isGaloisCounterMode (d : δ) :
    PacketDecrypt.isGaloisCounterMode (g d) = PacketDecrypt.isGaloisCounterMode d
  tagLen (d : δ) : PacketDecrypt.tagLen (g d) = PacketDecrypt.tagLen d
  updateSequenceNumber (n : UInt32) (d : δ) : PacketDecrypt.updateSequenceNumber n (g d) =
    (PacketDecrypt.updateSequenceNumber n d).map id g
  additionalAuthenticatedData (header : Header) (d : δ) :
    PacketDecrypt.additionalAuthenticatedData header (g d) =
      (PacketDecrypt.additionalAuthenticatedData header d).map id g
  update (data : Bytes) (d : δ) :
    PacketDecrypt.update data (g d) = (PacketDecrypt.update data d).map id g
  authenticationTag (tag : Bytes) (d : δ) :
    PacketDecrypt.authenticationTag tag (g d) = (PacketDecrypt.authenticationTag tag d).map id g
  finalize (d : δ) : PacketDecrypt.finalize (g d) = (PacketDecrypt.finalize d).map id g

/-- The images of related ciphers. -/
inductive Related (f : ε → ε') (g : δ → δ') (R : ε → δ → Prop) : ε' → δ' → Prop
  | intro {e : ε} {d : δ} (h : R e d) : Related f g R (f e) (g d)

section Embedded

variable [PacketEncrypt ε] [PacketEncrypt ε'] [PacketDecrypt δ] [PacketDecrypt δ'] {f : ε → ε'}
  {g : δ → δ'} {R : ε → δ → Prop}

omit [PacketDecrypt δ] [PacketDecrypt δ'] in
theorem EncryptEmbedding.whole (hf : EncryptEmbedding f) (data : Bytes) (e : ε) :
    PacketEncrypt.whole data (f e) = (PacketEncrypt.whole data e).map id f := by
  unfold PacketEncrypt.whole
  rw [hf.update]
  rcases PacketEncrypt.update data e with ⟨_ | updated, e₁⟩
  · rfl
  · dsimp only [Prod.map, id]
    rw [hf.finalize]
    rcases PacketEncrypt.finalize e₁ with ⟨_ | finalized, e₂⟩ <;> rfl

/-- A result of an embedded cipher comes from the cipher. -/
theorem of_map_eq {α β γ : Type} {f : β → γ} {p : α × β} {a : α} {c : γ}
    (h : p.map id f = (a, c)) : ∃ b, p = (a, b) ∧ f b = c := by
  obtain ⟨a', b⟩ := p
  obtain ⟨rfl, hc⟩ := Prod.mk.inj h
  exact ⟨b, rfl, hc⟩

theorem map_eq {α β γ : Type} {f : β → γ} {p : α × β} {a : α} {b : β} (h : p = (a, b)) :
    p.map id f = (a, f b) := by
  rw [h]
  rfl

theorem Inverts.related (hf : EncryptEmbedding f) (hg : DecryptEmbedding g) (hR : Inverts R) :
    Inverts (Related f g R) where
  isGaloisCounterMode h := by
    obtain ⟨h⟩ := h
    rw [hf.isGaloisCounterMode, hg.isGaloisCounterMode]
    exact hR.isGaloisCounterMode h
  blockSize h := by
    obtain ⟨h⟩ := h
    rw [hf.blockSize, hg.blockSize]
    exact hR.blockSize h
  blockSize_le h := by
    obtain ⟨h⟩ := h
    rw [hf.blockSize]
    exact hR.blockSize_le h
  tagLen_le h := by
    obtain ⟨h⟩ := h
    rw [hg.tagLen]
    exact hR.tagLen_le h
  number n h hmode := by
    obtain ⟨h⟩ := h
    rw [hf.isGaloisCounterMode] at hmode
    obtain ⟨d', hnumber, h'⟩ := hR.number n h hmode
    exact ⟨g d', (hg.updateSequenceNumber n _).trans (map_eq hnumber), .intro h'⟩
  whole h hmode hdata hwhole := by
    obtain ⟨h⟩ := h
    rw [hf.isGaloisCounterMode] at hmode
    rw [hf.blockSize] at hdata
    rw [hf.whole] at hwhole
    obtain ⟨e', hcoded, rfl⟩ := of_map_eq hwhole
    obtain ⟨hlength, p, d₁, q, d', hupdate, hfinalize, happend, h'⟩ :=
      hR.whole h hmode hdata hcoded
    exact ⟨hlength, p, g d₁, q, g d', (hg.update _ _).trans (map_eq hupdate),
      (hg.finalize _).trans (map_eq hfinalize), happend, .intro h'⟩
  split h hmode hdata hle hwhole := by
    obtain ⟨h⟩ := h
    rw [hf.isGaloisCounterMode] at hmode
    rw [hf.blockSize] at hdata hle ⊢
    rw [hf.whole] at hwhole
    obtain ⟨e', hcoded, rfl⟩ := of_map_eq hwhole
    obtain ⟨first, d₁, p, d₂, q, d', hfirst, hupdate, hfinalize, hlength, happend, h'⟩ :=
      hR.split h hmode hdata hle hcoded
    exact ⟨first, g d₁, p, g d₂, q, g d', (hg.update _ _).trans (map_eq hfirst),
      (hg.update _ _).trans (map_eq hupdate), (hg.finalize _).trans (map_eq hfinalize), hlength,
      happend, .intro h'⟩
  tagged h hmode hnumber haad hwhole htag := by
    obtain ⟨h⟩ := h
    rw [hf.isGaloisCounterMode] at hmode
    rw [hf.updateSequenceNumber] at hnumber
    obtain ⟨e₁, hnumbered, rfl⟩ := of_map_eq hnumber
    rw [hf.additionalAuthenticatedData] at haad
    obtain ⟨e₂, hheader, rfl⟩ := of_map_eq haad
    rw [hf.whole] at hwhole
    obtain ⟨e₃, hcoded, rfl⟩ := of_map_eq hwhole
    rw [hf.authenticationTag] at htag
    obtain ⟨e₄, htagged, rfl⟩ := of_map_eq htag
    obtain ⟨hlength, htagLen, d₁, d₂, p, d₃, d₄, q, d', hstart, hopen, hupdate, hgive, hfinalize,
      happend, h'⟩ := hR.tagged h hmode hnumbered hheader hcoded htagged
    exact ⟨hlength, htagLen.trans (hg.tagLen _).symm, g d₁, g d₂, p, g d₃, g d₄, q, g d',
      (hg.updateSequenceNumber _ _).trans (map_eq hstart),
      (hg.additionalAuthenticatedData _ _).trans (map_eq hopen),
      (hg.update _ _).trans (map_eq hupdate), (hg.authenticationTag _ _).trans (map_eq hgive),
      (hg.finalize _).trans (map_eq hfinalize), happend, .intro h'⟩

/-- Encryption does not fail on an embedded cipher either. -/
structure Encrypts (R : ε → δ → Prop) : Prop where
  whole {e : ε} {d : δ} {data : Bytes} : R e d → PacketEncrypt.isGaloisCounterMode e = false →
    PacketEncrypt.blockSize e ∣ data.length → ∃ out e', PacketEncrypt.whole data e = (.ok out, e')
  tagged {e : ε} {d : δ} {data : Bytes} (n : UInt32) (header : Header) : R e d →
    PacketEncrypt.isGaloisCounterMode e = true → PacketEncrypt.blockSize e ∣ data.length →
    ∃ e₁ header' e₂ out e₃ tag e₄, PacketEncrypt.updateSequenceNumber n e = (.ok (), e₁) ∧
      PacketEncrypt.additionalAuthenticatedData header e₁ = (.ok header', e₂) ∧
      PacketEncrypt.whole data e₂ = (.ok out, e₃) ∧
      PacketEncrypt.authenticationTag e₃ = (.ok tag, e₄)

omit [PacketDecrypt δ] [PacketDecrypt δ'] in
theorem Encrypts.related (hf : EncryptEmbedding f) (hR : Encrypts R) :
    Encrypts (Related f g R) where
  whole h hmode hdata := by
    obtain ⟨h⟩ := h
    rw [hf.isGaloisCounterMode] at hmode
    rw [hf.blockSize] at hdata
    obtain ⟨out, e', hwhole⟩ := hR.whole h hmode hdata
    exact ⟨out, f e', (hf.whole _ _).trans (map_eq hwhole)⟩
  tagged n header h hmode hdata := by
    obtain ⟨h⟩ := h
    rw [hf.isGaloisCounterMode] at hmode
    rw [hf.blockSize] at hdata
    obtain ⟨e₁, header', e₂, out, e₃, tag, e₄, hnumber, haad, hwhole, htag⟩ :=
      hR.tagged n header h hmode hdata
    exact ⟨f e₁, header', f e₂, out, f e₃, tag, f e₄,
      (hf.updateSequenceNumber _ _).trans (map_eq hnumber),
      (hf.additionalAuthenticatedData _ _).trans (map_eq haad),
      (hf.whole _ _).trans (map_eq hwhole), (hf.authenticationTag _).trans (map_eq htag)⟩

end Embedded

/-! ## A choice between pairs -/

section Choice

variable [PacketEncrypt ε] [PacketDecrypt δ] {R : ι → ε → δ → Prop}

theorem Inverts.choice (hR : ∀ i, Inverts (R i)) : Inverts fun e d => ∃ i, R i e d where
  isGaloisCounterMode := fun ⟨i, h⟩ => (hR i).isGaloisCounterMode h
  blockSize := fun ⟨i, h⟩ => (hR i).blockSize h
  blockSize_le := fun ⟨i, h⟩ => (hR i).blockSize_le h
  tagLen_le := fun ⟨i, h⟩ => (hR i).tagLen_le h
  number n := by
    rintro ⟨i, h⟩ hmode
    obtain ⟨d', hnumber, h'⟩ := (hR i).number n h hmode
    exact ⟨d', hnumber, i, h'⟩
  whole {e e' d data out} := by
    rintro ⟨i, h⟩ hmode hdata hwhole
    obtain ⟨hlength, p, d₁, q, d', hupdate, hfinalize, happend, h'⟩ :=
      (hR i).whole h hmode hdata hwhole
    exact ⟨hlength, p, d₁, q, d', hupdate, hfinalize, happend, i, h'⟩
  split {e e' d data out} := by
    rintro ⟨i, h⟩ hmode hdata hle hwhole
    obtain ⟨first, d₁, p, d₂, q, d', hfirst, hupdate, hfinalize, hlength, happend, h'⟩ :=
      (hR i).split h hmode hdata hle hwhole
    exact ⟨first, d₁, p, d₂, q, d', hfirst, hupdate, hfinalize, hlength, happend, i, h'⟩
  tagged {e e₁ e₂ e₃ e₄ d n header header' data out tag} := by
    rintro ⟨i, h⟩ hmode hnumber haad hwhole htag
    obtain ⟨hlength, htagLen, d₁, d₂, p, d₃, d₄, q, d', hstart, hopen, hupdate, hgive, hfinalize,
      happend, h'⟩ := (hR i).tagged h hmode hnumber haad hwhole htag
    exact ⟨hlength, htagLen, d₁, d₂, p, d₃, d₄, q, d', hstart, hopen, hupdate, hgive, hfinalize,
      happend, i, h'⟩

omit [PacketDecrypt δ] in
theorem Encrypts.choice (hR : ∀ i, Encrypts (R i)) : Encrypts fun e d => ∃ i, R i e d where
  whole := fun ⟨i, h⟩ => (hR i).whole h
  tagged n header := fun ⟨i, h⟩ => (hR i).tagged n header h

end Choice

theorem Encrypts.neverFails [PacketEncrypt ε] [PacketMac μ] {R : ε → δ → Prop} (h : Encrypts R)
    (htag : ∀ (n : UInt32) (parts : List Bytes) (m : μ),
      ∃ tag m', PacketMac.tagOver n parts m = (.ok tag, m')) : NeverFails μ R :=
  ⟨h.whole, h.tagged, htag⟩

end Flatline
