import Flatline.Common.BigEndian
import Flatline.Common.Keeping
import Flatline.Error

/-!
# Initialization vectors of AES-GCM

A `GaloisCounterMode` instance makes a new `Crypter` for every packet. The last eight octets of the
IV count the packets: the sending side steps the counter after it has taken the tag, the receiving
side after the tag has been verified. `Crypter` is a parameter; nothing of it matters but which IV
each context is made with.

Source: `src/cipher/crypt.rs` (`GaloisCounterMode`).
-/

namespace Flatline

/-- `symm::Mode`. -/
inductive CrypterMode where
  | encrypt
  | decrypt
deriving DecidableEq, Repr

/-- `symm::Crypter` of one cipher: contexts `σ` and their functions. `none` is an OpenSSL error. -/
structure Crypter (σ : Type) where
  new : CrypterMode → (key iv : Bytes) → Option σ
  pad : Bool → σ → σ
  aadUpdate : Bytes → σ → Option Unit × σ
  update : Bytes → σ → Option Bytes × σ
  finalize : σ → Option Bytes × σ
  getTag : ℕ → σ → Option Bytes
  setTag : Bytes → σ → Option Unit × σ

/-- `GaloisCounterMode`. -/
structure GaloisCounterMode (σ : Type) where
  name : Text
  blockSize : ℕ
  keyLen : ℕ
  ivLen : ℕ
  tagLen : ℕ
  iv : Option Bytes
  key : Option Bytes
  ctx : Option σ

namespace GaloisCounterMode

variable {σ : Type}

/-- A method. What it has changed before it fails stays changed. -/
abbrev Method (σ : Type) := EStateM Abort (GaloisCounterMode σ)

/-- `GaloisCounterMode::new`. -/
def new (name : Text) (blockSize keyLen ivLen tagLen : ℕ) : GaloisCounterMode σ where
  name
  blockSize
  keyLen
  ivLen
  tagLen
  iv := none
  key := none
  ctx := none

def aes128GcmOpenssh : GaloisCounterMode σ :=
  new (ascii "aes128-gcm@openssh.com") 16 16 12 16

def aes256GcmOpenssh : GaloisCounterMode σ :=
  new (ascii "aes256-gcm@openssh.com") 16 32 12 16

/-! ## The counter -/

/-- The loop of `reset` over the indices that are left. -/
def carryLoop (iv : Bytes) : List ℕ → Bytes
  | [] => iv
  | i :: rest =>
    let iv := iv.modify i (· + 1)
    if iv[i]? ≠ some 0 then iv else carryLoop iv rest

/-- The increment of `reset`, over `(4..12).rev()`. -/
def increment (iv : Bytes) : Bytes :=
  carryLoop iv [11, 10, 9, 8, 7, 6, 5, 4]

/-- `reset`. -/
def reset (lib : Crypter σ) (mode : CrypterMode) : Method σ Unit := do
  let s ← get
  match s.key, s.iv with
  | some key, some iv =>
    if iv.length = 12 then
      let iv := increment iv
      modify fun s => { s with iv := some iv }
      match lib.new mode key iv with
      | none => throw (.error .openssl)
      | some ctx => modify fun s => { s with ctx := some ctx }
    else throw .panic
  | _, _ => throw (.error (.invalidOperation (ascii "Uninitialized")))

/-! ## Methods -/

/-- `initialize` of either trait. -/
def initializeCtx (lib : Crypter σ) (mode : CrypterMode) (iv key : Bytes) : Method σ Unit :=
  match lib.new mode key iv with
  | none => throw (.error .openssl)
  | some ctx =>
    modify fun s => { s with ctx := some (lib.pad false ctx), iv := some iv, key := some key }

/-- A function of the context, behind `get_ctx`. -/
def withCtx {α : Type} (f : σ → Option α × σ) : Method σ α := do
  let s ← get
  match s.ctx with
  | none => throw (.error (.invalidOperation (ascii "Uninitiailzed")))
  | some ctx =>
    modify fun s => { s with ctx := some (f ctx).2 }
    match (f ctx).1 with
    | none => throw (.error .openssl)
    | some a => return a

/-- `update` of either trait: the octets that it appends. -/
def update (lib : Crypter σ) (data : Bytes) : Method σ Bytes :=
  withCtx (lib.update data)

/-- `additional_authenticated_data` of either trait. -/
def additionalAuthenticatedData (lib : Crypter σ) (aad : Bytes) : Method σ Unit :=
  withCtx (lib.aadUpdate aad)

/-- `update_sequence_number` of either trait. -/
def updateSequenceNumber (_ : UInt32) : Method σ Unit :=
  return ()

namespace Encrypt

def finalize (lib : Crypter σ) : Method σ Bytes :=
  withCtx lib.finalize

def authenticationTag (lib : Crypter σ) (len : ℕ) : Method σ Bytes := do
  let tag ← withCtx fun ctx => (lib.getTag len ctx, ctx)
  reset lib .encrypt
  return tag

end Encrypt

namespace Decrypt

def authenticationTag (lib : Crypter σ) (data : Bytes) : Method σ Unit :=
  withCtx (lib.setTag data)

def finalize (lib : Crypter σ) : Method σ Bytes := do
  let data ← withCtx lib.finalize
  reset lib .decrypt
  return data

end Decrypt

/-! ## What the counter counts -/

open BigEndian

/-- The IV of the packet behind `n` others: a counter of 64 bits in the last eight octets. -/
def ivAfter (iv : Bytes) (n : ℕ) : Bytes :=
  iv.take 4 ++ fixed 8 ((value (iv.drop 4) + n) % 2 ^ 64)

theorem modify_append (front : Bytes) (octet : UInt8) (back : Bytes) :
    (front ++ octet :: back).modify front.length (· + 1) = front ++ (octet + 1) :: back := by
  induction front with
  | nil => rfl
  | cons first front ih => exact congrArg (first :: ·) ih

/-- The carry runs over the octets in front of `back` from the last one on. -/
theorem carryLoop_eq (front counter back : Bytes) :
    carryLoop (front ++ (counter ++ back))
        ((List.range counter.length).reverse.map (front.length + ·)) =
      front ++ (fixed counter.length ((value counter + 1) % 256 ^ counter.length) ++ back) := by
  induction counter using List.reverseRecOn generalizing back with
  | nil =>
    rw [List.length_nil, Nat.pow_zero, Nat.mod_one]
    rfl
  | append_singleton counter octet ih =>
    have hlength : (counter ++ [octet]).length = counter.length + 1 := List.length_append
    have hsplit : ∀ last : UInt8, front ++ (counter ++ [last] ++ back) =
        (front ++ counter) ++ last :: back := fun last => by simp
    have hindex : front.length + counter.length = (front ++ counter).length :=
      List.length_append.symm
    have hvalue : ∀ last : UInt8, value (counter ++ [last]) = value counter * 256 + last.toNat :=
      fun last => by rw [value_append, value_cons]; simp
    rw [hlength, List.range_succ, List.reverse_append, List.reverse_singleton,
      List.singleton_append, List.map_cons, carryLoop, hsplit, hindex, modify_append]
    have hat : ((front ++ counter) ++ (octet + 1) :: back)[(front ++ counter).length]? =
        some (octet + 1) := by
      rw [List.getElem?_append_right (Nat.le_refl _), Nat.sub_self]
      rfl
    rw [hat]
    by_cases hcarry : octet + 1 = 0
    · -- the octet was 255: it becomes zero, and the carry goes on
      have hoctet : octet.toNat = 255 := by
        have hzero := congrArg UInt8.toNat hcarry
        have hlt := octet.toNat_lt
        rw [UInt8.toNat_add] at hzero
        change (octet.toNat + 1) % 2 ^ 8 = 0 at hzero
        omega
      have hpow : (value counter + 1) % 256 ^ counter.length < 256 ^ counter.length :=
        Nat.mod_lt _ (Nat.pow_pos (by omega))
      have hform := fixed_value
        (fixed counter.length ((value counter + 1) % 256 ^ counter.length) ++ [0])
      have hmod : (value counter * 256 + 255 + 1) % 256 ^ (counter.length + 1) =
          (value counter + 1) % 256 ^ counter.length * 256 := by
        have hsum : value counter * 256 + 255 + 1 = (value counter + 1) * 256 := by omega
        rw [hsum, Nat.pow_succ, Nat.mul_mod_mul_right]
      rw [value_append, value_fixed, List.length_append, length_fixed hpow] at hform
      simp only [List.length_singleton, Nat.pow_one, value_zero_cons, value_nil,
        Nat.add_zero] at hform
      rw [if_neg (by rw [hcarry]; exact not_not.mpr rfl), hcarry, List.append_assoc, ih, hvalue,
        hoctet, hmod, hform, List.append_assoc, List.singleton_append]
    -- any other octet takes the carry, and the ones in front of it stay
    · have hoctet : (octet + 1).toNat = octet.toNat + 1 := by
        have hlt := octet.toNat_lt
        rw [UInt8.toNat_add]
        change (octet.toNat + 1) % 2 ^ 8 = _
        by_contra hne
        apply hcarry
        apply UInt8.toNat_inj.mp
        rw [UInt8.toNat_add]
        change (octet.toNat + 1) % 2 ^ 8 = 0
        omega
      have hlt := value_lt (counter ++ [octet + 1])
      have hform := fixed_value (counter ++ [octet + 1])
      rw [hvalue, hoctet, List.length_append, List.length_singleton] at hform hlt
      rw [if_pos (fun h => hcarry (Option.some.inj h)), hvalue, Nat.add_assoc,
        Nat.mod_eq_of_lt hlt, hform, ← hsplit]

theorem increment_ivAfter {iv : Bytes} (hiv : iv.length = 12) (n : ℕ) :
    increment (ivAfter iv n) = ivAfter iv (n + 1) := by
  have hfront : (iv.take 4).length = 4 := by
    rw [List.length_take]
    omega
  have hlt : (value (iv.drop 4) + n) % 2 ^ 64 < 256 ^ 8 := Nat.mod_lt _ (by decide)
  have hcarry := carryLoop_eq (iv.take 4) (fixed 8 ((value (iv.drop 4) + n) % 2 ^ 64)) []
  rw [length_fixed hlt, value_fixed, List.append_nil, List.append_nil, hfront] at hcarry
  refine hcarry.trans ?_
  unfold ivAfter
  rw [show (256 : ℕ) ^ 8 = 2 ^ 64 from rfl, Nat.mod_add_mod, Nat.add_assoc]

theorem ivAfter_zero {iv : Bytes} (hiv : iv.length = 12) : ivAfter iv 0 = iv := by
  have hlength : (iv.drop 4).length = 8 := by
    rw [List.length_drop, hiv]
  have hlt : value (iv.drop 4) < 2 ^ 64 := by
    have hvalue := value_lt (iv.drop 4)
    rwa [hlength] at hvalue
  have hform := fixed_value (iv.drop 4)
  rw [hlength] at hform
  unfold ivAfter
  rw [Nat.add_zero, Nat.mod_eq_of_lt hlt, hform, List.take_append_drop]

theorem length_ivAfter {iv : Bytes} (hiv : iv.length = 12) (n : ℕ) :
    (ivAfter iv n).length = 12 := by
  have hlt : (value (iv.drop 4) + n) % 2 ^ 64 < 256 ^ 8 := Nat.mod_lt _ (by decide)
  unfold ivAfter
  rw [List.length_append, length_fixed hlt, List.length_take, hiv]
  rfl

/-! ## Packets -/

/-- The context of the instance is one made with `iv`, which nothing has been done to but to turn
off its padding. -/
structure UsesIv (lib : Crypter σ) (mode : CrypterMode) (key iv : Bytes)
    (s : GaloisCounterMode σ) : Prop where
  ctx : ∃ ctx, lib.new mode key iv = some ctx ∧
    (s.ctx = some ctx ∨ s.ctx = some (lib.pad false ctx))
  iv : s.iv = some iv
  key : s.key = some key

/-- The state a method leaves, whether it returns or fails. -/
def leaves {α : Type} (m : Method σ α) (s : GaloisCounterMode σ) : GaloisCounterMode σ :=
  match m s with
  | .ok _ s' | .error _ s' => s'

/-- The IV and the key of an instance. -/
def secrets (s : GaloisCounterMode σ) : Option Bytes × Option Bytes :=
  (s.iv, s.key)

namespace Encrypt

/-- The calls in front of `authentication_tag`. -/
inductive Call where
  | updateSequenceNumber (n : UInt32)
  | additionalAuthenticatedData (aad : Bytes)
  | update (data : Bytes)
  | finalize

def Call.after (lib : Crypter σ) (s : GaloisCounterMode σ) : Call → GaloisCounterMode σ
  | .updateSequenceNumber n => leaves (GaloisCounterMode.updateSequenceNumber n) s
  | .additionalAuthenticatedData aad =>
    leaves (GaloisCounterMode.additionalAuthenticatedData lib aad) s
  | .update data => leaves (GaloisCounterMode.update lib data) s
  | .finalize => leaves (Encrypt.finalize lib) s

/-- The states right after `n` packets have been sealed. A packet is any calls, whatever they
return, and an `authentication_tag` that returns the tag. -/
inductive Sealed (lib : Crypter σ) (iv key : Bytes) : ℕ → GaloisCounterMode σ → Prop
  | start {s s' : GaloisCounterMode σ} (h : initializeCtx lib .encrypt iv key s = .ok () s') :
      Sealed lib iv key 0 s'
  | packet {n len : ℕ} {s s' : GaloisCounterMode σ} {tag : Bytes} (h : Sealed lib iv key n s)
      (calls : List Call)
      (htag : authenticationTag lib len (calls.foldl (Call.after lib) s) = .ok tag s') :
      Sealed lib iv key (n + 1) s'

end Encrypt

namespace Decrypt

/-- The calls in front of `finalize`. -/
inductive Call where
  | updateSequenceNumber (n : UInt32)
  | additionalAuthenticatedData (aad : Bytes)
  | update (data : Bytes)
  | authenticationTag (data : Bytes)

def Call.after (lib : Crypter σ) (s : GaloisCounterMode σ) : Call → GaloisCounterMode σ
  | .updateSequenceNumber n => leaves (GaloisCounterMode.updateSequenceNumber n) s
  | .additionalAuthenticatedData aad =>
    leaves (GaloisCounterMode.additionalAuthenticatedData lib aad) s
  | .update data => leaves (GaloisCounterMode.update lib data) s
  | .authenticationTag data => leaves (Decrypt.authenticationTag lib data) s

/-- The states right after `n` packets have been opened. A packet is any calls, whatever they
return, and a `finalize` that returns. -/
inductive Opened (lib : Crypter σ) (iv key : Bytes) : ℕ → GaloisCounterMode σ → Prop
  | start {s s' : GaloisCounterMode σ} (h : initializeCtx lib .decrypt iv key s = .ok () s') :
      Opened lib iv key 0 s'
  | packet {n : ℕ} {s s' : GaloisCounterMode σ} {data : Bytes} (h : Opened lib iv key n s)
      (calls : List Call)
      (hfinal : finalize lib (calls.foldl (Call.after lib) s) = .ok data s') :
      Opened lib iv key (n + 1) s'

end Decrypt

section Lockstep

variable {lib : Crypter σ} {mode : CrypterMode} {iv key : Bytes} {s s' : GaloisCounterMode σ} {n : ℕ}

open Triple

theorem secrets_leaves {α : Type} {m : Method σ α} (h : Keeps secrets m)
    (s : GaloisCounterMode σ) : secrets (leaves m s) = secrets s := by
  unfold leaves
  cases hrun : m s with
  | ok a s' => exact h.of_ok hrun
  | error e s' => exact h.of_error hrun

theorem keeps_withCtx {α : Type} (f : σ → Option α × σ) : Keeps secrets (withCtx f) := by
  refine Keeps.get_bind fun s => ?_
  cases s.ctx with
  | none => exact Keeps.throw _
  | some ctx =>
    refine Keeps.bind (Keeps.modify ?_) fun _ => ?_
    · exact fun _ => rfl
    · cases (f ctx).1 with
      | none => exact Keeps.throw _
      | some a => exact Keeps.pure a

theorem Encrypt.secrets_after (s : GaloisCounterMode σ) (call : Call) :
    secrets (call.after lib s) = secrets s := by
  cases call with
  | updateSequenceNumber n => exact secrets_leaves (Keeps.pure ()) s
  | additionalAuthenticatedData aad => exact secrets_leaves (keeps_withCtx _) s
  | update data => exact secrets_leaves (keeps_withCtx _) s
  | finalize => exact secrets_leaves (keeps_withCtx _) s

theorem Decrypt.secrets_after (s : GaloisCounterMode σ) (call : Call) :
    secrets (call.after lib s) = secrets s := by
  cases call with
  | updateSequenceNumber n => exact secrets_leaves (Keeps.pure ()) s
  | additionalAuthenticatedData aad => exact secrets_leaves (keeps_withCtx _) s
  | update data => exact secrets_leaves (keeps_withCtx _) s
  | authenticationTag data => exact secrets_leaves (keeps_withCtx _) s

/-- Calls in front of the last one of a packet leave the IV alone. -/
theorem secrets_foldl {γ : Type} {f : GaloisCounterMode σ → γ → GaloisCounterMode σ}
    (hf : ∀ s c, secrets (f s c) = secrets s) (calls : List γ) (s : GaloisCounterMode σ) :
    secrets (calls.foldl f s) = secrets s := by
  induction calls generalizing s with
  | nil => rfl
  | cons call calls ih => exact (ih (f s call)).trans (hf s call)

/-- A new instance is made with the IV it is given. -/
theorem usesIv_initializeCtx (hiv : iv.length = 12)
    (h : initializeCtx lib mode iv key s = .ok () s') :
    UsesIv lib mode key (ivAfter iv 0) s' := by
  rw [ivAfter_zero hiv]
  unfold initializeCtx at h
  cases hnew : lib.new mode key iv with
  | none =>
    rw [hnew] at h
    cases h
  | some ctx =>
    rw [hnew] at h
    cases h
    exact ⟨⟨ctx, hnew, .inr rfl⟩, rfl, rfl⟩

/-- A `reset` that returns has stepped the counter. -/
theorem usesIv_reset (hiv : iv.length = 12) (hs : secrets s = (some (ivAfter iv n), some key))
    (h : reset lib mode s = .ok () s') : UsesIv lib mode key (ivAfter iv (n + 1)) s' := by
  simp only [secrets, Prod.mk.injEq] at hs
  unfold reset at h
  rw [Triple.get_bind, hs.1, hs.2] at h
  dsimp only at h
  rw [if_pos (length_ivAfter hiv n), increment_ivAfter hiv] at h
  obtain ⟨_, s₁, hmodify, h⟩ := bind_eq_ok_iff.mp h
  cases hmodify
  cases hnew : lib.new mode key (ivAfter iv (n + 1)) with
  | none =>
    rw [hnew] at h
    cases h
  | some ctx =>
    rw [hnew] at h
    cases h
    exact ⟨⟨ctx, hnew, .inl rfl⟩, rfl, hs.2⟩

theorem Encrypt.Sealed.usesIv (h : Sealed lib iv key n s) (hiv : iv.length = 12) :
    UsesIv lib .encrypt key (ivAfter iv n) s := by
  induction h with
  | start h => exact usesIv_initializeCtx hiv h
  | packet h calls htag ih =>
    obtain ⟨tag, s₁, hget, htag⟩ := bind_eq_ok_iff.mp htag
    obtain ⟨_, s₂, hreset, htag⟩ := bind_eq_ok_iff.mp htag
    cases htag
    refine usesIv_reset hiv ?_ hreset
    rw [(keeps_withCtx _).of_ok hget, secrets_foldl secrets_after, secrets, ih.iv, ih.key]

theorem Decrypt.Opened.usesIv (h : Opened lib iv key n s) (hiv : iv.length = 12) :
    UsesIv lib .decrypt key (ivAfter iv n) s := by
  induction h with
  | start h => exact usesIv_initializeCtx hiv h
  | packet h calls hfinal ih =>
    obtain ⟨data, s₁, hfinalize, hfinal⟩ := bind_eq_ok_iff.mp hfinal
    obtain ⟨_, s₂, hreset, hfinal⟩ := bind_eq_ok_iff.mp hfinal
    cases hfinal
    refine usesIv_reset hiv ?_ hreset
    rw [(keeps_withCtx _).of_ok hfinalize, secrets_foldl secrets_after, secrets, ih.iv, ih.key]

/-- Both sides stay in lockstep: after any number of packets sealed, and as many opened, the context
for the next one is made with the initial IV whose counter has gone on by that number. -/
theorem ivs_in_lockstep {sealing opening : GaloisCounterMode σ} (hiv : iv.length = 12)
    (hsealed : Encrypt.Sealed lib iv key n sealing)
    (hopened : Decrypt.Opened lib iv key n opening) :
    UsesIv lib .encrypt key (ivAfter iv n) sealing ∧
      UsesIv lib .decrypt key (ivAfter iv n) opening :=
  ⟨hsealed.usesIv hiv, hopened.usesIv hiv⟩

end Lockstep

/-- A library whose contexts are the IVs they were made with. -/
def ivLibrary : Crypter Bytes where
  new _ _ iv := some iv
  pad _ ctx := ctx
  aadUpdate _ ctx := (some (), ctx)
  update data ctx := (some data, ctx)
  finalize ctx := (some [], ctx)
  getTag len _ := some (List.replicate len 0)
  setTag _ ctx := (some (), ctx)

/-- The counter of an IV wraps around after its last value. -/
theorem ivs_in_lockstep_wrapping :
    ∃ sealing opening : GaloisCounterMode Bytes,
      sealing.ctx = some [1, 2, 3, 4, 0, 0, 0, 0, 0, 0, 0, 0] ∧
      opening.ctx = some [1, 2, 3, 4, 0, 0, 0, 0, 0, 0, 0, 0] := by
  let iv : Bytes := [1, 2, 3, 4, 255, 255, 255, 255, 255, 255, 255, 255]
  have hsealed : Encrypt.Sealed ivLibrary iv [7] 1 _ :=
    .packet (.start (s := aes128GcmOpenssh) rfl) [.update [5], .finalize]
      (rfl : Encrypt.authenticationTag ivLibrary 16 _ = _)
  have hopened : Decrypt.Opened ivLibrary iv [7] 1 _ :=
    .packet (.start (s := aes128GcmOpenssh) rfl) [.update [5], .authenticationTag []] rfl
  obtain ⟨hsealing, hopening⟩ := ivs_in_lockstep rfl hsealed hopened
  obtain ⟨ctx, hnew, hctx⟩ := hsealing.ctx
  obtain ⟨ctx', hnew', hctx'⟩ := hopening.ctx
  have hiv : ivAfter iv 1 = [1, 2, 3, 4, 0, 0, 0, 0, 0, 0, 0, 0] := by decide +kernel
  rw [hiv] at hnew hnew'
  cases hnew
  cases hnew'
  exact ⟨_, _, or_self_iff.mp hctx, or_self_iff.mp hctx'⟩

end GaloisCounterMode

end Flatline
