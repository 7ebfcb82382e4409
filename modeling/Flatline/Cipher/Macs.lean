import Flatline.Cipher.Contexts
import Flatline.Transport.RoundTrip

/-!
# Message authentication codes

The keyed digests of the registry. An instance gets its key once; after each tag it makes a new
context with that key, so that the next packet starts afresh.

Source: `src/cipher/mac.rs` (`HMac`).
-/

namespace Flatline

open Triple

/-! ## `HMac` -/

/-- `HMac`. -/
structure HMac (o : SignCalls) where
  name : Text
  macLen : ℕ
  keyLen : ℕ
  ctx : Option o.MdCtx
  key : Option o.PKey
  encryptThenMac : Bool
  digest : MdRef
  macLen_le : macLen ≤ digest.size

namespace HMac

variable {o : SignCalls}

/-- A method. What it has changed before it fails stays changed. -/
abbrev Method (o : SignCalls) := EStateM Error (HMac o)

/-- `HMac::new`. -/
def new (name : Text) (macLen keyLen : ℕ) (encryptThenMac : Bool) (digest : MdRef)
    (macLen_le : macLen ≤ digest.size) : HMac o where
  name
  macLen
  keyLen
  ctx := none
  key := none
  encryptThenMac
  digest
  macLen_le

/-- The entries of `algo_list!`, without the feature `umac`. -/
def all : List (HMac o) :=
  [ new (ascii "hmac-sha2-512-etm@openssh.com") 64 64 true .sha512 (by decide),
    new (ascii "hmac-sha2-256-etm@openssh.com") 32 32 true .sha256 (by decide),
    new (ascii "hmac-sha1-etm@openssh.com") 20 20 true .sha1 (by decide),
    new (ascii "hmac-sha1") 20 20 false .sha1 (by decide),
    new (ascii "hmac-sha1-96") 12 20 false .sha1 (by decide),
    new (ascii "hmac-sha1-96-etm@openssh.com") 12 20 true .sha1 (by decide),
    new (ascii "hmac-md5") 16 16 false .md5 (by decide),
    new (ascii "hmac-md5-etm@openssh.com") 16 16 true .md5 (by decide),
    new (ascii "hmac-md5-96") 12 16 false .md5 (by decide),
    new (ascii "hmac-md5-96-etm@openssh.com") 12 16 true .md5 (by decide),
    new (ascii "hmac-sha2-512") 64 64 false .sha512 (by decide),
    new (ascii "hmac-sha2-256") 32 32 false .sha256 (by decide) ]

/-- A function of the context, behind `get_ctx_mut`. -/
def withCtx {α : Type} (f : o.MdCtx → Option α × o.MdCtx) : Method o α := do
  match (← get).ctx with
  | none => throw (.invalidOperation (ascii "Uninitialized"))
  | some ctx =>
    modify fun m => { m with ctx := some (f ctx).2 }
    opensslContext (f ctx).1

/-- `digest_sign_init` with the digest. -/
def signInit (pkey : o.PKey) (ctx : o.MdCtx) : Method o o.MdCtx := do
  let (result, ctx) := o.signInit (some (← get).digest) pkey ctx
  opensslContext result
  return ctx

/-- `initialize`. -/
def initializeKey (key : Bytes) : Method o Unit := do
  let pkey ← opensslContext (o.hmacKey key)
  let ctx ← opensslContext o.newCtx
  let ctx ← signInit pkey ctx
  modify fun m => { m with ctx := some ctx, key := some pkey }

/-- `update`. -/
def update (data : Bytes) : Method o Unit :=
  withCtx (o.signUpdate data)

/-- The context that `finalize` makes for the next packet. -/
def nextCtx : Method o o.MdCtx := do
  let ctx ← opensslContext o.newCtx
  match (← get).key with
  | some pkey => signInit pkey ctx
  | none => return ctx

/-- `finalize`. -/
def finalize : Method o Bytes := do
  let size ← withCtx o.signLength
  let tag ← withCtx (o.signFinal size)
  let ctx ← nextCtx
  modify fun m => { m with ctx := some ctx }
  return (writtenTo size tag).take (← get).macLen

instance : PacketMac (HMac o) where
  encryptThenMac m := m.encryptThenMac
  macLen m := m.macLen
  update data m := outcome (update data) m
  finalize m := outcome finalize m

/-! ## Runs -/

/-- The context and the key that `initialize` makes. -/
structure Makes (md : MdRef) (key : Bytes) (pkey : o.PKey) (ctx : o.MdCtx) : Prop where
  hmacKey : o.hmacKey key = some pkey
  signInit : ∃ empty, o.newCtx = some empty ∧ o.signInit (some md) pkey empty = (some (), ctx)

theorem Makes.signing {md : MdRef} {key : Bytes} {pkey : o.PKey} {ctx : o.MdCtx}
    (h : Makes md key pkey ctx) : o.Signing (.hmac md) key [] ctx := by
  obtain ⟨hkey, empty, hempty, hinit⟩ := h
  obtain ⟨ctx', hinit', hsigning⟩ := o.signInit_hmac md hkey hempty
  cases hinit.symm.trans hinit'
  exact hsigning

/-- An instance with a context and a key. -/
def keyed (m : HMac o) (pkey : o.PKey) (ctx : o.MdCtx) : HMac o :=
  { m with ctx := some ctx, key := some pkey }

/-- The tag over some octets. -/
def tagOf (m : HMac o) (key data : Bytes) : Bytes :=
  (o.tag (.hmac m.digest) key data).take m.macLen

theorem length_tagOf (m : HMac o) (key data : Bytes) : (m.tagOf key data).length = m.macLen := by
  rw [tagOf, List.length_take, o.length_tag]
  exact Nat.min_eq_left m.macLen_le

theorem withCtx_run {α : Type} {f : o.MdCtx → Option α × o.MdCtx} {m : HMac o} {ctx ctx' : o.MdCtx}
    {a : α} (hctx : m.ctx = some ctx) (hf : f ctx = (some a, ctx')) :
    withCtx f m = .ok a { m with ctx := some ctx' } := by
  unfold withCtx
  rw [get_bind, hctx]
  dsimp only
  rw [hf]
  rfl

theorem signInit_run {m : HMac o} {pkey : o.PKey} {ctx ctx' : o.MdCtx}
    (h : o.signInit (some m.digest) pkey ctx = (some (), ctx')) :
    signInit pkey ctx m = .ok ctx' m := by
  unfold signInit
  rw [get_bind, h]
  rfl

/-- An instance that gets a key is initialized with it. -/
theorem initializeKey_succeeds (m : HMac o) {key : Bytes} (hkey : key.length < 2 ^ 31) :
    ∃ pkey ctx, initializeKey key m = .ok () (m.keyed pkey ctx) ∧ Makes m.digest key pkey ctx := by
  obtain ⟨pkey, hpkey⟩ := o.hmacKey_succeeds hkey
  obtain ⟨empty, hempty⟩ := o.newCtx_succeeds
  obtain ⟨ctx, hinit, -⟩ := o.signInit_hmac m.digest hpkey hempty
  refine ⟨pkey, ctx, ?_, hpkey, empty, hempty, hinit⟩
  unfold initializeKey
  rw [hpkey, hempty]
  exact bind_of_ok (signInit_run hinit)

theorem of_initializeKey {m m₀ : HMac o} {key : Bytes} (h : initializeKey key m = .ok () m₀) :
    ∃ pkey ctx, m₀ = m.keyed pkey ctx ∧ Makes m.digest key pkey ctx := by
  unfold initializeKey at h
  cases hpkey : o.hmacKey key with
  | none =>
    rw [hpkey] at h
    cases h
  | some pkey =>
    obtain ⟨empty, hempty⟩ := o.newCtx_succeeds
    obtain ⟨ctx, hinit, -⟩ := o.signInit_hmac m.digest hpkey hempty
    rw [hpkey, hempty] at h
    have hrun := (bind_of_ok (signInit_run hinit)).symm.trans h
    cases hrun
    exact ⟨pkey, ctx, rfl, hpkey, empty, hempty, hinit⟩

theorem update_run {m : HMac o} (pkey : o.PKey) {ctx : o.MdCtx} {key fed : Bytes} (data : Bytes)
    (h : o.Signing (.hmac m.digest) key fed ctx) :
    ∃ ctx', PacketMac.update data (m.keyed pkey ctx) = (.ok (), m.keyed pkey ctx') ∧
      o.Signing (.hmac m.digest) key (fed ++ data) ctx' := by
  obtain ⟨ctx', hupdate, hsigning⟩ := o.signUpdate_signing data h
  refine ⟨ctx', ?_, hsigning⟩
  have hrun : update data (m.keyed pkey ctx) = .ok () (m.keyed pkey ctx') :=
    withCtx_run rfl hupdate
  exact outcome_of_ok hrun

/-- The tag is the one of what the context has been fed with, and the context after it is the one that
`initialize` makes. -/
theorem finalize_run {m : HMac o} {pkey : o.PKey} {ctx first : o.MdCtx} {key fed : Bytes}
    (hfirst : Makes m.digest key pkey first) (h : o.Signing (.hmac m.digest) key fed ctx) :
    PacketMac.finalize (m.keyed pkey ctx) = (.ok (m.tagOf key fed), m.keyed pkey first) := by
  obtain ⟨ctx₁, hlength, hsigning⟩ := o.signLength_signing h
  obtain ⟨ctx₂, hfinal⟩ := o.signFinal_signing hsigning (Nat.le_refl _)
  obtain ⟨-, empty, hempty, hinit⟩ := hfirst
  have hlength : withCtx o.signLength (m.keyed pkey ctx) =
      .ok (TagAlgorithm.hmac m.digest).size (m.keyed pkey ctx₁) := withCtx_run rfl hlength
  have hfinal : withCtx (o.signFinal (TagAlgorithm.hmac m.digest).size) (m.keyed pkey ctx₁) =
      .ok (o.tag (.hmac m.digest) key fed) (m.keyed pkey ctx₂) := withCtx_run rfl hfinal
  have hnext : nextCtx (m.keyed pkey ctx₂) = .ok first (m.keyed pkey ctx₂) := by
    unfold nextCtx
    rw [hempty]
    exact signInit_run hinit
  have hrun : finalize (m.keyed pkey ctx) = .ok (m.tagOf key fed) (m.keyed pkey first) := by
    unfold finalize
    rw [bind_of_ok hlength, bind_of_ok hfinal, bind_of_ok hnext,
      writtenTo_of_length (o.length_tag _ _ _)]
    rfl
  exact outcome_of_ok hrun

theorem feed_run {m : HMac o} (pkey : o.PKey) {ctx : o.MdCtx} {key fed : Bytes} (parts : List Bytes)
    (h : o.Signing (.hmac m.digest) key fed ctx) :
    ∃ ctx', PacketMac.feed parts (m.keyed pkey ctx) = (.ok (), m.keyed pkey ctx') ∧
      o.Signing (.hmac m.digest) key (fed ++ parts.flatten) ctx' := by
  induction parts generalizing fed ctx with
  | nil =>
    rw [List.flatten_nil, List.append_nil]
    exact ⟨ctx, rfl, h⟩
  | cons part rest ih =>
    obtain ⟨ctx₁, hupdate, hsigning⟩ := update_run pkey part h
    obtain ⟨ctx₂, hrest, hsigning'⟩ := ih hsigning
    refine ⟨ctx₂, ?_, ?_⟩
    · unfold PacketMac.feed
      rw [hupdate]
      exact hrest
    · rw [List.flatten_cons, ← List.append_assoc]
      exact hsigning'

/-! ## Tags -/

/-- An instance that holds what `initialize` has made gives the tag of a packet, and holds the same
again. -/
theorem tagOver_run {m : HMac o} {pkey : o.PKey} {first : o.MdCtx} {key : Bytes}
    (hfirst : Makes m.digest key pkey first) (n : UInt32) (parts : List Bytes) :
    PacketMac.tagOver n parts (m.keyed pkey first) =
      (.ok (m.tagOf key (toBeBytes n ++ parts.flatten)), m.keyed pkey first) := by
  obtain ⟨ctx, hfeed, hsigning⟩ :=
    feed_run pkey (toBeBytes n :: parts) hfirst.signing
  rw [List.flatten_cons, List.nil_append] at hsigning
  unfold PacketMac.tagOver
  rw [hfeed]
  exact finalize_run hfirst hsigning

/-- One tag after the other. -/
def tags : List (UInt32 × List Bytes) → HMac o → Except Error (List Bytes) × HMac o
  | [], m => (.ok [], m)
  | (n, parts) :: rest, m =>
    match PacketMac.tagOver n parts m with
    | (.error e, m) => (.error e, m)
    | (.ok tag, m) =>
      let (result, m) := tags rest m
      (result.map (tag :: ·), m)

/-- Once the instance is initialized, each tag covers its sequence number and its packet, whatever the
parts are and whatever has been tagged before, and has the length that is announced. -/
theorem tags_calculated (m : HMac o) (key : Bytes) :
    (key.length < 2 ^ 31 → ∃ m₀, initializeKey key m = .ok () m₀) ∧
    ∀ m₀, initializeKey key m = .ok () m₀ → ∀ packets : List (UInt32 × List Bytes),
      ∃ result, tags packets m₀ = (.ok result, m₀) ∧
        result = packets.map (fun packet => m.tagOf key (toBeBytes packet.1 ++ packet.2.flatten)) ∧
        ∀ tag ∈ result, tag.length = m.macLen := by
  refine ⟨fun hkey => ?_, fun m₀ hinit packets => ?_⟩
  · obtain ⟨pkey, first, hinit, -⟩ := m.initializeKey_succeeds hkey
    exact ⟨_, hinit⟩
  · obtain ⟨pkey, first, rfl, hfirst⟩ := of_initializeKey hinit
    refine ⟨_, ?_, rfl, ?_⟩
    · induction packets with
      | nil => rfl
      | cons packet rest ih =>
        unfold tags
        rw [tagOver_run hfirst]
        dsimp only
        rw [ih]
        rfl
    · intro tag htag
      obtain ⟨packet, -, rfl⟩ := List.mem_map.mp htag
      exact m.length_tagOf key _

/-! ## Contexts that record -/

end HMac

/-- The tag of a table; behind its end there are zeros. -/
def TagAlgorithm.tagOf (table : List ((TagAlgorithm × Bytes × Bytes) × Bytes)) (a : TagAlgorithm)
    (key data : Bytes) : Bytes :=
  match table.lookup (a, key, data) with
  | some tag => (writtenTo a.size tag).take a.size
  | none => List.replicate a.size 0

theorem TagAlgorithm.length_tagOf (table : List ((TagAlgorithm × Bytes × Bytes) × Bytes))
    (a : TagAlgorithm) (key data : Bytes) : (a.tagOf table key data).length = a.size := by
  unfold tagOf
  split
  · rw [List.length_take, writtenTo, List.length_append, List.length_replicate]
    omega
  · exact List.length_replicate

/-- Contexts that remember what they have been fed with, and look the tag up. -/
def SignCalls.recorded (table : List ((TagAlgorithm × Bytes × Bytes) × Bytes)) : SignCalls where
  PKey := Bytes
  MdCtx := Option (TagAlgorithm × Bytes × Bytes)
  hmacKey key := if key.length < 2 ^ 31 then some key else none
  poly1305Key key := if key.length = 32 then some key else none
  newCtx := some none
  signInit
    | some md, key, _ => (some (), some (.hmac md, key, []))
    | none, key, _ => (some (), some (.poly1305, key, []))
  signUpdate data
    | some (a, key, fed) => (some (), some (a, key, fed ++ data))
    | none => (none, none)
  signLength
    | some (a, key, fed) => (some a.size, some (a, key, fed))
    | none => (none, none)
  signFinal room
    | some (a, key, fed) =>
      (if a.size ≤ room then some (a.tagOf table key fed) else none, some (a, key, fed))
    | none => (none, none)
  tag a := a.tagOf table
  Signing a key fed ctx := ctx = some (a, key, fed)
  length_tag := TagAlgorithm.length_tagOf table
  newCtx_succeeds := ⟨_, rfl⟩
  hmacKey_succeeds h := ⟨_, if_pos h⟩
  poly1305Key_succeeds h := ⟨_, if_pos h⟩
  signInit_hmac {key pkey ctx} md hkey _ := by
    split at hkey
    · cases hkey
      exact ⟨_, rfl, rfl⟩
    · cases hkey
  signInit_poly1305 {key pkey ctx} hkey _ := by
    split at hkey
    · cases hkey
      exact ⟨_, rfl, rfl⟩
    · cases hkey
  signUpdate_signing {a key fed ctx} data h := by
    cases h
    exact ⟨_, rfl, rfl⟩
  signLength_signing {a key fed ctx} h := by
    cases h
    exact ⟨_, rfl, rfl⟩
  signFinal_signing {a key fed ctx room} h hroom := by
    cases h
    exact ⟨_, congrArg (·, some (a, key, fed)) (if_pos hroom)⟩

namespace HMac

/-- HMAC-SHA-256 of two packets under one key. -/
def recordedTags : List ((TagAlgorithm × Bytes × Bytes) × Bytes) :=
  [ ((.hmac .sha256, List.replicate 32 0x42,
      [0, 0, 0, 3, 0, 0, 0, 12, 10, 50, 0, 0, 0, 0, 1, 2, 3, 4, 5, 6]),
      BigEndian.fixed 32 0x5f020d8d2d6280b268d1c17e7b9ec5300241d478c62adaa8a9b77f9a42e59dbc),
    ((.hmac .sha256, List.replicate 32 0x42,
      [0, 0, 0, 4, 0, 0, 0, 12, 10, 2, 0, 0, 0, 11, 9, 8, 7, 6, 5, 4]),
      BigEndian.fixed 32 0xb2865a67c630cd33ed0b7d655405749b5fc34a652e7dcd091a510f051cfa7209) ]

/-- Two packets, each in two parts. -/
theorem tags_calculated_twice :
    let m : HMac (.recorded recordedTags) :=
      new (ascii "hmac-sha2-256") 32 32 false .sha256 (by decide)
    ∃ m₀, initializeKey (List.replicate 32 0x42) m = .ok () m₀ ∧
      tags [(3, [[0, 0, 0, 12], [10, 50, 0, 0, 0, 0, 1, 2, 3, 4, 5, 6]]),
        (4, [[0, 0, 0, 12, 10, 2], [0, 0, 0, 11, 9, 8, 7, 6, 5, 4]])] m₀ =
        (.ok (recordedTags.map (·.2)), m₀) := by
  intro m
  obtain ⟨hsucceeds, htags⟩ := m.tags_calculated (List.replicate 32 0x42)
  obtain ⟨m₀, hinit⟩ := hsucceeds (by decide)
  obtain ⟨result, hrun, hresult, -⟩ := htags m₀ hinit
    [(3, [[0, 0, 0, 12], [10, 50, 0, 0, 0, 0, 1, 2, 3, 4, 5, 6]]),
      (4, [[0, 0, 0, 12, 10, 2], [0, 0, 0, 11, 9, 8, 7, 6, 5, 4]])]
  have hrecorded : result = recordedTags.map (·.2) := hresult.trans (by decide +kernel)
  rw [hrecorded] at hrun
  exact ⟨m₀, hinit, hrun⟩

end HMac

/-! ## Instances in use -/

/-- The instance has its key, and a context that signs with it. -/
def HMac.HasKey {o : SignCalls} (m : HMac o) : Prop :=
  ∃ key fed pkey ctx first, m = m.keyed pkey ctx ∧ HMac.Makes m.digest key pkey first ∧
    o.Signing (.hmac m.digest) key fed ctx

/-- An `HMac` after `initialize`. -/
structure KeyedHMac (o : SignCalls) where
  mac : HMac o
  hasKey : mac.HasKey

namespace HMac

variable {o : SignCalls}

theorem HasKey.update {m : HMac o} (h : m.HasKey) (data : Bytes) :
    ∃ m', PacketMac.update data m = (.ok (), m') ∧ m'.HasKey ∧
      PacketMac.flags m' = PacketMac.flags m := by
  obtain ⟨key, fed, pkey, ctx, first, hm, hfirst, hsigning⟩ := h
  obtain ⟨ctx', hupdate, hsigning'⟩ := update_run pkey data hsigning
  rw [← hm] at hupdate
  exact ⟨_, hupdate, ⟨key, _, pkey, ctx', first, rfl, hfirst, hsigning'⟩, rfl⟩

theorem HasKey.finalize {m : HMac o} (h : m.HasKey) :
    ∃ tag m', PacketMac.finalize m = (.ok tag, m') ∧ m'.HasKey ∧
      PacketMac.flags m' = PacketMac.flags m ∧ tag.length = m.macLen := by
  obtain ⟨key, fed, pkey, ctx, first, hm, hfirst, hsigning⟩ := h
  have hfinalize := finalize_run hfirst hsigning
  rw [← hm] at hfinalize
  exact ⟨_, _, hfinalize, ⟨key, [], pkey, first, first, rfl, hfirst, hfirst.signing⟩, rfl,
    m.length_tagOf key fed⟩

theorem hasKey_of_initializeKey {m m₀ : HMac o} {key : Bytes}
    (h : initializeKey key m = .ok () m₀) : m₀.HasKey := by
  obtain ⟨pkey, ctx, rfl, hmakes⟩ := of_initializeKey h
  exact ⟨key, [], pkey, ctx, ctx, rfl, hmakes, hmakes.signing⟩

theorem HasKey.after_update {m : HMac o} (h : m.HasKey) (data : Bytes) :
    (PacketMac.update data m).2.HasKey := by
  obtain ⟨m', hupdate, hkey, -⟩ := h.update data
  rw [hupdate]
  exact hkey

theorem HasKey.after_finalize {m : HMac o} (h : m.HasKey) : (PacketMac.finalize m).2.HasKey := by
  obtain ⟨tag, m', hfinalize, hkey, -⟩ := h.finalize
  rw [hfinalize]
  exact hkey

end HMac

namespace KeyedHMac

variable {o : SignCalls}

instance : PacketMac (KeyedHMac o) where
  encryptThenMac m := m.mac.encryptThenMac
  macLen m := m.mac.macLen
  update data m :=
    ((PacketMac.update data m.mac).1, ⟨(PacketMac.update data m.mac).2, m.hasKey.after_update data⟩)
  finalize m :=
    ((PacketMac.finalize m.mac).1, ⟨(PacketMac.finalize m.mac).2, m.hasKey.after_finalize⟩)

instance : LawfulMac (KeyedHMac o) where
  flags_update data m := by
    obtain ⟨m', hupdate, -, hflags⟩ := m.hasKey.update data
    change PacketMac.flags (PacketMac.update data m.mac).2 = PacketMac.flags m.mac
    rw [hupdate]
    exact hflags
  flags_finalize m := by
    obtain ⟨tag, m', hfinalize, -, hflags, -⟩ := m.hasKey.finalize
    change PacketMac.flags (PacketMac.finalize m.mac).2 = PacketMac.flags m.mac
    rw [hfinalize]
    exact hflags

instance : TagLength (KeyedHMac o) where
  macLen_le m := by
    have hle := m.mac.macLen_le
    have hsize : m.mac.digest.size ≤ 64 := by cases m.mac.digest <;> decide
    change m.mac.macLen ≤ 1024
    omega
  length_finalize {m m'} {tag} h := by
    obtain ⟨tag', mac, hfinalize, -, -, hlength⟩ := m.hasKey.finalize
    have htag : (PacketMac.finalize m.mac).1 = .ok tag := congrArg Prod.fst h
    rw [hfinalize] at htag
    cases htag
    exact hlength

theorem feed_succeeds (parts : List Bytes) (m : KeyedHMac o) :
    ∃ m', PacketMac.feed parts m = (.ok (), m') := by
  induction parts generalizing m with
  | nil => exact ⟨m, rfl⟩
  | cons part rest ih =>
    obtain ⟨mac, hupdate, hkey, -⟩ := m.hasKey.update part
    obtain ⟨m', hrest⟩ := ih (PacketMac.update part m).2
    have hok : (PacketMac.update part m).1 = .ok () := congrArg Prod.fst hupdate
    refine ⟨m', ?_⟩
    unfold PacketMac.feed
    rw [show PacketMac.update part m = (.ok (), (PacketMac.update part m).2) from
      Prod.ext hok rfl]
    exact hrest

/-- A MAC with its key gives a tag. -/
theorem tagOver_succeeds (n : UInt32) (parts : List Bytes) (m : KeyedHMac o) :
    ∃ tag m', PacketMac.tagOver n parts m = (.ok tag, m') := by
  obtain ⟨m₁, hfeed⟩ := feed_succeeds (toBeBytes n :: parts) m
  obtain ⟨tag, mac, hfinalize, -⟩ := m₁.hasKey.finalize
  have hok : (PacketMac.finalize m₁).1 = .ok tag := congrArg Prod.fst hfinalize
  refine ⟨tag, (PacketMac.finalize m₁).2, ?_⟩
  unfold PacketMac.tagOver
  rw [hfeed]
  exact Prod.ext hok rfl

end KeyedHMac

end Flatline
