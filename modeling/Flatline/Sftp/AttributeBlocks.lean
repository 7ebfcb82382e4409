import Flatline.Sftp.WellFormed

/-!
# Attribute blocks read back

What `Attributes::parse` makes of an attribute block with any flag word: a field is read when its
flag is set, extended attributes go into a map, and a key that is no text stops the parse. A block
that `to_bytes` has written is such a block, so it is read back, as long as what its length fields
announce fits into them.

Source: `src/session/sftp/types.rs` (`Attributes::to_bytes`, `Attributes::parse`,
`FileInfo::parse_more`).
-/

namespace Flatline.Sftp

open Triple (Holds)

/-! ## Readers that fail -/

variable {α β : Type}

/-- A reader fails on octets that start like this. -/
def Fails (m : Consumer α) (content : Bytes) : Prop :=
  ∀ rest, ∃ e s, m (content ++ rest) = .error e s

theorem fails_throw (e : Error) (content : Bytes) : Fails (throw e : Consumer α) content :=
  fun _ => ⟨e, _, rfl⟩

theorem Fails.bind {m : Consumer α} {content : Bytes} (hm : Fails m content)
    (f : α → Consumer β) (more : Bytes) : Fails (m >>= f) (content ++ more) := by
  intro rest
  obtain ⟨e, s, hrun⟩ := hm (more ++ rest)
  rw [List.append_assoc]
  exact ⟨e, s, Triple.bind_of_error hrun⟩

theorem reads_bind_fails {m : Consumer α} {f : α → Consumer β} {first second : Bytes}
    {a : α} (hm : Layout.Reads m first a) (hf : Fails (f a) second) :
    Fails (m >>= f) (first ++ second) := by
  intro rest
  obtain ⟨e, s, hrun⟩ := hf rest
  rw [List.append_assoc]
  exact ⟨e, s, (Triple.bind_of_ok (hm _)).trans hrun⟩

/-! ## Blocks with any flags -/

/-- An attribute block on the wire: the flag word, and a value for every field. A field is there
when its flag is set. -/
structure FlaggedBlock where
  flags : UInt32
  size : UInt64
  uid : UInt32
  gid : UInt32
  mode : UInt32
  atime : UInt32
  mtime : UInt32
  extended : List (Bytes × Bytes)
deriving DecidableEq, Repr

namespace FlaggedBlock

/-- The flag of a field is set. -/
def Has (b : FlaggedBlock) (flag : UInt32) : Prop :=
  b.flags &&& flag ≠ 0

instance (b : FlaggedBlock) (flag : UInt32) : Decidable (b.Has flag) :=
  inferInstanceAs (Decidable (_ ≠ _))

/-- The octets of a field. -/
def putWhen (b : FlaggedBlock) (flag : UInt32) (content : Bytes) : Bytes :=
  if b.Has flag then content else []

/-- The value of a field. -/
def field (b : FlaggedBlock) (flag : UInt32) (a : α) : Option α :=
  if b.Has flag then some a else none

/-- The octets of a block. -/
def put (b : FlaggedBlock) : Bytes :=
  toBeBytes b.flags ++ (b.putWhen sshFilexferAttrSize (toBeBytes64 b.size) ++
    (b.putWhen sshFilexferAttrUidgid (toBeBytes b.uid ++ toBeBytes b.gid) ++
      (b.putWhen sshFilexferAttrPermissions (toBeBytes b.mode) ++
        (b.putWhen sshFilexferAttrAcmodtime (toBeBytes b.atime ++ toBeBytes b.mtime) ++
          b.putWhen sshFilexferAttrExtended (Attributes.putExtend b.extended)))))

/-- Extended attributes whose number and lengths fit into their fields. -/
def EntriesFit (entries : List (Bytes × Bytes)) : Prop :=
  entries.length < UInt32.size ∧
    ∀ entry ∈ entries, entry.1.length < UInt32.size ∧ entry.2.length < UInt32.size

/-- Extended attributes whose names are texts. -/
def EntriesText (entries : List (Bytes × Bytes)) : Prop :=
  ∀ entry ∈ entries, utf8Valid entry.1 = true

/-- What a block announces fits into its length fields. -/
def Fits (b : FlaggedBlock) : Prop :=
  b.Has sshFilexferAttrExtended → EntriesFit b.extended

/-- The names of a block's extended attributes are texts. -/
def IsText (b : FlaggedBlock) : Prop :=
  b.Has sshFilexferAttrExtended → EntriesText b.extended

/-- The map of extended attributes, in the order of their insertion. -/
def collect (entries : List (Bytes × Bytes)) : List (Text × Bytes) :=
  entries.foldl (fun extend entry => insertKey extend entry.1 entry.2) []

/-- The attributes of a block. -/
def decoded (b : FlaggedBlock) : Attributes where
  size := b.field sshFilexferAttrSize b.size
  user := b.field sshFilexferAttrUidgid ⟨b.uid, b.gid⟩
  property := (b.field sshFilexferAttrPermissions b.mode).bind PermissionsAndFileType.ofBits
  time := b.field sshFilexferAttrAcmodtime ⟨b.atime, b.mtime⟩
  extend := b.field sshFilexferAttrExtended (collect b.extended)

variable {b : FlaggedBlock}

theorem reads_parseIf {flag : UInt32} {m : Consumer α} {content : Bytes} {a : α}
    (h : b.Has flag → Layout.Reads m content a) :
    Layout.Reads (Attributes.parseIf b.flags flag m) (b.putWhen flag content) (b.field flag a) := by
  change Layout.Reads (if b.Has flag then _ else _) _ _
  unfold putWhen field
  by_cases hflag : b.Has flag
  · rw [if_pos hflag, if_pos hflag, if_pos hflag]
    exact (h hflag).map some
  · rw [if_neg hflag, if_neg hflag, if_neg hflag]
    exact Layout.reads_pure none

theorem fails_parseIf {flag : UInt32} {m : Consumer α} {content : Bytes} (hflag : b.Has flag)
    (h : Fails m content) : Fails (Attributes.parseIf b.flags flag m) (b.putWhen flag content) := by
  change Fails (if b.Has flag then _ else _) _
  unfold putWhen
  rw [if_pos hflag, if_pos hflag]
  have hfails := h.bind (fun a => (pure (some a) : Consumer (Option α))) []
  rwa [List.append_nil] at hfails

/-- Two numbers of a field. -/
theorem reads_pair {γ : Type} (first second : UInt32) (f : UInt32 → UInt32 → γ) :
    Layout.Reads (do
      let a ← Consumer.consumeU32
      let b ← Consumer.consumeU32
      return f a b) (toBeBytes first ++ toBeBytes second) (f first second) :=
  (Layout.reads_u32 first).bind ((Layout.reads_u32 second).map _)

/-- The octets of one extended attribute. -/
def putEntry (entry : Bytes × Bytes) : Bytes :=
  (Field.one entry.1).put ++ (Field.one entry.2).put

theorem reads_parseExtend {entries : List (Bytes × Bytes)}
    (hfit : ∀ entry ∈ entries, entry.1.length < UInt32.size ∧ entry.2.length < UInt32.size)
    (htext : EntriesText entries) (extend : List (Text × Bytes)) :
    Layout.Reads (Attributes.parseExtend entries.length extend) (entries.flatMap putEntry)
      (entries.foldl (fun extend entry => insertKey extend entry.1 entry.2) extend) := by
  induction entries generalizing extend with
  | nil => exact Layout.reads_pure extend
  | cons entry rest ih =>
    obtain ⟨hkey, hvalue⟩ := hfit entry List.mem_cons_self
    have hrest := ih (fun e he => hfit e (List.mem_cons_of_mem _ he))
      (fun e he => htext e (List.mem_cons_of_mem _ he)) (insertKey extend entry.1 entry.2)
    have hvalid : utf8Valid entry.1 = true := htext entry List.mem_cons_self
    rw [List.flatMap_cons, putEntry, List.append_assoc]
    refine (Layout.reads_one hkey).bind ((Layout.reads_one hvalue).bind ?_)
    rw [if_pos hvalid]
    exact hrest

/-- A key that is no text stops the parse. -/
theorem fails_parseExtend {entries : List (Bytes × Bytes)}
    (hfit : ∀ entry ∈ entries, entry.1.length < UInt32.size ∧ entry.2.length < UInt32.size)
    (htext : ¬ EntriesText entries) (extend : List (Text × Bytes)) :
    Fails (Attributes.parseExtend entries.length extend) (entries.flatMap putEntry) := by
  induction entries generalizing extend with
  | nil => exact absurd (fun _ h => absurd h List.not_mem_nil) htext
  | cons entry rest ih =>
    obtain ⟨hkey, hvalue⟩ := hfit entry List.mem_cons_self
    rw [List.flatMap_cons, putEntry, List.append_assoc]
    refine reads_bind_fails (Layout.reads_one hkey) (reads_bind_fails (Layout.reads_one hvalue) ?_)
    by_cases hvalid : utf8Valid entry.1 = true
    · rw [if_pos hvalid]
      apply ih fun e he => hfit e (List.mem_cons_of_mem _ he)
      intro hrest
      apply htext
      intro e he
      rcases List.mem_cons.mp he with rfl | he
      · exact hvalid
      · exact hrest e he
    · rw [if_neg hvalid]
      exact fails_throw _ _

theorem toNat_length {entries : List (Bytes × Bytes)} (hfit : EntriesFit entries) :
    (UInt32.ofNat entries.length).toNat = entries.length :=
  UInt32.toNat_ofNat_of_lt hfit.1

/-- A block whose names are texts is read. -/
theorem reads_put (hfit : b.Fits) (htext : b.IsText) :
    Layout.Reads Attributes.parse b.put b.decoded := by
  unfold Attributes.parse put
  refine (Layout.reads_u32 _).bind ((reads_parseIf fun _ => Layout.reads_u64 _).bind
    ((reads_parseIf fun _ => reads_pair b.uid b.gid User.mk).bind
      ((reads_parseIf fun _ => Layout.reads_u32 _).bind
        ((reads_parseIf fun _ => reads_pair b.atime b.mtime Timestamp.mk).bind ?_))))
  refine Layout.Reads.map (reads_parseIf fun hflag => ?_) _
  refine (Layout.reads_u32 _).bind ?_
  rw [toNat_length (hfit hflag)]
  exact reads_parseExtend (hfit hflag).2 (htext hflag) []

/-- A block with a name that is no text is refused. -/
theorem fails_put (hfit : b.Fits) (htext : ¬ b.IsText) : Fails Attributes.parse b.put := by
  obtain ⟨hflag, hentries⟩ := Classical.not_imp.mp htext
  unfold Attributes.parse put
  refine reads_bind_fails (Layout.reads_u32 _)
    (reads_bind_fails (reads_parseIf fun _ => Layout.reads_u64 _)
    (reads_bind_fails (reads_parseIf fun _ => reads_pair b.uid b.gid User.mk)
      (reads_bind_fails (reads_parseIf fun _ => Layout.reads_u32 _)
        (reads_bind_fails (reads_parseIf fun _ => reads_pair b.atime b.mtime Timestamp.mk) ?_))))
  have hextended : Fails (do
      let count ← Consumer.consumeU32
      Attributes.parseExtend count.toNat []) (Attributes.putExtend b.extended) := by
    refine reads_bind_fails (Layout.reads_u32 _) ?_
    rw [toNat_length (hfit hflag)]
    exact fails_parseExtend (hfit hflag).2 hentries []
  have hfails := (fails_parseIf hflag hextended).bind
    (fun extend => (pure { b.decoded with extend } : Consumer Attributes)) []
  rw [List.append_nil] at hfails
  exact hfails

end FlaggedBlock

/-! ## Maps -/

/-- The entries are those of a map: no key comes twice. -/
def IsMap (extend : List (Text × Bytes)) : Prop :=
  (extend.map Prod.fst).Nodup

/-- Inserting the entries of a map one after the other gives the map. -/
theorem FlaggedBlock.collect_perm {extend : List (Text × Bytes)} (hmap : IsMap extend) :
    (collect extend).Perm extend := by
  have hcollect : collect extend = extend.reverse := Entries.insertAll_eq_reverse_iff.mpr hmap
  rw [hcollect]
  exact List.reverse_perm extend

/-! ## Blocks that the client writes -/

namespace Attributes

/-- The attributes as a block on the wire. -/
def flagged (a : Attributes) : FlaggedBlock where
  flags := Layout.flagsOf a.size.isSome a.user.isSome a.property.isSome a.time.isSome a.extend.isSome
  size := a.size.getD 0
  uid := (a.user.map User.uid).getD 0
  gid := (a.user.map User.gid).getD 0
  mode := (a.property.map PermissionsAndFileType.bits).getD 0
  atime := (a.time.map Timestamp.atime).getD 0
  mtime := (a.time.map Timestamp.mtime).getD 0
  extended := a.extend.getD []

theorem has_flagged (a : Attributes) :
    (a.flagged.Has sshFilexferAttrSize ↔ a.size.isSome = true) ∧
      (a.flagged.Has sshFilexferAttrUidgid ↔ a.user.isSome = true) ∧
      (a.flagged.Has sshFilexferAttrPermissions ↔ a.property.isSome = true) ∧
      (a.flagged.Has sshFilexferAttrAcmodtime ↔ a.time.isSome = true) ∧
      (a.flagged.Has sshFilexferAttrExtended ↔ a.extend.isSome = true) :=
  Layout.flagsOf_and _ _ _ _ _

/-- `to_bytes` writes the flagged block. -/
theorem put_flagged (a : Attributes) : a.flagged.put = a.toBytes := by
  obtain ⟨hsize, huser, hproperty, htime, hextend⟩ := a.has_flagged
  rw [toBytes_eq]
  unfold FlaggedBlock.put Layout.putAttrs FlaggedBlock.putWhen
  simp only [hsize, huser, hproperty, htime, hextend]
  obtain ⟨size, user, property, time, extend⟩ := a
  cases size <;> cases user <;> cases property <;> cases time <;> cases extend <;> rfl

/-- A value of the type `Attributes` whose permissions are defined flags: a `HashMap` has no key
twice, and a `String` is UTF-8. -/
structure IsValue (a : Attributes) : Prop where
  permissions : ∀ property, a.property = some property →
    property.permissions &&& 0o777 = property.permissions
  isMap : ∀ extend, a.extend = some extend → IsMap extend
  isText : ∀ extend, a.extend = some extend → FlaggedBlock.EntriesText extend

/-- Two values that differ in the order of their map at most. -/
structure Same (a b : Attributes) : Prop where
  size : a.size = b.size
  user : a.user = b.user
  property : a.property = b.property
  time : a.time = b.time
  isSome : a.extend.isSome = b.extend.isSome
  perm : (a.extend.getD []).Perm (b.extend.getD [])

/-- The number of extended attributes and their lengths fit into the fields written for them. -/
def Fits (a : Attributes) : Prop :=
  ∀ extend, a.extend = some extend → FlaggedBlock.EntriesFit extend

theorem fits_flagged {a : Attributes} (h : a.Fits) : a.flagged.Fits := by
  intro hflag
  obtain ⟨extend, hextend⟩ := Option.isSome_iff_exists.mp (a.has_flagged.2.2.2.2.mp hflag)
  change FlaggedBlock.EntriesFit (a.extend.getD [])
  rw [hextend]
  exact h extend hextend

theorem isText_flagged {a : Attributes} (h : a.IsValue) : a.flagged.IsText := by
  intro hflag
  obtain ⟨extend, hextend⟩ := Option.isSome_iff_exists.mp (a.has_flagged.2.2.2.2.mp hflag)
  change FlaggedBlock.EntriesText (a.extend.getD [])
  rw [hextend]
  exact h.isText extend hextend

end Attributes

/-- The defined permissions and a file type make a mode word that is split into them again. -/
theorem PermissionsAndFileType.ofBits_bits {property : PermissionsAndFileType}
    (h : property.permissions &&& 0o777 = property.permissions) :
    ofBits property.bits = some property := by
  have hdistrib : ∀ a b c : UInt32, (a ||| b) &&& c = a &&& c ||| b &&& c := fun a b c =>
    UInt32.toBitVec_inj.mp BitVec.and_or_distrib_right
  obtain ⟨permissions, fileType⟩ := property
  have hpermissions : permissions &&& 0o777 = permissions := h
  have htype : fileType.bits &&& FileType.mask = fileType.bits ∧
      fileType.bits &&& ~~~FileType.mask = 0 ∧ FileType.ofBits fileType.bits = some fileType := by
    cases fileType <;> decide
  have hmask : (0o777 : UInt32) &&& FileType.mask = 0 ∧
      (0o777 : UInt32) &&& ~~~FileType.mask = 0o777 := by
    decide
  have hlow : permissions &&& FileType.mask = 0 ∧
      permissions &&& ~~~FileType.mask = permissions := by
    rw [← hpermissions, UInt32.and_assoc, UInt32.and_assoc, hmask.1, hmask.2, UInt32.and_zero]
    exact ⟨rfl, rfl⟩
  have hmode : (permissions ||| fileType.bits) &&& FileType.mask = fileType.bits := by
    rw [hdistrib, hlow.1, htype.1, UInt32.zero_or]
  have hrest : (permissions ||| fileType.bits) &&& ~~~FileType.mask = permissions := by
    rw [hdistrib, hlow.2, htype.2.1, UInt32.or_zero]
  unfold ofBits bits
  dsimp only
  rw [hmode, hrest, htype.2.2, hpermissions]
  rfl

namespace Attributes

/-- What the block of a value stands for is the value. -/
theorem same_decoded {a : Attributes} (h : a.IsValue) : a.flagged.decoded.Same a := by
  obtain ⟨hsize, huser, hproperty, htime, hextend⟩ := a.has_flagged
  refine ⟨?_, ?_, ?_, ?_, ?_, ?_⟩
  all_goals simp only [FlaggedBlock.decoded, FlaggedBlock.field]
  · simp only [hsize]
    cases hvalue : a.size <;> simp [flagged, hvalue]
  · simp only [huser]
    cases hvalue : a.user <;> simp [flagged, hvalue]
  · simp only [hproperty]
    cases hvalue : a.property with
    | none => rfl
    | some property =>
      have hmode : a.flagged.mode = property.bits := by simp [flagged, hvalue]
      simp [hmode, PermissionsAndFileType.ofBits_bits (h.permissions property hvalue)]
  · simp only [htime]
    cases hvalue : a.time <;> simp [flagged, hvalue]
  · simp only [hextend]
    cases hvalue : a.extend <;> simp
  · simp only [hextend]
    cases hvalue : a.extend with
    | none => exact List.Perm.refl _
    | some extend =>
      have hentries : a.flagged.extended = extend := by simp [flagged, hvalue]
      rw [hentries]
      exact FlaggedBlock.collect_perm (h.isMap extend hvalue)

/-! ## Round trips -/

/-- `parse` returns a value from the octets of `to_bytes`, whatever follows them, and takes exactly
those octets. -/
def RoundTrips (a : Attributes) : Prop :=
  ∀ rest, ∃ a', parse (a.toBytes ++ rest) = .ok a' rest ∧ a'.Same a

theorem roundTrips_of_fits {a : Attributes} (h : a.IsValue) (hfits : a.Fits) : a.RoundTrips := by
  intro rest
  have hreads := FlaggedBlock.reads_put (fits_flagged hfits) (isText_flagged h) rest
  rw [put_flagged] at hreads
  exact ⟨_, hreads, same_decoded h⟩

/-- The map of a value that fits has the entries of the other. -/
theorem Same.fits {a a' : Attributes} (h : a'.Same a) (hfits : a'.Fits) : a.Fits := by
  intro extend hextend
  have hsome := h.isSome
  rw [hextend] at hsome
  obtain ⟨extend', hextend'⟩ := Option.isSome_iff_exists.mp hsome
  have hperm := h.perm
  rw [hextend, hextend'] at hperm
  obtain ⟨hlength, hentries⟩ := hfits extend' hextend'
  exact ⟨hperm.length_eq ▸ hlength, fun entry hentry => hentries entry (hperm.mem_iff.mpr hentry)⟩

end Attributes

end Flatline.Sftp
