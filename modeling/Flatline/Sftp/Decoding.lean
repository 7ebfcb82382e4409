import Flatline.Sftp.RoundTrips
import Flatline.Sftp.Statuses
import Mathlib

/-!
# What a reply tells and what is read from it

The replies of a version 3 server, with the raw octets and mode words that they carry, and when
`Message::parse` shows all of it: every text is UTF-8, the status code is known, each mode word has
one of the seven file types, and the extended attributes of a block are a map. A mode word without a
known file type loses its permissions too, because the failed conversion is swallowed.

Source: `src/session/sftp/types.rs` (`Message::parse`, `Attributes::parse`,
`PermissionsAndFileType`).
-/

namespace Flatline.Sftp


/-! ## Attribute blocks -/

/-- Attributes show all that a block tells: a field is there exactly when its flag is set, and with
the value that has been sent. The permissions of a mode word are its nine low bits. -/
structure Attributes.Shows (a : Attributes) (b : FlaggedBlock) : Prop where
  size : a.size = b.field sshFilexferAttrSize b.size
  user : a.user = b.field sshFilexferAttrUidgid ⟨b.uid, b.gid⟩
  isSome_property : a.property.isSome = true ↔ b.Has sshFilexferAttrPermissions
  permissions : ∀ property, a.property = some property →
    property.permissions = b.mode &&& 0o777 ∧
      ∀ type, FileType.ofBits (b.mode &&& FileType.mask) = some type → property.fileType = type
  time : a.time = b.field sshFilexferAttrAcmodtime ⟨b.atime, b.mtime⟩
  isSome_extend : a.extend.isSome = true ↔ b.Has sshFilexferAttrExtended
  extend : ∀ extend, a.extend = some extend →
    (∀ entry ∈ b.extended, extend.lookup entry.1 = some entry.2) ∧
      ∀ key value, extend.lookup key = some value → (key, value) ∈ b.extended

namespace FlaggedBlock

/-- No name stands for two values. -/
def IsFunctional (entries : List (Bytes × Bytes)) : Prop :=
  ∀ entry ∈ entries, ∀ other ∈ entries, entry.1 = other.1 → entry.2 = other.2

/-- The client has values for all that a block tells. -/
structure IsReadable (b : FlaggedBlock) : Prop where
  isText : b.IsText
  functional : b.Has sshFilexferAttrExtended → IsFunctional b.extended
  fileType : b.Has sshFilexferAttrPermissions →
    (FileType.ofBits (b.mode &&& FileType.mask)).isSome = true

variable {b : FlaggedBlock}

theorem collect_concat (entries : List (Bytes × Bytes)) (entry : Bytes × Bytes) :
    collect (entries ++ [entry]) = insertKey (collect entries) entry.1 entry.2 := by
  unfold collect
  rw [List.foldl_append]
  rfl

/-- What the map says has been sent. -/
theorem mem_of_lookup_collect {entries : List (Bytes × Bytes)} {key : Text} {value : Bytes}
    (h : (collect entries).lookup key = some value) : (key, value) ∈ entries := by
  induction entries using List.reverseRecOn with
  | nil => cases h
  | append_singleton entries entry ih =>
    rw [collect_concat, Entries.lookup_insertKey] at h
    split at h
    · next hkey =>
      cases h
      rw [hkey]
      exact List.mem_append_right _ (List.mem_singleton.mpr rfl)
    · exact List.mem_append_left _ (ih h)

/-- The map has a value for every name that has been sent. -/
theorem lookup_collect_isSome {entries : List (Bytes × Bytes)} {entry : Bytes × Bytes}
    (h : entry ∈ entries) : ((collect entries).lookup entry.1).isSome = true := by
  induction entries using List.reverseRecOn with
  | nil => cases h
  | append_singleton entries last ih =>
    rw [collect_concat, Entries.lookup_insertKey]
    split
    · rfl
    · next hkey =>
      rcases List.mem_append.mp h with h | h
      · exact ih h
      · rw [List.mem_singleton.mp h] at hkey
        exact absurd rfl hkey

/-- The map has all that has been sent exactly when no name stands for two values. -/
theorem forall_lookup_collect_iff (entries : List (Bytes × Bytes)) :
    (∀ entry ∈ entries, (collect entries).lookup entry.1 = some entry.2) ↔
      IsFunctional entries := by
  constructor
  · intro hall entry hentry other hother hkey
    have h := hall other hother
    rw [← hkey, hall entry hentry] at h
    exact Option.some.inj h
  · intro hfunctional entry hentry
    obtain ⟨value, hvalue⟩ := Option.isSome_iff_exists.mp (lookup_collect_isSome hentry)
    rw [hvalue, hfunctional entry hentry _ (mem_of_lookup_collect hvalue) rfl]

theorem isSome_field {α : Type} (b : FlaggedBlock) (flag : UInt32) (a : α) :
    (b.field flag a).isSome = true ↔ b.Has flag := by
  unfold field
  split <;> simp_all

theorem permissions_of_ofBits {mode : UInt32} {property : PermissionsAndFileType}
    (h : PermissionsAndFileType.ofBits mode = some property) :
    property.permissions = mode &&& 0o777 ∧
      FileType.ofBits (mode &&& FileType.mask) = some property.fileType := by
  obtain ⟨fileType, hfileType, hproperty⟩ := Option.map_eq_some_iff.mp h
  rw [← hproperty]
  refine ⟨?_, hfileType⟩
  have hmask : ~~~FileType.mask &&& (0o777 : UInt32) = 0o777 := by decide
  change (mode &&& ~~~FileType.mask) &&& 0o777 = _
  rw [UInt32.and_assoc, hmask]

/-- What is read from a block whose names are texts shows all of it exactly when its mode word has a
known file type and its extended attributes are a map. -/
theorem shows_decoded_iff (htext : b.IsText) : b.decoded.Shows b ↔ b.IsReadable := by
  constructor
  · intro h
    refine ⟨htext, fun hflag => ?_, fun hflag => ?_⟩
    · have hextend : b.decoded.extend = some (collect b.extended) := if_pos hflag
      exact (forall_lookup_collect_iff _).mp (h.extend _ hextend).1
    · obtain ⟨property, hproperty⟩ := Option.isSome_iff_exists.mp (h.isSome_property.mpr hflag)
      have hmode : b.field sshFilexferAttrPermissions b.mode = some b.mode := if_pos hflag
      rw [decoded, hmode] at hproperty
      rw [(permissions_of_ofBits hproperty).2]
      rfl
  · intro h
    refine ⟨rfl, rfl, ⟨fun hsome => ?_, fun hflag => ?_⟩, fun property hproperty => ?_, rfl,
      isSome_field b _ _, fun extend hextend => ?_⟩
    · obtain ⟨property, hproperty⟩ := Option.isSome_iff_exists.mp hsome
      obtain ⟨mode, hmode, -⟩ := Option.bind_eq_some_iff.mp hproperty
      exact (isSome_field b _ _).mp (Option.isSome_iff_exists.mpr ⟨mode, hmode⟩)
    · have hmode : b.field sshFilexferAttrPermissions b.mode = some b.mode := if_pos hflag
      have hknown := h.fileType hflag
      rw [decoded, hmode]
      change ((FileType.ofBits _).map _).isSome = true
      rwa [Option.isSome_map]
    · obtain ⟨mode, hmode, hbits⟩ := Option.bind_eq_some_iff.mp hproperty
      obtain rfl : b.mode = mode := by
        unfold field at hmode
        split at hmode
        · exact Option.some.inj hmode
        · cases hmode
      obtain ⟨hpermissions, htype⟩ := permissions_of_ofBits hbits
      refine ⟨hpermissions, fun type hknown => ?_⟩
      rw [htype] at hknown
      exact Option.some.inj hknown
    · have hflag : b.Has sshFilexferAttrExtended :=
        (isSome_field b _ _).mp (Option.isSome_iff_exists.mpr ⟨extend, hextend⟩)
      have hcollect : b.decoded.extend = some (collect b.extended) := if_pos hflag
      rw [hcollect] at hextend
      cases hextend
      exact ⟨(forall_lookup_collect_iff _).mpr (h.functional hflag),
        fun _ _ => mem_of_lookup_collect⟩

end FlaggedBlock

/-! ## Replies -/

/-- An entry of an `SSH_FXP_NAME`. -/
structure WireEntry where
  fileName : Bytes
  longName : Bytes
  block : FlaggedBlock
deriving DecidableEq, Repr

/-- A reply without its id. A status may end before its message or before its language. -/
inductive WireReply where
  | status (code : UInt32) (texts : Option (Bytes × Option Bytes))
  | handle (handle : Bytes)
  | data (data : Bytes)
  | name (entries : List WireEntry)
  | attrs (block : FlaggedBlock)
  | extendedReply (data : Bytes)
deriving DecidableEq, Repr

namespace WireEntry

def put (entry : WireEntry) : Bytes :=
  (Field.one entry.fileName).put ++ ((Field.one entry.longName).put ++ entry.block.put)

structure Fits (entry : WireEntry) : Prop where
  fileName : entry.fileName.length < UInt32.size
  longName : entry.longName.length < UInt32.size
  block : entry.block.Fits

structure IsReadable (entry : WireEntry) : Prop where
  fileName : utf8Valid entry.fileName = true
  longName : utf8Valid entry.longName = true
  block : entry.block.IsReadable

/-- The texts of an entry. -/
structure IsText (entry : WireEntry) : Prop where
  fileName : utf8Valid entry.fileName = true
  longName : utf8Valid entry.longName = true
  block : entry.block.IsText

/-- A directory entry shows all that the reply tells of it. -/
structure Shown (info : FileInfo) (entry : WireEntry) : Prop where
  fileName : info.fileName = entry.fileName
  longName : info.longName = entry.longName
  attributes : info.attributes.Shows entry.block

def decoded (entry : WireEntry) : FileInfo where
  fileName := entry.fileName
  longName := entry.longName
  attributes := entry.block.decoded

end WireEntry

namespace WireReply

def type : WireReply → UInt8
  | status .. => sshFxpStatus
  | handle _ => sshFxpHandle
  | data _ => sshFxpData
  | name _ => sshFxpName
  | attrs _ => sshFxpAttrs
  | extendedReply _ => sshFxpExtendedReply

/-- The octets of the strings at the end of a status. -/
def putTexts : Option (Bytes × Option Bytes) → Bytes
  | none => []
  | some (message, none) => (Field.one message).put
  | some (message, some language) => (Field.one message).put ++ (Field.one language).put

/-- What follows the id. -/
def put : WireReply → Bytes
  | status code texts => toBeBytes code ++ putTexts texts
  | handle content => (Field.one content).put
  | data content => (Field.one content).put
  | name entries => toBeBytes (UInt32.ofNat entries.length) ++ entries.flatMap WireEntry.put
  | attrs block => block.put
  | extendedReply content => content

/-- The packet that carries a reply to the request `id`. -/
def packet (reply : WireReply) (id : UInt32) : Bytes :=
  reply.type :: (toBeBytes id ++ reply.put)

/-- The message and the language of a status, empty where they are missing. -/
def textsOf : Option (Bytes × Option Bytes) → Bytes × Bytes
  | none => ([], [])
  | some (message, none) => (message, [])
  | some (message, some language) => (message, language)

/-- A reply has an encoding: what it announces fits into its length fields. -/
def Fits : WireReply → Prop
  | status _ texts => (textsOf texts).1.length < UInt32.size ∧
    (textsOf texts).2.length < UInt32.size
  | handle content | data content => content.length < UInt32.size
  | name entries => entries.length < UInt32.size ∧ ∀ entry ∈ entries, entry.Fits
  | attrs block => block.Fits
  | extendedReply _ => True

/-- The client has values for all that a reply tells. -/
def IsReadable : WireReply → Prop
  | status code texts => (Status.ofCode code).isSome = true ∧
    utf8Valid (textsOf texts).1 = true ∧ utf8Valid (textsOf texts).2 = true
  | handle _ | data _ | extendedReply _ => True
  | name entries => ∀ entry ∈ entries, entry.IsReadable
  | attrs block => block.IsReadable

/-- A payload shows all that a reply tells. -/
def Shown : Payload → WireReply → Prop
  | .status known message language, status code texts =>
    Status.ofCode code = some known ∧ (message, language) = textsOf texts
  | .handle content, handle content' => content = content'
  | .data content, data content' => content = content'
  | .name infos, name entries => List.Forall₂ WireEntry.Shown infos entries
  | .attributes a, attrs block => a.Shows block
  | .extendReply content, extendedReply content' => content = content'
  | _, _ => False

end WireReply

/-! ## Listings -/

namespace WireEntry

theorem reads_parseMore {entries : List WireEntry} (hfits : ∀ entry ∈ entries, entry.Fits)
    (htext : ∀ entry ∈ entries, entry.IsText) :
    Layout.Reads (FileInfo.parseMore entries.length) (entries.flatMap put) (entries.map decoded) := by
  induction entries with
  | nil => exact Layout.reads_pure []
  | cons entry rest ih =>
    have hfit := hfits entry List.mem_cons_self
    have htexts := htext entry List.mem_cons_self
    have hrest := ih (fun e he => hfits e (List.mem_cons_of_mem _ he))
      (fun e he => htext e (List.mem_cons_of_mem _ he))
    rw [List.flatMap_cons, put, List.append_assoc, List.append_assoc]
    exact (FileInfo.reads_consumeText htexts.fileName hfit.fileName _).bind
      ((FileInfo.reads_consumeText htexts.longName hfit.longName _).bind
        ((FlaggedBlock.reads_put hfit.block htexts.block).bind (hrest.map (decoded entry :: ·))))

theorem fails_consumeText {content : Bytes} (htext : ¬ utf8Valid content = true)
    (hfits : content.length < UInt32.size) (error : Error) :
    Fails (Consumer.consumeText error) (Field.one content).put := by
  have hchecked : Fails (if utf8Valid content then pure content else throw error : Consumer Text)
      [] := by
    rw [if_neg htext]
    exact fails_throw _ _
  have hfails : Fails (Consumer.consumeText error) ((Field.one content).put ++ []) :=
    reads_bind_fails (Layout.reads_one hfits) hchecked
  rwa [List.append_nil] at hfails

/-- An entry with a text that is not UTF-8 stops the parse of its listing. -/
theorem fails_parseMore {entries : List WireEntry} (hfits : ∀ entry ∈ entries, entry.Fits)
    (htext : ¬ ∀ entry ∈ entries, entry.IsText) :
    Fails (FileInfo.parseMore entries.length) (entries.flatMap put) := by
  induction entries with
  | nil => exact absurd (by simp) htext
  | cons entry rest ih =>
    have hfit := hfits entry List.mem_cons_self
    rw [List.flatMap_cons, put, List.append_assoc, List.append_assoc]
    by_cases hfile : utf8Valid entry.fileName = true
    · refine reads_bind_fails (FileInfo.reads_consumeText hfile hfit.fileName _) ?_
      by_cases hlong : utf8Valid entry.longName = true
      · refine reads_bind_fails (FileInfo.reads_consumeText hlong hfit.longName _) ?_
        by_cases hblock : entry.block.IsText
        · refine reads_bind_fails (FlaggedBlock.reads_put hfit.block hblock) ?_
          have hrest : ¬ ∀ other ∈ rest, other.IsText := by
            intro hrest
            apply htext
            intro other hother
            rcases List.mem_cons.mp hother with rfl | hother
            · exact ⟨hfile, hlong, hblock⟩
            · exact hrest other hother
          have hfails := (ih (fun e he => hfits e (List.mem_cons_of_mem _ he)) hrest).bind
            (fun infos => (pure (entry.decoded :: infos) : Consumer (List FileInfo))) []
          rwa [List.append_nil] at hfails
        · exact (FlaggedBlock.fails_put hfit.block hblock).bind _ _
      · exact (fails_consumeText hlong hfit.longName _).bind _ _
    · exact (fails_consumeText hfile hfit.fileName _).bind _ _

theorem IsReadable.isText {entry : WireEntry} (h : entry.IsReadable) : entry.IsText :=
  ⟨h.fileName, h.longName, h.block.isText⟩

theorem forall₂_shown_iff {entries : List WireEntry} (htext : ∀ entry ∈ entries, entry.IsText) :
    List.Forall₂ Shown (entries.map decoded) entries ↔ ∀ entry ∈ entries, entry.IsReadable := by
  rw [List.forall₂_map_left_iff, List.forall₂_same]
  refine forall₂_congr fun entry hentry => ?_
  have htexts := htext entry hentry
  have hblock := FlaggedBlock.shows_decoded_iff htexts.block
  exact ⟨fun h => ⟨htexts.fileName, htexts.longName, hblock.mp h.attributes⟩,
    fun h => ⟨rfl, rfl, hblock.mpr h.block⟩⟩

end WireEntry

/-! ## Decoding -/

namespace WireReply

variable {reply : WireReply}

/-- The strings at the end of a status are read, missing ones as empty. -/
theorem orDefault_putTexts {texts : Option (Bytes × Option Bytes)}
    (hmessage : (textsOf texts).1.length < UInt32.size)
    (hlanguage : (textsOf texts).2.length < UInt32.size) :
    ∃ rest rest', orDefault Consumer.consumeOne (putTexts texts) = .ok (textsOf texts).1 rest ∧
      orDefault Consumer.consumeOne rest = .ok (textsOf texts).2 rest' := by
  match texts with
  | none => exact ⟨[], [], rfl, rfl⟩
  | some (message, none) =>
    have hread := Consumer.consumeOne_append [] hmessage
    rw [List.append_nil] at hread
    exact ⟨[], [], orDefault_of_ok hread, rfl⟩
  | some (message, some language) =>
    have hread := Consumer.consumeOne_append [] hlanguage
    rw [List.append_nil] at hread
    exact ⟨_, [], orDefault_of_ok (Consumer.consumeOne_append _ hmessage), orDefault_of_ok hread⟩

/-- What is read from the rest of a packet shows the reply. -/
def PayloadShows (reply : WireReply) : Prop :=
  ∃ payload rest, Payload.parse reply.type reply.put = .ok payload rest ∧ reply.Shown payload

theorem payloadShows_iff_of_ok (reply : WireReply) {payload : Payload} {rest : Bytes}
    (h : Payload.parse reply.type reply.put = .ok payload rest) :
    reply.PayloadShows ↔ reply.Shown payload := by
  refine ⟨fun ⟨payload', rest', h', hshown⟩ => ?_, fun hshown => ⟨_, _, h, hshown⟩⟩
  rw [h] at h'
  cases h'
  exact hshown

theorem not_payloadShows {e : Error} {rest : Bytes}
    (h : Payload.parse reply.type reply.put = .error e rest) : ¬ reply.PayloadShows := by
  rintro ⟨payload, rest', h', -⟩
  rw [h] at h'
  cases h'

theorem Layout.Reads.toEnd {α : Type} {m : Consumer α} {content : Bytes} {a : α}
    (h : Layout.Reads m content a) :
    m content = .ok a [] := by
  have hrun := h []
  rwa [List.append_nil] at hrun

theorem Fails.toEnd {α : Type} {m : Consumer α} {content : Bytes} (h : Fails m content) :
    ∃ e s, m content = .error e s := by
  obtain ⟨e, s, hrun⟩ := h []
  rw [List.append_nil] at hrun
  exact ⟨e, s, hrun⟩

theorem expectText_eq (content rest : Bytes) : expectText content rest =
    if utf8Valid content then .ok content rest else .error (.transport .expectString) rest := by
  unfold expectText
  split <;> rfl

/-- The code of a status is read in front of its texts. -/
theorem parse_status (code : UInt32) (rest : Bytes) :
    Payload.parse sshFxpStatus (toBeBytes code ++ rest) =
      (match Status.ofCode code with
        | none => throw (fault (.unexpectedStatus code))
        | some known => do
          let error ← expectText (← orDefault Consumer.consumeOne)
          let language ← expectText (← orDefault Consumer.consumeOne)
          return .status known error language : Consumer Payload) rest := by
  unfold Payload.parse
  rw [if_pos rfl]
  exact Triple.bind_of_ok (Consumer.consumeU32_append _ _)

theorem payloadShows_status_iff {code : UInt32} {texts : Option (Bytes × Option Bytes)}
    (hfits : (status code texts).Fits) :
    (status code texts).PayloadShows ↔ (status code texts).IsReadable := by
  obtain ⟨rest, rest', hmessage, hlanguage⟩ := orDefault_putTexts hfits.1 hfits.2
  have hparse := parse_status code (putTexts texts)
  cases hcode : Status.ofCode code with
  | none =>
    rw [hcode] at hparse
    exact iff_of_false (not_payloadShows hparse) fun h => by simp [IsReadable, hcode] at h
  | some known =>
    rw [hcode] at hparse
    dsimp only at hparse
    rw [Triple.bind_of_ok hmessage] at hparse
    by_cases htext : utf8Valid (textsOf texts).1 = true
    · have hfirst : expectText (textsOf texts).1 rest = .ok (textsOf texts).1 rest := by
        rw [expectText_eq, if_pos htext]
      rw [Triple.bind_of_ok hfirst, Triple.bind_of_ok hlanguage] at hparse
      by_cases htext' : utf8Valid (textsOf texts).2 = true
      · have hsecond : expectText (textsOf texts).2 rest' = .ok (textsOf texts).2 rest' := by
          rw [expectText_eq, if_pos htext']
        rw [Triple.bind_of_ok hsecond] at hparse
        refine (payloadShows_iff_of_ok (status code texts) hparse).trans ?_
        refine iff_of_true ⟨hcode, rfl⟩ ⟨?_, htext, htext'⟩
        rw [hcode]
        rfl
      · have hsecond : expectText (textsOf texts).2 rest' =
            .error (.transport .expectString) rest' := by
          rw [expectText_eq, if_neg htext']
        rw [Triple.bind_of_error hsecond] at hparse
        exact iff_of_false (not_payloadShows hparse) fun h => htext' h.2.2
    · have hfirst : expectText (textsOf texts).1 rest = .error (.transport .expectString) rest := by
        rw [expectText_eq, if_neg htext]
      rw [Triple.bind_of_error hfirst] at hparse
      exact iff_of_false (not_payloadShows hparse) fun h => htext h.2.1

theorem payloadShows_name_iff {entries : List WireEntry} (hfits : (name entries).Fits) :
    (name entries).PayloadShows ↔ (name entries).IsReadable := by
  have hcount : (UInt32.ofNat entries.length).toNat = entries.length :=
    UInt32.toNat_ofNat_of_lt hfits.1
  have hparse : Payload.parse sshFxpName (name entries).put =
      (do return Payload.name (← FileInfo.parseMore entries.length) : Consumer Payload)
        (entries.flatMap WireEntry.put) := by
    unfold Payload.parse put
    rw [if_neg (by decide), if_neg (by decide), if_neg (by decide), if_pos rfl,
      Triple.bind_of_ok (Consumer.consumeU32_append _ _), hcount]
  by_cases htext : ∀ entry ∈ entries, entry.IsText
  · rw [Triple.bind_of_ok (Layout.Reads.toEnd (WireEntry.reads_parseMore hfits.2 htext))] at hparse
    exact (payloadShows_iff_of_ok (name entries) hparse).trans
      (WireEntry.forall₂_shown_iff htext)
  · obtain ⟨e, s, hrun⟩ := Fails.toEnd (WireEntry.fails_parseMore hfits.2 htext)
    rw [Triple.bind_of_error hrun] at hparse
    exact iff_of_false (not_payloadShows hparse) fun h => htext fun entry hentry =>
      (h entry hentry).isText

theorem payloadShows_attrs_iff {block : FlaggedBlock} (hfits : (attrs block).Fits) :
    (attrs block).PayloadShows ↔ (attrs block).IsReadable := by
  have hparse : Payload.parse sshFxpAttrs block.put =
      (do return Payload.attributes (← Attributes.parse) : Consumer Payload) block.put := by
    unfold Payload.parse
    rw [if_neg (by decide), if_neg (by decide), if_neg (by decide), if_neg (by decide), if_pos rfl]
  by_cases htext : block.IsText
  · rw [Triple.bind_of_ok (Layout.Reads.toEnd (FlaggedBlock.reads_put hfits htext))] at hparse
    exact (payloadShows_iff_of_ok (attrs block) hparse).trans
      (FlaggedBlock.shows_decoded_iff htext)
  · obtain ⟨e, s, hrun⟩ := Fails.toEnd (FlaggedBlock.fails_put hfits htext)
    rw [Triple.bind_of_error hrun] at hparse
    exact iff_of_false (not_payloadShows hparse) fun h => htext h.isText

theorem payloadShows_iff (hfits : reply.Fits) : reply.PayloadShows ↔ reply.IsReadable := by
  cases reply with
  | status code texts => exact payloadShows_status_iff hfits
  | handle content =>
    have hread : Layout.Reads (Payload.parse sshFxpHandle) (Field.one content).put (.handle content) :=
      (Layout.reads_one hfits).map Payload.handle
    rw [payloadShows_iff_of_ok (handle content) (Layout.Reads.toEnd hread)]
    exact iff_of_true rfl trivial
  | data content =>
    have hread : Layout.Reads (Payload.parse sshFxpData) (Field.one content).put (.data content) :=
      (Layout.reads_one hfits).map Payload.data
    rw [payloadShows_iff_of_ok (data content) (Layout.Reads.toEnd hread)]
    exact iff_of_true rfl trivial
  | name entries => exact payloadShows_name_iff hfits
  | attrs block => exact payloadShows_attrs_iff hfits
  | extendedReply content =>
    have hread : Payload.parse sshFxpExtendedReply content =
        .ok (.extendReply content) content := rfl
    rw [payloadShows_iff_of_ok (extendedReply content) hread]
    exact iff_of_true rfl trivial

end WireReply

/-- `Message::parse` returns all that a well-formed reply tells, under its id, exactly when the
client has values for all of it. -/
theorem parse_shows_iff {reply : WireReply} (hfits : reply.Fits) (id : UInt32) :
    (∃ message, Message.parse (reply.packet id) = .ok message ∧ message.id = id ∧
      reply.Shown message.payload) ↔ reply.IsReadable := by
  have hparse : Message.parse (reply.packet id) =
      Consumer.run' (do return { id, payload := ← Payload.parse reply.type }) reply.put := by
    unfold Message.parse Consumer.run' WireReply.packet
    rw [Triple.bind_of_ok (Consumer.consumeU8_cons _ _),
      Triple.bind_of_ok (Consumer.consumeU32_append _ _)]
  rw [← WireReply.payloadShows_iff hfits, hparse]
  unfold Consumer.run' WireReply.PayloadShows
  cases hrun : Payload.parse reply.type reply.put with
  | ok payload rest =>
    rw [Triple.bind_of_ok hrun]
    constructor
    · rintro ⟨message, ⟨⟩, -, hshown⟩
      exact ⟨_, _, rfl, hshown⟩
    · rintro ⟨payload', rest', ⟨⟩, hshown⟩
      exact ⟨_, rfl, rfl, hshown⟩
  | error e rest =>
    rw [Triple.bind_of_error hrun]
    simp

/-- A listing of one entry with every field and two extended attributes. -/
def sampleListing : WireReply :=
  .name [⟨ascii "a.txt", ascii "-rw-r--r-- a.txt",
    ⟨0x8000000f, 1024, 1000, 1000, 0o104755, 1, 2, [(ascii "key", [1, 2, 3]), (ascii "other", [])]⟩⟩]

theorem sampleListing_shown :
    ∃ message, Message.parse (sampleListing.packet 7) = .ok message ∧ message.id = 7 ∧
      sampleListing.Shown message.payload := by
  have hfits : sampleListing.Fits := by
    refine ⟨by decide, fun entry hentry => ?_⟩
    rw [List.mem_singleton.mp hentry]
    refine ⟨by decide, by decide, fun _ => ?_⟩
    unfold FlaggedBlock.EntriesFit
    decide
  refine (parse_shows_iff hfits 7).mpr fun entry hentry => ?_
  rw [List.mem_singleton.mp hentry]
  refine ⟨by decide +kernel, by decide +kernel, fun _ => ?_, fun _ => ?_, fun _ => by decide⟩
  · unfold FlaggedBlock.EntriesText
    decide +kernel
  · unfold FlaggedBlock.IsFunctional
    decide

/-- The attributes of a file whose mode word has permissions and no file type. -/
def typelessAttrs : WireReply :=
  .attrs ⟨4, 0, 0, 0, 0o644, 0, 0, []⟩

/-- The permissions are lost. -/
theorem typelessAttrs_lost :
    ¬ ∃ message, Message.parse (typelessAttrs.packet 7) = .ok message ∧ message.id = 7 ∧
      typelessAttrs.Shown message.payload := by
  have hparse : Message.parse (typelessAttrs.packet 7) =
      .ok ⟨7, .attributes ⟨none, none, none, none, none⟩⟩ := by
    decide +kernel
  rintro ⟨message, hmessage, -, hshown⟩
  rw [hparse] at hmessage
  cases hmessage
  exact absurd (hshown.isSome_property.mpr (by decide)) (by decide)

end Flatline.Sftp
