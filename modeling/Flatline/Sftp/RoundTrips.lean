import Flatline.Sftp.AttributeBlocks
import Mathlib

/-!
# Round trips of attributes and directory entries

`Attributes::parse` takes from the octets of `to_bytes` the value they were written from, and
`FileInfo::parse_more` the entries of a listing one behind the other. The lengths on the wire have
32 bits and `put_one` drops the others, so a longer string or map does not come back: whatever a
parse returns fits into its length fields.

Source: `src/session/sftp/types.rs` (`Attributes::to_bytes`, `Attributes::parse`,
`FileInfo::parse_more`).
-/

namespace Flatline.Sftp

open Triple (Holds)

variable {α : Type}

/-! ## What a parse returns -/

/-- Whatever `m` returns has the property. -/
abbrev Yields (m : Consumer α) (p : α → Prop) : Prop :=
  Holds (fun _ => True) m (fun a _ => p a) (fun _ _ => True)

theorem yields_true (m : Consumer α) : Yields m fun _ => True := by
  intro s _
  split <;> trivial

theorem Yields.bind {β : Type} {m : Consumer α} {p : α → Prop} {f : α → Consumer β} {q : β → Prop}
    (hm : Yields m p) (hf : ∀ a, p a → Yields (f a) q) : Yields (m >>= f) q := by
  have hpost : Holds (fun _ => True) m (fun a _ => p a ∧ True) (fun _ _ => True) :=
    hm.post fun _ _ ha => ⟨ha, trivial⟩
  exact hpost.bind fun a => Holds.of_and fun ha => hf a ha

theorem yields_pure {a : α} {p : α → Prop} (h : p a) : Yields (pure a : Consumer α) p :=
  Holds.pure fun _ _ => h

theorem yields_consumeOne : Yields Consumer.consumeOne fun content => content.length < UInt32.size := by
  intro s _
  unfold Consumer.consumeOne
  cases hlength : Consumer.consumeU32 s with
  | error e rest => trivial
  | ok len rest =>
    dsimp only
    split
    · next content rest' hread =>
      split at hread
      · cases hread
      · cases hread
        exact Nat.lt_of_le_of_lt (List.length_take_le _ _) len.toNat_lt
    · trivial

theorem yields_consumeText (error : Error) :
    Yields (Consumer.consumeText error) fun content => content.length < UInt32.size := by
  refine yields_consumeOne.bind fun content hcontent => ?_
  split
  · exact yields_pure hcontent
  · exact Holds.throw fun _ _ => trivial

theorem yields_parseIf {flags flag : UInt32} {m : Consumer α} {p : α → Prop} (hm : Yields m p) :
    Yields (Attributes.parseIf flags flag m) fun value => ∀ a, value = some a → p a := by
  unfold Attributes.parseIf
  split
  · refine hm.bind fun a ha => yields_pure ?_
    rintro _ ⟨⟩
    exact ha
  · exact yields_pure fun a ha => nomatch ha

/-- The lengths of one extended attribute fit. -/
def EntryFits (entry : Bytes × Bytes) : Prop :=
  entry.1.length < UInt32.size ∧ entry.2.length < UInt32.size

theorem yields_parseExtend (count : ℕ) {extend : List (Text × Bytes)}
    (hextend : ∀ entry ∈ extend, EntryFits entry) :
    Yields (Attributes.parseExtend count extend) fun result =>
      result.length ≤ extend.length + count ∧ ∀ entry ∈ result, EntryFits entry := by
  induction count generalizing extend with
  | zero => exact yields_pure ⟨Nat.le_refl _, hextend⟩
  | succ count ih =>
    refine yields_consumeOne.bind fun key hkey => yields_consumeOne.bind fun value hvalue => ?_
    split
    · have hinsert : ∀ entry ∈ insertKey extend key value, EntryFits entry := by
        intro entry hentry
        rcases List.mem_cons.mp hentry with rfl | hentry
        · exact ⟨hkey, hvalue⟩
        · exact hextend entry (List.mem_of_mem_filter hentry)
      have hlength : (insertKey extend key value).length ≤ extend.length + 1 :=
        Nat.succ_le_succ (List.length_filter_le _ _)
      refine (ih hinsert).post ?_
      rintro result _ ⟨hcount, hfits⟩
      exact ⟨by omega, hfits⟩
    · exact Holds.throw fun _ _ => trivial

/-- What `Attributes::parse` returns fits. -/
theorem yields_parse : Yields Attributes.parse Attributes.Fits := by
  refine (yields_true _).bind fun flags _ => (yields_true _).bind fun size _ =>
    (yields_true _).bind fun user _ => (yields_true _).bind fun permissions _ =>
      (yields_true _).bind fun time _ => ?_
  have hextend : Yields (do
      let count ← Consumer.consumeU32
      Attributes.parseExtend count.toNat []) FlaggedBlock.EntriesFit := by
    refine (yields_true _).bind fun count _ => (yields_parseExtend count.toNat (by simp)).post ?_
    rintro result _ ⟨hlength, hfits⟩
    have := count.toNat_lt
    rw [List.length_nil, Nat.zero_add] at hlength
    exact ⟨Nat.lt_of_le_of_lt hlength this, hfits⟩
  exact (yields_parseIf hextend).bind fun extend hfits => yields_pure hfits

/-! ## Directory entries -/

namespace FileInfo

/-- The octets of an entry of an `SSH_FXP_NAME` reply. -/
def put (info : FileInfo) : Bytes :=
  (Field.one info.fileName).put ++ ((Field.one info.longName).put ++ info.attributes.toBytes)

/-- A value of the type `FileInfo` whose permissions are defined flags. -/
structure IsValue (info : FileInfo) : Prop where
  fileName : utf8Valid info.fileName = true
  longName : utf8Valid info.longName = true
  attributes : info.attributes.IsValue

/-- Two entries that differ in the order of their map at most. -/
structure Same (info info' : FileInfo) : Prop where
  fileName : info.fileName = info'.fileName
  longName : info.longName = info'.longName
  attributes : info.attributes.Same info'.attributes

/-- The lengths of an entry fit into the fields written for them. -/
structure Fits (info : FileInfo) : Prop where
  fileName : info.fileName.length < UInt32.size
  longName : info.longName.length < UInt32.size
  attributes : info.attributes.Fits

/-- An entry as it is read back. -/
def reread (info : FileInfo) : FileInfo :=
  { info with attributes := info.attributes.flagged.decoded }

theorem Same.fits {info info' : FileInfo} (h : info'.Same info) (hfits : info'.Fits) : info.Fits :=
  ⟨h.fileName ▸ hfits.fileName, h.longName ▸ hfits.longName,
    h.attributes.fits hfits.attributes⟩

theorem reads_consumeText {text : Text} (htext : utf8Valid text = true)
    (hfits : text.length < UInt32.size) (error : Error) :
    Layout.Reads (Consumer.consumeText error) (Field.one text).put text := by
  have hchecked : Layout.Reads (if utf8Valid text then pure text else throw error) [] text := by
    rw [if_pos htext]
    exact Layout.reads_pure text
  have hread : Layout.Reads (Consumer.consumeText error) ((Field.one text).put ++ []) text :=
    (Layout.reads_one hfits).bind hchecked
  rwa [List.append_nil] at hread

theorem reads_parseMore {entries : List FileInfo} (hvalue : ∀ info ∈ entries, info.IsValue)
    (hfits : ∀ info ∈ entries, info.Fits) :
    Layout.Reads (parseMore entries.length) (entries.flatMap put) (entries.map reread) := by
  induction entries with
  | nil => exact Layout.reads_pure []
  | cons info rest ih =>
    have hinfo := hvalue info List.mem_cons_self
    have hfit := hfits info List.mem_cons_self
    have hattributes := FlaggedBlock.reads_put (Attributes.fits_flagged hfit.attributes)
      (Attributes.isText_flagged hinfo.attributes)
    rw [Attributes.put_flagged] at hattributes
    have hrest := ih (fun e he => hvalue e (List.mem_cons_of_mem _ he))
      (fun e he => hfits e (List.mem_cons_of_mem _ he))
    rw [List.flatMap_cons, put, List.append_assoc, List.append_assoc]
    exact (reads_consumeText hinfo.fileName hfit.fileName _).bind
      ((reads_consumeText hinfo.longName hfit.longName _).bind
        (hattributes.bind (hrest.map (reread info :: ·))))

theorem yields_parseMore (size : ℕ) :
    Yields (parseMore size) fun entries => ∀ info ∈ entries, info.Fits := by
  induction size with
  | zero => exact yields_pure (by simp)
  | succ size ih =>
    refine (yields_consumeText _).bind fun fileName hfileName =>
      (yields_consumeText _).bind fun longName hlongName =>
        yields_parse.bind fun attributes hattributes => ih.bind fun rest hrest => yields_pure ?_
    intro info hinfo
    rcases List.mem_cons.mp hinfo with rfl | hinfo
    · exact ⟨hfileName, hlongName, hattributes⟩
    · exact hrest info hinfo

/-- `parse_more` returns the entries whose octets it is given, in order, and takes exactly those
octets. -/
def ListRoundTrips (entries : List FileInfo) : Prop :=
  ∀ rest, ∃ entries', parseMore entries.length (entries.flatMap put ++ rest) = .ok entries' rest ∧
    List.Forall₂ Same entries' entries

theorem fits_of_forall₂ {entries entries' : List FileInfo} (h : List.Forall₂ Same entries' entries)
    (hfits : ∀ info ∈ entries', info.Fits) : ∀ info ∈ entries, info.Fits := by
  induction h with
  | nil => exact fun _ h => absurd h List.not_mem_nil
  | cons hsame _ ih =>
    intro info hinfo
    rcases List.mem_cons.mp hinfo with rfl | hinfo
    · exact hsame.fits (hfits _ List.mem_cons_self)
    · exact ih (fun e he => hfits e (List.mem_cons_of_mem _ he)) info hinfo

end FileInfo

/-- Attribute blocks round trip, and so do listings, exactly when every string, the number of
extended attributes included, is shorter than its length field can say. -/
theorem attributes_round_trip_iff (a : Attributes) (entries : List FileInfo) :
    (a.IsValue → (a.RoundTrips ↔ a.Fits)) ∧
      ((∀ info ∈ entries, info.IsValue) →
        (FileInfo.ListRoundTrips entries ↔ ∀ info ∈ entries, info.Fits)) := by
  refine ⟨fun ha => ⟨fun htrip => ?_, Attributes.roundTrips_of_fits ha⟩,
    fun hentries => ⟨fun htrip => ?_, fun hfits rest => ?_⟩⟩
  · obtain ⟨a', hparse, hsame⟩ := htrip []
    exact hsame.fits (yields_parse.of_ok trivial hparse)
  · obtain ⟨entries', hparse, hsame⟩ := htrip []
    exact FileInfo.fits_of_forall₂ hsame ((FileInfo.yields_parseMore _).of_ok trivial hparse)
  · refine ⟨_, FileInfo.reads_parseMore hentries hfits rest, ?_⟩
    rw [List.forall₂_map_left_iff, List.forall₂_same]
    intro info hinfo
    exact ⟨rfl, rfl, Attributes.same_decoded (hentries info hinfo).attributes⟩

/-- The attributes of the source's own test, and an entry with them. -/
def sampleInfo : FileInfo where
  fileName := ascii "a.txt"
  longName := ascii "-rw-r--r-- a.txt"
  attributes :=
    { size := some 1024
      user := some ⟨1000, 1000⟩
      property := some ⟨0o644, .regularFile⟩
      time := some ⟨1, 2⟩
      extend := some [(ascii "key", [1, 2, 3]), (ascii "other", [])] }

theorem sampleInfo_isValue : sampleInfo.IsValue where
  fileName := by decide +kernel
  longName := by decide +kernel
  attributes :=
    { permissions := by
        rintro _ ⟨⟩
        decide
      isMap := by
        rintro _ ⟨⟩
        unfold IsMap
        decide
      isText := by
        rintro _ ⟨⟩
        unfold FlaggedBlock.EntriesText
        decide +kernel }

theorem attributes_round_trip_sample :
    sampleInfo.attributes.RoundTrips ∧ FileInfo.ListRoundTrips [sampleInfo, sampleInfo] := by
  have hfits : sampleInfo.Fits := by
    refine ⟨by decide, by decide, ?_⟩
    rintro _ ⟨⟩
    unfold FlaggedBlock.EntriesFit
    decide
  have hiff := attributes_round_trip_iff sampleInfo.attributes [sampleInfo, sampleInfo]
  refine ⟨(hiff.1 sampleInfo_isValue.attributes).mpr hfits.attributes, (hiff.2 ?_).mpr ?_⟩
  · simp [sampleInfo_isValue]
  · simp [hfits]

/-- One extended attribute whose name has 2^32 octets. -/
def longNamed : Attributes where
  size := none
  user := none
  property := none
  time := none
  extend := some [(List.replicate (2 ^ 32) 0x61, [])]

theorem longNamed_does_not_round_trip : longNamed.IsValue ∧ ¬ longNamed.RoundTrips := by
  refine ⟨⟨fun _ h => (nomatch h), ?_, ?_⟩, fun htrip => ?_⟩
  · rintro _ ⟨⟩
    exact List.pairwise_singleton _ _
  · rintro _ ⟨⟩ entry hentry
    rw [List.mem_singleton.mp hentry]
    exact utf8Valid_of_forall_lt fun b hb => by
      rw [List.eq_of_mem_replicate hb]
      decide
  · obtain ⟨a', hparse, hsame⟩ := htrip []
    have hfits := (hsame.fits (yields_parse.of_ok trivial hparse) _ rfl).2 _ List.mem_cons_self
    rw [List.length_replicate] at hfits
    exact absurd hfits.1 (by decide)

end Flatline.Sftp
