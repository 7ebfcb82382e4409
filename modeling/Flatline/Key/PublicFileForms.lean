import Flatline.Key.PublicFileText

/-!
# Which public key files are read

A public key with a comment can stand on one line, or in the block of RFC 4716. `Reads` is what is
expected of a file; `PublicKeyForm.reads_iff` says which of the forms the parser reads so: a line
whose comment is one word, and a block with no header but the comment and with its Base64 on one
line.

Source: `src/key.rs` (`parse_public_key_file`).
-/

namespace Flatline

open Triple Consumer Trimming Flatline.Parser

/-! ## Expectations -/

/-- What the block decoder of OpenSSL promises: it inverts the encoding, and it rejects letters that
are no whole number of groups. -/
structure DecodesBlocks (decodeBlock : Text → Option Bytes) : Prop where
  inverts (blob : Bytes) : decodeBlock (Base64.encode blob) = some blob
  rejects {text : Text} (hletters : ∀ letter ∈ text, (Base64.sextet letter).isSome)
    (hgroups : text.length % 4 ≠ 0) : decodeBlock text = none

/-- The name of a key type: visible characters, and at least one. -/
structure IsKeyName (name : Text) : Prop where
  ne_nil : name ≠ []
  visible : ∀ octet ∈ name, IsVisible octet

/-- The text of a comment, or of the value of a header: all but line breaks. -/
structure IsComment (text : Text) : Prop where
  valid : utf8Valid text = true
  unbroken : IsUnbroken text

/-- The file is read as a key of that type, with that blob and that comment. A key without a comment
has an empty one. -/
def ReadsAs (decodeBlock : Text → Option Bytes) (file : Bytes) (type : Text) (blob : Bytes)
    (comment : Text) : Prop :=
  ∃ key, parsePublicKeyFile decodeBlock file = .ok key ∧ key.type = type ∧ key.content = blob ∧
    key.comment.getD [] = comment

/-! ## One line -/

/-- A file of valid UTF-8 is read by the form of its text. -/
theorem parsePublicKeyFile_of_utf8Valid (decodeBlock : Text → Option Bytes) {content : Bytes}
    (h : utf8Valid content = true) :
    parsePublicKeyFile decodeBlock content = (match ssh2Block (trim (normalized content)) with
      | some (comment, line) => do
        let content ← decoded decodeBlock line
        let type ← Consumer.run' (consumeText keyText) content
        return Public.normal type content (some comment)
      | none => do
        let (method, content, comment) ← Consumer.run' lineFields (trim (normalized content))
        let content ← decoded decodeBlock content
        lineKey method content comment) := by
  have hvalid : ¬ (¬ utf8Valid content = true) := not_not.mpr h
  unfold parsePublicKeyFile
  rw [if_neg hvalid]
  rfl

/-- A key on one line: `type base64 comment`, with blanks between the fields and an ending. -/
structure OneLineForm where
  type : Text
  blob : Bytes
  comment : Text
  /-- The blanks behind the type. -/
  blanks₁ : Bytes
  /-- The blanks behind the blob; there may be none if there is no comment. -/
  blanks₂ : Bytes
  ending : Option LineEnding
  isKeyName : IsKeyName type
  isComment : IsComment comment
  blanks₁_ne_nil : blanks₁ ≠ []
  isBlanks₁ : IsBlanks blanks₁
  blanks₂_ne_nil : comment ≠ [] → blanks₂ ≠ []
  isBlanks₂ : IsBlanks blanks₂

namespace OneLineForm

variable (form : OneLineForm)

/-- The fields in front of the comment. -/
def front : Bytes :=
  form.type ++ (form.blanks₁ ++ Base64.encode form.blob)

def line : Bytes :=
  form.front ++ (form.blanks₂ ++ form.comment)

def file : Bytes :=
  form.line ++ (form.ending.map LineEnding.octets).getD []

/-! ### The text of the line -/

theorem visible_encode (blob : Bytes) : ∀ octet ∈ Base64.encode blob, IsVisible octet :=
  fun _ hoctet => isVisible_of_isChar (Base64.isChar_of_mem_encode hoctet)

theorem isUnbroken_blanks {blanks : Bytes} (h : IsBlanks blanks) : IsUnbroken blanks where
  no_newline hmem := absurd (h newline hmem) (by decide)
  no_carriageReturn hmem := absurd (h carriageReturn hmem) (by decide)

theorem utf8Valid_blanks {blanks : Bytes} (h : IsBlanks blanks) : utf8Valid blanks = true := by
  apply utf8Valid_of_forall_lt
  intro octet hoctet
  have hblank := h octet hoctet
  unfold isSpaceOrTab at hblank
  rw [Bool.or_eq_true, beq_iff_eq, beq_iff_eq] at hblank
  rcases hblank with rfl | rfl <;> decide

theorem isUnbroken_line : IsUnbroken form.line :=
  isUnbroken_append
    (isUnbroken_append (isUnbroken_of_visible form.isKeyName.visible)
      (isUnbroken_append (isUnbroken_blanks form.isBlanks₁)
        (isUnbroken_of_visible (visible_encode form.blob))))
    (isUnbroken_append (isUnbroken_blanks form.isBlanks₂) form.isComment.unbroken)

theorem utf8Valid_visible {text : Text} (h : ∀ octet ∈ text, IsVisible octet) :
    utf8Valid text = true :=
  utf8Valid_of_forall_lt fun octet hoctet => (h octet hoctet).lt

theorem utf8Valid_line : utf8Valid form.line = true :=
  utf8Valid_append
    (utf8Valid_append (utf8Valid_visible form.isKeyName.visible)
      (utf8Valid_append (utf8Valid_blanks form.isBlanks₁)
        (utf8Valid_visible (visible_encode form.blob))))
    (utf8Valid_append (utf8Valid_blanks form.isBlanks₂) form.isComment.valid)

theorem utf8Valid_file : utf8Valid form.file = true := by
  apply utf8Valid_append form.utf8Valid_line
  cases form.ending with
  | none => rfl
  | some ending => cases ending <;> rfl

/-- The ending is trimmed away, and nothing in front. -/
theorem trim_normalized_file : trim (normalized form.file) = trimEnd whitespace form.line := by
  obtain ⟨octet, rest, htype⟩ := List.exists_cons_of_ne_nil form.isKeyName.ne_nil
  have hvisible : IsVisible octet := form.isKeyName.visible octet (by rw [htype]; simp)
  have hline : form.line =
      octet :: (rest ++ (form.blanks₁ ++ Base64.encode form.blob) ++
        (form.blanks₂ ++ form.comment)) := by
    unfold line front
    rw [htype]
    simp
  have hnormal : normalized form.file = form.line ∨
      normalized form.file = form.line ++ [newline] := by
    have hcr := form.isUnbroken_line.no_carriageReturn
    unfold file
    cases form.ending with
    | none =>
      left
      rw [Option.map_none, Option.getD_none, List.append_nil, normalized_unbroken hcr]
    | some ending =>
      right
      have hending := normalized_ending ending (by simp : ([] : Text).head? ≠ some newline)
      rw [List.append_nil] at hending
      rw [Option.map_some, Option.getD_some, normalized_append hcr, hending]
      rfl
  unfold trim
  rcases hnormal with h | h
  · rw [h, hline, trimStart_visible hvisible]
  · rw [h, hline, List.cons_append, trimStart_visible hvisible, ← List.cons_append]
    exact trimEnd_append_white (by decide) _

theorem newline_notMem_text : newline ∉ trimEnd whitespace form.line := fun hmem =>
  form.isUnbroken_line.no_newline (mem_of_mem_trimEnd hmem)

/-- A line is read by its fields. -/
theorem parsePublicKeyFile_file (decodeBlock : Text → Option Bytes) :
    parsePublicKeyFile decodeBlock form.file = (do
      let (method, content, comment) ← Consumer.run' lineFields (trimEnd whitespace form.line)
      let content ← decoded decodeBlock content
      lineKey method content comment) := by
  rw [parsePublicKeyFile_of_utf8Valid decodeBlock form.utf8Valid_file, form.trim_normalized_file,
    ssh2Block_eq_none form.newline_notMem_text]

/-! ### The fields of the line -/

theorem isWord_type : IsWord form.type :=
  isWord_of_visible form.isKeyName.ne_nil form.isKeyName.visible

theorem isWord_encode {blob : Bytes} (hblob : blob ≠ []) : IsWord (Base64.encode blob) :=
  isWord_of_visible (Base64.encode_ne_nil hblob) (visible_encode blob)

/-- What is left of the comment is a word where the comment has no blanks. -/
theorem isWord_trimEnd (hblank : HasNoBlank form.comment)
    (hne : trimEnd whitespace form.comment ≠ []) : IsWord (trimEnd whitespace form.comment) where
  ne_nil := hne
  no_blank octet hoctet := hblank octet (mem_of_mem_trimEnd hoctet)
  valid := utf8Valid_trimEnd form.isComment.valid

theorem trimEnd_of_visible {text : Text} (hne : text ≠ [])
    (h : ∀ octet ∈ text, IsVisible octet) (front : Bytes) :
    trimEnd whitespace (front ++ text) = front ++ text := by
  obtain ⟨init, last, rfl⟩ : ∃ init last, text = init ++ [last] :=
    ⟨text.dropLast, text.getLast hne, (List.dropLast_append_getLast hne).symm⟩
  rw [← List.append_assoc]
  exact trimEnd_visible (h last (by simp)) (front ++ init)

theorem trimEnd_front (hblob : form.blob ≠ []) : trimEnd whitespace form.front = form.front := by
  unfold front
  rw [← List.append_assoc]
  exact trimEnd_of_visible (Base64.encode_ne_nil hblob) (visible_encode form.blob) _

theorem trimEnd_line : trimEnd whitespace form.line =
    if trimEnd whitespace form.comment = [] then trimEnd whitespace form.front
    else form.front ++ (form.blanks₂ ++ trimEnd whitespace form.comment) := by
  unfold line
  rw [← List.append_assoc, trimEnd_append_text _ form.isComment.valid,
    trimEnd_append_blanks form.isBlanks₂, List.append_assoc]

theorem blanks₂_ne_nil_of_trimEnd (h : trimEnd whitespace form.comment ≠ []) :
    form.blanks₂ ≠ [] := by
  apply form.blanks₂_ne_nil
  rintro hcomment
  rw [hcomment] at h
  exact h rfl

/-- The comment that is read, if the comment of the line has no blanks. -/
def readComment : Option Text :=
  if trimEnd whitespace form.comment = [] then none else some (trimEnd whitespace form.comment)

/-- The fields of a line with a blob and with a comment without blanks. -/
theorem lineFields_line (hblob : form.blob ≠ []) (hblank : HasNoBlank form.comment) :
    Consumer.run' lineFields (trimEnd whitespace form.line) =
      .ok (form.type, Base64.encode form.blob, form.readComment) := by
  have hencode := isWord_encode hblob
  have hstart : ∀ tail, StartsBlank (form.blanks₁ ++ tail) :=
    startsBlank_append form.blanks₁_ne_nil form.isBlanks₁
  apply run'_eq_ok_iff.mpr
  unfold readComment
  rw [form.trimEnd_line, form.trimEnd_front hblob]
  unfold lineFields
  by_cases hcomment : trimEnd whitespace form.comment = []
  · refine ⟨[], ?_⟩
    rw [if_pos hcomment, if_pos hcomment]
    unfold front
    rw [bind_of_ok (methodField_word form.isWord_type (hstart _)),
      bind_of_ok (wordField_end hencode form.isBlanks₁), bind_of_ok commentField_nil]
    rfl
  · refine ⟨[], ?_⟩
    have hstart₂ := startsBlank_append (form.blanks₂_ne_nil_of_trimEnd hcomment) form.isBlanks₂
      (trimEnd whitespace form.comment)
    rw [if_neg hcomment, if_neg hcomment]
    unfold front
    rw [List.append_assoc, List.append_assoc,
      bind_of_ok (methodField_word form.isWord_type (hstart _)),
      bind_of_ok (wordField_word hencode form.isBlanks₁ hstart₂),
      bind_of_ok (commentField_end (form.isWord_trimEnd hblank hcomment) form.isBlanks₂)]
    rfl

/-! ### What is read -/

/-- The key of a line is that of its fields. -/
theorem eq_of_lineKey {type : Text} {blob : Bytes} {comment : Option Text} {key : Public}
    (h : lineKey type blob comment = .ok key) :
    key.type = type ∧ key.content = blob ∧ key.comment = comment := by
  unfold lineKey at h
  split_ifs at h
  · obtain ⟨certified, -, h⟩ := Except.bind_eq_ok_iff.mp h
    cases h
    exact ⟨rfl, rfl, rfl⟩
  · cases h
    exact ⟨rfl, rfl, rfl⟩

/-- A certificate's blob has to be one. -/
theorem exists_lineKey_iff (type : Text) (blob : Bytes) (comment : Option Text) :
    (∃ key, lineKey type blob comment = .ok key) ↔
      (certSuffix <:+ type → ∃ certified, certificate type blob = .ok certified) := by
  unfold lineKey
  by_cases hcert : certSuffix <:+ type
  · rw [if_pos hcert]
    constructor
    · rintro ⟨key, hkey⟩ -
      obtain ⟨certified, hcertified, -⟩ := Except.bind_eq_ok_iff.mp hkey
      exact ⟨certified, hcertified⟩
    · intro hcertified
      obtain ⟨certified, hcertified⟩ := hcertified hcert
      exact ⟨_, Except.bind_eq_ok_iff.mpr ⟨certified, hcertified, rfl⟩⟩
  · rw [if_neg hcert]
    exact ⟨fun _ h => absurd h hcert, fun _ => ⟨_, rfl⟩⟩

theorem getD_readComment : form.readComment.getD [] = trimEnd whitespace form.comment := by
  unfold readComment
  split_ifs with hcomment
  · exact hcomment.symm
  · rfl

/-- A line without a blob is never read: its comment is taken for the blob. -/
theorem not_readsAs_of_nil (decodeBlock : Text → Option Bytes) (hblob : form.blob = [])
    (hblank : HasNoBlank form.comment) :
    ¬ ReadsAs decodeBlock form.file form.type form.blob form.comment := by
  rintro ⟨key, hkey, -, -, hcomment⟩
  rw [form.parsePublicKeyFile_file, form.trimEnd_line] at hkey
  obtain ⟨⟨method, content, comment⟩, hfields, hkey⟩ := Except.bind_eq_ok_iff.mp hkey
  obtain ⟨rest, hfields⟩ := run'_eq_ok_iff.mp hfields
  have hfront : form.front = form.type ++ form.blanks₁ := by
    unfold front
    rw [hblob, Base64.encode, List.append_nil]
  rw [hfront] at hfields
  by_cases hleft : trimEnd whitespace form.comment = []
  · -- nothing is left but the type
    rw [if_pos hleft, trimEnd_append_blanks form.isBlanks₁] at hfields
    have htype := trimEnd_of_visible form.isKeyName.ne_nil form.isKeyName.visible []
    rw [List.nil_append] at htype
    obtain ⟨error, rest', hmethod⟩ := methodField_end form.isWord_type
    unfold lineFields at hfields
    rw [htype, bind_of_error hmethod] at hfields
    cases hfields
  · -- what is left of the comment stands where the blob is expected
    have hblanks : IsBlanks (form.blanks₁ ++ form.blanks₂) := fun octet hoctet =>
      (List.mem_append.mp hoctet).elim (form.isBlanks₁ octet) (form.isBlanks₂ octet)
    have hstart := startsBlank_append form.blanks₁_ne_nil form.isBlanks₁
      (form.blanks₂ ++ trimEnd whitespace form.comment)
    have hword := wordField_end (form.isWord_trimEnd hblank hleft) hblanks
    rw [List.append_assoc] at hword
    unfold lineFields at hfields
    rw [if_neg hleft, List.append_assoc, bind_of_ok (methodField_word form.isWord_type hstart),
      bind_of_ok hword, bind_of_ok commentField_nil] at hfields
    cases hfields
    obtain ⟨blob, -, hkey⟩ := Except.bind_eq_ok_iff.mp hkey
    rw [(eq_of_lineKey hkey).2.2] at hcomment
    rw [← hcomment] at hleft
    exact hleft rfl

/-- When a line is read as what it says. -/
structure IsRead : Prop where
  blob : form.blob ≠ []
  noBlank : HasNoBlank form.comment
  trimmed : trimEnd whitespace form.comment = form.comment
  certificate : certSuffix <:+ form.type →
    ∃ certified, certificate form.type form.blob = .ok certified

theorem readsAs_iff {decodeBlock : Text → Option Bytes} (hdecode : DecodesBlocks decodeBlock) :
    ReadsAs decodeBlock form.file form.type form.blob form.comment ↔ form.IsRead := by
  have hdecoded : decoded decodeBlock (Base64.encode form.blob) = .ok form.blob := by
    unfold decoded
    rw [hdecode.inverts]
  constructor
  · intro hreads
    have hreads' := hreads
    obtain ⟨key, hkey, -, -, hcomment⟩ := hreads'
    rw [form.parsePublicKeyFile_file] at hkey
    obtain ⟨⟨method, content, comment⟩, hfields, hkey⟩ := Except.bind_eq_ok_iff.mp hkey
    obtain ⟨blob, hblob', hkey⟩ := Except.bind_eq_ok_iff.mp hkey
    have hblank : HasNoBlank form.comment := by
      rw [← hcomment, (eq_of_lineKey hkey).2.2]
      exact hasNoBlank_lineFields hfields
    have hblob : form.blob ≠ [] := fun hnil =>
      form.not_readsAs_of_nil decodeBlock hnil hblank hreads
    rw [form.lineFields_line hblob hblank] at hfields
    cases hfields
    rw [hdecoded] at hblob'
    cases hblob'
    rw [(eq_of_lineKey hkey).2.2, form.getD_readComment] at hcomment
    exact ⟨hblob, hblank, hcomment, (exists_lineKey_iff _ _ _).mp ⟨key, hkey⟩⟩
  · rintro ⟨hblob, hblank, htrimmed, hcert⟩
    obtain ⟨key, hkey⟩ := (exists_lineKey_iff form.type form.blob form.readComment).mpr hcert
    obtain ⟨htype, hcontent, hcomment⟩ := eq_of_lineKey hkey
    refine ⟨key, ?_, htype, hcontent, ?_⟩
    · rw [form.parsePublicKeyFile_file]
      exact Except.bind_eq_ok_iff.mpr ⟨_, form.lineFields_line hblob hblank,
        Except.bind_eq_ok_iff.mpr ⟨_, hdecoded, hkey⟩⟩
    · rw [hcomment, form.getD_readComment, htrimmed]

end OneLineForm

/-! ## The block of RFC 4716 -/

/-- A header that is no comment: `tag: value`. -/
structure Ssh2Header where
  tag : Text
  value : Text
  isKeyName : IsKeyName tag
  no_colon : 0x3A ∉ tag
  ne_comment : tag ≠ ascii "Comment"
  isComment : IsComment value

def Ssh2Header.line (header : Ssh2Header) : Text :=
  header.tag ++ 0x3A :: 0x20 :: header.value

/-- The header of a comment, quoted or not. -/
structure CommentHeader where
  text : Text
  quoted : Bool
  isComment : IsComment text

def CommentHeader.value (header : CommentHeader) : Text :=
  if header.quoted then quote :: (header.text ++ [quote]) else header.text

def CommentHeader.line (header : CommentHeader) : Text :=
  ascii "Comment:" ++ 0x20 :: header.value

/-- A key in a block: headers, one of them a comment or none, and the lines of Base64. -/
structure Ssh2Form where
  type : Text
  blob : Bytes
  before : List Ssh2Header
  comment : Option CommentHeader
  after : List Ssh2Header
  lines : List Text
  ending : LineEnding
  /-- The footer has an ending, too. -/
  finalEnding : Bool
  isKeyName : IsKeyName type
  lines_ne_nil : ∀ line ∈ lines, line ≠ []
  length_lines : ∀ line ∈ lines, line.length ≤ 72
  flatten_lines : lines.flatten = Base64.encode blob

namespace Ssh2Form

/-- Lines, each with an ending behind it. -/
def joined (ending : Bytes) (lines : List Text) : Bytes :=
  lines.flatMap (· ++ ending)

variable (form : Ssh2Form)

/-- The lines between header and footer. -/
def body : List Text :=
  form.before.map Ssh2Header.line ++ ((form.comment.map CommentHeader.line).toList ++
    (form.after.map Ssh2Header.line ++ form.lines))

def file : Bytes :=
  ssh2PublicKeyHeader ++ (form.ending.octets ++ (joined form.ending.octets form.body ++
    (ssh2PublicKeyFooter ++ if form.finalEnding then form.ending.octets else [])))

/-- The comment of the block, empty if it has none. -/
def commentText : Text :=
  (form.comment.map CommentHeader.text).getD []

/-! ### Lines of a block -/

/-- What the lines between header and footer have in common. -/
structure IsBlockLine (line : Text) : Prop where
  visible_head : ∃ first rest, line = first :: rest ∧ IsVisible first
  valid : utf8Valid line = true
  unbroken : IsUnbroken line

theorem isBlockLine_of_visible {line : Text} (hne : line ≠ [])
    (h : ∀ octet ∈ line, IsVisible octet) : IsBlockLine line where
  visible_head := by
    obtain ⟨first, rest, rfl⟩ := List.exists_cons_of_ne_nil hne
    exact ⟨first, rest, rfl, h first List.mem_cons_self⟩
  valid := utf8Valid_of_forall_lt fun octet hoctet => (h octet hoctet).lt
  unbroken := isUnbroken_of_visible h

/-- A visible name, then any text. -/
theorem isBlockLine_append {name text : Text} (hname : IsBlockLine name)
    (hvalid : utf8Valid text = true) (hunbroken : IsUnbroken text) :
    IsBlockLine (name ++ text) where
  visible_head := by
    obtain ⟨first, rest, rfl, hfirst⟩ := hname.visible_head
    exact ⟨first, rest ++ text, rfl, hfirst⟩
  valid := utf8Valid_append hname.valid hvalid
  unbroken := isUnbroken_append hname.unbroken hunbroken

theorem isUnbroken_cons {octet : UInt8} {text : Text} (hnewline : octet ≠ newline)
    (hreturn : octet ≠ carriageReturn) (h : IsUnbroken text) : IsUnbroken (octet :: text) where
  no_newline hmem := (List.mem_cons.mp hmem).elim (fun heq => hnewline heq.symm) h.no_newline
  no_carriageReturn hmem :=
    (List.mem_cons.mp hmem).elim (fun heq => hreturn heq.symm) h.no_carriageReturn

theorem utf8Valid_cons {octet : UInt8} {text : Text} (hoctet : octet < 0x80)
    (h : utf8Valid text = true) : utf8Valid (octet :: text) = true := by
  unfold utf8Valid
  rw [if_pos hoctet, h]

theorem isBlockLine_header (header : Ssh2Header) : IsBlockLine header.line := by
  apply isBlockLine_append
    (isBlockLine_of_visible header.isKeyName.ne_nil header.isKeyName.visible)
  · exact utf8Valid_cons (by decide) (utf8Valid_cons (by decide) header.isComment.valid)
  · exact isUnbroken_cons (by decide) (by decide)
      (isUnbroken_cons (by decide) (by decide) header.isComment.unbroken)

theorem isComment_value (header : CommentHeader) : IsComment header.value := by
  unfold CommentHeader.value
  split_ifs
  · refine ⟨utf8Valid_cons (by decide) (utf8Valid_append header.isComment.valid rfl),
      isUnbroken_cons (by decide) (by decide) (isUnbroken_append header.isComment.unbroken ?_)⟩
    exact ⟨by decide, by decide⟩
  · exact header.isComment

theorem isBlockLine_comment (header : CommentHeader) : IsBlockLine header.line := by
  apply isBlockLine_append
  · exact isBlockLine_of_visible (by decide) (visible_of_all (by decide))
  · exact utf8Valid_cons (by decide) (isComment_value header).valid
  · exact isUnbroken_cons (by decide) (by decide) (isComment_value header).unbroken

theorem isChar_of_mem_lines {line : Text} (hline : line ∈ form.lines) {octet : UInt8}
    (hoctet : octet ∈ line) : Base64.IsChar octet := by
  apply Base64.isChar_of_mem_encode 
  rw [← form.flatten_lines]
  exact List.mem_flatten.mpr ⟨line, hline, hoctet⟩

theorem isBlockLine_of_mem {line : Text} (hline : line ∈ form.body) : IsBlockLine line := by
  unfold body at hline
  rcases List.mem_append.mp hline with hline | hline
  · obtain ⟨header, -, rfl⟩ := List.mem_map.mp hline
    exact isBlockLine_header header
  rcases List.mem_append.mp hline with hline | hline
  · obtain ⟨header, -, rfl⟩ := Option.map_eq_some_iff.mp (Option.mem_toList.mp hline)
    exact isBlockLine_comment header
  rcases List.mem_append.mp hline with hline | hline
  · obtain ⟨header, -, rfl⟩ := List.mem_map.mp hline
    exact isBlockLine_header header
  · exact isBlockLine_of_visible (form.lines_ne_nil line hline) fun octet hoctet =>
      isVisible_of_isChar (form.isChar_of_mem_lines hline hoctet)

/-! ### The text of the block -/

theorem visible_header : ∃ rest, ssh2PublicKeyHeader = 0x2D :: rest :=
  ⟨ssh2PublicKeyHeader.tail, by decide⟩

theorem visible_footer : ∃ front, ssh2PublicKeyFooter = front ++ [0x2D] :=
  ⟨ssh2PublicKeyFooter.dropLast, by decide⟩

theorem isVisible_dash : IsVisible 0x2D := by
  constructor <;> decide

theorem utf8Valid_ascii {text : Text} (h : (text.all fun octet => decide (octet < 0x80)) = true) :
    utf8Valid text = true :=
  utf8Valid_of_forall_lt fun octet hoctet => of_decide_eq_true (List.all_eq_true.mp h octet hoctet)

theorem utf8Valid_ending (ending : LineEnding) : utf8Valid ending.octets = true := by
  cases ending <;> rfl

theorem utf8Valid_joined {ending : Bytes} (hending : utf8Valid ending = true) {lines : List Text}
    (h : ∀ line ∈ lines, IsBlockLine line) : utf8Valid (joined ending lines) = true := by
  induction lines with
  | nil => rfl
  | cons line lines ih =>
    unfold joined
    rw [List.flatMap_cons]
    exact utf8Valid_append (utf8Valid_append (h line List.mem_cons_self).valid hending)
      (ih fun line' hline' => h line' (List.mem_cons_of_mem line hline'))

theorem utf8Valid_file : utf8Valid form.file = true := by
  have hending := utf8Valid_ending form.ending
  unfold file
  apply utf8Valid_append (utf8Valid_ascii (by decide))
  apply utf8Valid_append hending
  apply utf8Valid_append (utf8Valid_joined hending fun _ hline => form.isBlockLine_of_mem hline)
  apply utf8Valid_append (utf8Valid_ascii (by decide))
  split_ifs
  · exact hending
  · rfl

theorem normalized_joined (ending : LineEnding) {lines : List Text}
    (h : ∀ line ∈ lines, IsBlockLine line) {rest : Text} (hrest : rest.head? ≠ some newline) :
    normalized (joined ending.octets lines ++ rest) = joined [newline] lines ++ normalized rest ∧
      (joined ending.octets lines ++ rest).head? ≠ some newline := by
  induction lines with
  | nil => exact ⟨rfl, hrest⟩
  | cons line lines ih =>
    have hline := h line List.mem_cons_self
    obtain ⟨hlines, hhead⟩ := ih fun line' hline' => h line' (List.mem_cons_of_mem line hline')
    unfold joined at hlines hhead ⊢
    rw [List.flatMap_cons, List.flatMap_cons, List.append_assoc, List.append_assoc]
    constructor
    · rw [normalized_append hline.unbroken.no_carriageReturn, normalized_ending ending hhead,
        hlines]
      simp
    · obtain ⟨first, tail, rfl, hfirst⟩ := hline.visible_head
      intro heq
      exact hfirst.ne_newline (Option.some.inj heq)

/-- The text of the block: its lines between newlines. -/
def text : Text :=
  ssh2PublicKeyHeader ++ newline :: (joined [newline] form.body ++ ssh2PublicKeyFooter)

theorem normalized_file : normalized form.file = form.text ∨
    normalized form.file = form.text ++ [newline] := by
  have hheader : carriageReturn ∉ ssh2PublicKeyHeader := by decide
  have hfooter : carriageReturn ∉ ssh2PublicKeyFooter := by decide
  have hlines : ∀ line ∈ form.body, IsBlockLine line := fun _ hline =>
    form.isBlockLine_of_mem hline
  have hhead : ∀ final : Text, (ssh2PublicKeyFooter ++ final).head? ≠ some newline := by
    intro final
    rw [show ssh2PublicKeyFooter = 0x2D :: ssh2PublicKeyFooter.tail by decide]
    exact fun heq => isVisible_dash.ne_newline (Option.some.inj heq)
  unfold file text
  by_cases hfinal : form.finalEnding = true
  · right
    have hending := normalized_ending form.ending (by simp : ([] : Text).head? ≠ some newline)
    rw [List.append_nil] at hending
    obtain ⟨hjoined, hfirst⟩ := normalized_joined form.ending hlines (hhead form.ending.octets)
    rw [if_pos hfinal, normalized_append hheader, normalized_ending form.ending hfirst, hjoined,
      normalized_append hfooter, hending]
    simp [normalized, replaceCr, replaceCrLf]
  · left
    obtain ⟨hjoined, hfirst⟩ := normalized_joined form.ending hlines (hhead [])
    rw [if_neg hfinal, normalized_append hheader, normalized_ending form.ending hfirst, hjoined,
      List.append_nil, normalized_unbroken hfooter]

theorem trim_normalized_file : trim (normalized form.file) = form.text := by
  obtain ⟨rest, hheader⟩ := visible_header
  obtain ⟨front, hfooter⟩ := visible_footer
  have hbegins : form.text = 0x2D :: (rest ++ newline ::
      (joined [newline] form.body ++ ssh2PublicKeyFooter)) := by
    unfold text
    rw [hheader, List.cons_append]
  have hends : form.text = ssh2PublicKeyHeader ++
      newline :: (joined [newline] form.body ++ front) ++ [0x2D] := by
    unfold text
    rw [hfooter]
    simp
  rcases form.normalized_file with h | h
  · rw [h]
    exact trim_visible isVisible_dash isVisible_dash hbegins hends
  · rw [h]
    unfold trim
    rw [hbegins, List.cons_append, trimStart_visible isVisible_dash, ← List.cons_append,
      trimEnd_append_white (by decide), ← hbegins, hends]
    exact trimEnd_visible isVisible_dash _

/-! ### The lines of the text -/

theorem joined_eq_intercalate {lines : List Text} (hne : lines ≠ []) :
    joined [newline] lines = List.intercalate [newline] lines ++ [newline] := by
  induction lines with
  | nil => exact absurd rfl hne
  | cons line lines ih =>
    unfold joined at ih ⊢
    rcases lines with _ | ⟨next, lines⟩
    · simp [List.intercalate]
    · rw [List.flatMap_cons, ih (List.cons_ne_nil next lines), List.intercalate_cons_cons,
        List.append_assoc, List.append_assoc, List.append_assoc]

theorem intercalate_begins (line : Text) (lines : List Text) :
    ∃ rest, List.intercalate [newline] (line :: lines) = line ++ rest := by
  rcases lines with _ | ⟨next, lines⟩
  · exact ⟨[], by simp [List.intercalate]⟩
  · exact ⟨_, by rw [List.intercalate_cons_cons, List.append_assoc]⟩

theorem intercalate_ends (lines : List Text) (last : Text) :
    ∃ front, List.intercalate [newline] (lines ++ [last]) = front ++ last := by
  induction lines with
  | nil => exact ⟨[], by simp [List.intercalate]⟩
  | cons line lines ih =>
    obtain ⟨front, hfront⟩ := ih
    obtain ⟨next, rest, hrest⟩ := List.exists_cons_of_ne_nil
      (List.append_ne_nil_of_right_ne_nil lines (List.cons_ne_nil last []))
    refine ⟨line ++ [newline] ++ front, ?_⟩
    rw [List.cons_append, hrest, List.intercalate_cons_cons, ← hrest, hfront]
    simp only [List.append_assoc]

theorem stripPrefix_append (front text : Text) : stripPrefix front (front ++ text) = some text := by
  unfold stripPrefix
  rw [if_pos (List.prefix_append front text), List.drop_left]

theorem stripSuffix_append (text back : Text) : stripSuffix back (text ++ back) = some text := by
  unfold stripSuffix
  rw [if_pos (List.suffix_append text back), List.length_append, Nat.add_sub_cancel,
    List.take_left]

/-- Where there is Base64, the text between header and footer splits into its lines. -/
theorem splitOn_trim_body (hlines : form.lines ≠ []) :
    (trim (newline :: joined [newline] form.body)).splitOn newline = form.body := by
  obtain ⟨init, last, hlast⟩ : ∃ init last, form.lines = init ++ [last] :=
    ⟨form.lines.dropLast, form.lines.getLast hlines, (List.dropLast_append_getLast hlines).symm⟩
  obtain ⟨front, octet, hoctet⟩ : ∃ front octet, last = front ++ [octet] := by
    have hne := form.lines_ne_nil last (by rw [hlast]; simp)
    exact ⟨last.dropLast, last.getLast hne, (List.dropLast_append_getLast hne).symm⟩
  have hvisible : IsVisible octet := by
    have hmem : last ∈ form.lines := by
      rw [hlast]
      simp
    refine isVisible_of_isChar (form.isChar_of_mem_lines hmem ?_)
    rw [hoctet]
    simp
  obtain ⟨lines, hbody⟩ : ∃ lines, form.body = lines ++ [last] := by
    unfold body
    rw [hlast]
    exact ⟨form.before.map Ssh2Header.line ++ ((form.comment.map CommentHeader.line).toList ++
      (form.after.map Ssh2Header.line ++ init)), by simp only [List.append_assoc]⟩
  have hne : form.body ≠ [] := by
    rw [hbody]
    simp
  obtain ⟨line, more, hcons⟩ := List.exists_cons_of_ne_nil hne
  have hline : line ∈ form.body := by
    rw [hcons]
    simp
  obtain ⟨first, rest, hfirst, hvisible'⟩ := (form.isBlockLine_of_mem hline).visible_head
  obtain ⟨text, htext⟩ := intercalate_begins line more
  obtain ⟨text', htext'⟩ := intercalate_ends lines last
  have hbegins : List.intercalate [newline] form.body = first :: (rest ++ text) := by
    rw [hcons, htext, hfirst, List.cons_append]
  have hends : List.intercalate [newline] form.body = text' ++ front ++ [octet] := by
    rw [hbody, htext', hoctet, List.append_assoc]
  have htrim : trim (newline :: joined [newline] form.body) =
      List.intercalate [newline] form.body := by
    unfold trim
    rw [trimStart_cons_white (by decide), joined_eq_intercalate hne, hbegins, List.cons_append,
      trimStart_visible hvisible', ← List.cons_append, trimEnd_append_white (by decide), ← hbegins,
      hends]
    exact trimEnd_visible hvisible _
  rw [htrim]
  exact List.splitOn_intercalate newline
    (fun line hline => (form.isBlockLine_of_mem hline).unbroken.no_newline) hne

/-- A block is recognized by its two lines, the first of which is the comment. -/
theorem ssh2Block_text_iff (hlines : form.lines ≠ []) {comment line : Text} :
    ssh2Block form.text = some (comment, line) ↔
      ∃ first value, form.body = [first, line] ∧
        stripPrefix (ascii "Comment:") first = some value ∧ ssh2Comment value = comment := by
  have hfront : stripPrefix ssh2PublicKeyHeader form.text =
      some (newline :: joined [newline] form.body ++ ssh2PublicKeyFooter) := by
    unfold text
    rw [stripPrefix_append, List.cons_append]
  have hbody := stripSuffix_append (newline :: joined [newline] form.body) ssh2PublicKeyFooter
  rw [ssh2Block_eq_some_iff]
  constructor
  · rintro ⟨front, body, first, value, hfront', hbody', hsplit, hvalue, hcomment⟩
    rw [hfront] at hfront'
    cases hfront'
    rw [hbody] at hbody'
    cases hbody'
    rw [form.splitOn_trim_body hlines] at hsplit
    exact ⟨first, value, hsplit, hvalue, hcomment⟩
  · rintro ⟨first, value, hsplit, hvalue, hcomment⟩
    refine ⟨_, _, first, value, hfront, hbody, ?_, hvalue, hcomment⟩
    rw [form.splitOn_trim_body hlines, hsplit]

/-! ### Blocks taken for lines -/

/-- Taken for a line, a block has `BEGIN` for its blob. -/
theorem lineFields_text {method content : Text} {comment : Option Text}
    (h : Consumer.run' lineFields form.text = .ok (method, content, comment)) :
    content = ascii "BEGIN" := by
  have hheader : ssh2PublicKeyHeader =
      ascii "----" ++ ([0x20] ++ (ascii "BEGIN" ++ ascii " SSH2 PUBLIC KEY ----")) := by decide
  have hdashes : IsWord (ascii "----") := isWord_of_visible (by decide) (visible_of_all (by decide))
  have hbegin : IsWord (ascii "BEGIN") := isWord_of_visible (by decide) (visible_of_all (by decide))
  have hblank : IsBlanks [0x20] := by
    intro octet hoctet
    rw [List.mem_singleton.mp hoctet]
    rfl
  have hafter : ∀ tail, StartsBlank (ascii " SSH2 PUBLIC KEY ----" ++ tail) := fun tail =>
    ⟨0x20, (ascii "SSH2 PUBLIC KEY ----") ++ tail, by
      rw [show ascii " SSH2 PUBLIC KEY ----" = 0x20 :: ascii "SSH2 PUBLIC KEY ----" by decide,
        List.cons_append], rfl⟩
  obtain ⟨rest, h⟩ := run'_eq_ok_iff.mp h
  unfold text at h
  unfold lineFields at h
  rw [hheader, List.append_assoc, List.append_assoc, List.append_assoc,
    bind_of_ok (methodField_word hdashes (startsBlank_append (by simp) hblank _)),
    bind_of_ok (wordField_word hbegin hblank (hafter _))] at h
  obtain ⟨comment', rest', -, h⟩ := bind_eq_ok_iff.mp h
  cases h
  rfl

theorem decodeBlock_begin {decodeBlock : Text → Option Bytes}
    (hdecode : DecodesBlocks decodeBlock) : decodeBlock (ascii "BEGIN") = none := by
  apply hdecode.rejects
  · have hall : ((ascii "BEGIN").all fun letter => (Base64.sextet letter).isSome) = true := by
      decide
    exact fun letter hletter => List.all_eq_true.mp hall letter hletter
  · decide

/-- A block is read by its two lines, and not at all if it is not recognized. -/
theorem parsePublicKeyFile_file_iff {decodeBlock : Text → Option Bytes}
    (hdecode : DecodesBlocks decodeBlock) {key : Public} :
    parsePublicKeyFile decodeBlock form.file = .ok key ↔
      ∃ comment line content type, ssh2Block form.text = some (comment, line) ∧
        decodeBlock line = some content ∧ Consumer.run' (consumeText keyText) content = .ok type ∧
        key = .normal type content (some comment) := by
  rw [parsePublicKeyFile_of_utf8Valid decodeBlock form.utf8Valid_file, form.trim_normalized_file]
  have hdecoded : ∀ line content, decoded decodeBlock line = .ok content ↔
      decodeBlock line = some content := by
    intro line content
    unfold decoded
    cases decodeBlock line <;> simp
  cases hblock : ssh2Block form.text with
  | none =>
    constructor
    · intro h
      obtain ⟨⟨method, content, comment⟩, hfields, h⟩ := Except.bind_eq_ok_iff.mp h
      obtain ⟨blob, hblob, -⟩ := Except.bind_eq_ok_iff.mp h
      rw [hdecoded, form.lineFields_text hfields, decodeBlock_begin hdecode] at hblob
      cases hblob
    · rintro ⟨comment, line, content, type, h, -⟩
      cases h
  | some found =>
    obtain ⟨comment, line⟩ := found
    constructor
    · intro h
      obtain ⟨content, hcontent, h⟩ := Except.bind_eq_ok_iff.mp h
      obtain ⟨type, htype, h⟩ := Except.bind_eq_ok_iff.mp h
      cases h
      exact ⟨comment, line, content, type, rfl, (hdecoded line content).mp hcontent, htype, rfl⟩
    · rintro ⟨comment', line', content, type, h, hcontent, htype, rfl⟩
      cases h
      exact Except.bind_eq_ok_iff.mpr ⟨content, (hdecoded line content).mpr hcontent,
        Except.bind_eq_ok_iff.mpr ⟨type, htype, rfl⟩⟩

/-! ### The comment -/

theorem length_trim_le (text : Text) : (trim text).length ≤ text.length := by
  obtain ⟨ps, -, hstart⟩ := exists_trimStart whitespace_isCode text
  obtain ⟨qs, -, hend⟩ := exists_trimEnd whitespace_reverse_isCode (trimStart whitespace text)
  have hstart := congrArg List.length hstart
  have hend := congrArg List.length hend
  rw [List.length_append] at hstart hend
  unfold trim
  omega

theorem ssh2Comment_space (value : Text) : ssh2Comment (0x20 :: value) = ssh2Comment value := by
  unfold ssh2Comment trim
  rw [trimStart_cons_white (by decide)]

/-- A comment in quotes is what stands between them. -/
theorem ssh2Comment_quoted (text : Text) : ssh2Comment (quote :: (text ++ [quote])) = text := by
  have hquote : IsVisible quote := by constructor <;> decide
  have hends : quote :: (text ++ [quote]) = (quote :: text) ++ [quote] := rfl
  have htrim := trim_visible hquote hquote rfl hends
  have hquoted : IsQuoted (quote :: (text ++ [quote])) := by
    refine ⟨?_, ⟨text ++ [quote], rfl⟩, ⟨quote :: text, rfl⟩⟩
    rw [List.length_cons, List.length_append]
    simp
  unfold ssh2Comment
  rw [htrim, if_pos hquoted, List.drop_one, List.tail_cons, List.length_cons, List.length_append]
  exact List.take_left

/-- A comment without quotes is itself if there is nothing to trim, and no quotes at its ends. -/
theorem ssh2Comment_eq_self_iff (text : Text) :
    ssh2Comment text = text ↔ trim text = text ∧ ¬ IsQuoted text := by
  unfold ssh2Comment
  constructor
  · intro h
    by_cases hquoted : IsQuoted (trim text)
    · rw [if_pos hquoted] at h
      have hlength := congrArg List.length h
      have hle := length_trim_le text
      have htwo := hquoted.1
      rw [List.length_take, List.length_drop] at hlength
      omega
    · rw [if_neg hquoted] at h
      rw [h] at hquoted
      exact ⟨h, hquoted⟩
  · rintro ⟨htrim, hquoted⟩
    rw [htrim, if_neg hquoted]

/-- When the comment of a header is read as what it says. -/
def IsReadComment (header : CommentHeader) : Prop :=
  header.quoted = false → trim header.text = header.text ∧ ¬ IsQuoted header.text

theorem ssh2Comment_value_iff (header : CommentHeader) :
    ssh2Comment (0x20 :: header.value) = header.text ↔ IsReadComment header := by
  rw [ssh2Comment_space]
  unfold CommentHeader.value IsReadComment
  cases header.quoted with
  | false =>
    rw [if_neg Bool.false_ne_true, ssh2Comment_eq_self_iff]
    exact ⟨fun h _ => h, fun h => h rfl⟩
  | true =>
    rw [if_pos rfl]
    exact ⟨fun _ h => absurd h (by decide), fun _ => ssh2Comment_quoted header.text⟩

/-! ### What is read -/

/-- When a block is read as what it says. -/
structure IsRead : Prop where
  before : form.before = []
  after : form.after = []
  oneLine : form.lines.length = 1
  comment : ∃ header, form.comment = some header ∧ IsReadComment header
  type : ∃ rest, consumeOne form.blob = .ok form.type rest

/-- No other header passes for a comment. -/
theorem stripPrefix_header (header : Ssh2Header) :
    stripPrefix (ascii "Comment:") header.line = none := by
  unfold stripPrefix
  rw [if_neg]
  rintro ⟨rest, hrest⟩
  have hsplit : ascii "Comment:" = ascii "Comment" ++ [0x3A] := by decide
  have hcolon : (0x3A : UInt8) ∉ ascii "Comment" := by decide
  rw [hsplit, List.append_assoc, List.singleton_append] at hrest
  unfold Ssh2Header.line at hrest
  -- the two lines agree up to the first colon
  have htag : ∀ {tag : Text} (rest : Text), (0x3A : UInt8) ∉ tag →
      (tag ++ 0x3A :: rest).takeWhile (· != 0x3A) = tag := by
    intro tag rest htag
    rw [List.takeWhile_append_of_pos, List.takeWhile_cons_of_neg, List.append_nil]
    · simp
    · intro octet hoctet
      rw [bne_iff_ne]
      rintro rfl
      exact htag hoctet
  have hfront := congrArg (List.takeWhile (· != 0x3A)) hrest
  rw [htag _ hcolon, htag _ header.no_colon] at hfront
  exact header.ne_comment hfront.symm

theorem stripPrefix_line {line : Text} (hline : line ∈ form.lines) :
    stripPrefix (ascii "Comment:") line = none := by
  unfold stripPrefix
  rw [if_neg]
  intro hbegins
  have hcolon : (0x3A : UInt8) ∈ line := hbegins.subset (by decide)
  exact (form.isChar_of_mem_lines hline hcolon).ne_colon rfl

/-- With two lines, one of them Base64, a block whose first line passes for a comment has a comment
for its only header. -/
theorem body_eq_iff (hlines : form.lines ≠ []) {first line value : Text} :
    form.body = [first, line] ∧ stripPrefix (ascii "Comment:") first = some value ↔
      form.before = [] ∧ form.after = [] ∧ form.lines = [line] ∧
        ∃ header, form.comment = some header ∧ first = header.line ∧
          value = 0x20 :: header.value := by
  constructor
  · rintro ⟨hbody, hvalue⟩
    obtain ⟨octets, more, hcons⟩ := List.exists_cons_of_ne_nil hlines
    have hother : ∀ header : Ssh2Header, first ≠ header.line := by
      rintro header rfl
      rw [stripPrefix_header] at hvalue
      cases hvalue
    have hbase64 : first ∉ form.lines := by
      intro hmem
      rw [form.stripPrefix_line hmem] at hvalue
      cases hvalue
    have hlength := congrArg List.length hbody
    unfold body at hbody hlength
    rcases hbefore : form.before with _ | ⟨header, before⟩
    · rcases hcomment : form.comment with _ | header
      · rcases hafter : form.after with _ | ⟨header, after⟩
        · -- two lines of Base64
          rw [hbefore, hcomment, hafter] at hbody
          refine absurd ?_ hbase64
          change form.lines = [first, line] at hbody
          rw [hbody]
          exact List.mem_cons_self
        · rw [hbefore, hcomment, hafter] at hbody
          exact absurd (List.cons.inj hbody).1.symm (hother header)
      · rw [hbefore, hcomment] at hbody
        obtain ⟨hfirst, hrest⟩ := List.cons.inj hbody
        rcases hafter : form.after with _ | ⟨header', after⟩
        · rw [hafter] at hrest
          refine ⟨rfl, rfl, hrest, header, rfl, hfirst.symm, ?_⟩
          rw [← hfirst] at hvalue
          unfold CommentHeader.line at hvalue
          rw [stripPrefix_append] at hvalue
          exact (Option.some.inj hvalue).symm
        · rw [hafter, hcons] at hrest
          have hlength := congrArg List.length hrest
          simp at hlength
    · rw [hbefore] at hbody
      exact absurd (List.cons.inj hbody).1.symm (hother header)
  · rintro ⟨hbefore, hafter, hlines, header, hcomment, rfl, rfl⟩
    unfold body
    rw [hbefore, hafter, hlines, hcomment]
    exact ⟨rfl, stripPrefix_append _ _⟩

theorem run'_consumeText_iff {error : Error} {octets : Bytes} {text : Text} :
    Consumer.run' (consumeText error) octets = .ok text ↔
      utf8Valid text = true ∧ ∃ rest, consumeOne octets = .ok text rest := by
  rw [run'_eq_ok_iff]
  unfold consumeText
  constructor
  · rintro ⟨rest, h⟩
    obtain ⟨content, rest', hone, h⟩ := bind_eq_ok_iff.mp h
    split_ifs at h with hvalid
    · cases h
      exact ⟨hvalid, rest, hone⟩
    · cases h
  · rintro ⟨hvalid, rest, hone⟩
    refine ⟨rest, ?_⟩
    rw [bind_of_ok hone, if_pos hvalid]
    rfl

theorem blob_ne_nil_of_lines (hblob : form.blob ≠ []) : form.lines ≠ [] := by
  intro hnil
  have hflatten := form.flatten_lines
  rw [hnil] at hflatten
  exact Base64.encode_ne_nil hblob hflatten.symm

theorem readsAs_iff {decodeBlock : Text → Option Bytes} (hdecode : DecodesBlocks decodeBlock) :
    ReadsAs decodeBlock form.file form.type form.blob form.commentText ↔ form.IsRead := by
  constructor
  · rintro ⟨key, hkey, htype, hcontent, hcomment⟩
    obtain ⟨comment, line, content, type, hblock, hdecoded, hrun, rfl⟩ :=
      (form.parsePublicKeyFile_file_iff hdecode).mp hkey
    obtain rfl : type = form.type := htype
    obtain rfl : content = form.blob := hcontent
    obtain ⟨-, rest, hone⟩ := run'_consumeText_iff.mp hrun
    have hblob : form.blob ≠ [] := by
      intro hnil
      rw [hnil] at hone
      cases hone
    have hlines := form.blob_ne_nil_of_lines hblob
    obtain ⟨first, value, hbody, hvalue, hread⟩ := (form.ssh2Block_text_iff hlines).mp hblock
    obtain ⟨hbefore, hafter, honeLine, header, hheader, -, rfl⟩ :=
      (form.body_eq_iff hlines).mp ⟨hbody, hvalue⟩
    refine ⟨hbefore, hafter, by rw [honeLine]; rfl, ⟨header, hheader, ?_⟩, rest, hone⟩
    rw [← ssh2Comment_value_iff, hread]
    unfold commentText at hcomment
    rw [hheader] at hcomment
    exact hcomment
  · rintro ⟨hbefore, hafter, honeLine, ⟨header, hheader, hcomment⟩, rest, hone⟩
    obtain ⟨line, hline⟩ := List.length_eq_one_iff.mp honeLine
    have hencode : line = Base64.encode form.blob := by
      rw [← form.flatten_lines, hline]
      simp
    have hlines : form.lines ≠ [] := by
      rw [hline]
      exact List.cons_ne_nil line []
    obtain ⟨hbody, hvalue⟩ := (form.body_eq_iff hlines).mpr
      ⟨hbefore, hafter, hline, header, hheader, rfl, rfl⟩
    have hblock := (form.ssh2Block_text_iff hlines).mpr
      ⟨header.line, _, hbody, hvalue, (ssh2Comment_value_iff header).mpr hcomment⟩
    have hvalid : utf8Valid form.type = true :=
      (isWord_of_visible form.isKeyName.ne_nil form.isKeyName.visible).valid
    refine ⟨_, (form.parsePublicKeyFile_file_iff hdecode).mpr ⟨header.text, line, form.blob,
      form.type, hblock, ?_, run'_consumeText_iff.mpr ⟨hvalid, rest, hone⟩, rfl⟩, rfl, rfl, ?_⟩
    · rw [hencode]
      exact hdecode.inverts form.blob
    · unfold commentText
      rw [hheader]
      rfl

end Ssh2Form

/-! ## Both forms -/

/-- A public key file. -/
inductive PublicKeyForm where
  | oneLine (form : OneLineForm)
  | ssh2 (form : Ssh2Form)

namespace PublicKeyForm

/-- The file is read as its type, its blob and its comment. -/
def IsReadBack (decodeBlock : Text → Option Bytes) : PublicKeyForm → Prop
  | oneLine form => ReadsAs decodeBlock form.file form.type form.blob form.comment
  | ssh2 form => ReadsAs decodeBlock form.file form.type form.blob form.commentText

/-- The files that are: a line with a blob and with a comment of one word, and a block with one
header, the comment, and one line of Base64 whose blob names its type. -/
def IsRead : PublicKeyForm → Prop
  | oneLine form => form.IsRead
  | ssh2 form => form.IsRead

/-- A public key file is parsed to what it contains exactly when it is one of those. -/
theorem isReadBack_iff {decodeBlock : Text → Option Bytes} (hdecode : DecodesBlocks decodeBlock)
    (form : PublicKeyForm) : form.IsReadBack decodeBlock ↔ form.IsRead := by
  cases form with
  | oneLine form => exact form.readsAs_iff hdecode
  | ssh2 form => exact form.readsAs_iff hdecode

/-! ### A key and its comment -/

theorem decodesBlocks_decode : DecodesBlocks Base64.decode where
  inverts := Base64.decode_encode
  rejects _ := Base64.decode_eq_none

theorem isKeyName_ed25519 : IsKeyName (ascii "ssh-ed25519") where
  ne_nil := by decide
  visible := visible_of_all (by decide)

/-- `ssh-ed25519`, a key of 32 equal octets, and a comment. -/
def ed25519Line (comment : Text) (isComment : IsComment comment) : OneLineForm where
  type := ascii "ssh-ed25519"
  blob := Flatline.blob [ascii "ssh-ed25519", List.replicate 32 0x2A]
  comment
  blanks₁ := [0x20]
  blanks₂ := [0x20]
  ending := some .lf
  isKeyName := isKeyName_ed25519
  isComment
  blanks₁_ne_nil := by decide
  isBlanks₁ octet hoctet := by
    rw [List.mem_singleton.mp hoctet]
    rfl
  blanks₂_ne_nil _ := by decide
  isBlanks₂ octet hoctet := by
    rw [List.mem_singleton.mp hoctet]
    rfl

theorem isComment_ascii {text : Text}
    (hascii : (text.all fun octet => decide (octet < 0x80)) = true)
    (hnewline : newline ∉ text) (hreturn : carriageReturn ∉ text) : IsComment text where
  valid := Ssh2Form.utf8Valid_ascii hascii
  unbroken := ⟨hnewline, hreturn⟩

theorem isComment_john : IsComment (ascii "John Doe") :=
  isComment_ascii (by decide) (by decide) (by decide)

theorem isReadBack_iff_john :
    (oneLine (ed25519Line (ascii "John Doe") isComment_john)).IsReadBack Base64.decode ↔
      (oneLine (ed25519Line (ascii "John Doe") isComment_john)).IsRead :=
  isReadBack_iff decodesBlocks_decode (oneLine (ed25519Line (ascii "John Doe") isComment_john))

/-- A comment of two words is not read back. -/
theorem comment_john_cut :
    ¬ (oneLine (ed25519Line (ascii "John Doe") isComment_john)).IsReadBack Base64.decode := by
  intro h
  have hread := (OneLineForm.readsAs_iff _ decodesBlocks_decode).mp h
  have hblank := hread.noBlank 0x20 (by decide : (0x20 : UInt8) ∈ ascii "John Doe")
  exact absurd hblank (by decide)

end PublicKeyForm

end Flatline
