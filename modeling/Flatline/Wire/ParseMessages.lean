import Flatline.Wire.DataTypes
import Flatline.Wire.Message

/-!
# Messages read as they are written

`Message.fields` is the layout of each message in the RFCs (4252, 4253, 4254, 8308 and OpenSSH's
`PROTOCOL`). `Message::parse` reads the message back from its encodings, with three exceptions: a
TRUE other than 1 in `SSH_MSG_DEBUG`, which it takes for FALSE, an empty name-list, which it takes for
the list of one empty name, and an extension that comes twice, of which it keeps the last value. What
it accepts has every field of its layout, with one exception: it looks for no window and no packet
size in a channel of a type it does not know.

Source: `src/ssh/msg.rs`, `src/ssh/buffer.rs`.
-/

namespace Flatline

open Consumer Triple

namespace Message

/-! ## Layouts -/

/-- What a message can say that `Message` keeps nothing of. -/
structure Unread where
  /-- The agent channel goes by the name OpenSSH gives it. -/
  openSSHName : Bool
  initialWindowSize : UInt32
  maximumPacketSize : UInt32
  /-- The data that the type of a channel or of a request adds. -/
  specific : Bytes

/-- The channel types that have arms of their own. -/
def channelTypes : List Text :=
  [sshChannelTypeForwardedTcpIp, sshChannelTypeAgentConnect, sshChannelTypeAgentConnectOpenSSH,
    sshChannelTypeX11, sshChannelTypeForwardedStreamLocal]

/-- The channel requests that have arms of their own. -/
def requestTypes : List Text :=
  [ascii "xon-xoff", ascii "exit-status", ascii "exit-signal"]

/-- The global requests that have arms of their own. -/
def globalTypes : List Text :=
  [sshGlobalRequestTypeKeepAlive, sshGlobalRequestTypeHostKeys]

/-- The fields of a message behind its number. The entries of `extInfo` are newest first; a sender
may repeat a name. -/
def fields (unread : Unread) : Message → List WireValue
  | .debug alwaysDisplay message language =>
    [.boolean alwaysDisplay, .text message, .text language]
  | .extInfo extensions => [.pairs extensions.reverse]
  | .ignore data => [.string data]
  | .serviceAccept service => [.text service]
  | .disconnect reason description language =>
    [.uint32 reason, .text description, .text language]
  | .unimplemented sequenceNumber => [.uint32 sequenceNumber]
  | .authenticationSuccess => []
  | .authenticationFailure allowMethods partialSuccess =>
    [.nameList allowMethods, .boolean partialSuccess]
  | .authenticationBanner message language => [.text message, .text language]
  | .channelOpenConfirmation recipient sender window packet =>
    [.uint32 recipient, .uint32 sender, .uint32 window, .uint32 packet, .raw unread.specific]
  | .channelOpenFailure recipient reason description language =>
    [.uint32 recipient, .uint32 reason, .text description, .text language]
  | .channelSuccess recipient | .channelFailure recipient | .channelEof recipient
  | .channelClose recipient => [.uint32 recipient]
  | .channelData recipient data => [.uint32 recipient, .string data]
  | .channelExtendedData recipient dataType data =>
    [.uint32 recipient, .uint32 dataType, .string data]
  | .channelWindowAdjust recipient count => [.uint32 recipient, .uint32 count]
  | .channelFlowControl recipient wantReply on =>
    [.uint32 recipient, .string (ascii "xon-xoff"), .boolean wantReply, .boolean on]
  | .channelExitStatus recipient wantReply exitStatus =>
    [.uint32 recipient, .string (ascii "exit-status"), .boolean wantReply, .uint32 exitStatus]
  | .channelExitSignal recipient wantReply signal coreDumped errorMessage language =>
    [.uint32 recipient, .string (ascii "exit-signal"), .boolean wantReply, .text signal,
      .boolean coreDumped, .text errorMessage, .text language]
  | .channelUnknownRequest recipient type wantReply =>
    [.uint32 recipient, .text type, .boolean wantReply, .raw unread.specific]
  | .channelOpenForwardedTcpIp sender window packet connected connectedPort originator
      originatorPort =>
    [.text sshChannelTypeForwardedTcpIp, .uint32 sender, .uint32 window, .uint32 packet,
      .text connected, .uint32 connectedPort, .text originator, .uint32 originatorPort]
  | .channelOpenAgentConnect sender window packet =>
    [.text (if unread.openSSHName then sshChannelTypeAgentConnectOpenSSH
      else sshChannelTypeAgentConnect), .uint32 sender, .uint32 window, .uint32 packet]
  | .channelOpenX11 sender window packet originator originatorPort =>
    [.text sshChannelTypeX11, .uint32 sender, .uint32 window, .uint32 packet, .text originator,
      .uint32 originatorPort]
  | .channelOpenForwardedStreamLocal sender window packet path reserved =>
    [.text sshChannelTypeForwardedStreamLocal, .uint32 sender, .uint32 window, .uint32 packet,
      .text path, .text reserved]
  | .channelOpenUnknown sender type =>
    [.text type, .uint32 sender, .uint32 unread.initialWindowSize,
      .uint32 unread.maximumPacketSize, .raw unread.specific]
  | .globalRequestKeepAliveOpenSSH wantReply =>
    [.text sshGlobalRequestTypeKeepAlive, .boolean wantReply]
  | .globalRequestHostKeysOpenSSH wantReply hostKeys =>
    [.text sshGlobalRequestTypeHostKeys, .boolean wantReply, .strings hostKeys]
  | .globalUnknownRequest wantReply type =>
    [.text type, .boolean wantReply, .raw unread.specific]
  | .requestSuccess => [.raw unread.specific]
  | .requestFailure => []
  | .ping data | .pong data => [.string data]
  | .unrecognized _ data => [.raw (data.drop 1)]

/-- A message of a type that the parser knows; what is called unknown in it is of no type that has
an arm of its own. -/
def IsKnown : Message → Prop
  | .channelOpenUnknown _ type => type ∉ channelTypes
  | .channelUnknownRequest _ type _ => type ∉ requestTypes
  | .globalUnknownRequest _ type => type ∉ globalTypes
  | .unrecognized .. => False
  | _ => True

/-- The payload encodes the message. -/
def Encodes (msg : Message) (data : Bytes) : Prop :=
  msg.IsKnown ∧ ∃ unread octets, data = msg.code :: octets ∧
    EncodesAll (msg.fields unread) octets

/-- The kinds of the fields that every message of the type has. -/
def kinds (msg : Message) : List FieldKind :=
  (msg.fields ⟨false, 0, 0, []⟩).filterMap WireValue.kind?

/-- The fields that every message of the type has are there in full. -/
def Complete (msg : Message) (data : Bytes) : Prop :=
  ∃ octets rest, data = msg.code :: (octets ++ rest) ∧ ShapesAll msg.kinds octets

/-- The payload is one whose value the parser mistakes: the boolean of an `SSH_MSG_DEBUG` is an
octet above 1, or the list of an `SSH_MSG_USERAUTH_FAILURE` has length 0. -/
def isMistaken : Bytes → Bool
  | code :: first :: rest =>
    (code = sshMsgDebug && first > 1) ||
      (code = sshMsgUserauthFailure && (first :: rest).take 4 = [0, 0, 0, 0])
  | _ => false

/-- The payload is an `SSH_MSG_EXT_INFO` in which the name of an extension comes twice. -/
def RepeatsName (data : Bytes) : Prop :=
  ∃ entries octets, ¬ Entries.IsMap entries ∧ WireValue.Encodes (.pairs entries) octets ∧
    data = sshMsgExtInfo :: octets

/-- The payload opens a channel of an unknown type and ends before its window and packet size do. -/
def CutShort (data : Bytes) : Prop :=
  ∃ type sender octets tail, utf8Valid type = true ∧ type ∉ channelTypes ∧
    EncodesString type octets ∧ tail.length < 8 ∧
    data = sshMsgChannelOpen :: (octets ++ (toBeBytes sender ++ tail))

/-! ## Reading a message -/

section Fields

variable {α : Type} {a : α} {values : List WireValue} {octets : Bytes}

theorem reads_bool {b : Bool} {f : Bool → Consumer α}
    (h : EncodesAll (.boolean b :: values) octets)
    (hf : ∀ rest, EncodesAll values rest → Reads (f b) rest a) :
    Reads (consumeBool >>= f) octets a := by
  obtain _ | ⟨⟨octet, rfl, hvalue⟩, hrest⟩ := h
  have hread : (octet != 0) = b := by
    cases b with
    | true => exact bne_iff_ne.mpr (hvalue.mpr rfl)
    | false =>
      have hzero : octet = 0 := Decidable.of_not_not fun hne => by cases hvalue.mp hne
      exact bne_eq_false_iff_eq.mpr hzero
  refine (hf _ hrest).bind ?_
  rw [← hread]
  rfl

theorem reads_str {content : Text} {f : Text → Consumer α}
    (h : EncodesAll (.text content :: values) octets)
    (hf : ∀ rest, EncodesAll values rest → Reads (f content) rest a) :
    Reads (consumeStr >>= f) octets a :=
  reads_text h hf

end Fields

/-! ### Loops -/

/-- The loop over the entries of an `SSH_MSG_EXT_INFO`. -/
theorem consumeExtensions_of_encodes {entries : List (Text × Bytes)} {octets : Bytes}
    (h : EncodesPairs entries octets) (acc : List (Text × Bytes)) (rest : Bytes) :
    consumeExtensions entries.length acc (octets ++ rest) =
      .ok (Entries.insertAll acc entries) rest := by
  induction h generalizing acc with
  | nil => rfl
  | @cons name value entries o₁ o₂ o₃ hname h₁ h₂ h₃ ih =>
    rw [List.append_assoc, List.append_assoc, List.length_cons, consumeExtensions, consumeStr,
      bind_of_ok (consumeText_of_encodes hname h₁ _), bind_of_ok (consumeOne_of_encodes h₂ _), ih]
    rfl

/-- The loop over strings up to the end of the payload. -/
theorem consumeOnes_of_encodes {contents : List Bytes} {octets : Bytes}
    (h : EncodesStrings contents octets) {fuel : ℕ} (hfuel : octets.length ≤ fuel) :
    consumeOnes fuel octets = .ok contents [] := by
  induction h generalizing fuel with
  | nil =>
    cases fuel <;> rfl
  | @cons content contents o₁ o₂ h₁ h₂ ih =>
    have hlength : o₁.length = 4 + content.length := by
      rw [h₁.2, Field.length_put, Field.size]
    rw [List.length_append] at hfuel
    obtain ⟨fuel, rfl⟩ : ∃ n, fuel = n + 1 := ⟨fuel - 1, by omega⟩
    have hne : (o₁ ++ o₂).isEmpty = false := by
      rw [List.isEmpty_eq_false_iff]
      intro hnil
      rw [(List.append_eq_nil_iff.mp hnil).1] at hlength
      simp only [List.length_nil] at hlength
      omega
    rw [consumeOnes, peek, get_bind, hne]
    change (consumeOne >>= fun content => _) _ = _
    rw [bind_of_ok (consumeOne_of_encodes h₁ _), bind_of_ok (ih (by omega))]
    rfl

section Loops

variable {a : Message} {values : List WireValue} {octets : Bytes}

theorem reads_extensions {entries : List (Text × Bytes)}
    {f : List (Text × Bytes) → Consumer Message}
    (h : EncodesAll (.pairs entries :: values) octets)
    (hf : ∀ rest, EncodesAll values rest → Reads (f (Entries.insertAll [] entries)) rest a) :
    Reads (do f (← consumeExtensions (← consumeU32).toNat [])) octets a := by
  obtain _ | @⟨_, _, _, rest, ⟨octets', hfits, rfl, hentries⟩, hrest⟩ := h
  have hcount : (UInt32.ofNat entries.length).toNat = entries.length :=
    UInt32.toNat_ofNat_of_lt hfits
  have hloop := consumeExtensions_of_encodes hentries [] rest
  obtain ⟨rest', hf⟩ := hf _ hrest
  refine ⟨rest', ?_⟩
  rw [List.append_assoc, bind_of_ok (consumeU32_append _ _), hcount, bind_of_ok hloop, hf]

theorem reads_strings {contents : List Bytes} {f : List Bytes → Consumer Message}
    (h : EncodesAll [.strings contents] octets) (hf : Reads (f contents) [] a) :
    Reads (do f (← consumeOnes (← peek).length)) octets a := by
  obtain _ | ⟨hstrings, _ | _⟩ := h
  obtain ⟨rest', hf⟩ := hf
  refine ⟨rest', ?_⟩
  rw [List.append_nil, peek, get_bind,
    bind_of_ok (consumeOnes_of_encodes hstrings (Nat.le_refl _)), hf]

end Loops

/-! ### Arms -/

/-- The arms of `SSH_MSG_CHANNEL_REQUEST`. -/
theorem reads_channelRequest {msg : Message} (hcode : msg.code = sshMsgChannelRequest)
    (hknown : msg.IsKnown) {unread : Unread} {octets : Bytes}
    (h : EncodesAll (msg.fields unread) octets) : Reads parseChannelRequest octets msg := by
  cases msg with
  | channelFlowControl recipient wantReply on =>
    exact reads_u32 h fun _ h => reads_one h fun _ h => reads_if_pos rfl
      (reads_bool h fun _ h => reads_bool h fun _ _ => reads_pure _ _)
  | channelExitStatus recipient wantReply exitStatus =>
    exact reads_u32 h fun _ h => reads_one h fun _ h => reads_if_neg (by decide) (reads_if_pos rfl
      (reads_bool h fun _ h => reads_u32 h fun _ _ => reads_pure _ _))
  | channelExitSignal recipient wantReply signal coreDumped errorMessage language =>
    exact reads_u32 h fun _ h => reads_one h fun _ h => reads_if_neg (by decide)
      (reads_if_neg (by decide) (reads_if_pos rfl (reads_bool h fun _ h => reads_str h fun _ h =>
        reads_bool h fun _ h => reads_str h fun _ h => reads_str h fun _ _ => reads_pure _ _)))
  | channelUnknownRequest recipient type wantReply =>
    obtain ⟨hflow, hstatus, hsignal⟩ :
        type ≠ ascii "xon-xoff" ∧ type ≠ ascii "exit-status" ∧ type ≠ ascii "exit-signal" := by
      have hknown : type ∉ requestTypes := hknown
      simpa only [requestTypes, List.mem_cons, List.not_mem_nil, or_false, not_or] using hknown
    refine reads_u32 h fun _ h => ?_
    have hvalid : utf8Valid type = true := by
      obtain _ | ⟨⟨hvalid, -⟩, -⟩ := h
      exact hvalid
    exact reads_one (string_of_text h) fun _ h => reads_if_neg hflow (reads_if_neg hstatus
      (reads_if_neg hsignal (reads_bool h fun _ _ => reads_if_pos hvalid (reads_pure _ _))))
  | unrecognized => exact hknown.elim
  | _ => exact absurd hcode (by simp only [code]; decide)

/-- The arms of `SSH_MSG_GLOBAL_REQUEST`. -/
theorem reads_globalRequest {msg : Message} (hcode : msg.code = sshMsgGlobalRequest)
    (hknown : msg.IsKnown) {unread : Unread} {octets : Bytes}
    (h : EncodesAll (msg.fields unread) octets) : Reads parseGlobalRequest octets msg := by
  cases msg with
  | globalRequestKeepAliveOpenSSH wantReply =>
    exact reads_str h fun _ h => reads_bool h fun _ _ => reads_if_pos rfl (reads_pure _ _)
  | globalRequestHostKeysOpenSSH wantReply hostKeys =>
    exact reads_str h fun _ h => reads_bool h fun _ h => reads_if_neg (by decide) (reads_if_pos rfl
      (reads_strings h (reads_pure _ _)))
  | globalUnknownRequest wantReply type =>
    obtain ⟨halive, hkeys⟩ : type ≠ sshGlobalRequestTypeKeepAlive ∧
        type ≠ sshGlobalRequestTypeHostKeys := by
      have hknown : type ∉ globalTypes := hknown
      simpa only [globalTypes, List.mem_cons, List.not_mem_nil, or_false, not_or] using hknown
    exact reads_str h fun _ h => reads_bool h fun _ _ => reads_if_neg halive
      (reads_if_neg hkeys (reads_pure _ _))
  | unrecognized => exact hknown.elim
  | _ => exact absurd hcode (by simp only [code]; decide)

/-- The arms of `SSH_MSG_CHANNEL_OPEN`. -/
theorem reads_channelOpen {msg : Message} (hcode : msg.code = sshMsgChannelOpen)
    (hknown : msg.IsKnown) {unread : Unread} {octets : Bytes}
    (h : EncodesAll (msg.fields unread) octets) : Reads parseChannelOpen octets msg := by
  cases msg with
  | channelOpenForwardedTcpIp =>
    exact reads_str h fun _ h => reads_if_pos rfl (reads_u32 h fun _ h => reads_u32 h fun _ h =>
      reads_u32 h fun _ h => reads_str h fun _ h => reads_u32 h fun _ h => reads_str h fun _ h =>
        reads_u32 h fun _ _ => reads_pure _ _)
  | channelOpenAgentConnect sender window packet =>
    refine reads_str h fun _ h => ?_
    have hopen : (if unread.openSSHName then sshChannelTypeAgentConnectOpenSSH
        else sshChannelTypeAgentConnect) = sshChannelTypeAgentConnect ∨
        (if unread.openSSHName then sshChannelTypeAgentConnectOpenSSH
          else sshChannelTypeAgentConnect) = sshChannelTypeAgentConnectOpenSSH := by
      cases unread.openSSHName
      · exact .inl rfl
      · exact .inr rfl
    refine reads_if_neg ?_ (reads_if_pos hopen (reads_u32 h fun _ h => reads_u32 h fun _ h =>
      reads_u32 h fun _ _ => reads_pure _ _))
    cases unread.openSSHName <;> decide
  | channelOpenX11 =>
    exact reads_str h fun _ h => reads_if_neg (by decide) (reads_if_neg (by decide)
      (reads_if_pos rfl (reads_u32 h fun _ h => reads_u32 h fun _ h => reads_u32 h fun _ h =>
        reads_str h fun _ h => reads_u32 h fun _ _ => reads_pure _ _)))
  | channelOpenForwardedStreamLocal =>
    exact reads_str h fun _ h => reads_if_neg (by decide) (reads_if_neg (by decide)
      (reads_if_neg (by decide) (reads_if_pos rfl (reads_u32 h fun _ h => reads_u32 h fun _ h =>
        reads_u32 h fun _ h => reads_str h fun _ h => reads_str h fun _ _ => reads_pure _ _))))
  | channelOpenUnknown sender type =>
    obtain ⟨htcp, hagent, hopenssh, hx11, hlocal⟩ : type ≠ sshChannelTypeForwardedTcpIp ∧
        type ≠ sshChannelTypeAgentConnect ∧ type ≠ sshChannelTypeAgentConnectOpenSSH ∧
          type ≠ sshChannelTypeX11 ∧ type ≠ sshChannelTypeForwardedStreamLocal := by
      have hknown : type ∉ channelTypes := hknown
      simpa only [channelTypes, List.mem_cons, List.not_mem_nil, or_false, not_or] using hknown
    exact reads_str h fun _ h => reads_if_neg htcp (reads_if_neg (not_or.mpr ⟨hagent, hopenssh⟩)
      (reads_if_neg hx11 (reads_if_neg hlocal (reads_u32 h fun _ _ => reads_pure _ _))))
  | unrecognized => exact hknown.elim
  | _ => exact absurd hcode (by simp only [code]; decide)

/-! ### Whole messages -/

theorem parse_of_reads {number : UInt8} {octets : Bytes} {msg : Message}
    (h : Reads (parseBody number (number :: octets)) octets msg) :
    parse (number :: octets) = .ok msg := by
  obtain ⟨rest, h⟩ := h
  unfold parse run'
  rw [bind_of_ok (consumeU8_cons number octets), h]

theorem isMistaken_debug (octet : UInt8) (rest : Bytes) :
    isMistaken (sshMsgDebug :: ([octet] ++ rest)) = decide (octet > 1) := by
  have hne : sshMsgDebug ≠ sshMsgUserauthFailure := by decide
  simp only [isMistaken, List.cons_append, hne, decide_true, decide_false, Bool.true_and,
    Bool.false_and, Bool.or_false]

theorem isMistaken_failure (length : UInt32) (rest : Bytes) :
    isMistaken (sshMsgUserauthFailure :: (toBeBytes length ++ rest)) = decide (length = 0) := by
  have hne : sshMsgUserauthFailure ≠ sshMsgDebug := by decide
  have hzero : toBeBytes length = [0, 0, 0, 0] ↔ length = 0 := by
    constructor
    · intro heq
      have hread := fromBeBytes_toBeBytes length
      simp only [toBeBytes, List.cons.injEq, and_true] at heq
      rw [heq.1, heq.2.1, heq.2.2.1, heq.2.2.2] at hread
      exact hread.symm.trans (by decide)
    · rintro rfl
      decide
  rw [Bool.eq_iff_iff, decide_eq_true_iff, ← hzero]
  simp only [isMistaken, toBeBytes, List.cons_append, List.nil_append, hne, decide_true,
    decide_false, Bool.true_and, Bool.false_and, Bool.false_or, List.take_succ_cons,
    List.take_zero]
  exact decide_eq_true_iff

theorem isMistaken_of_ne {number : UInt8} (hdebug : number ≠ sshMsgDebug)
    (hfailure : number ≠ sshMsgUserauthFailure) (octets : Bytes) :
    isMistaken (number :: octets) = false := by
  cases octets with
  | nil => rfl
  | cons first rest =>
    simp only [isMistaken, hdebug, hfailure, decide_false, Bool.false_and, Bool.or_false]

/-- An `SSH_MSG_DEBUG` is read back exactly if its boolean is at most 1. -/
theorem parse_debug {alwaysDisplay : Bool} {message language : Text} {octets : Bytes}
    (h : EncodesAll [.boolean alwaysDisplay, .text message, .text language] octets) :
    parse (sshMsgDebug :: octets) = .ok (.debug alwaysDisplay message language) ↔
      isMistaken (sshMsgDebug :: octets) = false := by
  obtain _ | @⟨_, _, _, rest, ⟨octet, rfl, hvalue⟩, h⟩ := h
  have hparse : parse (sshMsgDebug :: ([octet] ++ rest)) =
      .ok (.debug (octet == 1) message language) :=
    parse_of_reads (reads_if_pos rfl (Reads.bind (consumeU8_cons octet rest)
      (reads_str h fun _ h => reads_str h fun _ _ => reads_pure _ _)))
  rw [hparse, isMistaken_debug, decide_eq_false_iff_not]
  constructor
  · intro heq habove
    obtain rfl : (octet == 1) = alwaysDisplay := by
      injection heq with heq
      injection heq
    have hzero : octet ≠ 0 := fun hzero => absurd (hzero ▸ habove) (by decide)
    obtain rfl := eq_of_beq (hvalue.mp hzero)
    exact absurd habove (by decide)
  · intro hle
    have hread : (octet == 1) = alwaysDisplay := by
      have hoctet : octet = 0 ∨ octet = 1 := by
        rw [← UInt8.toNat_inj, ← UInt8.toNat_inj]
        have hle : ¬ 1 < octet.toNat := hle
        change octet.toNat = 0 ∨ octet.toNat = 1
        omega
      obtain rfl | rfl := hoctet
      · exact (Bool.eq_false_iff.mpr fun htrue => hvalue.mpr htrue rfl).symm
      · exact (hvalue.mp (by decide)).symm
    rw [hread]

/-- An `SSH_MSG_USERAUTH_FAILURE` is read back exactly if it lists a method. -/
theorem parse_authenticationFailure {allowMethods : List Text} {partialSuccess : Bool}
    {octets : Bytes} (h : EncodesAll [.nameList allowMethods, .boolean partialSuccess] octets) :
    parse (sshMsgUserauthFailure :: octets) =
        .ok (.authenticationFailure allowMethods partialSuccess) ↔
      isMistaken (sshMsgUserauthFailure :: octets) = false := by
  obtain _ | @⟨_, _, o₁, rest, ⟨hnames, hstring⟩, h⟩ := h
  have hvalid := utf8Valid_joinComma fun name hname => (hnames name hname).2.2
  have hparse : parse (sshMsgUserauthFailure :: (o₁ ++ rest)) =
      .ok (.authenticationFailure (splitComma (joinComma allowMethods)) partialSuccess) := by
    refine parse_of_reads ?_
    repeat refine reads_if_neg (by decide) ?_
    exact reads_if_pos rfl (Reads.bind (consumeText_of_encodes hvalid hstring rest)
      (reads_bool h fun _ _ => reads_pure _ _))
  have hlength : UInt32.ofNat (joinComma allowMethods).length = 0 ↔ joinComma allowMethods = [] := by
    have hsame : (UInt32.ofNat (joinComma allowMethods).length).toNat =
        (joinComma allowMethods).length := UInt32.toNat_ofNat_of_lt hstring.1
    rw [← UInt32.toNat_inj, hsame]
    exact List.length_eq_zero_iff
  rw [hparse, hstring.2, Field.put, List.append_assoc, isMistaken_failure, decide_eq_false_iff_not,
    hlength,
    joinComma_eq_nil fun name hname => (hnames name hname).1]
  constructor
  · rintro heq rfl
    cases heq
  · intro hne
    rw [splitComma_joinComma hne fun name hname => (hnames name hname).2.1]

theorem not_repeatsName {number : UInt8} (hne : number ≠ sshMsgExtInfo) (octets : Bytes) :
    ¬ RepeatsName (number :: octets) := by
  rintro ⟨entries, octets', -, -, hdata⟩
  injection hdata with hnumber
  exact hne hnumber

/-- An `SSH_MSG_EXT_INFO` is read back exactly if no name comes twice. -/
theorem parse_extInfo {extensions : List (Text × Bytes)} {octets : Bytes}
    (h : EncodesAll [.pairs extensions.reverse] octets) :
    parse (sshMsgExtInfo :: octets) = .ok (.extInfo extensions) ↔
      ¬ RepeatsName (sshMsgExtInfo :: octets) := by
  have hparse : parse (sshMsgExtInfo :: octets) =
      .ok (.extInfo (Entries.insertAll [] extensions.reverse)) :=
    parse_of_reads (reads_if_neg (by decide) (reads_if_pos rfl
      (reads_extensions h fun _ _ => reads_pure _ _)))
  have hback : parse (sshMsgExtInfo :: octets) = .ok (.extInfo extensions) ↔
      Entries.IsMap extensions.reverse := by
    rw [hparse, ← Entries.insertAll_eq_reverse_iff, List.reverse_reverse, Except.ok.injEq,
      extInfo.injEq]
  have hrepeats : RepeatsName (sshMsgExtInfo :: octets) ↔ ¬ Entries.IsMap extensions.reverse := by
    obtain _ | ⟨hpairs, _ | _⟩ := h
    constructor
    · rintro ⟨entries, octets', hnot, hentries, hdata⟩
      injection hdata with _ hdata
      rw [List.append_nil] at hdata
      rwa [pairs_inj hpairs (hdata ▸ hentries)]
    · exact fun hnot => ⟨_, _, hnot, hpairs, by rw [List.append_nil]⟩
  rw [hback, hrepeats, not_not]

/-- A message is read back from its encoding exactly if that is not one the parser mistakes. -/
theorem parse_of_encodes {msg : Message} {data : Bytes} (h : msg.Encodes data) :
    parse data = .ok msg ↔ isMistaken data = false ∧ ¬ RepeatsName data := by
  obtain ⟨hknown, unread, octets, rfl, h⟩ := h
  have hread (hne : msg.code ≠ sshMsgDebug ∧ msg.code ≠ sshMsgUserauthFailure ∧
        msg.code ≠ sshMsgExtInfo)
      (hreads : Reads (parseBody msg.code (msg.code :: octets)) octets msg) :
      parse (msg.code :: octets) = .ok msg ↔
        isMistaken (msg.code :: octets) = false ∧ ¬ RepeatsName (msg.code :: octets) :=
    iff_of_true (parse_of_reads hreads)
      ⟨isMistaken_of_ne hne.1 hne.2.1 octets, not_repeatsName hne.2.2 octets⟩
  cases msg with
  | debug =>
    have hne : sshMsgDebug ≠ sshMsgExtInfo := by decide
    exact (parse_debug h).trans (iff_self_and.mpr fun _ => not_repeatsName hne octets)
  | authenticationFailure =>
    have hne : sshMsgUserauthFailure ≠ sshMsgExtInfo := by decide
    exact (parse_authenticationFailure h).trans
      (iff_self_and.mpr fun _ => not_repeatsName hne octets)
  | extInfo extensions =>
    have hdebug : sshMsgExtInfo ≠ sshMsgDebug := by decide
    have hfailure : sshMsgExtInfo ≠ sshMsgUserauthFailure := by decide
    exact (parse_extInfo h).trans
      (iff_and_self.mpr fun _ => isMistaken_of_ne hdebug hfailure octets)
  | channelFlowControl | channelExitStatus | channelExitSignal | channelUnknownRequest =>
    have hreads := reads_channelRequest rfl hknown h
    refine hread ⟨by simp only [code]; decide, by simp only [code]; decide,
      by simp only [code]; decide⟩ ?_
    simp only [code]
    repeat refine reads_if_neg (by decide) ?_
    exact reads_if_pos rfl hreads
  | globalRequestKeepAliveOpenSSH | globalRequestHostKeysOpenSSH | globalUnknownRequest =>
    have hreads := reads_globalRequest rfl hknown h
    refine hread ⟨by simp only [code]; decide, by simp only [code]; decide,
      by simp only [code]; decide⟩ ?_
    simp only [code]
    repeat refine reads_if_neg (by decide) ?_
    exact reads_if_pos rfl hreads
  | channelOpenForwardedTcpIp | channelOpenAgentConnect | channelOpenX11
  | channelOpenForwardedStreamLocal | channelOpenUnknown =>
    have hreads := reads_channelOpen rfl hknown h
    refine hread ⟨by simp only [code]; decide, by simp only [code]; decide,
      by simp only [code]; decide⟩ ?_
    simp only [code]
    repeat refine reads_if_neg (by decide) ?_
    exact reads_if_pos rfl hreads
  | unrecognized => exact hknown.elim
  | _ =>
    -- a chain of fields, each of them read by its own step
    refine hread ⟨by simp only [code]; decide, by simp only [code]; decide,
      by simp only [code]; decide⟩ ?_
    simp only [code]
    repeat refine reads_if_neg (by decide) ?_
    refine reads_if_pos rfl ?_
    repeat first
      | exact reads_pure _ _
      | refine reads_u32 h fun _ h => ?_
      | refine reads_str h fun _ h => ?_
      | refine reads_one h fun _ h => ?_

/-! ## What is accepted -/

/-- The kinds of the fields that the parser reads of a message. -/
def readKinds : Message → List FieldKind
  | .channelOpenUnknown .. => [.string, .uint32]
  | msg => msg.kinds

/-- A parser that has read fields of the kinds `before` reads all other fields of the message that it
returns. -/
def Shaped (before : List FieldKind) (m : Consumer Message) : Prop :=
  ∀ rest msg rest', m rest = .ok msg rest' → ∃ after octets, msg.readKinds = before ++ after ∧
    rest = octets ++ rest' ∧ ShapesAll after octets

/-- A reading step takes a field of a kind in full. -/
def Takes {α : Type} (kind : FieldKind) (m : Consumer α) : Prop :=
  ∀ rest a rest', m rest = .ok a rest' → ∃ octets, kind.Shapes octets ∧ rest = octets ++ rest'

section Shapes

variable {α : Type} {before : List FieldKind} {kind : FieldKind} {p : Prop} [Decidable p]

theorem takes_u8 : Takes .boolean consumeU8 := by
  intro rest b rest' h
  cases rest with
  | nil => cases h
  | cons b' rest =>
    injection h with _ hrest
    exact ⟨[b'], rfl, congrArg _ hrest⟩

theorem takes_bool : Takes .boolean consumeBool := by
  intro rest b rest' h
  obtain ⟨octet, rest₁, hu8, h⟩ := bind_eq_ok_iff.mp h
  injection h with _ hrest
  exact hrest ▸ takes_u8 rest octet rest₁ hu8

theorem takes_u32 : Takes .uint32 consumeU32 := by
  intro rest n rest' h
  exact ⟨toBeBytes n, rfl, toBeBytes_of_consumeU32 h⟩

theorem takes_one : Takes .string consumeOne := by
  intro rest content rest' h
  obtain ⟨octets, hstring, hrest⟩ := encodesString_of_consumeOne h
  exact ⟨octets, ⟨content, hstring⟩, hrest⟩

theorem takes_str : Takes .string consumeStr := by
  intro rest content rest' h
  obtain ⟨-, octets, hstring, hrest⟩ := encodesString_of_consumeText h
  exact ⟨octets, ⟨content, hstring⟩, hrest⟩

theorem encodesPairs_of_consumeExtensions {count : ℕ} {acc extensions : List (Text × Bytes)}
    {rest rest' : Bytes} (h : consumeExtensions count acc rest = .ok extensions rest') :
    ∃ entries octets, entries.length = count ∧ EncodesPairs entries octets ∧
      rest = octets ++ rest' := by
  induction count generalizing acc rest with
  | zero =>
    injection h with _ hrest
    exact ⟨[], [], rfl, .nil, hrest⟩
  | succ count ih =>
    obtain ⟨name, rest₁, hname, htail⟩ := bind_eq_ok_iff.mp h
    obtain ⟨value, rest₂, hvalue, hloop⟩ := bind_eq_ok_iff.mp htail
    obtain ⟨hvalid, o₁, h₁, rfl⟩ := encodesString_of_consumeText hname
    obtain ⟨o₂, h₂, rfl⟩ := encodesString_of_consumeOne hvalue
    obtain ⟨entries, o₃, hlength, h₃, rfl⟩ := ih hloop
    refine ⟨(name, value) :: entries, _, ?_, .cons hvalid h₁ h₂ h₃, ?_⟩
    · rw [List.length_cons, hlength]
    · rw [List.append_assoc, List.append_assoc]

theorem takes_extensions :
    Takes .pairs (do consumeExtensions (← consumeU32).toNat []) := by
  intro rest extensions rest' h
  obtain ⟨count, rest₁, hcount, h⟩ := bind_eq_ok_iff.mp h
  obtain ⟨entries, octets, hlength, hentries, rfl⟩ := encodesPairs_of_consumeExtensions h
  refine ⟨toBeBytes count ++ octets, ⟨entries, octets, ?_, ?_, hentries⟩, ?_⟩
  · rw [hlength]
    exact count.toNat_lt
  · rw [hlength, UInt32.ofNat_toNat]
  · rw [toBeBytes_of_consumeU32 hcount, List.append_assoc]

theorem encodesStrings_of_consumeOnes {fuel : ℕ} {contents : List Bytes} {rest rest' : Bytes}
    (h : consumeOnes fuel rest = .ok contents rest') :
    ∃ octets, EncodesStrings contents octets ∧ rest = octets ++ rest' := by
  induction fuel generalizing contents rest with
  | zero =>
    injection h with hcontents hrest
    exact ⟨[], hcontents ▸ .nil, hrest⟩
  | succ fuel ih =>
    rw [consumeOnes, peek, get_bind] at h
    split at h
    · injection h with hcontents hrest
      exact ⟨[], hcontents ▸ .nil, hrest⟩
    · obtain ⟨content, rest₁, hone, h⟩ := bind_eq_ok_iff.mp h
      obtain ⟨contents', rest₂, hrec, h⟩ := bind_eq_ok_iff.mp h
      injection h with hcontents hrest
      obtain rfl := hcontents
      obtain rfl := hrest
      obtain ⟨o₁, h₁, rfl⟩ := encodesString_of_consumeOne hone
      obtain ⟨o₂, h₂, rfl⟩ := ih hrec
      exact ⟨o₁ ++ o₂, .cons h₁ h₂, (List.append_assoc _ _ _).symm⟩

theorem takes_strings : Takes .strings (do consumeOnes (← peek).length) := by
  intro rest contents rest' h
  rw [peek, get_bind] at h
  obtain ⟨octets, hstrings, hrest⟩ := encodesStrings_of_consumeOnes h
  exact ⟨octets, ⟨contents, hstrings⟩, hrest⟩

theorem shaped_pure {msg : Message} (h : msg.readKinds = before) : Shaped before (pure msg) := by
  intro rest msg' rest' hrun
  injection hrun with hmsg hrest
  exact ⟨[], [], by rw [← hmsg, h, List.append_nil], hrest, .nil⟩

theorem shaped_throw {e : Error} : Shaped before (throw e) := by
  intro rest msg rest' hrun
  cases hrun

theorem shaped_bind {m : Consumer α} {f : α → Consumer Message} (hm : Takes kind m)
    (hf : ∀ a, Shaped (before ++ [kind]) (f a)) : Shaped before (m >>= f) := by
  intro rest msg rest' hrun
  obtain ⟨a, rest₁, hrun₁, hrun₂⟩ := bind_eq_ok_iff.mp hrun
  obtain ⟨o₁, h₁, rfl⟩ := hm rest a rest₁ hrun₁
  obtain ⟨after, o₂, hkinds, rfl, h₂⟩ := hf a rest₁ msg rest' hrun₂
  refine ⟨kind :: after, o₁ ++ o₂, ?_, ?_, .cons h₁ h₂⟩
  · rw [hkinds, List.append_assoc]
    rfl
  · rw [List.append_assoc]

theorem shaped_extensions {f : List (Text × Bytes) → Consumer Message}
    (hf : ∀ extensions, Shaped (before ++ [.pairs]) (f extensions)) :
    Shaped before (do f (← consumeExtensions (← consumeU32).toNat [])) := by
  have h := shaped_bind takes_extensions hf
  rw [bind_assoc] at h
  exact h

theorem shaped_strings {f : List Bytes → Consumer Message}
    (hf : ∀ contents, Shaped (before ++ [.strings]) (f contents)) :
    Shaped before (do f (← consumeOnes (← peek).length)) := by
  have h := shaped_bind takes_strings hf
  rw [bind_assoc] at h
  exact h

theorem shaped_ite {m m' : Consumer Message} (hm : Shaped before m) (hm' : Shaped before m') :
    Shaped before (if p then m else m') := by
  split
  · exact hm
  · exact hm'

end Shapes

theorem shaped_channelRequest : Shaped [] parseChannelRequest := by
  unfold parseChannelRequest
  repeat first
    | exact shaped_pure rfl
    | exact shaped_throw
    | refine shaped_bind takes_u32 fun _ => ?_
    | refine shaped_bind takes_bool fun _ => ?_
    | refine shaped_bind takes_str fun _ => ?_
    | refine shaped_bind takes_one fun _ => ?_
    | refine shaped_ite ?_ ?_

theorem shaped_globalRequest : Shaped [] parseGlobalRequest := by
  refine shaped_bind takes_str fun type => shaped_bind takes_bool fun wantReply => shaped_ite
    (shaped_pure rfl) (shaped_ite (shaped_strings fun hostKeys => shaped_pure rfl) (shaped_pure rfl))

theorem shaped_channelOpen : Shaped [] parseChannelOpen := by
  unfold parseChannelOpen
  repeat first
    | exact shaped_pure rfl
    | refine shaped_bind takes_u32 fun _ => ?_
    | refine shaped_bind takes_str fun _ => ?_
    | refine shaped_ite ?_ ?_

theorem shaped_parseBody (number : UInt8) (data : Bytes) : Shaped [] (parseBody number data) := by
  unfold parseBody
  repeat first
    | exact shaped_pure rfl
    | exact shaped_channelRequest
    | exact shaped_globalRequest
    | exact shaped_channelOpen
    | exact shaped_extensions fun _ => shaped_pure rfl
    | refine shaped_bind takes_u32 fun _ => ?_
    | refine shaped_bind takes_u8 fun _ => ?_
    | refine shaped_bind takes_bool fun _ => ?_
    | refine shaped_bind takes_str fun _ => ?_
    | refine shaped_bind takes_one fun _ => ?_
    | refine shaped_ite ?_ ?_

/-! ### Channels of unknown types -/

/-- A parser never returns a channel of an unknown type. -/
def Avoids (m : Consumer Message) : Prop :=
  ∀ rest sender type rest', m rest ≠ .ok (.channelOpenUnknown sender type) rest'

theorem avoids_pure {msg : Message} (h : ∀ sender type, msg ≠ .channelOpenUnknown sender type) :
    Avoids (pure msg) := by
  intro rest sender type rest' hrun
  injection hrun with hmsg
  exact h sender type hmsg

theorem avoids_bind {α : Type} {m : Consumer α} {f : α → Consumer Message}
    (hf : ∀ a, Avoids (f a)) : Avoids (m >>= f) := by
  intro rest sender type rest' hrun
  obtain ⟨a, rest₁, -, hrun⟩ := bind_eq_ok_iff.mp hrun
  exact hf a rest₁ sender type rest' hrun

/-- What the parser reads of a channel of an unknown type. -/
theorem channelOpenUnknown_of_parse {sender : UInt32} {type : Text} {rest rest' : Bytes}
    (h : parseChannelOpen rest = .ok (.channelOpenUnknown sender type) rest') :
    ∃ octets, utf8Valid type = true ∧ type ∉ channelTypes ∧ EncodesString type octets ∧
      rest = octets ++ (toBeBytes sender ++ rest') := by
  obtain ⟨type', rest₁, hstr, hopen⟩ := bind_eq_ok_iff.mp h
  obtain ⟨hvalid, octets, hstring, rfl⟩ := encodesString_of_consumeText hstr
  have hknown {p : Prop} [Decidable p] {m m' : Consumer Message} (hm : Avoids m)
      (hrun : (if p then m else m') rest₁ = .ok (.channelOpenUnknown sender type) rest') :
      ¬ p ∧ m' rest₁ = .ok (.channelOpenUnknown sender type) rest' := by
    by_cases hp : p
    · rw [if_pos hp] at hrun
      exact absurd hrun (hm _ _ _ _)
    · rw [if_neg hp] at hrun
      exact ⟨hp, hrun⟩
  have havoids (msg : UInt32 → UInt32 → UInt32 → Consumer Message)
      (hmsg : ∀ a b c, Avoids (msg a b c)) :
      Avoids (do msg (← consumeU32) (← consumeU32) (← consumeU32)) :=
    avoids_bind fun a => avoids_bind fun b => avoids_bind fun c => hmsg a b c
  obtain ⟨htcp, hopen⟩ := hknown (havoids _ fun _ _ _ => avoids_bind fun _ => avoids_bind fun _ =>
    avoids_bind fun _ => avoids_bind fun _ => avoids_pure fun _ _ h => by cases h) hopen
  obtain ⟨hagent, hopen⟩ := hknown (havoids _ fun _ _ _ => avoids_pure fun _ _ h => by cases h) hopen
  obtain ⟨hx11, hopen⟩ := hknown (havoids _ fun _ _ _ => avoids_bind fun _ =>
    avoids_bind fun _ => avoids_pure fun _ _ h => by cases h) hopen
  obtain ⟨hlocal, hopen⟩ := hknown (havoids _ fun _ _ _ => avoids_bind fun _ =>
    avoids_bind fun _ => avoids_pure fun _ _ h => by cases h) hopen
  obtain ⟨sender', rest₂, hu32, hopen⟩ := bind_eq_ok_iff.mp hopen
  injection hopen with hmsg hrest
  injection hmsg with hsender htype
  obtain rfl := hsender
  obtain rfl := htype
  obtain rfl := hrest
  refine ⟨octets, hvalid, ?_, hstring, by rw [toBeBytes_of_consumeU32 hu32]⟩
  simp only [channelTypes, List.mem_cons, List.not_mem_nil, or_false, not_or]
  exact ⟨htcp, (not_or.mp hagent).1, (not_or.mp hagent).2, hx11, hlocal⟩

/-- A payload that is cut short is accepted all the same. -/
theorem parse_of_cutShort {type : Text} {sender : UInt32} {octets tail : Bytes}
    (hvalid : utf8Valid type = true) (hunknown : type ∉ channelTypes)
    (hstring : EncodesString type octets) :
    parse (sshMsgChannelOpen :: (octets ++ (toBeBytes sender ++ tail))) =
      .ok (.channelOpenUnknown sender type) := by
  have hfields : EncodesAll [.text type, .uint32 sender, .raw tail]
      (octets ++ (toBeBytes sender ++ (tail ++ []))) :=
    .cons ⟨hvalid, hstring⟩ (.cons rfl (.cons rfl .nil))
  rw [List.append_nil] at hfields
  refine parse_of_reads ?_
  repeat refine reads_if_neg (by decide) ?_
  refine reads_if_pos rfl (reads_str hfields fun _ h => ?_)
  simp only [channelTypes, List.mem_cons, List.not_mem_nil, or_false, not_or] at hunknown
  obtain ⟨htcp, hagent, hopenssh, hx11, hlocal⟩ := hunknown
  exact reads_if_neg htcp (reads_if_neg (not_or.mpr ⟨hagent, hopenssh⟩) (reads_if_neg hx11
    (reads_if_neg hlocal (reads_u32 h fun _ _ => reads_pure _ _))))

/-- Octets of an integer. -/
theorem shapes_u32_of_length {tail : Bytes} (h : 8 ≤ tail.length) :
    ∃ o₁ o₂ rest, tail = o₁ ++ (o₂ ++ rest) ∧ FieldKind.Shapes .uint32 o₁ ∧
      FieldKind.Shapes .uint32 o₂ := by
  refine ⟨tail.take 4, (tail.drop 4).take 4, tail.drop 8, ?_, ?_, ?_⟩
  · have hdrop : tail.drop 8 = (tail.drop 4).drop 4 := by rw [List.drop_drop]
    rw [hdrop, List.take_append_drop, List.take_append_drop]
  · change (tail.take 4).length = 4
    rw [List.length_take]
    omega
  · change ((tail.drop 4).take 4).length = 4
    rw [List.length_take, List.length_drop]
    omega

/-- The parser accepts no payload whose fields are not all there, except one that is cut short in
a channel of an unknown type. -/
theorem complete_of_parse {data : Bytes} {msg : Message} (hcut : ¬ CutShort data)
    (h : parse data = .ok msg) : msg.Complete data := by
  have hhead := head?_of_parse h
  cases data with
  | nil => cases hhead
  | cons number rest =>
    obtain rfl : number = msg.code := Option.some.inj hhead
    obtain ⟨rest', hrun⟩ : ∃ rest', parseBody msg.code (msg.code :: rest) rest = .ok msg rest' := by
      unfold parse run' at h
      rw [bind_of_ok (consumeU8_cons msg.code rest)] at h
      split at h
      · next msg' rest' hrun =>
        injection h with h
        exact ⟨rest', h ▸ hrun⟩
      · cases h
    by_cases hunknown : ∃ sender type, msg = .channelOpenUnknown sender type
    · obtain ⟨sender, type, rfl⟩ := hunknown
      have hopen : parseChannelOpen rest = .ok (.channelOpenUnknown sender type) rest' := hrun
      obtain ⟨octets, hvalid, htype, hstring, rfl⟩ := channelOpenUnknown_of_parse hopen
      have hlength : 8 ≤ rest'.length := by
        apply Nat.le_of_not_lt
        exact fun hlt => hcut ⟨type, sender, octets, rest', hvalid, htype, hstring, hlt, rfl⟩
      obtain ⟨o₁, o₂, rest₂, rfl, h₁, h₂⟩ := shapes_u32_of_length hlength
      refine ⟨octets ++ (toBeBytes sender ++ (o₁ ++ (o₂ ++ []))), rest₂, ?_,
        .cons ⟨type, hstring⟩ (.cons rfl (.cons h₁ (.cons h₂ .nil)))⟩
      simp only [List.append_assoc, List.nil_append]
    · obtain ⟨after, octets, hkinds, rfl, hshapes⟩ :=
        shaped_parseBody msg.code (msg.code :: rest) rest msg rest' hrun
      refine ⟨octets, rest', rfl, ?_⟩
      have hread : msg.readKinds = msg.kinds := by
        cases msg with
        | channelOpenUnknown sender type => exact absurd ⟨sender, type, rfl⟩ hunknown
        | _ => rfl
      rw [← hread, hkinds]
      exact hshapes

theorem not_complete_of_cutShort {data : Bytes} (h : CutShort data) :
    ∃ msg, parse data = .ok msg ∧ ¬ msg.Complete data := by
  obtain ⟨type, sender, octets, tail, hvalid, hunknown, hstring, hlt, rfl⟩ := h
  refine ⟨_, parse_of_cutShort hvalid hunknown hstring, ?_⟩
  rintro ⟨octets', rest, hdata, hshapes⟩
  obtain _ | ⟨⟨content, hcontent⟩, _ | ⟨h₁, _ | ⟨h₂, _ | ⟨h₃, _ | _⟩⟩⟩⟩ := hshapes
  injection hdata with _ hdata
  -- both readings begin with the same string, so what follows it is as long
  rw [List.append_assoc] at hdata
  obtain ⟨-, hrest⟩ := encodesString_inj hstring hcontent hdata
  have hlength := congrArg List.length hrest
  simp only [List.length_append, List.length_nil, length_toBeBytes] at hlength
  change _ = 4 at h₁
  change _ = 4 at h₂
  change _ = 4 at h₃
  omega

/-! ## The parser and the layouts -/

/-- From every encoding of a message the parser returns the message, unless the payload is one it
mistakes; and every payload that it accepts has all fields of the message, unless it is one that is
cut short. -/
theorem parse_faithful_iff (data : Bytes) :
    (∀ msg : Message, msg.Encodes data →
      (parse data = .ok msg ↔ isMistaken data = false ∧ ¬ RepeatsName data)) ∧
    ((∀ msg, parse data = .ok msg → msg.Complete data) ↔ ¬ CutShort data) := by
  refine ⟨fun msg => parse_of_encodes, fun hcomplete hcut => ?_,
    fun hcut msg => complete_of_parse hcut⟩
  obtain ⟨msg, hparse, hnot⟩ := not_complete_of_cutShort hcut
  exact hnot (hcomplete msg hparse)

/-- An `SSH_MSG_DEBUG` to be displayed, with TRUE as 2, an `SSH_MSG_USERAUTH_FAILURE` that lists no
method, and an `SSH_MSG_EXT_INFO` with two values for the extension `a`. -/
theorem parse_mistakes :
    ((debug true [] []).Encodes [4, 2, 0, 0, 0, 0, 0, 0, 0, 0] ∧
      parse [4, 2, 0, 0, 0, 0, 0, 0, 0, 0] = .ok (.debug false [] [])) ∧
    ((authenticationFailure [] false).Encodes [51, 0, 0, 0, 0, 0] ∧
      parse [51, 0, 0, 0, 0, 0] = .ok (.authenticationFailure [[]] false)) ∧
    ((extInfo [(ascii "a", ascii "0"), (ascii "a", [])]).Encodes
        [7, 0, 0, 0, 2, 0, 0, 0, 1, 97, 0, 0, 0, 0, 0, 0, 0, 1, 97, 0, 0, 0, 1, 48] ∧
      parse [7, 0, 0, 0, 2, 0, 0, 0, 1, 97, 0, 0, 0, 0, 0, 0, 0, 1, 97, 0, 0, 0, 1, 48] =
        .ok (.extInfo [(ascii "a", ascii "0")])) := by
  have hempty : EncodesString [] [0, 0, 0, 0] := ⟨by decide, by decide⟩
  have hname : EncodesString (ascii "a") [0, 0, 0, 1, 97] := ⟨by decide, by decide⟩
  have hvalue : EncodesString (ascii "0") [0, 0, 0, 1, 48] := ⟨by decide, by decide⟩
  refine ⟨⟨⟨trivial, ⟨false, 0, 0, []⟩, _, rfl, ?_⟩, by decide +kernel⟩,
    ⟨⟨trivial, ⟨false, 0, 0, []⟩, _, rfl, ?_⟩, by decide +kernel⟩,
    ⟨trivial, ⟨false, 0, 0, []⟩, _, rfl, ?_⟩, by decide +kernel⟩
  · change EncodesAll _ ([2] ++ ([0, 0, 0, 0] ++ ([0, 0, 0, 0] ++ [])))
    exact .cons ⟨2, rfl, by decide⟩ (.cons ⟨rfl, hempty⟩ (.cons ⟨rfl, hempty⟩ .nil))
  · change EncodesAll _ ([0, 0, 0, 0] ++ ([0] ++ []))
    exact .cons ⟨nofun, hempty⟩ (.cons ⟨0, rfl, by decide⟩ .nil)
  · change EncodesAll _ (([0, 0, 0, 2] ++ ([0, 0, 0, 1, 97] ++ ([0, 0, 0, 0] ++
      ([0, 0, 0, 1, 97] ++ ([0, 0, 0, 1, 48] ++ []))))) ++ [])
    exact .cons ⟨_, by decide, rfl, .cons (by decide) hname hempty
      (.cons (by decide) hname hvalue .nil)⟩ .nil

end Message

end Flatline
