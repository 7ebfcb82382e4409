import Flatline.Common.Entries
import Flatline.Common.Triple
import Flatline.Wire.Buffer
import Flatline.Wire.Protocol

/-!
# Messages from the server

`Message` is what `Message::parse` makes of a payload. The parser reads exactly the fields below
and ignores whatever follows them.

Source: `src/ssh/msg.rs`.
-/

namespace Flatline

export Entries (insertKey removeKey)

/-- `msg::Message`. The extension map of `extInfo` is a list of entries, the newest first. -/
inductive Message where
  | debug (alwaysDisplay : Bool) (message language : Text)
  | extInfo (extensions : List (Text × Bytes))
  | ignore (data : Bytes)
  | serviceAccept (service : Text)
  | disconnect (reason : UInt32) (description language : Text)
  | unimplemented (sequenceNumber : UInt32)
  | authenticationSuccess
  | authenticationFailure (allowMethods : List Text) (partialSuccess : Bool)
  | authenticationBanner (message language : Text)
  | channelOpenConfirmation (recipientChannel senderChannel initialWindowSize
      maximumPacketSize : UInt32)
  | channelOpenFailure (recipientChannel reasonCode : UInt32) (description language : Text)
  | channelSuccess (recipientChannel : UInt32)
  | channelFailure (recipientChannel : UInt32)
  | channelData (recipientChannel : UInt32) (data : Bytes)
  | channelExtendedData (recipientChannel dataType : UInt32) (data : Bytes)
  | channelWindowAdjust (recipientChannel count : UInt32)
  | channelFlowControl (recipientChannel : UInt32) (wantReply on : Bool)
  | channelExitStatus (recipientChannel : UInt32) (wantReply : Bool) (exitStatus : UInt32)
  | channelExitSignal (recipientChannel : UInt32) (wantReply : Bool) (signal : Text)
      (coreDumped : Bool) (errorMessage language : Text)
  | channelEof (recipientChannel : UInt32)
  | channelClose (recipientChannel : UInt32)
  | channelOpenForwardedTcpIp (senderChannel initialWindowSize maximumPacketSize : UInt32)
      (connectedAddress : Text) (connectedPort : UInt32)
      (originatorAddress : Text) (originatorPort : UInt32)
  | channelOpenAgentConnect (senderChannel initialWindowSize maximumPacketSize : UInt32)
  | channelOpenX11 (senderChannel initialWindowSize maximumPacketSize : UInt32)
      (originatorAddress : Text) (originatorPort : UInt32)
  | channelOpenForwardedStreamLocal (senderChannel initialWindowSize maximumPacketSize : UInt32)
      (path reserved : Text)
  | channelOpenUnknown (senderChannel : UInt32) (type : Text)
  | channelUnknownRequest (recipientChannel : UInt32) (type : Text) (wantReply : Bool)
  | globalRequestKeepAliveOpenSSH (wantReply : Bool)
  | globalRequestHostKeysOpenSSH (wantReply : Bool) (hostKeys : List Bytes)
  | globalUnknownRequest (wantReply : Bool) (type : Text)
  | requestSuccess
  | requestFailure
  | ping (data : Bytes)
  | pong (data : Bytes)
  | unrecognized (code : UInt8) (data : Bytes)
deriving DecidableEq, Repr

namespace Message

open Consumer

/-- `str::from_utf8(consumer.consume_one()?).context(ExpectStringSnafu)?`. -/
def consumeStr : Consumer Text :=
  consumeText (.transport .expectString)

/-- One octet read as a boolean, `consume_u8()? != 0`. -/
def consumeBool : Consumer Bool := do
  return (← consumeU8) != 0

/-- The `count` entries of an `SSH_MSG_EXT_INFO`, inserted into the map one after the other. -/
def consumeExtensions : ℕ → List (Text × Bytes) → Consumer (List (Text × Bytes))
  | 0, extensions => pure extensions
  | count + 1, extensions => do
    let name ← consumeStr
    let value ← consumeOne
    consumeExtensions count (insertKey extensions name value)

/-- The loop that reads strings until the payload is used up; `fuel` bounds its turns. Every turn
consumes at least four octets, so the unread length is fuel enough (`consumeOnes_of_length_le`). -/
def consumeOnes : ℕ → Consumer (List Bytes)
  | 0 => pure []
  | fuel + 1 => do
    if (← peek).isEmpty then return []
    let content ← consumeOne
    return content :: (← consumeOnes fuel)

/-- More fuel than unread octets makes no difference: the loop has ended by itself. -/
theorem consumeOnes_of_length_le (fuel : ℕ) (rest : Bytes) (h : rest.length ≤ fuel) :
    consumeOnes fuel rest = consumeOnes rest.length rest := by
  induction fuel using Nat.strongRecOn generalizing rest with
  | ind fuel ih =>
    cases fuel with
    | zero =>
      have hrest : rest = [] := List.length_eq_zero_iff.mp (by omega)
      subst hrest
      rfl
    | succ fuel =>
      cases rest with
      | nil => rfl
      | cons b rest =>
        -- both sides read one string; the rest is shorter, so the induction applies to both
        simp only [List.length_cons, consumeOnes, peek, bind, EStateM.bind, get, getThe,
          MonadStateOf.get, EStateM.get, List.isEmpty_cons, Bool.false_eq_true, if_false]
        cases hone : consumeOne (b :: rest) with
        | error e rest' => rfl
        | ok content rest' =>
          have hlen := consumeOne_length hone
          simp only [List.length_cons] at hlen h
          simp only
          rw [ih fuel (by omega) rest' (by omega), ih rest.length (by omega) rest' (by omega)]

/-- The arms of `SSH_MSG_CHANNEL_REQUEST`. -/
def parseChannelRequest : Consumer Message := do
  let recipientChannel ← consumeU32
  let type ← consumeOne
  if type = ascii "xon-xoff" then
    let wantReply ← consumeBool
    let on ← consumeBool
    return .channelFlowControl recipientChannel wantReply on
  else if type = ascii "exit-status" then
    let wantReply ← consumeBool
    let exitStatus ← consumeU32
    return .channelExitStatus recipientChannel wantReply exitStatus
  else if type = ascii "exit-signal" then
    let wantReply ← consumeBool
    let signal ← consumeStr
    let coreDumped ← consumeBool
    let errorMessage ← consumeStr
    let language ← consumeStr
    return .channelExitSignal recipientChannel wantReply signal coreDumped errorMessage language
  else
    let wantReply ← consumeBool
    if utf8Valid type then
      return .channelUnknownRequest recipientChannel type wantReply
    else
      throw (.transport .expectString)

/-- The arms of `SSH_MSG_GLOBAL_REQUEST`. -/
def parseGlobalRequest : Consumer Message := do
  let type ← consumeStr
  let wantReply ← consumeBool
  if type = sshGlobalRequestTypeKeepAlive then
    return .globalRequestKeepAliveOpenSSH wantReply
  else if type = sshGlobalRequestTypeHostKeys then
    let hostKeys ← consumeOnes (← peek).length
    return .globalRequestHostKeysOpenSSH wantReply hostKeys
  else
    return .globalUnknownRequest wantReply type

/-- The arms of `SSH_MSG_CHANNEL_OPEN`. -/
def parseChannelOpen : Consumer Message := do
  let type ← consumeStr
  if type = sshChannelTypeForwardedTcpIp then
    let senderChannel ← consumeU32
    let initialWindowSize ← consumeU32
    let maximumPacketSize ← consumeU32
    let connectedAddress ← consumeStr
    let connectedPort ← consumeU32
    let originatorAddress ← consumeStr
    let originatorPort ← consumeU32
    return .channelOpenForwardedTcpIp senderChannel initialWindowSize maximumPacketSize
      connectedAddress connectedPort originatorAddress originatorPort
  else if type = sshChannelTypeAgentConnect ∨ type = sshChannelTypeAgentConnectOpenSSH then
    let senderChannel ← consumeU32
    let initialWindowSize ← consumeU32
    let maximumPacketSize ← consumeU32
    return .channelOpenAgentConnect senderChannel initialWindowSize maximumPacketSize
  else if type = sshChannelTypeX11 then
    let senderChannel ← consumeU32
    let initialWindowSize ← consumeU32
    let maximumPacketSize ← consumeU32
    let originatorAddress ← consumeStr
    let originatorPort ← consumeU32
    return .channelOpenX11 senderChannel initialWindowSize maximumPacketSize
      originatorAddress originatorPort
  else if type = sshChannelTypeForwardedStreamLocal then
    let senderChannel ← consumeU32
    let initialWindowSize ← consumeU32
    let maximumPacketSize ← consumeU32
    let path ← consumeStr
    let reserved ← consumeStr
    return .channelOpenForwardedStreamLocal senderChannel initialWindowSize maximumPacketSize
      path reserved
  else
    let senderChannel ← consumeU32
    return .channelOpenUnknown senderChannel type

/-- The body of `Message::parse` after the message number; `data` is the whole payload. -/
def parseBody (code : UInt8) (data : Bytes) : Consumer Message := do
  if code = sshMsgDebug then
    let alwaysDisplay := (← consumeU8) == 1
    let message ← consumeStr
    let language ← consumeStr
    return .debug alwaysDisplay message language
  else if code = sshMsgExtInfo then
    let count ← consumeU32
    return .extInfo (← consumeExtensions count.toNat [])
  else if code = sshMsgServiceAccept then
    return .serviceAccept (← consumeStr)
  else if code = sshMsgIgnore then
    return .ignore (← consumeOne)
  else if code = sshMsgDisconnect then
    let reason ← consumeU32
    let description ← consumeStr
    let language ← consumeStr
    return .disconnect reason description language
  else if code = sshMsgUnimplemented then
    return .unimplemented (← consumeU32)
  else if code = sshMsgUserauthBanner then
    let message ← consumeStr
    let language ← consumeStr
    return .authenticationBanner message language
  else if code = sshMsgUserauthFailure then
    let allowMethods := splitComma (← consumeStr)
    let partialSuccess ← consumeBool
    return .authenticationFailure allowMethods partialSuccess
  else if code = sshMsgUserauthSuccess then
    return .authenticationSuccess
  else if code = sshMsgChannelOpenConfirmation then
    let recipientChannel ← consumeU32
    let senderChannel ← consumeU32
    let initialWindowSize ← consumeU32
    let maximumPacketSize ← consumeU32
    return .channelOpenConfirmation recipientChannel senderChannel initialWindowSize
      maximumPacketSize
  else if code = sshMsgChannelOpenFailure then
    let recipientChannel ← consumeU32
    let reasonCode ← consumeU32
    let description ← consumeStr
    let language ← consumeStr
    return .channelOpenFailure recipientChannel reasonCode description language
  else if code = sshMsgChannelSuccess then
    return .channelSuccess (← consumeU32)
  else if code = sshMsgChannelFailure then
    return .channelFailure (← consumeU32)
  else if code = sshMsgChannelData then
    let recipientChannel ← consumeU32
    let content ← consumeOne
    return .channelData recipientChannel content
  else if code = sshMsgChannelExtendedData then
    let recipientChannel ← consumeU32
    let dataType ← consumeU32
    let content ← consumeOne
    return .channelExtendedData recipientChannel dataType content
  else if code = sshMsgChannelWindowAdjust then
    let recipientChannel ← consumeU32
    let count ← consumeU32
    return .channelWindowAdjust recipientChannel count
  else if code = sshMsgChannelRequest then
    parseChannelRequest
  else if code = sshMsgGlobalRequest then
    parseGlobalRequest
  else if code = sshMsgChannelOpen then
    parseChannelOpen
  else if code = sshMsgPing then
    return .ping (← consumeOne)
  else if code = sshMsgPong then
    return .pong (← consumeOne)
  else if code = sshMsgChannelClose then
    return .channelClose (← consumeU32)
  else if code = sshMsgChannelEof then
    return .channelEof (← consumeU32)
  else if code = sshMsgRequestSuccess then
    return .requestSuccess
  else if code = sshMsgRequestFailure then
    return .requestFailure
  else
    return .unrecognized code data

/-- `Message::parse`. -/
def parse (data : Bytes) : Except Error Message :=
  Consumer.run' (do parseBody (← consumeU8) data) data

/-! ## Message numbers of parsed messages -/

/-- The number a message goes by on the wire. -/
def code : Message → UInt8
  | .debug .. => sshMsgDebug
  | .extInfo .. => sshMsgExtInfo
  | .ignore .. => sshMsgIgnore
  | .serviceAccept .. => sshMsgServiceAccept
  | .disconnect .. => sshMsgDisconnect
  | .unimplemented .. => sshMsgUnimplemented
  | .authenticationSuccess => sshMsgUserauthSuccess
  | .authenticationFailure .. => sshMsgUserauthFailure
  | .authenticationBanner .. => sshMsgUserauthBanner
  | .channelOpenConfirmation .. => sshMsgChannelOpenConfirmation
  | .channelOpenFailure .. => sshMsgChannelOpenFailure
  | .channelSuccess .. => sshMsgChannelSuccess
  | .channelFailure .. => sshMsgChannelFailure
  | .channelData .. => sshMsgChannelData
  | .channelExtendedData .. => sshMsgChannelExtendedData
  | .channelWindowAdjust .. => sshMsgChannelWindowAdjust
  | .channelFlowControl .. | .channelExitStatus .. | .channelExitSignal ..
  | .channelUnknownRequest .. => sshMsgChannelRequest
  | .channelEof .. => sshMsgChannelEof
  | .channelClose .. => sshMsgChannelClose
  | .channelOpenForwardedTcpIp .. | .channelOpenAgentConnect .. | .channelOpenX11 ..
  | .channelOpenForwardedStreamLocal .. | .channelOpenUnknown .. => sshMsgChannelOpen
  | .globalRequestKeepAliveOpenSSH .. | .globalRequestHostKeysOpenSSH ..
  | .globalUnknownRequest .. => sshMsgGlobalRequest
  | .requestSuccess => sshMsgRequestSuccess
  | .requestFailure => sshMsgRequestFailure
  | .ping .. => sshMsgPing
  | .pong .. => sshMsgPong
  | .unrecognized code _ => code

/-- The parser returns a message with the given number, if it returns one. -/
abbrev Numbered (number : UInt8) (m : Consumer Message) : Prop :=
  Triple.Holds (fun _ => True) m (fun msg _ => msg.code = number) (fun _ _ => True)

theorem numbered_return {number : UInt8} {msg : Message} (h : msg.code = number) :
    Numbered number (pure msg) :=
  Triple.Holds.pure fun _ _ => h

theorem Numbered.bind {α : Type} {number : UInt8} {m : Consumer α} {f : α → Consumer Message}
    (hf : ∀ a, Numbered number (f a)) : Numbered number (m >>= f) := by
  refine Triple.Holds.bind (Q := fun _ _ => True) (fun rest _ => ?_) hf
  cases m rest <;> trivial

theorem Numbered.ite {number : UInt8} {p : Prop} [Decidable p] {m m' : Consumer Message}
    (hm : p → Numbered number m) (hm' : ¬ p → Numbered number m') :
    Numbered number (if p then m else m') := by
  split
  · exact hm ‹_›
  · exact hm' ‹_›

theorem numbered_parseChannelRequest : Numbered sshMsgChannelRequest parseChannelRequest := by
  unfold parseChannelRequest
  repeat first
    | exact numbered_return rfl
    | exact Triple.Holds.throw fun _ _ => trivial
    | refine Numbered.bind fun _ => ?_
    | refine Numbered.ite (fun _ => ?_) (fun _ => ?_)

theorem numbered_parseGlobalRequest : Numbered sshMsgGlobalRequest parseGlobalRequest := by
  unfold parseGlobalRequest
  repeat first
    | exact numbered_return rfl
    | refine Numbered.bind fun _ => ?_
    | refine Numbered.ite (fun _ => ?_) (fun _ => ?_)

theorem numbered_parseChannelOpen : Numbered sshMsgChannelOpen parseChannelOpen := by
  unfold parseChannelOpen
  repeat first
    | exact numbered_return rfl
    | refine Numbered.bind fun _ => ?_
    | refine Numbered.ite (fun _ => ?_) (fun _ => ?_)

theorem numbered_parseBody (number : UInt8) (data : Bytes) :
    Numbered number (parseBody number data) := by
  unfold parseBody
  repeat first
    | exact numbered_return rfl
    | exact numbered_return (Eq.symm ‹_›)
    | exact ‹number = sshMsgChannelRequest› ▸ numbered_parseChannelRequest
    | exact ‹number = sshMsgGlobalRequest› ▸ numbered_parseGlobalRequest
    | exact ‹number = sshMsgChannelOpen› ▸ numbered_parseChannelOpen
    | refine Numbered.bind fun _ => ?_
    | refine Numbered.ite (fun _ => ?_) (fun _ => ?_)

/-- A parsed message bears the number its payload begins with. -/
theorem head?_of_parse {data : Bytes} {msg : Message} (h : parse data = .ok msg) :
    data.head? = some msg.code := by
  cases data with
  | nil => cases h
  | cons number rest =>
    have hbody : run' (parseBody number (number :: rest)) rest = .ok msg := h
    unfold run' at hbody
    cases hrun : parseBody number (number :: rest) rest with
    | error e rest' =>
      rw [hrun] at hbody
      cases hbody
    | ok msg' rest' =>
      rw [hrun] at hbody
      injection hbody with hbody
      have hcode := (numbered_parseBody number (number :: rest)).of_ok trivial hrun
      rw [List.head?_cons, ← hbody, hcode]

end Message

end Flatline
