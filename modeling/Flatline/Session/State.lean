import Flatline.Kex.Exchange
import Flatline.Transport.PlainStream
import Flatline.Wire.Message
import Mathlib

/-!
# Session state

The data of the backend task: channel handles, forward listeners, the session itself, and the
program point at which the task waits. `Backend` adds the history of the run, `log`, newest effect
first; no function of the client reads it.

Source: `src/session/backend.rs`, `src/session/channel.rs`, `src/session/forward.rs`.
-/

namespace Flatline

/-! ## Channels -/

/-- `channel::IdentityPair`. -/
structure IdentityPair where
  client : UInt32
  server : UInt32
deriving DecidableEq, Repr

/-- `channel::ExitStatus`. -/
inductive ExitStatus where
  | normal (code : UInt32)
  | interrupt (signal : Text) (coreDumped : Bool) (errorMessage : Text)
deriving DecidableEq, Repr

/-- `channel::Message`: what a channel's receiver gets. -/
inductive ChannelMessage where
  | close
  | eof
  | stdout (data : Bytes)
  | stderr (data : Bytes)
  | exit (status : ExitStatus)
  | flowControl (on : Bool)
  | windowChange (size : UInt32)
deriving DecidableEq, Repr

/-- `backend::ChannelEndpoint`. -/
structure ChannelEndpoint where
  id : UInt32
  initialWindowSize : UInt32
  usedWindowSize : ℤ
  maximumPacketSize : UInt32
  closed : Bool
  eof : Bool
deriving DecidableEq, Repr

/-- An endpoint of a channel that has just been opened. -/
def ChannelEndpoint.opened (id initialWindowSize maximumPacketSize : UInt32) :
    ChannelEndpoint where
  id
  initialWindowSize
  usedWindowSize := 0
  maximumPacketSize
  closed := false
  eof := false

/-- `ChannelEndpoint::left`, or `none` where the source panics: the assertion fails, or the
difference leaves the range of `i64`. -/
def ChannelEndpoint.left (endpoint : ChannelEndpoint) : Option ℕ :=
  let left : ℤ := endpoint.initialWindowSize.toNat - endpoint.usedWindowSize
  if 0 ≤ left ∧ left < 2 ^ 63 then some left.toNat else none

/-- The sending half of a queue, of a channel's messages or of a listener's streams. Every queue of
either kind has a number of its own; `closed` is `is_closed()`, the receiver has been dropped. -/
structure QueueSender where
  queue : ℕ
  closed : Bool
deriving DecidableEq, Repr

/-- `backend::ChannelHandle`. -/
structure ChannelHandle where
  client : ChannelEndpoint
  server : ChannelEndpoint
  sender : QueueSender
deriving DecidableEq, Repr

/-- The two numbers of a registered channel. -/
def ChannelHandle.id (handle : ChannelHandle) : IdentityPair :=
  ⟨handle.client.id, handle.server.id⟩

/-- The first element with `p`, and its position. -/
def locate {α : Type} (p : α → Bool) : List α → Option (ℕ × α)
  | [] => none
  | a :: rest =>
    if p a then some (0, a)
    else (locate p rest).map fun (index, found) => (index + 1, found)

/-! ## Forwarding -/

/-- `forward::SocketAddr`. -/
structure SocketAddr where
  host : Text
  port : UInt16
deriving DecidableEq, Repr

/-- `backend::ListenerHandle`; its queue takes the streams of the forwarded connections. -/
structure ListenerHandle where
  sender : QueueSender
  initialWindowSize : UInt32
  maximumPacketSize : UInt32
deriving DecidableEq, Repr

/-- `backend::Forward`: the maps as lists of entries, no key twice. -/
structure Forward where
  tcp : List (SocketAddr × ListenerHandle)
  local' : List (Text × ListenerHandle)
deriving DecidableEq, Repr

/-- The keys whose listener is closed. -/
def closedKeys {κ : Type} (map : List (κ × ListenerHandle)) : List κ :=
  (map.filter fun entry => entry.2.sender.closed).map Prod.fst

/-! ## Messages to the server -/

/-- The payloads the session sends. What is addressed to a channel names the channel by both its
numbers; only the server's goes on the wire. -/
inductive ClientMessage where
  | disconnect (reason : UInt32) (description : Text)
  | ignore (data : Bytes)
  | unimplemented (sequenceNumber : UInt32)
  | debug (alwaysDisplay : Bool) (message : Text)
  | serviceRequest (service : Text)
  | kexInit (payload : Bytes)
  | newKeys
  /-- A message of the matched key-exchange method. -/
  | kexMethod (payload : Bytes)
  | userauthRequest (username : Text) (method : Text) (fields : List Field)
  | userauthInfoResponse (count : UInt32) (responses : List Text)
  | globalRequest (type : Text) (wantReply : Bool) (fields : List Field)
  | requestSuccess
  | requestFailure
  | channelOpen (type : Text) (client initialWindowSize maximumPacketSize : UInt32)
      (fields : List Field)
  | channelOpenConfirmation (id : IdentityPair) (initialWindowSize maximumPacketSize : UInt32)
  | channelOpenFailure (recipient reasonCode : UInt32) (description : Text)
  | channelWindowAdjust (id : IdentityPair) (count : UInt32)
  | channelData (id : IdentityPair) (data : Bytes)
  | channelEof (id : IdentityPair)
  | channelClose (id : IdentityPair)
  | channelRequest (id : IdentityPair) (type : Text) (wantReply : Bool) (fields : List Field)
  | channelFailure (id : IdentityPair)
  | pong (data : Bytes)
deriving DecidableEq, Repr

/-- The payload of a message. -/
def ClientMessage.encode : ClientMessage → Bytes
  | .disconnect reason description =>
    makeBufferWithoutHeader [.u8 sshMsgDisconnect, .u32 reason, .one description, .one []]
  | .ignore data => makeBufferWithoutHeader [.u8 sshMsgIgnore, .one data]
  | .unimplemented sequenceNumber =>
    makeBufferWithoutHeader [.u8 sshMsgUnimplemented, .u32 sequenceNumber]
  | .debug alwaysDisplay message =>
    makeBufferWithoutHeader [.u8 sshMsgDebug, .bool alwaysDisplay, .one message, .one []]
  | .serviceRequest service => makeBufferWithoutHeader [.u8 sshMsgServiceRequest, .one service]
  | .kexInit payload => payload
  | .newKeys => [sshMsgNewkeys]
  | .kexMethod payload => payload
  | .userauthRequest username method fields =>
    makeBufferWithoutHeader ([.u8 sshMsgUserauthRequest, .one username,
      .one (ascii "ssh-connection"), .one method] ++ fields)
  | .userauthInfoResponse count responses =>
    makeBufferWithoutHeader ([.u8 sshMsgUserauthInfoResponse, .u32 count] ++
      responses.map Field.one)
  | .globalRequest type wantReply fields =>
    makeBufferWithoutHeader ([.u8 sshMsgGlobalRequest, .one type, .bool wantReply] ++ fields)
  | .requestSuccess => [sshMsgRequestSuccess]
  | .requestFailure => [sshMsgRequestFailure]
  | .channelOpen type client initialWindowSize maximumPacketSize fields =>
    makeBufferWithoutHeader ([.u8 sshMsgChannelOpen, .one type, .u32 client,
      .u32 initialWindowSize, .u32 maximumPacketSize] ++ fields)
  | .channelOpenConfirmation id initialWindowSize maximumPacketSize =>
    makeBufferWithoutHeader [.u8 sshMsgChannelOpenConfirmation, .u32 id.server, .u32 id.client,
      .u32 initialWindowSize, .u32 maximumPacketSize]
  | .channelOpenFailure recipient reasonCode description =>
    makeBufferWithoutHeader [.u8 sshMsgChannelOpenFailure, .u32 recipient, .u32 reasonCode,
      .one description, .one []]
  | .channelWindowAdjust id count =>
    makeBufferWithoutHeader [.u8 sshMsgChannelWindowAdjust, .u32 id.server, .u32 count]
  | .channelData id data =>
    makeBufferWithoutHeader [.u8 sshMsgChannelData, .u32 id.server, .one data]
  | .channelEof id => makeBufferWithoutHeader [.u8 sshMsgChannelEof, .u32 id.server]
  | .channelClose id => makeBufferWithoutHeader [.u8 sshMsgChannelClose, .u32 id.server]
  | .channelRequest id type wantReply fields =>
    makeBufferWithoutHeader ([.u8 sshMsgChannelRequest, .u32 id.server, .one type,
      .bool wantReply] ++ fields)
  | .channelFailure id => makeBufferWithoutHeader [.u8 sshMsgChannelFailure, .u32 id.server]
  | .pong data => makeBufferWithoutHeader [.u8 sshMsgPong, .one data]

/-- The message number of a payload. -/
def ClientMessage.code (message : ClientMessage) : UInt8 :=
  message.encode.headD 0

/-! ## Answers to the user -/

/-- `AuthenticationMethod`. -/
inductive AuthenticationMethod where
  | none
  | publicKey
  | password
  | hostBased
  | keyboardInteractive
  | gssapiWithMIC
  | gssapiKeyExchange
  | gssapi
  | externalKeyExchange
  | unknown (method : Text)
deriving DecidableEq, Repr

/-- `AuthenticationMethod::from`. -/
def AuthenticationMethod.ofName (value : Text) : AuthenticationMethod :=
  if value = ascii "none" then .none
  else if value = ascii "publickey" then .publicKey
  else if value = ascii "password" then .password
  else if value = ascii "hostbased" then .hostBased
  else if value = ascii "keyboard-interactive" then .keyboardInteractive
  else if value = ascii "gssapi-with-mic" then .gssapiWithMIC
  else if value = ascii "gssapi-keyex" then .gssapiKeyExchange
  else if value = ascii "gssapi" then .gssapi
  else if value = ascii "external-keyx" then .externalKeyExchange
  else .unknown value

/-- `AuthenticateResult`. -/
inductive AuthenticateResult where
  | success
  | passwordChangeRequired
  | failure (allowMethods : List AuthenticationMethod) (partialSuccess : Bool)
deriving DecidableEq, Repr

/-- What an event is answered with when it succeeds. -/
inductive Reply where
  | done
  | sent (size : ℕ)
  | channel (id : IdentityPair) (queue : ℕ)
  | authentication (result : AuthenticateResult)
  | tcpListener (addr : SocketAddr) (queue : ℕ)
  | localListener (path : Text) (queue : ℕ)
deriving DecidableEq, Repr

/-! ## Effects -/

/-- Who started a key exchange: a `SSH_MSG_KEXINIT` of the server that found the backend idle, one
that was put off until an event had ended, or the user. -/
inductive RekeyOrigin where
  | server
  | deferred
  | user
deriving DecidableEq, Repr

/-- Who gets a `Channel` that has come into being: whoever asked for it, the listener with that queue,
together with the originator of a TCP connection, or nobody, so that it is dropped at once. -/
inductive Recipient where
  | user
  | listener (queue : ℕ) (originator : Option SocketAddr)
  | nobody
deriving DecidableEq, Repr

/-- What a run has done, one entry at a time. -/
inductive Effect where
  | received (payload : Bytes)
  | sent (message : ClientMessage)
  /-- A handle was pushed onto `channels`. -/
  | registered (id : IdentityPair) (queue : ℕ)
  /-- A handle was removed from `channels`. -/
  | removed (id : IdentityPair) (queue : ℕ)
  | delivered (queue : ℕ) (message : ChannelMessage)
  /-- A `Channel` came into being; dropping it queues a `ChannelClose` event. -/
  | handedOver (id : IdentityPair) (queue : ℕ) (recipient : Recipient)
  | answered (result : Except Error Reply)
  /-- A key exchange failed after the client's `SSH_MSG_KEXINIT` had been sent. -/
  | rekeyFailed (origin : RekeyOrigin) (error : Error)

/-! ## The session -/

/-- What the backend asks of its `CipherStream`. The keys are those of the last key exchange, none
before the first rekey. -/
structure SessionSocket where
  client : NormalEndpoint
  server : NormalEndpoint
  authenticated : Bool
  clientKeys : Option Keys
  serverKeys : Option Keys
deriving DecidableEq, Repr

/-- `backend::SessionInner`. `frontend` says whether the weak sender can still be upgraded. -/
structure SessionInner where
  sessionId : Bytes
  socket : SessionSocket
  config : Config
  clientVersion : Text
  serverVersion : Text
  frontend : Bool
  compatOptions : CompatOptions
  channels : List ChannelHandle
  serverAlgorithms : List Text
  serverPingSupported : Bool
  forward : Forward
  renegotiating : Bool
  renegotiateMsg : Option Bytes

namespace SessionInner

/-- The handle that lookups by the client's number find. -/
def byClient (session : SessionInner) (id : UInt32) : Option (ℕ × ChannelHandle) :=
  locate (fun handle => handle.client.id == id) session.channels

/-- The handle that lookups by the server's number find. -/
def byServer (session : SessionInner) (id : UInt32) : Option (ℕ × ChannelHandle) :=
  locate (fun handle => handle.server.id == id) session.channels

/-- `SessionInner::next_channel_id`. -/
def nextChannelId (session : SessionInner) : UInt32 :=
  (session.channels.foldl (fun id handle => max id handle.client.id) 0) + 1

end SessionInner

/-! ## Program points -/

/-- What `authenticate_public_key` keeps while it waits for `SSH_MSG_USERAUTH_PK_OK`. -/
structure PublicKeyQuery where
  username : Text
  signer : Signature
  method : Text
  publicBlob : Bytes
  privateBlob : Bytes

/-- The receive loops of the authentication methods. -/
inductive AuthenticationWait where
  | none
  | password
  | publicKeyQuery (query : PublicKeyQuery)
  | publicKeySignature
  | keyboardInteractive

/-- The receive loops of the events, with what is left to do after them. -/
inductive Wait where
  | serviceAccept
  | authentication (wait : AuthenticationWait)
  /-- `wait_for_channel_response`; `opened` is the queue of the channel that `channel_open_sftp`
  returns afterwards. -/
  | channelResponse (id : IdentityPair) (opened : Option ℕ)
  /-- `wait_for_opening_channel` for the endpoint with this number, window and packet size, as part
  of `channel_open_sftp` or of a plain open. -/
  | openingChannel (clientId initialWindowSize maximumPacketSize : UInt32) (sftp : Bool)
  | streamLocalForward (path : Text) (initialWindowSize maximumPacketSize : UInt32)
  | tcpIpForward (addr : SocketAddr) (initialWindowSize maximumPacketSize : UInt32)
  /-- The listeners a clean-up still has to cancel after this one; nothing for a plain
  cancellation. -/
  | cancelTcpIpForward (addr : SocketAddr) (rest : List SocketAddr) (forwardLocal : Bool)
  | cancelStreamLocalForward (path : Text) (rest : List Text)

/-- `handshake::RekeyExchange` once the methods are matched. -/
structure Rekey where
  clientKexMsg : Bytes
  serverKexMsg : Bytes
  matched : MatchedMethods

/-- The receive loops of `RekeyExchange`. -/
inductive RekeyPhase where
  | kexInit (clientKexMsg : Bytes)
  | group (rekey : Rekey) (exchange : Exchange)
  | reply (rekey : Rekey) (group : Option (Bytes × Bytes)) (seed : ℕ) (clientPublicKey : Bytes)
  | newKeys (rekey : Rekey) (keys : Keys)

/-- How a chain of calls stops early. -/
inductive Fault where
  /-- An error that `?` hands to the caller. -/
  | error (error : Error)
  | panicked
  /-- The loop of `channel_send` goes on forever. -/
  | stuck
deriving DecidableEq, Repr

/-- Where the backend task is: at the `select!` of `exec`, in a receive loop of an event, in a
receive loop of a key exchange, or at its end. -/
inductive Task where
  | idle
  | waiting (wait : Wait)
  | rekeying (origin : RekeyOrigin) (phase : RekeyPhase)
  | exited (result : Except Fault Unit)

/-- The backend task and the history of its run. -/
structure Backend extends SessionInner where
  task : Task
  /-- The number of the next queue of a channel. -/
  nextQueue : ℕ
  /-- The number of the next queue of a listener. -/
  nextListener : ℕ
  /-- How many payloads the run has tried to write. -/
  attempts : ℕ
  log : List Effect

/-- A session right after the handshake: what `SessionInner::new` sets, and a run that has done
nothing yet. -/
structure Backend.IsInitial (s : Backend) : Prop where
  channels : s.channels = []
  serverAlgorithms : s.serverAlgorithms = []
  serverPingSupported : s.serverPingSupported = false
  forward : s.forward = ⟨[], []⟩
  renegotiating : s.renegotiating = false
  renegotiateMsg : s.renegotiateMsg = none
  task : s.task = .idle
  log : s.log = []

end Flatline
