import Flatline.Session.State
import Mathlib

/-!
# Handling messages nobody waits for

`handle_msg` and its arms. A handler runs in `BackendM`: it changes the backend and may stop with a
fault, which keeps what it has changed so far. What it draws from its surroundings (the socket, the
notifier, random octets) is in `Env`.

Source: `src/session/backend.rs`.
-/

namespace Flatline

/-! ## Surroundings -/

/-- What the surroundings decide while the backend handles one input. -/
structure Env where
  /-- The attempts to write a payload that fail, and with which error. -/
  writeErrors : List (ℕ × Error)
  /-- The verdict of `agent_forward`, `x11_forward` and `server_host_keys`. -/
  accept : Bool
  /-- The window and packet size `agent_forward` and `x11_forward` leave in their arguments. -/
  initialWindowSize : UInt32
  maximumPacketSize : UInt32
  /-- The notifier still holds the receiver of the forwarded stream. -/
  streamTaken : Bool
  verifyServerHostKey : Text → Bytes → Bool
  cookie : Cookie
  seed : ℕ
  /-- `KeyboardInteractive::interactive`. -/
  interactive : (name instruction : Text) → (prompts : List (Text × Bool)) →
    Except Error (List Text)
  /-- The order in which the forward maps are iterated. -/
  order : ℕ
  /-- How many turns of an endless loop of `channel_send` are carried out. -/
  idleTurns : ℕ

/-- The error the given attempt to write a payload ends with, if it fails. -/
def Env.writeError (env : Env) (attempt : ℕ) : Option Error :=
  env.writeErrors.lookup attempt

/-- No write fails. -/
def Env.Writes (env : Env) : Prop :=
  env.writeErrors.isEmpty = true

instance (env : Env) : Decidable env.Writes :=
  inferInstanceAs (Decidable (_ = true))

theorem Env.Writes.writeError_eq_none {env : Env} (h : env.Writes) (attempt : ℕ) :
    env.writeError attempt = none := by
  rw [Env.writeError, List.isEmpty_iff.mp h]
  rfl

/-- The order in which a map with the given keys is iterated. -/
def Env.iterate {κ : Type} (env : Env) (keys : List κ) : List κ :=
  keys.permutations.getD env.order keys

/-! ## Primitive steps -/

/-- A step of the backend. -/
abbrev BackendM := EStateM Fault Backend

/-- A fallible computation that touches nothing. -/
def liftExcept {α : Type} (x : Except Error α) : BackendM α :=
  match x with
  | .ok a => pure a
  | .error e => throw (.error e)

/-- Extend the history. -/
def Backend.note (s : Backend) (effect : Effect) : Backend :=
  { s with log := effect :: s.log }

def note (effect : Effect) : BackendM Unit :=
  modify fun s => s.note effect

/-- The backend after a payload has been written: the client's sequence number goes up, or starts
again with the `SSH_MSG_NEWKEYS` of a strict key exchange. -/
def Backend.afterSend (s : Backend) (message : ClientMessage) : Backend :=
  let reset := message.code = sshMsgNewkeys ∧ s.socket.client.kexStrict = true ∧
    s.socket.server.kexStrict = true
  { s with
    attempts := s.attempts + 1
    socket.client.sequenceNumber := if reset then 0 else s.socket.client.sequenceNumber + 1
    log := .sent message :: s.log }

/-- `CipherStream::send_payload`: a payload that is too long is refused before anything is
written. A write that fails leaves octets of the packet in the write buffer, which the next write
sends first; here the packet is given up instead, so what a run is said to have sent is what it has
put on the wire as long as no write fails (`Input.Writes`). -/
def sendPayload (env : Env) (message : ClientMessage) : BackendM Unit := fun s =>
  if message.encode.length > maxPacketPayloadLength then
    .error (.error (.transport
      (.payloadTooLong maxPacketPayloadLength message.encode.length))) s
  else
    match env.writeError s.attempts with
    | some e => .error (.error e) { s with attempts := s.attempts + 1 }
    | none => .ok () (s.afterSend message)

/-- `Sender::send` on a channel's queue; `false` when the receiver is gone. -/
def deliver (sender : QueueSender) (message : ChannelMessage) : BackendM Bool := do
  if sender.closed then
    return false
  else
    note (.delivered sender.queue message)
    return true

/-- Replace the handle at `index`. -/
def setChannel (index : ℕ) (handle : ChannelHandle) : BackendM Unit :=
  modify fun s => { s with channels := s.channels.set index handle }

/-- `self.channels.remove(index)`. -/
def removeChannel (index : ℕ) (handle : ChannelHandle) : BackendM Unit :=
  modify fun s => { s with
    channels := s.channels.eraseIdx index
    log := .removed handle.id handle.sender.queue :: s.log }

/-- `self.channels.push(handle)` with a new queue, whose number is returned. -/
def pushChannel (client server : ChannelEndpoint) : BackendM ℕ := do
  let queue := (← get).nextQueue
  modify fun s => { s with
    channels := s.channels ++ [⟨client, server, ⟨queue, false⟩⟩]
    nextQueue := queue + 1
    log := .registered ⟨client.id, server.id⟩ queue :: s.log }
  return queue

/-- A queue whose receiver has been dropped. -/
def ChannelHandle.dropQueue (queue : ℕ) (handle : ChannelHandle) : ChannelHandle :=
  if handle.sender.queue = queue then { handle with sender.closed := true } else handle

/-- Drop the receiver of a queue. -/
def dropReceiver (queue : ℕ) : BackendM Unit :=
  modify fun s => { s with channels := s.channels.map (.dropQueue queue) }

/-- `SessionInner::upgrade_frontend`, for the channel that receives from `queue`: when it fails the
receiver is dropped. -/
def upgradeFrontend (queue : ℕ) : BackendM Unit := do
  if (← get).frontend then
    return
  else
    dropReceiver queue
    throw (.error (.session (.unexpectedBehaviour (ascii "Maybe session should be shutdown"))))

/-! ## Channel data -/

/-- The window size at which `handle_channel_data` sends an adjustment. -/
def minWindowLeft : ℕ := 1024

/-- `left`, with the panic of the source. -/
def leftOrPanic (endpoint : ChannelEndpoint) : BackendM ℕ :=
  match endpoint.left with
  | some left => pure left
  | none => throw .panicked

/-- `used_window_size.unsigned_abs().try_into().unwrap_or(u32::MAX)`. -/
def ChannelEndpoint.adjustment (endpoint : ChannelEndpoint) : UInt32 :=
  if endpoint.usedWindowSize.natAbs < UInt32.size then UInt32.ofNat endpoint.usedWindowSize.natAbs
  else UInt32.ofNat (UInt32.size - 1)

/-- The end of `handle_channel_data`: refill the window when it runs low. -/
def adjustWindow (env : Env) (index : ℕ) (channel : ChannelHandle) : BackendM Unit := do
  let left ← leftOrPanic channel.client
  if left < minWindowLeft then
    let size := channel.client.adjustment
    sendPayload env (.channelWindowAdjust channel.id size)
    setChannel index { channel with
      client.usedWindowSize := channel.client.usedWindowSize - size.toNat }
  else
    return

/-- `handle_channel_data`. -/
def handleChannelData (env : Env) (clientId : UInt32) (data : Bytes) (stderr : Bool) :
    BackendM Unit := do
  match (← get).byClient clientId with
  | none => return
  | some (index, channel) =>
    if data.length > channel.client.maximumPacketSize.toNat then
      return
    else
      let left ← leftOrPanic channel.client
      if data.length > left then
        throw (.error (.session .channelWindowOverflow))
      else
        let channel := { channel with
          client.usedWindowSize := channel.client.usedWindowSize + data.length }
        setChannel index channel
        if ← deliver channel.sender (if stderr then .stderr data else .stdout data) then
          adjustWindow env index channel
        else
          return

/-- `handle_channel_window_adjust`. -/
def handleChannelWindowAdjust (clientId count : UInt32) : BackendM Unit := do
  match (← get).byClient clientId with
  | none => return
  | some (index, channel) =>
    let used := channel.server.usedWindowSize - count.toNat
    if used < -2 ^ 63 then
      throw (.error (.session .unexpectedWindowSize))
    else
      setChannel index { channel with server.usedWindowSize := used }
      let _ ← deliver channel.sender (.windowChange count)
      return

/-! ## Channel notifications -/

/-- Put a message into the queue of the channel with the given client number, if there is one:
`handle_channel_flow_control`, `handle_channel_exit_status` and `handle_channel_exit_signal`. -/
def notifyChannel (clientId : UInt32) (message : ChannelMessage) : BackendM Unit := do
  match (← get).byClient clientId with
  | none => return
  | some (_, channel) =>
    let _ ← deliver channel.sender message
    return

/-- `handle_channel_flow_control`. -/
def handleChannelFlowControl (recipientChannel : UInt32) (on : Bool) : BackendM Unit :=
  notifyChannel recipientChannel (.flowControl on)

/-- `handle_channel_exit_status`. -/
def handleChannelExitStatus (recipientChannel exitStatus : UInt32) : BackendM Unit :=
  notifyChannel recipientChannel (.exit (.normal exitStatus))

/-- `handle_channel_exit_signal`. -/
def handleChannelExitSignal (recipientChannel : UInt32) (signal : Text) (coreDumped : Bool)
    (errorMessage : Text) : BackendM Unit :=
  notifyChannel recipientChannel (.exit (.interrupt signal coreDumped errorMessage))

/-- `handle_channel_eof`. -/
def handleChannelEof (recipientChannel : UInt32) : BackendM Unit := do
  match (← get).byClient recipientChannel with
  | none => return
  | some (index, channel) =>
    let _ ← deliver channel.sender .eof
    setChannel index { channel with server.eof := true }

/-- `handle_channel_close`. -/
def handleChannelClose (recipientChannel : UInt32) : BackendM Unit := do
  match (← get).byClient recipientChannel with
  | none => return
  | some (index, channel) =>
    let _ ← deliver channel.sender .close
    let channel := { channel with server.closed := true }
    setChannel index channel
    if channel.client.closed then removeChannel index channel else return

/-- `handle_channel_unknown_request`. -/
def handleChannelUnknownRequest (env : Env) (recipientChannel : UInt32) (wantReply : Bool) :
    BackendM Unit := do
  match (← get).byClient recipientChannel with
  | none => return
  | some (_, channel) =>
    if wantReply then sendPayload env (.channelFailure channel.id) else return

/-! ## Global requests -/

/-- `handle_global_request_keep_alive_openssh`. -/
def handleGlobalRequestKeepAliveOpenSSH (env : Env) (wantReply : Bool) : BackendM Unit :=
  if wantReply then sendPayload env .requestSuccess else return

/-- `handle_global_request_hosts_key_openssh`; the notifier sees the keys and says `accept`. -/
def handleGlobalRequestHostsKeyOpenSSH (env : Env) (wantReply : Bool) : BackendM Unit :=
  if wantReply then
    sendPayload env (if env.accept then .requestSuccess else .requestFailure)
  else return

/-- `handle_global_unknown_request`. -/
def handleGlobalUnknownRequest (env : Env) (wantReply : Bool) : BackendM Unit :=
  if wantReply then sendPayload env .requestFailure else return

/-! ## Transport messages -/

/-- `send_pong`. -/
def sendPong (env : Env) (data : Bytes) : BackendM Unit :=
  sendPayload env (.pong data)

/-- `send_unimplemented`. -/
def sendUnimplemented (env : Env) : BackendM Unit := do
  sendPayload env (.unimplemented ((← get).socket.server.sequenceNumber - 1))

/-- The `ExtInfo` arm. -/
def handleExtInfo (extensions : List (Text × Bytes)) : BackendM Unit := do
  let ping : BackendM Unit :=
    if extensions.lookup (ascii "ping@openssh.com") = some (ascii "0") then
      modify fun s => { s with serverPingSupported := true }
    else return
  match extensions.lookup (ascii "server-sig-algs") with
  | none => ping
  | some methods =>
    if utf8Valid methods then
      modify fun s => { s with serverAlgorithms := splitComma methods }
      ping
    else
      return

/-! ## Channels the server opens -/

/-- The errors of the `verify` closures. -/
inductive OpenRefusal where
  | invalidPort
  | channelAlreadyOpen
  | requestFailure
  | noSuchForwardListener
deriving DecidableEq, Repr

/-- `e.to_string()`. -/
def OpenRefusal.display : OpenRefusal → Text
  | .invalidPort => ascii "Invalid port"
  | .channelAlreadyOpen => ascii "Channel already open"
  | .requestFailure => ascii "Request failure"
  | .noSuchForwardListener => ascii "Unexpected message: No such forward listener"

/-- What an accepted channel is opened with: the client's window and packet size, whether somebody
takes the stream, and who that is. -/
structure OpenGrant where
  initialWindowSize : UInt32
  maximumPacketSize : UInt32
  taken : Bool
  recipient : Recipient
deriving DecidableEq, Repr

/-- Who holds the stream in the end. -/
def OpenGrant.holder (grant : OpenGrant) : Recipient :=
  if grant.taken then grant.recipient else .nobody

/-- What the notifier grants. -/
def Env.grant (env : Env) : OpenGrant where
  initialWindowSize := env.initialWindowSize
  maximumPacketSize := env.maximumPacketSize
  taken := env.streamTaken
  recipient := .user

/-- What a listener grants. -/
def ListenerHandle.grant (listener : ListenerHandle) (originator : Option SocketAddr) :
    OpenGrant where
  initialWindowSize := listener.initialWindowSize
  maximumPacketSize := listener.maximumPacketSize
  taken := !listener.sender.closed
  recipient := .listener listener.sender.queue originator

/-- `u16::try_from`. -/
def portOf (port : UInt32) : Option UInt16 :=
  if port.toNat < UInt16.size then some (UInt16.ofNat port.toNat) else none

namespace SessionInner

/-- The `verify` of `handle_channel_open_agent_connect`. -/
def verifyAgentConnect (session : SessionInner) (env : Env) (senderChannel : UInt32) :
    Except OpenRefusal OpenGrant :=
  if (session.byServer senderChannel).isSome then .error .channelAlreadyOpen
  else if !env.accept then .error .requestFailure
  else .ok env.grant

/-- The `verify` of `handle_channel_open_x11`. -/
def verifyX11 (session : SessionInner) (env : Env) (senderChannel originatorPort : UInt32) :
    Except OpenRefusal OpenGrant :=
  match portOf originatorPort with
  | none => .error .invalidPort
  | some _ =>
    if (session.byServer senderChannel).isSome then .error .channelAlreadyOpen
    else if !env.accept then .error .requestFailure
    else .ok env.grant

/-- The `verify` of `handle_channel_open_forwarded_tcp_ip`. It does not look at `channels`. -/
def verifyForwardedTcpIp (session : SessionInner) (connectedAddress : Text)
    (connectedPort : UInt32) (originatorAddress : Text) (originatorPort : UInt32) :
    Except OpenRefusal OpenGrant :=
  match portOf connectedPort, portOf originatorPort with
  | some connectedPort, some originatorPort =>
    match session.forward.tcp.lookup ⟨connectedAddress, connectedPort⟩ with
    | none => .error .noSuchForwardListener
    | some listener => .ok (listener.grant (some ⟨originatorAddress, originatorPort⟩))
  | _, _ => .error .invalidPort

/-- The `verify` of `handle_channel_open_forwarded_stream_local`. It does not look at `channels`
either. -/
def verifyForwardedStreamLocal (session : SessionInner) (path : Text) :
    Except OpenRefusal OpenGrant :=
  match session.forward.local'.lookup path with
  | none => .error .noSuchForwardListener
  | some listener => .ok (listener.grant none)

end SessionInner

/-- The `SSH_MSG_CHANNEL_OPEN_FAILURE` of the handlers that have a `verify`. -/
def refuseChannel (env : Env) (senderChannel : UInt32) (refusal : OpenRefusal) : BackendM Unit :=
  sendPayload env (.channelOpenFailure senderChannel sshOpenConnectFailed refusal.display)

/-- `channel_close`. -/
def channelClose (env : Env) (id : IdentityPair) : BackendM Unit := do
  match (← get).byClient id.client with
  | none => throw (.error (.session (.unexpectedBehaviour (ascii "No such channel"))))
  | some (index, channel) =>
    sendPayload env (.channelClose id)
    let channel := { channel with client.closed := true }
    setChannel index channel
    if channel.server.closed then removeChannel index channel else return

/-- What the four handlers do with an accepted channel: confirm it, register it, hand its stream
over, and close it again when nobody takes the stream. The stream is dropped then, and its receiver
with it. -/
def acceptChannel (env : Env) (senderChannel initialWindowSize maximumPacketSize : UInt32)
    (grant : OpenGrant) : BackendM Unit := do
  let id : IdentityPair := ⟨(← get).nextChannelId, senderChannel⟩
  sendPayload env
    (.channelOpenConfirmation id grant.initialWindowSize grant.maximumPacketSize)
  let queue ← pushChannel (.opened id.client grant.initialWindowSize grant.maximumPacketSize)
    (.opened id.server initialWindowSize maximumPacketSize)
  upgradeFrontend queue
  note (.handedOver id queue grant.holder)
  if grant.taken then
    return
  else
    dropReceiver queue
    channelClose env id

/-- Accept or refuse, as the verdict says. -/
def openChannel (env : Env) (senderChannel initialWindowSize maximumPacketSize : UInt32)
    (verdict : Except OpenRefusal OpenGrant) : BackendM Unit :=
  match verdict with
  | .error refusal => refuseChannel env senderChannel refusal
  | .ok grant => acceptChannel env senderChannel initialWindowSize maximumPacketSize grant

/-- `handle_channel_open_agent_connect`. -/
def handleChannelOpenAgentConnect (env : Env)
    (senderChannel initialWindowSize maximumPacketSize : UInt32) : BackendM Unit := do
  openChannel env senderChannel initialWindowSize maximumPacketSize
    ((← get).verifyAgentConnect env senderChannel)

/-- `handle_channel_open_x11`. -/
def handleChannelOpenX11 (env : Env) (senderChannel initialWindowSize maximumPacketSize : UInt32)
    (originatorPort : UInt32) : BackendM Unit := do
  openChannel env senderChannel initialWindowSize maximumPacketSize
    ((← get).verifyX11 env senderChannel originatorPort)

/-- `handle_channel_open_forwarded_tcp_ip`. -/
def handleChannelOpenForwardedTcpIp (env : Env)
    (senderChannel initialWindowSize maximumPacketSize : UInt32) (connectedAddress : Text)
    (connectedPort : UInt32) (originatorAddress : Text) (originatorPort : UInt32) :
    BackendM Unit := do
  openChannel env senderChannel initialWindowSize maximumPacketSize
    ((← get).verifyForwardedTcpIp connectedAddress connectedPort originatorAddress originatorPort)

/-- `handle_channel_open_forwarded_stream_local`. -/
def handleChannelOpenForwardedStreamLocal (env : Env)
    (senderChannel initialWindowSize maximumPacketSize : UInt32) (path : Text) :
    BackendM Unit := do
  openChannel env senderChannel initialWindowSize maximumPacketSize
    ((← get).verifyForwardedStreamLocal path)

/-- `handle_channel_open_unknown`. -/
def handleChannelOpenUnknown (env : Env) (senderChannel : UInt32) (type : Text) : BackendM Unit :=
  sendPayload env (.channelOpenFailure senderChannel sshOpenUnknownChannelType
    (ascii "Unrecognized channel type: " ++ type))

/-! ## `handle_msg` -/

/-- The `KEXINIT` arm: an idle backend starts the exchange with the payload that is returned, a
busy one keeps it for later. -/
def handleKexInit (data : Bytes) (idle : Bool) : BackendM (Option Bytes) := do
  modify fun s => { s with renegotiating := true }
  if idle then
    return some data
  else
    modify fun s => { s with renegotiateMsg := s.renegotiateMsg.or (some data) }
    return none

/-- `SessionInner::handle_msg`. The payload it returns is the one the caller goes on to run
`renegotiate` with; everything else is done. -/
def handleMsg (env : Env) (msg : Message) (idle : Bool) : BackendM (Option Bytes) := do
  match msg with
  | .unrecognized code data =>
    if code = sshMsgKexinit ∧ (← get).renegotiating = false then
      handleKexInit data idle
    else
      sendUnimplemented env
      return none
  | .disconnect reason description _ =>
    throw (.error (.session (.disconnected reason description)))
  | .debug .. | .ignore .. | .unimplemented .. | .authenticationBanner .. | .pong ..
  | .requestSuccess | .requestFailure => return none
  | .serviceAccept .. | .authenticationFailure .. | .authenticationSuccess
  | .channelOpenConfirmation .. | .channelOpenFailure .. | .channelSuccess ..
  | .channelFailure .. => sendUnimplemented env; return none
  | .extInfo extensions => handleExtInfo extensions; return none
  | .channelData recipient data => handleChannelData env recipient data false; return none
  | .channelExtendedData recipient dataType data =>
    if dataType = sshExtendedDataStderr then handleChannelData env recipient data true
    else sendUnimplemented env
    return none
  | .ping data => sendPong env data; return none
  | .channelWindowAdjust recipient count => handleChannelWindowAdjust recipient count; return none
  | .channelFlowControl recipient _ on => handleChannelFlowControl recipient on; return none
  | .channelExitStatus recipient _ status => handleChannelExitStatus recipient status; return none
  | .channelExitSignal recipient _ signal coreDumped errorMessage _ =>
    handleChannelExitSignal recipient signal coreDumped errorMessage
    return none
  | .channelClose recipient => handleChannelClose recipient; return none
  | .channelEof recipient => handleChannelEof recipient; return none
  | .channelUnknownRequest recipient _ wantReply =>
    handleChannelUnknownRequest env recipient wantReply
    return none
  | .globalRequestKeepAliveOpenSSH wantReply =>
    handleGlobalRequestKeepAliveOpenSSH env wantReply
    return none
  | .globalRequestHostKeysOpenSSH wantReply _ =>
    handleGlobalRequestHostsKeyOpenSSH env wantReply
    return none
  | .globalUnknownRequest wantReply _ => handleGlobalUnknownRequest env wantReply; return none
  | .channelOpenForwardedTcpIp sender window packet address port originator originatorPort =>
    handleChannelOpenForwardedTcpIp env sender window packet address port originator originatorPort
    return none
  | .channelOpenAgentConnect sender window packet =>
    handleChannelOpenAgentConnect env sender window packet
    return none
  | .channelOpenX11 sender window packet _ originatorPort =>
    handleChannelOpenX11 env sender window packet originatorPort
    return none
  | .channelOpenForwardedStreamLocal sender window packet path _ =>
    handleChannelOpenForwardedStreamLocal env sender window packet path
    return none
  | .channelOpenUnknown sender type => handleChannelOpenUnknown env sender type; return none

end Flatline
