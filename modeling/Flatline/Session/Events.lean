import Flatline.Key.PublicFiles
import Flatline.Session.Handlers

/-!
# Events of the user

What `handle_event` does for each event up to its first receive, and what its receive loops do with
a packet. A function either finishes its event with a reply or names the loop it waits in next.

Source: `src/session/backend.rs`, `src/session/event.rs`.
-/

namespace Flatline

/-- `InteractiveMethod`. -/
inductive InteractiveMethod where
  | pam
  | bsd
  | other (method : Text)
deriving DecidableEq, Repr

/-- `InteractiveMethod::as_ref`. -/
def InteractiveMethod.name : InteractiveMethod → Text
  | .pam => ascii "pam"
  | .bsd => ascii "bsdauth"
  | .other method => method

/-- `event::Event`, without the senders its answers go to. The opcodes of a terminal mode are given
by their numbers. -/
inductive Event where
  | authenticateNone (username : Text)
  | authenticatePassword (username password : Text)
  | authenticatePublicKey (username method : Text) (isCertificate : Bool)
      (publicBlob privateBlob : Bytes)
  | authenticateKeyboardInteractive (username : Text) (methods : List InteractiveMethod)
  | requestAuthentication
  | sendDebugMessage (alwaysDisplay : Bool) (message : Text)
  | sendIgnoreMessage (data : Bytes)
  | channelRequestPty (channelId : IdentityPair) (terminal : Text) (wantReply : Bool)
      (columns rows width height : UInt32) (modes : List (UInt8 × UInt32))
  | channelRequestBreak (channelId : IdentityPair) (wantReply : Bool) (milliseconds : UInt32)
  | channelRequestShell (channelId : IdentityPair) (wantReply : Bool)
  | channelRequestExec (channelId : IdentityPair) (wantReply : Bool) (command : Text)
  | channelRequestAgent (channelId : IdentityPair) (wantReply : Bool)
  | channelRequestWindowChange (channelId : IdentityPair) (columns rows width height : UInt32)
  | channelRequestSignal (channelId : IdentityPair) (wantReply : Bool) (signal : Text)
  | channelRequestEnv (channelId : IdentityPair) (wantReply : Bool) (name value : Text)
  | channelRequestX11 (channelId : IdentityPair) (wantReply singleConnection : Bool)
      (protocol cookie : Text) (screen : UInt32)
  | channelOpenSFTP (initialWindowSize maximumPacketSize : UInt32)
  | channelOpenSession (initialWindowSize maximumPacketSize : UInt32)
  | channelOpenDirectTcpIp (target source : SocketAddr)
      (initialWindowSize maximumPacketSize : UInt32)
  | channelOpenDirectStreamLocal (initialWindowSize maximumPacketSize : UInt32) (path : Text)
  | channelSendData (channelId : IdentityPair) (data : Bytes)
  | channelClose (channelId : IdentityPair)
  | channelEof (channelId : IdentityPair)
  | clean (channel forwardTcp forwardLocal : Bool)
  | globalRequestTcpIPForward (addr : SocketAddr) (initialWindowSize maximumPacketSize : UInt32)
  | globalRequestCancelTcpIpForward (wantReply : Bool) (addr : SocketAddr)
  | globalRequestStreamLocalForward (path : Text) (initialWindowSize maximumPacketSize : UInt32)
  | globalRequestCancelStreamLocalForward (wantReply : Bool) (path : Text)
  | renegotiate
  | disconnect (reason : UInt32) (description : Text)
deriving DecidableEq, Repr

/-- The channel an event is about. -/
def Event.channelId? : Event → Option IdentityPair
  | .channelRequestPty id .. | .channelRequestBreak id .. | .channelRequestShell id ..
  | .channelRequestExec id .. | .channelRequestAgent id .. | .channelRequestWindowChange id ..
  | .channelRequestSignal id .. | .channelRequestEnv id .. | .channelRequestX11 id ..
  | .channelSendData id .. | .channelClose id | .channelEof id => some id
  | _ => none

/-- How far an event has come. -/
inductive Progress where
  | done (reply : Reply)
  | wait (wait : Wait)

/-! ## Channel requests -/

/-- Send an `SSH_MSG_CHANNEL_REQUEST` and wait for its answer, if one is wanted. -/
def channelRequest (env : Env) (id : IdentityPair) (type : Text) (wantReply : Bool)
    (fields : List Field) (opened : Option ℕ) : BackendM Progress := do
  sendPayload env (.channelRequest id type wantReply fields)
  return if wantReply then .wait (.channelResponse id opened) else .done .done

/-- `channel_request_subsystem`, on behalf of `channel_open_sftp`. -/
def channelRequestSubsystem (env : Env) (id : IdentityPair) (wantReply : Bool) (subsystem : Text)
    (opened : Option ℕ) : BackendM Progress :=
  channelRequest env id (ascii "subsystem") wantReply [.one subsystem] opened

/-- `channel_request_agent`. -/
def channelRequestAgent (env : Env) (id : IdentityPair) (wantReply : Bool) : BackendM Progress :=
  channelRequest env id (ascii "agent-req") wantReply [] none

/-- `channel_request_signal`. -/
def channelRequestSignal (env : Env) (id : IdentityPair) (wantReply : Bool) (signal : Text) :
    BackendM Progress :=
  channelRequest env id (ascii "signal") wantReply [.one signal] none

/-- `channel_request_exec`. -/
def channelRequestExec (env : Env) (id : IdentityPair) (wantReply : Bool) (command : Text) :
    BackendM Progress :=
  channelRequest env id (ascii "exec") wantReply [.one command] none

/-- `channel_request_x11`. -/
def channelRequestX11 (env : Env) (id : IdentityPair) (wantReply singleConnection : Bool)
    (protocol cookie : Text) (screen : UInt32) : BackendM Progress :=
  channelRequest env id (ascii "x11-req") wantReply
    [.bool singleConnection, .one protocol, .one cookie, .u32 screen] none

/-- `channel_request_env`. -/
def channelRequestEnv (env : Env) (id : IdentityPair) (wantReply : Bool) (name value : Text) :
    BackendM Progress :=
  channelRequest env id (ascii "env") wantReply [.one name, .one value] none

/-- `channel_request_shell`. -/
def channelRequestShell (env : Env) (id : IdentityPair) (wantReply : Bool) : BackendM Progress :=
  channelRequest env id (ascii "shell") wantReply [] none

/-- `channel_request_break`. -/
def channelRequestBreak (env : Env) (id : IdentityPair) (wantReply : Bool)
    (milliseconds : UInt32) : BackendM Progress :=
  channelRequest env id (ascii "break") wantReply [.u32 milliseconds] none

/-- The opcode that ends a list of terminal modes. -/
def ttyOpEnd : UInt8 := 0

/-- `channel_request_pty`. -/
def channelRequestPty (env : Env) (id : IdentityPair) (wantReply : Bool) (terminal : Text)
    (columns rows width height : UInt32) (modes : List (UInt8 × UInt32)) : BackendM Progress :=
  let producer := (modes.flatMap fun (opcode, value) => [Field.u8 opcode, .u32 value]) ++
    [.u8 ttyOpEnd]
  channelRequest env id (ascii "pty-req") wantReply
    [.one terminal, .u32 columns, .u32 rows, .u32 width, .u32 height,
      .bytes (makeBufferWithoutHeader producer)] none

/-- `channel_request_window_change`. -/
def channelRequestWindowChange (env : Env) (id : IdentityPair)
    (columns rows width height : UInt32) : BackendM Progress :=
  channelRequest env id (ascii "window-change") false
    [.u32 columns, .u32 rows, .u32 width, .u32 height] none

/-! ## Opening channels -/

/-- Send an `SSH_MSG_CHANNEL_OPEN` under the next number and wait for the server's verdict. -/
def channelOpen (env : Env) (type : Text) (initialWindowSize maximumPacketSize : UInt32)
    (fields : List Field) (sftp : Bool) : BackendM Progress := do
  let clientId := (← get).nextChannelId
  sendPayload env (.channelOpen type clientId initialWindowSize maximumPacketSize fields)
  return .wait (.openingChannel clientId initialWindowSize maximumPacketSize sftp)

/-- `channel_open_session`; with `sftp`, the beginning of `channel_open_sftp`. -/
def channelOpenSession (env : Env) (initialWindowSize maximumPacketSize : UInt32) (sftp : Bool) :
    BackendM Progress :=
  channelOpen env sshChannelTypeSession initialWindowSize maximumPacketSize [] sftp

/-- `channel_open_direct_tcp_ip`. -/
def channelOpenDirectTcpIp (env : Env) (initialWindowSize maximumPacketSize : UInt32)
    (target source : SocketAddr) : BackendM Progress :=
  channelOpen env sshChannelTypeDirectTcpIp initialWindowSize maximumPacketSize
    [.one target.host, .u32 target.port.toUInt32, .one source.host, .u32 source.port.toUInt32]
    false

/-- `channel_open_direct_stream_local`. -/
def channelOpenDirectStreamLocal (env : Env) (initialWindowSize maximumPacketSize : UInt32)
    (path : Text) : BackendM Progress :=
  channelOpen env directStremLocal initialWindowSize maximumPacketSize
    [.one path, .one [], .u32 0] false

/-- The end of `wait_for_opening_channel`: refuse a server number that is in use, register the
channel and, for `channel_open_sftp`, ask for the subsystem. -/
def finishOpening (env : Env) (client : ChannelEndpoint) (sftp : Bool)
    (senderChannel initialWindowSize maximumPacketSize : UInt32) : BackendM Progress := do
  if ((← get).byServer senderChannel).isSome then
    throw (.error (.session .channelAlreadyOpen))
  else
    let id : IdentityPair := ⟨client.id, senderChannel⟩
    let queue ← pushChannel client (.opened senderChannel initialWindowSize maximumPacketSize)
    upgradeFrontend queue
    note (.handedOver id queue .user)
    if sftp then channelRequestSubsystem env id true (ascii "sftp") (some queue)
    else return .done (.channel id queue)

/-! ## Sending, closing, cleaning -/

/-- How many octets the next `SSH_MSG_CHANNEL_DATA` carries. -/
def ChannelEndpoint.chunk (server : ChannelEndpoint) (remaining left : ℕ) : ℕ :=
  min (min (min remaining (maxPacketPayloadLength - 1 - 4 - 4)) server.maximumPacketSize.toNat) left

/-- The loop of `channel_send`. A turn that sends nothing leaves everything as it was, so the loop
never ends for a channel with packets of size zero: the fuel then runs out. -/
def channelSendLoop (env : Env) (id : IdentityPair) (index : ℕ) :
    ℕ → ChannelHandle → (data : Bytes) → (sent : ℕ) → BackendM ℕ
  | fuel, channel, data, sent => do
    if data = [] then
      return sent
    else
      let left ← leftOrPanic channel.server
      if left = 0 then
        return sent
      else
        match fuel with
        | 0 => throw .stuck
        | fuel + 1 =>
          let size := channel.server.chunk data.length left
          sendPayload env (.channelData id (data.take size))
          let channel := { channel with
            server.usedWindowSize := channel.server.usedWindowSize + size }
          setChannel index channel
          channelSendLoop env id index fuel channel (data.drop size) (sent + size)

/-- `channel_send`. -/
def channelSend (env : Env) (id : IdentityPair) (data : Bytes) : BackendM Progress := do
  match (← get).byServer id.server with
  | none => throw (.error (.invalidOperation
      (ascii "Channel(" ++ ascii (toString id.server) ++ ascii ") not found")))
  | some (index, channel) =>
    return .done (.sent (← channelSendLoop env id index (data.length + env.idleTurns) channel data 0))

/-- `channel_eof`. -/
def channelEof (env : Env) (id : IdentityPair) : BackendM Unit := do
  match (← get).byClient id.client with
  | none => throw (.error (.session (.unexpectedBehaviour (ascii "No such channel"))))
  | some (index, channel) =>
    sendPayload env (.channelEof id)
    setChannel index { channel with client.eof := true }

/-- One turn of `channel_clean`. -/
def cleanChannel (env : Env) (index : ℕ) (channel : ChannelHandle) : BackendM Unit := do
  if channel.sender.closed then
    if channel.client.closed then
      if channel.server.closed then removeChannel index channel else return
    else
      sendPayload env (.channelClose channel.id)
      let channel := { channel with client.closed := true }
      setChannel index channel
      if channel.server.closed then removeChannel index channel else return
  else
    return

/-- The loop of `channel_clean` over the positions below its argument, the highest first. -/
def channelCleanLoop (env : Env) : ℕ → BackendM Unit
  | 0 => return
  | index + 1 => do
    match (← get).channels[index]? with
    | none => throw .panicked
    | some channel =>
      cleanChannel env index channel
      channelCleanLoop env index

/-- `channel_clean`. -/
def channelClean (env : Env) : BackendM Unit := do
  channelCleanLoop env (← get).channels.length

/-! ## Forwarding requests -/

/-- Send the request of `global_request_cancel_stream_local_forward`. -/
def sendCancelStreamLocal (env : Env) (wantReply : Bool) (path : Text) : BackendM Unit :=
  sendPayload env (.globalRequest cancelStreamLocalForward wantReply [.one path])

/-- Send the request of `global_request_cancel_tcp_ip_forward`. -/
def sendCancelTcpIp (env : Env) (wantReply : Bool) (addr : SocketAddr) : BackendM Unit :=
  sendPayload env (.globalRequest sshGlobalRequestTypeCancelTcpIpForward wantReply
    [.one addr.host, .u32 addr.port.toUInt32])

/-- `self.forward.remove_local(path)`. -/
def removeLocal (path : Text) : BackendM Unit :=
  modify fun s => { s with forward.local' := removeKey s.forward.local' path }

/-- `self.forward.remove_tcp(addr)`. -/
def removeTcp (addr : SocketAddr) : BackendM Unit :=
  modify fun s => { s with forward.tcp := removeKey s.forward.tcp addr }

/-- The loop of `forward_local_clean` over the paths that are left. -/
def forwardLocalCleanLoop (env : Env) : List Text → BackendM Progress
  | [] => return .done .done
  | path :: rest => do
    sendCancelStreamLocal env true path
    return .wait (.cancelStreamLocalForward path rest)

/-- `forward_local_clean`, if it is asked for. -/
def forwardLocalClean (env : Env) (forwardLocal : Bool) : BackendM Progress := do
  if forwardLocal then
    forwardLocalCleanLoop env (env.iterate (closedKeys (← get).forward.local'))
  else
    return .done .done

/-- The loop of `forward_tcp_clean` over the addresses that are left, and what `clean` does after
it. -/
def forwardTcpCleanLoop (env : Env) (forwardLocal : Bool) : List SocketAddr → BackendM Progress
  | [] => forwardLocalClean env forwardLocal
  | addr :: rest => do
    sendCancelTcpIp env true addr
    return .wait (.cancelTcpIpForward addr rest forwardLocal)

/-- `clean`. -/
def clean (env : Env) (channel forwardTcp forwardLocal : Bool) : BackendM Progress := do
  let channels : BackendM Unit := if channel then channelClean env else return
  channels
  if forwardTcp then
    forwardTcpCleanLoop env forwardLocal (env.iterate (closedKeys (← get).forward.tcp))
  else
    forwardLocalClean env forwardLocal

/-- `global_request_cancel_tcp_ip_forward`. -/
def globalRequestCancelTcpIpForward (env : Env) (wantReply : Bool) (addr : SocketAddr) :
    BackendM Progress := do
  sendCancelTcpIp env wantReply addr
  if wantReply then
    return .wait (.cancelTcpIpForward addr [] false)
  else
    removeTcp addr
    return .done .done

/-- `global_request_cancel_stream_local_forward`. -/
def globalRequestCancelStreamLocalForward (env : Env) (wantReply : Bool) (path : Text) :
    BackendM Progress := do
  sendCancelStreamLocal env wantReply path
  if wantReply then
    return .wait (.cancelStreamLocalForward path [])
  else
    removeLocal path
    return .done .done

/-- `global_request_tcp_ip_forward`. -/
def globalRequestTcpIpForward (env : Env) (addr : SocketAddr)
    (initialWindowSize maximumPacketSize : UInt32) : BackendM Progress := do
  sendPayload env (.globalRequest sshGlobalRequestTypeTcpIpForward true
    [.one addr.host, .u32 addr.port.toUInt32])
  return .wait (.tcpIpForward addr initialWindowSize maximumPacketSize)

/-- `global_request_stream_local_forward`. -/
def globalRequestStreamLocalForward (env : Env) (path : Text)
    (initialWindowSize maximumPacketSize : UInt32) : BackendM Progress := do
  sendPayload env (.globalRequest sshGlobalRequestTypeTcpIpForward true [.one path])
  return .wait (.streamLocalForward path initialWindowSize maximumPacketSize)

/-! ## Authentication -/

/-- `authenticate_none`. -/
def authenticateNone (env : Env) (username : Text) : BackendM Progress := do
  sendPayload env (.userauthRequest username (ascii "none") [])
  return .wait (.authentication .none)

/-- `authenticate_password`. -/
def authenticatePassword (env : Env) (username password : Text) : BackendM Progress := do
  sendPayload env (.userauthRequest username (ascii "password") [.u8 0, .one password])
  return .wait (.authentication .password)

/-- `authenticate_keyboard_interactive`. -/
def authenticateKeyboardInteractive (env : Env) (username : Text)
    (methods : List InteractiveMethod) : BackendM Progress := do
  sendPayload env (.userauthRequest username (ascii "keyboard-interactive")
    [.one [], .one (joinComma (methods.map InteractiveMethod.name))])
  return .wait (.authentication .keyboardInteractive)

/-- The signature algorithms of an `ssh-rsa` key, the preferred one first. -/
def rsaAlgorithms : List Text :=
  [ascii "rsa-sha2-512", ascii "rsa-sha2-256", ascii "ssh-rsa"]

/-- The `server_algorithms` of `authenticate_public_key`. -/
def SessionInner.signAlgorithms (session : SessionInner) : List Text :=
  if !session.config.disableCompat && session.compatOptions.specifyServerSignAlgorithm then
    [ascii "rsa-sha2-256", ascii "rsa-sha2-512"]
  else session.serverAlgorithms

/-- The signer `authenticate_public_key` picks for a key type. -/
def SessionInner.signerFor (session : SessionInner) (type : Text) : Option Signature :=
  if type = ascii "ssh-rsa" then
    let announced := session.config.signer.entries.find? fun entry =>
      rsaAlgorithms.contains entry.1 && session.signAlgorithms.contains entry.1
    (announced.map Prod.snd).or (session.config.signer.get (ascii "rsa-sha2-512"))
  else session.config.signer.get type

/-- `authenticate_public_key` up to its first receive. -/
def authenticatePublicKey (env : Env) (username type : Text) (isCertificate : Bool)
    (publicBlob privateBlob : Bytes) : BackendM Progress := do
  match (← get).signerFor type with
  | none => throw (.error (.session (.unsupportedKeyType type)))
  | some signer =>
    let method := if isCertificate then signer.name ++ certSuffix else signer.name
    sendPayload env (.userauthRequest username (ascii "publickey")
      [.u8 0, .one method, .one publicBlob])
    return .wait (.authentication
      (.publicKeyQuery { username, signer, method, publicBlob, privateBlob }))

/-- `authenticate_public_key` after the server's `SSH_MSG_USERAUTH_PK_OK`. -/
def signPublicKey (env : Env) (query : PublicKeyQuery) : BackendM Progress := do
  let signed := makeBufferWithoutHeader [.one (← get).sessionId, .u8 sshMsgUserauthRequest,
    .one query.username, .one (ascii "ssh-connection"), .one (ascii "publickey"), .u8 1,
    .one query.method, .one query.publicBlob]
  liftExcept (query.signer.initializeKey query.privateBlob)
  let signature ← liftExcept (query.signer.signature query.privateBlob signed)
  let len := 4 + query.signer.name.length + 4 + signature.length
  sendPayload env (.userauthRequest query.username (ascii "publickey")
    [.u8 1, .one query.method, .one query.publicBlob, .u32 (UInt32.ofNat len),
      .one query.signer.name, .one signature])
  return .wait (.authentication .publicKeySignature)

/-- `request_authentication`. -/
def requestAuthentication (env : Env) : BackendM Progress := do
  sendPayload env (.serviceRequest sshServiceNameUserAuthenticationService)
  return .wait .serviceAccept

/-- The prompts of an `SSH_MSG_USERAUTH_INFO_REQUEST`. -/
def consumePrompts : ℕ → Consumer (List (Text × Bool))
  | 0 => pure []
  | count + 1 => do
    let content ← Message.consumeStr
    let echo ← Message.consumeBool
    return (content, echo) :: (← consumePrompts count)

/-- Name, instruction, announced size and prompts of an `SSH_MSG_USERAUTH_INFO_REQUEST`. -/
def consumeInfoRequest : Consumer (Text × Text × UInt32 × List (Text × Bool)) := do
  let name ← Message.consumeStr
  let instruction ← Message.consumeStr
  let _ ← Consumer.consumeOne
  let size ← Consumer.consumeU32
  let prompts ← consumePrompts size.toNat
  return (name, instruction, size, prompts)

/-- The `SSH_MSG_USERAUTH_INFO_REQUEST` arm of `authenticate_keyboard_interactive`. -/
def answerInfoRequest (env : Env) (data : Bytes) : BackendM Progress := do
  let (name, instruction, size, prompts) ←
    liftExcept (Consumer.run' consumeInfoRequest (data.drop 1))
  let responses ← liftExcept (env.interactive name instruction prompts)
  if responses.length = prompts.length then
    sendPayload env (.userauthInfoResponse size responses)
    return .wait (.authentication .keyboardInteractive)
  else
    throw (.error (.invalidOperation (ascii "Invalid response")))

/-! ## `handle_event` -/

/-- `handle_event` up to the first receive, for every event but `Renegotiate`. -/
def startEvent (env : Env) : Event → BackendM Progress
  | .authenticateNone username => authenticateNone env username
  | .authenticatePassword username password => authenticatePassword env username password
  | .authenticatePublicKey username method isCertificate publicBlob privateBlob =>
    authenticatePublicKey env username method isCertificate publicBlob privateBlob
  | .authenticateKeyboardInteractive username methods =>
    authenticateKeyboardInteractive env username methods
  | .requestAuthentication => requestAuthentication env
  | .sendDebugMessage alwaysDisplay message => do
    sendPayload env (.debug alwaysDisplay message)
    return .done .done
  | .sendIgnoreMessage data => do
    sendPayload env (.ignore data)
    return .done .done
  | .channelRequestPty id terminal wantReply columns rows width height modes =>
    channelRequestPty env id wantReply terminal columns rows width height modes
  | .channelRequestBreak id wantReply milliseconds =>
    channelRequestBreak env id wantReply milliseconds
  | .channelRequestShell id wantReply => channelRequestShell env id wantReply
  | .channelRequestExec id wantReply command => channelRequestExec env id wantReply command
  | .channelRequestAgent id wantReply => channelRequestAgent env id wantReply
  | .channelRequestWindowChange id columns rows width height =>
    channelRequestWindowChange env id columns rows width height
  | .channelRequestSignal id wantReply signal => channelRequestSignal env id wantReply signal
  | .channelRequestEnv id wantReply name value => channelRequestEnv env id wantReply name value
  | .channelRequestX11 id wantReply singleConnection protocol cookie screen =>
    channelRequestX11 env id wantReply singleConnection protocol cookie screen
  | .channelOpenSFTP window packet => channelOpenSession env window packet true
  | .channelOpenSession window packet => channelOpenSession env window packet false
  | .channelOpenDirectTcpIp target source window packet =>
    channelOpenDirectTcpIp env window packet target source
  | .channelOpenDirectStreamLocal window packet path =>
    channelOpenDirectStreamLocal env window packet path
  | .channelSendData id data => channelSend env id data
  | .channelClose id => do
    channelClose env id
    return .done .done
  | .channelEof id => do
    channelEof env id
    return .done .done
  | .clean channel forwardTcp forwardLocal => clean env channel forwardTcp forwardLocal
  | .globalRequestTcpIPForward addr window packet =>
    globalRequestTcpIpForward env addr window packet
  | .globalRequestCancelTcpIpForward wantReply addr =>
    globalRequestCancelTcpIpForward env wantReply addr
  | .globalRequestStreamLocalForward path window packet =>
    globalRequestStreamLocalForward env path window packet
  | .globalRequestCancelStreamLocalForward wantReply path =>
    globalRequestCancelStreamLocalForward env wantReply path
  | .renegotiate => return .done .done
  | .disconnect reason description => do
    sendPayload env (.disconnect reason description)
    return .done .done

/-! ## Receive loops -/

/-- The arms all authentication loops share: success and failure. -/
def authenticationVerdict : Message → Option (BackendM Progress)
  | .authenticationSuccess => some do
    modify fun s => { s with socket.authenticated := true }
    return .done (.authentication .success)
  | .authenticationFailure allowMethods partialSuccess => some do
    return .done (.authentication
      (.failure (allowMethods.map AuthenticationMethod.ofName) partialSuccess))
  | _ => none

/-- The arms of an authentication loop. -/
def answerAuthentication (env : Env) (wait : AuthenticationWait) (msg : Message) :
    Option (BackendM Progress) :=
  match wait, msg with
  | .password, .unrecognized code _ =>
    if code = sshMsgUserauthPasswdChangereq then
      some (return .done (.authentication .passwordChangeRequired))
    else none
  | .publicKeyQuery query, .unrecognized code _ =>
    if code = sshMsgUserauthPkOk then some (signPublicKey env query) else none
  | .keyboardInteractive, .unrecognized code data =>
    if code = sshMsgUserauthInfoRequest then some (answerInfoRequest env data) else none
  | _, msg => authenticationVerdict msg

/-- The arms of `wait_for_channel_response`. -/
def answerChannelRequest (id : IdentityPair) (opened : Option ℕ) (msg : Message) :
    Option (BackendM Progress) :=
  let answer (recipient : UInt32) (result : BackendM Progress) : BackendM Progress :=
    if recipient ≠ id.client then
      throw (.error (.session (.unexpectedMessage (ascii "Unexpected recipient channel"))))
    else result
  match msg with
  | .channelClose recipient =>
    if recipient = id.client then some (throw (.error (.session .unexpectedChannelClosed)))
    else none
  | .channelSuccess recipient => some (answer recipient (return .done (match opened with
      | none => .done
      | some queue => .channel id queue)))
  | .channelFailure recipient =>
    some (answer recipient (throw (.error (.session .channelFailure))))
  | _ => none

/-- The arms of `wait_for_opening_channel`. -/
def answerChannelOpen (env : Env) (client : ChannelEndpoint) (sftp : Bool) (msg : Message) :
    Option (BackendM Progress) :=
  match msg with
  | .channelOpenConfirmation recipient sender window packet =>
    some (if recipient ≠ client.id then
      throw (.error (.session (.unexpectedMessage
        (ascii "Unexpected recipient channel: expected " ++ ascii (toString client.id) ++
          ascii ", got " ++ ascii (toString recipient)))))
    else finishOpening env client sftp sender window packet)
  | .channelOpenFailure _ reasonCode description _ =>
    some (throw (.error (.session (.channelOpenFailure reasonCode description))))
  | _ => none

/-- The arms of a loop that waits for the reply to a global request. -/
def answerGlobalRequest (success : BackendM Progress) (msg : Message) : Option (BackendM Progress) :=
  match msg with
  | .requestSuccess => some success
  | .requestFailure => some (throw (.error (.session .requestFailure)))
  | _ => none

/-- `upgrade_frontend` where no channel is at stake. -/
def upgradeFrontendForListener : BackendM Unit := do
  if (← get).frontend then
    return
  else
    throw (.error (.session (.unexpectedBehaviour (ascii "Maybe session should be shutdown"))))

/-- `self.forward.insert_local`: the listener for the path gets a queue of its own. -/
def insertLocal (path : Text) (initialWindowSize maximumPacketSize : UInt32) : BackendM ℕ := do
  let queue := (← get).nextListener
  modify fun s => { s with
    nextListener := queue + 1
    forward.local' := insertKey s.forward.local' path
      ⟨⟨queue, false⟩, initialWindowSize, maximumPacketSize⟩ }
  return queue

/-- `self.forward.insert_tcp`. -/
def insertTcp (addr : SocketAddr) (initialWindowSize maximumPacketSize : UInt32) :
    BackendM ℕ := do
  let queue := (← get).nextListener
  modify fun s => { s with
    nextListener := queue + 1
    forward.tcp := insertKey s.forward.tcp addr
      ⟨⟨queue, false⟩, initialWindowSize, maximumPacketSize⟩ }
  return queue

/-- The success arm of `global_request_stream_local_forward`. -/
def finishStreamLocalForward (path : Text) (initialWindowSize maximumPacketSize : UInt32) :
    BackendM Progress := do
  upgradeFrontendForListener
  let queue ← insertLocal path initialWindowSize maximumPacketSize
  return .done (.localListener path queue)

/-- The success branch of `global_request_tcp_ip_forward`; the reply carries the port. -/
def finishTcpIpForward (addr : SocketAddr) (initialWindowSize maximumPacketSize : UInt32)
    (payload : Bytes) : BackendM Progress := do
  let port ← liftExcept (Consumer.run' Consumer.consumeU32 (payload.drop 1))
  match portOf port with
  | none => throw (.error (.session .invalidPort))
  | some port =>
    upgradeFrontendForListener
    let addr := { addr with port }
    let queue ← insertTcp addr initialWindowSize maximumPacketSize
    return .done (.tcpListener addr queue)

/-- The closures of `match_msg` and `match_this_msg`: what a loop does with a message it waits for,
`none` for any other message. -/
def Wait.answer (env : Env) (wait : Wait) (msg : Message) : Option (BackendM Progress) :=
  match wait with
  | .serviceAccept =>
    match msg with
    | .serviceAccept service => some (
      if service ≠ sshServiceNameUserAuthenticationService then
        throw (.error (.session
          (.unexpectedService sshServiceNameUserAuthenticationService service)))
      else return .done .done)
    | _ => none
  | .authentication wait => answerAuthentication env wait msg
  | .channelResponse id opened => answerChannelRequest id opened msg
  | .openingChannel clientId window packet sftp =>
    answerChannelOpen env (.opened clientId window packet) sftp msg
  | .streamLocalForward path window packet =>
    answerGlobalRequest (finishStreamLocalForward path window packet) msg
  | .cancelTcpIpForward addr rest forwardLocal =>
    answerGlobalRequest (do removeTcp addr; forwardTcpCleanLoop env forwardLocal rest) msg
  | .cancelStreamLocalForward path rest =>
    answerGlobalRequest (do removeLocal path; forwardLocalCleanLoop env rest) msg
  | .tcpIpForward .. => none

/-- What a loop does with a packet: `global_request_tcp_ip_forward` looks at the message number
first, the others parse the message. A message that is not waited for goes to `handle_msg`. -/
def resume (env : Env) (wait : Wait) (payload : Bytes) : BackendM Progress := do
  let parsed : BackendM Progress := do
    let msg ← liftExcept (Message.parse payload)
    match wait.answer env msg with
    | some answer => answer
    | none =>
      let _ ← handleMsg env msg false
      return .wait wait
  match wait with
  | .tcpIpForward addr window packet =>
    if payload.head? = some sshMsgRequestSuccess then
      finishTcpIpForward addr window packet payload
    else if payload.head? = some sshMsgRequestFailure then
      throw (.error (.session .requestFailure))
    else parsed
  | _ => parsed

end Flatline
