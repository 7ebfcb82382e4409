import Flatline.Session.Backend
import Mathlib

/-!
# The channel ledger

What the backend's steps do to the channel table, without listeners and program points. A `Ledger`
has the registered channels, next to the history of the run. One input takes it through a path of
`LedgerStep`s; each constructor is one way in which the client touches the table or addresses a
channel, with what the code has checked when it does so. The refinement of the backend by the ledger
is in `Flatline.Session.Refinement`.
-/

namespace Flatline

/-! ## Entries -/

/-- A registered channel without its windows: its numbers, its queue, whether the queue's receiver
is gone, and the flags the client sets. -/
structure Entry where
  id : IdentityPair
  queue : ℕ
  dropped : Bool
  clientClosed : Bool
  clientEof : Bool
  serverClosed : Bool
deriving DecidableEq, Repr

def ChannelHandle.entry (handle : ChannelHandle) : Entry where
  id := handle.id
  queue := handle.sender.queue
  dropped := handle.sender.closed
  clientClosed := handle.client.closed
  clientEof := handle.client.eof
  serverClosed := handle.server.closed

/-- A channel that has just been registered. -/
def ChannelHandle.opened (id : IdentityPair) (clientWindow clientPacket serverWindow serverPacket :
    UInt32) (queue : ℕ) : ChannelHandle where
  client := .opened id.client clientWindow clientPacket
  server := .opened id.server serverWindow serverPacket
  sender := ⟨queue, false⟩

/-! ### Changes of a handle -/

namespace ChannelHandle

/-- The client has sent octets of data. -/
def charge (handle : ChannelHandle) (size : ℕ) : ChannelHandle :=
  { handle with server.usedWindowSize := handle.server.usedWindowSize + size }

/-- The server has granted octets of window. -/
def grant (handle : ChannelHandle) (count : UInt32) : ChannelHandle :=
  { handle with server.usedWindowSize := handle.server.usedWindowSize - count.toNat }

/-- The server has sent octets of data. -/
def take (handle : ChannelHandle) (size : ℕ) : ChannelHandle :=
  { handle with client.usedWindowSize := handle.client.usedWindowSize + size }

/-- The client has granted octets of window. -/
def refill (handle : ChannelHandle) (count : UInt32) : ChannelHandle :=
  { handle with client.usedWindowSize := handle.client.usedWindowSize - count.toNat }

def closeClient (handle : ChannelHandle) : ChannelHandle :=
  { handle with client.closed := true }

def closeServer (handle : ChannelHandle) : ChannelHandle :=
  { handle with server.closed := true }

def eofClient (handle : ChannelHandle) : ChannelHandle :=
  { handle with client.eof := true }

def eofServer (handle : ChannelHandle) : ChannelHandle :=
  { handle with server.eof := true }

/-- Data of this size fits into the client's packet size and window. -/
def admits (handle : ChannelHandle) (size : ℕ) : Bool :=
  decide (size ≤ handle.client.maximumPacketSize.toNat) &&
    handle.client.left.any fun left => decide (size ≤ left)

/-- The client's window is so low that the client refills it. -/
def runsLow (handle : ChannelHandle) : Bool :=
  handle.client.left.any fun left => decide (left < minWindowLeft)

variable (handle : ChannelHandle) (size : ℕ) (count : UInt32)

@[simp] theorem id_charge : (handle.charge size).id = handle.id := rfl
@[simp] theorem id_grant : (handle.grant count).id = handle.id := rfl
@[simp] theorem id_take : (handle.take size).id = handle.id := rfl
@[simp] theorem id_refill : (handle.refill count).id = handle.id := rfl
@[simp] theorem id_closeClient : handle.closeClient.id = handle.id := rfl
@[simp] theorem id_closeServer : handle.closeServer.id = handle.id := rfl
@[simp] theorem id_eofClient : handle.eofClient.id = handle.id := rfl
@[simp] theorem id_eofServer : handle.eofServer.id = handle.id := rfl
@[simp] theorem entry_charge : (handle.charge size).entry = handle.entry := rfl
@[simp] theorem entry_grant : (handle.grant count).entry = handle.entry := rfl
@[simp] theorem entry_take : (handle.take size).entry = handle.entry := rfl
@[simp] theorem entry_refill : (handle.refill count).entry = handle.entry := rfl
@[simp] theorem entry_eofServer : handle.eofServer.entry = handle.entry := rfl

@[simp] theorem client_dropQueue (queue : ℕ) :
    (handle.dropQueue queue).client = handle.client := by
  unfold dropQueue
  split <;> rfl

@[simp] theorem server_dropQueue (queue : ℕ) :
    (handle.dropQueue queue).server = handle.server := by
  unfold dropQueue
  split <;> rfl

@[simp] theorem id_dropQueue (queue : ℕ) : (handle.dropQueue queue).id = handle.id := by
  rw [id, client_dropQueue, server_dropQueue, id]

end ChannelHandle

/-! ## Ledgers -/

/-- The channel table, the number of the next queue, and the history of the run, newest effect
first. -/
structure Ledger where
  channels : List ChannelHandle
  nextQueue : ℕ
  log : List Effect

/-- What the ledger keeps of a backend. -/
def Backend.ledger (s : Backend) : Ledger where
  channels := s.channels
  nextQueue := s.nextQueue
  log := s.log

namespace Ledger

def note (L : Ledger) (effect : Effect) : Ledger :=
  { L with log := effect :: L.log }

/-- A message for a receiver, if it is still there. -/
def tell (L : Ledger) (sender : QueueSender) (message : ChannelMessage) : Ledger :=
  if sender.closed then L else L.note (.delivered sender.queue message)

def set (L : Ledger) (index : ℕ) (handle : ChannelHandle) : Ledger :=
  { L with channels := L.channels.set index handle }

def remove (L : Ledger) (index : ℕ) (handle : ChannelHandle) : Ledger :=
  { L with
    channels := L.channels.eraseIdx index
    log := .removed handle.id handle.sender.queue :: L.log }

def register (L : Ledger) (handle : ChannelHandle) : Ledger where
  channels := L.channels ++ [handle]
  nextQueue := handle.sender.queue + 1
  log := .registered handle.id handle.sender.queue :: L.log

def dropQueue (L : Ledger) (queue : ℕ) : Ledger :=
  { L with channels := L.channels.map (.dropQueue queue) }

/-- The client has sent its `SSH_MSG_CHANNEL_CLOSE`: set the flag, and remove the handle if the
server has closed the channel before. -/
def closeClient (L : Ledger) (index : ℕ) (handle : ChannelHandle) : Ledger :=
  if handle.server.closed then
    (L.set index handle.closeClient).remove index handle.closeClient
  else L.set index handle.closeClient

/-- The server's `SSH_MSG_CHANNEL_CLOSE` is handled: tell the receiver, set the flag, and remove the
handle if the client has closed the channel before. -/
def closeServer (L : Ledger) (index : ℕ) (handle : ChannelHandle) : Ledger :=
  let L := (L.tell handle.sender .close).set index handle.closeServer
  if handle.client.closed then L.remove index handle.closeServer else L

/-- The channels without their windows. -/
def entries (L : Ledger) : List Entry :=
  L.channels.map ChannelHandle.entry

/-- The pairs of the registered channels. -/
def ids (L : Ledger) : List IdentityPair :=
  L.channels.map (·.id)

/-- The client's numbers in use. -/
def clientIds (L : Ledger) : List UInt32 :=
  L.channels.map (·.client.id)

/-- The server's numbers in use. -/
def serverIds (L : Ledger) : List UInt32 :=
  L.channels.map (·.server.id)

/-- The handle that lookups by the client's number find. -/
def find (L : Ledger) (clientId : UInt32) : Option (ℕ × ChannelHandle) :=
  locate (fun handle => handle.client.id == clientId) L.channels

/-- The number the next channel gets. -/
def nextId (L : Ledger) : UInt32 :=
  L.clientIds.foldl max 0 + 1

end Ledger

/-! ## What an input asks for -/

/-- The events that open a channel. -/
def Event.opensChannel : Event → Bool
  | .channelOpenSFTP .. | .channelOpenSession .. | .channelOpenDirectTcpIp ..
  | .channelOpenDirectStreamLocal .. => true
  | _ => false

/-- The channel an event sends a request on. -/
def Event.requestId? : Event → Option IdentityPair
  | .channelSendData .. | .channelClose _ | .channelEof _ => none
  | event => event.channelId?

/-- The receiver of a queue may be dropped: the user drops it, or a packet opens a channel that
nobody takes. -/
def Input.dropsQueue (queue : ℕ) : Input → Bool
  | .receiverDropped queue' => queue' = queue
  | .packet .. => true
  | _ => false

/-- The channel and the octets of a data message. -/
def Message.channelData? : Message → Option (UInt32 × Bytes)
  | .channelData recipient data => some (recipient, data)
  | .channelExtendedData recipient dataType data =>
    if dataType = sshExtendedDataStderr then some (recipient, data) else none
  | _ => none

/-- The octets of a data message, as the channel's receiver gets them. -/
def Message.channelContent : Message → Option ChannelMessage
  | .channelData _ data => some (.stdout data)
  | .channelExtendedData _ dataType data =>
    if dataType = sshExtendedDataStderr then some (.stderr data) else none
  | _ => none

/-- The window and the packet size that the server announces for a channel. -/
def Message.openSizes : Message → Option (UInt32 × UInt32)
  | .channelOpenConfirmation _ _ window packet | .channelOpenAgentConnect _ window packet
  | .channelOpenX11 _ window packet .. | .channelOpenForwardedTcpIp _ window packet ..
  | .channelOpenForwardedStreamLocal _ window packet .. => some (window, packet)
  | _ => none

namespace SessionInner

/-- The server's number in a message that opens a channel, and the verdict on it. -/
def serverOpen (session : SessionInner) (env : Env) :
    Message → Option (UInt32 × Except OpenRefusal OpenGrant)
  | .channelOpenAgentConnect sender .. => some (sender, session.verifyAgentConnect env sender)
  | .channelOpenX11 sender _ _ _ port => some (sender, session.verifyX11 env sender port)
  | .channelOpenForwardedTcpIp sender _ _ address port originator originatorPort =>
    some (sender, session.verifyForwardedTcpIp address port originator originatorPort)
  | .channelOpenForwardedStreamLocal sender _ _ path _ =>
    some (sender, session.verifyForwardedStreamLocal path)
  | _ => none

/-- The server's number of a channel that the client accepts. -/
def acceptsOpen (session : SessionInner) (env : Env) (msg : Message) : Option UInt32 :=
  match session.serverOpen env msg with
  | some (sender, .ok _) => some sender
  | _ => none

/-- The channel a data message is for and its octets, if they fit there. -/
def admittedData (session : SessionInner) (msg : Message) : Option (ℕ × ChannelHandle × Bytes) :=
  match msg.channelData? with
  | none => none
  | some (recipient, data) =>
    match session.byClient recipient with
    | none => none
    | some (index, channel) =>
      if channel.admits data.length = true then some (index, channel, data) else none

/-- The channel whose window a data message makes the client refill. -/
def refills (session : SessionInner) (msg : Message) : Option ChannelHandle :=
  match session.admittedData msg with
  | some (_, channel, data) =>
    if channel.sender.closed = false ∧ (channel.take data.length).runsLow = true then some channel
    else none
  | none => none

/-- A send event has something to send and a window to send it in. -/
def sendsData (session : SessionInner) (id : IdentityPair) (data : Bytes) : Bool :=
  !data.isEmpty &&
    match session.byServer id.server with
    | none => false
    | some (_, channel) => channel.server.left ≠ some 0

end SessionInner

/-- An `SSH_MSG_CHANNEL_CLOSE` for `clientId` ends the wait for a reply on that channel: the private
arm of `wait_for_channel_response` takes it, not `handle_channel_close`. -/
def Backend.swallowsClose (s : Backend) (clientId : UInt32) : Bool :=
  match s.task with
  | .waiting (.channelResponse id _) => clientId = id.client
  | _ => false

/-! ## Quiet effects -/

/-- A message that neither opens nor addresses a channel of the client's table. -/
def ClientMessage.isQuiet : ClientMessage → Bool
  | .channelOpen .. | .channelOpenConfirmation .. | .channelWindowAdjust .. | .channelData ..
  | .channelEof _ | .channelClose _ | .channelRequest .. => false
  | _ => true

/-- A message of a key exchange. -/
def ClientMessage.isKex : ClientMessage → Bool
  | .kexInit _ | .newKeys | .kexMethod _ => true
  | _ => false

/-- A message for a receiver that no other part of a channel's state goes with. -/
def ChannelMessage.isNotice : ChannelMessage → Bool
  | .exit _ | .flowControl _ => true
  | _ => false

/-- An effect that leaves the channel table as it is. -/
def Effect.Quiet : Effect → Prop
  | .sent message => message.isQuiet = true
  | .delivered _ message => message.isNotice = true
  | .received _ | .registered .. | .removed .. => False
  | _ => True

/-- A quiet effect that is not part of a key exchange. -/
def Effect.Ordinary (effect : Effect) : Prop :=
  effect.Quiet ∧
    match effect with
    | .sent message => message.isKex = false
    | .rekeyFailed .. => False
    | _ => True

/-! ## Steps -/

/-- What the client does to the ledger in one go, on the way from the backend `s` over the input
`i`. `Q` holds of the effects that may be noted in between. -/
inductive LedgerStep (s : Backend) (i : Input) (Q : Effect → Prop) : Ledger → Ledger → Prop
  | note {L : Ledger} {effect : Effect} (h : Q effect) : LedgerStep s i Q L (L.note effect)
  /-- The receiver of a queue is dropped. -/
  | drop {L : Ledger} {queue : ℕ} (hi : i.dropsQueue queue = true) :
      LedgerStep s i Q L (L.dropQueue queue)
  /-- A packet arrives that closes no registered channel, or whose close is swallowed, and that has
  no data a registered channel admits. -/
  | receive {payload : Bytes} {env : Env} (hi : i = .packet payload env)
      (hclose : ∀ clientId, Message.parse payload = .ok (.channelClose clientId) →
        s.ledger.find clientId ≠ none → s.swallowsClose clientId = true)
      (hdata : ∀ msg, Message.parse payload = .ok msg → s.admittedData msg = none) :
      LedgerStep s i Q s.ledger (s.ledger.note (.received payload))
  /-- A packet arrives that closes a registered channel. -/
  | peerClose {payload : Bytes} {env : Env} {clientId : UInt32} {index : ℕ}
      {handle : ChannelHandle} (hi : i = .packet payload env)
      (hparse : Message.parse payload = .ok (.channelClose clientId))
      (hfind : s.ledger.find clientId = some (index, handle)) :
      LedgerStep s i Q s.ledger ((s.ledger.note (.received payload)).closeServer index handle)
  /-- The server ends its data on a channel. -/
  | peerEof {payload : Bytes} {env : Env} {clientId : UInt32} {index : ℕ}
      {handle : ChannelHandle} (hi : i = .packet payload env)
      (hparse : Message.parse payload = .ok (.channelEof clientId))
      (hfind : s.ledger.find clientId = some (index, handle)) :
      LedgerStep s i Q (s.ledger.note (.received payload))
        (((s.ledger.note (.received payload)).tell handle.sender .eof).set index handle.eofServer)
  /-- Data that fits is counted and handed on; its window is not refilled. -/
  | peerData {payload : Bytes} {env : Env} {msg : Message} {index : ℕ} {handle : ChannelHandle}
      {data : Bytes} {content : ChannelMessage} (hi : i = .packet payload env)
      (hparse : Message.parse payload = .ok msg)
      (hadmits : s.admittedData msg = some (index, handle, data))
      (hcontent : msg.channelContent = some content)
      (hkept : s.refills msg = none ∨ (env.writeError s.attempts).isSome = true) :
      LedgerStep s i Q s.ledger
        (((s.ledger.note (.received payload)).set index (handle.take data.length)).tell
          handle.sender content)
  /-- Data that fits is counted and handed on, and makes the client refill the window. -/
  | peerDataRefill {payload : Bytes} {env : Env} {msg : Message} {index : ℕ}
      {handle : ChannelHandle} {data : Bytes} {content : ChannelMessage} {count : UInt32}
      (hi : i = .packet payload env) (hparse : Message.parse payload = .ok msg)
      (hadmits : s.admittedData msg = some (index, handle, data))
      (hcontent : msg.channelContent = some content) (hrefills : s.refills msg = some handle)
      (hcount : count = (handle.take data.length).client.adjustment) :
      LedgerStep s i Q s.ledger
        (((((s.ledger.note (.received payload)).set index (handle.take data.length)).tell
          handle.sender content).note (.sent (.channelWindowAdjust handle.id count))).set index
            ((handle.take data.length).refill count))
  /-- The server grants more window. -/
  | peerAdjust {payload : Bytes} {env : Env} {clientId count : UInt32} {index : ℕ}
      {handle : ChannelHandle} (hi : i = .packet payload env)
      (hparse : Message.parse payload = .ok (.channelWindowAdjust clientId count))
      (hfind : s.ledger.find clientId = some (index, handle))
      (hrange : -2 ^ 63 ≤ handle.server.usedWindowSize - count.toNat) :
      LedgerStep s i Q (s.ledger.note (.received payload))
        (((s.ledger.note (.received payload)).set index (handle.grant count)).tell
          handle.sender (.windowChange count))
  /-- An event asks the server for a channel. -/
  | announce {event : Event} {env : Env} {type : Text} {window packet : UInt32}
      {fields : List Field} (hi : i = .event event env) (hopens : event.opensChannel = true) :
      LedgerStep s i Q s.ledger
        (s.ledger.note (.sent (.channelOpen type s.ledger.nextId window packet fields)))
  /-- A channel the server asks for is accepted. -/
  | accept {payload : Bytes} {env : Env} {msg : Message}
      {sender clientWindow clientPacket serverWindow serverPacket : UInt32}
      (hi : i = .packet payload env) (hparse : Message.parse payload = .ok msg)
      (haccepts : s.acceptsOpen env msg = some sender)
      (hsizes : msg.openSizes = some (serverWindow, serverPacket)) :
      LedgerStep s i Q (s.ledger.note (.received payload))
        (((s.ledger.note (.received payload)).note (.sent (.channelOpenConfirmation
          ⟨s.ledger.nextId, sender⟩ clientWindow clientPacket))).register
            (.opened ⟨s.ledger.nextId, sender⟩ clientWindow clientPacket serverWindow serverPacket
              s.nextQueue))
  /-- The server confirms the channel the client asked for. -/
  | confirm {payload : Bytes} {env : Env} {clientId sender window packet ownWindow ownPacket :
      UInt32} {sftp : Bool} (hi : i = .packet payload env)
      (hparse : Message.parse payload =
        .ok (.channelOpenConfirmation clientId sender window packet))
      (hwait : s.task = .waiting (.openingChannel clientId ownWindow ownPacket sftp))
      (hfresh : sender ∉ s.ledger.serverIds) :
      LedgerStep s i Q (s.ledger.note (.received payload))
        ((s.ledger.note (.received payload)).register
          (.opened ⟨clientId, sender⟩ ownWindow ownPacket window packet s.nextQueue))
  /-- An event closes a channel. -/
  | closeEvent {id : IdentityPair} {env : Env} {index : ℕ} {handle : ChannelHandle}
      (hi : i = .event (.channelClose id) env)
      (hfind : s.ledger.find id.client = some (index, handle)) :
      LedgerStep s i Q s.ledger
        ((s.ledger.note (.sent (.channelClose id))).closeClient index handle)
  /-- A channel that has just been accepted is closed because nobody takes its stream. -/
  | closeRefused {L : Ledger} {payload : Bytes} {env : Env} {channels : List ChannelHandle}
      {opened handle : ChannelHandle} {id : IdentityPair} {index : ℕ}
      (hi : i = .packet payload env) (hchannels : L.channels = channels ++ [opened])
      (hids : channels.map (·.id) = s.ledger.ids) (hopened : opened.id = id)
      (hclient : opened.client.closed = false) (hserver : opened.server.closed = false)
      (hid : id.client = s.ledger.nextId) (hfind : L.find id.client = some (index, handle)) :
      LedgerStep s i Q L ((L.note (.sent (.channelClose id))).closeClient index handle)
  /-- A clean-up closes a channel that has not been closed. -/
  | sweep {L : Ledger} {env : Env} {forwardTcp forwardLocal : Bool} {index : ℕ}
      {handle : ChannelHandle} (hi : i = .event (.clean true forwardTcp forwardLocal) env)
      (hget : L.channels[index]? = some handle) (hdropped : handle.sender.closed = true)
      (hopen : handle.client.closed = false) :
      LedgerStep s i Q L ((L.note (.sent (.channelClose handle.id))).closeClient index handle)
  /-- A clean-up removes a channel that both sides have closed. -/
  | reap {L : Ledger} {env : Env} {forwardTcp forwardLocal : Bool} {index : ℕ}
      {handle : ChannelHandle} (hi : i = .event (.clean true forwardTcp forwardLocal) env)
      (hget : L.channels[index]? = some handle) (hdropped : handle.sender.closed = true)
      (hclient : handle.client.closed = true) (hserver : handle.server.closed = true) :
      LedgerStep s i Q L (L.remove index handle)
  /-- An event ends the client's data on a channel. -/
  | eof {id : IdentityPair} {env : Env} {index : ℕ} {handle : ChannelHandle}
      (hi : i = .event (.channelEof id) env)
      (hfind : s.ledger.find id.client = some (index, handle)) :
      LedgerStep s i Q s.ledger
        ((s.ledger.note (.sent (.channelEof id))).set index handle.eofClient)
  /-- An event sends data, as much as fits. -/
  | data {L : Ledger} {id : IdentityPair} {data chunk : Bytes} {env : Env} {index left : ℕ}
      {handle : ChannelHandle} (hi : i = .event (.channelSendData id data) env)
      (hsends : s.sendsData id data = true) (hentries : L.entries = s.ledger.entries)
      (hget : L.channels[index]? = some handle) (hserver : handle.server.id = id.server)
      (hleft : handle.server.left = some left)
      (hpacket : chunk.length ≤ handle.server.maximumPacketSize.toNat)
      (hwindow : chunk.length ≤ left) (hpayload : chunk.length ≤ maxPacketPayloadLength - 1 - 4 - 4) :
      LedgerStep s i Q L
        ((L.note (.sent (.channelData id chunk))).set index (handle.charge chunk.length))
  /-- An event sends a request. -/
  | request {event : Event} {env : Env} {id : IdentityPair} {type : Text} {wantReply : Bool}
      {fields : List Field} (hi : i = .event event env) (hid : event.requestId? = some id) :
      LedgerStep s i Q s.ledger
        (s.ledger.note (.sent (.channelRequest id type wantReply fields)))
  /-- A request is sent on a channel that has just been opened. -/
  | requestOpened {L : Ledger} {payload : Bytes} {env : Env} {handle : ChannelHandle} {type : Text}
      {wantReply : Bool} {fields : List Field} (hi : i = .packet payload env)
      (hmem : handle ∈ L.channels) (hopen : handle.client.closed = false) :
      LedgerStep s i Q L (L.note (.sent (.channelRequest handle.id type wantReply fields)))

/-- What one input does to the ledger. -/
abbrev LedgerPath (s : Backend) (i : Input) (Q : Effect → Prop) : Ledger → Ledger → Prop :=
  Relation.ReflTransGen (LedgerStep s i Q)

end Flatline
