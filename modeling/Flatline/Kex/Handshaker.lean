import Flatline.Common.ReceiveLoop
import Flatline.Kex.Exchange
import Flatline.Transport.PlainStream

/-!
# The initial handshake

`Handshaker` after the banner exchange: `negotiate_methods`, then `key_exchange`. Each of the four
places where the source receives packets in a loop is a `ReceiveLoop.loop` over the arrivals.

Source: `src/session/handshake.rs`.
-/

namespace Flatline

open ReceiveLoop

/-- `handshake::Handshaker` as the banner exchange leaves it. -/
structure Handshaker where
  clientVersion : Text
  serverVersion : Text
  config : Config
  compatOptions : CompatOptions
  stream : PlainStream

/-- What the handshake draws from its surroundings: random octets and the notifier's verdict. -/
structure HandshakeEnv where
  cookie : Cookie
  seed : ℕ
  verifyServerHostKey : Text → Bytes → Bool

/-- A handshaker whose methods are negotiated. -/
structure Negotiated extends Handshaker where
  clientKexMsg : Bytes
  serverKexMsg : Bytes
  matched : MatchedMethods

/-- A handshaker that has sent its public value. -/
structure Exchanging extends Negotiated where
  group : Option (Bytes × Bytes)
  clientPublicKey : Bytes

/-- A handshaker that has verified the reply and sent `SSH_MSG_NEWKEYS`; after the server's
`SSH_MSG_NEWKEYS` it is the result of the handshake. -/
structure Keyed extends Exchanging where
  sessionId : Bytes
  keys : Keys

namespace Handshaker

/-- The end of `banner_version_exchange`: the plain stream takes the client's switches from the
configuration. -/
def afterBanner (clientVersion serverVersion : Text) (config : Config)
    (compatOptions : CompatOptions) (writable : Bool) : Handshaker where
  clientVersion
  serverVersion
  config
  compatOptions
  stream := {
    client := { kexStrict := config.keyStrict, ext := config.ext, sequenceNumber := 0 }
    server := default
    written := []
    writable }

/-- What the arms of the handshake's `handle_msg` do with a message. -/
inductive Reaction where
  /-- `return Ok(())`. -/
  | pass
  /-- `UnexpectedDisconnectMessage`. -/
  | disconnected (reason : UInt32) (description : Text)
  /-- `_ => {}`: the message is answered with `SSH_MSG_UNIMPLEMENTED`. -/
  | unimplemented

/-- The `match` of the handshake's `handle_msg`. -/
def reaction : Message → Reaction
  | .debug .. | .ignore .. | .unimplemented .. | .ping .. | .pong .. => .pass
  | .disconnect reason description _ => .disconnected reason description
  | _ => .unimplemented

/-- The handshake's `handle_msg` for a packet nobody waits for. -/
def handleMsg (stream : PlainStream) (payload : Bytes) : Except Error PlainStream :=
  if stream.strict then
    .error (.handshake (.unexpectedMessageInStrictMode (payload.headD 0)))
  else do
    let msg ← Message.parse payload
    match reaction msg with
    | .pass => return stream
    | .disconnected reason description =>
      throw (.handshake (.unexpectedDisconnectMessage reason description))
    | .unimplemented =>
      stream.sendPayload (makeBufferWithoutHeader
        [.u8 sshMsgUnimplemented, .u32 stream.server.sequenceNumber])

/-! ## `negotiate_methods` -/

/-- The client's `SSH_MSG_KEXINIT`. -/
def kexInit (h : Handshaker) (env : HandshakeEnv) : Bytes :=
  (h.config.clientMethods h.compatOptions).build env.cookie

/-- Send the client's `SSH_MSG_KEXINIT`. -/
def sendKexInit (h : Handshaker) (env : HandshakeEnv) : Except Error Handshaker := do
  let stream ← h.stream.sendPayload (h.kexInit env)
  return { h with stream }

/-- One turn of the loop that waits for the server's `SSH_MSG_KEXINIT`. -/
def negotiateTurn (env : HandshakeEnv) (h : Handshaker) (arrival : Arrival) :
    Except Error (Turn Handshaker Negotiated) := do
  let (payload, stream) ← h.stream.recvPacket arrival
  if payload.head? = some sshMsgKexinit then
    let (serverMethod, matched) ← h.config.matchServer payload
    let stream := { stream with
      server.kexStrict := serverMethod.kexStrict
      server.ext := serverMethod.ext }
    return .done { h with stream, clientKexMsg := h.kexInit env, serverKexMsg := payload, matched }
  else
    let stream ← handleMsg stream payload
    return .again { h with stream }

/-- `Handshaker::negotiate_methods`. -/
def negotiateMethods (env : HandshakeEnv) (h : Handshaker) (arrivals : List Arrival) :
    Outcome Error Arrival Negotiated :=
  (Outcome.lift (h.sendKexInit env) arrivals).andThen (loop (negotiateTurn env))

end Handshaker

namespace Negotiated

/-! ## `key_exchange` -/

/-- The group sub-negotiation of the matched method, with the recommended group size set. -/
def exchange (n : Negotiated) : Option Exchange :=
  n.matched.kex.exchange.map fun exchange =>
    exchange.setRecommendedNumberOfBits (n.matched.groupBits n.config n.compatOptions)

/-- Send the group request. -/
def sendGroupRequest (n : Negotiated) (exchange : Exchange) : Except Error Negotiated := do
  let stream ← n.stream.sendPayload exchange.request
  return { n with stream }

/-- One turn of the loop that waits for the group. -/
def groupTurn (exchange : Exchange) (n : Negotiated) (arrival : Arrival) :
    Except Error (Turn Negotiated (Negotiated × (Bytes × Bytes))) := do
  let (payload, stream) ← n.stream.recvPacket arrival
  if payload.head? = some exchange.responseCode then
    let group ← exchange.readGroup payload
    return .done ({ n with stream }, group)
  else
    let stream ← Handshaker.handleMsg stream payload
    return .again { n with stream }

/-- The group exchange, for the methods that have one. -/
def receiveGroup (n : Negotiated) (arrivals : List Arrival) :
    Outcome Error Arrival (Negotiated × Option (Bytes × Bytes)) :=
  match n.exchange with
  | none => .finished (n, none) arrivals
  | some exchange =>
    (Outcome.lift (n.sendGroupRequest exchange) arrivals).andThen fun n arrivals =>
      (loop (groupTurn exchange) n arrivals).andThen fun (n, group) arrivals =>
        .finished (n, some group) arrivals

/-- Generate the ephemeral key and send the public value. -/
def sendPublicKey (env : HandshakeEnv) (n : Negotiated) (group : Option (Bytes × Bytes)) :
    Except Error Exchanging := do
  let clientPublicKey ← n.matched.kex.generateKey group env.seed
  let stream ← n.stream.sendPayload (n.matched.kex.initPayload clientPublicKey)
  return { n with stream, group, clientPublicKey }

end Negotiated

namespace Exchanging

/-- The values the exchange hash covers. -/
def replyContext (env : HandshakeEnv) (x : Exchanging) : ReplyContext where
  clientVersion := x.clientVersion
  serverVersion := x.serverVersion
  clientKexMsg := x.clientKexMsg
  serverKexMsg := x.serverKexMsg
  group := x.group
  seed := env.seed
  clientPublicKey := x.clientPublicKey
  sessionId := none
  verifyServerHostKey := env.verifyServerHostKey

/-- One turn of the loop that waits for the reply. -/
def replyTurn (env : HandshakeEnv) (x : Exchanging) (arrival : Arrival) :
    Except Error (Turn Exchanging Keyed) := do
  let (payload, stream) ← x.stream.recvPacket arrival
  if payload.head? = some x.matched.kex.responseCode then
    let (hash, keys) ← x.matched.readReply (x.replyContext env) payload
    let stream ← stream.sendPayload [sshMsgNewkeys]
    return .done { x with stream, sessionId := hash, keys }
  else
    let stream ← Handshaker.handleMsg stream payload
    return .again { x with stream }

end Exchanging

namespace Keyed

/-- One turn of the loop that waits for the server's `SSH_MSG_NEWKEYS`: any other packet is
dropped. -/
def newKeysTurn (k : Keyed) (arrival : Arrival) : Except Error (Turn Keyed Keyed) := do
  let (payload, stream) ← k.stream.recvPacket arrival
  if payload.head? = some sshMsgNewkeys then
    return .done { k with stream }
  else
    return .again { k with stream }

end Keyed

/-- `Handshaker::key_exchange`. -/
def Negotiated.keyExchange (env : HandshakeEnv) (n : Negotiated) (arrivals : List Arrival) :
    Outcome Error Arrival Keyed :=
  (n.receiveGroup arrivals).andThen fun (n, group) arrivals =>
    (Outcome.lift (n.sendPublicKey env group) arrivals).andThen fun x arrivals =>
      (loop (Exchanging.replyTurn env) x arrivals).andThen (loop Keyed.newKeysTurn)

/-- `negotiate_methods` followed by `key_exchange`. -/
def Handshaker.handshake (env : HandshakeEnv) (h : Handshaker) (arrivals : List Arrival) :
    Outcome Error Arrival Keyed :=
  (h.negotiateMethods env arrivals).andThen (Negotiated.keyExchange env)

end Flatline
