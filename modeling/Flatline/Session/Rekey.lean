import Flatline.Session.Handlers

/-!
# Key exchange of a running session

`RekeyExchange` over the session's stream: `negotiate_methods`, then `key_exchange`. Each of its
receive loops passes a packet it does not wait for to `handle_msg`.

Source: `src/session/handshake.rs`.
-/

namespace Flatline

/-- How far a key exchange has come after a packet. -/
inductive RekeyProgress where
  | again (phase : RekeyPhase)
  | finished

/-- The beginning of `negotiate_methods`: send the client's `SSH_MSG_KEXINIT`. -/
def sendKexInit (env : Env) : BackendM Bytes := do
  let s ← get
  let payload := (s.config.clientMethods s.compatOptions).build env.cookie
  sendPayload env (.kexInit payload)
  return payload

/-- Generate the ephemeral key, send the public value and wait for the reply. -/
def sendPublicKey (env : Env) (rekey : Rekey) (group : Option (Bytes × Bytes)) :
    BackendM RekeyPhase := do
  let clientPublicKey ← liftExcept (rekey.matched.kex.generateKey group env.seed)
  sendPayload env (.kexMethod (rekey.matched.kex.initPayload clientPublicKey))
  return .reply rekey group env.seed clientPublicKey

/-- The beginning of `key_exchange`: the group request, for the methods that have one. -/
def beginKeyExchange (env : Env) (rekey : Rekey) : BackendM RekeyPhase := do
  match rekey.matched.kex.exchange with
  | none => sendPublicKey env rekey none
  | some exchange =>
    let s ← get
    let exchange := exchange.setRecommendedNumberOfBits
      (rekey.matched.groupBits s.config s.compatOptions)
    sendPayload env (.kexMethod exchange.request)
    return .group rekey exchange

/-- Match the server's `SSH_MSG_KEXINIT` against the configuration and go on. -/
def matchMethods (env : Env) (clientKexMsg serverKexMsg : Bytes) : BackendM RekeyPhase := do
  let (_, matched) ← liftExcept ((← get).config.matchServer serverKexMsg)
  beginKeyExchange env { clientKexMsg, serverKexMsg, matched }

/-- `exec` once the client's `SSH_MSG_KEXINIT` has been sent: the server's may be there already. -/
def negotiateMethods (env : Env) (serverKexMsg : Option Bytes) (clientKexMsg : Bytes) :
    BackendM RekeyPhase :=
  match serverKexMsg with
  | none => return .kexInit clientKexMsg
  | some serverKexMsg => matchMethods env clientKexMsg serverKexMsg

/-- The values the exchange hash of a rekey covers. -/
def Rekey.replyContext (rekey : Rekey) (s : Backend) (env : Env) (group : Option (Bytes × Bytes))
    (seed : ℕ) (clientPublicKey : Bytes) : ReplyContext where
  clientVersion := s.clientVersion
  serverVersion := s.serverVersion
  clientKexMsg := rekey.clientKexMsg
  serverKexMsg := rekey.serverKexMsg
  group
  seed
  clientPublicKey
  sessionId := some s.sessionId
  verifyServerHostKey := env.verifyServerHostKey

/-- The reply branch: verify it, send `SSH_MSG_NEWKEYS` and use the new keys for sending. -/
def acceptReply (env : Env) (rekey : Rekey) (group : Option (Bytes × Bytes)) (seed : ℕ)
    (clientPublicKey payload : Bytes) : BackendM RekeyPhase := do
  let ctx := rekey.replyContext (← get) env group seed clientPublicKey
  let (_, keys) ← liftExcept (rekey.matched.readReply ctx payload)
  sendPayload env .newKeys
  modify fun s => { s with socket.clientKeys := some keys }
  return .newKeys rekey keys

/-- A packet that the loop does not wait for. -/
def passOn (env : Env) (phase : RekeyPhase) (payload : Bytes) : BackendM RekeyProgress := do
  let msg ← liftExcept (Message.parse payload)
  let _ ← handleMsg env msg false
  return .again phase

/-- The message number a loop waits for. -/
def RekeyPhase.awaits : RekeyPhase → UInt8
  | .kexInit _ => sshMsgKexinit
  | .group _ exchange => exchange.responseCode
  | .reply rekey .. => rekey.matched.kex.responseCode
  | .newKeys .. => sshMsgNewkeys

/-- What a loop does with the packet it waits for. -/
def proceedRekey (env : Env) (payload : Bytes) : RekeyPhase → BackendM RekeyProgress
  | .kexInit clientKexMsg => do
    return .again (← matchMethods env clientKexMsg payload)
  | .group rekey exchange => do
    let group ← liftExcept (exchange.readGroup payload)
    return .again (← sendPublicKey env rekey (some group))
  | .reply rekey group seed clientPublicKey => do
    return .again (← acceptReply env rekey group seed clientPublicKey payload)
  | .newKeys _ keys => do
    modify fun s => { s with socket.serverKeys := some keys }
    return .finished

/-- One turn of the loop a key exchange is in. -/
def continueRekey (env : Env) (phase : RekeyPhase) (payload : Bytes) : BackendM RekeyProgress :=
  if payload.head? = some phase.awaits then proceedRekey env payload phase
  else passOn env phase payload

end Flatline
