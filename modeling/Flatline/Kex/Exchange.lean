import Flatline.Kex.Methods

/-!
# Key-exchange messages

What the client sends during a key exchange and how it reads the server's answers. The initial
handshake and a rekey run the same code over different streams; the parts that touch no stream are
here.

Source: `src/session/handshake.rs` (`Handshaker::key_exchange`, `RekeyExchange::key_exchange`).
-/

namespace Flatline

/-- The group request of `diffie-hellman-group-exchange-*`. -/
def Exchange.request (exchange : Exchange) : Bytes :=
  makeBufferWithoutHeader [.u8 exchange.requestCode, .u32 exchange.min,
    .u32 exchange.numberOfBits, .u32 exchange.max]

/-- The server's group: `p` and `g` after the message number, accepted or refused by the method. -/
def Exchange.readGroup (exchange : Exchange) (payload : Bytes) : Except Error (Bytes × Bytes) := do
  let (p, g) ← Consumer.run' (do
    let _ ← Consumer.consumeU8
    let p ← Consumer.consumeOne
    let g ← Consumer.consumeOne
    return (p, g)) payload
  exchange.initializeGroup p g
  return (p, g)

/-- The client's public value. -/
def KeyExchange.initPayload (kex : KeyExchange) (clientPublicKey : Bytes) : Bytes :=
  makeBufferWithoutHeader [.u8 kex.requestCode, .one clientPublicKey]

/-- What a side of the key exchange needs to read the server's reply. `sessionId` is `none` in the
first exchange, whose hash becomes the session identifier. -/
structure ReplyContext where
  clientVersion : Text
  serverVersion : Text
  clientKexMsg : Bytes
  serverKexMsg : Bytes
  group : Option (Bytes × Bytes)
  seed : ℕ
  clientPublicKey : Bytes
  sessionId : Option Bytes
  /-- The answer of `Notifier::verify_server_host_key`. -/
  verifyServerHostKey : Text → Bytes → Bool

/-- Host key, public value and signature of the server's reply. -/
def consumeReply : Consumer (Bytes × Bytes × Bytes) := do
  let _ ← Consumer.consumeU8
  let hostKey ← Consumer.consumeOne
  let serverPublicKey ← Consumer.consumeOne
  let signature ← Consumer.consumeOne
  return (hostKey, serverPublicKey, signature)

/-- The reply branch of both `key_exchange`: compute the exchange hash, check the signature, ask the
notifier, derive the keys. -/
def MatchedMethods.readReply (matched : MatchedMethods) (ctx : ReplyContext) (payload : Bytes) :
    Except Error (Bytes × Keys) := do
  let (hostKey, serverPublicKey, signature) ← Consumer.run' consumeReply payload
  let secretKey ← matched.kex.computeSecretKey ctx.group ctx.seed serverPublicKey
  let hash ← matched.kex.computeHash {
    clientVersion := ctx.clientVersion
    serverVersion := ctx.serverVersion
    clientKexInit := ctx.clientKexMsg
    serverKexInit := ctx.serverKexMsg
    serverHostKey := hostKey
    clientPublicKey := ctx.clientPublicKey
    serverPublicKey
    secretKey }
  matched.hostKey.initializeKey hostKey
  let verified ← matched.hostKey.verify hostKey signature hash
  if !verified then
    .error (.handshake .signatureVerificationFailed)
  else if !ctx.verifyServerHostKey matched.hostKey.name hostKey then
    .error (.handshake .serverHostKeyRejectedByUser)
  else do
    let keys ← matched.initializeKeys hash (ctx.sessionId.getD hash) (Field.one secretKey).put
    return (hash, keys)

end Flatline
