import Flatline.Common.Polling
import Flatline.Transport.CipherStream

/-!
# Suspended calls of `read_packet`

A call of `read_packet` waits inside `fill`, for the length field or for the rest of the packet.
`Await` is what such a suspended future holds; polled again it goes on from there, with the mode and
the length it has in its local variables. A future that is dropped leaves only the stream, and the
next call starts at the top.

Source: `src/ssh/stream.rs` (`CipherStream::read_packet`), `src/session/backend.rs` (`exec`).
-/

namespace Flatline

namespace CipherStream

variable {δ μ ζ : Type} [PacketDecrypt δ] [PacketMac μ]

/-! ## The two parts of a mode -/

/-- The three branches of `read_packet`. -/
inductive Mode where
  | galoisCounter
  | encryptThenMac
  | macThenEncrypt
deriving DecidableEq, Repr

/-- The branch that cipher and MAC select. -/
def mode (stream : CipherStream δ μ ζ) : Mode :=
  if PacketDecrypt.isGaloisCounterMode stream.decrypt then .galoisCounter
  else if PacketMac.encryptThenMac stream.verify then .encryptThenMac
  else .macThenEncrypt

/-- How a mode finds the length of a packet. -/
def Mode.readLength (env : ReadEnv) : Mode → Read δ μ ζ UInt32
  | .galoisCounter => readGcmLength env
  | .encryptThenMac => readEtmLength env
  | .macThenEncrypt => readFirstBlock env

variable [PacketDecode ζ]

/-- What a mode does once it knows the length. -/
def Mode.readRest (env : ReadEnv) (length : UInt32) : Mode → Read δ μ ζ Packet
  | .galoisCounter => do
    let tagLen := PacketDecrypt.tagLen (← get).decrypt
    let bytes ← fill env (4 + length.toNat + tagLen)
    let bytes ← slice bytes 4 bytes.length
    let updated ← decryptingTo (PacketDecrypt.update (← slice bytes 0 length.toNat))
    decrypting (PacketDecrypt.authenticationTag (← slice bytes length.toNat bytes.length))
    let finalized ← decryptingTo PacketDecrypt.finalize
    let packet ← openPacket length (updated ++ finalized)
    consumeReadBuffer (4 + length.toNat + tagLen)
    return packet
  | .encryptThenMac => do
    assert ((← get).ready.decrypted = [])
    let macLen := PacketMac.macLen (← get).verify
    let packet ← fill env (4 + length.toNat + macLen)
    let body ← slice packet 4 (length.toNat + 4)
    let tag ← slice packet (length.toNat + 4) packet.length
    verifyTag [toBeBytes length, body] tag
    decryptAll body
    let packet ← openPacket length (← get).ready.decrypted
    consumeReadBuffer (4 + length.toNat + macLen)
    return packet
  | .macThenEncrypt => do
    let macLen := PacketMac.macLen (← get).verify
    let packet ← fill env (length.toNat + 4 + macLen)
    decryptAll (← slice packet (← get).ready.encrypted.length (length.toNat + 4))
    let decrypted := (← get).ready.decrypted
    verifyTag [decrypted] (← slice packet (length.toNat + 4) packet.length)
    let packet ← openPacket length (← slice decrypted 4 (length.toNat + 4))
    consumeReadBuffer (length.toNat + 4 + macLen)
    return packet

/-- The two parts make up the mode. -/
theorem readReady_eq (env : ReadEnv) (stream : CipherStream δ μ ζ) :
    readReady env stream =
      (lengthOr (stream.mode.readLength env) >>= fun length =>
        stream.mode.readRest env length) stream := by
  unfold readReady mode
  by_cases hgalois : PacketDecrypt.isGaloisCounterMode stream.decrypt = true
  · rw [if_pos hgalois, if_pos hgalois]
    rfl
  · rw [if_neg hgalois, if_neg hgalois]
    by_cases hetm : PacketMac.encryptThenMac stream.verify = true
    · rw [if_pos hetm, if_pos hetm]
      rfl
    · rw [if_neg hetm, if_neg hetm]
      rfl

/-! ## Futures -/

/-- What a future of `read_packet` waits for: nothing, it has not been polled yet; the length field;
or the rest of a packet. -/
inductive Await where
  | call
  | header (mode : Mode)
  | body (mode : Mode) (length : UInt32)
deriving DecidableEq, Repr

/-- The answer to a poll, the stream, and what the future waits for if it is pending. -/
abbrev Polled (δ μ ζ : Type) := EStateM.Result Stop (CipherStream δ μ ζ) Packet × Await

/-- Go on in front of the `fill` for the rest of the packet. -/
def resumeBody (env : ReadEnv) (mode : Mode) (length : UInt32) (stream : CipherStream δ μ ζ) :
    Polled δ μ ζ :=
  ((mode.readRest env length >>= finish env) stream, .body mode length)

/-- Go on in front of the `fill` for the length field. -/
def resumeHeader (env : ReadEnv) (mode : Mode) (stream : CipherStream δ μ ζ) : Polled δ μ ζ :=
  match mode.readLength env stream with
  | .ok length stream => resumeBody env mode length stream
  | .error e stream => (.error e stream, .header mode)

/-- Start at the top. -/
def resumeCall (env : ReadEnv) (stream : CipherStream δ μ ζ) : Polled δ μ ζ :=
  match start stream with
  | .ok () stream =>
    match stream.ready.length with
    | some length => resumeBody env stream.mode length stream
    | none => resumeHeader env stream.mode stream
  | .error e stream => (.error e stream, .call)

/-- Poll a future. -/
def Await.resume (env : ReadEnv) : Await → CipherStream δ μ ζ → Polled δ μ ζ
  | .call => resumeCall env
  | .header mode => resumeHeader env mode
  | .body mode length => resumeBody env mode length

/-- A future that is polled for the first time is a call. -/
theorem resumeCall_eq (env : ReadEnv) (stream : CipherStream δ μ ζ) :
    (resumeCall env stream).1 = readPacket env stream := by
  unfold resumeCall readPacket
  simp only [bind, EStateM.bind]
  cases start stream with
  | error e stream => rfl
  | ok _ stream =>
    dsimp only
    rw [readReady_eq]
    simp only [bind, EStateM.bind, lengthOr]
    cases stream.ready.length with
    | some length => rfl
    | none =>
      dsimp only
      unfold resumeHeader
      cases stream.mode.readLength env stream with
      | ok length stream => rfl
      | error e stream => rfl

/-! ## Receivers -/

/-- Octets that arrive go to the end of the buffer. -/
def receive (more : Bytes) (stream : CipherStream δ μ ζ) : CipherStream δ μ ζ :=
  { stream with buffer := stream.buffer ++ more }

/-- What a read of the socket brings. -/
inductive Delivery where
  | octets (more : Bytes)
  /-- The end of the stream, or an error that stays. -/
  | closed

/-- What the owner of a stream does to it after a packet, such as changing the keys. The receive
buffer is not its concern. -/
structure Reaction (δ μ ζ : Type) where
  react : Packet → CipherStream δ μ ζ → CipherStream δ μ ζ
  buffer_free (packet : Packet) (stream : CipherStream δ μ ζ) (b : Bytes) :
    react packet { stream with buffer := b } = { react packet stream with buffer := b }

/-- The owner leaves the stream as it is. -/
def Reaction.keep : Reaction δ μ ζ where
  react _ stream := stream
  buffer_free _ _ _ := rfl

/-- A stream with a future of `read_packet` and what has become of the socket. -/
structure Receiver (δ μ ζ : Type) where
  stream : CipherStream δ μ ζ
  await : Await
  closed : Bool

namespace Receiver

/-- A stream without a future. -/
def ofStream (stream : CipherStream δ μ ζ) : Receiver δ μ ζ :=
  ⟨stream, .call, false⟩

/-- Let something arrive. -/
def deliver (receiver : Receiver δ μ ζ) : Delivery → Receiver δ μ ζ
  | .octets more =>
    if receiver.closed then receiver else { receiver with stream := receiver.stream.receive more }
  | .closed => { receiver with closed := true }

/-- Poll the future, or call `read_packet` if there is none. -/
def poll (strictFeature : Bool) (reaction : Reaction δ μ ζ) (receiver : Receiver δ μ ζ) :
    Polling.Answer Packet Stop × Receiver δ μ ζ :=
  match receiver.await.resume ⟨receiver.closed, strictFeature⟩ receiver.stream with
  | (.ok packet stream, _) =>
    (.item packet, { receiver with stream := reaction.react packet stream, await := .call })
  | (.error .pending stream, await) => (.pending, { receiver with stream, await })
  | (.error e stream, _) => (.failed e, { receiver with stream, await := .call })

/-- Drop the future. -/
def dropFuture (receiver : Receiver δ μ ζ) : Receiver δ μ ζ :=
  { receiver with await := .call }

/-- Each packet shortens the buffer. -/
def size (receiver : Receiver δ μ ζ) : ℕ :=
  receiver.stream.buffer.length

end Receiver

/-- The receiver as a reader of packets. -/
def reader (strictFeature : Bool) (reaction : Reaction δ μ ζ) :
    Polling.Reader (Receiver δ μ ζ) Delivery Packet Stop where
  feed i receiver := receiver.deliver i
  poll := Receiver.poll strictFeature reaction
  abandon := Receiver.dropFuture

/-- What the socket brings before it is closed. -/
def arrived : List Delivery → Bytes
  | [] => []
  | .octets more :: rest => more ++ arrived rest
  | .closed :: _ => []

/-- Some delivery closes the socket. -/
def closes : List Delivery → Bool
  | [] => false
  | .octets _ :: rest => closes rest
  | .closed :: _ => true

/-- Call `read_packet` again and again, at most `n` times, on a stream at which nothing more arrives:
the packets, and the error or the stream that is left when the last call has to wait. -/
def readAll (env : ReadEnv) (reaction : Reaction δ μ ζ) :
    ℕ → CipherStream δ μ ζ → List Packet × (Stop ⊕ CipherStream δ μ ζ)
  | 0, stream => ([], .inr stream)
  | n + 1, stream =>
    match readPacket env stream with
    | .ok packet stream =>
      let (packets, rest) := readAll env reaction n (reaction.react packet stream)
      (packet :: packets, rest)
    | .error .pending stream => ([], .inr stream)
    | .error e _ => ([], .inl e)

end CipherStream

end Flatline
