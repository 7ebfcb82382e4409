import Flatline.Transport.PlainStream

/-!
# The encrypted stream

Once keys are in use the stream decrypts packets as their octets arrive. `readPacket` is one poll of
`read_packet`: it works on the octets received so far and ends early when it needs more. Every
suspension point sits behind state that is already stored, so polling again from the top goes on
where the previous poll stopped; a dropped future restarts the same way.

Source: `src/ssh/stream.rs` (`CipherStream`), `src/stream.rs` (`BufferStream`).
-/

namespace Flatline

/-! ## Packet algorithms

The traits as `read_packet` uses them; `Cipher`, `Mac` and `Compression` are the same objects as key
exchange sees them. -/

/-- The four octets of a length field. -/
abbrev Header := UInt8 × UInt8 × UInt8 × UInt8

/-- `u32::from_be_bytes` on a length field. -/
def Header.value (header : Header) : UInt32 :=
  fromBeBytes header.1 header.2.1 header.2.2.1 header.2.2.2

/-- `crypt::Decrypt`, the part that reading a packet uses. `update` and `finalize` append to their
output; what they have appended stays there also when they fail. -/
class PacketDecrypt (δ : Type) where
  blockSize : δ → ℕ
  isGaloisCounterMode : δ → Bool
  tagLen : δ → ℕ
  updateSequenceNumber : UInt32 → δ → Except Error Unit × δ
  additionalAuthenticatedData : Header → δ → Except Error Header × δ
  update : Bytes → δ → (Except Error Unit × Bytes) × δ
  authenticationTag : Bytes → δ → Except Error Unit × δ
  finalize : δ → (Except Error Unit × Bytes) × δ

/-- `mac::Mac`, the part that reading a packet uses. -/
class PacketMac (μ : Type) where
  encryptThenMac : μ → Bool
  macLen : μ → ℕ
  update : Bytes → μ → Except Error Unit × μ
  finalize : μ → Except Error Bytes × μ

/-- `compress::Decode`, the part that reading a packet uses. `update` is `none` where it does not
return. -/
class PacketDecode (ζ : Type) where
  compressInAuthentication : ζ → Bool
  update : Bytes → ζ → Option (Except Error Unit × ζ)
  finalize : ζ → Except Error Bytes × ζ

/-! ## The stream -/

/-- The fields of `State::Ready`. -/
structure Ready where
  length : Option UInt32
  encrypted : Bytes
  decrypted : Bytes
deriving DecidableEq, Repr

/-- Append to the decrypted octets. -/
def Ready.append (ready : Ready) (output : Bytes) : Ready :=
  { ready with decrypted := ready.decrypted ++ output }

/-- `stream::CipherStream`, its receiving half. `state` is `none` for `State::None`; `buffer` holds
the octets that have arrived and are not consumed yet. -/
structure CipherStream (δ μ ζ : Type) where
  buffer : Bytes
  decrypt : δ
  decode : ζ
  verify : μ
  authenticated : Bool
  client : NormalEndpoint
  server : NormalEndpoint
  state : Option Ready

/-- Why a poll of `read_packet` returns no packet. -/
inductive Stop where
  /-- `Poll::Pending`: more octets are needed. -/
  | pending
  | failed (error : Error)
  /-- A failed assertion, a slice out of range, or an arithmetic underflow. -/
  | panicked
  /-- The decompressor does not return. -/
  | stuck
deriving DecidableEq, Repr

/-- A computation on the stream. What it has changed stays changed when it stops. -/
abbrev Read (δ μ ζ : Type) := EStateM Stop (CipherStream δ μ ζ)

/-- What a poll depends on besides the stream: whether a read of the socket fails instead of
waiting, and whether the crate is built with the feature `strict`. -/
structure ReadEnv where
  readFails : Bool
  strictFeature : Bool
deriving DecidableEq, Repr

namespace CipherStream

variable {δ μ ζ : Type}

/-- The fields of `State::Ready`. -/
def ready (stream : CipherStream δ μ ζ) : Ready :=
  stream.state.getD { length := none, encrypted := [], decrypted := [] }

/-! ### Operations that may panic -/

/-- `assert!`. -/
def assert (p : Prop) [Decidable p] : Read δ μ ζ Unit :=
  if p then pure () else throw .panicked

/-- `&data[start..stop]`. -/
def slice (data : Bytes) (start stop : ℕ) : Read δ μ ζ Bytes :=
  if start ≤ stop ∧ stop ≤ data.length then pure ((data.take stop).drop start)
  else throw .panicked

/-- `a - b` of unsigned integers. -/
def sub (a b : ℕ) : Read δ μ ζ ℕ :=
  if b ≤ a then pure (a - b) else throw .panicked

/-- `bytes.try_into().unwrap()` for four octets. -/
def toHeader (data : Bytes) : Read δ μ ζ Header :=
  match data with
  | [a, b, c, d] => pure (a, b, c, d)
  | _ => throw .panicked

/-! ### Socket, cipher and MAC -/

/-- Return the error `e` unless `p`. -/
def ensure (p : Prop) [Decidable p] (e : Error) : Read δ μ ζ Unit :=
  if p then pure () else throw (.failed e)

/-- `BufferStream::fill`. -/
def fill (env : ReadEnv) (len : ℕ) : Read δ μ ζ Bytes := fun stream =>
  if len ≤ stream.buffer.length then .ok (stream.buffer.take len) stream
  else if env.readFails then .error (.failed .io) stream
  else .error .pending stream

/-- `BufferStream::consume_read_buffer`. -/
def consumeReadBuffer (size : ℕ) : Read δ μ ζ Unit := fun stream =>
  if size ≤ stream.buffer.length then
    .ok () { stream with buffer := stream.buffer.drop size }
  else
    .error .panicked stream

/-- Call the cipher. -/
def decrypting {α : Type} (f : δ → Except Error α × δ) : Read δ μ ζ α := fun stream =>
  match f stream.decrypt with
  | (.ok a, decrypt) => .ok a { stream with decrypt }
  | (.error e, decrypt) => .error (.failed e) { stream with decrypt }

/-- Call the cipher with a local output buffer. -/
def decryptingTo (f : δ → (Except Error Unit × Bytes) × δ) : Read δ μ ζ Bytes :=
  decrypting fun decrypt =>
    let ((result, output), decrypt) := f decrypt
    (result.map fun _ => output, decrypt)

/-- Call the cipher with the output buffer `decrypted` of the stored state. -/
def decryptingStored (f : δ → (Except Error Unit × Bytes) × δ) : Read δ μ ζ Unit := fun stream =>
  let ((result, output), decrypt) := f stream.decrypt
  let stream := { stream with decrypt, state := some (stream.ready.append output) }
  match result with
  | .ok () => .ok () stream
  | .error e => .error (.failed e) stream

/-- Call the MAC. -/
def verifying {α : Type} (f : μ → Except Error α × μ) : Read δ μ ζ α := fun stream =>
  match f stream.verify with
  | (.ok a, verify) => .ok a { stream with verify }
  | (.error e, verify) => .error (.failed e) { stream with verify }

/-- Call the decompressor. -/
def decoding {α : Type} (f : ζ → Except Error α × ζ) : Read δ μ ζ α := fun stream =>
  match f stream.decode with
  | (.ok a, decode) => .ok a { stream with decode }
  | (.error e, decode) => .error (.failed e) { stream with decode }

/-- Feed the decompressor, which may not return. -/
def feeding (f : ζ → Option (Except Error Unit × ζ)) : Read δ μ ζ Unit := fun stream =>
  match f stream.decode with
  | some result => decoding (fun _ => result) stream
  | none => .error .stuck stream

/-- Read from a slice; the value comes with what is left of the slice. -/
def consuming {α : Type} (m : Consumer α) (data : Bytes) : Read δ μ ζ (α × Bytes) :=
  match m data with
  | .ok a rest => pure (a, rest)
  | .error e _ => throw (.failed e)

/-- Change the fields of `State::Ready`. -/
def modifyReady (f : Ready → Ready) : Read δ μ ζ Unit :=
  modify fun stream => { stream with state := some (f stream.ready) }

/-- The stored length, or else what `read` finds it to be. -/
def lengthOr (read : Read δ μ ζ UInt32) : Read δ μ ζ UInt32 := fun stream =>
  match stream.ready.length with
  | some length => .ok length stream
  | none => read stream

/-- The announced length with its own four octets and the tag must fit into a packet. -/
def checkLength (length : UInt32) (tagLen : ℕ) : Read δ μ ζ Unit :=
  ensure (length.toNat + 4 + tagLen ≤ maxPacketLength)
    (.transport (.packetTooLong maxPacketLength (length.toNat + 4)))

variable [PacketDecrypt δ] [PacketMac μ] [PacketDecode ζ]

/-- Decompress a payload, where compression is on. -/
def decompress (content : Bytes) : Read δ μ ζ Bytes := do
  let stream ← get
  if stream.authenticated || PacketDecode.compressInAuthentication stream.decode then
    feeding (PacketDecode.update content)
    decoding PacketDecode.finalize
  else
    return content

/-- Take padding and payload out of `data`, what the three modes have decrypted after the length
field. The modes subtract the padding length and the one octet that holds it in different
orders. -/
def openPacket (length : UInt32) (data : Bytes) : Read δ μ ζ Packet := do
  let (paddingLen, rest) ← consuming Consumer.consumeU8 data
  ensure (paddingLen.toNat + 1 < length.toNat) (.transport .unexpectedPaddingLength)
  let contentLen ← sub (← sub length.toNat paddingLen.toNat) 1
  let (content, padding) ← consuming (Consumer.consumeBytes contentLen) rest
  let payload ← decompress content
  return { payload, padding }

/-- Check the tag over `parts`, which the sequence number precedes. -/
def verifyTag (parts : List Bytes) (tag : Bytes) : Read δ μ ζ Unit := do
  verifying (PacketMac.update (toBeBytes (← get).server.sequenceNumber))
  parts.forM fun part => verifying (PacketMac.update part)
  let mac ← verifying PacketMac.finalize
  ensure (mac = tag) (.transport .macVerificationFailed)

/-- PacketDecrypt `data` into the stored output buffer. -/
def decryptAll (data : Bytes) : Read δ μ ζ Unit := do
  decryptingStored (PacketDecrypt.update data)
  decryptingStored PacketDecrypt.finalize

/-! ### The three modes -/

/-- The length field of a packet in Galois/counter mode, once it has arrived. -/
def readGcmLength (env : ReadEnv) : Read δ μ ζ UInt32 := do
  let header ← toHeader (← fill env 4)
  let header ← decrypting (PacketDecrypt.additionalAuthenticatedData header)
  checkLength header.value (PacketDecrypt.tagLen (← get).decrypt)
  modifyReady fun ready => { ready with length := some header.value }
  return header.value

/-- The `is_galois_counter_mode` branch of `read_packet`. -/
def readGaloisCounterMode (env : ReadEnv) : Read δ μ ζ Packet := do
  let length ← lengthOr (readGcmLength env)
  let tagLen := PacketDecrypt.tagLen (← get).decrypt
  let bytes ← fill env (4 + length.toNat + tagLen)
  let bytes ← slice bytes 4 bytes.length
  let updated ← decryptingTo (PacketDecrypt.update (← slice bytes 0 length.toNat))
  decrypting (PacketDecrypt.authenticationTag (← slice bytes length.toNat bytes.length))
  let finalized ← decryptingTo PacketDecrypt.finalize
  let packet ← openPacket length (updated ++ finalized)
  consumeReadBuffer (4 + length.toNat + tagLen)
  return packet

/-- The length field of a packet in encrypt-then-MAC mode, once it has arrived. It is not stored. -/
def readEtmLength (env : ReadEnv) : Read δ μ ζ UInt32 := do
  let header ← toHeader (← fill env 4)
  checkLength header.value (PacketMac.macLen (← get).verify)
  return header.value

/-- The `encrypt_then_mac` branch of `read_packet`. -/
def readEncryptThenMac (env : ReadEnv) : Read δ μ ζ Packet := do
  let length ← lengthOr (readEtmLength env)
  assert ((← get).ready.decrypted = [])
  let macLen := PacketMac.macLen (← get).verify
  let packet ← fill env (4 + length.toNat + macLen)
  let body ← slice packet 4 (length.toNat + 4)
  let tag ← slice packet (length.toNat + 4) packet.length
  verifyTag [toBeBytes length, body] tag
  decryptAll body
  let packet ← openPacket length (← get).ready.decrypted
  consumeReadBuffer (4 + length.toNat + macLen)
  return packet

/-- PacketDecrypt the first block and read the length in it. -/
def readFirstBlock (env : ReadEnv) : Read δ μ ζ UInt32 := do
  assert ((← get).ready.decrypted.length = 0)
  let header ← fill env (PacketDecrypt.blockSize (← get).decrypt)
  decryptingStored (PacketDecrypt.update header)
  assert (header.length = (← get).ready.decrypted.length)
  let length := (← toHeader (← slice (← get).ready.decrypted 0 4)).value
  checkLength length (PacketMac.macLen (← get).verify)
  modifyReady fun ready => { ready with encrypted := header, length := some length }
  return length

/-- The remaining branch of `read_packet`: MAC, then encrypt. -/
def readMacThenEncrypt (env : ReadEnv) : Read δ μ ζ Packet := do
  let length ← lengthOr (readFirstBlock env)
  let macLen := PacketMac.macLen (← get).verify
  let packet ← fill env (length.toNat + 4 + macLen)
  decryptAll (← slice packet (← get).ready.encrypted.length (length.toNat + 4))
  let decrypted := (← get).ready.decrypted
  verifyTag [decrypted] (← slice packet (length.toNat + 4) packet.length)
  let packet ← openPacket length (← slice decrypted 4 (length.toNat + 4))
  consumeReadBuffer (length.toNat + 4 + macLen)
  return packet

/-! ### `read_packet` -/

/-- The `State::None` arm. -/
def start : Read δ μ ζ Unit := fun stream =>
  match stream.state with
  | some _ => .ok () stream
  | none => (do
      decrypting (PacketDecrypt.updateSequenceNumber stream.server.sequenceNumber)
      modifyReady fun _ => { length := none, encrypted := [], decrypted := [] }) stream

/-- The mode that cipher and MAC select. -/
def readReady (env : ReadEnv) : Read δ μ ζ Packet := fun stream =>
  if PacketDecrypt.isGaloisCounterMode stream.decrypt then readGaloisCounterMode env stream
  else if PacketMac.encryptThenMac stream.verify then readEncryptThenMac env stream
  else readMacThenEncrypt env stream

/-- The server's sequence number starts again after its `SSH_MSG_NEWKEYS` in strict mode. -/
def resetSequenceNumber (code : UInt8) (stream : CipherStream δ μ ζ) : CipherStream δ μ ζ :=
  if code = sshMsgNewkeys ∧ stream.client.kexStrict ∧ stream.server.kexStrict then
    { stream with server.sequenceNumber := 0 }
  else stream

/-- What the `State::Ready` arm does with a packet. -/
def finish (env : ReadEnv) (packet : Packet) : Read δ μ ζ Packet := do
  modify fun stream => { stream with
    state := none
    server.sequenceNumber := stream.server.sequenceNumber + 1 }
  match packet.payload with
  | [] => throw (.failed (.transport .payloadIsEmpty))
  | code :: _ =>
    ensure (packet.payload.length ≤ maxPacketPayloadLength ∨ env.strictFeature = false)
      (.transport (.payloadTooLong maxPacketPayloadLength packet.payload.length))
    modify (resetSequenceNumber code)
    return packet

/-- One poll of `CipherStream::read_packet`. -/
def readPacket (env : ReadEnv) : Read δ μ ζ Packet := do
  start
  let packet ← readReady env
  finish env packet

end CipherStream

end Flatline
