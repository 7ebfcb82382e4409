import Flatline.Transport.CipherStream

/-!
# The sending half of the encrypted stream

`send_payload` builds a packet around a payload, seals it in the mode that cipher and MAC select and
hands it to the socket. The sequence number goes up only after the socket has taken everything.

Source: `src/ssh/stream.rs` (`CipherStream`), `src/stream.rs` (`BufferStream`).
-/

namespace Flatline

/-! ## Packet algorithms -/

/-- `crypt::Encrypt`, the part that sending a packet uses. `update` and `finalize` return what they
append to their output. -/
class PacketEncrypt (ε : Type) where
  blockSize : ε → ℕ
  isGaloisCounterMode : ε → Bool
  updateSequenceNumber : UInt32 → ε → Except Error Unit × ε
  additionalAuthenticatedData : Header → ε → Except Error Header × ε
  update : Bytes → ε → Except Error Bytes × ε
  finalize : ε → Except Error Bytes × ε
  /-- `authentication_tag`: the octets it writes over the last `tag_len` ones. -/
  authenticationTag : ε → Except Error Bytes × ε

/-- `compress::Encode`, the part that sending a packet uses. -/
class PacketEncode (η : Type) where
  compressInAuthentication : η → Bool
  update : Bytes → η → Except Error Unit × η
  finalize : η → Except Error Bytes × η

/-! ## Packets -/

/-- The four octets of a length field. -/
def Header.ofLength (length : UInt32) : Header :=
  (UInt8.ofNat (length.toNat / 0x1000000), UInt8.ofNat (length.toNat / 0x10000),
    UInt8.ofNat (length.toNat / 0x100), UInt8.ofNat length.toNat)

/-- The octets of a length field on the wire. -/
def Header.octets (header : Header) : Bytes :=
  [header.1, header.2.1, header.2.2.1, header.2.2.2]

/-- The length field of a packet. -/
def Packet.length (packet : Packet) : UInt32 :=
  UInt32.ofNat (1 + packet.payload.length + packet.padding.length)

/-- `padding_len`: at least four octets, up to a multiple of the block size. `covered` is how many
octets the blocks hold besides the padding. -/
def paddingLength (blockSize covered : ℕ) : ℕ :=
  let paddingLen := blockSize - covered % blockSize
  if paddingLen < minPaddingLength then paddingLen + blockSize else paddingLen

/-- What sending a packet depends on besides the stream: the random number generator, and how many
octets the socket takes before a write fails, if one fails. -/
structure SendEnv where
  random : ℕ → UInt8
  flushError : Option ℕ

/-- `rng.fill`. -/
def SendEnv.fill (env : SendEnv) (n : ℕ) : Bytes :=
  (List.range n).map env.random

/-! ## The stream -/

/-- `stream::CipherStream` with both halves. `writeBuffer` holds the octets that the socket has not
taken yet, `written` all that it has taken. -/
structure DuplexStream (ε η δ μ ζ : Type) extends CipherStream δ μ ζ where
  encrypt : ε
  encode : η
  calculator : μ
  writeBuffer : Bytes
  written : Bytes

/-- A computation on the stream. What it has changed stays changed when it stops. -/
abbrev Send (ε η δ μ ζ : Type) := EStateM Stop (DuplexStream ε η δ μ ζ)

namespace DuplexStream

variable {ε η δ μ ζ : Type}

/-- Call the cipher. -/
def encrypting {α : Type} (f : ε → Except Error α × ε) : Send ε η δ μ ζ α := fun stream =>
  match f stream.encrypt with
  | (.ok a, encrypt) => .ok a { stream with encrypt }
  | (.error e, encrypt) => .error (.failed e) { stream with encrypt }

/-- Call the MAC. -/
def calculating {α : Type} (f : μ → Except Error α × μ) : Send ε η δ μ ζ α := fun stream =>
  match f stream.calculator with
  | (.ok a, calculator) => .ok a { stream with calculator }
  | (.error e, calculator) => .error (.failed e) { stream with calculator }

/-- Call the compressor. -/
def encoding {α : Type} (f : η → Except Error α × η) : Send ε η δ μ ζ α := fun stream =>
  match f stream.encode with
  | (.ok a, encode) => .ok a { stream with encode }
  | (.error e, encode) => .error (.failed e) { stream with encode }

/-- `BufferStream::put_bytes`. -/
def putBytes (octets : Bytes) : Send ε η δ μ ζ Unit :=
  modify fun stream => { stream with writeBuffer := stream.writeBuffer ++ octets }

/-- `BufferStream::flush`. -/
def flush (env : SendEnv) : Send ε η δ μ ζ Unit := fun stream =>
  match env.flushError with
  | none => .ok () { stream with
      written := stream.written ++ stream.writeBuffer
      writeBuffer := [] }
  | some n => .error (.failed .io) { stream with
      written := stream.written ++ stream.writeBuffer.take n
      writeBuffer := stream.writeBuffer.drop n }

/-- The two switches of strict key exchange. -/
def strict (stream : DuplexStream ε η δ μ ζ) : Bool :=
  stream.client.kexStrict && stream.server.kexStrict

variable [PacketEncrypt ε] [PacketEncode η] [PacketMac μ]

/-- Compress a payload, where compression is on. -/
def compress (payload : Bytes) : Send ε η δ μ ζ Bytes := do
  let stream ← get
  if stream.authenticated || PacketEncode.compressInAuthentication stream.encode then
    encoding (PacketEncode.update payload)
    encoding PacketEncode.finalize
  else
    return payload

/-- The packet around a payload. -/
def makePacket (env : SendEnv) (blockSize covered : ℕ) (payload : Bytes) : Packet where
  payload
  padding := env.fill (paddingLength blockSize (covered + payload.length))

/-- Encrypt `data` to its end. -/
def encryptAll (data : Bytes) : Send ε η δ μ ζ Bytes := do
  let updated ← encrypting (PacketEncrypt.update data)
  let finalized ← encrypting PacketEncrypt.finalize
  return updated ++ finalized

/-- The tag over `parts`, which the sequence number precedes. -/
def calculateTag (parts : List Bytes) : Send ε η δ μ ζ Bytes := do
  calculating (PacketMac.update (toBeBytes (← get).client.sequenceNumber))
  parts.forM fun part => calculating (PacketMac.update part)
  calculating PacketMac.finalize

/-- The `is_galois_counter_mode` branch of `send_payload`: the octets it puts into the buffer. -/
def sealGaloisCounterMode (env : SendEnv) (payload : Bytes) : Send ε η δ μ ζ Bytes := do
  let packet := makePacket env (PacketEncrypt.blockSize (← get).encrypt) 1 payload
  encrypting (PacketEncrypt.updateSequenceNumber (← get).client.sequenceNumber)
  let header ←
    encrypting (PacketEncrypt.additionalAuthenticatedData (.ofLength packet.length))
  let encrypted ← encryptAll packet.build
  let tag ← encrypting PacketEncrypt.authenticationTag
  return header.octets ++ encrypted ++ tag

/-- The `encrypt_then_mac` branch of `send_payload`. -/
def sealEncryptThenMac (env : SendEnv) (payload : Bytes) : Send ε η δ μ ζ Bytes := do
  let packet := makePacket env (PacketEncrypt.blockSize (← get).encrypt) 1 payload
  let encrypted ← encryptAll packet.build
  if encrypted.length = packet.build.length then
    let mac ← calculateTag [toBeBytes packet.length, encrypted]
    return toBeBytes packet.length ++ encrypted ++ mac
  else
    throw .panicked

/-- The remaining branch of `send_payload`: MAC, then encrypt. -/
def sealMacThenEncrypt (env : SendEnv) (payload : Bytes) : Send ε η δ μ ζ Bytes := do
  let packet := makePacket env (PacketEncrypt.blockSize (← get).encrypt) (4 + 1) payload
  let producer := toBeBytes packet.length ++ packet.build
  let mac ← calculateTag [producer]
  let encrypted ← encryptAll producer
  return encrypted ++ mac

/-- The mode that cipher and MAC select. -/
def sealPacket (env : SendEnv) (payload : Bytes) : Send ε η δ μ ζ Bytes := fun stream =>
  if PacketEncrypt.isGaloisCounterMode stream.encrypt then sealGaloisCounterMode env payload stream
  else if PacketMac.encryptThenMac stream.calculator then sealEncryptThenMac env payload stream
  else sealMacThenEncrypt env payload stream

/-- A sequence number goes up, or starts again with the `SSH_MSG_NEWKEYS` of a strict key
exchange. -/
def nextNumber (strict : Bool) (payload : Bytes) (number : UInt32) : UInt32 :=
  if payload.head? = some sshMsgNewkeys ∧ strict = true then 0 else number + 1

/-- `CipherStream::send_payload`. -/
def sendPayload (env : SendEnv) (payload : Bytes) : Send ε η δ μ ζ Unit :=
  if payload = [] then throw .panicked
  else if payload.length > maxPacketPayloadLength then
    throw (.failed (.transport (.payloadTooLong maxPacketPayloadLength payload.length)))
  else do
    let content ← compress payload
    putBytes (← sealPacket env content)
    flush env
    modify fun stream => { stream with
      client.sequenceNumber := nextNumber stream.strict payload stream.client.sequenceNumber }

end DuplexStream

end Flatline
