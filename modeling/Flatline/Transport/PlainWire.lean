import Flatline.Transport.Duplex

/-!
# The unencrypted stream on its socket

`PlainStream` takes packets as whole frames. `PlainWire` is the same stream with the octets that its
socket has brought and taken.

Source: `src/ssh/stream.rs` (`PlainStream`), `src/stream.rs` (`BufferStream`).
-/

namespace Flatline

/-- `stream::PlainStream` with the buffers of its socket. -/
structure PlainWire where
  buffer : Bytes
  client : NormalEndpoint
  server : NormalEndpoint
  writeBuffer : Bytes
  written : Bytes

namespace PlainWire

/-- A computation on the stream. -/
abbrev Run := EStateM Stop PlainWire

/-- The two switches of strict key exchange. -/
def strict (stream : PlainWire) : Bool :=
  stream.client.kexStrict && stream.server.kexStrict

/-- `BufferStream::fill`. -/
def fill (env : ReadEnv) (len : ℕ) : Run Bytes := fun stream =>
  if len ≤ stream.buffer.length then .ok (stream.buffer.take len) stream
  else if env.readFails then .error (.failed .io) stream
  else .error .pending stream

/-- Return the error `e` unless `p`. -/
def ensure (p : Prop) [Decidable p] (e : Error) : Run Unit :=
  if p then pure () else throw (.failed e)

/-- `BufferStream::write`, then `BufferStream::flush`. -/
def writeAll (env : SendEnv) (octets : Bytes) : Run Unit := fun stream =>
  let pending := stream.writeBuffer ++ octets
  match env.flushError with
  | none => .ok () { stream with written := stream.written ++ pending, writeBuffer := [] }
  | some n => .error (.failed .io) { stream with
      written := stream.written ++ pending.take n
      writeBuffer := pending.drop n }

/-- The packet around a payload. -/
def packetOf (env : SendEnv) (payload : Bytes) : Packet where
  payload
  padding := env.fill (PlainStream.paddingLen payload.length)

/-- `PlainStream::send_payload`. -/
def sendPayload (env : SendEnv) (payload : Bytes) : Run Unit :=
  if payload = [] then throw .panicked
  else do
    ensure (payload.length ≤ maxPacketPayloadLength)
      (.transport (.payloadTooLong maxPacketPayloadLength payload.length))
    let packet := packetOf env payload
    ensure (payload.length + packet.padding.length + 1 + 4 ≤ maxPacketLength)
      (.transport (.packetTooLong maxPacketLength (payload.length + packet.padding.length + 1 + 4)))
    writeAll env (toBeBytes packet.length ++ packet.build)
    modify fun stream => { stream with
      client.sequenceNumber :=
        DuplexStream.nextNumber stream.strict payload stream.client.sequenceNumber }

/-- `u32::from_be_bytes(size.try_into().unwrap())`. -/
def toSize (data : Bytes) : Run UInt32 :=
  match data with
  | [a, b, c, d] => pure (fromBeBytes a b c d)
  | _ => throw .panicked

/-- `Packet::parse` on what follows the length field. -/
def parse (data : Bytes) : Run Packet :=
  match Packet.parse data with
  | .ok packet => pure packet
  | .error e => throw (.failed e)

/-- `BufferStream::consume_read_buffer`, and the number of the packet that has been consumed. -/
def consumePacket (size : ℕ) : Run Unit :=
  modify fun stream => { stream with
    buffer := stream.buffer.drop size
    server.sequenceNumber := stream.server.sequenceNumber + 1 }

/-- The server's sequence number starts again after its `SSH_MSG_NEWKEYS` in strict mode. -/
def resetSequenceNumber (code : UInt8) (stream : PlainWire) : PlainWire :=
  if code = sshMsgNewkeys ∧ stream.client.kexStrict ∧ stream.server.kexStrict then
    { stream with server.sequenceNumber := 0 }
  else stream

/-- What `recv_packet` does with a packet that it has parsed from `size` octets. The payload is
measured before anything is consumed. -/
def finish (env : ReadEnv) (size : ℕ) (packet : Packet) : Run Packet := do
  ensure (packet.payload.length ≤ maxPacketPayloadLength ∨ env.strictFeature = false)
    (.transport (.payloadTooLong maxPacketPayloadLength packet.payload.length))
  consumePacket size
  match packet.payload with
  | [] => throw (.failed (.transport .payloadIsEmpty))
  | code :: _ =>
    modify (resetSequenceNumber code)
    return packet

/-- `PlainStream::recv_packet`. -/
def recvPacket (env : ReadEnv) : Run Packet := do
  let size ← toSize (← fill env 4)
  ensure (size.toNat + 4 ≤ maxPacketLength)
    (.transport (.packetTooLong maxPacketLength (size.toNat + 4)))
  let data ← fill env (4 + size.toNat)
  let packet ← parse (data.drop 4)
  finish env (4 + size.toNat) packet

/-- Octets that arrive go to the end of the buffer. -/
def receive (more : Bytes) (stream : PlainWire) : PlainWire :=
  { stream with buffer := stream.buffer ++ more }

end PlainWire

end Flatline
