import Flatline.Common.Except
import Flatline.Wire.Message

/-!
# The unencrypted stream

Before the first `SSH_MSG_NEWKEYS` packets travel in the clear. A packet arrives as one frame, the
`packet_length` octets that follow the length field; the stream takes the payload out of it and
counts sequence numbers on both sides.

Source: `src/ssh/stream.rs` (`PlainStream`), `src/ssh/msg.rs` (`Packet`).
-/

namespace Flatline

/-- `msg::Packet`. -/
structure Packet where
  payload : Bytes
  padding : Bytes
deriving DecidableEq, Repr

/-- The body of `Packet::parse` after the padding length, on the `body` octets that follow it. -/
def Packet.parseBody (dataLen : ℕ) (paddingLen : UInt8) : Consumer Packet := do
  if dataLen ≤ paddingLen.toNat + 1 then
    throw (.invalidFormat (ascii "Unexpected padding length"))
  let payloadLen := (← Consumer.peek).length - paddingLen.toNat
  let payload ← Consumer.consumeBytes payloadLen
  let padding ← Consumer.consumeBytes paddingLen.toNat
  return { payload, padding }

/-- `Packet::parse`. -/
def Packet.parse (data : Bytes) : Except Error Packet :=
  Consumer.run' (do Packet.parseBody data.length (← Consumer.consumeU8)) data

/-- The octets of a packet after its length field. -/
def Packet.build (packet : Packet) : Bytes :=
  UInt8.ofNat packet.padding.length :: (packet.payload ++ packet.padding)

/-- `stream::NormalEndpoint`. -/
structure NormalEndpoint where
  kexStrict : Bool
  ext : Bool
  sequenceNumber : UInt32
deriving DecidableEq, Repr

instance : Inhabited NormalEndpoint :=
  ⟨{ kexStrict := false, ext := false, sequenceNumber := 0 }⟩

/-- What reaches the client next: a frame, or the news that the connection is lost. Until the next
arrival its writes succeed or fail as `writable` says. -/
structure Arrival where
  frame : Option Bytes
  writable : Bool
deriving DecidableEq, Repr

/-- A frame with the given payload and four octets of padding, over a connection that takes
writes. -/
def Arrival.ofPayload (payload : Bytes) : Arrival where
  frame := some (Packet.build { payload, padding := [0, 0, 0, 0] })
  writable := true

/-- `stream::PlainStream`; `written` lists the payloads sent so far, oldest first. -/
structure PlainStream where
  client : NormalEndpoint
  server : NormalEndpoint
  written : List Bytes
  writable : Bool
deriving DecidableEq, Repr

namespace PlainStream

/-- Both sides asked for strict key exchange. -/
def strict (stream : PlainStream) : Bool :=
  stream.server.kexStrict && stream.client.kexStrict

/-- `padding_len` of `send_payload`: at least four octets, up to a multiple of eight. -/
def paddingLen (payloadLen : ℕ) : ℕ :=
  let paddingLen := 8 - (4 + 1 + payloadLen) % 8
  if paddingLen < minPaddingLength then paddingLen + 8 else paddingLen

/-- The stream after `payload` has been written: the sequence number goes up, or starts again with
the client's `SSH_MSG_NEWKEYS` of a strict key exchange. -/
def afterSend (stream : PlainStream) (payload : Bytes) : PlainStream :=
  let reset := payload.head? = some sshMsgNewkeys ∧ stream.strict = true
  { stream with
    written := stream.written ++ [payload]
    client.sequenceNumber := if reset then 0 else stream.client.sequenceNumber + 1 }

/-- `PlainStream::send_payload`. Every caller passes a nonempty payload, which the source
asserts. -/
def sendPayload (stream : PlainStream) (payload : Bytes) : Except Error PlainStream :=
  if payload.length > maxPacketPayloadLength then
    .error (.transport (.payloadTooLong maxPacketPayloadLength payload.length))
  else if payload.length + paddingLen payload.length + 1 + 4 > maxPacketLength then
    .error (.transport (.packetTooLong maxPacketLength
      (payload.length + paddingLen payload.length + 1 + 4)))
  else if !stream.writable then
    .error .io
  else
    .ok (stream.afterSend payload)

/-- The payload an arriving frame carries, or why there is none. -/
def framePayload (arrival : Arrival) : Except Error Bytes :=
  match arrival.frame with
  | none => .error .io
  | some data =>
    if data.length + 4 > maxPacketLength then
      .error (.transport (.packetTooLong maxPacketLength (data.length + 4)))
    else do
      let packet ← Packet.parse data
      if packet.payload = [] then .error (.transport .payloadIsEmpty) else return packet.payload

/-- The stream after `payload` has arrived: the sequence number goes up, or starts again with the
server's `SSH_MSG_NEWKEYS` of a strict key exchange. -/
def afterRecv (stream : PlainStream) (arrival : Arrival) (payload : Bytes) : PlainStream :=
  let reset := payload.head? = some sshMsgNewkeys ∧ stream.strict = true
  { stream with
    writable := arrival.writable
    server.sequenceNumber := if reset then 0 else stream.server.sequenceNumber + 1 }

/-- `PlainStream::recv_packet`. -/
def recvPacket (stream : PlainStream) (arrival : Arrival) : Except Error (Bytes × PlainStream) := do
  let payload ← framePayload arrival
  return (payload, stream.afterRecv arrival payload)

@[simp] theorem afterSend_client_kexStrict (stream : PlainStream) (payload : Bytes) :
    (stream.afterSend payload).client.kexStrict = stream.client.kexStrict := rfl

@[simp] theorem afterSend_server (stream : PlainStream) (payload : Bytes) :
    (stream.afterSend payload).server = stream.server := rfl

@[simp] theorem afterSend_writable (stream : PlainStream) (payload : Bytes) :
    (stream.afterSend payload).writable = stream.writable := rfl

@[simp] theorem afterRecv_client (stream : PlainStream) (arrival : Arrival) (payload : Bytes) :
    (stream.afterRecv arrival payload).client = stream.client := rfl

@[simp] theorem afterRecv_server_kexStrict (stream : PlainStream) (arrival : Arrival)
    (payload : Bytes) :
    (stream.afterRecv arrival payload).server.kexStrict = stream.server.kexStrict := rfl

@[simp] theorem afterRecv_strict (stream : PlainStream) (arrival : Arrival) (payload : Bytes) :
    (stream.afterRecv arrival payload).strict = stream.strict := rfl

@[simp] theorem afterSend_strict (stream : PlainStream) (payload : Bytes) :
    (stream.afterSend payload).strict = stream.strict := rfl

@[simp] theorem afterRecv_writable (stream : PlainStream) (arrival : Arrival) (payload : Bytes) :
    (stream.afterRecv arrival payload).writable = arrival.writable := rfl

/-- A write succeeds exactly when the payload is not too long and the connection takes it. -/
theorem sendPayload_eq_ok_iff {stream stream' : PlainStream} {payload : Bytes} :
    stream.sendPayload payload = .ok stream' ↔
      payload.length ≤ maxPacketPayloadLength ∧ stream.writable = true ∧
        stream.afterSend payload = stream' := by
  have hpacket : payload.length ≤ maxPacketPayloadLength →
      ¬ payload.length + paddingLen payload.length + 1 + 4 > maxPacketLength := by
    intro h
    have hpad : paddingLen payload.length ≤ 16 := by
      unfold paddingLen
      simp only
      split <;> omega
    simp only [maxPacketPayloadLength] at h
    simp only [maxPacketLength]
    omega
  unfold sendPayload
  rw [Except.ite_error_eq_ok_iff, Except.ite_error_eq_ok_iff, Except.ite_error_eq_ok_iff]
  constructor
  · rintro ⟨hlen, -, hwritable, h⟩
    injection h with h
    exact ⟨by omega, by simpa using hwritable, h⟩
  · rintro ⟨hlen, hwritable, rfl⟩
    exact ⟨by omega, hpacket hlen, by simp [hwritable], rfl⟩

theorem recvPacket_eq_ok_iff {stream stream' : PlainStream} {arrival : Arrival} {payload : Bytes} :
    stream.recvPacket arrival = .ok (payload, stream') ↔
      framePayload arrival = .ok payload ∧ stream.afterRecv arrival payload = stream' := by
  unfold recvPacket
  rw [Except.bind_eq_ok_iff]
  constructor
  · rintro ⟨payload', hframe, h⟩
    injection h with h
    injection h with h₁ h₂
    subst h₁
    exact ⟨hframe, h₂⟩
  · rintro ⟨hframe, rfl⟩
    exact ⟨payload, hframe, rfl⟩

end PlainStream

end Flatline
