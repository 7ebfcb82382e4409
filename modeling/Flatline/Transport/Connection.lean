import Flatline.Transport.Frame
import Flatline.Transport.PlainWire

/-!
# A connection over its whole life

A connection starts in the clear, is upgraded to an encrypted stream, and has its keys replaced, in
each direction at its own time, as often as keys are exchanged. `Connection.act` is one operation on
its stream, as the handshake and the session perform them; the logs beside the stream are read by no
operation.

Source: `src/ssh/stream.rs`, `src/session/handshake.rs` (`Handshaker`, `RekeyExchange`).
-/

namespace Flatline

/-! ## Keys -/

/-- The arguments of `upgrade_client`. -/
structure SendingKeys (ε η μ : Type) where
  encrypt : ε
  encode : η
  calculator : μ

/-- The arguments of `upgrade_server`. -/
structure ReceivingKeys (δ μ ζ : Type) where
  decrypt : δ
  decode : ζ
  verify : μ

variable {ε η δ μ ζ : Type}

/-- `PlainStream::upgrade`. -/
def PlainWire.upgrade (stream : PlainWire) (sending : SendingKeys ε η μ)
    (receiving : ReceivingKeys δ μ ζ) : DuplexStream ε η δ μ ζ where
  buffer := stream.buffer
  decrypt := receiving.decrypt
  decode := receiving.decode
  verify := receiving.verify
  authenticated := false
  client := stream.client
  server := stream.server
  state := none
  encrypt := sending.encrypt
  encode := sending.encode
  calculator := sending.calculator
  writeBuffer := stream.writeBuffer
  written := stream.written

namespace DuplexStream

/-- `CipherStream::upgrade_client`. -/
def upgradeClient (stream : DuplexStream ε η δ μ ζ) (keys : SendingKeys ε η μ) :
    DuplexStream ε η δ μ ζ :=
  { stream with encrypt := keys.encrypt, encode := keys.encode, calculator := keys.calculator }

/-- `CipherStream::upgrade_server`. -/
def upgradeServer (stream : DuplexStream ε η δ μ ζ) (keys : ReceivingKeys δ μ ζ) :
    DuplexStream ε η δ μ ζ :=
  { stream with decrypt := keys.decrypt, decode := keys.decode, verify := keys.verify }

/-- An operation of the receiving half. -/
def reading {α : Type} (m : Read δ μ ζ α) : Send ε η δ μ ζ α := fun stream =>
  match m stream.toCipherStream with
  | .ok a receiving => .ok a { stream with toCipherStream := receiving }
  | .error e receiving => .error e { stream with toCipherStream := receiving }

end DuplexStream

/-! ## Connections -/

/-- The stream of a connection. -/
inductive ConnectionStream (ε η δ μ ζ : Type) where
  | plain (stream : PlainWire)
  | cipher (stream : DuplexStream ε η δ μ ζ)

namespace ConnectionStream

/-- `self.client`. -/
def client : ConnectionStream ε η δ μ ζ → NormalEndpoint
  | plain stream => stream.client
  | cipher stream => stream.client

/-- `self.server`. -/
def server : ConnectionStream ε η δ μ ζ → NormalEndpoint
  | plain stream => stream.server
  | cipher stream => stream.server

/-- The two switches of strict key exchange. -/
def strict (stream : ConnectionStream ε η δ μ ζ) : Bool :=
  stream.client.kexStrict && stream.server.kexStrict

/-- A packet has been begun and is not complete yet. -/
def underWay : ConnectionStream ε η δ μ ζ → Bool
  | plain _ => false
  | cipher stream => stream.state.isSome

end ConnectionStream

/-- A connection, with the payloads it has sent and what has become of the packets it has received,
newest first: the payload, or `none` for a packet that has been taken and refused. `begun` is the
number with which the packet under way has been begun. -/
structure Connection (ε η δ μ ζ : Type) where
  stream : ConnectionStream ε η δ μ ζ
  sent : List Bytes
  received : List (Option Bytes)
  begun : Option UInt32

/-- The operations on a stream. -/
inductive StreamAction (ε η δ μ ζ : Type) where
  | arrive (octets : Bytes)
  | send (env : SendEnv) (payload : Bytes)
  | receive (env : ReadEnv)
  /-- What `negotiate_methods` takes from the server's `SSH_MSG_KEXINIT`. -/
  | negotiate (kexStrict ext : Bool)
  | upgrade (sending : SendingKeys ε η μ) (receiving : ReceivingKeys δ μ ζ)
  | upgradeClient (keys : SendingKeys ε η μ)
  | upgradeServer (keys : ReceivingKeys δ μ ζ)
  | authenticate

namespace Connection

/-- The stream after the banner exchange. -/
def start (client : NormalEndpoint) (buffer : Bytes) : Connection ε η δ μ ζ where
  stream := .plain {
    buffer
    client := { client with sequenceNumber := 0 }
    server := default
    writeBuffer := []
    written := [] }
  sent := []
  received := []
  begun := none

/-- Log a call of `send_payload`. -/
def sending (c : Connection ε η δ μ ζ) {σ : Type} (inject : σ → ConnectionStream ε η δ μ ζ)
    (payload : Bytes) : EStateM.Result Stop σ Unit → Connection ε η δ μ ζ
  | .ok () s => { c with stream := inject s, sent := payload :: c.sent }
  | .error _ s => { c with stream := inject s }

/-- Log a call of `recv_packet`; `size` tells the length of the receive buffer. -/
def receiving (c : Connection ε η δ μ ζ) {σ : Type} (inject : σ → ConnectionStream ε η δ μ ζ)
    (size : σ → ℕ) (before : ℕ) :
    EStateM.Result Stop σ Packet → Connection ε η δ μ ζ
  | .ok packet s => { c with
      stream := inject s
      received := some packet.payload :: c.received }
  | .error _ s => { c with
      stream := inject s
      received := if size s < before then none :: c.received else c.received }

/-- Keep the number with which the packet under way has been begun. -/
def begin (c : Connection ε η δ μ ζ) (before : ConnectionStream ε η δ μ ζ) :
    Connection ε η δ μ ζ :=
  { c with begun :=
      if c.stream.underWay then if before.underWay then c.begun else some before.server.sequenceNumber
      else none }

variable [PacketEncrypt ε] [PacketEncode η] [PacketDecrypt δ] [PacketMac μ] [PacketDecode ζ]

/-- One operation on the stream. -/
def act (c : Connection ε η δ μ ζ) : StreamAction ε η δ μ ζ → Connection ε η δ μ ζ
  | .arrive octets =>
    match c.stream with
    | .plain s => { c with stream := .plain (s.receive octets) }
    | .cipher s => { c with stream := .cipher { s with buffer := s.buffer ++ octets } }
  | .send env payload =>
    match c.stream with
    | .plain s => c.sending .plain payload (PlainWire.sendPayload env payload s)
    | .cipher s => c.sending .cipher payload (DuplexStream.sendPayload env payload s)
  | .receive env =>
    match c.stream with
    | .plain s =>
      c.receiving .plain (fun s => s.buffer.length) s.buffer.length (PlainWire.recvPacket env s)
    | .cipher s =>
      (c.receiving .cipher (fun s => s.buffer.length) s.buffer.length
        (DuplexStream.reading (CipherStream.readPacket env) s)).begin c.stream
  | .negotiate kexStrict ext =>
    match c.stream with
    | .plain s => { c with
        stream := .plain { s with server.kexStrict := kexStrict, server.ext := ext } }
    | .cipher _ => c
  | .upgrade sending receiving =>
    match c.stream with
    | .plain s => { c with stream := .cipher (s.upgrade sending receiving) }
    | .cipher _ => c
  | .upgradeClient keys =>
    match c.stream with
    | .plain _ => c
    | .cipher s => { c with stream := .cipher (s.upgradeClient keys) }
  | .upgradeServer keys =>
    match c.stream with
    | .plain _ => c
    | .cipher s => { c with stream := .cipher (s.upgradeServer keys) }
  | .authenticate =>
    match c.stream with
    | .plain _ => c
    | .cipher s => { c with stream := .cipher { s with authenticated := true } }

end Connection

end Flatline
