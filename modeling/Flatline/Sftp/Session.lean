import Flatline.Session.BufferCalls
import Flatline.Sftp.Replies

/-!
# SFTP sessions

`sftp::Handle` as a machine over its buffered channel. An operation sends its request, flushes, and
reads one reply: first its length, then the whole of it. `operations` and `results` are the history
of the run, newest first; no function of the source reads them. A result comes with the files that
the operation has borrowed, as it leaves them.

Source: `src/session/sftp/mod.rs`.
-/

namespace Flatline

namespace Sftp

/-- Where an operation is. -/
inductive HandleTask where
  | idle
  /-- In `BufferChannel::send`. -/
  | sending (operation : Operation)
  /-- In `BufferChannel::flush`. -/
  | flushing (operation : Operation)
  /-- In `fill_exact(4)`. -/
  | header (operation : Operation)
  /-- In `fill_exact(len + 4)`. -/
  | body (operation : Operation) (len : ℕ)
deriving DecidableEq, Repr

/-- `sftp::Handle`. -/
structure Handle where
  channel : BufferChannel
  requestId : UInt32
  task : HandleTask
  operations : List Operation
  results : List (Operation × Outcome)

namespace Handle

/-- The longest reply that is read. -/
def maxPacketSize : ℕ := 1024 * 1024 * 1024

/-- The operation in progress returns. -/
def finish (h : Handle) (operation : Operation) (outcome : Outcome) : Handle :=
  { h with task := .idle, results := (operation, outcome) :: h.results }

/-- The end of `receive_msg` and of the operation, on the octets of the reply with its length. -/
def receiveReply (h : Handle) (operation : Operation) (len : ℕ) (data : Bytes) : Handle :=
  match Message.parse (data.drop 4) with
  | .error e => h.finish operation (operation.fails e)
  | .ok msg =>
    let h := { h with channel := h.channel.consumerReadBuffer (len + 4) }
    if msg.id ≠ h.requestId then
      h.finish operation (operation.fails (fault (.mismatchResponse h.requestId msg.id)))
    else
      h.finish operation (operation.interpret msg.payload operation.files)

/-- Go on from `fill_exact(len + 4)`, if it has returned. -/
def afterBody (h : Handle) (operation : Operation) (len : ℕ) : Handle :=
  match h.channel.returned? with
  | none => { h with task := .body operation len }
  | some (.error e) => h.finish operation (operation.fails e)
  | some (.ok data) => h.receiveReply operation len data

/-- The number in the four octets of the length. -/
def lengthOf : Bytes → ℕ
  | [a, b, c, d] => (fromBeBytes a b c d).toNat
  | _ => 0

/-- Go on from `fill_exact(4)`, if it has returned. -/
def afterHeader (h : Handle) (operation : Operation) : Handle :=
  match h.channel.returned? with
  | none => { h with task := .header operation }
  | some (.error e) => h.finish operation (operation.fails e)
  | some (.ok data) =>
    if lengthOf data > maxPacketSize then
      h.finish operation (operation.fails (fault .unexpectedResponse))
    else
      { h with channel := h.channel.startRead (.fillExact (lengthOf data + 4)) }.afterBody operation
        (lengthOf data)

/-- Go on from `flush`, if it has returned. -/
def afterFlush (h : Handle) (operation : Operation) : Handle :=
  match h.channel.returned? with
  | none => { h with task := .flushing operation }
  | some (.error e) => h.finish operation (operation.fails e)
  | some (.ok _) =>
    { h with channel := h.channel.startRead (.fillExact 4) }.afterHeader operation

/-- Go on from `send`, if it has returned. -/
def afterSend (h : Handle) (operation : Operation) : Handle :=
  match h.channel.returned? with
  | none => { h with task := .sending operation }
  | some (.error e) => h.finish operation (operation.fails e)
  | some (.ok _) => { h with channel := h.channel.startFlush }.afterFlush operation

/-- An operation up to its first await. -/
def start (h : Handle) (operation : Operation) : Handle :=
  let requestId := nextRequestId h.requestId
  { h with
    channel := h.channel.startSend (operation.encode requestId)
    requestId
    operations := operation :: h.operations }.afterSend operation

/-- Go on with the operation in progress, if its await has returned. -/
def resume (h : Handle) : Handle :=
  match h.task with
  | .idle => h
  | .sending operation => h.afterSend operation
  | .flushing operation => h.afterFlush operation
  | .header operation => h.afterHeader operation
  | .body operation len => h.afterBody operation len

end Handle

/-! ## Steps -/

/-- What can happen next: the user calls an operation, or the channel goes on. -/
inductive HandleInput where
  | operate (operation : Operation)
  | channel (input : BufferInput)

namespace Handle

def next (h : Handle) : HandleInput → Handle
  | .operate operation => h.start operation
  | .channel input => { h with channel := h.channel.next input }.resume

/-- An input can occur. The futures of the operations are not dropped. -/
def possible (h : Handle) : HandleInput → Bool
  | .operate _ => h.task = .idle
  | .channel input => input.isEvent && h.channel.possible input

end Handle

end Sftp

end Flatline
