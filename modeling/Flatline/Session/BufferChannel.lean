import Flatline.Common.Machine
import Flatline.Session.State

/-!
# Buffered channels

`BufferChannel` as a machine: an input is a call of the user, what the current await of that call
returns, or a message that the backend puts into the channel's queue. `log` is the history of the
run, newest effect first; no function of the source reads it.

Source: `src/session/channel.rs`.
-/

namespace Flatline

/-- The octet of `\n`. -/
def lineFeed : UInt8 := 0x0A

/-! ## Reads -/

/-- The calls that wait for stdout. -/
inductive ReadCall where
  | fillOnce
  | fill
  | fillExact (len : ℕ)
  /-- `pos` is where the search for the end of the line goes on. -/
  | readLineLf (pos : ℕ)
deriving DecidableEq, Repr

namespace ReadCall

/-- The call as the user makes it. -/
def isFresh : ReadCall → Bool
  | .readLineLf pos => pos = 0
  | _ => true

/-- What a call returns without another message, if the read buffer has enough for it. -/
def answer (readBuf : Bytes) : ReadCall → Option Bytes
  | .fillOnce => none
  | .fill => if readBuf = [] then none else some readBuf
  | .fillExact len => if readBuf.length < len then none else some (readBuf.take len)
  | .readLineLf pos =>
    ((readBuf.drop pos).findIdx? (· = lineFeed)).map fun i => readBuf.take (pos + i + 1)

/-- What a call returns after its `fill_once` has returned. -/
def resume (readBuf : Bytes) : ReadCall → Option Bytes
  | .fillOnce => some []
  | call => call.answer readBuf

/-- What a call keeps while it waits. -/
def advance (readBuf : Bytes) : ReadCall → ReadCall
  | .readLineLf _ => .readLineLf readBuf.length
  | call => call

end ReadCall

/-! ## State -/

/-- Where a call of the user is. -/
inductive BufferTask where
  /-- No call is in progress. -/
  | ready
  /-- `send` awaits `Channel::send(data)`; the write buffer was empty. -/
  | sendingFirst (data : Bytes)
  /-- `send` awaits `Channel::send(&write_buf[..])`. -/
  | sendingAgain
  /-- `flush` awaits `Channel::send(&write_buf[pos..])`. -/
  | flushing (pos : ℕ)
  /-- `flush` awaits `Channel::receive`. -/
  | draining (pos : ℕ)
  /-- A read awaits `Channel::receive`. -/
  | filling (call : ReadCall)
deriving DecidableEq, Repr

/-- What a run has done, one entry at a time. -/
inductive BufferEffect where
  /-- The user has called `send`. -/
  | offered (data : Bytes)
  /-- `Channel::send` has taken octets. -/
  | accepted (data : Bytes)
  | took (message : ChannelMessage)
  /-- The user has dropped octets from the read buffer. -/
  | consumed (data : Bytes)
  | returned (result : Except Error Bytes)

/-- `channel::BufferChannel` at an await or between two calls. `queue` and `closed` are the
channel's receiver: the messages in it, and whether its sender is gone. -/
structure BufferChannel where
  queue : List ChannelMessage
  closed : Bool
  writeBuf : Bytes
  readBuf : Bytes
  task : BufferTask
  log : List BufferEffect

namespace BufferChannel

/-- `BufferChannel::new`. -/
structure IsInitial (b : BufferChannel) : Prop where
  writeBuf : b.writeBuf = []
  readBuf : b.readBuf = []
  task : b.task = .ready
  log : b.log = []

def note (b : BufferChannel) (effect : BufferEffect) : BufferChannel :=
  { b with log := effect :: b.log }

/-- The call in progress returns. -/
def returns (b : BufferChannel) (result : Except Error Bytes) : BufferChannel :=
  { b with task := .ready, log := .returned result :: b.log }

/-! ## Calls -/

/-- The data of the `Channel::send` that the call in progress awaits. -/
def outgoing (b : BufferChannel) : Option Bytes :=
  match b.task with
  | .sendingFirst data => some data
  | .sendingAgain => some b.writeBuf
  | .flushing pos => some (b.writeBuf.drop pos)
  | _ => none

/-- `send` up to its first await. `Channel::send` returns at once for no data. -/
def startSend (b : BufferChannel) (data : Bytes) : BufferChannel :=
  if b.writeBuf = [] then
    if data = [] then (b.note (.offered data)).returns (.ok [])
    else { b.note (.offered data) with task := .sendingFirst data }
  else
    { b.note (.offered data) with writeBuf := b.writeBuf ++ data, task := .sendingAgain }

/-- `flush` up to its first await. -/
def startFlush (b : BufferChannel) : BufferChannel :=
  if b.writeBuf = [] then b.returns (.ok []) else { b with task := .flushing 0 }

/-- A read up to its first await. -/
def startRead (b : BufferChannel) (call : ReadCall) : BufferChannel :=
  match call.answer b.readBuf with
  | some answer => b.returns (.ok answer)
  | none => { b with task := .filling (call.advance b.readBuf) }

/-- `consumer_read_buffer`. -/
def consumerReadBuffer (b : BufferChannel) (len : ℕ) : BufferChannel :=
  if len = 0 ∨ b.readBuf = [] then b
  else { b with readBuf := b.readBuf.drop len, log := .consumed (b.readBuf.take len) :: b.log }

/-! ## Awaits -/

/-- The channel has taken the first `size` octets of what the call in progress sends. -/
def take (b : BufferChannel) (size : ℕ) : BufferChannel :=
  match b.outgoing with
  | some data => b.note (.accepted (data.take size))
  | none => b

/-- `Channel::send` returns `Ok(size)`. -/
def accept (b : BufferChannel) (size : ℕ) : BufferChannel :=
  let b := b.take size
  match b.task with
  | .sendingFirst data =>
    if size < data.length then
      { b with writeBuf := b.writeBuf ++ data.drop size }.returns (.ok [])
    else b.returns (.ok [])
  | .sendingAgain => { b with writeBuf := b.writeBuf.drop size }.returns (.ok [])
  | .flushing pos =>
    if pos + size = b.writeBuf.length then { b with writeBuf := [] }.returns (.ok [])
    else { b with task := .draining (pos + size) }
  | _ => b

/-- `Channel::send` returns an error after the channel has taken `size` octets. -/
def refuse (b : BufferChannel) (size : ℕ) (error : Error) : BufferChannel :=
  (b.take size).returns (.error error)

/-- The error of a loop that finds the channel closed. -/
def unexpectedClose : Error :=
  .session (.unexpectedMessage (ascii "Unexpected close message"))

/-- The error of `fill_once` for the end of the stream. -/
def unexpectedEof : Error :=
  .session (.unexpectedMessage (ascii "Unexpected eof message"))

/-- The error of `Channel::receive` when the sender is gone. -/
def receiveFailed : Error :=
  .session (.unexpectedBehaviour (ascii "Maybe session was shutdown"))

/-- The loop of `flush` over the messages of the channel. -/
def drainTurn (b : BufferChannel) (pos : ℕ) : ChannelMessage → BufferChannel
  | .close => b.returns (.error unexpectedClose)
  | .stdout data => { b with readBuf := b.readBuf ++ data }
  | .eof | .stderr _ | .exit _ | .flowControl _ => b
  | .windowChange _ => { b with task := .flushing pos }

/-- `fill_once` returns to the loop of its caller. -/
def filled (b : BufferChannel) (call : ReadCall) : BufferChannel :=
  match call.resume b.readBuf with
  | some answer => b.returns (.ok answer)
  | none => { b with task := .filling (call.advance b.readBuf) }

/-- The loop of `fill_once`. -/
def fillTurn (b : BufferChannel) (call : ReadCall) : ChannelMessage → BufferChannel
  | .close => b.returns (.error unexpectedClose)
  | .eof => b.returns (.error unexpectedEof)
  | .stdout data => { b with readBuf := b.readBuf ++ data }.filled call
  | .stderr _ | .exit _ | .flowControl _ | .windowChange _ => b

/-- `Channel::receive` returns the next message. -/
def onMessage (b : BufferChannel) (message : ChannelMessage) : BufferChannel :=
  match b.task with
  | .draining pos => (b.note (.took message)).drainTurn pos message
  | .filling call => (b.note (.took message)).fillTurn call message
  | _ => b.note (.took message)

/-- `Channel::receive` returns. -/
def receive (b : BufferChannel) : BufferChannel :=
  match b.queue with
  | message :: rest => { b with queue := rest }.onMessage message
  | [] => b.returns (.error receiveFailed)

end BufferChannel

/-! ## Steps -/

/-- What can happen next. -/
inductive BufferInput where
  | send (data : Bytes)
  | flush
  | read (call : ReadCall)
  | consume (len : ℕ)
  /-- `Channel::send` returns. -/
  | accepted (size : ℕ)
  | refused (size : ℕ) (error : Error)
  /-- `Channel::receive` returns. -/
  | receive
  /-- The future is dropped while it awaits `Channel::receive`. -/
  | dropped
  /-- The backend puts a message into the queue. -/
  | arrives (message : ChannelMessage)
  /-- The backend drops its end of the queue. -/
  | senderDropped

/-- The call in progress awaits `Channel::receive`. -/
def BufferTask.receives : BufferTask → Bool
  | .draining _ | .filling _ => true
  | _ => false

/-- A `send` or a `flush` is in progress. -/
def BufferTask.writes : BufferTask → Bool
  | .sendingFirst _ | .sendingAgain | .flushing _ | .draining _ => true
  | .ready | .filling _ => false

namespace BufferChannel

/-- The state after an input. -/
def next (b : BufferChannel) : BufferInput → BufferChannel
  | .send data => b.startSend data
  | .flush => b.startFlush
  | .read call => b.startRead call
  | .consume len => b.consumerReadBuffer len
  | .accepted size => b.accept size
  | .refused size error => b.refuse size error
  | .receive => b.receive
  | .dropped => { b with task := .ready }
  | .arrives message => { b with queue := b.queue ++ [message] }
  | .senderDropped => { b with closed := true }

/-- An input can occur. `Channel::send` fails with octets left to send, if it fails, and a
`consumer_read_buffer` beyond the end of the buffer panics. -/
def possible (b : BufferChannel) : BufferInput → Bool
  | .send _ | .flush => b.task = .ready
  | .read call => b.task = .ready ∧ call.isFresh = true
  | .consume len => b.task = .ready ∧ (len ≤ b.readBuf.length ∨ b.readBuf = [])
  | .accepted size => b.outgoing.any fun data => size ≤ data.length
  | .refused size _ => b.outgoing.any fun data => size < data.length
  | .receive => b.task.receives && (!b.queue.isEmpty || b.closed)
  | .dropped => b.task.receives
  | .arrives _ => !b.closed
  | .senderDropped => true

/-- One step of a buffered channel. -/
abbrev Step : BufferChannel → BufferInput → BufferChannel → Prop :=
  Machine.Step possible next

/-- The states of the runs that meet `guard` at every step. -/
abbrev ReachableVia (guard : BufferChannel → BufferInput → Prop) : BufferChannel → Prop :=
  Machine.ReachVia IsInitial Step guard

/-- The states of all runs. -/
abbrev Reachable : BufferChannel → Prop :=
  Machine.Reachable IsInitial Step

/-- A new buffered channel whose queue is empty. -/
def fresh : BufferChannel where
  queue := []
  closed := false
  writeBuf := []
  readBuf := []
  task := .ready
  log := []

theorem reachable_fresh {guard : BufferChannel → BufferInput → Prop} : ReachableVia guard fresh :=
  .start ⟨rfl, rfl, rfl, rfl⟩

end BufferChannel

end Flatline
