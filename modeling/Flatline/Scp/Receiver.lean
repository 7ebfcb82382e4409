import Flatline.Scp.Session
import Flatline.Session.BufferWrites

/-!
# SCP downloads

`FileReceiver` as a machine over the buffered channel of its handle. `receive` takes all of the read
buffer, counts it, and compares the count with the announced size and the NUL behind the file; the
octets up to the size are returned, and the NUL is acknowledged. The arithmetic is that of `u64`: an
overflow, and an assertion that fails, is a panic. `results` and `answers` are the history of the
run, newest first; no function of the source reads them.

Source: `src/session/scp.rs` (`FileReceiver`, `Handle::receive`).
-/

namespace Flatline

namespace Scp

/-- Where a call is. -/
inductive ReceiverTask where
  | idle
  /-- In `BufferChannel::fill`. -/
  | filling
  /-- In `BufferChannel::send` of the acknowledgement; `data` is what is returned after it. -/
  | sending (data : Bytes)
  /-- In `BufferChannel::flush`. -/
  | flushing (data : Bytes)
  | panicked
deriving DecidableEq, Repr

/-- `FileReceiver`, without the name and the mode of the file, which it only hands out. -/
structure FileReceiver where
  channel : BufferChannel
  size : UInt64
  received : ℕ
  task : ReceiverTask
  results : List (Except Error Bytes)
  answers : List Bool

namespace FileReceiver

/-- The call in progress returns. -/
def returns (r : FileReceiver) (result : Except Error Bytes) : FileReceiver :=
  { r with task := .idle, results := result :: r.results }

def panic (r : FileReceiver) : FileReceiver :=
  { r with task := .panicked }

/-- An error of the protocol. -/
def unexpectedResponse (detail : Text) : Error :=
  .session (.secureCopyProtocolError (.unexpectedResponse detail))

/-- The file does not end with a NUL. -/
def unexpectedEnding : Error :=
  unexpectedResponse (ascii "Unexpected file data ending")

/-- There is more than the file and its NUL. -/
def unexpectedData (received size : ℕ) : Error :=
  unexpectedResponse (ascii "Unexpected file data: received=" ++ decimal received ++
    ascii ", size=" ++ decimal size)

/-- Go on from `flush`, if it has returned. -/
def afterFlush (r : FileReceiver) (data : Bytes) : FileReceiver :=
  match r.channel.returned? with
  | none => { r with task := .flushing data }
  | some (.error e) => r.returns (.error e)
  | some (.ok _) => r.returns (.ok data)

/-- Go on from `send`, if it has returned. -/
def afterSend (r : FileReceiver) (data : Bytes) : FileReceiver :=
  match r.channel.returned? with
  | none => { r with task := .sending data }
  | some (.error e) => r.returns (.error e)
  | some (.ok _) => { r with channel := r.channel.startFlush }.afterFlush data

/-- The end of `receive`, on the octets that `Handle::receive` has returned. -/
def account (r : FileReceiver) (data : Bytes) : FileReceiver :=
  match checkedAdd r.received data.length with
  | none => r.panic
  | some received =>
    let r := { r with received }
    match checkedAdd r.size.toNat 1 with
    | none => r.panic
    | some last =>
      if received = last then
        match data.getLast? with
        | none => r.panic
        | some ending =>
          if ending ≠ 0 then r.returns (.error unexpectedEnding)
          else { r with channel := r.channel.startSend [0] }.afterSend data.dropLast
      else if received > last then
        r.returns (.error (unexpectedData received r.size.toNat))
      else r.returns (.ok data)

/-- Go on from `fill`, if it has returned. -/
def afterFill (r : FileReceiver) : FileReceiver :=
  match r.channel.returned? with
  | none => { r with task := .filling }
  | some (.error e) => r.returns (.error e)
  | some (.ok data) =>
    { r with channel := r.channel.consumerReadBuffer data.length }.account data

/-- `receive` up to its first await. -/
def receive (r : FileReceiver) : FileReceiver :=
  { r with channel := r.channel.startRead .fill }.afterFill

/-- `is_finished`. -/
def isFinished (r : FileReceiver) : FileReceiver :=
  match checkedAdd r.size.toNat 1 with
  | none => r.panic
  | some last =>
    if r.received ≤ last then { r with answers := decide (r.received = last) :: r.answers }
    else r.panic

/-- Go on with the call in progress, if its await has returned. -/
def resume (r : FileReceiver) : FileReceiver :=
  match r.task with
  | .idle | .panicked => r
  | .filling => r.afterFill
  | .sending data => r.afterSend data
  | .flushing data => r.afterFlush data

end FileReceiver

/-! ## Steps -/

/-- What can happen next: a call of the user, or the channel goes on. -/
inductive ReceiverInput where
  | receive
  | isFinished
  | channel (input : BufferInput)

namespace FileReceiver

def next (r : FileReceiver) : ReceiverInput → FileReceiver
  | .receive => r.receive
  | .isFinished => r.isFinished
  | .channel input => { r with channel := r.channel.next input }.resume

/-- An input can occur. The futures of the calls are not dropped. -/
def possible (r : FileReceiver) : ReceiverInput → Bool
  | .receive | .isFinished => r.task = .idle
  | .channel input => input.isEvent && r.channel.possible input

/-- `FileReceiver::new`, behind the `C` record: nothing is left to be sent. The history of the
channel begins with what is left in the read buffer. -/
structure IsInitial (r : FileReceiver) : Prop where
  ready : r.channel.task = .ready
  writeBuf : r.channel.writeBuf = []
  log : r.channel.log = [.took (.stdout r.channel.readBuf)]
  short : r.channel.arrived.length < 2 ^ 64
  received : r.received = 0
  task : r.task = .idle
  results : r.results = []

/-- One step of a download. -/
abbrev Step : FileReceiver → ReceiverInput → FileReceiver → Prop :=
  Machine.Step possible next

/-- The states of the runs that meet `guard` at every step. -/
abbrev ReachableVia (guard : FileReceiver → ReceiverInput → Prop) : FileReceiver → Prop :=
  Machine.ReachVia IsInitial Step guard

/-! ## What a download has done -/

/-- All octets of the server from the beginning of the file on, as far as they have been taken from
the queue. -/
def stream (r : FileReceiver) : Bytes :=
  r.channel.stdout

/-- What `receive` has returned, in order. -/
def delivered (r : FileReceiver) : Bytes :=
  (r.results.reverse.filterMap Except.toOption).flatten

/-- A call has returned an error. -/
def HasFailed (r : FileReceiver) : Prop :=
  ∃ e, .error e ∈ r.results

end FileReceiver

end Scp

end Flatline
