import Flatline.Session.BufferCalls

/-!
# SCP sessions

`scp::Handle` as a machine over its buffered channel, as far as it sends files. An operation sends
its record, flushes, and reads one response: its code, and for a failure the line behind it.
`start_sending` executes the remote `scp` instead of sending a record. `operations` and `results`
are the history of the run, newest first; no function of the source reads them.

Source: `src/session/scp.rs`.
-/

namespace Flatline

namespace Scp

/-! ## Operations -/

/-- The calls that send files. -/
inductive Operation where
  | startSending (target : Text) (recursive : Bool)
  | setTimestamp (mtimeSec mtimeUsec atimeSec atimeUsec : UInt64)
  | startSendingFile (permission : UInt16) (size : UInt64) (fileName : Text)
  | enter (permission : UInt16) (target : Text)
  | exit
  /-- `FileSender::send`. -/
  | send (data : Bytes)
  /-- `FileSender::finish`. -/
  | finish
deriving DecidableEq, Repr

/-- `{}` of a number. -/
def decimal (n : ℕ) : Text :=
  ascii (toString n)

/-- `{:04o}` of a number. -/
def octal (n : ℕ) : Text :=
  ((Nat.toDigits 8 n).map fun c => UInt8.ofNat c.toNat).leftpad 4 0x30

/-- What an operation starts with: a command to execute, or octets to send. -/
inductive Opening where
  | exec (command : Text)
  | record (data : Bytes)
deriving DecidableEq, Repr

/-- The error of a name that cannot be quoted. -/
def invalidTargetName : Error :=
  .session (.secureCopyProtocolError .invalidTargetName)

/-- What an operation starts with. `quote` is `shlex::try_quote`. -/
def Operation.opening (quote : Text → Option Text) : Operation → Except Error Opening
  | .startSending target recursive =>
    match quote target with
    | none => .error invalidTargetName
    | some target =>
      .ok (.exec (if recursive then ascii "scp -t -r " ++ target else ascii "scp -t " ++ target))
  | .setTimestamp mtimeSec mtimeUsec atimeSec atimeUsec =>
    .ok (.record (ascii "T" ++ decimal mtimeSec.toNat ++ ascii " " ++ decimal mtimeUsec.toNat ++
      ascii " " ++ decimal atimeSec.toNat ++ ascii " " ++ decimal atimeUsec.toNat ++ [lineFeed]))
  | .startSendingFile permission size fileName =>
    match quote fileName with
    | none => .error invalidTargetName
    | some fileName =>
      .ok (.record (ascii "C" ++ octal permission.toNat ++ ascii " " ++ decimal size.toNat ++
        ascii " " ++ fileName ++ [lineFeed]))
  | .enter permission target =>
    match quote target with
    | none => .error invalidTargetName
    | some target =>
      .ok (.record (ascii "D" ++ octal permission.toNat ++ ascii " 0 " ++ target ++ [lineFeed]))
  | .exit => .ok (.record (ascii "E" ++ [lineFeed]))
  | .send data => .ok (.record data)
  | .finish => .ok (.record [0])

/-- The operation waits for a response. -/
def Operation.waits : Operation → Bool
  | .send _ => false
  | _ => true

/-! ## Sessions -/

/-- Where an operation is. -/
inductive HandleTask where
  | idle
  /-- In `Channel::request_exec`. -/
  | executing (operation : Operation)
  /-- In `BufferChannel::send`. -/
  | sending (operation : Operation)
  /-- In `BufferChannel::flush`. -/
  | flushing (operation : Operation)
  /-- In `fill_exact(1)`. -/
  | code (operation : Operation)
  /-- In `read_line_lf`, behind a code that is not zero. -/
  | line (operation : Operation) (critical : Bool)
deriving DecidableEq, Repr

/-- `scp::Handle`. -/
structure Handle where
  channel : BufferChannel
  task : HandleTask
  operations : List Operation
  results : List (Operation × Except Error Unit)

namespace Handle

/-- The operation in progress returns. -/
def returns (h : Handle) (operation : Operation) (result : Except Error Unit) : Handle :=
  { h with task := .idle, results := (operation, result) :: h.results }

/-- The error for the text of a response. -/
def reported (critical : Bool) (msg : Text) : Error :=
  .session (.secureCopyProtocolError (if critical then .critical msg else .failure msg))

/-- The error of a text that is not UTF-8. -/
def unexpectedErrorMessage : Error :=
  .session (.secureCopyProtocolError .unexpectedErrorMessage)

/-- The error of an unknown code. -/
def unexpectedCode (code : UInt8) : Error :=
  .session (.secureCopyProtocolError (.unexpectedResponse
    (ascii "Unexpected response code " ++ decimal code.toNat)))

/-- Go on from `read_line_lf`, if it has returned: the line is consumed after its text has been
decoded. -/
def afterLine (h : Handle) (operation : Operation) (critical : Bool) : Handle :=
  match h.channel.returned? with
  | none => { h with task := .line operation critical }
  | some (.error e) => h.returns operation (.error e)
  | some (.ok line) =>
    let msg := line.take (line.length - 1)
    if utf8Valid msg then
      { h with channel := h.channel.consumerReadBuffer line.length }.returns operation
        (.error (reported critical msg))
    else h.returns operation (.error unexpectedErrorMessage)

/-- Go on from `fill_exact(1)`, if it has returned. -/
def afterCode (h : Handle) (operation : Operation) : Handle :=
  match h.channel.returned? with
  | none => { h with task := .code operation }
  | some (.error e) => h.returns operation (.error e)
  | some (.ok result) =>
    let h := { h with channel := h.channel.consumerReadBuffer 1 }
    match result with
    | [] => h
    | code :: _ =>
      if code = 0 then h.returns operation (.ok ())
      else if code = 1 then
        { h with channel := h.channel.startRead (.readLineLf 0) }.afterLine operation false
      else if code = 2 then
        { h with channel := h.channel.startRead (.readLineLf 0) }.afterLine operation true
      else h.returns operation (.error (unexpectedCode code))

/-- `wait_for_response` up to its first await. -/
def waitForResponse (h : Handle) (operation : Operation) : Handle :=
  { h with channel := h.channel.startRead (.fillExact 1) }.afterCode operation

/-- Go on from `flush`, if it has returned. -/
def afterFlush (h : Handle) (operation : Operation) : Handle :=
  match h.channel.returned? with
  | none => { h with task := .flushing operation }
  | some (.error e) => h.returns operation (.error e)
  | some (.ok _) => h.waitForResponse operation

/-- Go on from `send`, if it has returned. -/
def afterSend (h : Handle) (operation : Operation) : Handle :=
  match h.channel.returned? with
  | none => { h with task := .sending operation }
  | some (.error e) => h.returns operation (.error e)
  | some (.ok _) =>
    if operation.waits then
      { h with channel := h.channel.startFlush }.afterFlush operation
    else h.returns operation (.ok ())

/-- `request_exec` has returned. -/
def afterExec (h : Handle) (operation : Operation) : Except Error Unit → Handle
  | .error e => h.returns operation (.error e)
  | .ok () => h.waitForResponse operation

/-- An operation up to its first await. -/
def start (quote : Text → Option Text) (h : Handle) (operation : Operation) : Handle :=
  let h := { h with operations := operation :: h.operations }
  match operation.opening quote with
  | .error e => h.returns operation (.error e)
  | .ok (.exec _) => { h with task := .executing operation }
  | .ok (.record data) => { h with channel := h.channel.startSend data }.afterSend operation

/-- Go on with the operation in progress, if its await has returned. -/
def resume (h : Handle) : Handle :=
  match h.task with
  | .idle | .executing _ => h
  | .sending operation => h.afterSend operation
  | .flushing operation => h.afterFlush operation
  | .code operation => h.afterCode operation
  | .line operation critical => h.afterLine operation critical

end Handle

/-! ## Steps -/

/-- What can happen next: the user calls an operation, `request_exec` returns, or the channel goes
on. -/
inductive HandleInput where
  | operate (operation : Operation)
  | executed (result : Except Error Unit)
  | channel (input : BufferInput)

namespace Handle

def next (quote : Text → Option Text) (h : Handle) : HandleInput → Handle
  | .operate operation => h.start quote operation
  | .executed result =>
    match h.task with
    | .executing operation => h.afterExec operation result
    | _ => h
  | .channel input => { h with channel := h.channel.next input }.resume

/-- An input can occur. The futures of the operations are not dropped. -/
def possible (h : Handle) : HandleInput → Bool
  | .operate _ => h.task = .idle
  | .executed _ => match h.task with
    | .executing _ => true
    | _ => false
  | .channel input => input.isEvent && h.channel.possible input

end Handle

end Scp

end Flatline
