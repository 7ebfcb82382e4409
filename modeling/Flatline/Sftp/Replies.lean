import Flatline.Session.State
import Flatline.Sftp.Request

/-!
# SFTP replies

What each operation of `sftp::Handle` makes of the payload of its reply. `read_file` and `write_file`
have a file whose cursor they may move; the files of an operation are the state of `FileM`.

Source: `src/session/sftp/mod.rs`.
-/

namespace Flatline.Sftp

/-- What an operation returns. -/
inductive Reply where
  | done
  | statvfs (stat : Statvfs)
  | limits (limits : Limits)
  | text (text : Text)
  | names (usernames groupnames : List Text)
  | entry (info : FileInfo)
  | entries (infos : List FileInfo)
  | file (file : File)
  | read (data : Bytes)
  | directory (handle : Bytes)
  | attributes (attributes : Attributes)
deriving DecidableEq, Repr

/-- A payload that does not fit the request. -/
def unexpectedResponse : Except Error Reply :=
  .error (fault .unexpectedResponse)

/-- The operations that a status answers. -/
def expectStatus : Payload → Except Error Reply
  | .status status error _ => do
    status.toResult error
    return .done
  | _ => unexpectedResponse

/-- `statvfs` and `fstatvfs`. -/
def expectStatvfs : Payload → Except Error Reply
  | .status status error _ => .error (status.toError error)
  | .extendReply data => do return .statvfs (← Statvfs.parse data)
  | _ => unexpectedResponse

/-- `limits`. -/
def expectLimits : Payload → Except Error Reply
  | .extendReply data => do return .limits (← Limits.parse data)
  | _ => unexpectedResponse

/-- `expand_path` and `home_directory`. -/
def expectPath : Payload → Except Error Reply
  | .status status error _ => .error (status.toError error)
  | .name (info :: _) => .ok (.text info.fileName)
  | _ => unexpectedResponse

/-- `readlink` and `realpath`. -/
def expectEntry : Payload → Except Error Reply
  | .status status error _ => .error (status.toError error)
  | .name (info :: _) => .ok (.entry info)
  | _ => unexpectedResponse

/-- The loop over the names in a string. A name takes four octets or more, so the length of the
string is enough fuel. -/
def consumeNames : (fuel : ℕ) → Consumer (List Text)
  | 0 => return []
  | fuel + 1 => do
    if (← Consumer.peek) = [] then return []
    else
      let name ← Consumer.consumeText (.transport .expectString)
      return name :: (← consumeNames fuel)

/-- The names in the next string. -/
def consumeNameList : Consumer (List Text) := do
  let content ← Consumer.consumeOne
  match Consumer.run' (consumeNames content.length) content with
  | .ok names => return names
  | .error e => throw e

/-- `users_groups_by_id`. -/
def expectNames : Payload → Except Error Reply
  | .status status error _ => .error (status.toError error)
  | .extendReply data => Consumer.run' (do
      let usernames ← consumeNameList
      let groupnames ← consumeNameList
      return .names usernames groupnames) data
  | _ => unexpectedResponse

/-- `open_file`. -/
def expectFile : Payload → Except Error Reply
  | .status status error _ =>
    if status ≠ .ok then .error (status.toError error) else unexpectedResponse
  | .handle handle => .ok (.file (.new handle))
  | _ => unexpectedResponse


/-- `open_directory`. -/
def expectDirectory : Payload → Except Error Reply
  | .status status error _ => .error (status.toError error)
  | .handle handle => .ok (.directory handle)
  | _ => unexpectedResponse

/-- `read_directory`. -/
def expectEntries : Payload → Except Error Reply
  | .status status error _ => do
    status.toResult error
    return .entries []
  | .name infos => .ok (.entries infos)
  | _ => unexpectedResponse

/-- `status`. -/
def expectAttributes : Payload → Except Error Reply
  | .status status error _ => .error (status.toError error)
  | .attributes attributes => .ok (.attributes attributes)
  | _ => unexpectedResponse

/-! ## Files -/

/-- The files an operation borrows. -/
def Operation.files : Operation → List File
  | .fstatvfs file | .fsync file | .closeFile file | .setFstat file _ | .fstat file
  | .readFile file .. | .writeFile file .. => [file]
  | .copyData read _ write => [read, write]
  | _ => []

/-- The end of an operation, over the files that it borrows. -/
abbrev FileM := EStateM Fault (List File)

/-- How an operation ends: what it returns or where it stops, and its files as it leaves them. -/
abbrev Outcome := EStateM.Result Fault (List File) Reply

/-- A step that touches no file. -/
def liftFiles {α : Type} (x : Except Error α) : FileM α :=
  match x with
  | .ok a => pure a
  | .error e => throw (.error e)

/-- `file.forward(offset)`, on the file that the operation borrows first. -/
def forward (offset : ℕ) : FileM Unit := do
  match ← get with
  | [] => return
  | file :: rest =>
    match file.forward offset with
    | none => throw .panicked
    | some file => set (file :: rest)

/-- `read_file`: the cursor moves by what has been read. -/
def expectData : Payload → FileM Reply
  | .status status error _ => do
    liftFiles (status.toResult error)
    return .read []
  | .data data => do
    forward data.length
    return .read data
  | _ => liftFiles unexpectedResponse

/-- `write_file`: the cursor moves by what has been written. -/
def expectWritten (data : Bytes) : Payload → FileM Reply
  | .status status error _ => do
    liftFiles (status.toResult error)
    forward data.length
    return .done
  | _ => liftFiles unexpectedResponse

/-- The closure or the last `match` of each operation. -/
def Operation.interpret (operation : Operation) (payload : Payload) : FileM Reply :=
  match operation with
  | .statvfs _ | .fstatvfs _ => liftFiles (expectStatvfs payload)
  | .limits => liftFiles (expectLimits payload)
  | .expandPath _ | .homeDirectory _ => liftFiles (expectPath payload)
  | .usersGroupsById .. => liftFiles (expectNames payload)
  | .readlink _ | .realpath _ => liftFiles (expectEntry payload)
  | .openFile .. => liftFiles (expectFile payload)
  | .readFile .. => expectData payload
  | .writeFile _ _ data => expectWritten data payload
  | .openDirectory _ => liftFiles (expectDirectory payload)
  | .readDirectory _ => liftFiles (expectEntries payload)
  | .stat _ | .lstat _ | .fstat _ => liftFiles (expectAttributes payload)
  | .posixRename .. | .hardlink .. | .fsync _ | .lsetstat .. | .copyData .. | .symlink ..
  | .rename .. | .rmdir _ | .mkdir .. | .removeFile _ | .closeFile _ | .setStat .. | .setFstat .. =>
    liftFiles (expectStatus payload)

/-- An operation stops with an error before it has looked at the payload of its reply. -/
def Operation.fails (operation : Operation) (e : Error) : Outcome :=
  .error (.error e) operation.files

end Flatline.Sftp
