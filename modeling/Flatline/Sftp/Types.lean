import Flatline.Session.State

/-!
# SFTP types

Attribute blocks, status codes, directory entries and the replies of the server. A map of extended
attributes is the list of its entries in the order in which the map is iterated, no key twice.

Source: `src/session/sftp/types.rs`.
-/

namespace Flatline.Sftp

/-- An error of the SFTP layer as the crate's error. -/
def fault (source : SftpError) : Error :=
  .session (.sshFileTransferProtocolError source)

/-! ## Attributes -/

/-- `FileType`. -/
inductive FileType where
  | directory
  | characterDevice
  | blockDevice
  | regularFile
  | fifo
  | symbolicLink
  | socket
deriving DecidableEq, Repr

namespace FileType

/-- The discriminants. -/
def bits : FileType → UInt32
  | .directory => 0o40000
  | .characterDevice => 0o20000
  | .blockDevice => 0o60000
  | .regularFile => 0o100000
  | .fifo => 0o10000
  | .symbolicLink => 0o120000
  | .socket => 0o140000

/-- `TryFromPrimitive`. -/
def ofBits (value : UInt32) : Option FileType :=
  [directory, characterDevice, blockDevice, regularFile, fifo, symbolicLink, socket].find? fun type =>
    type.bits = value

def mask : UInt32 := 0o170000

end FileType

/-- `PermissionsAndFileType`; the permissions are the bits of the flag set. -/
structure PermissionsAndFileType where
  permissions : UInt32
  fileType : FileType
deriving DecidableEq, Repr

namespace PermissionsAndFileType

def bits (property : PermissionsAndFileType) : UInt32 :=
  property.permissions ||| property.fileType.bits

/-- `TryFrom<u32>`: bits outside the nine permissions are dropped. -/
def ofBits (value : UInt32) : Option PermissionsAndFileType :=
  (FileType.ofBits (value &&& FileType.mask)).map fun fileType =>
    ⟨(value &&& ~~~FileType.mask) &&& 0o777, fileType⟩

end PermissionsAndFileType

/-- `User`. -/
structure User where
  uid : UInt32
  gid : UInt32
deriving DecidableEq, Repr

/-- `Timestamp`. -/
structure Timestamp where
  atime : UInt32
  mtime : UInt32
deriving DecidableEq, Repr

/-- `Attributes`. -/
structure Attributes where
  size : Option UInt64
  user : Option User
  property : Option PermissionsAndFileType
  time : Option Timestamp
  extend : Option (List (Text × Bytes))
deriving DecidableEq, Repr

namespace Attributes

/-- One `if let Some(..)` of `to_bytes`: set the flag of a field and append its octets. -/
def putIf {α : Type} (value : Option α) (flag : UInt32) (put : α → Bytes)
    (written : UInt32 × Bytes) : UInt32 × Bytes :=
  match value with
  | some a => (written.1 ||| flag, written.2 ++ put a)
  | none => written

/-- The octets of the extended attributes. -/
def putExtend (extend : List (Text × Bytes)) : Bytes :=
  toBeBytes (UInt32.ofNat extend.length) ++
    extend.flatMap fun (k, v) => (Field.one k).put ++ (Field.one v).put

/-- `Attributes::to_bytes`: in the end the flags replace the four octets at the front. -/
def toBytes (attributes : Attributes) : Bytes :=
  let written := (0, toBeBytes 0)
  let written := putIf attributes.size sshFilexferAttrSize toBeBytes64 written
  let written := putIf attributes.user sshFilexferAttrUidgid
    (fun user => toBeBytes user.uid ++ toBeBytes user.gid) written
  let written := putIf attributes.property sshFilexferAttrPermissions
    (fun permissions => toBeBytes permissions.bits) written
  let written := putIf attributes.time sshFilexferAttrAcmodtime
    (fun time => toBeBytes time.atime ++ toBeBytes time.mtime) written
  let (flags, producer) := putIf attributes.extend sshFilexferAttrExtended putExtend written
  toBeBytes flags ++ producer.drop 4

/-- The loop of `Attributes::parse` over the extended attributes. -/
def parseExtend : ℕ → List (Text × Bytes) → Consumer (List (Text × Bytes))
  | 0, extend => return extend
  | count + 1, extend => do
    let key ← Consumer.consumeOne
    let value ← Consumer.consumeOne
    if utf8Valid key then parseExtend count (insertKey extend key value)
    else throw (.transport .expectString)

/-- Read a field if its flag is set. -/
def parseIf {α : Type} (flags flag : UInt32) (field : Consumer α) : Consumer (Option α) :=
  if flags &&& flag ≠ 0 then do return some (← field) else return none

/-- `Attributes::parse`. Permissions of an unknown file type are left out. -/
def parse : Consumer Attributes := do
  let flags ← Consumer.consumeU32
  let size ← parseIf flags sshFilexferAttrSize Consumer.consumeU64
  let user ← parseIf flags sshFilexferAttrUidgid do
    let uid ← Consumer.consumeU32
    let gid ← Consumer.consumeU32
    return ⟨uid, gid⟩
  let permissions ← parseIf flags sshFilexferAttrPermissions Consumer.consumeU32
  let time ← parseIf flags sshFilexferAttrAcmodtime do
    let atime ← Consumer.consumeU32
    let mtime ← Consumer.consumeU32
    return ⟨atime, mtime⟩
  let extend ← parseIf flags sshFilexferAttrExtended do
    let count ← Consumer.consumeU32
    parseExtend count.toNat []
  return { size, user, property := permissions.bind PermissionsAndFileType.ofBits, time, extend }

end Attributes

/-! ## Status codes -/

/-- `Status`. -/
inductive Status where
  | ok
  | eof
  | noSuchFile
  | permissionDenied
  | failure
  | badMessage
  | noConnection
  | connectionLost
  | opUnsupported
deriving DecidableEq, Repr

namespace Status

/-- `Status::try_from`. -/
def ofCode (code : UInt32) : Option Status :=
  [ok, eof, noSuchFile, permissionDenied, failure, badMessage, noConnection, connectionLost,
    opUnsupported][code.toNat]?

/-- `Status::to_error`. -/
def toError (msg : Text) : Status → Error
  | .ok => fault .unexpectedResponse
  | .eof => fault (.unexpectedEof msg)
  | .noSuchFile => fault (.noSuchFile msg)
  | .permissionDenied => fault (.permissionDenied msg)
  | .failure => fault (.failure msg)
  | .badMessage => fault (.badMessage msg)
  | .noConnection => fault (.noConnection msg)
  | .connectionLost => fault (.connectionLost msg)
  | .opUnsupported => fault (.opUnsupported msg)

/-- `Status::to_result`. -/
def toResult (msg : Text) : Status → Except Error Unit
  | .ok => .ok ()
  | status => .error (status.toError msg)

end Status

/-! ## Replies -/

/-- `Statvfs`, its eleven fields in the order of their declaration. -/
structure Statvfs where
  bsize : UInt64
  frsize : UInt64
  blocks : UInt64
  bfree : UInt64
  bavail : UInt64
  files : UInt64
  ffree : UInt64
  favail : UInt64
  fsid : UInt64
  flag : UInt64
  namemax : UInt64
deriving DecidableEq, Repr

/-- `Statvfs::parse`. -/
def Statvfs.parse (data : Bytes) : Except Error Statvfs :=
  Consumer.run' (do
    let bsize ← Consumer.consumeU64
    let frsize ← Consumer.consumeU64
    let blocks ← Consumer.consumeU64
    let bfree ← Consumer.consumeU64
    let bavail ← Consumer.consumeU64
    let files ← Consumer.consumeU64
    let ffree ← Consumer.consumeU64
    let favail ← Consumer.consumeU64
    let fsid ← Consumer.consumeU64
    let flag ← Consumer.consumeU64
    let namemax ← Consumer.consumeU64
    return { bsize, frsize, blocks, bfree, bavail, files, ffree, favail, fsid, flag, namemax }) data

/-- `Limits`. -/
structure Limits where
  maxPacketLen : UInt64
  maxReadLen : UInt64
  maxWriteLen : UInt64
  maxOpenHandles : UInt64
deriving DecidableEq, Repr

/-- `Limits::parse`. -/
def Limits.parse (data : Bytes) : Except Error Limits :=
  Consumer.run' (do
    let maxPacketLen ← Consumer.consumeU64
    let maxReadLen ← Consumer.consumeU64
    let maxWriteLen ← Consumer.consumeU64
    let maxOpenHandles ← Consumer.consumeU64
    return { maxPacketLen, maxReadLen, maxWriteLen, maxOpenHandles }) data

/-- `FileInfo`. -/
structure FileInfo where
  fileName : Text
  longName : Text
  attributes : Attributes
deriving DecidableEq, Repr

/-- `FileInfo::parse_more`. -/
def FileInfo.parseMore : (size : ℕ) → Consumer (List FileInfo)
  | 0 => return []
  | size + 1 => do
    let fileName ← Consumer.consumeText (.transport .expectString)
    let longName ← Consumer.consumeText (.transport .expectString)
    let attributes ← Attributes.parse
    return { fileName, longName, attributes } :: (← FileInfo.parseMore size)

/-- `Payload`. -/
inductive Payload where
  | status (status : Status) (error language : Text)
  | handle (handle : Bytes)
  | data (data : Bytes)
  | name (entries : List FileInfo)
  | attributes (attributes : Attributes)
  | extendReply (data : Bytes)
deriving DecidableEq, Repr

/-- `Message`. -/
structure Message where
  id : UInt32
  payload : Payload
deriving DecidableEq, Repr

/-- `unwrap_or_default`. -/
def orDefault (field : Consumer Bytes) : Consumer Bytes := fun rest =>
  match field rest with
  | .ok content rest' => .ok content rest'
  | .error _ rest' => .ok [] rest'

/-- `str::from_utf8` on octets that have been read. -/
def expectText (content : Bytes) : Consumer Text :=
  if utf8Valid content then return content else throw (.transport .expectString)

/-- The payload of a message with the given type code. -/
def Payload.parse (type : UInt8) : Consumer Payload :=
  if type = sshFxpStatus then do
    let code ← Consumer.consumeU32
    match Status.ofCode code with
    | none => throw (fault (.unexpectedStatus code))
    | some known =>
      let error ← expectText (← orDefault Consumer.consumeOne)
      let language ← expectText (← orDefault Consumer.consumeOne)
      return .status known error language
  else if type = sshFxpHandle then do
    return .handle (← Consumer.consumeOne)
  else if type = sshFxpData then do
    return .data (← Consumer.consumeOne)
  else if type = sshFxpName then do
    let count ← Consumer.consumeU32
    return .name (← FileInfo.parseMore count.toNat)
  else if type = sshFxpAttrs then do
    return .attributes (← Attributes.parse)
  else if type = sshFxpExtendedReply then do
    return .extendReply (← Consumer.peek)
  else throw (fault (.unexpectedMessage type))

/-- `Message::parse`. -/
def Message.parse (data : Bytes) : Except Error Message :=
  Consumer.run' (do
    let type ← Consumer.consumeU8
    let id ← Consumer.consumeU32
    return { id, payload := ← Payload.parse type }) data

/-! ## Handles -/

/-- `File`. -/
structure File where
  handle : Bytes
  pos : UInt64
deriving DecidableEq, Repr

/-- `File::new`. -/
def File.new (handle : Bytes) : File :=
  ⟨handle, 0⟩

/-- `File::forward`, or `none` where `+=` overflows and panics. -/
def File.forward (file : File) (offset : ℕ) : Option File :=
  (checkedAdd file.pos.toNat offset).map fun pos => { file with pos := .ofNat pos }

/-- A cursor that moves goes on by the offset, in the same file. -/
theorem File.forward_eq_some {file file' : File} {offset : ℕ}
    (h : file.forward offset = some file') :
    file'.handle = file.handle ∧ file'.pos.toNat = file.pos.toNat + offset := by
  unfold forward checkedAdd at h
  split at h
  · next hfits =>
    injection h with h
    subst h
    exact ⟨rfl, UInt64.toNat_ofNat_of_lt hfits⟩
  · cases h

end Flatline.Sftp
