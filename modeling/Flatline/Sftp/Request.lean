import Flatline.Sftp.Types

/-!
# SFTP requests

What each operation of `sftp::Handle` writes: `make_buffer!` on the fields of the operation.

Source: `src/session/sftp/mod.rs`.
-/

namespace Flatline.Sftp

/-- The operations of `sftp::Handle` with their arguments, under the names of its methods. Open flags
and permissions are given by their bits. -/
inductive Operation where
  | posixRename (oldpath newpath : Text)
  | statvfs (path : Text)
  | fstatvfs (file : File)
  | hardlink (oldpath newpath : Text)
  | fsync (file : File)
  | lsetstat (path : Text) (attrs : Attributes)
  | limits
  | expandPath (path : Text)
  | copyData (read : File) (len : UInt64) (write : File)
  | homeDirectory (username : Text)
  | usersGroupsById (users groups : List UInt32)
  | symlink (target linkpath : Text)
  | readlink (path : Text)
  | rename (oldPath newPath : Text)
  | realpath (path : Text)
  | rmdir (path : Text)
  | mkdir (path : Text) (attrs : Attributes)
  | removeFile (path : Text)
  | closeFile (file : File)
  | openFile (path : Text) (flags : UInt32) (permission : Option UInt32)
  | readFile (file : File) (offset : UInt64) (length : UInt32)
  | writeFile (file : File) (offset : UInt64) (data : Bytes)
  | openDirectory (path : Text)
  | readDirectory (directory : Bytes)
  | setStat (path : Text) (attrs : Attributes)
  | setFstat (file : File) (attrs : Attributes)
  | stat (path : Text)
  | lstat (path : Text)
  | fstat (file : File)
deriving DecidableEq, Repr

/-- The arguments of `make_buffer!` in an operation of an extension. -/
def extendedFields (requestId : UInt32) (key : Text) (fields : List Field) : List Field :=
  [.u8 sshFxpExtended, .u32 requestId, .one key] ++ fields

/-- The arguments of `make_buffer!` in `set_status`. -/
def setStatusFields (requestId : UInt32) (target : Bytes) (code : UInt8) (attrs : Attributes) :
    List Field :=
  [.u8 code, .u32 requestId, .one target, .bytes attrs.toBytes]

/-- The arguments of `make_buffer!` in `status`. -/
def statusFields (requestId : UInt32) (target : Bytes) (code : UInt8) : List Field :=
  [.u8 code, .u32 requestId, .one target]

/-- The arguments of `make_buffer!` in each operation. -/
def Operation.fields (requestId : UInt32) : Operation → List Field
  | .posixRename oldpath newpath =>
    extendedFields requestId opensshSftpExtPosixRename [.one oldpath, .one newpath]
  | .statvfs path => extendedFields requestId opensshSftpExtStatvfs [.one path]
  | .fstatvfs file => extendedFields requestId opensshSftpExtFstatvfs [.one file.handle]
  | .hardlink oldpath newpath =>
    extendedFields requestId opensshSftpExtHardlink [.one oldpath, .one newpath]
  | .fsync file => extendedFields requestId opensshSftpExtFsync [.one file.handle]
  | .lsetstat path attrs =>
    extendedFields requestId opensshSftpExtLsetstat [.one path, .bytes attrs.toBytes]
  | .limits => extendedFields requestId opensshSftpExtLimits []
  | .expandPath path => extendedFields requestId opensshSftpExtExpandPath [.one path]
  | .copyData read len write =>
    extendedFields requestId opensshSftpExtCopyData
      [.one read.handle, .u64 read.pos, .u64 len, .one write.handle, .u64 write.pos]
  | .homeDirectory username =>
    extendedFields requestId opensshSftpExtHomeDirectory [.one username]
  | .usersGroupsById users groups =>
    extendedFields requestId opensshSftpExtUsersGroupsById [.oneListU32 users, .oneListU32 groups]
  | .symlink target linkpath => [.u8 sshFxpSymlink, .u32 requestId, .one target, .one linkpath]
  | .readlink path => [.u8 sshFxpReadlink, .u32 requestId, .one path]
  | .rename oldPath newPath => [.u8 sshFxpRename, .u32 requestId, .one oldPath, .one newPath]
  | .realpath path => [.u8 sshFxpRealpath, .u32 requestId, .one path]
  | .rmdir path => [.u8 sshFxpRmdir, .u32 requestId, .one path]
  | .mkdir path attrs => [.u8 sshFxpMkdir, .u32 requestId, .one path, .bytes attrs.toBytes]
  | .removeFile path => [.u8 sshFxpRemove, .u32 requestId, .one path]
  | .closeFile file => [.u8 sshFxpClose, .u32 requestId, .one file.handle]
  | .openFile path flags permission =>
    match permission with
    | some permission => [.u8 sshFxpOpen, .u32 requestId, .one path, .u32 flags,
        .u32 sshFilexferAttrPermissions, .u32 permission]
    | none => [.u8 sshFxpOpen, .u32 requestId, .one path, .u32 flags, .u32 0]
  | .readFile file offset length =>
    [.u8 sshFxpRead, .u32 requestId, .one file.handle, .u64 offset, .u32 length]
  | .writeFile file offset data =>
    [.u8 sshFxpWrite, .u32 requestId, .one file.handle, .u64 offset, .one data]
  | .openDirectory path => [.u8 sshFxpOpendir, .u32 requestId, .one path]
  | .readDirectory directory => [.u8 sshFxpReaddir, .u32 requestId, .one directory]
  | .setStat path attrs => setStatusFields requestId path sshFxpSetstat attrs
  | .setFstat file attrs => setStatusFields requestId file.handle sshFxpFsetstat attrs
  | .stat path => statusFields requestId path sshFxpStat
  | .lstat path => statusFields requestId path sshFxpLstat
  | .fstat file => statusFields requestId file.handle sshFxpFstat

/-- What an operation writes under a request id. -/
def Operation.encode (requestId : UInt32) (operation : Operation) : Bytes :=
  makeBuffer (operation.fields requestId)

/-- `SSH_FXP_INIT`, as `handshake` writes it. -/
def encodeInit : Bytes :=
  makeBuffer [.u8 sshFxpInit, .u32 sftpVersion]

/-- `next_request_id`. -/
def nextRequestId (requestId : UInt32) : UInt32 :=
  requestId + 1

end Flatline.Sftp
