import Flatline.Sftp.Layout
import Flatline.Sftp.Request

/-!
# SFTP requests follow the layout

What an operation writes, read by the layout of the protocol: the request id, the type and exactly
the arguments, with no octet left over. The exception is `users_groups_by_id`, whose lists count the
four octets of their own length field.

Source: `src/session/sftp/mod.rs`, `src/ssh/buffer.rs` (`match_type!`, `put_type!`, `make_buffer!`),
`src/session/sftp/types.rs` (`Attributes::to_bytes`).
-/

namespace Flatline.Sftp

open Layout (Reads Value)

/-! ## Attribute blocks -/

/-- The attributes as the layout has them. -/
def Attributes.block (attributes : Attributes) : Layout.AttributeBlock where
  size := attributes.size
  owner := attributes.user.map fun user => (user.uid, user.gid)
  permissions := attributes.property.map PermissionsAndFileType.bits
  times := attributes.time.map fun time => (time.atime, time.mtime)
  extended := attributes.extend

theorem optionPut_map {α β : Type} (f : α → β) (put : β → Bytes) (value : Option α) :
    Layout.optionPut put (value.map f) = Layout.optionPut (fun a => put (f a)) value := by
  cases value <;> rfl

theorem Attributes.putIf_eq {α : Type} (value : Option α) (flag : UInt32) (put : α → Bytes)
    (written : UInt32 × Bytes) : putIf value flag put written =
      (written.1 ||| (if value.isSome then flag else 0),
        written.2 ++ Layout.optionPut put value) := by
  cases value with
  | none =>
    change written = (written.1 ||| 0, written.2 ++ [])
    rw [UInt32.or_zero, List.append_nil]
  | some a => rfl

/-- `to_bytes` writes the block. -/
theorem Attributes.toBytes_eq (attributes : Attributes) :
    attributes.toBytes = Layout.putAttrs attributes.block := by
  unfold toBytes Layout.putAttrs block
  simp only [putIf_eq, optionPut_map, Option.isSome_map, List.append_assoc]
  rfl

/-! ## Requests -/

/-- A request that is no extension. -/
def plain (type : UInt8) (arguments : List Value) : Layout.Request :=
  ⟨type, none, arguments⟩

/-- A request of an extension. -/
def extended (name : Text) (arguments : List Value) : Layout.Request :=
  ⟨sshFxpExtended, some name, arguments⟩

/-- The attribute block of `open_file`. -/
def permissionBlock (permission : Option UInt32) : Layout.AttributeBlock :=
  ⟨none, none, permission, none, none⟩

/-- What an operation asks for, in the terms of the protocol. -/
def Operation.request : Operation → Layout.Request
  | .posixRename oldpath newpath =>
    extended opensshSftpExtPosixRename [.string oldpath, .string newpath]
  | .statvfs path => extended opensshSftpExtStatvfs [.string path]
  | .fstatvfs file => extended opensshSftpExtFstatvfs [.string file.handle]
  | .hardlink oldpath newpath =>
    extended opensshSftpExtHardlink [.string oldpath, .string newpath]
  | .fsync file => extended opensshSftpExtFsync [.string file.handle]
  | .lsetstat path attrs => extended opensshSftpExtLsetstat [.string path, .attrs attrs.block]
  | .limits => extended opensshSftpExtLimits []
  | .expandPath path => extended opensshSftpExtExpandPath [.string path]
  | .copyData read len write =>
    extended opensshSftpExtCopyData
      [.string read.handle, .uint64 read.pos, .uint64 len, .string write.handle, .uint64 write.pos]
  | .homeDirectory username => extended opensshSftpExtHomeDirectory [.string username]
  | .usersGroupsById users groups =>
    extended opensshSftpExtUsersGroupsById [.ids users, .ids groups]
  | .symlink target linkpath => plain sshFxpSymlink [.string target, .string linkpath]
  | .readlink path => plain sshFxpReadlink [.string path]
  | .rename oldPath newPath => plain sshFxpRename [.string oldPath, .string newPath]
  | .realpath path => plain sshFxpRealpath [.string path]
  | .rmdir path => plain sshFxpRmdir [.string path]
  | .mkdir path attrs => plain sshFxpMkdir [.string path, .attrs attrs.block]
  | .removeFile path => plain sshFxpRemove [.string path]
  | .closeFile file => plain sshFxpClose [.string file.handle]
  | .openFile path flags permission =>
    plain sshFxpOpen [.string path, .uint32 flags, .attrs (permissionBlock permission)]
  | .readFile file offset length =>
    plain sshFxpRead [.string file.handle, .uint64 offset, .uint32 length]
  | .writeFile file offset data =>
    plain sshFxpWrite [.string file.handle, .uint64 offset, .string data]
  | .openDirectory path => plain sshFxpOpendir [.string path]
  | .readDirectory directory => plain sshFxpReaddir [.string directory]
  | .setStat path attrs => plain sshFxpSetstat [.string path, .attrs attrs.block]
  | .setFstat file attrs => plain sshFxpFsetstat [.string file.handle, .attrs attrs.block]
  | .stat path => plain sshFxpStat [.string path]
  | .lstat path => plain sshFxpLstat [.string path]
  | .fstat file => plain sshFxpFstat [.string file.handle]

/-- The operation whose lists count their own length field. -/
def Operation.sendsIds : Operation → Bool
  | .usersGroupsById .. => true
  | _ => false

/-- The layout knows every request of the client. -/
theorem Operation.known (operation : Operation) : operation.request.Known := by
  cases operation <;> exact ⟨of_decide_eq_true rfl, rfl⟩

/-- `open_file` writes an attribute block. -/
theorem putAttrs_permissionBlock (permission : Option UInt32) :
    Layout.putAttrs (permissionBlock permission) =
      match permission with
      | some permission => toBeBytes sshFilexferAttrPermissions ++ toBeBytes permission
      | none => toBeBytes 0 := by
  cases permission with
  | none => rfl
  | some permission =>
    have hflags : Layout.flagsOf false false true false false = sshFilexferAttrPermissions := by
      decide
    simp only [Layout.putAttrs, permissionBlock, Layout.optionPut, List.nil_append,
      List.append_nil, Option.isSome_some, Option.isSome_none, hflags]

/-- Every operation but `users_groups_by_id` writes its request. -/
theorem Operation.fields_eq (requestId : UInt32) {operation : Operation}
    (h : operation.sendsIds = false) :
    makeBufferWithoutHeader (operation.fields requestId) =
      Layout.putRequest requestId operation.request := by
  cases operation with
  | usersGroupsById => cases h
  | openFile path flags permission =>
    cases permission <;>
      simp only [fields, request, plain, makeBufferWithoutHeader, Layout.putRequest,
        Layout.optionPut, Layout.putValue, putAttrs_permissionBlock, List.flatMap_cons,
        List.flatMap_nil, List.append_nil, List.nil_append] <;> rfl
  | lsetstat path attrs | mkdir path attrs | setStat path attrs | setFstat file attrs =>
    simp only [fields, request, plain, extended, extendedFields, setStatusFields,
      makeBufferWithoutHeader, Layout.putRequest, Field.put, Attributes.toBytes_eq]
    rfl
  | _ => rfl

/-- Each list of `users_groups_by_id` takes the length of the next one for an id of its own. -/
theorem fields_usersGroupsById (requestId : UInt32) (users groups : List UInt32) :
    makeBufferWithoutHeader ((Operation.usersGroupsById users groups).fields requestId) =
      sshFxpExtended :: (toBeBytes requestId ++
        (Layout.optionPut (fun name => (Field.one name).put) (some opensshSftpExtUsersGroupsById) ++
          (Layout.putIds (users ++ [UInt32.ofNat (4 + groups.length * 4)]) ++
            groups.flatMap toBeBytes))) := by
  have hids : Layout.putIds (users ++ [UInt32.ofNat (4 + groups.length * 4)]) =
      toBeBytes (UInt32.ofNat (4 + users.length * 4)) ++ (users.flatMap toBeBytes ++
        toBeBytes (UInt32.ofNat (4 + groups.length * 4))) := by
    rw [Layout.putIds, Field.put, length_flatMap_toBeBytes, List.flatMap_append]
    simp only [List.length_append, List.length_singleton, List.flatMap_singleton]
    rw [show (users.length + 1) * 4 = 4 + users.length * 4 by omega]
  rw [hids]
  simp only [Operation.fields, extendedFields, makeBufferWithoutHeader, Layout.optionPut,
    List.cons_append, List.nil_append, List.flatMap_cons, List.flatMap_nil, List.append_nil,
    List.append_assoc]
  simp only [Field.put, List.cons_append, List.nil_append, List.append_assoc]

/-- No `users_groups_by_id` is read as what it asks for. -/
theorem readRequest_usersGroupsById_ne (requestId : UInt32) (users groups : List UInt32)
    (hlen : fieldsSize ((Operation.usersGroupsById users groups).fields requestId) < UInt32.size) :
    Layout.readRequest
        (makeBufferWithoutHeader ((Operation.usersGroupsById users groups).fields requestId)) ≠
      .ok (requestId, (Operation.usersGroupsById users groups).request) [] := by
  rw [← length_makeBufferWithoutHeader, fields_usersGroupsById] at hlen
  simp only [List.length_cons, List.length_append] at hlen
  have hkinds : Layout.arguments sshFxpExtended (some opensshSftpExtUsersGroupsById) =
    some [.ids, .ids] := rfl
  rw [fields_usersGroupsById, Layout.readRequest_head (by decide) hkinds (by
    rintro name ⟨⟩
    decide)]
  have hfirst := Layout.reads_putValue (.ids (users ++ [UInt32.ofNat (4 + groups.length * 4)]))
    (by rw [Layout.putValue]; omega) (groups.flatMap toBeBytes)
  intro hread
  obtain ⟨values, rest, hvalues, hresult⟩ := Triple.bind_eq_ok_iff.mp hread
  obtain ⟨first, rest', hhead, htail⟩ := Triple.bind_eq_ok_iff.mp hvalues
  obtain ⟨second, rest'', -, hcons⟩ := Triple.bind_eq_ok_iff.mp htail
  -- the first argument is the first list and the length of the second
  have hids : first = .ids (users ++ [UInt32.ofNat (4 + groups.length * 4)]) := by
    have h := hhead.symm.trans hfirst
    injection h
  cases hcons
  injection hresult with hrequest
  have harguments := congrArg (fun request => request.2.arguments.head?) hrequest
  rw [hids] at harguments
  injection harguments with harguments
  injection harguments with harguments
  have := congrArg List.length harguments
  simp at this

/-- Which requests are well formed: read by the layout of the protocol, the packet of an operation
is the fresh request id, the type and exactly the arguments, with no octet left over, exactly when
the operation is not `users_groups_by_id` and the packet fits its length field. -/
theorem well_formed_iff (requestId : UInt32) (operation : Operation) :
    Layout.decode (operation.encode (nextRequestId requestId)) =
        some (nextRequestId requestId, operation.request) ↔
      operation.sendsIds = false ∧
        fieldsSize (operation.fields (nextRequestId requestId)) < UInt32.size := by
  generalize nextRequestId requestId = id
  have hlength := length_makeBufferWithoutHeader (operation.fields id)
  cases hids : operation.sendsIds with
  | false =>
    have hencode : operation.encode id = Layout.encode id operation.request := by
      rw [Operation.encode, makeBuffer, Layout.encode, ← Operation.fields_eq id hids, hlength]
    rw [hencode, Layout.decode_encode_iff operation.known, ← Operation.fields_eq id hids, hlength]
    simp
  | true =>
    refine ⟨fun h => ?_, fun h => by cases h.1⟩
    cases operation with
    | usersGroupsById users groups =>
      rw [Operation.encode, makeBuffer, Layout.decode_append, hlength] at h
      split at h
      · next hfits =>
          have hlen : fieldsSize ((Operation.usersGroupsById users groups).fields id) <
              UInt32.size := by
            rw [hfits]
            exact UInt32.toNat_lt_size _
          have hne := readRequest_usersGroupsById_ne id users groups hlen
          split at h
          · next request hread =>
              injection h with h
              exact absurd (h ▸ hread) hne
          · cases h
      · cases h
    | _ => cases hids

/-- A request for the names of one user and of one group is read as one for two users, the second
of them the length of the other list, and for no group. -/
theorem users_groups_by_id_misread :
    let operation := Operation.usersGroupsById [0] [0]
    Layout.decode (operation.encode (nextRequestId 0)) =
        some (1, extended opensshSftpExtUsersGroupsById [.ids [0, 8], .ids []]) ∧
      Layout.decode (operation.encode (nextRequestId 0)) ≠
        some (nextRequestId 0, operation.request) := by
  decide

end Flatline.Sftp
