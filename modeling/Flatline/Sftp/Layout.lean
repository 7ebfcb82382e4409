import Flatline.Common.Triple
import Flatline.Wire.Buffer
import Flatline.Wire.Protocol

/-!
# The layout of SFTP requests

What a server reads: the requests of draft-ietf-secsh-filexfer-02 and of the OpenSSH extensions. The
layout says which arguments a request has, in which order and of which kinds; `decode` accepts a
packet only if its length field, the length field of every argument and the arguments themselves
leave no octet over. `SSH_FXP_SYMLINK` has its arguments in the order of OpenSSH.
-/

namespace Flatline.Sftp.Layout

/-! ## Arguments -/

/-- The kinds of arguments. -/
inductive Kind where
  | uint32
  | uint64
  | string
  /-- An attribute block. -/
  | attrs
  /-- A string of `uint32`s. -/
  | ids
deriving DecidableEq, Repr

/-- An attribute block: a field is there when its flag is set. -/
structure AttributeBlock where
  size : Option UInt64
  owner : Option (UInt32 × UInt32)
  permissions : Option UInt32
  times : Option (UInt32 × UInt32)
  extended : Option (List (Bytes × Bytes))
deriving DecidableEq, Repr

/-- An argument. -/
inductive Value where
  | uint32 (n : UInt32)
  | uint64 (n : UInt64)
  | string (content : Bytes)
  | attrs (block : AttributeBlock)
  | ids (items : List UInt32)
deriving DecidableEq, Repr

def Value.kind : Value → Kind
  | .uint32 _ => .uint32
  | .uint64 _ => .uint64
  | .string _ => .string
  | .attrs _ => .attrs
  | .ids _ => .ids

/-- A request without its id. `extension` is the name of an extended request. -/
structure Request where
  type : UInt8
  extension : Option Bytes
  arguments : List Value
deriving DecidableEq, Repr

/-- The arguments of the requests. -/
def arguments (type : UInt8) (extension : Option Bytes) : Option (List Kind) :=
  match extension with
  | none =>
    [(3, [.string, .uint32, .attrs]), -- open
      (4, [.string]), -- close
      (5, [.string, .uint64, .uint32]), -- read
      (6, [.string, .uint64, .string]), -- write
      (7, [.string]), -- lstat
      (8, [.string]), -- fstat
      (9, [.string, .attrs]), -- setstat
      (10, [.string, .attrs]), -- fsetstat
      (11, [.string]), -- opendir
      (12, [.string]), -- readdir
      (13, [.string]), -- remove
      (14, [.string, .attrs]), -- mkdir
      (15, [.string]), -- rmdir
      (16, [.string]), -- realpath
      (17, [.string]), -- stat
      (18, [.string, .string]), -- rename
      (19, [.string]), -- readlink
      (20, [.string, .string])].lookup type -- symlink
  | some name =>
    [(ascii "posix-rename@openssh.com", [.string, .string]),
      (ascii "statvfs@openssh.com", [.string]),
      (ascii "fstatvfs@openssh.com", [.string]),
      (ascii "hardlink@openssh.com", [.string, .string]),
      (ascii "fsync@openssh.com", [.string]),
      (ascii "lsetstat@openssh.com", [.string, .attrs]),
      (ascii "limits@openssh.com", []),
      (ascii "expand-path@openssh.com", [.string]),
      (ascii "copy-data", [.string, .uint64, .uint64, .string, .uint64]),
      (ascii "home-directory", [.string]),
      (ascii "users-groups-by-id@openssh.com", [.ids, .ids])].lookup name

/-! ## Decoding -/

/-- Read a field of an attribute block if its flag is set. -/
def readIf {α : Type} (flags flag : UInt32) (field : Consumer α) : Consumer (Option α) :=
  if flags &&& flag ≠ 0 then do return some (← field) else return none

/-- Two `uint32`s. -/
def readPair : Consumer (UInt32 × UInt32) := do
  let first ← Consumer.consumeU32
  let second ← Consumer.consumeU32
  return (first, second)

/-- The given number of extended attributes. -/
def readExtended : ℕ → Consumer (List (Bytes × Bytes))
  | 0 => return []
  | count + 1 => do
    let type ← Consumer.consumeOne
    let data ← Consumer.consumeOne
    return (type, data) :: (← readExtended count)

/-- An attribute block. -/
def readAttrs : Consumer AttributeBlock := do
  let flags ← Consumer.consumeU32
  let size ← readIf flags 0x00000001 Consumer.consumeU64
  let owner ← readIf flags 0x00000002 readPair
  let permissions ← readIf flags 0x00000004 Consumer.consumeU32
  let times ← readIf flags 0x00000008 readPair
  let extended ← readIf flags 0x80000000 do
    let count ← Consumer.consumeU32
    readExtended count.toNat
  return { size, owner, permissions, times, extended }

/-- The `uint32`s of a string, which has to hold a whole number of them. -/
def idsOf : Bytes → Option (List UInt32)
  | [] => some []
  | a :: b :: c :: d :: rest => (idsOf rest).map (fromBeBytes a b c d :: ·)
  | _ => none

/-- The error of the decoder. -/
def malformed : Error :=
  .invalidFormat (ascii "malformed request")

/-- An argument of the given kind. -/
def readValue : Kind → Consumer Value
  | .uint32 => do return .uint32 (← Consumer.consumeU32)
  | .uint64 => do return .uint64 (← Consumer.consumeU64)
  | .string => do return .string (← Consumer.consumeOne)
  | .attrs => do return .attrs (← readAttrs)
  | .ids => do
    match idsOf (← Consumer.consumeOne) with
    | some items => return .ids items
    | none => throw malformed

/-- Arguments of the given kinds. -/
def readValues : List Kind → Consumer (List Value)
  | [] => return []
  | kind :: rest => do
    let value ← readValue kind
    return value :: (← readValues rest)

/-- The name of an extended request. -/
def readExtension (type : UInt8) : Consumer (Option Bytes) :=
  if type = 200 then do return some (← Consumer.consumeOne) else return none

/-- What follows the length field: type, id, the name of an extension, and the arguments. -/
def readRequest : Consumer (UInt32 × Request) := do
  let type ← Consumer.consumeU8
  let id ← Consumer.consumeU32
  let extension ← readExtension type
  match arguments type extension with
  | none => throw malformed
  | some kinds => return (id, { type, extension, arguments := ← readValues kinds })

/-- A packet that is one request and nothing else: its id and the request. -/
def decode (packet : Bytes) : Option (UInt32 × Request) :=
  match Consumer.consumeU32 packet with
  | .error .. => none
  | .ok length content =>
    if content.length = length.toNat then
      match readRequest content with
      | .ok request [] => some request
      | _ => none
    else none

/-! ## Reading back -/

/-- A reader takes exactly these octets, whatever follows them, and returns `a`. -/
def Reads {α : Type} (m : Consumer α) (content : Bytes) (a : α) : Prop :=
  ∀ rest, m (content ++ rest) = .ok a rest

variable {α β : Type}

theorem reads_pure (a : α) : Reads (pure a) [] a := fun _ => rfl

/-- Readers one after the other. -/
theorem Reads.bind {m : Consumer α} {f : α → Consumer β} {first second : Bytes} {a : α} {b : β}
    (hm : Reads m first a) (hf : Reads (f a) second b) : Reads (m >>= f) (first ++ second) b := by
  intro rest
  change EStateM.bind m f _ = _
  rw [List.append_assoc, EStateM.bind, hm]
  exact hf rest

theorem Reads.map {m : Consumer α} {content : Bytes} {a : α} (hm : Reads m content a)
    (f : α → β) : Reads (do return f (← m)) content (f a) := by
  have h := hm.bind (f := fun a => pure (f a)) (reads_pure (f a))
  rw [List.append_nil] at h
  exact h

theorem reads_u32 (n : UInt32) : Reads Consumer.consumeU32 (toBeBytes n) n :=
  Consumer.consumeU32_append n

theorem reads_u64 (n : UInt64) : Reads Consumer.consumeU64 (toBeBytes64 n) n :=
  Consumer.consumeU64_append n

/-- A string as the client writes it, when its length fits the length field. -/
theorem reads_one {content : Bytes} (h : content.length < UInt32.size) :
    Reads Consumer.consumeOne (Field.one content).put content := fun rest =>
  Consumer.consumeOne_append rest h

/-- A field that is there when its flag is set. -/
theorem reads_readIf {flags flag : UInt32} {field : Consumer α} {value : Option α} {content : Bytes}
    (hflag : flags &&& flag ≠ 0 ↔ value.isSome = true)
    (hsome : ∀ a, value = some a → Reads field content a) (hnone : value = none → content = []) :
    Reads (readIf flags flag field) content value := by
  unfold readIf
  cases value with
  | none =>
    rw [if_neg (by rw [hflag]; simp), hnone rfl]
    exact reads_pure none
  | some a =>
    rw [if_pos (hflag.mpr rfl)]
    exact (hsome a rfl).map some

theorem reads_readPair (first second : UInt32) :
    Reads readPair (toBeBytes first ++ toBeBytes second) (first, second) := by
  have h := (reads_u32 first).bind (f := fun a => do
    let b ← Consumer.consumeU32
    return (a, b)) ((reads_u32 second).map fun b => (first, b))
  exact h

/-- The octets of a list of extended attributes. -/
def putExtended (entries : List (Bytes × Bytes)) : Bytes :=
  entries.flatMap fun (type, data) => (Field.one type).put ++ (Field.one data).put

theorem length_putExtended_cons (entry : Bytes × Bytes) (rest : List (Bytes × Bytes)) :
    (putExtended (entry :: rest)).length =
      entry.1.length + entry.2.length + 8 + (putExtended rest).length := by
  unfold putExtended
  rw [List.flatMap_cons]
  simp only [Field.put, List.length_append, length_toBeBytes]
  omega

/-- There is room for every entry. -/
theorem length_le_length_putExtended (entries : List (Bytes × Bytes)) :
    entries.length ≤ (putExtended entries).length := by
  induction entries with
  | nil => exact Nat.le_refl 0
  | cons entry rest ih =>
    rw [length_putExtended_cons, List.length_cons]
    omega

theorem length_entry_le {entries : List (Bytes × Bytes)} {entry : Bytes × Bytes}
    (h : entry ∈ entries) :
    entry.1.length + entry.2.length ≤ (putExtended entries).length := by
  induction entries with
  | nil => cases h
  | cons first rest ih =>
    rw [length_putExtended_cons]
    rcases List.mem_cons.mp h with rfl | hrest
    · omega
    · have := ih hrest
      omega

theorem reads_readExtended {entries : List (Bytes × Bytes)}
    (h : ∀ entry ∈ entries, entry.1.length < UInt32.size ∧ entry.2.length < UInt32.size) :
    Reads (readExtended entries.length) (putExtended entries) entries := by
  induction entries with
  | nil => exact reads_pure []
  | cons entry rest ih =>
    obtain ⟨htype, hdata⟩ := h entry (List.mem_cons_self ..)
    have hrest := ih fun e he => h e (List.mem_cons_of_mem _ he)
    have hentry := (reads_one htype).bind (f := fun type => do
      let data ← Consumer.consumeOne
      return (type, data) :: (← readExtended rest.length))
      ((reads_one hdata).bind (hrest.map ((entry.1, entry.2) :: ·)))
    rw [← List.append_assoc] at hentry
    exact hentry

/-- The octets of a count and so many extended attributes. -/
def putExtendedList (entries : List (Bytes × Bytes)) : Bytes :=
  toBeBytes (UInt32.ofNat entries.length) ++ putExtended entries

/-- Extended attributes that fit a length field are read back. -/
theorem reads_putExtendedList {entries : List (Bytes × Bytes)}
    (h : (putExtendedList entries).length < UInt32.size) :
    Reads (do
      let count ← Consumer.consumeU32
      readExtended count.toNat) (putExtendedList entries) entries := by
  unfold putExtendedList at h
  rw [List.length_append, length_toBeBytes] at h
  have hcount := length_le_length_putExtended entries
  have hlen : (UInt32.ofNat entries.length).toNat = entries.length :=
    UInt32.toNat_ofNat_of_lt (by omega)
  refine (reads_u32 _).bind ?_
  rw [hlen]
  refine reads_readExtended fun entry hentry => ?_
  have := length_entry_le hentry
  exact ⟨by omega, by omega⟩

/-- The flags of the fields that are there. -/
def flagsOf (size owner permissions times extended : Bool) : UInt32 :=
  0 ||| (if size then 0x00000001 else 0) ||| (if owner then 0x00000002 else 0) |||
    (if permissions then 0x00000004 else 0) ||| (if times then 0x00000008 else 0) |||
    (if extended then 0x80000000 else 0)

/-- Each flag stands for its own field. -/
theorem flagsOf_and (size owner permissions times extended : Bool) :
    (flagsOf size owner permissions times extended &&& 0x00000001 ≠ 0 ↔ size = true) ∧
      (flagsOf size owner permissions times extended &&& 0x00000002 ≠ 0 ↔ owner = true) ∧
      (flagsOf size owner permissions times extended &&& 0x00000004 ≠ 0 ↔ permissions = true) ∧
      (flagsOf size owner permissions times extended &&& 0x00000008 ≠ 0 ↔ times = true) ∧
      (flagsOf size owner permissions times extended &&& 0x80000000 ≠ 0 ↔ extended = true) := by
  cases size <;> cases owner <;> cases permissions <;> cases times <;> cases extended <;> decide

/-- The octets of a field that may be missing. -/
def optionPut (put : α → Bytes) : Option α → Bytes
  | some a => put a
  | none => []

/-- Two `uint32`s. -/
def putPair (pair : UInt32 × UInt32) : Bytes :=
  toBeBytes pair.1 ++ toBeBytes pair.2

/-- The octets of an attribute block: the flags, and then the fields that are there. -/
def putAttrs (block : AttributeBlock) : Bytes :=
  toBeBytes (flagsOf block.size.isSome block.owner.isSome block.permissions.isSome
      block.times.isSome block.extended.isSome) ++
    (optionPut toBeBytes64 block.size ++ (optionPut putPair block.owner ++
      (optionPut toBeBytes block.permissions ++ (optionPut putPair block.times ++
        optionPut putExtendedList block.extended))))

/-- A field that may be missing is read back. -/
theorem reads_optionPut {flags flag : UInt32} {field : Consumer α} {put : α → Bytes}
    {value : Option α} (hflag : flags &&& flag ≠ 0 ↔ value.isSome = true)
    (hput : ∀ a, value = some a → Reads field (put a) a) :
    Reads (readIf flags flag field) (optionPut put value) value := by
  refine reads_readIf hflag (fun a ha => ?_) fun hnone => ?_
  · rw [ha]
    exact hput a ha
  · rw [hnone]
    rfl

/-- An attribute block that fits a length field is read back. -/
theorem reads_putAttrs {block : AttributeBlock} (h : (putAttrs block).length < UInt32.size) :
    Reads readAttrs (putAttrs block) block := by
  obtain ⟨hsize, howner, hpermissions, htimes, hextended⟩ := flagsOf_and block.size.isSome
    block.owner.isSome block.permissions.isSome block.times.isSome block.extended.isSome
  unfold putAttrs at h
  simp only [List.length_append] at h
  refine (reads_u32 _).bind ((reads_optionPut hsize fun n _ => reads_u64 n).bind
    ((reads_optionPut howner fun pair _ => reads_readPair pair.1 pair.2).bind
      ((reads_optionPut hpermissions fun n _ => reads_u32 n).bind
        ((reads_optionPut htimes fun pair _ => reads_readPair pair.1 pair.2).bind ?_))))
  refine Reads.map (reads_optionPut hextended fun entries hentries => ?_) _
  rw [hentries] at h
  change _ + (_ + (_ + (_ + (_ + (putExtendedList entries).length)))) < _ at h
  exact reads_putExtendedList (by omega)

theorem idsOf_toBeBytes (item : UInt32) (rest : Bytes) :
    idsOf (toBeBytes item ++ rest) = (idsOf rest).map (item :: ·) := by
  simp only [toBeBytes, List.cons_append, List.nil_append, idsOf, fromBeBytes_toBeBytes]

theorem idsOf_flatMap (items : List UInt32) : idsOf (items.flatMap toBeBytes) = some items := by
  induction items with
  | nil => rfl
  | cons item rest ih =>
    rw [List.flatMap_cons, idsOf_toBeBytes, ih]
    rfl

/-- A list of ids whose length field counts the ids alone. -/
def putIds (items : List UInt32) : Bytes :=
  (Field.one (items.flatMap toBeBytes)).put

/-- The octets of an argument. -/
def putValue : Value → Bytes
  | .uint32 n => toBeBytes n
  | .uint64 n => toBeBytes64 n
  | .string content => (Field.one content).put
  | .attrs block => putAttrs block
  | .ids items => putIds items

/-- An argument that fits a length field is read back. -/
theorem reads_putValue (value : Value) (h : (putValue value).length < UInt32.size) :
    Reads (readValue value.kind) (putValue value) value := by
  cases value with
  | uint32 n => exact (reads_u32 n).map Value.uint32
  | uint64 n => exact (reads_u64 n).map Value.uint64
  | string content =>
    rw [putValue, Field.length_put, Field.size] at h
    have hlen : content.length < UInt32.size := by omega
    exact (reads_one hlen).map Value.string
  | attrs block => exact (reads_putAttrs h).map Value.attrs
  | ids items =>
    rw [putValue, putIds, Field.length_put, Field.size] at h
    have hlen : (items.flatMap toBeBytes).length < UInt32.size := by omega
    have hitems : Reads (match idsOf (items.flatMap toBeBytes) with
        | some items => pure (Value.ids items)
        | none => throw malformed) [] (.ids items) := by
      rw [idsOf_flatMap]
      exact reads_pure _
    have hread := (reads_one hlen).bind (f := fun content =>
      match idsOf content with
      | some items => pure (Value.ids items)
      | none => throw malformed) hitems
    rw [List.append_nil] at hread
    exact hread

/-- Arguments that are read one by one are read as a list. -/
theorem reads_readValues {values : List Value}
    (h : (values.flatMap putValue).length < UInt32.size) :
    Reads (readValues (values.map Value.kind)) (values.flatMap putValue) values := by
  induction values with
  | nil => exact reads_pure []
  | cons value rest ih =>
    rw [List.flatMap_cons, List.length_append] at h
    have hvalue := reads_putValue value (by omega)
    have hrest := ih (by omega)
    exact hvalue.bind (hrest.map (value :: ·))

/-! ## Packets -/

/-- A length field that does not say how many octets follow is refused. -/
theorem decode_append {length : UInt32} {content : Bytes} :
    decode (toBeBytes length ++ content) =
      if content.length = length.toNat then
        match readRequest content with
        | .ok request [] => some request
        | _ => none
      else none := by
  unfold decode
  rw [Consumer.consumeU32_append]

/-- The octets of a request: type, id, the name of an extension, and the arguments. -/
def putRequest (id : UInt32) (request : Request) : Bytes :=
  request.type :: (toBeBytes id ++
    (optionPut (fun name => (Field.one name).put) request.extension ++
      request.arguments.flatMap putValue))

/-- The layout knows the request, and has arguments of these kinds for it. -/
structure Request.Known (request : Request) : Prop where
  type : request.type = 200 ↔ request.extension.isSome = true
  kinds : Layout.arguments request.type request.extension = some (request.arguments.map Value.kind)

theorem reads_readExtension {type : UInt8} {extension : Option Bytes}
    (htype : type = 200 ↔ extension.isSome = true)
    (hname : ∀ name, extension = some name → name.length < UInt32.size) :
    Reads (readExtension type) (optionPut (fun name => (Field.one name).put) extension)
      extension := by
  unfold readExtension
  cases extension with
  | none =>
    rw [if_neg (by rw [htype]; simp)]
    exact reads_pure none
  | some name =>
    rw [if_pos (htype.mpr rfl)]
    exact (reads_one (hname name rfl)).map some

/-- What is left to read after the head of a request that the layout knows. -/
theorem readRequest_head {type : UInt8} {id : UInt32} {extension : Option Bytes}
    {kinds : List Kind} (htype : type = 200 ↔ extension.isSome = true)
    (hkinds : arguments type extension = some kinds)
    (hname : ∀ name, extension = some name → name.length < UInt32.size) (rest : Bytes) :
    readRequest (type :: (toBeBytes id ++
        (optionPut (fun name => (Field.one name).put) extension ++ rest))) =
      (do return (id, Request.mk type extension (← readValues kinds)) : Consumer _) rest := by
  unfold readRequest
  rw [Triple.bind_of_ok (Consumer.consumeU8_cons type _), Triple.bind_of_ok (reads_u32 id _),
    Triple.bind_of_ok (reads_readExtension htype hname _), hkinds]

/-- A request whose octets fit a length field is read back. -/
theorem readRequest_putRequest {id : UInt32} {request : Request} (hknown : request.Known)
    (hlen : (putRequest id request).length < UInt32.size) :
    readRequest (putRequest id request) = .ok (id, request) [] := by
  obtain ⟨type, extension, values⟩ := request
  unfold putRequest at hlen ⊢
  simp only [List.length_cons, List.length_append] at hlen
  have hname : ∀ name, extension = some name → name.length < UInt32.size := by
    rintro name rfl
    change _ + (((Field.one name).put.length + _)) + 1 < _ at hlen
    rw [Field.length_put, Field.size] at hlen
    omega
  have hread : Reads (readValues (values.map Value.kind)) (values.flatMap putValue) values :=
    reads_readValues (by omega)
  have hvalues := hread.map (fun values => (id, Request.mk type extension values)) []
  rw [List.append_nil] at hvalues
  rw [readRequest_head hknown.type hknown.kinds hname]
  exact hvalues

/-- A request with its length in front. -/
def encode (id : UInt32) (request : Request) : Bytes :=
  toBeBytes (UInt32.ofNat (putRequest id request).length) ++ putRequest id request

/-- A request is decoded exactly when its octets fit the length field. -/
theorem decode_encode_iff {id : UInt32} {request : Request} (hknown : request.Known) :
    decode (encode id request) = some (id, request) ↔
      (putRequest id request).length < UInt32.size := by
  rw [encode, decode_append]
  constructor
  · intro h
    by_contra hlen
    rw [if_neg] at h
    · cases h
    · have := (UInt32.ofNat (putRequest id request).length).toNat_lt
      have hsize : UInt32.size = 2 ^ 32 := rfl
      omega
  · intro hlen
    have hlength : (UInt32.ofNat (putRequest id request).length).toNat =
      (putRequest id request).length := UInt32.toNat_ofNat_of_lt hlen
    rw [hlength, if_pos rfl]
    simp only [readRequest_putRequest hknown hlen]

end Flatline.Sftp.Layout
