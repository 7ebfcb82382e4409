import Flatline.Wire.DataTypes
import Mathlib

/-!
# Messages given by their data types

A message format is a list of data types of RFC 4251, section 5, and a peer reads the payload by
this list to its last octet. What is laid out with `make_buffer!` from the values is read back as
these values.
-/

namespace Flatline

/-- A data type of a message format. -/
inductive DataType where
  | byte
  | boolean
  | uint32
  | string
  | nameList
deriving DecidableEq, Repr

/-- A value of a data type. -/
inductive DataValue where
  | byte (n : UInt8)
  | boolean (b : Bool)
  | uint32 (n : UInt32)
  | string (content : Bytes)
  | nameList (names : List Text)
deriving DecidableEq, Repr

/-- The names in a name-list: nothing for an empty string, and no name is empty. -/
def readNames (content : Bytes) : Option (List Text) :=
  if content = [] then some []
  else if [] ∈ splitComma content then none
  else some (splitComma content)

/-- Read a value of a data type. -/
def DataType.consume : DataType → Consumer DataValue
  | .byte => return .byte (← Consumer.consumeU8)
  | .boolean => return .boolean ((← Consumer.consumeU8) ≠ 0)
  | .uint32 => return .uint32 (← Consumer.consumeU32)
  | .string => return .string (← Consumer.consumeOne)
  | .nameList => do
    match readNames (← Consumer.consumeOne) with
    | some names => return .nameList names
    | none => throw (.invalidFormat (ascii "empty name"))

/-- Read values of the data types, one after the other. -/
def consumeTypes : List DataType → Consumer (List DataValue)
  | [] => return []
  | type :: types => do
    let value ← type.consume
    return value :: (← consumeTypes types)

/-- Read a whole payload as values of the data types. -/
def decodeTypes (types : List DataType) (payload : Bytes) : Option (List DataValue) :=
  match consumeTypes types payload with
  | .ok values [] => some values
  | _ => none

namespace DataValue

/-- The data type of a value. -/
def type : DataValue → DataType
  | .byte _ => .byte
  | .boolean _ => .boolean
  | .uint32 _ => .uint32
  | .string _ => .string
  | .nameList _ => .nameList

/-- The field that lays a value out. -/
def field : DataValue → Field
  | .byte n => .u8 n
  | .boolean b => .bool b
  | .uint32 n => .u32 n
  | .string content => .one content
  | .nameList names => .one (joinComma names)

/-- The names can stand in a name-list. -/
def HasNames : DataValue → Prop
  | .nameList names => ∀ name ∈ names, name ≠ [] ∧ comma ∉ name
  | _ => True

/-- The value is short enough for its length field. -/
def Fits (value : DataValue) : Prop := value.field.size < UInt32.size

end DataValue

/-! ## Name-lists -/

/-- No comma is left in what is split at the commas. -/
theorem comma_not_mem_of_mem_splitComma {content name : Text} (h : name ∈ splitComma content) :
    comma ∉ name := by
  unfold splitComma at h
  induction content generalizing name with
  | nil =>
    rw [List.splitOn_nil, List.mem_singleton] at h
    rw [h]
    exact List.not_mem_nil
  | cons octet rest ih =>
    rw [List.splitOn_cons_eq_if_modifyHead] at h
    by_cases hcomma : (octet == comma) = true
    · rw [if_pos hcomma] at h
      obtain rfl | h := List.mem_cons.mp h
      · exact List.not_mem_nil
      · exact ih h
    · rw [if_neg hcomma] at h
      obtain ⟨first, names, hsplit⟩ := List.exists_cons_of_ne_nil (List.splitOn_ne_nil comma rest)
      rw [hsplit, List.modifyHead_cons] at h
      rw [hsplit] at ih
      obtain rfl | h := List.mem_cons.mp h
      · intro hmem
        obtain heq | hmem := List.mem_cons.mp hmem
        · exact hcomma (beq_iff_eq.mpr heq.symm)
        · exact ih List.mem_cons_self hmem
      · exact ih (List.mem_cons_of_mem _ h)

/-- What is read as names was joined from them. -/
theorem joinComma_of_readNames {content : Bytes} {names : List Text}
    (h : readNames content = some names) : joinComma names = content := by
  unfold readNames at h
  split at h
  · next hnil =>
    injection h with h
    rw [← h, hnil]
    rfl
  · split at h
    · cases h
    · injection h with h
      rw [← h]
      exact List.intercalate_splitOn comma

/-- Names come back from a name-list exactly if they can stand in one. -/
theorem readNames_joinComma_iff {names : List Text} :
    readNames (joinComma names) = some names ↔ ∀ name ∈ names, name ≠ [] ∧ comma ∉ name := by
  constructor
  · intro h name hname
    unfold readNames at h
    split at h
    · injection h with h
      rw [← h] at hname
      exact absurd hname List.not_mem_nil
    · split at h
      · cases h
      · next hempty =>
        injection h with h
        rw [← h] at hname
        exact ⟨fun heq => hempty (heq ▸ hname), comma_not_mem_of_mem_splitComma hname⟩
  · intro h
    by_cases hnil : names = []
    · rw [hnil]
      rfl
    · have hsplit := splitComma_joinComma hnil fun name hname => (h name hname).2
      unfold readNames
      rw [if_neg (mt (joinComma_eq_nil fun name hname => (h name hname).1).mp hnil), hsplit,
        if_neg fun hempty => (h [] hempty).1 rfl]

/-! ## Reading what is laid out -/

variable {value : DataValue} {values : List DataValue} {type : DataType} {types : List DataType}
  {payload rest : Bytes}

theorem consumeOne_field {content : Bytes} (h : (Field.one content).size < UInt32.size) :
    Consumer.consumeOne ((Field.one content).put ++ rest) = .ok content rest := by
  rw [Field.size] at h
  exact Consumer.consumeOne_append rest (by omega)

/-- A value is read back from its octets, whatever follows. -/
theorem DataValue.consume_field (hfits : value.Fits) (hnames : value.HasNames) (rest : Bytes) :
    value.type.consume (value.field.put ++ rest) = .ok value rest := by
  cases value with
  | byte n => rfl
  | boolean b => cases b <;> rfl
  | uint32 n => exact Triple.bind_of_ok (Consumer.consumeU32_append n rest)
  | string content => exact Triple.bind_of_ok (consumeOne_field hfits)
  | nameList names =>
    refine (Triple.bind_of_ok (consumeOne_field hfits)).trans ?_
    rw [readNames_joinComma_iff.mpr hnames]
    rfl

/-- What is read first, if values are read one after the other. -/
theorem consumeTypes_cons_eq_ok_iff {rest : Bytes} :
    consumeTypes (type :: types) payload = .ok (value :: values) rest ↔
      ∃ rest', type.consume payload = .ok value rest' ∧
        consumeTypes types rest' = .ok values rest := by
  constructor
  · intro h
    obtain ⟨value', rest₁, hvalue, h⟩ := Triple.bind_eq_ok_iff.mp h
    obtain ⟨values', rest₂, hvalues, h⟩ := Triple.bind_eq_ok_iff.mp h
    injection h with heq hrest
    injection heq with hhead htail
    rw [← hhead, ← htail, ← hrest]
    exact ⟨rest₁, hvalue, hvalues⟩
  · rintro ⟨rest', hvalue, hvalues⟩
    exact (Triple.bind_of_ok hvalue).trans (Triple.bind_of_ok hvalues)

theorem decodeTypes_eq_some_iff :
    decodeTypes types payload = some values ↔ consumeTypes types payload = .ok values [] := by
  unfold decodeTypes
  constructor
  · intro h
    split at h
    · next hconsume =>
      injection h with h
      rw [← h]
      exact hconsume
    · cases h
  · intro h
    rw [h]

/-- A value that is read back can be read back. -/
theorem DataValue.hasNames_of_consume (hfits : value.Fits)
    (h : value.type.consume (value.field.put ++ payload) = .ok value rest) : value.HasNames := by
  cases value with
  | nameList names =>
    obtain ⟨content, rest₁, hone, h⟩ := Triple.bind_eq_ok_iff.mp h
    rw [DataValue.field, consumeOne_field hfits] at hone
    injection hone with hcontent hrest
    rw [← hcontent] at h
    cases hread : readNames (joinComma names) with
    | none =>
      rw [hread] at h
      cases h
    | some names' =>
      rw [hread] at h
      injection h with h
      injection h with h
      exact readNames_joinComma_iff.mp (h ▸ hread)
  | byte n | boolean b | uint32 n | string content => trivial

/-- A payload that is laid out from values is read back as these values, as long as the names in
its name-lists can stand there. -/
theorem decodeTypes_fields_iff (hfits : ∀ value ∈ values, value.Fits) :
    decodeTypes (values.map DataValue.type)
        (makeBufferWithoutHeader (values.map DataValue.field)) = some values ↔
      ∀ value ∈ values, value.HasNames := by
  rw [decodeTypes_eq_some_iff]
  induction values with
  | nil => exact iff_of_true rfl fun value hvalue => absurd hvalue List.not_mem_nil
  | cons value values ih =>
    have hvalue : value.Fits := hfits value List.mem_cons_self
    rw [List.forall_mem_cons, ← ih fun next hnext => hfits next (List.mem_cons_of_mem _ hnext)]
    change consumeTypes (value.type :: _) (value.field.put ++ _) = _ ↔ _
    rw [consumeTypes_cons_eq_ok_iff]
    constructor
    · rintro ⟨rest', hfirst, hrest⟩
      have hnames := DataValue.hasNames_of_consume hvalue hfirst
      rw [DataValue.consume_field hvalue hnames] at hfirst
      injection hfirst with _ hrest'
      rw [← hrest'] at hrest
      exact ⟨hnames, hrest⟩
    · rintro ⟨hnames, hrest⟩
      exact ⟨_, DataValue.consume_field hvalue hnames _, hrest⟩

/-! ## Lengths -/

theorem length_of_consumeU8 {n : UInt8} (h : Consumer.consumeU8 payload = .ok n rest) :
    payload.length = 1 + rest.length := by
  unfold Consumer.consumeU8 at h
  split at h
  · injection h with hn hrest
    rw [← hrest, List.length_cons, Nat.add_comm]
  · cases h

/-- A value takes as many octets as it is laid out in. -/
theorem length_of_consume (h : type.consume payload = .ok value rest) :
    payload.length = value.field.size + rest.length := by
  have hone {content : Bytes} (h : Consumer.consumeOne payload = .ok content rest) :
      payload.length = (Field.one content).size + rest.length := by
    obtain ⟨octets, ⟨-, rfl⟩, rfl⟩ := Consumer.encodesString_of_consumeOne h
    rw [List.length_append, Field.length_put]
  cases type with
  | byte | boolean =>
    obtain ⟨n, rest₁, hread, hvalue⟩ := Triple.bind_eq_ok_iff.mp h
    injection hvalue with hvalue hrest
    rw [← hvalue, ← hrest]
    exact length_of_consumeU8 hread
  | uint32 =>
    obtain ⟨n, rest₁, hread, hvalue⟩ := Triple.bind_eq_ok_iff.mp h
    injection hvalue with hvalue hrest
    rw [← hvalue, ← hrest, Consumer.toBeBytes_of_consumeU32 hread, List.length_append]
    rfl
  | string =>
    obtain ⟨content, rest₁, hread, hvalue⟩ := Triple.bind_eq_ok_iff.mp h
    injection hvalue with hvalue hrest
    rw [← hvalue]
    exact hone (hrest ▸ hread)
  | nameList =>
    obtain ⟨content, rest₁, hread, hvalue⟩ := Triple.bind_eq_ok_iff.mp h
    cases hnames : readNames content with
    | none =>
      rw [hnames] at hvalue
      cases hvalue
    | some names =>
      rw [hnames] at hvalue
      injection hvalue with hvalue hrest
      rw [← hvalue, DataValue.field, joinComma_of_readNames hnames]
      exact hone (hrest ▸ hread)

theorem length_of_consumeTypes (h : consumeTypes types payload = .ok values rest) :
    payload.length = fieldsSize (values.map DataValue.field) + rest.length := by
  induction types generalizing payload values with
  | nil =>
    injection h with hvalues hrest
    rw [← hvalues, hrest]
    exact (Nat.zero_add _).symm
  | cons type types ih =>
    obtain ⟨value, rest₁, hvalue, h⟩ := Triple.bind_eq_ok_iff.mp h
    obtain ⟨others, rest₂, hothers, h⟩ := Triple.bind_eq_ok_iff.mp h
    injection h with hvalues hrest
    rw [← hvalues, length_of_consume hvalue, ih (hrest ▸ hothers), ← Nat.add_assoc]
    rfl

/-- What is read as values is as long as what the values are laid out in. -/
theorem length_of_decodeTypes (h : decodeTypes types payload = some values) :
    payload.length = fieldsSize (values.map DataValue.field) :=
  length_of_consumeTypes (decodeTypes_eq_some_iff.mp h)

theorem size_le_fieldsSize {field : Field} {fields : List Field} (h : field ∈ fields) :
    field.size ≤ fieldsSize fields :=
  List.single_le_sum (fun _ _ => Nat.zero_le _) _ (List.mem_map_of_mem h)

end Flatline
