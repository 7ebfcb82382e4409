import Flatline.Wire.Buffer
import Flatline.Wire.Protocol

/-!
# Terminal modes

The modes of a `pty-req` are entries of an opcode and a 32-bit argument. `Interprets` says what a
reader makes of octets in terms of the opcodes at which it stops: RFC 4254, section 8, stops at
`TTY_OP_END` and at the opcodes from 160 on, `TtyModesParser::parse` at `TTY_OP_END` only.

Source: `src/session/channel.rs` (`TtyOpcode`, `TtyModesParser`), `src/session/backend.rs`
(`channel_request_pty`).
-/

namespace Flatline

/-- `TtyOpcode`. -/
inductive TtyOpcode where
  | ttyOpEnd | vIntr | vQuit | vErase | vKill | vEof | vEol | vEol2 | vStart | vStop | vSusp
  | vDSusp | vReprint | vWerase | vLNext | vFlush | vSwitch | vStatus | vDiscard | ignpar | parmrk
  | inpck | istrip | inlcr | igncr | icrnl | iuclc | ixon | ixany | ixoff | imaxbel | iutf8 | isig
  | icanon | xcase | echo | echoe | echok | echonl | noflsh | tostop | iexten | echoctl | echoke
  | pendin | opost | olcuc | onlcr | ocrnl | onocr | onlret | cs7 | cs8 | parenb | parodd
  | ttyOpISpeed | ttyOpOSpeed
deriving DecidableEq, Repr

namespace TtyOpcode

/-- The discriminant, `opcode as u8`. -/
def toU8 : TtyOpcode → UInt8
  | .ttyOpEnd => 0
  | .vIntr => 1
  | .vQuit => 2
  | .vErase => 3
  | .vKill => 4
  | .vEof => 5
  | .vEol => 6
  | .vEol2 => 7
  | .vStart => 8
  | .vStop => 9
  | .vSusp => 10
  | .vDSusp => 11
  | .vReprint => 12
  | .vWerase => 13
  | .vLNext => 14
  | .vFlush => 15
  | .vSwitch => 16
  | .vStatus => 17
  | .vDiscard => 18
  | .ignpar => 30
  | .parmrk => 31
  | .inpck => 32
  | .istrip => 33
  | .inlcr => 34
  | .igncr => 35
  | .icrnl => 36
  | .iuclc => 37
  | .ixon => 38
  | .ixany => 39
  | .ixoff => 40
  | .imaxbel => 41
  | .iutf8 => 42
  | .isig => 50
  | .icanon => 51
  | .xcase => 52
  | .echo => 53
  | .echoe => 54
  | .echok => 55
  | .echonl => 56
  | .noflsh => 57
  | .tostop => 58
  | .iexten => 59
  | .echoctl => 60
  | .echoke => 61
  | .pendin => 62
  | .opost => 70
  | .olcuc => 71
  | .onlcr => 72
  | .ocrnl => 73
  | .onocr => 74
  | .onlret => 75
  | .cs7 => 90
  | .cs8 => 91
  | .parenb => 92
  | .parodd => 93
  | .ttyOpISpeed => 128
  | .ttyOpOSpeed => 129

/-- `TtyOpcode::from_u8`. -/
def fromU8 : UInt8 → Option TtyOpcode
  | 0 => some .ttyOpEnd
  | 1 => some .vIntr
  | 2 => some .vQuit
  | 3 => some .vErase
  | 4 => some .vKill
  | 5 => some .vEof
  | 6 => some .vEol
  | 7 => some .vEol2
  | 8 => some .vStart
  | 9 => some .vStop
  | 10 => some .vSusp
  | 11 => some .vDSusp
  | 12 => some .vReprint
  | 13 => some .vWerase
  | 14 => some .vLNext
  | 15 => some .vFlush
  | 16 => some .vSwitch
  | 17 => some .vStatus
  | 18 => some .vDiscard
  | 30 => some .ignpar
  | 31 => some .parmrk
  | 32 => some .inpck
  | 33 => some .istrip
  | 34 => some .inlcr
  | 35 => some .igncr
  | 36 => some .icrnl
  | 37 => some .iuclc
  | 38 => some .ixon
  | 39 => some .ixany
  | 40 => some .ixoff
  | 41 => some .imaxbel
  | 42 => some .iutf8
  | 50 => some .isig
  | 51 => some .icanon
  | 52 => some .xcase
  | 53 => some .echo
  | 54 => some .echoe
  | 55 => some .echok
  | 56 => some .echonl
  | 57 => some .noflsh
  | 58 => some .tostop
  | 59 => some .iexten
  | 60 => some .echoctl
  | 61 => some .echoke
  | 62 => some .pendin
  | 70 => some .opost
  | 71 => some .olcuc
  | 72 => some .onlcr
  | 73 => some .ocrnl
  | 74 => some .onocr
  | 75 => some .onlret
  | 90 => some .cs7
  | 91 => some .cs8
  | 92 => some .parenb
  | 93 => some .parodd
  | 128 => some .ttyOpISpeed
  | 129 => some .ttyOpOSpeed
  | _ => none

/-- Every opcode comes back from its discriminant. -/
theorem fromU8_toU8 (opcode : TtyOpcode) : fromU8 opcode.toU8 = some opcode := by
  cases opcode <;> rfl

theorem toU8_eq_zero_iff (opcode : TtyOpcode) : opcode.toU8 = 0 ↔ opcode = .ttyOpEnd := by
  constructor
  · intro h
    have hend := fromU8_toU8 opcode
    rw [h] at hend
    exact (Option.some.inj hend).symm
  · rintro rfl
    rfl

end TtyOpcode

namespace TtyModes

/-! ## Encoding and parsing -/

/-- `TtyModesParser::encode`. -/
def encode (modes : List (TtyOpcode × UInt32)) : Bytes :=
  modes.flatMap (fun mode => mode.1.toU8 :: toBeBytes mode.2) ++ [0]

/-- The loop of `TtyModesParser::parse` over what is left of the data. -/
def parseLoop (result : List (TtyOpcode × UInt32)) : Bytes → List (TtyOpcode × UInt32)
  | [] => result
  | opcode :: rest =>
    if opcode = 0 then result
    else
      match rest with
      | a :: b :: c :: d :: rest =>
        match TtyOpcode.fromU8 opcode with
        | some op => parseLoop (result ++ [(op, fromBeBytes a b c d)]) rest
        | none => parseLoop result rest
      | _ => result

/-- `TtyModesParser::parse`. -/
def parse (data : Bytes) : List (TtyOpcode × UInt32) :=
  parseLoop [] data

/-- The producer of `channel_request_pty`. -/
def producer (modes : List (TtyOpcode × UInt32)) : Bytes :=
  makeBufferWithoutHeader
    (modes.flatMap (fun mode => [.u8 mode.1.toU8, .u32 mode.2]) ++ [.u8 TtyOpcode.ttyOpEnd.toU8])

/-- The packet of `channel_request_pty`. -/
def ptyRequest (server : UInt32) (wantReply : Bool) (terminal : Text)
    (columns rows width height : UInt32) (modes : List (TtyOpcode × UInt32)) : Bytes :=
  makeBufferWithoutHeader [.u8 sshMsgChannelRequest, .u32 server, .one (ascii "pty-req"),
    .bool wantReply, .one terminal, .u32 columns, .u32 rows, .u32 width, .u32 height,
    .bytes (producer modes)]

/-! ## Round trips -/

theorem encode_cons (mode : TtyOpcode × UInt32) (modes : List (TtyOpcode × UInt32)) :
    encode (mode :: modes) = mode.1.toU8 :: (toBeBytes mode.2 ++ encode modes) := by
  unfold encode
  rw [List.flatMap_cons, List.append_assoc, List.cons_append]

theorem parseLoop_zero (result : List (TtyOpcode × UInt32)) (rest : Bytes) :
    parseLoop result (0 :: rest) = result := by
  unfold parseLoop
  exact if_pos rfl

theorem parseLoop_short (result : List (TtyOpcode × UInt32)) {opcode : UInt8} {rest : Bytes}
    (hrest : rest.length < 4) : parseLoop result (opcode :: rest) = result := by
  unfold parseLoop
  split
  · rfl
  · split
    · simp only [List.length_cons] at hrest
      omega
    · rfl

/-- An entry is kept if its opcode is known, and its argument is passed over if not. -/
theorem parseLoop_entry (result : List (TtyOpcode × UInt32)) {opcode : UInt8} (h : opcode ≠ 0)
    (a b c d : UInt8) (rest : Bytes) :
    parseLoop result (opcode :: a :: b :: c :: d :: rest) = parseLoop (result ++
      ((TtyOpcode.fromU8 opcode).map fun op => (op, fromBeBytes a b c d)).toList) rest := by
  conv => lhs; unfold parseLoop
  rw [if_neg h]
  cases hop : TtyOpcode.fromU8 opcode with
  | none => rw [Option.map_none, Option.toList_none, List.append_nil]
  | some op => rfl

/-- The entries that have been read stand before those that follow. -/
theorem parseLoop_encode {modes : List (TtyOpcode × UInt32)}
    (hmodes : ∀ mode ∈ modes, mode.1 ≠ .ttyOpEnd) (result : List (TtyOpcode × UInt32)) :
    parseLoop result (encode modes) = result ++ modes := by
  induction modes generalizing result with
  | nil => exact (List.append_nil result).symm
  | cons mode modes ih =>
    have hmode : mode.1.toU8 ≠ 0 := fun h =>
      hmodes mode List.mem_cons_self ((TtyOpcode.toU8_eq_zero_iff mode.1).mp h)
    have ih := ih fun other hother => hmodes other (List.mem_cons_of_mem _ hother)
    have hentry := parseLoop_entry result hmode (UInt8.ofNat (mode.2.toNat / 0x1000000))
      (UInt8.ofNat (mode.2.toNat / 0x10000)) (UInt8.ofNat (mode.2.toNat / 0x100))
      (UInt8.ofNat mode.2.toNat) (encode modes)
    rw [TtyOpcode.fromU8_toU8, fromBeBytes_toBeBytes] at hentry
    rw [encode_cons]
    refine hentry.trans ?_
    rw [ih, List.append_assoc]
    rfl

/-- The second encoder writes what the first does. -/
theorem producer_eq_encode (modes : List (TtyOpcode × UInt32)) : producer modes = encode modes := by
  unfold producer encode makeBufferWithoutHeader
  rw [List.flatMap_append, List.flatMap_assoc]
  rfl

/-! ## What a reader makes of octets -/

/-- The entries of known opcodes up to the first opcode of `ends`, an argument that is cut short, or
the end. Each opcode in front of it has an argument of four octets, known or not. -/
inductive Interprets (ends : UInt8 → Prop) : Bytes → List (TtyOpcode × UInt32) → Prop
  | empty : Interprets ends [] []
  | ended {opcode : UInt8} {rest : Bytes} (h : ends opcode) : Interprets ends (opcode :: rest) []
  | truncated {opcode : UInt8} {rest : Bytes} (h : ¬ends opcode) (hrest : rest.length < 4) :
      Interprets ends (opcode :: rest) []
  | entry {opcode a b c d : UInt8} {rest : Bytes} {modes : List (TtyOpcode × UInt32)}
      (h : ¬ends opcode) (hrest : Interprets ends rest modes) :
      Interprets ends (opcode :: a :: b :: c :: d :: rest)
        (((TtyOpcode.fromU8 opcode).map fun op => (op, fromBeBytes a b c d)).toList ++ modes)

/-- `TTY_OP_END`. -/
def IsEnd (opcode : UInt8) : Prop := opcode = 0

/-- The opcodes at which RFC 4254 has a reader stop. -/
def IsStop (opcode : UInt8) : Prop := opcode = 0 ∨ 160 ≤ opcode

/-- A reader makes one thing of octets. -/
theorem Interprets.unique {ends : UInt8 → Prop} {data : Bytes}
    {modes modes' : List (TtyOpcode × UInt32)} (h : Interprets ends data modes)
    (h' : Interprets ends data modes') : modes = modes' := by
  induction h generalizing modes' with
  | empty =>
    cases h'
    rfl
  | ended h =>
    cases h' with
    | ended _ | truncated _ _ => rfl
    | entry hne _ => exact absurd h hne
  | truncated h hrest =>
    cases h' with
    | ended _ | truncated _ _ => rfl
    | entry _ _ =>
      simp only [List.length_cons] at hrest
      omega
  | entry h hrest ih =>
    cases h' with
    | ended hend => exact absurd hend h
    | truncated _ hshort =>
      simp only [List.length_cons] at hshort
      omega
    | entry _ hrest' => rw [ih hrest']

/-- Octets are too few for an argument, or have one. -/
theorem short_or_argument (rest : Bytes) :
    rest.length < 4 ∨ ∃ a b c d more, rest = a :: b :: c :: d :: more := by
  by_cases hshort : rest.length < 4
  · exact .inl hshort
  · exact .inr (Consumer.exists_of_four_le (Nat.le_of_not_lt hshort))

/-- The loop appends what a reader makes of the data that stops at `TTY_OP_END`. -/
theorem interprets_parseLoop (result : List (TtyOpcode × UInt32)) (data : Bytes) :
    ∃ modes, Interprets IsEnd data modes ∧ parseLoop result data = result ++ modes := by
  -- every entry makes the data shorter by five
  induction hlength : data.length using Nat.strongRecOn generalizing result data with
  | ind n ih =>
    rcases data with _ | ⟨opcode, rest⟩
    · exact ⟨[], .empty, (List.append_nil result).symm⟩
    · by_cases hend : opcode = 0
      · subst hend
        exact ⟨[], .ended rfl, (parseLoop_zero result rest).trans (List.append_nil result).symm⟩
      · rcases short_or_argument rest with hshort | ⟨a, b, c, d, more, rfl⟩
        · exact ⟨[], .truncated hend hshort,
            (parseLoop_short result hshort).trans (List.append_nil result).symm⟩
        · have hmore : more.length < n := by
            rw [← hlength]
            simp only [List.length_cons]
            omega
          obtain ⟨modes, hmodes, hloop⟩ := ih more.length hmore (result ++
            ((TtyOpcode.fromU8 opcode).map fun op => (op, fromBeBytes a b c d)).toList) more rfl
          refine ⟨_, .entry hend hmodes, ?_⟩
          rw [parseLoop_entry result hend, hloop, List.append_assoc]

theorem parse_eq_iff (data : Bytes) (modes : List (TtyOpcode × UInt32)) :
    parse data = modes ↔ Interprets IsEnd data modes := by
  obtain ⟨modes', hmodes', hparse⟩ := interprets_parseLoop [] data
  have hparse : parse data = modes' := hparse
  rw [hparse]
  exact ⟨fun h => h ▸ hmodes', hmodes'.unique⟩

/-- A reader that stops earlier makes less of the octets. -/
theorem Interprets.begins_of_imp {ends ends' : UInt8 → Prop}
    (hends : ∀ opcode, ends' opcode → ends opcode) {data : Bytes}
    {modes modes' : List (TtyOpcode × UInt32)} (h : Interprets ends data modes)
    (h' : Interprets ends' data modes') : modes <+: modes' := by
  induction h generalizing modes' with
  | empty | ended _ | truncated _ _ => exact List.nil_prefix
  | entry h hrest ih =>
    cases h' with
    | ended hend => exact absurd (hends _ hend) h
    | truncated _ hshort =>
      simp only [List.length_cons] at hshort
      omega
    | entry _ hrest' => exact List.prefix_append_right_inj _ |>.mpr (ih hrest')

/-! ## Terminal modes -/

/-- Modes are parsed as they were encoded, by either encoder; and of any octets `parse` returns the
entries of known opcodes up to `TTY_OP_END` or an argument that is cut short, which begin with
those that a reader of RFC 4254 returns. -/
theorem ttyModes_exact (modes : List (TtyOpcode × UInt32)) (data : Bytes) :
    ((∀ mode ∈ modes, mode.1 ≠ .ttyOpEnd) → parse (encode modes) = modes) ∧
      producer modes = encode modes ∧
      (∀ result, parse data = result ↔ Interprets IsEnd data result) ∧
      ∀ result, Interprets IsStop data result → result <+: parse data := by
  refine ⟨fun hmodes => parseLoop_encode hmodes [], producer_eq_encode modes, parse_eq_iff data,
    fun result hresult => ?_⟩
  exact hresult.begins_of_imp (fun _ => .inl) ((parse_eq_iff data _).mp rfl)

/-- The modes of the source's own test. -/
theorem ttyModes_exact_two_modes :
    parse (encode [(.vIntr, 3), (.echo, 1)]) = [(.vIntr, 3), (.echo, 1)] :=
  (ttyModes_exact [(.vIntr, 3), (.echo, 1)] []).1 (by simp)

/-- An opcode from 160 on is passed over with its argument. -/
theorem parse_passes_over_stop :
    ¬ ∀ data result, parse data = result ↔ Interprets IsStop data result := by
  intro h
  have hstop : Interprets IsStop [200, 0, 0, 0, 5, 53, 0, 0, 0, 1, 0] [] :=
    .ended (.inr (by decide))
  have hparse := (h _ _).mpr hstop
  have hentry : parse [200, 0, 0, 0, 5, 53, 0, 0, 0, 1, 0] = [(.echo, 1)] := by decide
  rw [hentry] at hparse
  cases hparse

end TtyModes

end Flatline
