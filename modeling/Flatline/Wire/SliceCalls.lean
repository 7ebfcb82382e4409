import Flatline.Wire.Slice
import Flatline.Sftp.Types

/-!
# What consumers guarantee

Consumers read back what producers write, as long as the lengths of strings fit their length field,
and never leave their slice. A call that fails keeps the position, except for `consume_one`, which
has read the length by then.

Source: `src/ssh/buffer.rs`.
-/

namespace Flatline

namespace Slice

variable {s : Slice}

/-! ## Reading fields back -/

/-- The call that reads a field. A list has none of its own. -/
def callOf : Field → Call
  | .u8 _ => .u8
  | .u32 _ => .u32
  | .u64 _ => .u64
  | .one _ | .oneListU32 _ => .one
  | .bytes content => .bytes content.length

/-- The length of a string that is read is a `u32`. -/
theorem length_of_consumeOne {octets rest content : Bytes}
    (h : Consumer.consumeOne octets = .ok content rest) : content.length < UInt32.size := by
  unfold Consumer.consumeOne at h
  cases hlen : Consumer.consumeU32 octets with
  | error e more =>
    rw [hlen] at h
    cases h
  | ok len more =>
    rw [hlen] at h
    dsimp only at h
    split at h
    · cases h
    · injection h with hcontent _
      rw [← hcontent]
      exact Nat.lt_of_le_of_lt (List.length_take_le _ _) len.toNat_lt

theorem length_of_step {octets rest content : Bytes}
    (h : Call.one.step octets = .ok (.one content) rest) : content.length < UInt32.size := by
  obtain ⟨content', rest', hone, hpure⟩ := Triple.bind_eq_ok_iff.mp h
  cases hpure
  exact length_of_consumeOne hone

/-- A field is read back if its length, where it has one, is a `u32`. -/
theorem step_callOf {field : Field} (hfield : ∀ items, field ≠ .oneListU32 items)
    (hlength : ∀ content, field = .one content → content.length < UInt32.size) (rest : Bytes) :
    (callOf field).step (field.put ++ rest) = .ok field rest := by
  cases field with
  | oneListU32 items => exact absurd rfl (hfield items)
  | u8 n => exact Triple.bind_of_ok (Consumer.consumeU8_cons n rest)
  | u32 n => exact Triple.bind_of_ok (Consumer.consumeU32_append n rest)
  | u64 n => exact Triple.bind_of_ok (Consumer.consumeU64_append n rest)
  | bytes content => exact Triple.bind_of_ok (Consumer.consumeBytes_append content rest)
  | one content => exact Triple.bind_of_ok (Consumer.consumeOne_append rest (hlength content rfl))

/-- Fields are read back exactly when the length of every string is a `u32`. -/
theorem steps_callOf {fields : List Field} (hfields : ∀ items, .oneListU32 items ∉ fields)
    (rest : Bytes) :
    steps (fields.map callOf) (makeBufferWithoutHeader fields ++ rest) = .ok fields rest ↔
      ∀ content, .one content ∈ fields → content.length < UInt32.size := by
  induction fields with
  | nil => exact iff_of_true rfl nofun
  | cons field fields ih =>
    have ih := ih fun items h => hfields items (List.mem_cons_of_mem _ h)
    have hfirst : (∀ content, field = .one content → content.length < UInt32.size) →
        (callOf field).step (field.put ++ (makeBufferWithoutHeader fields ++ rest)) =
          .ok field (makeBufferWithoutHeader fields ++ rest) := fun hlength =>
      step_callOf (fun items h => hfields items (h ▸ List.mem_cons_self)) hlength _
    have hoctets : makeBufferWithoutHeader (field :: fields) ++ rest =
        field.put ++ (makeBufferWithoutHeader fields ++ rest) := by
      unfold makeBufferWithoutHeader
      rw [List.flatMap_cons, List.append_assoc]
    rw [List.map_cons, hoctets]
    constructor
    · intro h
      obtain ⟨field', more, hrun, h⟩ := Triple.bind_eq_ok_iff.mp h
      obtain ⟨fields', more', hruns, h⟩ := Triple.bind_eq_ok_iff.mp h
      cases h
      have hlength : ∀ content, field = .one content → content.length < UInt32.size := by
        rintro content rfl
        exact length_of_step hrun
      -- so the first field is read back, and the others from what is behind it
      rw [hfirst hlength] at hrun
      cases hrun
      intro content hmem
      rcases List.mem_cons.mp hmem with heq | hmem
      · exact hlength content heq.symm
      · exact ih.mp hruns content hmem
    · intro h
      have hone := hfirst fun content heq => h content (heq ▸ List.mem_cons_self)
      have hall := ih.mpr fun content hmem => h content (List.mem_cons_of_mem _ hmem)
      exact (Triple.bind_of_ok hone).trans (Triple.bind_of_ok hall)

/-! ## Errors -/

/-- A length is announced that is greater than what is behind it. -/
def CutShort : Bytes → Prop
  | a :: b :: c :: d :: rest => rest.length < (fromBeBytes a b c d).toNat
  | _ => False

/-- A call that fails leaves the position where it was. -/
def KeepsPosition (call : Call) (s : Slice) : Prop :=
  ∀ abort s', call.method s = .error abort s' → s'.pos = s.pos

theorem not_cutShort_of_lt {octets : Bytes} (h : octets.length < 4) : ¬CutShort octets := by
  intro hcut
  unfold CutShort at hcut
  split at hcut
  · simp only [List.length_cons] at h
    omega
  · exact hcut

/-- Every step but that for a string leaves all it was given when it fails. -/
theorem rest_of_error {call : Call} (hcall : call ≠ .one) {octets rest : Bytes} {e : Error}
    (h : call.step octets = .error e rest) : rest = octets := by
  cases call with
  | one => exact absurd rfl hcall
  | u8 =>
    cases octets with
    | nil =>
      cases h
      rfl
    | cons b more => cases h
  | u32 =>
    by_cases hshort : octets.length < 4
    · rw [Call.step, Triple.bind_of_error (Consumer.consumeU32_of_lt hshort)] at h
      cases h
      rfl
    · obtain ⟨a, b, c, d, more, rfl⟩ := Consumer.exists_of_four_le (Nat.le_of_not_lt hshort)
      cases h
  | u64 =>
    by_cases hshort : octets.length < 8
    · rw [Call.step, Triple.bind_of_error (Consumer.consumeU64_of_lt hshort)] at h
      cases h
      rfl
    · obtain ⟨_, _, _, _, _, _, _, _, more, rfl⟩ :=
        Consumer.exists_of_eight_le (Nat.le_of_not_lt hshort)
      cases h
  | bytes len =>
    by_cases hshort : octets.length < len
    · have hrun : Consumer.consumeBytes len octets = .error _ octets := if_pos hshort
      rw [Call.step, Triple.bind_of_error hrun] at h
      cases h
      rfl
    · have hrun : Consumer.consumeBytes len octets = .ok _ _ := if_neg hshort
      rw [Call.step, Triple.bind_of_ok hrun] at h
      cases h

/-- The step for a string leaves all it was given exactly when the announced length is there. -/
theorem rest_of_one_error_iff (octets : Bytes) :
    (∀ e rest, Call.one.step octets = .error e rest → rest = octets) ↔ ¬CutShort octets := by
  by_cases hshort : octets.length < 4
  · refine iff_of_true (fun e rest h => ?_) (not_cutShort_of_lt hshort)
    rw [Call.step, Triple.bind_of_error (Consumer.consumeOne_of_lt hshort)] at h
    cases h
    rfl
  · obtain ⟨a, b, c, d, more, rfl⟩ := Consumer.exists_of_four_le (Nat.le_of_not_lt hshort)
    by_cases hlen : (fromBeBytes a b c d).toNat > more.length
    · refine iff_of_false (fun h => ?_) (not_not.mpr hlen)
      have hrun : Consumer.consumeOne (a :: b :: c :: d :: more) = .error _ more := if_pos hlen
      have hsame := congrArg List.length (h _ more (Triple.bind_of_error hrun))
      simp only [List.length_cons] at hsame
      omega
    · refine iff_of_true (fun e rest h => ?_) hlen
      have hrun : Consumer.consumeOne (a :: b :: c :: d :: more) = .ok _ _ := if_neg hlen
      rw [Call.step, Triple.bind_of_ok hrun] at h
      cases h

theorem keepsPosition_iff (call : Call) (hs : s.IsWithin) :
    KeepsPosition call s ↔ ¬(call = .one ∧ CutShort s.rest) := by
  have hstep : (∀ e rest, call.step s.rest = .error e rest → rest = s.rest) ↔
      ¬(call = .one ∧ CutShort s.rest) := by
    by_cases hcall : call = .one
    · subst hcall
      rw [rest_of_one_error_iff]
      simp
    · exact iff_of_true (fun _ _ => rest_of_error hcall) fun h => hcall h.1
  rw [← hstep]
  obtain ⟨n, hn, hview⟩ := call.views s hs
  cases hrun : call.step s.rest with
  | ok field more =>
    rw [hrun] at hview
    refine iff_of_true (fun abort s' h => ?_) nofun
    rw [hview.2] at h
    cases h
  | error e more =>
    rw [hrun] at hview
    obtain ⟨rfl, hmethod⟩ := hview
    constructor
    · intro hkeeps e' rest h
      have hpos : s.pos + n = s.pos := hkeeps _ _ hmethod
      cases h
      rw [Nat.add_eq_left.mp hpos, List.drop_zero]
    · intro hsame abort s' h
      have hdrop := congrArg List.length (hsame _ _ rfl)
      rw [List.length_drop] at hdrop
      rw [hmethod] at h
      cases h
      change s.pos + n = s.pos
      omega

/-! ## Consumers are exact -/

/-- What a producer has written is read back exactly when the lengths of its strings are `u32`s; no
call panics or moves the position out of the data; and a call that fails leaves the position where
it was exactly when it is not a `consume_one` on a length that is greater than what is behind it. -/
theorem consumer_exact (fields : List Field) (octets : Bytes) (s : Slice) (calls : List Call)
    (call : Call) (hfields : ∀ items, .oneListU32 items ∉ fields) (hs : s.IsWithin) :
    (methods (fields.map callOf) (.new (makeBufferWithoutHeader fields ++ octets)) =
        .ok fields ⟨makeBufferWithoutHeader fields ++ octets,
          (makeBufferWithoutHeader fields).length⟩ ↔
      ∀ content, .one content ∈ fields → content.length < UInt32.size) ∧
    (∃ s', after calls s = some s' ∧ s'.data = s.data ∧ s.pos ≤ s'.pos ∧
      s'.pos ≤ s.data.length) ∧
    (KeepsPosition call s ↔ ¬(call = .one ∧ CutShort s.rest)) := by
  refine ⟨?_, ?_, keepsPosition_iff call hs⟩
  · rw [← steps_callOf hfields octets]
    have hviews := (views_methods (fields.map callOf)).ok_iff (a := fields)
      (s := .new (makeBufferWithoutHeader fields ++ octets)) (Nat.zero_le _)
      (n := (makeBufferWithoutHeader fields).length) (by
        change _ ≤ (makeBufferWithoutHeader fields ++ octets).length
        rw [List.length_append]
        exact Nat.le_add_right _ _)
    change _ ↔ steps _ (makeBufferWithoutHeader fields ++ octets) =
      .ok fields ((makeBufferWithoutHeader fields ++ octets).drop _) at hviews
    rw [List.drop_left] at hviews
    rw [← hviews, advance, new, Nat.zero_add]
  · obtain ⟨n, hn, hafter⟩ := after_eq_some calls hs
    exact ⟨_, hafter, rfl, Nat.le_add_right _ _, hs.advance hn⟩

/-- Two fields and a third that is cut short: the first two are read back, and the call for a number
keeps the position. -/
theorem consumer_exact_two_fields :
    methods [.u8, .one] (new (makeBufferWithoutHeader [.u8 3, .one [1, 2]] ++ [0, 0])) =
        .ok [.u8 3, .one [1, 2]] ⟨[3, 0, 0, 0, 2, 1, 2, 0, 0], 7⟩ ∧
      KeepsPosition .u32 ⟨[3, 0, 0, 0, 2, 1, 2, 0, 0], 7⟩ := by
  have hexact := consumer_exact [.u8 3, .one [1, 2]] [0, 0] ⟨[3, 0, 0, 0, 2, 1, 2, 0, 0], 7⟩ [] .u32
    (by simp) (by unfold IsWithin; decide)
  refine ⟨hexact.1.mpr ?_, hexact.2.2.mpr nofun⟩
  intro content hmem
  simp only [List.mem_cons, reduceCtorEq, Field.one.injEq, List.not_mem_nil, or_false,
    false_or] at hmem
  rw [hmem]
  decide

/-- A `consume_one` that fails has moved the position by four. The parser of an SFTP status goes on
from there: it takes the text of a message that is cut short for the language. -/
theorem consumeOne_moves :
    ¬KeepsPosition .one (new [0, 0, 0, 8, 0, 0, 0, 2, 0x65, 0x6E]) ∧
      Sftp.Message.parse [101, 0, 0, 0, 7, 0, 0, 0, 4, 0, 0, 0, 8, 0, 0, 0, 2, 0x65, 0x6E] =
        .ok ⟨7, .status .failure [] [0x65, 0x6E]⟩ := by
  refine ⟨fun hkeeps => ?_, by decide +kernel⟩
  have hpos := hkeeps _ _ rfl
  cases hpos

end Slice

end Flatline
