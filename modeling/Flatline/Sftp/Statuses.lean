import Flatline.Sftp.Sync

/-!
# Failure statuses and file cursors

A status with a failure code is an operation's error, under the code's own variant and with the
server's message, and the files that the operation borrows stay where they are. `limits` has no arm
for a status: whatever the server reports there becomes `UnexpectedResponse`.

Source: `src/session/sftp/mod.rs`, `src/session/sftp/types.rs` (`Status::to_error`,
`Status::to_result`).
-/

namespace Flatline.Sftp

/-! ## What a server reports -/

/-- A text that a string field can hold. -/
structure IsFieldText (text : Text) : Prop where
  valid : utf8Valid text = true
  fits : text.length < UInt32.size

theorem IsFieldText.expectText {text : Text} (h : IsFieldText text) (rest : Bytes) :
    Sftp.expectText text rest = .ok text rest := by
  unfold Sftp.expectText
  rw [if_pos h.valid]
  rfl

theorem orDefault_of_ok {field : Consumer Bytes} {rest rest' content : Bytes}
    (h : field rest = .ok content rest') : orDefault field rest = .ok content rest' := by
  unfold orDefault
  rw [h]

theorem IsFieldText.orDefault {text : Text} (h : IsFieldText text) (rest : Bytes) :
    Sftp.orDefault Consumer.consumeOne ((Field.one text).put ++ rest) = .ok text rest :=
  orDefault_of_ok (Consumer.consumeOne_append rest h.fits)

/-- The files an operation has borrowed, as it leaves them. -/
def filesAfter : Outcome → List File
  | .ok _ files => files
  | .error _ files => files

/-- How far an operation is to move the cursors of its files: a read by what it returns, a write by
what it was given, if they succeed. -/
def Operation.advance : Operation → Outcome → ℕ
  | .readFile .., .ok (.read data) _ => data.length
  | .writeFile _ _ data, .ok _ _ => data.length
  | _, _ => 0

/-- The files are those that the operation was given, the cursors where its outcome puts them. -/
def Operation.MovesCursors (operation : Operation) (outcome : Outcome) : Prop :=
  List.Forall₂ (fun file file' => file'.handle = file.handle ∧
    file'.pos.toNat = file.pos.toNat + operation.advance outcome) operation.files (filesAfter outcome)

/-- An outcome that leaves the files as they are is to move none. -/
theorem Operation.movesCursors_of_eq {operation : Operation} {outcome : Outcome}
    (hfiles : filesAfter outcome = operation.files) (hadvance : operation.advance outcome = 0) :
    operation.MovesCursors outcome := by
  unfold MovesCursors
  rw [hfiles, hadvance]
  exact List.forall₂_same.mpr fun file _ => ⟨rfl, rfl⟩

theorem Operation.advance_error (operation : Operation) (fault : Fault) (files : List File) :
    operation.advance (.error fault files) = 0 := by
  cases operation <;> rfl

theorem Operation.movesCursors_error (operation : Operation) (fault : Fault) :
    operation.MovesCursors (.error fault operation.files) :=
  movesCursors_of_eq rfl (operation.advance_error fault _)

/-- What touches no file leaves the files as they are. -/
theorem Operation.movesCursors_lift {operation : Operation} (x : Except Error Reply)
    (hadvance : ∀ reply files, operation.advance (.ok reply files) = 0) :
    operation.MovesCursors (liftFiles x operation.files) := by
  cases x with
  | ok reply => exact movesCursors_of_eq rfl (hadvance reply _)
  | error e => exact operation.movesCursors_error (.error e)

theorem forward_of_some {file file' : File} {offset : ℕ} (h : file.forward offset = some file') :
    forward offset [file] = .ok () [file'] := by
  unfold forward
  rw [Triple.get_bind]
  simp only [h]
  rfl

theorem forward_of_none {file : File} {offset : ℕ} (h : file.forward offset = none) :
    forward offset [file] = .error .panicked [file] := by
  unfold forward
  rw [Triple.get_bind]
  simp only [h]
  rfl

/-- A read or a write that moves the cursor of its file moves it as it is to, or `+=` panics. -/
theorem Operation.movesCursors_forward (operation : Operation) {file : File} {offset : ℕ}
    {reply : Reply} (hfiles : operation.files = [file])
    (hadvance : ∀ files, operation.advance (.ok reply files) = offset) :
    operation.MovesCursors ((do forward offset; return reply : FileM Reply) operation.files) := by
  cases hforward : file.forward offset with
  | none =>
    have hrun : (do forward offset; return reply : FileM Reply) operation.files =
        .error .panicked operation.files := by
      rw [hfiles, Triple.bind_of_error (forward_of_none hforward)]
    rw [hrun]
    exact operation.movesCursors_error .panicked
  | some file' =>
    have hrun : (do forward offset; return reply : FileM Reply) operation.files =
        .ok reply [file'] := by
      rw [hfiles, Triple.bind_of_ok (forward_of_some hforward)]
      rfl
    rw [hrun]
    unfold MovesCursors
    rw [hfiles, hadvance]
    exact .cons (File.forward_eq_some hforward) .nil

/-- The cursors go on by what has been read or written, and nowhere else. -/
theorem Operation.movesCursors_interpret (operation : Operation) (payload : Payload) :
    operation.MovesCursors (operation.interpret payload operation.files) := by
  cases operation with
  | readFile file offset length =>
    cases payload with
    | status status msg language =>
      cases status with
      | ok => exact movesCursors_of_eq rfl rfl
      | _ => exact movesCursors_error _ _
    | data data => exact movesCursors_forward _ rfl fun _ => rfl
    | _ => exact movesCursors_error _ _
  | writeFile file offset data =>
    cases payload with
    | status status msg language =>
      cases status with
      | ok => exact movesCursors_forward (.writeFile file offset data) rfl fun _ => rfl
      | _ => exact movesCursors_error _ _
    | _ => exact movesCursors_error _ _
  | _ => exact movesCursors_lift _ fun _ _ => rfl

namespace Handle

variable {h : Handle}

/-- A reply that is refused leaves the operation with the error. -/
theorem results_of_error (operation : Operation) (len : ℕ) {data : Bytes} {e : Error}
    (hparse : Message.parse (data.drop 4) = .error e) :
    (h.receiveReply operation len data).results = (operation, operation.fails e) :: h.results := by
  unfold receiveReply
  rw [hparse]
  rfl

/-- The operation makes of its own reply what it makes of the payload. -/
theorem results_of_ok (operation : Operation) (len : ℕ) {data : Bytes} {msg : Message}
    (hparse : Message.parse (data.drop 4) = .ok msg) (hid : msg.id = h.requestId) :
    (h.receiveReply operation len data).results =
      (operation, operation.interpret msg.payload operation.files) :: h.results := by
  unfold receiveReply
  rw [hparse]
  simp only [hid, ne_eq, not_true_eq_false, if_false]
  rfl

/-- The reply to another request is an error. -/
theorem results_of_ne (operation : Operation) (len : ℕ) {data : Bytes} {msg : Message}
    (hparse : Message.parse (data.drop 4) = .ok msg) (hid : msg.id ≠ h.requestId) :
    (h.receiveReply operation len data).results =
      (operation, operation.fails (fault (.mismatchResponse h.requestId msg.id))) :: h.results := by
  unfold receiveReply
  rw [hparse]
  simp only [ne_eq, hid, not_false_eq_true, if_true]
  rfl

/-- A step adds at most one result, and the cursors of its files are where it puts them. -/
def AddsResult (h h' : Handle) : Prop :=
  h'.results = h.results ∨ ∃ operation outcome,
    h'.results = (operation, outcome) :: h.results ∧ operation.MovesCursors outcome

theorem addsResult_fails (h : Handle) (operation : Operation) (e : Error) :
    AddsResult h (h.finish operation (operation.fails e)) :=
  .inr ⟨operation, operation.fails e, rfl, operation.movesCursors_error (.error e)⟩

/-- What `receive_msg` and the operation make of any reply, they put in front of the results. -/
theorem addsResult_receiveReply (h : Handle) (operation : Operation) (len : ℕ) (data : Bytes) :
    AddsResult h (h.receiveReply operation len data) := by
  cases hparse : Message.parse (data.drop 4) with
  | error e =>
    exact .inr ⟨_, _, results_of_error operation len hparse, operation.movesCursors_error (.error e)⟩
  | ok msg =>
    by_cases hid : msg.id = h.requestId
    · exact .inr ⟨_, _, results_of_ok operation len hparse hid,
        operation.movesCursors_interpret msg.payload⟩
    · exact .inr ⟨_, _, results_of_ne operation len hparse hid, operation.movesCursors_error _⟩

theorem addsResult_afterBody (h : Handle) (operation : Operation) (len : ℕ) :
    AddsResult h (h.afterBody operation len) := by
  unfold afterBody
  split
  · exact .inl rfl
  · exact h.addsResult_fails operation _
  · exact h.addsResult_receiveReply operation len _

theorem addsResult_afterHeader (h : Handle) (operation : Operation) :
    AddsResult h (h.afterHeader operation) := by
  unfold afterHeader
  split
  · exact .inl rfl
  · exact h.addsResult_fails operation _
  · split
    · exact h.addsResult_fails operation _
    · exact addsResult_afterBody _ _ _

theorem addsResult_afterFlush (h : Handle) (operation : Operation) :
    AddsResult h (h.afterFlush operation) := by
  unfold afterFlush
  split
  · exact .inl rfl
  · exact h.addsResult_fails operation _
  · exact addsResult_afterHeader _ _

theorem addsResult_afterSend (h : Handle) (operation : Operation) :
    AddsResult h (h.afterSend operation) := by
  unfold afterSend
  split
  · exact .inl rfl
  · exact h.addsResult_fails operation _
  · exact addsResult_afterFlush _ _

theorem addsResult_next (h : Handle) (i : HandleInput) : AddsResult h (h.next i) := by
  cases i with
  | operate operation => exact addsResult_afterSend _ operation
  | channel input =>
    change AddsResult h (resume _)
    unfold resume
    split
    · exact .inl rfl
    · exact addsResult_afterSend _ _
    · exact addsResult_afterFlush _ _
    · exact addsResult_afterHeader _ _
    · exact addsResult_afterBody _ _ _

/-- In every run the cursors are where the results of the operations put them. -/
theorem movesCursors_of_mem (hreach : ReachableVia (fun _ _ => True) h) :
    ∀ entry ∈ h.results, entry.1.MovesCursors entry.2 := by
  let kept := fun h : Handle => ∀ entry ∈ h.results, entry.1.MovesCursors entry.2
  have hinit (h : Handle) (hinitial : h.IsInitial) : kept h := by
    intro entry hentry
    rw [hinitial.results] at hentry
    exact absurd hentry List.not_mem_nil
  apply Machine.ReachVia.invariant hreach hinit
  rintro h i _ hkept - ⟨-, rfl⟩
  obtain hsame | ⟨operation, result, hresults, hmoves⟩ := h.addsResult_next i
  · intro entry hentry
    rw [hsame] at hentry
    exact hkept entry hentry
  · intro entry hentry
    rw [hresults] at hentry
    obtain rfl | hold := List.mem_cons.mp hentry
    · exact hmoves
    · exact hkept entry hold

end Handle

end Flatline.Sftp
