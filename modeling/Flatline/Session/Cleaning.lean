import Flatline.Session.ClosedMarks
import Flatline.Session.FrontEnd
import Flatline.Session.Requests
import Flatline.Session.Views

/-!
# Cleaning up

`clean` closes the channels whose receiver is dropped and then cancels the forwards whose listener
is dropped, one after the other, and handles other messages while it waits for the replies. A
cancellation that the server refuses ends the call: what is left of the listeners, and the
stream-local forwards after the ones for TCP, is not asked for any more.

Source: `src/session/backend.rs` (`clean`, `channel_clean`, `forward_tcp_clean`,
`forward_local_clean`).
-/

namespace Flatline

open Triple

/-! ## What a call is for -/

/-- The flags of `Event::Clean`. -/
structure Selection where
  channel : Bool
  forwardTcp : Bool
  forwardLocal : Bool

/-- The request that cancels a forward. -/
def ForwardKey.cancel : ForwardKey → ClientMessage
  | .tcp addr => .globalRequest sshGlobalRequestTypeCancelTcpIpForward true
    [.one addr.host, .u32 addr.port.toUInt32]
  | .streamLocal path => .globalRequest cancelStreamLocalForward true [.one path]

namespace Forward

/-- The registered forwards. -/
def keys (forward : Forward) : List ForwardKey :=
  forward.tcp.map (fun entry => .tcp entry.1) ++
    forward.local'.map (fun entry => .streamLocal entry.1)

/-- The TCP forwards whose listener is dropped. -/
def droppedTcp (forward : Forward) : List ForwardKey :=
  (closedKeys forward.tcp).map .tcp

/-- The stream-local forwards whose listener is dropped. -/
def droppedLocal (forward : Forward) : List ForwardKey :=
  (closedKeys forward.local').map .streamLocal

end Forward

namespace Selection

def event (selection : Selection) : Event :=
  .clean selection.channel selection.forwardTcp selection.forwardLocal

/-- The channels a call is to close. -/
def channels (selection : Selection) (s : Backend) : List ChannelHandle :=
  if selection.channel then s.channels.filter (·.sender.closed) else []

/-- The forwards a call is to cancel. -/
def forwards (selection : Selection) (s : Backend) : List ForwardKey :=
  (if selection.forwardTcp then s.forward.droppedTcp else []) ++
    if selection.forwardLocal then s.forward.droppedLocal else []

end Selection

/-! ## The run of a call -/

/-- The forward whose cancellation a loop waits for. -/
def Wait.cancels : Wait → Option ForwardKey
  | .cancelTcpIpForward addr .. => some (.tcp addr)
  | .cancelStreamLocalForward path _ => some (.streamLocal path)
  | _ => none

/-- The forwards that a loop goes on to cancel afterwards. -/
def Wait.left (forward : Forward) : Wait → List ForwardKey
  | .cancelTcpIpForward _ rest forwardLocal =>
    rest.map .tcp ++ if forwardLocal then forward.droppedLocal else []
  | .cancelStreamLocalForward _ rest => rest.map .streamLocal
  | _ => []

/-- The loop in which the server refuses a cancellation. -/
def refusedIn (turn : Backend × Input) : Option Wait :=
  match turn.1.task, turn.2 with
  | .waiting wait, .packet payload _ =>
    match Message.parse payload with
    | .ok .requestFailure => some wait
    | _ => none
  | _, _ => none

/-- The forward whose cancellation the server refuses in a turn. -/
def refusal (turn : Backend × Input) : Option ForwardKey :=
  (refusedIn turn).bind Wait.cancels

/-- What the user is answered. -/
def Effect.answer : Effect → Option (Except Error Reply)
  | .answered result => some result
  | _ => none

/-- The answers of a history, newest first. -/
def answers (log : List Effect) : List (Except Error Reply) :=
  log.filterMap Effect.answer

/-- A call has returned, successfully or because the server has refused a cancellation. -/
def Returned (start : Backend) (turns : List (Backend × Input)) (s : Backend) : Prop :=
  (∃ reply, answers s.log = .ok reply :: answers start.log) ∨
    (answers s.log = .error (.session .requestFailure) :: answers start.log ∧
      ∃ turn ∈ turns, (refusal turn).isSome = true)

/-- An effect has been noted since `start`. -/
def Since (start s : Backend) (effect : Effect) : Prop :=
  ∃ effects, s.log = effects ++ start.log ∧ effect ∈ effects

/-- A call has done what it is for. -/
structure Cleans (start : Backend) (selection : Selection) (turns : List (Backend × Input))
    (s : Backend) : Prop where
  /-- Every selected channel has had its `SSH_MSG_CHANNEL_CLOSE`. -/
  closes : ∀ handle ∈ selection.channels start, .sent (.channelClose handle.id) ∈ s.log
  /-- Every selected forward has been asked for. -/
  asks : ∀ key ∈ selection.forwards start, Since start s (.sent key.cancel)
  /-- A selected forward that is still there has been refused. -/
  forgets : ∀ key ∈ selection.forwards start, key ∈ s.forward.keys →
    ∃ turn ∈ turns, refusal turn = some key

/-- The server refuses a cancellation while forwards are left that the call is to cancel. -/
def Abandons (start : Backend) (selection : Selection) (turn : Backend × Input) : Prop :=
  ∃ wait ∈ refusedIn turn, ∃ key ∈ wait.left turn.1.forward, key ∈ selection.forwards start

variable {selection : Selection} {start s t w : Backend} {turns : List (Backend × Input)}
  {wait : Wait} {key : ForwardKey}

/-! ## Histories -/

/-- The history of `s` goes on in `t`. -/
def LogGrows (s t : Backend) : Prop :=
  ∃ effects, t.log = effects ++ s.log

theorem LogGrows.refl (s : Backend) : LogGrows s s :=
  ⟨[], rfl⟩

theorem LogGrows.trans (h : LogGrows s t) (h' : LogGrows t w) : LogGrows s w := by
  obtain ⟨effects, hlog⟩ := h
  obtain ⟨effects', hlog'⟩ := h'
  exact ⟨effects' ++ effects, by rw [hlog', hlog, List.append_assoc]⟩

theorem LogGrows.mem (h : LogGrows s t) {effect : Effect} (hmem : effect ∈ s.log) :
    effect ∈ t.log := by
  obtain ⟨effects, hlog⟩ := h
  rw [hlog]
  exact List.mem_append_right _ hmem

theorem Grows.logGrows {p : Effect → Bool} {keys : List SocketAddr} (h : Grows p keys s t) :
    LogGrows s t := by
  obtain ⟨effects, hlog, -⟩ := h.log
  exact ⟨effects, hlog⟩

theorem Since.later {effect : Effect} (h : Since start s effect) (hgrows : LogGrows s t) :
    Since start t effect := by
  obtain ⟨effects, hlog, hmem⟩ := h
  obtain ⟨effects', hlog'⟩ := hgrows
  refine ⟨effects' ++ effects, ?_, List.mem_append_right _ hmem⟩
  rw [hlog', hlog, List.append_assoc]

theorem Since.earlier {effect : Effect} (h : Since s t effect) (hgrows : LogGrows start s) :
    Since start t effect := by
  obtain ⟨effects, hlog, hmem⟩ := h
  obtain ⟨effects', hlog'⟩ := hgrows
  refine ⟨effects ++ effects', ?_, List.mem_append_left _ hmem⟩
  rw [hlog, hlog', List.append_assoc]

/-- What is noted without an answer leaves the answers as they are. -/
theorem Grows.answers_eq {p : Effect → Bool} {keys : List SocketAddr} (h : Grows p keys s t)
    (hp : ∀ effect, p effect = true → effect.answer = none) : answers t.log = answers s.log := by
  obtain ⟨effects, hlog, heffects⟩ := h.log
  have hnone : effects.filterMap Effect.answer = [] :=
    List.filterMap_eq_nil_iff.mpr fun effect heffect => hp effect (heffects effect heffect)
  rw [hlog, answers, List.filterMap_append, hnone]
  rfl

theorem answer_of_isEvents {effect : Effect} (h : effect.isEvents = true) :
    effect.answer = none := by
  cases effect <;> first | rfl | cases h

theorem answer_of_isHandlers {effect : Effect} (h : effect.isHandlers = true) :
    effect.answer = none := by
  cases effect <;> first | rfl | cases h

theorem answer_of_isEnds {effect : Effect} (h : effect.isEnds = true) : effect.answer = none := by
  cases effect <;> first | rfl | cases h

theorem answers_endEvent (env : Env) (w : Backend) (result : Except Error Reply) :
    answers (w.endEvent env result).log = result :: answers w.log := by
  have hgrows : Grows Effect.isEnds [] _ (w.endEvent env result) := grows_endEvent env w result
  exact hgrows.answers_eq fun _ => answer_of_isEnds

theorem logGrows_endEvent (env : Env) (w : Backend) (result : Except Error Reply) :
    LogGrows w (w.endEvent env result) := by
  have hgrows : Grows Effect.isSettles [] w (w.endEvent env result) :=
    grows_settles_endEvent env w result
  exact hgrows.logGrows

/-- What a message that goes out leaves behind. -/
theorem afterSend_of_ok {env : Env} {message : ClientMessage} {a : Unit}
    (h : sendPayload env message s = .ok a w) : w = s.afterSend message := by
  unfold sendPayload at h
  split at h
  · cases h
  · split at h
    · cases h
    · injection h with _ h
      exact h.symm

/-! ## Closing channels -/

/-- The loops of a call that cancels what is selected. -/
def Selection.serves (selection : Selection) : Wait → Prop
  | .cancelTcpIpForward _ _ forwardLocal =>
    selection.forwardTcp = true ∧ forwardLocal = selection.forwardLocal
  | .cancelStreamLocalForward .. => selection.forwardLocal = true
  | _ => False

/-- From `s`, a call has gone on with `todo`: either nothing is left, or one of these forwards has
been asked for and the others are left to the loop that waits. -/
structure Ahead (selection : Selection) (todo : List ForwardKey) (s : Backend)
    (progress : Progress) (w : Backend) : Prop where
  grows : LogGrows s w
  silent : answers w.log = answers s.log
  forward : w.forward = s.forward
  asked : ∀ wait, progress = .wait wait →
    ∃ key, wait.cancels = some key ∧ Since s w (.sent key.cancel)
  serves : ∀ wait, progress = .wait wait → selection.serves wait
  todo : ∀ key ∈ todo, ∃ wait, progress = .wait wait ∧
    (wait.cancels = some key ∨ key ∈ wait.left w.forward)

/-- Nothing is left. -/
theorem ahead_done (reply : Reply) :
    Holds (· = s) (pure (.done reply) : BackendM Progress) (Ahead selection [] s)
      (fun _ _ => True) :=
  Holds.pure fun w hw => ⟨hw ▸ .refl s, by rw [hw], by rw [hw], nofun, nofun, nofun⟩

/-- Ask for a forward and leave the others to the loop. -/
theorem ahead_sendAndWait (env : Env) (key : ForwardKey) {todo : List ForwardKey}
    (hcancels : wait.cancels = some key) (hserves : selection.serves wait)
    (htodo : ∀ other ∈ todo, other = key ∨ other ∈ wait.left s.forward) :
    Holds (· = s) (do
      sendPayload env key.cancel
      return .wait wait) (Ahead selection todo s) (fun _ _ => True) := by
  refine Holds.bind (Q := fun _ w => w = s.afterSend key.cancel) ?_ fun _ => Holds.pure ?_
  · rintro w rfl
    cases hsend : sendPayload env key.cancel w with
    | ok a w' => exact afterSend_of_ok hsend
    | error fault w' => trivial
  · rintro w rfl
    refine ⟨⟨[_], rfl⟩, rfl, rfl, ?_, ?_, fun other hother => ⟨wait, rfl, ?_⟩⟩
    · rintro _ ⟨⟩
      exact ⟨key, hcancels, [_], rfl, List.mem_cons_self⟩
    · rintro _ ⟨⟩
      exact hserves
    · rcases htodo other hother with rfl | hleft
      · exact .inl hcancels
      · exact .inr hleft

theorem ahead_forwardLocalCleanLoop (env : Env) (hlocal : selection.forwardLocal = true)
    (paths : List Text) :
    Holds (· = s) (forwardLocalCleanLoop env paths)
      (Ahead selection (paths.map .streamLocal) s) (fun _ _ => True) := by
  cases paths with
  | nil => exact ahead_done .done
  | cons path rest =>
    refine ahead_sendAndWait env (.streamLocal path) rfl hlocal fun other hother => ?_
    exact List.mem_cons.mp hother

/-- The order of a map's keys changes nothing about what they are. -/
theorem mem_iterate_iff {κ : Type} {env : Env} {keys : List κ} {key : κ} :
    key ∈ env.iterate keys ↔ key ∈ keys := by
  refine ⟨mem_iterate, fun h => ?_⟩
  unfold Env.iterate
  rw [List.getD_eq_getElem?_getD]
  cases hget : keys.permutations[env.order]? with
  | none => exact h
  | some order =>
    exact (List.mem_permutations.mp (List.mem_of_getElem? hget)).mem_iff.mpr h

theorem Ahead.mono {todo todo' : List ForwardKey} {progress : Progress}
    (h : Ahead selection todo s progress w) (hsub : todo' ⊆ todo) :
    Ahead selection todo' s progress w :=
  ⟨h.grows, h.silent, h.forward, h.asked, h.serves, fun key hkey => h.todo key (hsub hkey)⟩

theorem ahead_forwardLocalClean (env : Env) :
    Holds (· = s) (forwardLocalClean env selection.forwardLocal)
      (Ahead selection (if selection.forwardLocal then s.forward.droppedLocal else []) s)
      (fun _ _ => True) := by
  unfold forwardLocalClean
  by_cases hlocal : selection.forwardLocal = true
  · rw [if_pos hlocal, if_pos hlocal]
    rintro w rfl
    rw [get_bind]
    refine (ahead_forwardLocalCleanLoop env hlocal _).post (fun progress w' h => h.mono ?_) w rfl
    exact List.map_subset _ fun path hpath => mem_iterate_iff.mpr hpath
  · rw [if_neg hlocal, if_neg hlocal]
    exact ahead_done .done

theorem ahead_forwardTcpCleanLoop (env : Env) (htcp : selection.forwardTcp = true)
    (addrs : List SocketAddr) :
    Holds (· = s) (forwardTcpCleanLoop env selection.forwardLocal addrs)
      (Ahead selection (addrs.map .tcp ++
        if selection.forwardLocal then s.forward.droppedLocal else []) s)
      (fun _ _ => True) := by
  cases addrs with
  | nil => exact ahead_forwardLocalClean env
  | cons addr rest =>
    refine ahead_sendAndWait env (.tcp addr) rfl ⟨htcp, rfl⟩ fun other hother => ?_
    exact List.mem_cons.mp hother

/-- A call has come to `s` with `todo` left: the channels are closed, and a selected forward that is
not left has been asked for and is gone. -/
structure Owes (start : Backend) (selection : Selection) (todo : List ForwardKey) (s : Backend) :
    Prop where
  grows : LogGrows start s
  silent : answers s.log = answers start.log
  closes : ∀ handle ∈ selection.channels start, .sent (.channelClose handle.id) ∈ s.log
  forwards : ∀ key ∈ selection.forwards start,
    key ∈ todo ∨ (Since start s (.sent key.cancel) ∧ key ∉ s.forward.keys)

/-- A call waits in `s` for the reply to a cancellation it has asked for. -/
structure Midway (start : Backend) (selection : Selection) (wait : Wait) (s : Backend) : Prop where
  serves : selection.serves wait
  asked : ∀ key, wait.cancels = some key → Since start s (.sent key.cancel)
  owes : ∃ key, wait.cancels = some key ∧
    Owes start selection (key :: wait.left s.forward) s

/-- More has been noted, no forward has come, and no less is left. -/
theorem Owes.mono {todo todo' : List ForwardKey} (h : Owes start selection todo s)
    (hgrows : LogGrows s t) (hanswers : answers t.log = answers s.log)
    (hkeys : t.forward.keys ⊆ s.forward.keys) (htodo : todo ⊆ todo') :
    Owes start selection todo' t where
  grows := h.grows.trans hgrows
  silent := hanswers.trans h.silent
  closes handle hhandle := hgrows.mem (h.closes handle hhandle)
  forwards key hkey := by
    rcases h.forwards key hkey with hleft | ⟨hasked, hgone⟩
    · exact .inl (htodo hleft)
    · exact .inr ⟨hasked.later hgrows, fun hmem => hgone (hkeys hmem)⟩

theorem Midway.mono (h : Midway start selection wait s) (hgrows : LogGrows s t)
    (hanswers : answers t.log = answers s.log) (hkeys : t.forward.keys ⊆ s.forward.keys)
    (hleft : wait.left s.forward ⊆ wait.left t.forward) : Midway start selection wait t := by
  obtain ⟨key, hcancels, howes⟩ := h.owes
  refine ⟨h.serves, fun other hother => (h.asked other hother).later hgrows, key, hcancels, ?_⟩
  exact howes.mono hgrows hanswers hkeys (List.cons_subset_cons key hleft)

/-- A call that goes on with what it owes waits for the next forward. -/
theorem Owes.midway {todo : List ForwardKey} (h : Owes start selection todo s)
    (hahead : Ahead selection todo s (.wait wait) w) : Midway start selection wait w := by
  obtain ⟨key, hcancels, hasked⟩ := hahead.asked wait rfl
  have hsame : w.forward.keys ⊆ s.forward.keys := by
    rw [hahead.forward]
    exact List.Subset.refl _
  refine ⟨hahead.serves wait rfl, fun other hother => ?_, key, hcancels, ?_⟩
  · rw [hcancels] at hother
    injection hother with hother
    exact hother ▸ hasked.earlier h.grows
  · refine h.mono hahead.grows hahead.silent hsame fun other hother => ?_
    obtain ⟨_, ⟨⟩, hcurrent | hleft⟩ := hahead.todo other hother
    · rw [hcancels] at hcurrent
      injection hcurrent with hcurrent
      exact hcurrent ▸ List.mem_cons_self
    · exact List.mem_cons_of_mem _ hleft

/-- A call that has nothing to go on with owes nothing. -/
theorem Owes.nothing {todo : List ForwardKey} {reply : Reply} (h : Owes start selection todo s)
    (hahead : Ahead selection todo s (.done reply) w) : Owes start selection [] w := by
  have hsame : w.forward.keys ⊆ s.forward.keys := by
    rw [hahead.forward]
    exact List.Subset.refl _
  refine h.mono hahead.grows hahead.silent hsame fun other hother => ?_
  obtain ⟨_, ⟨⟩, -⟩ := hahead.todo other hother

/-- A call that owes nothing has done what it is for. -/
theorem Owes.cleans (h : Owes start selection [] s) (hgrows : LogGrows s t)
    (hkeys : t.forward.keys ⊆ s.forward.keys) : Cleans start selection turns t := by
  have hforwards : ∀ key ∈ selection.forwards start,
      Since start s (.sent key.cancel) ∧ key ∉ s.forward.keys := fun key hkey =>
    (h.forwards key hkey).resolve_left List.not_mem_nil
  refine ⟨fun handle hhandle => hgrows.mem (h.closes handle hhandle), fun key hkey => ?_,
    fun key hkey hmem => absurd (hkeys hmem) (hforwards key hkey).2⟩
  exact (hforwards key hkey).1.later hgrows

/-- A call that is refused has done what it is for if nothing is left. -/
theorem Midway.cleans {i : Input} (h : Midway start selection wait s) (hgrows : LogGrows s t)
    (hkeys : t.forward.keys ⊆ s.forward.keys) (hrefused : refusedIn (s, i) = some wait)
    (hfinal : ¬Abandons start selection (s, i)) (hmem : (s, i) ∈ turns) :
    Cleans start selection turns t := by
  obtain ⟨current, hcancels, howes⟩ := h.owes
  have hforwards : ∀ key ∈ selection.forwards start,
      key = current ∨ (Since start s (.sent key.cancel) ∧ key ∉ s.forward.keys) := by
    intro key hkey
    refine (howes.forwards key hkey).imp_left fun hleft => ?_
    refine (List.mem_cons.mp hleft).resolve_right fun hleft => hfinal ?_
    exact ⟨wait, hrefused, key, hleft, hkey⟩
  refine ⟨fun handle hhandle => hgrows.mem (howes.closes handle hhandle), fun key hkey => ?_,
    fun key hkey hregistered => ?_⟩
  · rcases hforwards key hkey with rfl | ⟨hasked, -⟩
    · exact (h.asked key hcancels).later hgrows
    · exact hasked.later hgrows
  · rcases hforwards key hkey with rfl | ⟨-, hgone⟩
    · exact ⟨(s, i), hmem, by rw [refusal, hrefused]; exact hcancels⟩
    · exact absurd (hkeys hregistered) hgone

/-! ## Packets that a call acts on -/

/-- The backend without the forward whose cancellation has succeeded. -/
def Wait.forget (s : Backend) : Wait → Backend
  | .cancelTcpIpForward addr .. => { s with forward.tcp := removeKey s.forward.tcp addr }
  | .cancelStreamLocalForward path _ => { s with forward.local' := removeKey s.forward.local' path }
  | _ => s

/-- What a loop goes on with then. -/
def Wait.proceed (env : Env) : Wait → BackendM Progress
  | .cancelTcpIpForward addr rest forwardLocal => do
    removeTcp addr
    forwardTcpCleanLoop env forwardLocal rest
  | .cancelStreamLocalForward path rest => do
    removeLocal path
    forwardLocalCleanLoop env rest
  | wait => return .wait wait

/-- What a loop of a call makes of a packet that it does not hand on. -/
inductive CancelReaction (env : Env) (wait : Wait) (payload : Bytes) : BackendM Progress → Prop
  | succeeded (hparse : Message.parse payload = .ok .requestSuccess) :
    CancelReaction env wait payload (wait.proceed env)
  | refused (hparse : Message.parse payload = .ok .requestFailure) :
    CancelReaction env wait payload (throw (.error (.session .requestFailure)))
  | malformed {e : Error} (hparse : Message.parse payload = .error e) :
    CancelReaction env wait payload (throw (.error e))

theorem cancelReaction {env : Env} {payload : Bytes} {m : BackendM Progress}
    (hserves : selection.serves wait) (h : wait.react env payload = some m) :
    CancelReaction env wait payload m := by
  cases reaction h with
  | malformed hparse => exact .malformed hparse
  | forwarded | refused => exact hserves.elim
  | @answered _ msg _ hparse hanswer =>
    have hanswered {success : BackendM Progress} (hsuccess : success = wait.proceed env)
        (h : answerGlobalRequest success msg = some m) : CancelReaction env wait payload m := by
      simp only [answerGlobalRequest] at h
      split at h
      · obtain rfl := Option.some.inj h
        exact hsuccess ▸ .succeeded hparse
      · obtain rfl := Option.some.inj h
        exact .refused hparse
      · cases h
    cases wait with
    | cancelTcpIpForward addr rest forwardLocal => exact hanswered rfl hanswer
    | cancelStreamLocalForward path rest => exact hanswered rfl hanswer
    | _ => exact hserves.elim

/-- A message that a loop of a call hands on is no refusal. -/
theorem refusedIn_of_handles {env : Env} {payload : Bytes} {msg : Message}
    (hserves : selection.serves wait) (htask : s.task = .waiting wait)
    (h : s.handles env payload = some msg) : refusedIn (s, .packet payload env) = none := by
  have hparse := parse_of_handles h
  unfold Backend.handles at h
  rw [htask] at h
  simp only at h
  split at h
  · cases h
  · next hreact =>
    simp only [refusedIn, htask, hparse]
    cases msg with
    | requestFailure =>
      refine absurd ?_ hreact
      cases wait with
      | cancelTcpIpForward addr rest forwardLocal =>
        simp [Wait.react, hparse, Wait.answer, answerGlobalRequest]
      | cancelStreamLocalForward path rest =>
        simp [Wait.react, hparse, Wait.answer, answerGlobalRequest]
      | _ => exact hserves.elim
    | _ => rfl

theorem keys_forget (s : Backend) (wait : Wait) :
    (wait.forget s).forward.keys ⊆ s.forward.keys ∧
      ∀ key, wait.cancels = some key → key ∉ (wait.forget s).forward.keys := by
  have hsub {κ : Type} [DecidableEq κ] (map : List (κ × ListenerHandle)) (k : κ) :
      removeKey map k ⊆ map := fun entry hentry => List.mem_of_mem_filter hentry
  cases wait with
  | cancelTcpIpForward addr rest forwardLocal =>
    refine ⟨?_, ?_⟩
    · refine List.append_subset.mpr ⟨List.subset_append_of_subset_left _ ?_,
        List.subset_append_right _ _⟩
      exact List.map_subset _ (hsub _ _)
    · rintro _ ⟨⟩ hmem
      simp [Wait.forget, Forward.keys, removeKey] at hmem
  | cancelStreamLocalForward path rest =>
    refine ⟨?_, ?_⟩
    · refine List.append_subset.mpr ⟨List.subset_append_left _ _,
        List.subset_append_of_subset_right _ ?_⟩
      exact List.map_subset _ (hsub _ _)
    · rintro _ ⟨⟩ hmem
      simp [Wait.forget, Forward.keys, removeKey] at hmem
  | _ => exact ⟨List.Subset.refl _, nofun⟩

theorem ahead_proceed (env : Env) (hserves : selection.serves wait) :
    Holds (· = s) (wait.proceed env) (Ahead selection (wait.left s.forward) (wait.forget s))
      (fun _ _ => True) := by
  rintro w rfl
  cases wait with
  | cancelTcpIpForward addr rest forwardLocal =>
    obtain ⟨htcp, rfl⟩ := hserves
    exact ahead_forwardTcpCleanLoop env htcp rest
      ((Wait.cancelTcpIpForward addr rest selection.forwardLocal).forget w) rfl
  | cancelStreamLocalForward path rest =>
    exact ahead_forwardLocalCleanLoop env hserves rest
      ((Wait.cancelStreamLocalForward path rest).forget w) rfl
  | _ => exact hserves.elim

/-- The cancellation a call waits for has succeeded. -/
theorem Midway.succeeded (h : Midway start selection wait s) (payload : Bytes) :
    Owes start selection (wait.left s.forward) (wait.forget (s.afterRecv payload)) := by
  obtain ⟨key, hcancels, howes⟩ := h.owes
  obtain ⟨hsub, hgone⟩ := keys_forget (s.afterRecv payload) wait
  have hlog : (wait.forget (s.afterRecv payload)).log = .received payload :: s.log := by
    cases wait <;> rfl
  have hgrows : LogGrows s (wait.forget (s.afterRecv payload)) := ⟨[_], hlog⟩
  have hmono := howes.mono hgrows (by rw [hlog]; rfl) hsub (List.Subset.refl _)
  refine ⟨hmono.grows, hmono.silent, hmono.closes, fun other hother => ?_⟩
  rcases hmono.forwards other hother with hleft | hdone
  · rcases List.mem_cons.mp hleft with rfl | hleft
    · exact .inr ⟨(h.asked other hcancels).later hgrows, hgone other hcancels⟩
    · exact .inl hleft
  · exact .inr hdone

/-! ## Categories that are not selected -/

/-- The forwards are out of reach of every handler. -/
theorem unhandled_forward : Unhandled fun s : Backend => s.forward where
  sent _ _ := rfl
  attempted _ := rfl
  noted _ _ := rfl
  placed _ _ _ _ := rfl
  channels _ _ _ _ := rfl
  announced _ _ _ := rfl

theorem Unhandled.map {α β : Type} {view : Backend → α} (hview : Unhandled view) (f : α → β) :
    Unhandled fun s => f (view s) where
  sent w message := congrArg f (hview.sent w message)
  attempted w := congrArg f (hview.attempted w)
  noted w effect := congrArg f (hview.noted w effect)
  placed w _ _ _ := congrArg f (hview.placed w _ _ _)
  channels w _ _ _ := congrArg f (hview.channels w _ _ _)
  announced w _ _ := congrArg f (hview.announced w _ _)

variable {γ : Type} {view : Backend → γ}

theorem not_returned (h : answers s.log = answers start.log) : ¬Returned start turns s := by
  rintro (⟨reply, hreturned⟩ | ⟨hreturned, -⟩) <;>
    exact List.cons_ne_self _ _ (hreturned.symm.trans h)

/-- What holds of a call: as long as it waits nothing has been refused, and when it returns it has
done what it is for. -/
structure Proceeds (start : Backend) (selection : Selection) (turns : List (Backend × Input))
    (s : Backend) : Prop where
  midway : ∀ wait, s.task = .waiting wait →
    Midway start selection wait s ∧ ∀ turn ∈ turns, refusal turn = none
  cleans : Returned start turns s → Cleans start selection turns s

/-- A call that still waits. -/
theorem proceeds_of_midway (h : Midway start selection wait s) (htask : s.task = .waiting wait)
    (hunrefused : ∀ turn ∈ turns, refusal turn = none) : Proceeds start selection turns s := by
  refine ⟨fun wait' htask' => ?_, fun hreturned => ?_⟩
  · rw [htask] at htask'
    injection htask' with hwait
    exact hwait ▸ ⟨h, hunrefused⟩
  · obtain ⟨key, -, howes⟩ := h.owes
    exact absurd hreturned (not_returned howes.silent)

/-- A call that fails without having been refused. -/
theorem proceeds_of_failure {env : Env} {e : Error}
    (hunrefused : ∀ turn ∈ turns, refusal turn = none) :
    Proceeds start selection turns (s.endEvent env (.error e)) := by
  refine ⟨fun wait htask => ?_, ?_⟩
  · have hnot := endEvent_not_waiting env s (.error e)
    rw [htask] at hnot
    cases hnot
  · rintro (⟨reply, hreturned⟩ | ⟨-, turn, hturn, hrefused⟩)
    · rw [answers_endEvent] at hreturned
      injection hreturned with hreturned
      cases hreturned
    · rw [hunrefused turn hturn] at hrefused
      cases hrefused

theorem proceeds_of_exit {result : Except Fault Unit}
    (hsilent : answers s.log = answers start.log) : Proceeds start selection turns (s.exit result) :=
  ⟨fun _ htask => (by cases htask), fun hreturned => absurd hreturned (not_returned hsilent)⟩

/-- A turn that ends an event. -/
theorem proceeds_settleEvent {env : Env} {r : EStateM.Result Fault Backend Progress}
    (hunrefused : ∀ turn ∈ turns, refusal turn = none)
    (hdone : ∀ reply w, r = .ok (.done reply) w → Owes start selection [] w)
    (hwait : ∀ wait w, r = .ok (.wait wait) w → Midway start selection wait w)
    (herror : ∀ fault w, r = .error fault w → answers w.log = answers start.log) :
    Proceeds start selection turns (Backend.settleEvent env r) := by
  rcases r with ⟨reply | wait, w⟩ | ⟨fault, w⟩
  · refine ⟨fun wait htask => ?_, fun _ => ?_⟩
    · have hnot := endEvent_not_waiting env w (.ok reply)
      rw [show (w.endEvent env (.ok reply)).task = .waiting wait from htask] at hnot
      cases hnot
    · have hforward : (w.endEvent env (.ok reply)).forward = w.forward :=
        unhandled_forward.endEvent env w _
      refine (hdone reply w rfl).cleans (logGrows_endEvent env w _) ?_
      change (w.endEvent env (.ok reply)).forward.keys ⊆ _
      rw [hforward]
      exact List.Subset.refl _
  · have hmidway : Midway start selection wait { w with task := .waiting wait } :=
      (hwait wait w rfl).mono (.refl w) rfl (List.Subset.refl _) (List.Subset.refl _)
    exact proceeds_of_midway hmidway rfl hunrefused
  · have hsilent := herror fault w rfl
    cases fault with
    | error e => exact proceeds_of_failure hunrefused
    | panicked | stuck => exact proceeds_of_exit hsilent

/-- A turn that has run `handle_msg`. -/
theorem proceeds_settleHandled {env : Env} {r : EStateM.Result Fault Backend (Option Bytes)}
    (hunrefused : ∀ turn ∈ turns, refusal turn = none)
    (hmidway : Midway start selection wait (stateOf r)) :
    Proceeds start selection turns (Backend.settleHandled env (.waiting wait) r) := by
  have hsame : Backend.settleHandled env (.waiting wait) r = Backend.settleEvent env
      (match r with
        | .ok _ w => .ok (.wait wait) w
        | .error fault w => .error fault w) := by
    cases r <;> rfl
  obtain ⟨key, -, howes⟩ := hmidway.owes
  rw [hsame]
  refine proceeds_settleEvent hunrefused ?_ ?_ ?_ <;> rcases r with ⟨data, w'⟩ | ⟨fault', w'⟩
  · rintro reply w ⟨⟩
  · rintro reply w ⟨⟩
  · rintro wait' w ⟨⟩
    exact hmidway
  · rintro wait' w ⟨⟩
  · rintro fault w ⟨⟩
  · rintro fault w ⟨⟩
    exact howes.silent

/-- A packet. -/
theorem Midway.next_packet {payload : Bytes} {env : Env} (h : Midway start selection wait s)
    (htask : s.task = .waiting wait) (hunrefused : ∀ turn ∈ turns, refusal turn = none)
    (hfinal : ¬Abandons start selection (s, .packet payload env)) :
    Proceeds start selection ((s, .packet payload env) :: turns)
      (s.next (.packet payload env)) := by
  have hgrows : LogGrows s (s.afterRecv payload) := ⟨[_], rfl⟩
  have harrived : Midway start selection wait (s.afterRecv payload) :=
    h.mono hgrows rfl (List.Subset.refl _) (List.Subset.refl _)
  have hall (hturn : refusal (s, .packet payload env) = none) :
      ∀ turn ∈ (s, .packet payload env) :: turns, refusal turn = none := by
    intro turn hmem
    rcases List.mem_cons.mp hmem with rfl | hmem
    · exact hturn
    · exact hunrefused turn hmem
  have hparsed (hparse : Message.parse payload ≠ .ok .requestFailure) :
      refusal (s, .packet payload env) = none := by
    have hnone : refusedIn (s, .packet payload env) = none := by
      simp only [refusedIn, htask]
    rw [refusal, hnone]
    rfl
  obtain ⟨key, hcancels, howes⟩ := h.owes
  have hturn := packetTurn s payload env
  generalize s.next (.packet payload env) = t at hturn ⊢
  cases hturn with
  | @handled msg hhandles =>
    rw [htask]
    refine proceeds_settleHandled (hall ?_) ?_
    · rw [refusal, refusedIn_of_handles h.serves htask hhandles]
      rfl
    · have hhandled : Grows Effect.isHandlers [] (s.afterRecv payload)
          (stateOf (handleMsg env msg false (s.afterRecv payload))) := grows_handleMsg env msg _ _
      have hforward : (stateOf (handleMsg env msg false (s.afterRecv payload))).forward =
          (s.afterRecv payload).forward := (unhandled_forward.handleMsg env msg false).stateOf _
      change Midway start selection wait (stateOf (handleMsg env msg false (s.afterRecv payload)))
      refine harrived.mono hhandled.logGrows
        (hhandled.answers_eq fun _ => answer_of_isHandlers) ?_ ?_ <;> rw [hforward] <;>
        exact List.Subset.refl _
  | @reacted wait' m htask' hreact hpayload =>
    obtain rfl : wait = wait' := by
      rw [htask] at htask'
      injection htask'
    have hsilent : ∀ fault w, m (s.afterRecv payload) = .error fault w →
        answers w.log = answers start.log := by
      intro fault w hrun
      have hemits := (emits_react hreact).of_error hrun
      exact (hemits.toGrows.answers_eq fun _ => answer_of_isEvents).trans howes.silent
    cases cancelReaction h.serves hreact with
    | succeeded hparse =>
      have hturn := hall (hparsed (by rw [hparse]; nofun))
      have hsucceeded := h.succeeded payload
      have hahead := ahead_proceed (s := s.afterRecv payload) env h.serves
      refine proceeds_settleEvent hturn ?_ ?_ hsilent
      · exact fun reply w hrun => hsucceeded.nothing (hahead.of_ok rfl hrun)
      · exact fun wait w hrun => hsucceeded.midway (hahead.of_ok rfl hrun)
    | malformed hparse =>
      refine proceeds_settleEvent (hall (hparsed (by rw [hparse]; nofun))) ?_ ?_ hsilent
      · rintro reply w ⟨⟩
      · rintro wait w ⟨⟩
    | refused hparse =>
      -- the call returns here, and what it was to cancel is done but for this forward
      have hend : Backend.settleEvent env
          ((throw (.error (.session .requestFailure)) : BackendM Progress)
            (s.afterRecv payload)) =
          (s.afterRecv payload).endEvent env (.error (.session .requestFailure)) := rfl
      have hforward : ((s.afterRecv payload).endEvent env
          (.error (.session .requestFailure))).forward = s.forward :=
        unhandled_forward.endEvent env (s.afterRecv payload) _
      rw [hend]
      refine ⟨fun wait' htask' => ?_, fun _ => ?_⟩
      · have hnot := endEvent_not_waiting env (s.afterRecv payload)
          (.error (.session .requestFailure))
        rw [htask'] at hnot
        cases hnot
      · refine h.cleans (i := .packet payload env)
          (hgrows.trans (logGrows_endEvent env _ _)) ?_ ?_ hfinal List.mem_cons_self
        · rw [hforward]
          exact List.Subset.refl _
        · simp only [refusedIn, htask, hparse]
  | exchanged htask' => cases htask.symm.trans htask'
  | refused hrunning hparse =>
    rw [htask]
    exact proceeds_settleHandled (hall (hparsed (hparse _))) harrived
  | exited htask' => cases htask.symm.trans htask'

/-- A listener that is dropped in the meantime stays registered. -/
theorem keys_dropListener {κ : Type} (queue : ℕ) (map : List (κ × ListenerHandle))
    (f : κ → ForwardKey) :
    (Backend.dropListener queue map).map (fun entry => f entry.1) =
      map.map fun entry => f entry.1 := by
  simp [Backend.dropListener, Function.comp_def]

theorem closedKeys_dropListener {κ : Type} (queue : ℕ) (map : List (κ × ListenerHandle)) :
    closedKeys map ⊆ closedKeys (Backend.dropListener queue map) := by
  intro key hkey
  obtain ⟨⟨_, listener⟩, hmem, rfl⟩ := List.mem_map.mp hkey
  obtain ⟨hmem, hclosed⟩ := List.mem_filter.mp hmem
  refine List.mem_map.mpr ⟨_, List.mem_filter.mpr ⟨List.mem_map.mpr ⟨_, hmem, rfl⟩, ?_⟩, rfl⟩
  simp only
  split
  · rfl
  · exact hclosed

/-- Dropping listeners takes no forward away, and leaves no less to cancel. -/
theorem Midway.dropped {i : Input} (h : Midway start selection wait s)
    (hi : (∃ queue, i = .tcpListenerDropped queue) ∨ ∃ queue, i = .localListenerDropped queue) :
    Midway start selection wait (s.next i) := by
  rcases hi with ⟨queue, rfl⟩ | ⟨queue, rfl⟩
  · refine h.mono (.refl s) rfl ?_ ?_
    · refine List.append_subset.mpr ⟨List.subset_append_of_subset_left _ ?_,
        List.subset_append_right _ _⟩
      exact fun key hkey => keys_dropListener queue s.forward.tcp .tcp ▸ hkey
    · cases wait <;> exact List.Subset.refl _
  · refine h.mono (.refl s) rfl ?_ ?_
    · refine List.append_subset.mpr ⟨List.subset_append_left _ _,
        List.subset_append_of_subset_right _ ?_⟩
      exact fun key hkey => keys_dropListener queue s.forward.local' .streamLocal ▸ hkey
    · cases wait with
      | cancelTcpIpForward addr rest forwardLocal =>
        refine List.append_subset.mpr ⟨List.subset_append_left _ _,
          List.subset_append_of_subset_right _ ?_⟩
        cases forwardLocal with
        | true => exact List.map_subset _ (closedKeys_dropListener queue s.forward.local')
        | false => exact List.Subset.refl _
      | _ => exact List.Subset.refl _

/-- One more turn of a call that waits. -/
theorem Midway.next {i : Input} (h : Midway start selection wait s)
    (htask : s.task = .waiting wait) (hunrefused : ∀ turn ∈ turns, refusal turn = none)
    (hpossible : i.possible s = true) (hfinal : ¬Abandons start selection (s, i)) :
    Proceeds start selection ((s, i) :: turns) (s.next i) := by
  have hall (hturn : refusal (s, i) = none) :
      ∀ turn ∈ (s, i) :: turns, refusal turn = none := by
    intro turn hmem
    rcases List.mem_cons.mp hmem with rfl | hmem
    · exact hturn
    · exact hunrefused turn hmem
  have hturn (h : ∀ payload env, i ≠ .packet payload env) : refusal (s, i) = none := by
    cases i with
    | packet payload env => exact absurd rfl (h payload env)
    | _ => simp only [refusal, refusedIn, htask, Option.bind_none]
  cases i with
  | packet payload env => exact h.next_packet htask hunrefused hfinal
  | receiveFailed error env =>
    have hnext : s.next (.receiveFailed error env) = s.endEvent env (.error error) := by
      change s.onReceiveFailed error env = _
      unfold Backend.onReceiveFailed
      rw [htask]
    rw [hnext]
    exact proceeds_of_failure (hall (hturn nofun))
  | event event env => simp [Input.possible, htask, Task.isIdle] at hpossible
  | shutdown => simp [Input.possible, htask, Task.isIdle] at hpossible
  | frontendDropped | receiverDropped =>
    refine proceeds_of_midway (h.mono (.refl s) rfl ?_ ?_) htask (hall (hturn nofun)) <;>
      exact List.Subset.refl _
  | tcpListenerDropped addr =>
    exact proceeds_of_midway (h.dropped (.inl ⟨addr, rfl⟩)) htask (hall (hturn nofun))
  | localListenerDropped path =>
    exact proceeds_of_midway (h.dropped (.inr ⟨path, rfl⟩)) htask (hall (hturn nofun))

instance (start : Backend) (selection : Selection) (turn : Backend × Input) :
    Decidable (Abandons start selection turn) :=
  inferInstanceAs (Decidable (∃ wait ∈ refusedIn turn, ∃ key ∈ wait.left turn.1.forward,
    key ∈ selection.forwards start))

/-! ## Calls from the front end -/

/-- The request for a forward has been sent. -/
def Effect.cancels (key : ForwardKey) : Effect → Bool
  | .sent message => message = key.cancel
  | _ => false

end Flatline
