import Flatline.Session.Frames
import Flatline.Session.Logins

/-!
# When the client counts as authenticated

A request for authentication is open until the server answers it. `openLogin` and `confirmed` read
off a history which request is open and whether one has been granted; in a run that nothing disturbs
while a request is open, the flag of the socket says just that (`authenticated_eq_confirmed`).

Source: `src/session/backend.rs`.
-/

namespace Flatline

open Triple

/-! ## Histories -/

/-- The messages of the server that answer a message of the user authentication. The number 60 has a
meaning of its own for each method. -/
def ClientMessage.verdicts : ClientMessage → List UInt8
  | .userauthRequest _ method fields =>
    if method = ascii "password" ∨ method = ascii "keyboard-interactive" ∨
        method = ascii "publickey" ∧ fields.head? = some (.u8 0) then
      [sshMsgUserauthFailure, sshMsgUserauthSuccess, 60]
    else [sshMsgUserauthFailure, sshMsgUserauthSuccess]
  | .userauthInfoResponse .. => [sshMsgUserauthFailure, sshMsgUserauthSuccess, 60]
  | _ => []

/-- The message of the user authentication that the server still has to answer. -/
def openLogin : List Effect → Option ClientMessage
  | [] => none
  | .received payload :: log =>
    (openLogin log).filter fun message => !(message.verdicts.any fun code =>
      payload.head? = some code)
  | .sent message :: log => if message.isLogin then some message else openLogin log
  | _ :: log => openLogin log

/-- A payload is an `SSH_MSG_USERAUTH_SUCCESS`. -/
def isSuccess (payload : Bytes) : Bool :=
  match Message.parse payload with
  | .ok .authenticationSuccess => true
  | _ => false

/-- The server has granted a request that was open. -/
def confirmed : List Effect → Bool
  | [] => false
  | .received payload :: log => confirmed log || (isSuccess payload && (openLogin log).isSome)
  | _ :: log => confirmed log

variable {effects log : List Effect} {message : ClientMessage}

theorem openLogin_append (hmade : ∀ effect ∈ effects, effect.isMade = true)
    (hlogins : logins effects = []) : openLogin (effects ++ log) = openLogin log := by
  induction effects with
  | nil => rfl
  | cons effect effects ih =>
    have hhead := hmade effect List.mem_cons_self
    have hnone := List.filterMap_eq_nil_iff.mp hlogins effect List.mem_cons_self
    have htail := ih (fun e he => hmade e (List.mem_cons_of_mem _ he))
      (List.filterMap_eq_nil_iff.mpr fun e he =>
        List.filterMap_eq_nil_iff.mp hlogins e (List.mem_cons_of_mem _ he))
    cases effect with
    | received payload => cases hhead
    | sent sent =>
      have hsent : ¬ sent.isLogin = true := fun h => by rw [Effect.login, if_pos h] at hnone; cases hnone
      exact (if_neg hsent).trans htail
    | _ => exact htail

theorem openLogin_append_sent (hmade : ∀ effect ∈ effects, effect.isMade = true)
    (hlogins : logins effects = [message]) : openLogin (effects ++ log) = some message := by
  induction effects with
  | nil => cases hlogins
  | cons effect effects ih =>
    have hhead := hmade effect List.mem_cons_self
    have hrest := fun e he => hmade e (List.mem_cons_of_mem _ he)
    cases effect with
    | received payload => cases hhead
    | sent sent =>
      by_cases hsent : sent.isLogin = true
      · have hlogin : (Effect.sent sent).login = some sent := if_pos hsent
        rw [logins, List.filterMap_cons_some hlogin] at hlogins
        injection hlogins with hmessage
        subst hmessage
        exact if_pos hsent
      · have hlogin : (Effect.sent sent).login = none := if_neg hsent
        rw [logins, List.filterMap_cons_none hlogin] at hlogins
        exact (if_neg hsent).trans (ih hrest hlogins)
    | _ => exact ih hrest hlogins

theorem confirmed_append (hmade : ∀ effect ∈ effects, effect.isMade = true) :
    confirmed (effects ++ log) = confirmed log := by
  induction effects with
  | nil => rfl
  | cons effect effects ih =>
    have hhead := hmade effect List.mem_cons_self
    have htail := ih fun e he => hmade e (List.mem_cons_of_mem _ he)
    cases effect with
    | received payload => cases hhead
    | _ => exact htail

/-- An answer closes the request, and nothing else does. -/
theorem openLogin_received {payload : Bytes} {code : UInt8} (hcode : payload.head? = some code)
    (hopen : openLogin log = some message) :
    openLogin (.received payload :: log) =
      if code ∈ message.verdicts then none else some message := by
  rw [openLogin, hopen, hcode]
  by_cases h : code ∈ message.verdicts
  · simp [Option.filter, h]
  · simp [Option.filter, h]

theorem openLogin_received_none (payload : Bytes) (hopen : openLogin log = none) :
    openLogin (.received payload :: log) = none := by
  rw [openLogin, hopen]
  rfl

/-! ## Loops -/

/-- The messages an authentication loop waits for. -/
def AuthenticationWait.verdicts : AuthenticationWait → List UInt8
  | .password | .publicKeyQuery _ | .keyboardInteractive =>
    [sshMsgUserauthFailure, sshMsgUserauthSuccess, 60]
  | .none | .publicKeySignature => [sshMsgUserauthFailure, sshMsgUserauthSuccess]

variable {s s' : Backend} {loop loop' : AuthenticationWait}

/-- An event waits for what answers the message it has sent. -/
theorem verdicts_of_begins {event : Event} (h : Begins s event message loop) :
    message.verdicts = loop.verdicts := by
  cases h with
  | none username =>
    have hnone : ascii "none" ≠ ascii "password" ∧ ascii "none" ≠ ascii "keyboard-interactive" := by
      decide
    simp [ClientMessage.verdicts, AuthenticationWait.verdicts, hnone]
  | password | keyboardInteractive | publicKey =>
    simp [ClientMessage.verdicts, AuthenticationWait.verdicts]

theorem verdicts_of_continues (h : Continues s loop message loop') :
    message.verdicts = loop'.verdicts := by
  cases h with
  | signature query hkey hsignature =>
    have hpassword : ascii "publickey" ≠ ascii "password" := by decide
    have hinteractive : ascii "publickey" ≠ ascii "keyboard-interactive" := by decide
    simp [PublicKeyQuery.request, ClientMessage.verdicts, AuthenticationWait.verdicts, hpassword,
      hinteractive]
  | infoResponse size responses => rfl

/-- The verdicts have messages of their own. -/
theorem code_of_unrecognized {payload data : Bytes} {code : UInt8}
    (hparse : Message.parse payload = .ok (.unrecognized code data)) :
    code ≠ sshMsgUserauthFailure ∧ code ≠ sshMsgUserauthSuccess := by
  have hhead := Message.head?_of_parse hparse
  cases payload with
  | nil => cases hhead
  | cons number rest =>
    obtain rfl : number = code := Option.some.inj hhead
    refine ⟨?_, ?_⟩
    · rintro rfl
      unfold Message.parse Consumer.run' at hparse
      rw [bind_of_ok (Consumer.consumeU8_cons sshMsgUserauthFailure rest)] at hparse
      unfold Message.parseBody at hparse
      repeat rw [if_neg (by decide)] at hparse
      rw [if_pos rfl] at hparse
      split at hparse
      · next msg' rest' hrun =>
        obtain ⟨methods, s₁, -, hrun⟩ := bind_eq_ok_iff.mp hrun
        obtain ⟨partialSuccess, s₂, -, hrun⟩ := bind_eq_ok_iff.mp hrun
        injection hrun with hmsg
        injection hparse with hparse
        rw [← hmsg] at hparse
        cases hparse
      · cases hparse
    · rintro rfl
      cases hparse

/-- A loop acts on a message exactly when it waits for it. -/
theorem answerAuthentication_isSome_iff {env : Env} {msg : Message} {payload : Bytes}
    (hparse : Message.parse payload = .ok msg) :
    (answerAuthentication env loop msg).isSome = true ↔ msg.code ∈ loop.verdicts := by
  cases msg with
  | unrecognized code data =>
    obtain ⟨hfailure, hsuccess⟩ := code_of_unrecognized hparse
    have hnumbers : sshMsgUserauthPasswdChangereq = 60 ∧ sshMsgUserauthPkOk = 60 ∧
        sshMsgUserauthInfoRequest = 60 := by decide
    cases loop <;>
      simp [answerAuthentication, authenticationVerdict, AuthenticationWait.verdicts, Message.code,
        hfailure, hsuccess, hnumbers, Option.isSome_ite]
  | _ =>
    cases loop <;> first
      | exact iff_of_true rfl (of_decide_eq_true rfl)
      | exact iff_of_false Bool.false_ne_true (of_decide_eq_true rfl)

/-! ## Steps -/

/-- While an authentication waits for its verdict, no receive fails, and every packet is a message
that is the verdict or that `handle_msg` takes without an error. -/
def Undisturbed (s : Backend) (i : Input) : Prop :=
  ∀ loop, s.task = .waiting (.authentication loop) →
    match i with
    | .receiveFailed .. => False
    | .packet payload env => ∃ msg, Message.parse payload = .ok msg ∧
        ((answerAuthentication env loop msg).isSome = false →
          ∃ data w, handleMsg env msg false (s.afterRecv payload) = .ok data w)
    | _ => True

/-- The history says what the task waits for, and whether the client is authenticated. -/
structure TracksLogin (s : Backend) : Prop where
  waiting {loop : AuthenticationWait} (htask : s.task = .waiting (.authentication loop)) :
    ∃ message, openLogin s.log = some message ∧ message.verdicts = loop.verdicts
  settled (hrunning : s.task.running = true)
    (htask : ∀ loop, s.task ≠ .waiting (.authentication loop)) : openLogin s.log = none
  flag : s.socket.authenticated = confirmed s.log

theorem logins_append (effects log : List Effect) :
    logins (effects ++ log) = logins effects ++ logins log :=
  List.filterMap_append

/-- A step that is not the arrival of a packet says nothing about verdicts. -/
theorem flag_next {i : Input} (hpossible : i.possible s = true)
    (hi : ∀ payload env, i ≠ .packet payload env) (h : TracksLogin s) :
    (s.next i).socket.authenticated = confirmed (s.next i).log := by
  have hfixtures : (s.next i).fixtures.authenticated = s.fixtures.authenticated := by
    rw [Backend.fixtures_next hi]
  obtain ⟨effects, hlog, hmade⟩ := made_next hpossible
  have harrived : s.arrived i = s := by
    cases i with
    | packet payload env => exact absurd rfl (hi payload env)
    | _ => rfl
  rw [hlog, confirmed_append hmade, harrived, ← h.flag]
  exact hfixtures

theorem isConfirmed_eq (h : TracksLogin s) (hrunning : s.task.running = true) (payload : Bytes) :
    s.isConfirmed payload = (isSuccess payload && (openLogin s.log).isSome) := by
  by_cases hwaits : ∃ loop, s.task = .waiting (.authentication loop)
  · obtain ⟨loop, htask⟩ := hwaits
    obtain ⟨message, hopen, -⟩ := h.waiting htask
    rw [hopen, Option.isSome_some, Bool.and_true, Backend.isConfirmed, htask]
    unfold isSuccess
    simp only [Wait.isConfirmed]
    split
    · next heq => rw [heq]
    · next hnot =>
      split
      · next heq => exact absurd heq (hnot _ rfl)
      · rfl
  · have hnone := h.settled hrunning fun loop htask => hwaits ⟨loop, htask⟩
    rw [hnone, Option.isSome_none, Bool.and_false, Backend.isConfirmed]
    split
    · next wait htask =>
      cases wait with
      | authentication loop => exact absurd ⟨loop, htask⟩ hwaits
      | _ => rfl
    · rfl

theorem flag_next_packet (hrunning : s.task.running = true) (h : TracksLogin s) (payload : Bytes)
    (env : Env) : (s.next (.packet payload env)).socket.authenticated =
      confirmed (s.next (.packet payload env)).log := by
  obtain ⟨keys, hgrows⟩ := made_next_packet hrunning payload env
  obtain ⟨effects, hlog, hmade⟩ := hgrows.log
  have hfixtures := congrArg Fixtures.authenticated (Backend.fixtures_next_packet hrunning payload env)
  rw [hlog, confirmed_append hmade]
  change _ = (confirmed s.log || (isSuccess payload && (openLogin s.log).isSome))
  rw [← isConfirmed_eq h hrunning, ← h.flag]
  exact hfixtures

/-- What a step has sent, and what it has not, decides which request is open afterwards. -/
theorem openLogin_next {i : Input} (hpossible : i.possible s = true) :
    (logins (s.next i).log = logins s.log →
        openLogin (s.next i).log = openLogin (s.arrived i).log) ∧
      ∀ message, logins (s.next i).log = message :: logins s.log →
        openLogin (s.next i).log = some message := by
  obtain ⟨effects, hlog, hmade⟩ := made_next hpossible
  have harrived : logins (s.arrived i).log = logins s.log := by
    cases i with
    | _ => rfl
  rw [hlog, logins_append, harrived]
  refine ⟨fun hlogins => ?_, fun message hlogins => ?_⟩
  · exact openLogin_append hmade (List.append_left_eq_self.mp hlogins)
  · have hsent : logins effects ++ logins s.log = [message] ++ logins s.log := hlogins
    exact openLogin_append_sent hmade (List.append_cancel_right hsent)

/-- A packet that arrives while a request is open. -/
theorem tracksLogin_answered {payload : Bytes} {env : Env} (h : TracksLogin s)
    (htask : s.task = .waiting (.authentication loop))
    (hundisturbed : Undisturbed s (.packet payload env)) :
    TracksLogin (s.next (.packet payload env)) := by
  have hrunning : s.task.running = true := by
    rw [htask]
    rfl
  have hflag := flag_next_packet hrunning h payload env
  obtain ⟨message, hopen, hverdicts⟩ := h.waiting htask
  obtain ⟨msg, hparse, hhandled⟩ := hundisturbed loop htask
  have hreceived : openLogin (s.afterRecv payload).log =
      if msg.code ∈ message.verdicts then none else some message :=
    openLogin_received (Message.head?_of_parse hparse) hopen
  have hreact : (Wait.authentication loop).react env payload = answerAuthentication env loop msg := by
    simp only [Wait.react, hparse]
    rfl
  -- the loop acts on the verdicts and the prompts of its method
  cases hanswer : answerAuthentication env loop msg with
  | some m =>
    have hsome : (answerAuthentication env loop msg).isSome = true := by rw [hanswer]; rfl
    have hcode := (answerAuthentication_isSome_iff hparse).mp hsome
    rw [hverdicts, if_pos hcode] at hreceived
    rw [hanswer] at hreact
    have hnext := next_of_react htask (parse_ne_nil hparse) hreact
    have hopenings := openLogin_next (s := s) (i := .packet payload env) hrunning
    -- the answer ends the event, or the loop asks again and waits for that answer
    obtain ⟨hlogins, hwait⟩ | ⟨asked, loop', ⟨_, _, hcontinues⟩, -, hlogins, hwait⟩ :=
      login_settleEvent env (logins_react (s := s.afterRecv payload) hreact)
    · rw [← hnext] at hlogins hwait
      have hnone := (hopenings.1 hlogins).trans hreceived
      exact ⟨fun htask' => absurd htask' (hwait _), fun _ _ => hnone, hflag⟩
    · rw [← hnext] at hlogins hwait
      have hsome := hopenings.2 asked hlogins
      refine ⟨fun {other} htask' => ⟨asked, hsome, ?_⟩, fun _ hnot => absurd hwait (hnot loop'), hflag⟩
      rw [hwait] at htask'
      injection htask' with htask'
      injection htask' with htask'
      rw [← htask']
      exact verdicts_of_continues hcontinues
  | none =>
    have hcode : ¬ msg.code ∈ message.verdicts := by
      rw [hverdicts]
      intro hmem
      have hsome : (answerAuthentication env loop msg).isSome = true :=
        (answerAuthentication_isSome_iff hparse).mpr hmem
      rw [hanswer] at hsome
      cases hsome
    rw [if_neg hcode] at hreceived
    obtain ⟨data, w, hrun⟩ := hhandled (by rw [hanswer]; rfl)
    -- anything else goes to `handle_msg`, which the hypothesis lets succeed, so the loop waits on
    have hhandles : s.handles env payload = some msg := by
      unfold Backend.handles
      simp [htask, hreact, hanswer, hparse, Except.toOption]
    have hnext := next_of_handles hhandles
    rw [htask, show (Task.waiting (.authentication loop)).isIdle = false from rfl, hrun] at hnext
    have hgrows : Grows Effect.isHandlers [] _ _ :=
      grows_handleMsg env msg false (s.afterRecv payload)
    have hlogins : logins w.log = logins s.log := by
      rw [hrun] at hgrows
      exact hgrows.logins_eq fun _ => Effect.isLoginless_of_isHandlers
    have hsame : (s.next (.packet payload env)).task = .waiting (.authentication loop) := by
      rw [hnext]
      rfl
    have hsome : openLogin (s.next (.packet payload env)).log = some message := by
      refine ((openLogin_next (s := s) (i := .packet payload env) hrunning).1 ?_).trans hreceived
      rw [hnext]
      exact hlogins
    refine ⟨fun {other} htask' => ⟨message, hsome, ?_⟩, fun _ hnot => absurd hsame (hnot loop), hflag⟩
    rw [hsame] at htask'
    injection htask' with htask'
    injection htask' with htask'
    rw [← htask', hverdicts]

/-- Nothing else ends the wait for a verdict. -/
theorem task_next_of_waiting {i : Input} (hpossible : i.possible s = true)
    (htask : s.task = .waiting (.authentication loop)) (hundisturbed : Undisturbed s i)
    (hi : ∀ payload env, i ≠ .packet payload env) : (s.next i).task = s.task := by
  cases i with
  | packet payload env => exact absurd rfl (hi payload env)
  | receiveFailed error env => exact (hundisturbed loop htask).elim
  | event event env =>
    have hidle : s.task.isIdle = true := (Bool.and_eq_true_iff.mp hpossible).1
    rw [htask] at hidle
    cases hidle
  | shutdown =>
    have hidle : s.task.isIdle = true := (Bool.and_eq_true_iff.mp hpossible).1
    rw [htask] at hidle
    cases hidle
  | frontendDropped | receiverDropped | tcpListenerDropped | localListenerDropped => rfl

/-- A step needs a task that runs. -/
theorem running_of_possible {i : Input} (hpossible : i.possible s = true) :
    s.task.running = true := by
  have hidle : s.task.isIdle = true → s.task.running = true := by
    cases s.task with
    | idle => exact fun _ => rfl
    | waiting | rekeying | exited => exact fun h => by cases h
  cases i with
  | event event env => exact hidle (Bool.and_eq_true_iff.mp hpossible).1
  | shutdown => exact hidle (Bool.and_eq_true_iff.mp hpossible).1
  | receiverDropped queue => exact (Bool.and_eq_true_iff.mp hpossible).1
  | packet | receiveFailed | frontendDropped | tcpListenerDropped | localListenerDropped =>
    exact hpossible

theorem tracksLogin_step {i : Input} (h : TracksLogin s) (hundisturbed : Undisturbed s i)
    (hstep : Backend.Step s i s') : TracksLogin s' := by
  obtain ⟨hpossible, rfl⟩ := hstep
  have hopenings := openLogin_next hpossible
  -- only a packet moves an authentication that waits; a request begins one where none waits
  by_cases hwaits : ∃ loop, s.task = .waiting (.authentication loop)
  · obtain ⟨loop, htask⟩ := hwaits
    by_cases hpacket : ∃ payload env, i = .packet payload env
    · obtain ⟨payload, env, rfl⟩ := hpacket
      exact tracksLogin_answered h htask hundisturbed
    · have hi : ∀ payload env, i ≠ .packet payload env := fun _ _ heq => hpacket ⟨_, _, heq⟩
      have hsame := task_next_of_waiting hpossible htask hundisturbed hi
      have hflag := flag_next hpossible hi h
      have hlogins : logins (s.next i).log = logins s.log := by
        have hlogin := loginStep_next s i
        generalize s.next i = t at hlogin hsame ⊢
        cases hlogin with
        | silent hlogins => exact hlogins
        | begins hbegins =>
          have hidle : s.task.isIdle = true := (Bool.and_eq_true_iff.mp hpossible).1
          rw [htask] at hidle
          cases hidle
        | continues => exact absurd rfl (hi _ _)
      have harrived : s.arrived i = s := by
        cases i with
        | packet payload env => exact absurd rfl (hi payload env)
        | _ => rfl
      have hopen := hopenings.1 hlogins
      rw [harrived] at hopen
      refine ⟨fun htask' => ?_, fun _ hnot => absurd (hsame.trans htask) (hnot loop), hflag⟩
      rw [hopen]
      exact h.waiting (hsame.symm.trans htask')
  · have hnot : ∀ loop, s.task ≠ .waiting (.authentication loop) := fun loop htask =>
      hwaits ⟨loop, htask⟩
    have hnone := h.settled (running_of_possible hpossible) hnot
    have harrived : openLogin (s.arrived i).log = none := by
      cases i with
      | packet payload env => exact openLogin_received_none payload hnone
      | _ => exact hnone
    have hflag : (s.next i).socket.authenticated = confirmed (s.next i).log := by
      cases i with
      | packet payload env => exact flag_next_packet (running_of_possible hpossible) h payload env
      | _ => exact flag_next hpossible (fun _ _ heq => by cases heq) h
    have hlogin := loginStep_next s i
    generalize s.next i = t at hlogin hopenings hflag ⊢
    cases hlogin with
    | silent hlogins hwait =>
      have hclosed := (hopenings.1 hlogins).trans harrived
      exact ⟨fun htask => absurd (hwait _ htask) (hnot _), fun _ _ => hclosed, hflag⟩
    | @begins event env _ message loop hbegins hlength hlogins hwait =>
      have hopen := hopenings.2 message hlogins
      refine ⟨fun {other} htask => ⟨message, hopen, ?_⟩, fun _ hnot => absurd hwait (hnot loop), hflag⟩
      rw [hwait] at htask
      injection htask with htask
      injection htask with htask
      rw [← htask]
      exact verdicts_of_begins hbegins
    | continues htask => exact absurd htask (hnot _)

/-! ## Runs -/

/-- The states of the runs that nothing disturbs, from a session that has just been set up. -/
abbrev Backend.UndisturbedRun : Backend → Prop :=
  Machine.ReachVia (fun s => s.IsInitial ∧ s.socket.authenticated = false) Backend.Step Undisturbed

theorem tracksLogin (h : Backend.UndisturbedRun s) : TracksLogin s := by
  induction h with
  | start hinit =>
    obtain ⟨hinit, hflag⟩ := hinit
    refine ⟨fun htask => ?_, fun _ _ => ?_, ?_⟩
    · rw [hinit.task] at htask
      cases htask
    · rw [hinit.log]
      rfl
    · rw [hinit.log, hflag]
      rfl
  | next _ hundisturbed hstep ih => exact tracksLogin_step ih hundisturbed hstep

end Flatline
