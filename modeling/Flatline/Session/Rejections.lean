import Flatline.Kex.Handshaking
import Flatline.Session.Frames

/-!
# Which packet is rejected

An `SSH_MSG_UNIMPLEMENTED` names the packet that it rejects by the number with which the server has
sent it. By then the client has counted that packet. The session takes the one packet off again; the
handshake does not, so there every number is one too high. In strict mode an `SSH_MSG_NEWKEYS` starts
the count again, so where one is rejected the number before zero is sent.

Source: `src/session/handshake.rs` (`handle_msg`), `src/session/backend.rs` (`send_unimplemented`).
-/

namespace Flatline

open Triple ReceiveLoop

/-! ## The server's numbers -/

/-- The number that the server gives to its next packet, if it has given `base` to the first one of
the history: numbers start again after `SSH_MSG_NEWKEYS` in strict mode. -/
def serverNumber (strict : Bool) (base : UInt32) : List Effect → UInt32
  | [] => base
  | .received payload :: log =>
    if payload.head? = some sshMsgNewkeys ∧ strict = true then 0
    else serverNumber strict base log + 1
  | _ :: log => serverNumber strict base log

/-- Every `SSH_MSG_UNIMPLEMENTED` of the history carries the number of the last packet that had
arrived before it was sent. -/
def NamesRejected (strict : Bool) (base : UInt32) (log : List Effect) : Prop :=
  ∀ later before number, log = later ++ .sent (.unimplemented number) :: before →
    ∃ between payload earlier, before = between ++ .received payload :: earlier ∧
      (∀ payload', .received payload' ∉ between) ∧ number = serverNumber strict base earlier

/-- Not the arrival of a packet, and if it is an `SSH_MSG_UNIMPLEMENTED`, then with the given
number. -/
def Effect.answers (number : UInt32) : Effect → Bool
  | .received _ => false
  | .sent (.unimplemented number') => number' = number
  | _ => true

/-- Neither the arrival of a packet nor an `SSH_MSG_UNIMPLEMENTED`. -/
def Effect.rejectsNothing : Effect → Bool
  | .received _ | .sent (.unimplemented _) => false
  | _ => true

variable {strict : Bool} {base number : UInt32} {effects log : List Effect}

theorem Effect.answers_of_rejectsNothing {effect : Effect} (h : effect.rejectsNothing = true) :
    effect.answers number = true := by
  cases effect with
  | received payload => cases h
  | sent message => cases message <;> first | rfl | cases h
  | _ => rfl

theorem Effect.rejectsNothing_of_isSettles {effect : Effect} (h : effect.isSettles = true) :
    effect.rejectsNothing = true := by
  cases effect with
  | sent message => cases message <;> first | rfl | cases h
  | _ => first | rfl | cases h

theorem Effect.rejectsNothing_of_isEvents {effect : Effect} (h : effect.isEvents = true) :
    effect.rejectsNothing = true := by
  cases effect with
  | sent message => cases message <;> first | rfl | cases h
  | _ => first | rfl | cases h

theorem Effect.rejectsNothing_of_isReplies {effect : Effect} (h : effect.isReplies = true) :
    effect.rejectsNothing = true := by
  cases effect with
  | sent message => cases message <;> first | rfl | cases h
  | _ => first | rfl | cases h

theorem Effect.rejectsNothing_of_isExchanges {effect : Effect} (h : effect.isExchanges = true) :
    effect.rejectsNothing = true := by
  cases effect with
  | sent message => cases message <;> first | rfl | cases h
  | _ => cases h

/-- Only packets that arrive are counted. -/
theorem serverNumber_append (h : ∀ effect ∈ effects, effect.answers number = true) :
    serverNumber strict base (effects ++ log) = serverNumber strict base log := by
  induction effects with
  | nil => rfl
  | cons effect effects ih =>
    have hrest := ih fun effect heffect => h effect (List.mem_cons_of_mem _ heffect)
    cases effect with
    | received payload => cases h _ List.mem_cons_self
    | _ => exact hrest

/-- What follows the arrival of a packet and names only this packet. -/
theorem NamesRejected.received {payload : Bytes} (h : NamesRejected strict base log)
    (heffects : ∀ effect ∈ effects,
      effect.answers (serverNumber strict base log) = true) :
    NamesRejected strict base (effects ++ .received payload :: log) := by
  intro later before number heq
  obtain ⟨between, hleft, hright⟩ | ⟨between, hleft, hright⟩ := List.append_eq_append_iff.mp heq
  · cases between with
    | nil => cases hright
    | cons effect between =>
      injection hright with heffect hlog
      exact h between before number hlog
  · cases between with
    | nil => cases hright
    | cons effect between =>
      injection hright with heffect hbefore
      subst hleft heffect
      refine ⟨between, payload, log, hbefore, fun payload' hmem => ?_, ?_⟩
      · cases heffects _ (List.mem_append_right _ (List.mem_cons_of_mem _ hmem))
      · exact of_decide_eq_true (heffects _ (List.mem_append_right _ List.mem_cons_self))

/-- What is noted without a packet. -/
theorem NamesRejected.append (h : NamesRejected strict base log)
    (heffects : ∀ effect ∈ effects, effect.rejectsNothing = true) :
    NamesRejected strict base (effects ++ log) := by
  intro later before number heq
  obtain ⟨between, hleft, hright⟩ | ⟨between, hleft, hright⟩ := List.append_eq_append_iff.mp heq
  · exact h between before number hright
  · cases between with
    | nil =>
      exact h [] before number hright.symm
    | cons effect between =>
      injection hright with heffect hbefore
      subst hleft heffect
      cases heffects _ (List.mem_append_right _ List.mem_cons_self)

/-! ## Turns -/

namespace Backend

/-- An `SSH_MSG_NEWKEYS` of strict mode arrives where no key exchange waits for it. -/
def rejectsNewKeys (s : Backend) : Input → Bool
  | .packet payload _ => payload.head? = some sshMsgNewkeys && s.socket.client.kexStrict &&
    s.socket.server.kexStrict && match s.task with
    | .rekeying _ phase => payload.head? ≠ some phase.awaits
    | _ => true
  | _ => false

/-- The counter of the session agrees with the server. -/
structure Numbered (strict : Bool) (base : UInt32) (s : Backend) : Prop where
  switches : (s.socket.client.kexStrict && s.socket.server.kexStrict) = strict
  number : s.socket.server.sequenceNumber = serverNumber strict base s.log
  named : NamesRejected strict base s.log

end Backend

variable {s t : Backend} {payload : Bytes} {env : Env}

/-- What is sent while a packet is handled names the number before the count. -/
theorem grows_handleMsg_answers (env : Env) (msg : Message) (idle : Bool)
    (hnumber : s.socket.server.sequenceNumber - 1 = number) :
    Grows (Effect.answers number) [] s (stateOf (handleMsg env msg idle s)) := by
  have hreplies {w : Backend} (h : Extends Effect.isReplies [] s w) :
      Grows (Effect.answers number) [] s w :=
    h.toGrows.mono (fun _ h => Effect.answers_of_rejectsNothing
      (Effect.rejectsNothing_of_isReplies h)) (List.Subset.refl _)
  cases htakes : takesKexInit s msg with
  | true =>
    obtain ⟨data, -, -, hrun⟩ := handleMsg_takes env idle htakes
    rw [hrun]
    exact .of_eq
  | false =>
    cases hrejects : rejects s msg with
    | true =>
      rw [handleMsg_rejects env idle hrejects]
      have hrun : (do sendUnimplemented env; return none : BackendM (Option Bytes)) s =
          (do sendPayload env (.unimplemented number); return none : BackendM (Option Bytes)) s := by
        rw [← hnumber]
        rfl
      rw [hrun]
      have hsend : Emits (Effect.answers number) [] (sendPayload env (.unimplemented number)) :=
        emits_sendPayload env (decide_eq_true rfl)
      exact grows_stateOf (hsend.bind fun _ => emits_pure _) s
    | false =>
      have hholds : Holds (· = s) (handleMsg env msg idle)
          (fun data w => data = none ∧ Extends Effect.isReplies [] s w)
          (fun _ => Extends Effect.isReplies [] s) :=
        extends_handleMsg_replies env idle s hrejects htakes
      cases hrun : handleMsg env msg idle s with
      | ok data w => exact hreplies (hholds.of_ok rfl hrun).2
      | error fault w => exact hreplies (hholds.of_error rfl hrun)

theorem Grows.answers {p : Effect → Bool} {keys : List SocketAddr} (h : Grows p keys s t)
    (hp : ∀ effect, p effect = true → effect.rejectsNothing = true) :
    Grows (Effect.answers number) keys s t :=
  h.mono (fun effect heffect => Effect.answers_of_rejectsNothing (hp effect heffect))
    (List.Subset.refl _)

/-- A packet that comes to `handle_msg` is counted as any other. -/
theorem number_afterRecv (hguard : s.rejectsNewKeys (.packet payload env) = false) {msg : Message}
    (hhandles : s.handles env payload = some msg) :
    (s.afterRecv payload).socket.server.sequenceNumber = s.socket.server.sequenceNumber + 1 := by
  refine if_neg ?_
  rintro ⟨hcode, hclient, hserver⟩
  unfold Backend.rejectsNewKeys at hguard
  unfold Backend.handles at hhandles
  simp only [hcode, hclient, hserver, decide_true, Bool.and_self, Bool.true_and] at hguard hhandles
  cases htask : s.task with
  | rekeying origin phase =>
    rw [htask] at hguard hhandles
    simp only [ne_eq, decide_not, Bool.not_eq_false', decide_eq_true_eq] at hguard hhandles
    rw [if_pos hguard] at hhandles
    cases hhandles
  | idle | waiting _ | exited _ =>
    rw [htask] at hguard
    cases hguard

/-- What a packet leads to names this packet. -/
theorem answers_next_packet (hguard : s.rejectsNewKeys (.packet payload env) = false)
    (hrunning : s.task.running = true) :
    ∃ keys, Grows (Effect.answers s.socket.server.sequenceNumber) keys (s.afterRecv payload)
      (s.next (.packet payload env)) := by
  have hturn := packetTurn s payload env
  generalize s.next (.packet payload env) = t at hturn ⊢
  cases hturn with
  | @handled msg hhandles =>
    have hnumber : (s.afterRecv payload).socket.server.sequenceNumber - 1 =
        s.socket.server.sequenceNumber := by
      rw [number_afterRecv hguard hhandles, UInt32.add_sub_cancel]
    exact ⟨[], (grows_handleMsg_answers env msg _ hnumber).trans
      ((grows_settleHandled env _ _).answers fun _ => Effect.rejectsNothing_of_isSettles)⟩
  | @reacted wait m htask hreact hpayload =>
    exact ⟨wait.touches payload, ((grows_stateOf (emits_react hreact) _).answers
      fun _ => Effect.rejectsNothing_of_isEvents).trans
        ((grows_settleEvent env _).answers fun _ => Effect.rejectsNothing_of_isSettles)⟩
  | exchanged htask hhead =>
    exact ⟨[], ((grows_stateOf (emits_proceedRekey env payload _) _).answers
      fun _ => Effect.rejectsNothing_of_isExchanges).trans
        ((grows_settleRekey env _ _).answers fun _ => Effect.rejectsNothing_of_isSettles)⟩
  | refused hrunning hparse =>
    exact ⟨[], (grows_settleHandled env s.task (.error (.error _) (s.afterRecv payload))).answers
      fun _ => Effect.rejectsNothing_of_isSettles⟩
  | exited htask =>
    rw [htask] at hrunning
    cases hrunning

/-- Without a packet nothing is rejected. -/
theorem rejectsNothing_next {i : Input} (h : ∀ payload env, i ≠ .packet payload env) :
    ∃ effects, (s.next i).log = effects ++ s.log ∧
      ∀ effect ∈ effects, effect.rejectsNothing = true := by
  have hsettles {keys : List SocketAddr} {w w' : Backend} (h : Grows Effect.isSettles keys w w') :
      Grows Effect.rejectsNothing keys w w' :=
    h.mono (fun _ => Effect.rejectsNothing_of_isSettles) (List.Subset.refl _)
  cases i with
  | packet payload env => exact absurd rfl (h payload env)
  | receiveFailed error env =>
    have hgrows : Grows Effect.isSettles [] s (s.next (.receiveFailed error env)) :=
      grows_next_receiveFailed s error env
    exact (hsettles hgrows).log
  | event event env =>
    have hgrows : Grows Effect.rejectsNothing event.cancels s (s.onEvent event env) := by
      by_cases hrenegotiate : event = .renegotiate
      · subst hrenegotiate
        have hflag : Grows Effect.rejectsNothing [] s { s with renegotiating := true } := .of_eq
        exact hflag.trans (hsettles (grows_startRekey env .user none
          (fun _ => Effect.isSettles_of_isEnds) fun e w => grows_failRekey env .user e w))
      · rw [Backend.onEvent_eq hrenegotiate]
        exact ((grows_stateOf (emits_startEvent env event) s).mono
          (fun _ => Effect.rejectsNothing_of_isEvents) (List.Subset.refl _)).trans
            (hsettles (grows_settleEvent env _))
    exact hgrows.log
  | shutdown | frontendDropped | receiverDropped | tcpListenerDropped | localListenerDropped =>
    exact ⟨[], rfl, fun _ h => absurd h List.not_mem_nil⟩

/-! ## Runs -/

namespace Backend

theorem Numbered.of_fixtures (hs : s.Numbered strict base) (h : t.fixtures = s.fixtures)
    (hgrows : ∃ effects, t.log = effects ++ s.log ∧
      ∀ effect ∈ effects, effect.rejectsNothing = true) : t.Numbered strict base := by
  obtain ⟨effects, hlog, heffects⟩ := hgrows
  have hserver : t.socket.server = s.socket.server := congrArg Fixtures.server h
  have hclient : t.socket.client.kexStrict = s.socket.client.kexStrict :=
    congrArg Fixtures.clientKexStrict h
  refine ⟨?_, ?_, ?_⟩
  · rw [hclient, hserver, hs.switches]
  · rw [hserver, hs.number, hlog]
    have hanswers : ∀ effect ∈ effects, effect.answers 0 = true := fun effect heffect =>
      Effect.answers_of_rejectsNothing (heffects effect heffect)
    exact (serverNumber_append hanswers).symm
  · rw [hlog]
    exact hs.named.append heffects

/-- What one input preserves. -/
theorem Numbered.next (hs : s.Numbered strict base) {i : Input} (hpossible : i.possible s = true)
    (hguard : s.rejectsNewKeys i = false) : (s.next i).Numbered strict base := by
  by_cases hpacket : ∃ payload env, i = .packet payload env
  · obtain ⟨payload, env, rfl⟩ := hpacket
    have hfixtures := fixtures_next_packet hpossible payload env
    obtain ⟨keys, hgrows⟩ := answers_next_packet hguard hpossible
    obtain ⟨effects, hlog, heffects⟩ := hgrows.log
    have hserver : (s.next (.packet payload env)).socket.server =
        (s.afterRecv payload).socket.server := congrArg Fixtures.server hfixtures
    have hclient : (s.next (.packet payload env)).socket.client.kexStrict =
        s.socket.client.kexStrict := congrArg Fixtures.clientKexStrict hfixtures
    have hcount : (s.afterRecv payload).socket.server.sequenceNumber =
        serverNumber strict base (s.afterRecv payload).log := by
      have hiff : (payload.head? = some sshMsgNewkeys ∧ s.socket.client.kexStrict = true ∧
          s.socket.server.kexStrict = true) ↔
            payload.head? = some sshMsgNewkeys ∧ strict = true := by
        rw [← hs.switches, Bool.and_eq_true]
      change (if _ then _ else s.socket.server.sequenceNumber + 1) = if _ then _ else _
      rw [hs.number]
      exact if_congr hiff rfl rfl
    refine ⟨?_, ?_, ?_⟩
    · rw [hclient, hserver]
      exact hs.switches
    · rw [hserver, hcount, hlog, serverNumber_append heffects]
    · rw [hlog]
      rw [hs.number] at heffects
      exact hs.named.received heffects
  · have hother (payload : Bytes) (env : Env) : i ≠ .packet payload env := by
      intro h
      exact hpacket ⟨payload, env, h⟩
    exact hs.of_fixtures (fixtures_next hother) (rejectsNothing_next hother)

/-- In a session that rejects no `SSH_MSG_NEWKEYS` of strict mode, every packet that is rejected is
named. -/
theorem numbered {s₀ : Backend} (hinitial : s₀.IsInitial)
    (hrun : Machine.ReachVia (· = s₀) Step (fun s i => s.rejectsNewKeys i = false) s) :
    s.Numbered (s₀.socket.client.kexStrict && s₀.socket.server.kexStrict)
      s₀.socket.server.sequenceNumber := by
  refine hrun.invariant ?_ ?_
  · rintro _ rfl
    refine ⟨rfl, ?_, ?_⟩
    · rw [hinitial.log]
      rfl
    · rw [hinitial.log]
      intro later before number heq
      exact absurd heq.symm (List.append_ne_nil_of_right_ne_nil _ (List.cons_ne_nil _ _))
  · rintro s i _ hs hguard ⟨hpossible, rfl⟩
    exact hs.next hpossible hguard

end Backend

/-! ## The whole connection -/

/-- During the handshake no packet that is rejected is named: the number that is sent is the one after
it. In the session that follows, every packet that is rejected is named as the server counts, as long
as no `SSH_MSG_NEWKEYS` of strict mode is rejected. -/
theorem rejections {env : HandshakeEnv} {clientVersion serverVersion : Text} {config : Config}
    {compatOptions : CompatOptions} {writable : Bool} {h : Handshaker}
    (hsend : (Handshaker.afterBanner clientVersion serverVersion config compatOptions
      writable).sendKexInit env = .ok h) {arrivals : List Arrival} {state : Handshaking}
    (hskips : Skips (Handshaking.turn env) (.negotiating h) arrivals state) :
    (∀ arrival t number, Handshaking.turn env state arrival = .ok t →
      unimplementedPayload number ∈
        (Handshaking.streamAfter t).written.drop state.stream.written.length →
      number = UInt32.ofNat arrivals.length + 1) ∧
    ∀ arrival k s₀ s, Handshaking.turn env state arrival = .ok (.done k) →
      s₀.IsInitial → s₀.socket.client = k.stream.client → s₀.socket.server = k.stream.server →
      Machine.ReachVia (· = s₀) Backend.Step (fun s i => s.rejectsNewKeys i = false) s →
      NamesRejected k.stream.strict
        (if k.stream.strict then 0 else UInt32.ofNat (arrivals.length + 1)) s.log := by
  have hcounted := (Handshaking.counted_start hsend).skips hskips
  rw [Nat.zero_add] at hcounted
  refine ⟨fun arrival t number hturn hsent => hcounted.named hturn hsent, ?_⟩
  intro arrival k s₀ s hturn hinitial hclient hserver hrun
  have hnamed := (Backend.numbered hinitial hrun).named
  rw [hclient, hserver, Bool.and_comm, hcounted.done hturn] at hnamed
  rw [UInt32.ofNat_add]
  exact hnamed

/-- Surroundings of a handshake in which the server's key is accepted. -/
def HandshakeEnv.agreeable : HandshakeEnv where
  cookie := .zero
  seed := 0
  verifyServerHostKey _ _ := true

/-- A handshake that has sent its `SSH_MSG_KEXINIT`. -/
def Handshaker.agreeable : Except Error Handshaker :=
  (Handshaker.afterBanner [] [] Backend.agreeable.config (.parse []) true).sendKexInit .agreeable

/-- The first packet of the server, number 0, is rejected as number 1. -/
theorem unimplemented_one : ∃ h t, Handshaker.agreeable = .ok h ∧
    Handshaking.turn .agreeable (.negotiating h) (.ofPayload [200]) = .ok t ∧
    unimplementedPayload 1 ∈ (Handshaking.streamAfter t).written.drop h.stream.written.length := by
  have hrun : (Handshaker.agreeable.bind fun h =>
      (Handshaking.turn .agreeable (.negotiating h) (.ofPayload [200])).map fun t =>
        decide (unimplementedPayload 1 ∈
          (Handshaking.streamAfter t).written.drop h.stream.written.length)) = .ok true := by
    decide +kernel
  obtain ⟨h, hsend, hrun⟩ := Except.bind_eq_ok_iff.mp hrun
  cases hturn : Handshaking.turn .agreeable (.negotiating h) (.ofPayload [200]) with
  | error e =>
    rw [hturn] at hrun
    cases hrun
  | ok t =>
    rw [hturn] at hrun
    injection hrun with hrun
    exact ⟨h, t, hsend, hturn, of_decide_eq_true hrun⟩

/-- A new session in strict mode. -/
def Backend.strictAgreeable : Backend :=
  { Backend.agreeable with
    socket.client.kexStrict := true
    socket.server.kexStrict := true }

/-- The packets of an agreeable server during the handshake. -/
def agreeableArrivals : List Arrival :=
  [.ofPayload (NameLists.agreeableKexInit [ascii "curve25519-sha256"]),
    .ofPayload [31, 0, 0, 0, 0, 0, 0, 0, 0, 0, 0, 0, 0], .ofPayload [sshMsgNewkeys]]

/-- A new session on the stream that a handshake has set up. -/
def Keyed.session (k : Keyed) : Backend :=
  { Backend.agreeable with
    socket.client := k.stream.client
    socket.server := k.stream.server }

/-- The handshake with an agreeable server. -/
theorem handshake_agreeable : ∃ h state last k, Handshaker.agreeable = .ok h ∧
    Skips (Handshaking.turn .agreeable) (.negotiating h) (agreeableArrivals.take 2) state ∧
    Handshaking.turn .agreeable state last = .ok (.done k) ∧
    k.stream.strict = false ∧ k.stream.server.sequenceNumber = 3 := by
  have hrun : (Handshaker.agreeable.toOption.bind fun h =>
      (loop (Handshaking.turn .agreeable) (.negotiating h) agreeableArrivals).result?).any
        (fun run => run.2.length == 0 && !run.1.stream.strict &&
          run.1.stream.server.sequenceNumber == 3) = true := by decide +kernel
  obtain ⟨⟨k, rest⟩, hresult, hk⟩ := (Option.any_eq_true _ _).mp hrun
  obtain ⟨h, hsend, hloop⟩ := Option.bind_eq_some_iff.mp hresult
  obtain ⟨skipped, last, state, harrivals, hskips, hturn⟩ :=
    loop_eq_finished_iff.mp (Outcome.result?_eq_some_iff.mp hloop)
  simp only [Bool.and_eq_true, beq_iff_eq, List.length_eq_zero_iff, Bool.not_eq_true'] at hk
  obtain ⟨⟨rfl, hstrict⟩, hnumber⟩ := hk
  have hskipped : skipped = agreeableArrivals.take 2 := by
    have hlength := congrArg List.length harrivals
    rw [List.length_append] at hlength
    have htwo : skipped.length = 2 := (Nat.succ.inj hlength).symm
    rw [harrivals, ← htwo, List.take_left]
  refine ⟨h, state, last, k, ?_, hskipped ▸ hskips, hturn, hstrict, hnumber⟩
  cases hsent : Handshaker.agreeable with
  | error e =>
    rw [hsent] at hsend
    cases hsend
  | ok h' =>
    rw [hsent] at hsend
    rw [Option.some.inj hsend]

/-- What is said of every run, said of the first packet of a handshake and of the first one of the
session after another. -/
theorem rejections_first_packet :
    (∃ h t, Handshaker.agreeable = .ok h ∧
      Handshaking.turn .agreeable (.negotiating h) (.ofPayload [200]) = .ok t ∧
      (1 : UInt32) = UInt32.ofNat ([] : List Arrival).length + 1) ∧
    ∃ k : Keyed, (k.session.next (.packet [200] .agreeable)).log =
        [.sent (.unimplemented 3), .received [200]] ∧
      NamesRejected false 3 (k.session.next (.packet [200] .agreeable)).log := by
  refine ⟨?_, ?_⟩
  · obtain ⟨h, t, hsend, hturn, hsent⟩ := unimplemented_one
    exact ⟨h, t, hsend, hturn,
      (rejections hsend (.nil (Handshaking.negotiating h))).1 _ t 1 hturn hsent⟩
  · obtain ⟨h, state, last, k, hsend, hskips, hturn, hstrict, hnumber⟩ := handshake_agreeable
    refine ⟨k, ?_, ?_⟩
    · have hlog : (k.session.next (.packet [200] .agreeable)).log =
          [.sent (.unimplemented (k.stream.server.sequenceNumber + 1 - 1)), .received [200]] := rfl
      rw [hlog, hnumber]
      rfl
    · have hinitial : k.session.IsInitial := ⟨rfl, rfl, rfl, rfl, rfl, rfl, rfl, rfl⟩
      have hnamed := (rejections hsend hskips).2 last k k.session
        (k.session.next (.packet [200] .agreeable)) hturn hinitial rfl rfl
        (.next (.start rfl) rfl ⟨rfl, rfl⟩)
      rw [hstrict] at hnamed
      exact hnamed

/-- The handshake rejects the server's packet number 0 as number 1, and a session in strict mode
rejects an `SSH_MSG_NEWKEYS`, its first packet with number 0, as number `u32::MAX`. -/
theorem rejection_of_wrong_packet :
    (∃ h t, Handshaker.agreeable = .ok h ∧
      Handshaking.turn .agreeable (.negotiating h) (.ofPayload [200]) = .ok t ∧
      unimplementedPayload 1 ∈ (Handshaking.streamAfter t).written.drop h.stream.written.length) ∧
    ∃ s, Backend.Reachable s ∧ ¬ NamesRejected true 0 s.log := by
  refine ⟨unimplemented_one, Backend.strictAgreeable.next (.packet [sshMsgNewkeys] .agreeable), ?_, ?_⟩
  · have hinitial : Backend.strictAgreeable.IsInitial := ⟨rfl, rfl, rfl, rfl, rfl, rfl, rfl, rfl⟩
    exact .next (.start hinitial) trivial ⟨rfl, rfl⟩
  · intro hnamed
    have hlog : (Backend.strictAgreeable.next (.packet [sshMsgNewkeys] .agreeable)).log =
        [.sent (.unimplemented (0 - 1)), .received [sshMsgNewkeys]] := rfl
    obtain ⟨between, payload, earlier, hbefore, -, hnumber⟩ := hnamed [] _ _ hlog
    cases between with
    | nil =>
      injection hbefore with _ hearlier
      subst hearlier
      exact absurd hnumber (by decide)
    | cons effect between =>
      injection hbefore with _ hbefore
      exact absurd hbefore.symm (List.append_ne_nil_of_right_ne_nil _ (List.cons_ne_nil _ _))

end Flatline
