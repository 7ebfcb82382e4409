import Flatline.Kex.Handshaker
import Flatline.Kex.KexInitWire
import Flatline.Kex.Negotiation
import Flatline.Session.Backend

/-!
# Negotiation in the handshake and in a rekey

`Handshaker::negotiate_methods` and `RekeyExchange::negotiate_methods` send the same lists and
settle on the same methods. Both search the configuration for the server's names, not the list that
they have just sent.

Source: `src/session/handshake.rs` (`Handshaker::negotiate_methods`,
`RekeyExchange::negotiate_methods`).
-/

namespace Flatline

/-- The initial handshake takes `result` from a server's `SSH_MSG_KEXINIT`: it goes on with the
matched methods, or it fails. -/
def Handshaker.SettlesOn (h : Handshaker) (payload : Bytes)
    (result : Except Error MatchedMethods) : Prop :=
  ∀ env arrival stream, h.stream.recvPacket arrival = .ok (payload, stream) →
    match result with
    | .ok matched => ∃ n, h.negotiateTurn env arrival = .ok (.done n) ∧
        n.clientKexMsg = h.kexInit env ∧ n.serverKexMsg = payload ∧ n.matched = matched
    | .error e => h.negotiateTurn env arrival = .error e

/-- A rekey takes `result` from a server's `SSH_MSG_KEXINIT`. -/
def Backend.SettlesOn (s : Backend) (payload : Bytes)
    (result : Except Error MatchedMethods) : Prop :=
  ∀ env clientKexMsg, matchMethods env clientKexMsg payload s =
    match result with
    | .ok matched =>
      beginKeyExchange env { clientKexMsg, serverKexMsg := payload, matched } s
    | .error e => .error (.error e) s

variable {config : Config} {payload : Bytes} {lists : NameLists}

/-- What the name lists are read from starts with the message number. -/
theorem head?_of_consumeNameLists
    (h : Consumer.run' Methods.consumeNameLists payload = .ok lists) :
    payload.head? = some sshMsgKexinit := by
  unfold Consumer.run' Methods.consumeNameLists at h
  cases payload with
  | nil => simp only [bind, EStateM.bind, Consumer.consumeU8, reduceCtorEq] at h
  | cons number rest =>
    by_cases hnumber : number = sshMsgKexinit
    · rw [hnumber, List.head?_cons]
    · simp only [bind, EStateM.bind, Consumer.consumeU8_cons, ne_eq, hnumber, not_false_eq_true,
        ↓reduceIte, throw, throwThe, MonadExceptOf.throw, EStateM.throw, reduceCtorEq] at h

theorem Handshaker.settlesOn {h : Handshaker}
    (hlists : Consumer.run' Methods.consumeNameLists payload = .ok lists) :
    h.SettlesOn payload (h.config.negotiate (Methods.stripMarkers lists)) := by
  intro env arrival stream hrecv
  have hmatch : (h.config.matchServer payload).map Prod.snd = _ := Config.matchServer_eq hlists
  unfold negotiateTurn
  simp only [hrecv, bind, Except.bind, head?_of_consumeNameLists hlists, ↓reduceIte]
  cases hserver : h.config.matchServer payload with
  | ok pair =>
    rw [hserver] at hmatch
    rw [← hmatch]
    exact ⟨_, rfl, rfl, rfl, rfl⟩
  | error e =>
    rw [hserver] at hmatch
    rw [← hmatch]
    rfl

theorem Backend.settlesOn {s : Backend}
    (hlists : Consumer.run' Methods.consumeNameLists payload = .ok lists) :
    s.SettlesOn payload (s.config.negotiate (Methods.stripMarkers lists)) := by
  intro env clientKexMsg
  have hmatch : (s.config.matchServer payload).map Prod.snd = _ := Config.matchServer_eq hlists
  change (liftExcept (s.config.matchServer payload) >>= _) s = _
  cases hserver : s.config.matchServer payload with
  | ok pair =>
    rw [hserver] at hmatch
    rw [← hmatch]
    rfl
  | error e =>
    rw [hserver] at hmatch
    rw [← hmatch]
    rfl

/-! ## Agreement -/

/-- Whatever the configuration, the quirks and the server's lists are, the initial handshake and
every rekey send the lists `advertised` and settle on one result, and the result agrees with the
lists both sides sent exactly under `NegotiationAgreesWhen`. -/
theorem negotiations_agree_iff (config : Config) (compat : CompatOptions) (payload : Bytes)
    (lists : NameLists) (hlists : Consumer.run' Methods.consumeNameLists payload = .ok lists) :
    (∀ h : Handshaker, h.config = config → h.compatOptions = compat →
      (∀ env, h.kexInit env = makeBufferWithoutHeader
        (Methods.kexInitFields env.cookie (config.clientMethods compat).advertised)) ∧
      h.SettlesOn payload (config.negotiate (Methods.stripMarkers lists))) ∧
    (∀ s : Backend, s.config = config → s.compatOptions = compat →
      (∀ env, sendKexInit env s =
        let kexInit := makeBufferWithoutHeader
          (Methods.kexInitFields env.cookie (config.clientMethods compat).advertised)
        (sendPayload env (.kexInit kexInit) >>= fun _ => pure kexInit) s) ∧
      s.SettlesOn payload (config.negotiate (Methods.stripMarkers lists))) ∧
    (NegotiationAgrees config (config.clientMethods compat).advertised lists
        (config.negotiate (Methods.stripMarkers lists)) ↔
      NegotiationAgreesWhen config compat lists) := by
  refine ⟨?_, ?_, negotiationAgrees_iff config compat lists⟩
  · rintro h rfl rfl
    exact ⟨fun env => rfl, Handshaker.settlesOn hlists⟩
  · rintro s rfl rfl
    exact ⟨fun env => rfl, Backend.settlesOn hlists⟩

/-! ## The method that is withdrawn -/

/-- A configuration with the method that is withdrawn from servers with the quirk, and another. -/
def Config.withdrawing : Config :=
  .accepting
    { entries := [(Methods.compatMethod, .accepting Methods.compatMethod),
        (ascii "ecdh-sha2-nistp256", .accepting (ascii "ecdh-sha2-nistp256"))]
      nodup := by decide } false

/-- The lists of a server that has both methods. -/
def NameLists.withBoth : NameLists :=
  (NameLists.agreeable [Methods.compatMethod, ascii "ecdh-sha2-nistp256"]).map rewritten

/-- The `SSH_MSG_KEXINIT` of that server. -/
def NameLists.withBothKexInit : Bytes :=
  NameLists.agreeableKexInit [Methods.compatMethod, ascii "ecdh-sha2-nistp256"]

theorem consumeNameLists_withBoth :
    Consumer.run' Methods.consumeNameLists NameLists.withBothKexInit = .ok .withBoth := by
  decide +kernel

/-- Both sides settle on one method if the server has no quirk. -/
theorem negotiations_agree_withBoth :
    ∃ result, (∀ h : Handshaker, h.config = .withdrawing → h.compatOptions = .parse [] →
        h.SettlesOn NameLists.withBothKexInit result) ∧
      NegotiationAgrees .withdrawing (Config.withdrawing.clientMethods (.parse [])).advertised
        .withBoth result := by
  obtain ⟨hinitial, -, hagrees⟩ :=
    negotiations_agree_iff .withdrawing (.parse []) _ _ consumeNameLists_withBoth
  refine ⟨_, fun h hconfig hcompat => (hinitial h hconfig hcompat).2, hagrees.mpr (.inr ?_)⟩
  have hfirst : Preference.firstCommon Config.withdrawing.kex.keys NameLists.withBoth.kex =
      some Methods.compatMethod := by decide +kernel
  unfold KexAgrees
  rw [hfirst]
  exact ⟨by decide, by decide⟩

/-- `OpenSSH_6.6` has both methods. The client does not send it the name of the first one, and
still settles on it: the server settles on the second. -/
theorem withdrawn_method_used : ∃ matched,
    (∀ h : Handshaker, h.config = .withdrawing →
      h.compatOptions = .parse (ascii "OpenSSH_6.6") →
      h.SettlesOn NameLists.withBothKexInit (.ok matched)) ∧
    ¬ NegotiationAgrees .withdrawing
      (Config.withdrawing.clientMethods (.parse (ascii "OpenSSH_6.6"))).advertised .withBoth
      (.ok matched) := by
  have hname : (Config.withdrawing.negotiate (Methods.stripMarkers .withBoth)).map
      (·.names .kex) = .ok Methods.compatMethod := by decide +kernel
  cases hresult : Config.withdrawing.negotiate (Methods.stripMarkers .withBoth) with
  | error e =>
    rw [hresult] at hname
    cases hname
  | ok matched =>
    rw [hresult] at hname
    injection hname with hname
    refine ⟨matched, ?_, ?_⟩
    · rintro h hconfig -
      have hsettles : h.SettlesOn _ _ := Handshaker.settlesOn consumeNameLists_withBoth
      rw [hconfig, hresult] at hsettles
      exact hsettles
    · intro hagrees
      obtain ⟨name, hfirst, huses⟩ := hagrees .kex
      rw [huses.1.symm.trans hname] at hfirst
      revert hfirst
      decide +kernel

end Flatline
