import Flatline.Session.Numbers
import Flatline.Session.ServerRequests

/-!
# The server's channel numbers are unique

A channel that the server confirms, and a channel to the agent or to X11, is refused when its number
is in use; a forwarded channel is not. As long as the server uses fresh numbers for those too, the
numbers are distinct, and what is sent on a channel is charged to the handle of that channel.

Source: `src/session/backend.rs`.
-/

namespace Flatline

open Relation Triple

variable {s : Backend} {i : Input} {Q : Effect → Prop} {L L' : Ledger}

/-! ## Distinct numbers -/

/-- An open for a forwarded connection. -/
def Message.isForwarded : Message → Bool
  | .channelOpenForwardedTcpIp .. | .channelOpenForwardedStreamLocal .. => true
  | _ => false

/-- The server's number in an open for a forwarded connection that there is a listener for. -/
def Backend.forwardedNumber (s : Backend) : Input → Option UInt32
  | .packet payload env =>
    match Message.parse payload with
    | .ok msg => if msg.isForwarded then s.acceptsOpen env msg else none
    | .error _ => none
  | _ => none

/-- A connection that is forwarded to a listener has a number that no registered channel has. -/
def ForwardsFresh (s : Backend) (i : Input) : Prop :=
  ∀ sender ∈ s.forwardedNumber i, sender ∉ s.ledger.serverIds

instance (s : Backend) (i : Input) : Decidable (ForwardsFresh s i) :=
  decidable_of_iff ((s.forwardedNumber i).all fun sender => decide (sender ∉ s.ledger.serverIds))
    (by simp [ForwardsFresh, Option.all_eq_true])

/-- A channel to the agent or to X11 is refused when its number is in use. -/
theorem refused_of_used {env : Env} {msg : Message} {sender : UInt32}
    {verdict : Except OpenRefusal OpenGrant} (hmsg : msg.isForwarded = false)
    (hopen : s.serverOpen env msg = some (sender, verdict)) (hused : sender ∈ s.ledger.serverIds) :
    ∃ refusal, verdict = .error refusal := by
  have hfound : (s.byServer sender).isSome = true := by
    by_contra hfree
    exact (Backend.byServer_eq_none_iff s sender).mp (Bool.eq_false_of_not_eq_true hfree) hused
  cases msg with
  | channelOpenAgentConnect sender' window packet =>
    injection hopen with hopen
    injection hopen with hsender hverdict
    subst hsender
    rw [← hverdict, SessionInner.verifyAgentConnect, if_pos hfound]
    exact ⟨_, rfl⟩
  | channelOpenX11 sender' window packet address port =>
    injection hopen with hopen
    injection hopen with hsender hverdict
    subst hsender
    rw [← hverdict, SessionInner.verifyX11]
    cases portOf port with
    | none => exact ⟨_, rfl⟩
    | some port =>
      simp only
      rw [if_pos hfound]
      exact ⟨_, rfl⟩
  | channelOpenForwardedTcpIp | channelOpenForwardedStreamLocal => cases hmsg
  | _ => cases hopen

theorem server_not_mem_of_accepts {env : Env} {msg : Message} {sender : UInt32}
    (haccepts : s.acceptsOpen env msg = some sender) (hmsg : msg.isForwarded = false) :
    sender ∉ s.ledger.serverIds := by
  intro hused
  unfold SessionInner.acceptsOpen at haccepts
  split at haccepts
  · next hopen =>
      obtain rfl := Option.some.inj haccepts
      obtain ⟨refusal, hverdict⟩ := refused_of_used hmsg hopen hused
      cases hverdict
  · cases haccepts

/-- A channel that the server opens is accepted under a free number, if forwarded connections have
one. -/
theorem ForwardsFresh.not_mem {payload : Bytes} {env : Env} {msg : Message} {sender : UInt32}
    (hguard : ForwardsFresh s i) (hi : i = .packet payload env)
    (hparse : Message.parse payload = .ok msg) (haccepts : s.acceptsOpen env msg = some sender) :
    sender ∉ s.ledger.serverIds := by
  cases hmsg : msg.isForwarded with
  | false => exact server_not_mem_of_accepts haccepts hmsg
  | true =>
    refine hguard sender ?_
    subst hi
    simp only [Backend.forwardedNumber, hparse, hmsg, if_true, haccepts, Option.mem_some_iff]

theorem Registers.server_not_mem {id : IdentityPair} (h : Registers s i id)
    (hguard : ForwardsFresh s i) : id.server ∉ s.ledger.serverIds := by
  cases h with
  | accepted hi hparse haccepts => exact hguard.not_mem hi hparse haccepts
  | confirmed _ _ _ hfresh => exact hfresh

/-- Along a path the server's numbers stay distinct. -/
theorem serverIds_path (hs : s.ledger.serverIds.Nodup) (hguard : ForwardsFresh s i)
    (hpath : LedgerPath s i Q s.ledger L) : L.serverIds.Nodup := by
  induction hpath with
  | refl => exact hs
  | @tail M _ _ hstep ih =>
    rw [Ledger.serverIds_eq] at ih ⊢
    rcases hstep.ids_cases with hsub | ⟨id, hids, happend, hregisters⟩
    · exact ih.sublist (hsub.map _)
    · have hservers : M.ids.map (·.server) = s.ledger.serverIds := by
        rw [hids, Ledger.serverIds_eq]
      rw [happend, List.map_append, List.map_singleton, hservers]
      refine List.nodup_append.mpr ⟨hs, List.nodup_singleton _, ?_⟩
      rintro a ha b hb rfl
      exact hregisters.server_not_mem hguard (List.mem_singleton.mp hb ▸ ha)

/-! ## Sending -/

/-- How many octets of data the client has sent on a channel. -/
def sentOctets (id : IdentityPair) : List Effect → ℕ
  | [] => 0
  | .sent (.channelData id' data) :: rest =>
    if id' = id then sentOctets id rest + data.length else sentOctets id rest
  | _ :: rest => sentOctets id rest

/-- The table with octets charged to one channel. -/
def chargeOwn (id : IdentityPair) (size : ℕ) (channels : List ChannelHandle) :
    List ChannelHandle :=
  channels.map fun handle => if handle.id = id then handle.charge size else handle

/-- A send event charges exactly what it sends, and to the channel with its own pair. -/
def ChargesOwn (s : Backend) (id : IdentityPair) (s' : Backend) : Prop :=
  ∃ size, sentOctets id s'.log = sentOctets id s.log + size ∧
    s'.channels = chargeOwn id size s.channels

/-- The channel a send event names is registered, or no registered channel has its server's
number. -/
def SendsOnOwn (s : Backend) : Input → Prop
  | .event (.channelSendData id _) _ => id ∈ s.ledger.ids ∨ id.server ∉ s.ledger.serverIds
  | _ => True

instance (s : Backend) (i : Input) : Decidable (SendsOnOwn s i) := by
  unfold SendsOnOwn
  split <;> infer_instance

theorem sentOctets_quiet {effect : Effect} {log : List Effect} (id : IdentityPair)
    (h : effect.Quiet) : sentOctets id (effect :: log) = sentOctets id log := by
  cases effect with
  | sent message =>
    cases message with
    | channelData => cases h
    | _ => rfl
  | _ => rfl

theorem ChannelHandle.charge_charge (handle : ChannelHandle) (m n : ℕ) :
    (handle.charge m).charge n = handle.charge (m + n) := by
  simp only [ChannelHandle.charge, Int.natCast_add, Int.add_assoc]

theorem ChannelHandle.charge_zero (handle : ChannelHandle) : handle.charge 0 = handle := by
  simp [ChannelHandle.charge]

theorem chargeOwn_zero (id : IdentityPair) (channels : List ChannelHandle) :
    chargeOwn id 0 channels = channels := by
  simp [chargeOwn, ChannelHandle.charge_zero]

/-- Charging the one channel with the given server's number. -/
theorem set_chargeOwn {id : IdentityPair} {channels : List ChannelHandle} {index m n : ℕ}
    {handle : ChannelHandle} (hnodup : (channels.map (·.server.id)).Nodup)
    (hget : (chargeOwn id m channels)[index]? = some handle)
    (hserver : handle.server.id = id.server) (hmem : id ∈ channels.map (·.id)) :
    (chargeOwn id m channels).set index (handle.charge n) = chargeOwn id (m + n) channels := by
  obtain ⟨own, howned, rfl⟩ := List.mem_map.mp hmem
  obtain ⟨k, hk, rfl⟩ := List.getElem_of_mem howned
  simp only [chargeOwn, List.getElem?_map, Option.map_eq_some_iff] at hget
  obtain ⟨old, hold, rfl⟩ := hget
  obtain ⟨hlt, rfl⟩ := List.getElem?_eq_some_iff.mp hold
  -- the handle with the server's number is the one with the pair
  obtain rfl : index = k := index_eq_of_map hnodup hlt hk (by split at hserver <;> exact hserver)
  refine List.ext_getElem (by simp [chargeOwn]) fun j hj hj' => ?_
  have hlen : j < channels.length := by simpa [chargeOwn] using hj'
  rw [List.getElem_set]
  by_cases hindex : index = j
  · subst hindex
    simp only [chargeOwn, List.getElem_map, if_true, ChannelHandle.charge_charge]
  · have hother : channels[j].id ≠ channels[index].id := fun hid =>
      hindex (index_eq_of_map hnodup hlen hlt (congrArg IdentityPair.server hid)).symm
    simp only [chargeOwn, List.getElem_map, if_neg hother, if_neg hindex]

/-- The steps of a send event. -/
theorem LedgerStep.send_cases {id : IdentityPair} {data : Bytes} {env : Env}
    (h : LedgerStep s (.event (.channelSendData id data) env) Q L L') :
    (∃ effect, Q effect ∧ L' = L.note effect) ∨
    ∃ chunk index handle, L.channels[index]? = some handle ∧ handle.server.id = id.server ∧
      L' = (L.note (.sent (.channelData id chunk))).set index (handle.charge chunk.length) := by
  cases h with
  | note h => exact .inl ⟨_, h, rfl⟩
  | data hi _ _ hget hserver =>
    injection hi with hevent
    injection hevent with hid
    subst hid
    exact .inr ⟨_, _, _, hget, hserver, rfl⟩
  | drop hi => cases hi
  | announce hi hopens =>
    injection hi with hevent
    subst hevent
    cases hopens
  | request hi hid =>
    injection hi with hevent
    subst hevent
    cases hid
  | receive hi | peerClose hi | peerEof hi | peerData hi | peerDataRefill hi | peerAdjust hi
  | accept hi | confirm hi | closeEvent hi | closeRefused hi | sweep hi | reap hi | eof hi
  | requestOpened hi => cases hi

/-- With distinct numbers, a send event charges its own channel with what it sends. -/
theorem chargesOwn_next {id : IdentityPair} {data : Bytes} {env : Env}
    (hnodup : s.ledger.serverIds.Nodup)
    (hguard : SendsOnOwn s (.event (.channelSendData id data) env)) :
    ChargesOwn s id (s.next (.event (.channelSendData id data) env)) := by
  have hkept : ∀ L, LedgerPath s (.event (.channelSendData id data) env) Effect.Quiet s.ledger L →
      ∃ size, sentOctets id L.log = sentOctets id s.log + size ∧
        L.channels = chargeOwn id size s.channels := by
    intro L hpath
    induction hpath with
    | refl => exact ⟨0, rfl, (chargeOwn_zero id s.channels).symm⟩
    | tail _ hstep ih =>
      obtain ⟨size, hoctets, hchannels⟩ := ih
      rcases hstep.send_cases with ⟨effect, hquiet, rfl⟩ | ⟨chunk, index, handle, hget, hserver, rfl⟩
      · exact ⟨size, (sentOctets_quiet id hquiet).trans hoctets, hchannels⟩
      · refine ⟨size + chunk.length, ?_, ?_⟩
        · show (if id = id then sentOctets id _ + chunk.length else _) = _
          rw [if_pos rfl, hoctets, Nat.add_assoc]
        · rw [hchannels] at hget
          refine Eq.trans (congrArg (List.set · index _) hchannels) ?_
          refine set_chargeOwn hnodup hget hserver (hguard.resolve_right fun hnot => hnot ?_)
          -- the handle the loop charges has this server's number from the start
          simp only [chargeOwn, List.getElem?_map, Option.map_eq_some_iff] at hget
          obtain ⟨old, hold, rfl⟩ := hget
          refine List.mem_map.mpr ⟨old, List.mem_of_getElem? hold, ?_⟩
          split at hserver <;> exact hserver
  exact hkept _ (ledgerPath_next s _)

/-! ## Refusing -/

/-- The server's number in the open of a channel to the agent or to X11. -/
def Message.opensUnder : Message → Option UInt32
  | .channelOpenAgentConnect sender .. | .channelOpenX11 sender .. => some sender
  | _ => none

/-- A number that is in use is refused on the other paths: the open of a channel to the agent or to
X11 is answered with a failure, a confirmation ends the event that waits for it, and no channel
changes. -/
structure RefusesUsed (s : Backend) : Prop where
  opens : ∀ (payload : Bytes) (env : Env) (msg : Message) (sender : UInt32),
    s.task.running = true → Message.parse payload = .ok msg → msg.opensUnder = some sender →
    sender ∈ s.ledger.serverIds → env.Writes →
      (s.next (.packet payload env)).channels = s.channels ∧
      ∃ effects refusal, (s.next (.packet payload env)).log =
          effects ++ .sent (.channelOpenFailure sender sshOpenConnectFailed
            (OpenRefusal.display refusal)) :: .received payload :: s.log ∧
        ∀ effect ∈ effects, effect.isSettles = true
  confirmations : ∀ (payload : Bytes) (env : Env)
    (clientId sender window packet ownWindow ownPacket : UInt32) (sftp : Bool),
    s.task = .waiting (.openingChannel clientId ownWindow ownPacket sftp) →
    Message.parse payload = .ok (.channelOpenConfirmation clientId sender window packet) →
    sender ∈ s.ledger.serverIds →
      (s.next (.packet payload env)).channels = s.channels ∧
      ∃ effects, (s.next (.packet payload env)).log =
          effects ++ .answered (.error (.session .channelAlreadyOpen)) :: .received payload ::
            s.log ∧
        ∀ effect ∈ effects, effect.isSettles = true

/-- The turn of an open that is refused. -/
theorem next_of_refusal {payload : Bytes} {env : Env} {msg : Message} {refusal : OpenRefusal}
    (sender window packet : UInt32)
    (hhandles : s.handles env payload = some msg) (hwrites : env.Writes)
    (hrun : handleMsg env msg s.task.isIdle (s.afterRecv payload) = (do
      openChannel env sender window packet (.error refusal)
      return none : BackendM (Option Bytes)) (s.afterRecv payload)) :
    (s.next (.packet payload env)).channels = s.channels ∧
      ∃ effects, (s.next (.packet payload env)).log =
          effects ++ .sent (.channelOpenFailure sender sshOpenConnectFailed refusal.display) ::
            .received payload :: s.log ∧
        ∀ effect ∈ effects, effect.isSettles = true := by
  let message := ClientMessage.channelOpenFailure sender sshOpenConnectFailed refusal.display
  let w := (s.afterRecv payload).afterSend message
  have hsend : openChannel env sender window packet (.error refusal) (s.afterRecv payload) =
      .ok () w := by
    change sendPayload env message (s.afterRecv payload) = _
    rw [sendPayload_run env _ (length_refusal_le sender refusal), hwrites.writeError_eq_none]
  rw [bind_of_ok hsend] at hrun
  have hsettled : Grows Effect.isSettles [] w _ := grows_settleHandled env s.task (.ok none w)
  obtain ⟨effects, hlog, hsettles⟩ := hsettled.log
  rw [next_of_handles hhandles, hrun]
  exact ⟨untraced_channels.settleHandled env s.task (.ok none w), effects, hlog, hsettles⟩

theorem refusesUsed (s : Backend) : RefusesUsed s where
  opens := by
    intro payload env msg sender hrunning hparse hopens hused hwrites
    have hrefused {verdict : Except OpenRefusal OpenGrant} (hmsg : msg.isForwarded = false)
        (hopen : (s.afterRecv payload).serverOpen env msg = some (sender, verdict)) :
        ∃ refusal, verdict = .error refusal :=
      refused_of_used (s := s.afterRecv payload) hmsg hopen hused
    cases msg with
    | channelOpenAgentConnect sender' window packet =>
      obtain rfl := Option.some.inj hopens
      obtain ⟨refusal, hverdict⟩ := hrefused rfl rfl
      obtain ⟨hchannels, effects, hlog⟩ := next_of_refusal sender' window packet
        (handles_of_isRequest hrunning hparse rfl) hwrites (by
          rw [← hverdict]
          rfl)
      exact ⟨hchannels, effects, refusal, hlog⟩
    | channelOpenX11 sender' window packet address port =>
      obtain rfl := Option.some.inj hopens
      obtain ⟨refusal, hverdict⟩ := hrefused rfl rfl
      obtain ⟨hchannels, effects, hlog⟩ := next_of_refusal sender' window packet
        (handles_of_isRequest hrunning hparse rfl) hwrites (by
          rw [← hverdict]
          rfl)
      exact ⟨hchannels, effects, refusal, hlog⟩
    | _ => cases hopens
  confirmations := by
    intro payload env clientId sender window packet ownWindow ownPacket sftp htask hparse hused
    have hfound : ((s.afterRecv payload).byServer sender).isSome = true := by
      by_contra hfree
      exact (Backend.byServer_eq_none_iff s sender).mp (Bool.eq_false_of_not_eq_true hfree) hused
    have hreact : Wait.react env (.openingChannel clientId ownWindow ownPacket sftp) payload =
        some (finishOpening env (.opened clientId ownWindow ownPacket) sftp sender window
          packet) := by
      simp only [Wait.react, hparse]
      exact congrArg some (if_neg (not_not.mpr rfl))
    have hrun : finishOpening env (.opened clientId ownWindow ownPacket) sftp sender window packet
        (s.afterRecv payload) =
          .error (.error (.session .channelAlreadyOpen)) (s.afterRecv payload) := by
      unfold finishOpening
      rw [get_bind, if_pos hfound]
      rfl
    have hsettled : Grows Effect.isEnds [] ((s.afterRecv payload).note
        (.answered (.error (.session .channelAlreadyOpen)))) _ :=
      grows_endEvent env (s.afterRecv payload) (.error (.session .channelAlreadyOpen))
    obtain ⟨effects, hlog, hends⟩ := hsettled.log
    rw [next_of_react htask (parse_ne_nil hparse) hreact, hrun]
    refine ⟨untraced_channels.settleEvent env _, effects, hlog, fun effect heffect => ?_⟩
    exact Effect.isSettles_of_isEnds (hends effect heffect)

/-- In every run in which connections are forwarded under fresh numbers, the server's numbers are
distinct, what is sent on a channel is charged to the handle of that channel, and a number that is
in use is refused wherever the client looks. -/
theorem uniqueServerIds
    (h : Backend.ReachableVia (fun s i => ForwardsFresh s i ∧ SendsOnOwn s i ∧ i.Writes) s) :
    (s.channels.map (·.server.id)).Nodup ∧
      (∀ id data env, SendsOnOwn s (.event (.channelSendData id data) env) → env.Writes →
        ChargesOwn s id (s.next (.event (.channelSendData id data) env))) ∧
      RefusesUsed s := by
  have hnodup : s.ledger.serverIds.Nodup :=
    h.invariant (fun s hs => by simp [Ledger.serverIds, Backend.ledger, hs.channels])
      fun s i s' hs hguard hstep => hstep.2 ▸ serverIds_path hs hguard.1 (ledgerPath_next s i)
  exact ⟨hnodup, fun id data env hsends _ => chargesOwn_next hnodup hsends, refusesUsed s⟩

/-- The server opens a connection to the listener of the empty path under its number `sender`. -/
def forwardedOpen (sender : UInt32) : Bytes :=
  makeBufferWithoutHeader [.u8 sshMsgChannelOpen, .one sshChannelTypeForwardedStreamLocal,
    .u32 sender, .u32 65536, .u32 32768, .one [], .one []]

/-- Two channels with different numbers, and octets sent on the second one. -/
theorem uniqueServerIds_two_channels :
    ∃ s, (s.channels.map (·.server.id)).Nodup ∧ s.channels.map (·.server.id) = [7, 8] ∧
      ChargesOwn s ⟨2, 8⟩ (s.next (.event (.channelSendData ⟨2, 8⟩ [1, 2, 3]) .agreeable)) := by
  obtain ⟨s, hs, hids⟩ := Backend.exists_reachable
    (fun s i => ForwardsFresh s i ∧ SendsOnOwn s i ∧ i.Writes)
    [.packet (agentOpen 7) .agreeable, .packet (agentOpen 8) .agreeable]
    (fun s => s.channels.map (·.id) = [⟨1, 7⟩, ⟨2, 8⟩]) (by decide +kernel)
  have hids := of_decide_eq_true hids
  have hmem : SendsOnOwn s (.event (.channelSendData ⟨2, 8⟩ [1, 2, 3]) .agreeable) := by
    refine .inl ?_
    rw [Ledger.ids, Backend.ledger, hids]
    decide
  obtain ⟨hnodup, hcharges, -⟩ := uniqueServerIds hs
  refine ⟨s, hnodup, ?_, hcharges ⟨2, 8⟩ [1, 2, 3] .agreeable hmem rfl⟩
  simpa [Function.comp_def, ChannelHandle.id] using congrArg (List.map IdentityPair.server) hids

/-- The server opens two channels to one listener under one number: both are accepted. -/
theorem uniqueServerIds_fails_on_forwarded_opens :
    ¬ ∀ s, Backend.Reachable s → (s.channels.map (·.server.id)).Nodup := by
  intro hunique
  obtain ⟨s, hs, hids⟩ := Backend.exists_reachable (fun _ _ => True)
    [.event (.globalRequestStreamLocalForward [] 65536 32768) .agreeable,
      .packet [sshMsgRequestSuccess] .agreeable, .packet (forwardedOpen 7) .agreeable,
      .packet (forwardedOpen 7) .agreeable]
    (fun s => s.channels.map (·.server.id) = [7, 7]) (by decide +kernel)
  have hnodup := hunique s hs
  rw [of_decide_eq_true hids] at hnodup
  exact absurd hnodup (by decide)

end Flatline
