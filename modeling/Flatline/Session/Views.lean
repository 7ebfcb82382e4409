import Flatline.Session.Turns

/-!
# Views of the session

`Leaves view` says that a program leaves a part of the state alone. A view that shows nothing of what
is sent or noted stays as it is while packets go out and turns are settled (`Untraced`); one that
shows no channel either stays as it is whatever message comes to `handle_msg` (`Unhandled`).

Source: `src/session/backend.rs`, `src/session/handshake.rs`.
-/

namespace Flatline

open Triple

variable {α β γ : Type}

/-- A program leaves a view of the state alone, whether it returns or stops. -/
def Leaves (view : Backend → γ) (m : BackendM α) : Prop :=
  ∀ x, Holds (fun w => view w = x) m (fun _ w => view w = x) (fun _ w => view w = x)

/-- A view that shows neither what is sent and noted nor where the task is. -/
structure Untraced (view : Backend → γ) : Prop where
  sent : ∀ w message, view (w.afterSend message) = view w
  attempted : ∀ w, view { w with attempts := w.attempts + 1 } = view w
  noted : ∀ w effect, view (w.note effect) = view w
  placed : ∀ w task renegotiating renegotiateMsg,
    view { w with task, renegotiating, renegotiateMsg } = view w

/-- Moreover, it shows neither channels nor what the server announces. -/
structure Unhandled (view : Backend → γ) : Prop extends Untraced view where
  channels : ∀ w channels nextQueue log, view { w with channels, nextQueue, log } = view w
  announced : ∀ w serverAlgorithms serverPingSupported,
    view { w with serverAlgorithms, serverPingSupported } = view w

/-- The channels do not change when something is sent or a turn ends. -/
theorem untraced_channels : Untraced fun s : Backend => s.channels where
  sent _ _ := rfl
  attempted _ := rfl
  noted _ _ := rfl
  placed _ _ _ _ := rfl

variable {view : Backend → γ} {m : BackendM α} {s w : Backend}

theorem leaves_pure (a : α) : Leaves view (pure a : BackendM α) :=
  fun _ => Holds.pure fun _ h => h

theorem leaves_throw (fault : Fault) : Leaves view (throw fault : BackendM α) :=
  fun _ => Holds.throw fun _ h => h

theorem Leaves.bind {f : α → BackendM β} (hm : Leaves view m) (hf : ∀ a, Leaves view (f a)) :
    Leaves view (m >>= f) :=
  fun x => (hm x).bind fun a => hf a x

/-- A program that looks at the state first. -/
theorem Leaves.get_bind {f : Backend → BackendM β} (hf : ∀ w, Leaves view (f w)) :
    Leaves view (get >>= f) :=
  fun x w hw => hf w x w hw

theorem leaves_modify {f : Backend → Backend} (hf : ∀ w, view (f w) = view w) :
    Leaves view (modify f) :=
  fun _ => Holds.modify fun w hw => (hf w).trans hw

/-- The backend that a program comes to which leaves a view alone. -/
theorem Leaves.stateOf (hm : Leaves view m) (s : Backend) :
    view (Flatline.stateOf (m s)) = view s := by
  cases hrun : m s with
  | ok a w => exact (hm (view s)).of_ok rfl hrun
  | error fault w => exact (hm (view s)).of_error rfl hrun

theorem leaves_liftExcept (x : Except Error α) : Leaves view (liftExcept x) := by
  cases x with
  | error e => exact leaves_throw _
  | ok a => exact leaves_pure a

theorem leaves_leftOrPanic (endpoint : ChannelEndpoint) : Leaves view (leftOrPanic endpoint) := by
  unfold leftOrPanic
  split
  · exact leaves_pure _
  · exact leaves_throw _

/-! ## Sending -/

namespace Untraced

variable (hview : Untraced view)
include hview

theorem note (effect : Effect) : Leaves view (note effect) :=
  leaves_modify fun w => hview.noted w effect

theorem sendPayload (env : Env) (message : ClientMessage) :
    Leaves view (sendPayload env message) := by
  rintro x w rfl
  unfold Flatline.sendPayload
  by_cases hlen : message.encode.length > maxPacketPayloadLength
  · rw [if_pos hlen]
  · rw [if_neg hlen]
    cases env.writeError w.attempts with
    | none => exact hview.sent w message
    | some e => exact hview.attempted w

/-- Send a message, then wait for what the server has to say. -/
theorem sendAndWait (env : Env) (message : ClientMessage) (progress : Progress) :
    Leaves view (do
      Flatline.sendPayload env message
      return progress) :=
  (hview.sendPayload env _).bind fun _ => leaves_pure _

/-! ## Key exchanges -/

theorem sendPublicKey (env : Env) (rekey : Rekey) (group : Option (Bytes × Bytes)) :
    Leaves view (sendPublicKey env rekey group) :=
  (leaves_liftExcept _).bind fun _ => (hview.sendPayload env _).bind fun _ => leaves_pure _

theorem beginKeyExchange (env : Env) (rekey : Rekey) :
    Leaves view (beginKeyExchange env rekey) := by
  unfold Flatline.beginKeyExchange
  split
  · exact hview.sendPublicKey env _ _
  · exact .get_bind fun _ => (hview.sendPayload env _).bind fun _ => leaves_pure _

theorem matchMethods (env : Env) (clientKexMsg serverKexMsg : Bytes) :
    Leaves view (matchMethods env clientKexMsg serverKexMsg) :=
  .get_bind fun _ => (leaves_liftExcept _).bind fun _ => hview.beginKeyExchange env _

theorem negotiateMethods (env : Env) (serverKexMsg : Option Bytes) (clientKexMsg : Bytes) :
    Leaves view (negotiateMethods env serverKexMsg clientKexMsg) := by
  cases serverKexMsg with
  | none => exact leaves_pure _
  | some serverKexMsg => exact hview.matchMethods env _ _

theorem sendKexInit (env : Env) : Leaves view (sendKexInit env) :=
  .get_bind fun _ => (hview.sendPayload env _).bind fun _ => leaves_pure _

/-! ## Cleaning -/

theorem forwardLocalCleanLoop (env : Env) (paths : List Text) :
    Leaves view (forwardLocalCleanLoop env paths) := by
  cases paths with
  | nil => exact leaves_pure _
  | cons path rest => exact hview.sendAndWait env _ _

theorem forwardLocalClean (env : Env) (forwardLocal : Bool) :
    Leaves view (forwardLocalClean env forwardLocal) := by
  unfold Flatline.forwardLocalClean
  split
  · exact .get_bind fun w => hview.forwardLocalCleanLoop env _
  · exact leaves_pure _

theorem forwardTcpCleanLoop (env : Env) (forwardLocal : Bool) (addrs : List SocketAddr) :
    Leaves view (forwardTcpCleanLoop env forwardLocal addrs) := by
  cases addrs with
  | nil => exact hview.forwardLocalClean env forwardLocal
  | cons addr rest => exact hview.sendAndWait env _ _

/-- Cleaning up leaves alone what cleaning the channels leaves alone, if it comes to that. -/
theorem clean (env : Env) {channel : Bool} (forwardTcp forwardLocal : Bool)
    (hchannels : channel = true → Leaves view (channelClean env)) :
    Leaves view (clean env channel forwardTcp forwardLocal) := by
  have hfirst : Leaves view (if channel then channelClean env else return : BackendM Unit) := by
    split
    · next hchannel => exact hchannels hchannel
    · exact leaves_pure _
  refine hfirst.bind fun _ => ?_
  split
  · exact .get_bind fun w => hview.forwardTcpCleanLoop env _ _
  · exact hview.forwardLocalClean env _

/-! ## The ends of turns -/

theorem stop {fault : Fault} (fail : Error → Backend → Backend)
    (hfail : ∀ e, view (fail e w) = view w) : view (w.stop fault fail) = view w := by
  cases fault with
  | error e => exact hfail e
  | panicked | stuck => exact hview.placed w _ _ _

theorem startRekey (env : Env) (origin : RekeyOrigin) (serverKexMsg : Option Bytes)
    {fail : Error → Backend → Backend} (hfail : ∀ e w, view (fail e w) = view w) :
    view (w.startRekey env origin serverKexMsg fail) = view w := by
  have hstart := rekeyStart w env origin serverKexMsg fail
  generalize w.startRekey env origin serverKexMsg fail = t at hstart ⊢
  cases hstart with
  | unsent hinit =>
    refine (hview.stop fail fun e => hfail e _).trans ?_
    exact (hview.sendKexInit env _).of_error rfl hinit
  | @failed clientKexMsg fault w₁ w₂ hinit hmethods =>
    have hnoted : view (w₂.stop fault fun e w => fail e (w.note (.rekeyFailed origin e))) =
        view w₂ := hview.stop _ fun e => (hfail e _).trans (hview.noted w₂ _)
    rw [hnoted]
    have hsent := (hview.sendKexInit env _).of_ok rfl hinit
    exact (hview.negotiateMethods env _ _ _).of_error hsent hmethods
  | @started clientKexMsg phase w₁ w₂ hinit hmethods =>
    have hsent := (hview.sendKexInit env _).of_ok rfl hinit
    refine (hview.placed w₂ _ _ _).trans ?_
    exact (hview.negotiateMethods env _ _ _).of_ok hsent hmethods

theorem afterIteration (env : Env) (w : Backend) : view (w.afterIteration env) = view w := by
  unfold Backend.afterIteration
  split
  · exact hview.placed w _ _ _
  · exact (hview.startRekey env _ _ fun _ w => hview.placed w _ _ _).trans (hview.placed w _ _ _)

theorem endEvent (env : Env) (w : Backend) (result : Except Error Reply) :
    view (w.endEvent env result) = view w :=
  (hview.afterIteration env _).trans (hview.noted w _)

theorem failRekey (env : Env) (origin : RekeyOrigin) (e : Error) (w : Backend) :
    view (w.failRekey env origin e) = view w := by
  cases origin with
  | user => exact (hview.endEvent env _ _).trans (hview.placed w _ _ _)
  | server | deferred => exact hview.placed w _ _ _

theorem finishRekey (env : Env) (origin : RekeyOrigin) (w : Backend) :
    view (w.finishRekey env origin) = view w := by
  cases origin with
  | server => exact (hview.afterIteration env _).trans (hview.placed w _ _ _)
  | deferred => exact hview.placed w _ _ _
  | user => exact (hview.endEvent env _ _).trans (hview.placed w _ _ _)

theorem settleEvent (env : Env) (r : EStateM.Result Fault Backend Progress) :
    view (Backend.settleEvent env r) = view (stateOf r) := by
  rcases r with ⟨reply | wait, w⟩ | ⟨fault, w⟩
  · exact hview.endEvent env w _
  · exact hview.placed w _ _ _
  · exact hview.stop (fun e w => w.endEvent env (.error e)) fun e => hview.endEvent env w _

theorem settleRekey (env : Env) (origin : RekeyOrigin)
    (r : EStateM.Result Fault Backend RekeyProgress) :
    view (Backend.settleRekey env origin r) = view (stateOf r) := by
  rcases r with ⟨phase | _, w⟩ | ⟨fault, w⟩
  · exact hview.placed w _ _ _
  · exact hview.finishRekey env origin w
  · refine hview.stop (fun e w => (w.note (.rekeyFailed origin e)).failRekey env origin e) fun e => ?_
    exact (hview.failRekey env origin e _).trans (hview.noted w _)

theorem settleHandled (env : Env) (task : Task)
    (r : EStateM.Result Fault Backend (Option Bytes)) :
    view (Backend.settleHandled env task r) = view (stateOf r) := by
  cases task with
  | idle =>
    rcases r with ⟨_ | data, w⟩ | ⟨fault, w⟩
    · exact hview.afterIteration env w
    · exact hview.startRekey env _ _ fun e w => hview.failRekey env .server e w
    · exact hview.placed w _ _ _
  | waiting wait =>
    rcases r with ⟨data, w⟩ | ⟨fault, w⟩
    · exact hview.placed w _ _ _
    · exact hview.stop (fun e w => w.endEvent env (.error e)) fun e => hview.endEvent env w _
  | rekeying origin phase =>
    rcases r with ⟨data, w⟩ | ⟨fault, w⟩
    · exact hview.placed w _ _ _
    · refine hview.stop (fun e w => (w.note (.rekeyFailed origin e)).failRekey env origin e)
        fun e => ?_
      exact (hview.failRekey env origin e _).trans (hview.noted w _)
  | exited result => rfl

end Untraced

/-! ## Handlers -/

namespace Unhandled

variable (hview : Unhandled view)
include hview

theorem setChannel (index : ℕ) (handle : ChannelHandle) :
    Leaves view (setChannel index handle) :=
  leaves_modify fun w => hview.channels w _ w.nextQueue w.log

theorem removeChannel (index : ℕ) (handle : ChannelHandle) :
    Leaves view (removeChannel index handle) :=
  leaves_modify fun w => hview.channels w _ w.nextQueue _

theorem pushChannel (client server : ChannelEndpoint) :
    Leaves view (pushChannel client server) :=
  .get_bind fun _ => (leaves_modify fun w => hview.channels w _ _ _).bind fun _ => leaves_pure _

theorem dropReceiver (queue : ℕ) : Leaves view (dropReceiver queue) :=
  leaves_modify fun w => hview.channels w _ w.nextQueue w.log

theorem upgradeFrontend (queue : ℕ) : Leaves view (upgradeFrontend queue) := by
  refine .get_bind fun w => ?_
  split
  · exact leaves_pure _
  · exact (hview.dropReceiver queue).bind fun _ => leaves_throw _

theorem deliver (sender : QueueSender) (message : ChannelMessage) :
    Leaves view (deliver sender message) := by
  unfold Flatline.deliver
  split
  · exact leaves_pure _
  · exact (hview.note _).bind fun _ => leaves_pure _

theorem adjustWindow (env : Env) (index : ℕ) (channel : ChannelHandle) :
    Leaves view (adjustWindow env index channel) := by
  refine (leaves_leftOrPanic _).bind fun left => ?_
  split
  · exact (hview.sendPayload env _).bind fun _ => hview.setChannel _ _
  · exact leaves_pure _

theorem handleChannelData (env : Env) (clientId : UInt32) (data : Bytes) (stderr : Bool) :
    Leaves view (handleChannelData env clientId data stderr) := by
  refine .get_bind fun w => ?_
  split
  · exact leaves_pure _
  · split
    · exact leaves_pure _
    · refine (leaves_leftOrPanic _).bind fun left => ?_
      split
      · exact leaves_throw _
      · refine (hview.setChannel _ _).bind fun _ => (hview.deliver _ _).bind fun delivered => ?_
        split
        · exact hview.adjustWindow env _ _
        · exact leaves_pure _

theorem handleChannelWindowAdjust (clientId count : UInt32) :
    Leaves view (handleChannelWindowAdjust clientId count) := by
  refine .get_bind fun w => ?_
  split
  · exact leaves_pure _
  · simp only
    split
    · exact leaves_throw _
    · exact (hview.setChannel _ _).bind fun _ => (hview.deliver _ _).bind fun _ => leaves_pure _

theorem notifyChannel (clientId : UInt32) (message : ChannelMessage) :
    Leaves view (notifyChannel clientId message) := by
  refine .get_bind fun w => ?_
  split
  · exact leaves_pure _
  · exact (hview.deliver _ _).bind fun _ => leaves_pure _

theorem handleChannelEof (clientId : UInt32) : Leaves view (handleChannelEof clientId) := by
  refine .get_bind fun w => ?_
  split
  · exact leaves_pure _
  · exact (hview.deliver _ _).bind fun _ => hview.setChannel _ _

/-- Replace a handle, or remove it when both sides are closed. -/
theorem setOrRemove (index : ℕ) (handle : ChannelHandle) (both : Bool) :
    Leaves view (do
      Flatline.setChannel index handle
      if both then Flatline.removeChannel index handle else return) := by
  refine (hview.setChannel _ _).bind fun _ => ?_
  split
  · exact hview.removeChannel _ _
  · exact leaves_pure _

theorem handleChannelClose (clientId : UInt32) : Leaves view (handleChannelClose clientId) := by
  refine .get_bind fun w => ?_
  split
  · exact leaves_pure _
  · exact (hview.deliver _ _).bind fun _ => hview.setOrRemove _ _ _

theorem handleChannelUnknownRequest (env : Env) (clientId : UInt32) (wantReply : Bool) :
    Leaves view (handleChannelUnknownRequest env clientId wantReply) := by
  refine .get_bind fun w => ?_
  split
  · exact leaves_pure _
  · split
    · exact hview.sendPayload env _
    · exact leaves_pure _

/-- The reply to a global request, if it is wanted. -/
theorem reply (env : Env) (wantReply : Bool) (message : ClientMessage) :
    Leaves view (if wantReply then Flatline.sendPayload env message else return) := by
  split
  · exact hview.sendPayload env _
  · exact leaves_pure _

theorem sendUnimplemented (env : Env) : Leaves view (sendUnimplemented env) :=
  .get_bind fun _ => hview.sendPayload env _

theorem handleExtInfo (extensions : List (Text × Bytes)) :
    Leaves view (handleExtInfo extensions) := by
  have hping : Leaves view (if extensions.lookup (ascii "ping@openssh.com") = some (ascii "0") then
      modify fun s => { s with serverPingSupported := true } else return : BackendM Unit) := by
    split
    · exact leaves_modify fun w => hview.announced w w.serverAlgorithms _
    · exact leaves_pure _
  unfold Flatline.handleExtInfo
  simp only
  split
  · exact hping
  · split
    · exact (leaves_modify fun w => hview.announced w _ w.serverPingSupported).bind fun _ => hping
    · exact leaves_pure _

theorem channelClose (env : Env) (id : IdentityPair) : Leaves view (channelClose env id) := by
  refine .get_bind fun w => ?_
  split
  · exact leaves_throw _
  · exact (hview.sendPayload env _).bind fun _ => hview.setOrRemove _ _ _

theorem acceptChannel (env : Env) (sender window packet : UInt32) (grant : OpenGrant) :
    Leaves view (acceptChannel env sender window packet grant) := by
  refine .get_bind fun w => (hview.sendPayload env _).bind fun _ => ?_
  refine (hview.pushChannel _ _).bind fun queue => ?_
  refine (hview.upgradeFrontend queue).bind fun _ => (hview.note _).bind fun _ => ?_
  split
  · exact leaves_pure _
  · exact (hview.dropReceiver queue).bind fun _ => hview.channelClose env _

theorem openChannel (env : Env) (sender window packet : UInt32)
    (verdict : Except OpenRefusal OpenGrant) :
    Leaves view (openChannel env sender window packet verdict) := by
  cases verdict with
  | error refusal => exact hview.sendPayload env _
  | ok grant => exact hview.acceptChannel env sender window packet grant

/-- Whatever message comes to `handle_msg`, the view stays. -/
theorem handleMsg (env : Env) (msg : Message) (idle : Bool) :
    Leaves view (handleMsg env msg idle) := by
  have hreturn {m : BackendM Unit} (hm : Leaves view m) :
      Leaves view (do m; return none : BackendM (Option Bytes)) :=
    hm.bind fun _ => leaves_pure _
  unfold Flatline.handleMsg
  cases msg with
  | unrecognized code data =>
    refine .get_bind fun w => ?_
    split
    · refine (leaves_modify fun w => hview.placed w w.task true w.renegotiateMsg).bind fun _ => ?_
      split
      · exact leaves_pure _
      · exact (leaves_modify fun w => hview.placed w w.task w.renegotiating _).bind fun _ =>
          leaves_pure _
    · exact hreturn (hview.sendUnimplemented env)
  | disconnect => exact leaves_throw _
  | debug | ignore | unimplemented | authenticationBanner | pong | requestSuccess
  | requestFailure => exact leaves_pure _
  | serviceAccept | authenticationFailure | authenticationSuccess | channelOpenConfirmation
  | channelOpenFailure | channelSuccess | channelFailure =>
    exact hreturn (hview.sendUnimplemented env)
  | extInfo extensions => exact hreturn (hview.handleExtInfo extensions)
  | channelData recipient data => exact hreturn (hview.handleChannelData env _ _ _)
  | channelExtendedData recipient dataType data =>
    simp only
    split
    · exact hreturn (hview.handleChannelData env _ _ _)
    · exact hreturn (hview.sendUnimplemented env)
  | ping data => exact hreturn (hview.sendPayload env _)
  | channelWindowAdjust recipient count => exact hreturn (hview.handleChannelWindowAdjust _ _)
  | channelFlowControl | channelExitStatus | channelExitSignal =>
    exact hreturn (hview.notifyChannel _ _)
  | channelClose recipient => exact hreturn (hview.handleChannelClose _)
  | channelEof recipient => exact hreturn (hview.handleChannelEof _)
  | channelUnknownRequest => exact hreturn (hview.handleChannelUnknownRequest env _ _)
  | globalRequestKeepAliveOpenSSH | globalRequestHostKeysOpenSSH | globalUnknownRequest =>
    exact hreturn (hview.reply env _ _)
  | channelOpenForwardedTcpIp | channelOpenAgentConnect | channelOpenX11
  | channelOpenForwardedStreamLocal =>
    exact hreturn (.get_bind fun w => hview.openChannel env _ _ _ _)
  | channelOpenUnknown => exact hreturn (hview.sendPayload env _)

/-! ## Cleaning -/

theorem cleanChannel (env : Env) (index : ℕ) (channel : ChannelHandle) :
    Leaves view (cleanChannel env index channel) := by
  unfold Flatline.cleanChannel
  split
  · split
    · split
      · exact hview.removeChannel _ _
      · exact leaves_pure _
    · exact (hview.sendPayload env _).bind fun _ => hview.setOrRemove _ _ _
  · exact leaves_pure _

theorem channelClean (env : Env) : Leaves view (channelClean env) := by
  refine .get_bind fun w => ?_
  generalize w.channels.length = index
  induction index with
  | zero => exact leaves_pure _
  | succ index ih =>
    refine .get_bind fun w => ?_
    split
    · exact leaves_throw _
    · exact (hview.cleanChannel env _ _).bind fun _ => ih

end Unhandled

end Flatline
