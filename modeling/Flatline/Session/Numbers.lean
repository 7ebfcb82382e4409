import Flatline.Session.Tasks
import Mathlib

/-!
# Channel numbers

How the numbers of the registered channels change: a step of the ledger registers one channel, on
one of two occasions, or adds no number. The client's numbers stay distinct in every run that picks
free numbers.

Source: `src/session/backend.rs`.
-/

namespace Flatline

open Relation

variable {s : Backend} {i : Input} {Q : Effect → Prop} {L L' : Ledger}

/-! ## The numbers of a ledger -/

namespace Ledger

theorem clientIds_eq (L : Ledger) : L.clientIds = L.ids.map (·.client) := by
  simp [clientIds, ids, ChannelHandle.id]

theorem serverIds_eq (L : Ledger) : L.serverIds = L.ids.map (·.server) := by
  simp [serverIds, ids, ChannelHandle.id]

theorem ids_of_channels (h : L'.channels = L.channels) : L'.ids = L.ids := by
  rw [ids, h, ids]

@[simp] theorem ids_note (L : Ledger) (effect : Effect) : (L.note effect).ids = L.ids := rfl

@[simp] theorem ids_tell (L : Ledger) (sender : QueueSender) (message : ChannelMessage) :
    (L.tell sender message).ids = L.ids :=
  ids_of_channels (channels_tell sender message)

@[simp] theorem ids_register (L : Ledger) (handle : ChannelHandle) :
    (L.register handle).ids = L.ids ++ [handle.id] := by
  simp [ids, register]

@[simp] theorem ids_dropQueue (L : Ledger) (queue : ℕ) : (L.dropQueue queue).ids = L.ids := by
  simp [ids, dropQueue, Function.comp_def]

/-- Changing a handle keeps the numbers. -/
theorem ids_set {index : ℕ} {handle handle' : ChannelHandle}
    (hget : L.channels[index]? = some handle) (hid : handle'.id = handle.id) :
    (L.set index handle').ids = L.ids := by
  obtain ⟨hlt, rfl⟩ := List.getElem?_eq_some_iff.mp hget
  refine List.ext_getElem (by simp [ids, set]) fun k _ _ => ?_
  by_cases hk : index = k
  · subst hk
    simp [ids, set, hid]
  · simp [ids, set, hk]

theorem ids_remove_sublist (L : Ledger) (index : ℕ) (handle : ChannelHandle) :
    (L.remove index handle).ids.Sublist L.ids :=
  (List.eraseIdx_sublist L.channels index).map _

theorem ids_closeClient_sublist {index : ℕ} {handle : ChannelHandle}
    (hget : L.channels[index]? = some handle) :
    (L.closeClient index handle).ids.Sublist L.ids := by
  have hset : (L.set index handle.closeClient).ids = L.ids := ids_set hget rfl
  unfold closeClient
  split
  · exact hset ▸ ids_remove_sublist _ _ _
  · exact hset ▸ List.Sublist.refl _

theorem ids_closeServer_sublist {index : ℕ} {handle : ChannelHandle}
    (hget : L.channels[index]? = some handle) :
    (L.closeServer index handle).ids.Sublist L.ids := by
  have hset : ((L.tell handle.sender .close).set index handle.closeServer).ids = L.ids := by
    rw [ids_set (L := L.tell _ _) (by rw [channels_tell, hget]) (by rfl), ids_tell]
  unfold closeServer
  simp only
  split
  · exact hset ▸ ids_remove_sublist _ _ _
  · exact hset ▸ List.Sublist.refl _

end Ledger

/-- Two elements with one value of a function whose values are distinct are at one place. -/
theorem index_eq_of_map {α β : Type} {f : α → β} {l : List α} {j k : ℕ}
    (hnodup : (l.map f).Nodup) (hj : j < l.length) (hk : k < l.length) (h : f l[j] = f l[k]) :
    j = k := by
  have hj' : j < (l.map f).length := by simpa using hj
  have hk' : k < (l.map f).length := by simpa using hk
  have hget : (l.map f)[j] = (l.map f)[k] := by
    rw [List.getElem_map, List.getElem_map, h]
  exact hnodup.getElem_inj_iff.mp hget

/-- An element of a changed list is the new one, or an old one at another place. -/
theorem mem_set_cases {α : Type} {l : List α} {index : ℕ} {a b : α} (h : b ∈ l.set index a) :
    b = a ∨ ∃ j, j ≠ index ∧ l[j]? = some b := by
  obtain ⟨j, hj⟩ := List.getElem?_of_mem h
  by_cases hindex : index = j
  · subst hindex
    rw [List.getElem?_set] at hj
    simp only [if_true] at hj
    split at hj
    · injection hj with hj
      exact .inl hj.symm
    · cases hj
  · rw [List.getElem?_set_ne hindex] at hj
    exact .inr ⟨j, Ne.symm hindex, hj⟩

/-! ## Registering -/

/-- On the way from `s` over `i` a channel is registered: one the server asks for, or the one the
client waits for. -/
inductive Registers (s : Backend) (i : Input) : IdentityPair → Prop
  | accepted {payload : Bytes} {env : Env} {msg : Message} {id : IdentityPair}
      (hi : i = .packet payload env) (hparse : Message.parse payload = .ok msg)
      (haccepts : s.acceptsOpen env msg = some id.server) (hnext : id.client = s.ledger.nextId) :
      Registers s i id
  | confirmed {payload : Bytes} {env : Env} {id : IdentityPair}
      {window packet ownWindow ownPacket : UInt32} {sftp : Bool} (hi : i = .packet payload env)
      (hparse : Message.parse payload =
        .ok (.channelOpenConfirmation id.client id.server window packet))
      (hwait : s.task = .waiting (.openingChannel id.client ownWindow ownPacket sftp))
      (hfresh : id.server ∉ s.ledger.serverIds) : Registers s i id

/-- What a step does to the numbers. -/
theorem LedgerStep.ids_cases (h : LedgerStep s i Q L L') :
    L'.ids.Sublist L.ids ∨
      ∃ id, L.ids = s.ledger.ids ∧ L'.ids = L.ids ++ [id] ∧ Registers s i id := by
  have hsame : ∀ {M : Ledger} {index : ℕ} {handle : ChannelHandle} (handle' : ChannelHandle),
      M.channels[index]? = some handle → handle'.id = handle.id →
        (M.set index handle').ids.Sublist M.ids :=
    fun _ hget hid => Ledger.ids_set hget hid ▸ List.Sublist.refl _
  cases h with
  | note | receive | announce | request | requestOpened => exact .inl (List.Sublist.refl _)
  | drop => exact .inl (by rw [Ledger.ids_dropQueue])
  | peerClose _ _ hfind =>
    exact .inl (Ledger.ids_closeServer_sublist (L := s.ledger.note _)
      (Ledger.getElem?_of_find hfind))
  | peerEof _ _ hfind =>
    refine .inl ?_
    rw [Ledger.ids_set (L := (s.ledger.note _).tell _ _)
      (by rw [Ledger.channels_tell]; exact Ledger.getElem?_of_find hfind) (by rfl),
      Ledger.ids_tell]
  | peerData _ _ hadmits =>
    refine .inl ?_
    rw [Ledger.ids_tell]
    exact hsame (M := s.ledger.note _) _ (getElem?_of_admitted hadmits) rfl
  | peerDataRefill _ _ hadmits =>
    refine .inl ?_
    rw [Ledger.ids_set (Ledger.getElem?_taken hadmits _ _ _) (by rfl), Ledger.ids_note,
      Ledger.ids_tell]
    exact hsame (M := s.ledger.note _) _ (getElem?_of_admitted hadmits) rfl
  | peerAdjust _ _ hfind =>
    refine .inl ?_
    rw [Ledger.ids_tell]
    exact hsame (M := s.ledger.note _) _ (Ledger.getElem?_of_find hfind) rfl
  | accept hi hparse haccepts =>
    exact .inr ⟨_, rfl, Ledger.ids_register _ _, .accepted hi hparse haccepts rfl⟩
  | confirm hi hparse hwait hfresh =>
    exact .inr ⟨_, rfl, Ledger.ids_register _ _, .confirmed hi hparse hwait hfresh⟩
  | closeEvent _ hfind =>
    exact .inl (Ledger.ids_closeClient_sublist (L := s.ledger.note _)
      (Ledger.getElem?_of_find hfind))
  | closeRefused _ _ _ _ _ _ _ hfind =>
    exact .inl (Ledger.ids_closeClient_sublist (L := L.note _) (Ledger.getElem?_of_find hfind))
  | sweep _ hget => exact .inl (Ledger.ids_closeClient_sublist (L := L.note _) hget)
  | reap => exact .inl (Ledger.ids_remove_sublist _ _ _)
  | eof _ hfind =>
    exact .inl (hsame (M := s.ledger.note _) _ (Ledger.getElem?_of_find hfind) rfl)
  | data _ _ _ hget => exact .inl (hsame (M := L.note _) _ hget rfl)

/-! ## Picking numbers -/

/-- The last number there is. -/
def lastNumber : UInt32 := UInt32.ofNat (UInt32.size - 1)

/-- The larger one of two numbers. -/
theorem max_number (a b : UInt32) :
    a ≤ max a b ∧ b ≤ max a b ∧ (max a b = a ∨ max a b = b) := by
  change a ≤ (if a ≤ b then b else a) ∧ b ≤ (if a ≤ b then b else a) ∧
    ((if a ≤ b then b else a) = a ∨ (if a ≤ b then b else a) = b)
  split
  · next hle => exact ⟨hle, UInt32.le_refl b, .inr rfl⟩
  · next hle => exact ⟨UInt32.le_refl a, (UInt32.le_total a b).resolve_left hle, .inl rfl⟩

theorem le_foldl_max (ids : List UInt32) (base : UInt32) :
    base ≤ ids.foldl max base ∧ ∀ id ∈ ids, id ≤ ids.foldl max base := by
  induction ids generalizing base with
  | nil => simp
  | cons id ids ih =>
    obtain ⟨hbase, hids⟩ := ih (max base id)
    obtain ⟨hleft, hright, -⟩ := max_number base id
    refine ⟨UInt32.le_trans hleft hbase, fun id' hmem => ?_⟩
    rcases List.mem_cons.mp hmem with rfl | hmem
    · exact UInt32.le_trans hright hbase
    · exact hids id' hmem

theorem foldl_max_mem (ids : List UInt32) (base : UInt32) :
    ids.foldl max base = base ∨ ids.foldl max base ∈ ids := by
  induction ids generalizing base with
  | nil => exact .inl rfl
  | cons id ids ih =>
    rcases ih (max base id) with h | h
    · rcases (max_number base id).2.2 with hmax | hmax
      · exact .inl (h.trans hmax)
      · exact .inr (List.mem_cons.mpr (.inl (h.trans hmax)))
    · exact .inr (List.mem_cons_of_mem _ h)

/-- The next number is free as long as the last one is not in use. -/
theorem Ledger.nextId_not_mem (h : lastNumber ∉ L.clientIds) : L.nextId ∉ L.clientIds := by
  unfold Ledger.nextId
  obtain ⟨-, hle⟩ := le_foldl_max L.clientIds 0
  have hlast : L.clientIds.foldl max 0 ≠ lastNumber := by
    rcases foldl_max_mem L.clientIds 0 with hzero | hmem
    · rw [hzero]
      decide
    · exact fun heq => h (heq ▸ hmem)
  generalize L.clientIds.foldl max 0 = m at hle hlast
  intro hmem
  have hsucc := hle _ hmem
  rw [UInt32.le_iff_toNat_le, UInt32.toNat_add] at hsucc
  have hlt := m.toNat_lt
  have hne : m.toNat ≠ 2 ^ 32 - 1 := fun heq => hlast (UInt32.toNat_inj.mp heq)
  simp only [UInt32.reduceToNat] at hsucc
  omega

namespace Backend

/-- The input makes the client pick a number for a new channel. -/
def picksNumber (s : Backend) : Input → Bool
  | .event event _ => event.opensChannel
  | .packet payload env =>
    match Message.parse payload with
    | .ok msg => (s.acceptsOpen env msg).isSome
    | .error _ => false
  | _ => false

end Backend

/-- The number of the open the task waits for. -/
def Task.opening : Task → Option UInt32
  | .waiting (.openingChannel clientId ..) => some clientId
  | _ => none

theorem Task.opening_eq_some {task : Task} {clientId : UInt32} (h : task.opening = some clientId) :
    ∃ window packet sftp, task = .waiting (.openingChannel clientId window packet sftp) := by
  unfold Task.opening at h
  split at h
  · exact ⟨_, _, _, by rw [Option.some.inj h]⟩
  · cases h

/-- The numbers have not run out when the client picks one. -/
def NumbersLeft (s : Backend) (i : Input) : Prop :=
  s.picksNumber i = true → lastNumber ∉ s.ledger.clientIds

/-- A number that the input makes the client pick is not the one that an open waits with, and the
numbers have not run out. -/
def PicksFree (s : Backend) (i : Input) : Prop :=
  s.picksNumber i = true →
    lastNumber ∉ s.ledger.clientIds ∧ s.task.opening ≠ some s.ledger.nextId

instance (s : Backend) (i : Input) : Decidable (NumbersLeft s i) :=
  inferInstanceAs (Decidable (_ → _))

instance (s : Backend) (i : Input) : Decidable (PicksFree s i) :=
  inferInstanceAs (Decidable (_ → _ ∧ _))

/-- The client's numbers are distinct, and an open waits with a number of its own. -/
structure DistinctNumbers (s : Backend) : Prop where
  nodup : s.ledger.clientIds.Nodup
  opening : ∀ clientId, s.task.opening = some clientId → clientId ∉ s.ledger.clientIds

theorem Registers.picksNumber_or_opening {id : IdentityPair} (h : Registers s i id) :
    (s.picksNumber i = true ∧ id.client = s.ledger.nextId) ∨
      (s.task.opening = some id.client ∧
        ∃ payload env, i = .packet payload env ∧ answeredOpen payload = some id.client) := by
  cases h with
  | accepted hi hparse haccepts hnext =>
    subst hi
    refine .inl ⟨?_, hnext⟩
    simp only [Backend.picksNumber, hparse, haccepts, Option.isSome_some]
  | confirmed hi hparse hwait hfresh =>
    refine .inr ⟨by rw [hwait]; rfl, _, _, hi, ?_⟩
    unfold answeredOpen
    rw [hparse]

/-- Along a path the numbers stay distinct, and an open that is not answered keeps its own. -/
theorem DistinctNumbers.path (hs : DistinctNumbers s) (hguard : PicksFree s i)
    (hpath : LedgerPath s i Q s.ledger L) :
    L.clientIds.Nodup ∧ ∀ clientId, s.task.opening = some clientId →
      (∀ payload env, i = .packet payload env → answeredOpen payload = none) →
        clientId ∉ L.clientIds := by
  induction hpath with
  | refl => exact ⟨hs.nodup, fun clientId h _ => hs.opening clientId h⟩
  | @tail M _ _ hstep ih =>
    obtain ⟨hnodup, hopening⟩ := ih
    rw [Ledger.clientIds_eq] at hnodup ⊢
    rcases hstep.ids_cases with hsub | ⟨id, hids, happend, hregisters⟩
    · refine ⟨hnodup.sublist (hsub.map _), fun clientId hwait hi hmem => ?_⟩
      refine hopening clientId hwait hi ?_
      rw [Ledger.clientIds_eq]
      exact (hsub.map _).subset hmem
    · have hclients : M.ids.map (·.client) = s.ledger.clientIds := by
        rw [hids, Ledger.clientIds_eq]
      rw [happend, List.map_append, List.map_singleton, hclients]
      rcases hregisters.picksNumber_or_opening with ⟨hpicks, hid⟩ | ⟨hwait, payload, env, hi, hanswer⟩
      · obtain ⟨hlast, hfree⟩ := hguard hpicks
        have hnext := Ledger.nextId_not_mem hlast
        refine ⟨List.nodup_append.mpr ⟨hs.nodup, List.nodup_singleton _, ?_⟩, ?_⟩
        · rintro a ha b hb rfl
          exact hnext (hid ▸ List.mem_singleton.mp hb ▸ ha)
        · intro clientId hwait _ hmem
          rcases List.mem_append.mp hmem with hmem | hmem
          · exact hs.opening clientId hwait hmem
          · exact hfree (hwait.trans (by rw [List.mem_singleton.mp hmem, hid]))
      · refine ⟨List.nodup_append.mpr ⟨hs.nodup, List.nodup_singleton _, ?_⟩, ?_⟩
        · rintro a ha b hb rfl
          exact hs.opening _ hwait (List.mem_singleton.mp hb ▸ ha)
        · intro clientId _ hunanswered
          rw [hunanswered payload env hi] at hanswer
          cases hanswer

/-- Picking free numbers keeps them distinct. -/
theorem DistinctNumbers.next (hs : DistinctNumbers s) (hguard : PicksFree s i) :
    DistinctNumbers (s.next i) := by
  obtain ⟨hnodup, hopening⟩ := hs.path hguard (ledgerPath_next s i)
  refine ⟨hnodup, fun clientId hwait => ?_⟩
  obtain ⟨window, packet, sftp, htask⟩ := Task.opening_eq_some hwait
  rcases openingChannel_of_next htask with
    ⟨hold, hanswer⟩ | ⟨⟨event, env, rfl, hopens⟩, rfl, type, fields, hledger⟩
  · exact hopening clientId (by rw [hold]; rfl) hanswer
  · rw [hledger]
    exact Ledger.nextId_not_mem (hguard hopens).1

theorem Backend.IsInitial.distinctNumbers (h : s.IsInitial) : DistinctNumbers s := by
  refine ⟨?_, fun clientId hwait => ?_⟩
  · simp [Ledger.clientIds, Backend.ledger, h.channels]
  · rw [h.task] at hwait
    cases hwait

end Flatline
