import Flatline.Common.Except
import Flatline.Common.Preference
import Flatline.Kex.Methods
import Mathlib

/-!
# Negotiation against the advertised lists

A conforming server picks, in every slot, the first name of the client's `SSH_MSG_KEXINIT` that its
own list also has. `Config.negotiate` searches the configuration instead of the lists that were
sent. The two searches differ in the kex slot only: the client sends that list with the withdrawn
method missing and the pseudo-algorithms appended, and reads the server's list without its markers.
-/

namespace Flatline

open Preference

/-! ## Slots -/

/-- The name list of a slot. -/
def NameLists.slot (lists : NameLists) : Slot → List Text
  | .kex => lists.kex
  | .hostKey => lists.hostKey
  | .cryptClientToServer => lists.cryptClientToServer
  | .cryptServerToClient => lists.cryptServerToClient
  | .macClientToServer => lists.macClientToServer
  | .macServerToClient => lists.macServerToClient
  | .compressClientToServer => lists.compressClientToServer
  | .compressServerToClient => lists.compressServerToClient

/-- The algorithm in a slot of `matched` is the one `config` registers under `name`. -/
def MatchedMethods.Uses (matched : MatchedMethods) (config : Config) (slot : Slot)
    (name : Text) : Prop :=
  matched.names slot = name ∧
    match slot with
    | .kex => (name, matched.kex) ∈ config.kex.entries
    | .hostKey => (name, matched.hostKey) ∈ config.hostKey.entries
    | .cryptClientToServer =>
      (name, matched.cryptClientToServer) ∈ config.cryptClientToServer.entries
    | .cryptServerToClient =>
      (name, matched.cryptServerToClient) ∈ config.cryptServerToClient.entries
    | .macClientToServer => (name, matched.macClientToServer) ∈ config.macClientToServer.entries
    | .macServerToClient => (name, matched.macServerToClient) ∈ config.macServerToClient.entries
    | .compressClientToServer =>
      (name, matched.compressClientToServer) ∈ config.compressClientToServer.entries
    | .compressServerToClient =>
      (name, matched.compressServerToClient) ∈ config.compressServerToClient.entries

/-! ## Agreement with the advertised lists -/

/-- What negotiation must give for the lists the client sent and the lists the server sent: in
every slot the first advertised name that the server also lists, and a failure exactly when some
slot has no common name. -/
def NegotiationAgrees (config : Config) (client server : NameLists) :
    Except Error MatchedMethods → Prop
  | .ok matched => ∀ slot, ∃ name,
      firstCommon (client.slot slot) (server.slot slot) = some name ∧
        matched.Uses config slot name
  | .error _ => ∃ slot, firstCommon (client.slot slot) (server.slot slot) = none

/-- The kex lists for which the two searches agree; `server` is the list the server sent. -/
def KexAgrees (config : Config) (compat : CompatOptions) (server : List Text) : Prop :=
  match firstCommon config.kex.keys server with
  | some name =>
    ¬ (config.kexCompat compat = true ∧ name = Methods.compatMethod) ∧
      ¬ ((name = kexStrictServer ∨ name = extInfoServer) ∧ server.count name = 1)
  | none =>
    (config.keyStrict = true → kexStrictClient ∉ server) ∧
      (config.ext = true → extInfoClient ∉ server)

/-- The condition under which negotiation agrees with what was advertised: some other slot fails
on both sides, or the kex lists agree. -/
def NegotiationAgreesWhen (config : Config) (compat : CompatOptions) (server : NameLists) : Prop :=
  (∃ slot, slot ≠ .kex ∧
    firstCommon ((Methods.fromConfig config).slot slot) (server.slot slot) = none) ∨
  KexAgrees config compat server.kex

/-! ## One slot -/

/-- The search through a map finds the entry of the first common key. -/
theorem IndexMap.find?_entries {α : Type} (map : IndexMap α) (server : List Text) :
    (map.entries.find? fun entry => server.contains entry.1).map Prod.fst =
      firstCommon map.keys server := by
  rw [firstCommon, IndexMap.keys, List.find?_map]
  rfl

/-- A slot matches exactly the entry that is registered under the first common name. -/
theorem IndexMap.negotiate_eq_ok_iff {α : Type} (map : IndexMap α) (server : List Text)
    (entry : Text × α) :
    map.negotiate server = .ok entry ↔
      firstCommon map.keys server = some entry.1 ∧ entry ∈ map.entries := by
  rw [← IndexMap.find?_entries, IndexMap.negotiate]
  cases hfind : map.entries.find? fun entry => server.contains entry.1 with
  | none => simp
  | some found =>
    have hfound : found ∈ map.entries := List.mem_of_find?_eq_some hfind
    simp only [Except.ok.injEq, Option.map_some, Option.some.injEq]
    constructor
    · rintro rfl
      exact ⟨rfl, hfound⟩
    · rintro ⟨hfst, hmem⟩
      -- keys are distinct, so the entry found is the registered one
      exact List.inj_on_of_nodup_map map.nodup hfound hmem hfst

/-- A slot with a common name matches. -/
theorem IndexMap.negotiate_of_some {α : Type} {map : IndexMap α} {server : List Text} {name : Text}
    (h : firstCommon map.keys server = some name) :
    ∃ entry, map.negotiate server = .ok entry := by
  rw [← IndexMap.find?_entries] at h
  obtain ⟨entry, hfind, -⟩ := Option.map_eq_some_iff.mp h
  exact ⟨entry, by rw [IndexMap.negotiate, hfind]⟩

/-! ## All slots -/

/-- A successful negotiation holds, in every slot, the entry of the first common name. -/
theorem Config.negotiate_spec {config : Config} {server : Methods} {matched : MatchedMethods}
    (h : config.negotiate server = .ok matched) (slot : Slot) :
    firstCommon ((Methods.fromConfig config).slot slot) (server.slot slot) =
        some (matched.names slot) ∧
      matched.Uses config slot (matched.names slot) := by
  unfold Config.negotiate at h
  simp only [Except.bind_eq_ok_iff, IndexMap.negotiate_eq_ok_iff] at h
  obtain ⟨kex, h₁, hostKey, h₂, cryptC, h₃, cryptS, h₄, macC, h₅, macS, h₆, compC, h₇,
    compS, h₈, hmatched⟩ := h
  injection hmatched with hmatched
  subst hmatched
  cases slot
  · exact ⟨h₁.1, rfl, h₁.2⟩
  · exact ⟨h₂.1, rfl, h₂.2⟩
  · exact ⟨h₃.1, rfl, h₃.2⟩
  · exact ⟨h₄.1, rfl, h₄.2⟩
  · exact ⟨h₅.1, rfl, h₅.2⟩
  · exact ⟨h₆.1, rfl, h₆.2⟩
  · exact ⟨h₇.1, rfl, h₇.2⟩
  · exact ⟨h₈.1, rfl, h₈.2⟩

/-- Negotiation succeeds when every slot has a common name. -/
theorem Config.negotiate_of_forall_some {config : Config} {server : Methods}
    (h : ∀ slot,
      firstCommon ((Methods.fromConfig config).slot slot) (server.slot slot) ≠ none) :
    ∃ matched, config.negotiate server = .ok matched := by
  have hsome := fun slot => Option.ne_none_iff_exists'.mp (h slot)
  obtain ⟨kex, h₁⟩ := IndexMap.negotiate_of_some (hsome .kex).choose_spec
  obtain ⟨hostKey, h₂⟩ := IndexMap.negotiate_of_some (hsome .hostKey).choose_spec
  obtain ⟨cryptC, h₃⟩ := IndexMap.negotiate_of_some (hsome .cryptClientToServer).choose_spec
  obtain ⟨cryptS, h₄⟩ := IndexMap.negotiate_of_some (hsome .cryptServerToClient).choose_spec
  obtain ⟨macC, h₅⟩ := IndexMap.negotiate_of_some (hsome .macClientToServer).choose_spec
  obtain ⟨macS, h₆⟩ := IndexMap.negotiate_of_some (hsome .macServerToClient).choose_spec
  obtain ⟨compC, h₇⟩ := IndexMap.negotiate_of_some (hsome .compressClientToServer).choose_spec
  obtain ⟨compS, h₈⟩ := IndexMap.negotiate_of_some (hsome .compressServerToClient).choose_spec
  simp only [NameLists.slot] at h₁ h₂ h₃ h₄ h₅ h₆ h₇ h₈
  simp [Config.negotiate, h₁, h₂, h₃, h₄, h₅, h₆, h₇, h₈, bind, Except.bind, pure, Except.pure]

/-! ## The kex slot -/

/-- The kex list the client sends. -/
theorem advertised_kex (config : Config) (compat : CompatOptions) :
    (config.clientMethods compat).advertised.kex =
      (if config.kexCompat compat then config.kex.keys.erase Methods.compatMethod
        else config.kex.keys) ++
        (if config.keyStrict then [kexStrictClient] else []) ++
        (if config.ext then [extInfoClient] else []) := by
  unfold Config.clientMethods Methods.doCompat Methods.advertised
  split <;> rfl

/-- Every other list is sent as configured. -/
theorem advertised_slot_of_ne {slot : Slot} (config : Config) (compat : CompatOptions)
    (h : slot ≠ .kex) :
    (config.clientMethods compat).advertised.slot slot =
      (Methods.fromConfig config).slot slot := by
  unfold Config.clientMethods Methods.doCompat Methods.advertised
  cases slot
  · exact absurd rfl h
  all_goals split <;> rfl

/-- Reading the markers changes the kex list only. -/
theorem stripMarkers_slot_of_ne {slot : Slot} (lists : NameLists) (h : slot ≠ .kex) :
    (Methods.stripMarkers lists).slot slot = lists.slot slot := by
  cases slot
  · exact absurd rfl h
  all_goals rfl

/-- A name is gone from the parsed kex list exactly when it is a marker that was listed once. -/
theorem mem_stripMarkers_kex {lists : NameLists} {name : Text} (h : name ∈ lists.kex) :
    name ∈ (Methods.stripMarkers lists).kex ↔
      ¬ ((name = kexStrictServer ∨ name = extInfoServer) ∧ lists.kex.count name = 1) := by
  have hne : kexStrictServer ≠ extInfoServer := by decide
  have hpos : 0 < lists.kex.count name := List.count_pos_iff.mpr h
  change name ∈ (lists.kex.erase kexStrictServer).erase extInfoServer ↔ _
  rw [← List.count_pos_iff, List.count_erase, List.count_erase]
  by_cases h₁ : name = kexStrictServer
  · subst h₁
    simp [hne, hne.symm]
    omega
  · by_cases h₂ : name = extInfoServer
    · subst h₂
      simp [hne, hne.symm]
      omega
    · simp [h₁, h₂, Ne.symm h₁, Ne.symm h₂, hpos]

/-- The withdrawn method is not advertised. -/
theorem compatMethod_not_advertised {config : Config} {compat : CompatOptions}
    (h : config.kexCompat compat = true) :
    Methods.compatMethod ∉ (config.clientMethods compat).advertised.kex := by
  have hstrict : Methods.compatMethod ≠ kexStrictClient := by decide
  have hext : Methods.compatMethod ≠ extInfoClient := by decide
  have herase : Methods.compatMethod ∉ config.kex.keys.erase Methods.compatMethod := fun hmem =>
    ((List.Nodup.mem_erase_iff config.kex.nodup).mp hmem).1 rfl
  rw [advertised_kex, if_pos h]
  split <;> split <;> simp [hstrict, hext, herase]

/-- The search through the configuration and the search through the advertised list agree exactly
under `KexAgrees`. -/
theorem kexAgrees_iff (config : Config) (compat : CompatOptions) (lists : NameLists) :
    KexAgrees config compat lists.kex ↔
      firstCommon (config.clientMethods compat).advertised.kex lists.kex =
        firstCommon config.kex.keys (Methods.stripMarkers lists).kex := by
  have hsub : ∀ name ∈ (Methods.stripMarkers lists).kex, name ∈ lists.kex := fun name hname =>
    List.mem_of_mem_erase (List.mem_of_mem_erase hname)
  unfold KexAgrees
  cases hown : firstCommon config.kex.keys lists.kex with
  | none =>
    -- only the pseudo-algorithms of the client can be common now
    rw [advertised_kex, firstCommon_append, firstCommon_append,
      firstCommon_none_of_subset hsub hown]
    have hedit : firstCommon (if config.kexCompat compat then
        config.kex.keys.erase Methods.compatMethod else config.kex.keys) lists.kex = none := by
      split
      · exact firstCommon_erase_own_of_none _ hown
      · exact hown
    rw [hedit]
    by_cases hstrict : config.keyStrict = true <;> by_cases hext : config.ext = true <;>
      simp [hstrict, hext, firstCommon]
  | some name =>
    have hmem : name ∈ lists.kex := (firstCommon_mem hown).2
    have hstrip : firstCommon config.kex.keys (Methods.stripMarkers lists).kex = some name ↔
        name ∈ (Methods.stripMarkers lists).kex :=
      ⟨fun h => (firstCommon_mem h).2, firstCommon_of_subset hsub hown⟩
    change (_ ∧ _) ↔ _
    rw [← mem_stripMarkers_kex hmem, ← hstrip]
    by_cases hwithdrawn : config.kexCompat compat = true ∧ name = Methods.compatMethod
    · -- the client picks the method it withdrew, which the server cannot find in its list
      obtain ⟨hcompat, rfl⟩ := hwithdrawn
      have hpick : firstCommon config.kex.keys (Methods.stripMarkers lists).kex =
          some Methods.compatMethod := by
        rw [hstrip, mem_stripMarkers_kex hmem]
        rintro ⟨h | h, -⟩
        · exact absurd h (by decide)
        · exact absurd h (by decide)
      rw [hpick]
      refine ⟨fun h => absurd ⟨hcompat, rfl⟩ h.1, fun h => ?_⟩
      exact absurd (firstCommon_mem h).1 (compatMethod_not_advertised hcompat)
    · -- the withdrawn method is not the first common name, so withdrawing it changes nothing
      have hedit : firstCommon (if config.kexCompat compat then
          config.kex.keys.erase Methods.compatMethod else config.kex.keys) lists.kex =
          some name := by
        split
        · next hcompat => exact firstCommon_erase_own hown fun hname => hwithdrawn ⟨hcompat, hname⟩
        · exact hown
      rw [advertised_kex, firstCommon_append, firstCommon_append, hedit, Option.some_or,
        Option.some_or]
      exact ⟨fun h => h.2.symm, fun h => ⟨hwithdrawn, h.symm⟩⟩

/-! ## The whole negotiation -/

/-- Matching the server's payload is matching its name lists. -/
theorem Config.matchServer_eq {config : Config} {payload : Bytes} {lists : NameLists}
    (h : Consumer.run' Methods.consumeNameLists payload = .ok lists) :
    (config.matchServer payload).map Prod.snd = config.negotiate (Methods.stripMarkers lists) := by
  unfold Config.matchServer Methods.parse
  rw [h]
  simp only [Except.map, bind, Except.bind]
  cases config.negotiate (Methods.stripMarkers lists) <;> rfl

/-- Negotiation agrees with the lists both sides sent exactly under `NegotiationAgreesWhen`. -/
theorem negotiationAgrees_iff (config : Config) (compat : CompatOptions) (lists : NameLists) :
    NegotiationAgrees config (config.clientMethods compat).advertised lists
        (config.negotiate (Methods.stripMarkers lists)) ↔
      NegotiationAgreesWhen config compat lists := by
  unfold NegotiationAgreesWhen
  by_cases hother : ∃ slot, slot ≠ .kex ∧
      firstCommon ((Methods.fromConfig config).slot slot) (lists.slot slot) = none
  · -- another slot has no common name, and both sides see that
    refine iff_of_true ?_ (Or.inl hother)
    obtain ⟨slot, hne, hnone⟩ := hother
    cases hres : config.negotiate (Methods.stripMarkers lists) with
    | ok matched =>
      have hspec := (config.negotiate_spec hres slot).1
      rw [stripMarkers_slot_of_ne lists hne, hnone] at hspec
      cases hspec
    | error e => exact ⟨slot, by rw [advertised_slot_of_ne config compat hne, hnone]⟩
  · rw [or_iff_right hother, kexAgrees_iff]
    cases hres : config.negotiate (Methods.stripMarkers lists) with
    | ok matched =>
      have hkex : firstCommon config.kex.keys (Methods.stripMarkers lists).kex =
          some (matched.names .kex) := (config.negotiate_spec hres .kex).1
      rw [hkex]
      constructor
      · intro h
        obtain ⟨name, hname, huses⟩ := h .kex
        rw [huses.1]
        exact hname
      · intro h slot
        have hspec := config.negotiate_spec hres slot
        refine ⟨matched.names slot, ?_, hspec.2⟩
        by_cases hslot : slot = .kex
        · rw [hslot]
          exact h
        · rw [advertised_slot_of_ne config compat hslot, ← stripMarkers_slot_of_ne lists hslot]
          exact hspec.1
    | error e =>
      -- some slot failed, and it can only be the kex slot
      have hkex : firstCommon config.kex.keys (Methods.stripMarkers lists).kex = none := by
        by_contra hkex
        have hall : ∀ slot, firstCommon ((Methods.fromConfig config).slot slot)
            ((Methods.stripMarkers lists).slot slot) ≠ none := fun slot => by
          by_cases hslot : slot = .kex
          · rw [hslot]
            exact hkex
          · rw [stripMarkers_slot_of_ne lists hslot]
            exact fun hnone => hother ⟨slot, hslot, hnone⟩
        obtain ⟨matched, hmatched⟩ := config.negotiate_of_forall_some hall
        rw [hres] at hmatched
        cases hmatched
      rw [hkex]
      constructor
      · rintro ⟨slot, hslot⟩
        by_cases hne : slot = .kex
        · rw [hne] at hslot
          exact hslot
        · rw [advertised_slot_of_ne config compat hne] at hslot
          exact absurd ⟨slot, hne, hslot⟩ hother
      · exact fun h => ⟨.kex, h⟩

end Flatline
