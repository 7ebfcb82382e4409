import Mathlib

/-!
# Interrupted polling

A reader is fed with inputs and polled for items. A poll that lacks input is pending; it can be
polled again later, or abandoned, and then the next poll starts from the top. A reader is resumable
when neither the moments at which it is polled nor those at which a poll is abandoned change what it
reads: `Resumable.drain_run`.
-/

namespace Polling

/-- What a poll comes to. -/
inductive Answer (α ε : Type*) where
  | pending
  | item (a : α)
  | failed (e : ε)

/-- A reader with states `σ` and inputs `ι`. -/
structure Reader (σ ι α ε : Type*) where
  feed : ι → σ → σ
  poll : σ → Answer α ε × σ
  abandon : σ → σ

/-- What can be done with a reader. -/
inductive Action (ι : Type*) where
  | feed (i : ι)
  | poll
  | abandon

/-- A reader with the items it has returned and the error that has ended it. -/
structure Reading (σ α ε : Type*) where
  state : σ
  items : List α
  failure : Option ε

variable {σ ι α ε : Type*}

/-- Nothing has been read yet. -/
def Reading.start (s : σ) : Reading σ α ε :=
  ⟨s, [], none⟩

/-- What has been read, and the error that ended it or the state in which it goes on. -/
def Reading.outcome (p : Reading σ α ε) : List α × (ε ⊕ σ) :=
  (p.items, match p.failure with
    | some e => .inl e
    | none => .inr p.state)

/-- Take down the answer to a poll. -/
def Reading.record (p : Reading σ α ε) : Answer α ε × σ → Reading σ α ε
  | (.pending, s) => { p with state := s }
  | (.item a, s) => { p with state := s, items := p.items ++ [a] }
  | (.failed e, s) => { p with state := s, failure := some e }

/-- The inputs among some actions. -/
def Action.inputs (actions : List (Action ι)) : List ι :=
  actions.filterMap fun
    | .feed i => some i
    | _ => none

namespace Reader

variable (r : Reader σ ι α ε)

/-- Feed one input after the other. -/
def feeds (inputs : List ι) (s : σ) : σ :=
  inputs.foldl (fun s i => r.feed i s) s

/-- Poll, unless the reader has ended. -/
def pollOnce (p : Reading σ α ε) : Reading σ α ε :=
  match p.failure with
  | some _ => p
  | none => p.record (r.poll p.state)

/-- The reading after an action. -/
def act (p : Reading σ α ε) : Action ι → Reading σ α ε
  | .feed i => { p with state := r.feed i p.state }
  | .poll => r.pollOnce p
  | .abandon => { p with state := r.abandon p.state }

/-- The reading after some actions. -/
def run (actions : List (Action ι)) (p : Reading σ α ε) : Reading σ α ε :=
  actions.foldl r.act p

/-- Poll as often as there can be items left, by the measure `size`, and once more. -/
def drain (size : σ → ℕ) (p : Reading σ α ε) : Reading σ α ε :=
  r.pollOnce^[size p.state + 1] p

@[simp] theorem feeds_nil (s : σ) : r.feeds [] s = s := rfl

theorem feeds_append (is js : List ι) (s : σ) :
    r.feeds (is ++ js) s = r.feeds js (r.feeds is s) :=
  List.foldl_append

/-! ## Resumable readers -/

/-- The states with `Inv` are those a reader comes to; on them a pending poll leaves everything as
it was for the next one, an answer stays the same when more input is there, and abandoning a poll
makes no difference. Every item makes the state smaller. -/
structure Resumable (Inv : σ → Prop) (size : σ → ℕ) : Prop where
  feed_inv {s : σ} (i : ι) : Inv s → Inv (r.feed i s)
  poll_inv {s : σ} : Inv s → Inv (r.poll s).2
  abandon_inv {s : σ} : Inv s → Inv (r.abandon s)
  poll_pending {s s' : σ} (is : List ι) : Inv s → r.poll s = (.pending, s') →
    r.poll (r.feeds is s') = r.poll (r.feeds is s)
  poll_item {s s' : σ} {a : α} (is : List ι) : Inv s → r.poll s = (.item a, s') →
    r.poll (r.feeds is s) = (.item a, r.feeds is s')
  poll_failed {s s' : σ} {e : ε} (is : List ι) : Inv s → r.poll s = (.failed e, s') →
    r.poll (r.feeds is s) = (.failed e, r.feeds is s')
  poll_abandon {s : σ} (is : List ι) : Inv s →
    r.poll (r.feeds is (r.abandon s)) = r.poll (r.feeds is s)
  size_lt {s s' : σ} {a : α} : Inv s → r.poll s = (.item a, s') → size s' < size s

variable {r}

/-- Two readings that no later action can tell apart. -/
structure Same (r : Reader σ ι α ε) (p q : Reading σ α ε) : Prop where
  items : p.items = q.items
  failure : p.failure = q.failure
  poll : p.failure = none → ∀ is, r.poll (r.feeds is p.state) = r.poll (r.feeds is q.state)

theorem Same.refl (p : Reading σ α ε) : Same r p p :=
  ⟨rfl, rfl, fun _ _ => rfl⟩

theorem Same.pollOnce {p q : Reading σ α ε} (h : Same r p q) :
    Same r (r.pollOnce p) (r.pollOnce q) := by
  unfold Reader.pollOnce
  rw [← h.failure]
  cases hfailure : p.failure with
  | some e => exact h
  | none =>
    have hpoll : r.poll p.state = r.poll q.state := h.poll hfailure []
    dsimp only
    rw [hpoll]
    rcases r.poll q.state with ⟨answer, s⟩
    cases answer with
    | pending => exact ⟨h.items, h.failure, fun _ _ => rfl⟩
    | item a => exact ⟨congrArg (· ++ [a]) h.items, h.failure, fun _ _ => rfl⟩
    | failed e => exact ⟨h.items, rfl, fun _ _ => rfl⟩

theorem Same.iterate {p q : Reading σ α ε} (h : Same r p q) (n : ℕ) :
    Same r (r.pollOnce^[n] p) (r.pollOnce^[n] q) := by
  induction n generalizing p q with
  | zero => exact h
  | succ n ih => exact ih h.pollOnce

/-- Once they are polled, two such readings are the same. -/
theorem Same.outcome_pollOnce {p q : Reading σ α ε} (h : Same r p q) :
    (r.pollOnce p).outcome = (r.pollOnce q).outcome := by
  have hfailure := h.failure
  have hitems := h.items
  unfold Reader.pollOnce
  rw [← hfailure]
  cases hp : p.failure with
  | some e =>
    unfold Reading.outcome
    rw [← hfailure, hitems, hp]
  | none =>
    have hpoll : r.poll p.state = r.poll q.state := h.poll hp []
    dsimp only
    rw [hpoll]
    rcases r.poll q.state with ⟨answer, s⟩
    cases answer <;> simp [Reading.record, Reading.outcome, hitems, ← hfailure]

namespace Resumable

variable {Inv : σ → Prop} {size : σ → ℕ}

theorem inv_pollOnce (h : r.Resumable Inv size) {p : Reading σ α ε} (hp : Inv p.state) :
    Inv (r.pollOnce p).state := by
  have hpoll := h.poll_inv hp
  unfold Reader.pollOnce
  cases p.failure with
  | some e => exact hp
  | none =>
    dsimp only
    rcases hres : r.poll p.state with ⟨answer, s⟩
    rw [hres] at hpoll
    cases answer <;> exact hpoll

theorem inv_act (h : r.Resumable Inv size) {p : Reading σ α ε} (hp : Inv p.state) (a : Action ι) :
    Inv (r.act p a).state := by
  cases a with
  | feed i => exact h.feed_inv i hp
  | poll => exact h.inv_pollOnce hp
  | abandon => exact h.abandon_inv hp

/-- The readings that differ from feeding everything first only by what is still to come. -/
def Tracks (r : Reader σ ι α ε) (s : σ) (fed : List ι) (p : Reading σ α ε) : Prop :=
  ∃ k, ∀ is, Same r { p with state := r.feeds is p.state }
    (r.pollOnce^[k] (.start (r.feeds (fed ++ is) s)))

/-- A poll after some input does what the same poll does when all input is there. -/
theorem Tracks.pollOnce (h : r.Resumable Inv size) {s : σ} {fed : List ι} {p : Reading σ α ε}
    (hp : Inv p.state) (ht : Tracks r s fed p) : Tracks r s fed (r.pollOnce p) := by
  obtain ⟨k, hk⟩ := ht
  cases hfailure : p.failure with
  | some e =>
    refine ⟨k, fun is => ?_⟩
    unfold Reader.pollOnce
    rw [hfailure]
    exact hk is
  | none =>
    have hpoll : r.pollOnce p = p.record (r.poll p.state) := by
      unfold Reader.pollOnce
      rw [hfailure]
    rw [hpoll]
    rcases hres : r.poll p.state with ⟨answer, s'⟩
    -- one more poll when all input is there
    have hnext : ∀ is, Same r (r.pollOnce { p with state := r.feeds is p.state })
        (r.pollOnce^[k + 1] (.start (r.feeds (fed ++ is) s))) := by
      intro is
      rw [Function.iterate_succ_apply']
      exact (hk is).pollOnce
    have hopen : ∀ is, r.pollOnce { p with state := r.feeds is p.state } =
        { p with state := r.feeds is p.state }.record (r.poll (r.feeds is p.state)) := by
      intro is
      unfold Reader.pollOnce
      rw [hfailure]
    cases answer with
    | pending =>
      refine ⟨k, fun is => ⟨(hk is).items, (hk is).failure, fun hnone js => ?_⟩⟩
      have hsame := (hk is).poll hnone js
      rw [← hsame]
      dsimp only [Reading.record]
      rw [← r.feeds_append, ← r.feeds_append]
      exact h.poll_pending (is ++ js) hp hres
    | item a =>
      refine ⟨k + 1, fun is => ?_⟩
      have hsame := hnext is
      rw [hopen is, h.poll_item is hp hres] at hsame
      exact hsame
    | failed e =>
      refine ⟨k + 1, fun is => ?_⟩
      have hsame := hnext is
      rw [hopen is, h.poll_failed is hp hres] at hsame
      exact hsame

/-- Whatever is done with a reader, it reads what it reads when all input is there. -/
theorem tracks_run (h : r.Resumable Inv size) {s : σ} (actions : List (Action ι))
    {fed : List ι} {p : Reading σ α ε} (hp : Inv p.state) (ht : Tracks r s fed p) :
    Tracks r s (fed ++ Action.inputs actions) (r.run actions p) := by
  induction actions generalizing fed p with
  | nil =>
    rw [Action.inputs, List.filterMap_nil, List.append_nil]
    exact ht
  | cons a actions ih =>
    have hrest : ∀ {fed : List ι}, Tracks r s fed (r.act p a) →
        Tracks r s (fed ++ Action.inputs actions) (r.run actions (r.act p a)) :=
      fun ht => ih (h.inv_act hp a) ht
    obtain ⟨k, hk⟩ := ht
    cases a with
    | feed i =>
      have htracks : Tracks r s (fed ++ [i]) (r.act p (.feed i)) := by
        refine ⟨k, fun is => ?_⟩
        rw [List.append_assoc]
        exact hk (i :: is)
      have hdone := hrest htracks
      rwa [List.append_assoc] at hdone
    | poll => exact hrest (Tracks.pollOnce h hp ⟨k, hk⟩)
    | abandon =>
      refine hrest ⟨k, fun is => ⟨(hk is).items, (hk is).failure, fun hnone js => ?_⟩⟩
      have hsame := (hk is).poll hnone js
      rw [← hsame]
      dsimp only [Reader.act]
      rw [← r.feeds_append, ← r.feeds_append]
      exact h.poll_abandon (is ++ js) hp

/-! ## Reading to the end -/

/-- Polling again reads nothing more. -/
structure Settled (r : Reader σ ι α ε) (p : Reading σ α ε) : Prop where
  outcome (n : ℕ) : (r.pollOnce^[n] p).outcome = p.outcome

theorem settled_of_failure {p : Reading σ α ε} {e : ε} (hp : p.failure = some e) :
    Settled r p := by
  have hfix : r.pollOnce p = p := by
    unfold Reader.pollOnce
    rw [hp]
  exact ⟨fun n => by rw [Function.iterate_fixed hfix]⟩

theorem settled_of_pending (h : r.Resumable Inv size) {p : Reading σ α ε} {s : σ}
    (hp : Inv p.state) (hfailure : p.failure = none) (hpoll : r.poll p.state = (.pending, s)) :
    Settled r { p with state := s } := by
  have hagain : r.poll s = (.pending, s) := (h.poll_pending [] hp hpoll).trans hpoll
  have hfix : r.pollOnce { p with state := s } = { p with state := s } := by
    unfold Reader.pollOnce
    rw [hfailure]
    dsimp only
    rw [hagain]
    rfl
  exact ⟨fun n => by rw [Function.iterate_fixed hfix]⟩

/-- Enough polls settle a reading. -/
theorem settled_iterate (h : r.Resumable Inv size) {p : Reading σ α ε} (hp : Inv p.state) {n : ℕ}
    (hn : size p.state < n) : Settled r (r.pollOnce^[n] p) := by
  induction n generalizing p with
  | zero => omega
  | succ n ih =>
    rw [Function.iterate_succ_apply]
    have hinv := h.inv_pollOnce hp
    cases hfailure : p.failure with
    | some e =>
      have hfix : r.pollOnce p = p := by
        unfold Reader.pollOnce
        rw [hfailure]
      rw [hfix, Function.iterate_fixed hfix]
      exact settled_of_failure hfailure
    | none =>
      have hpoll : r.pollOnce p = p.record (r.poll p.state) := by
        unfold Reader.pollOnce
        rw [hfailure]
      rw [hpoll] at hinv ⊢
      rcases hres : r.poll p.state with ⟨answer, s⟩
      rw [hres] at hinv
      cases answer with
      | pending =>
        have hsettled := settled_of_pending h hp hfailure hres
        refine ⟨fun m => ?_⟩
        rw [← Function.iterate_add_apply]
        exact (hsettled.outcome (m + n)).trans (hsettled.outcome n).symm
      | item a => exact ih hinv (Nat.lt_of_lt_of_le (h.size_lt hp hres) (by omega))
      | failed e =>
        have hsettled : Settled r (p.record (.failed e, s)) := settled_of_failure rfl
        refine ⟨fun m => ?_⟩
        rw [← Function.iterate_add_apply]
        exact (hsettled.outcome (m + n)).trans (hsettled.outcome n).symm

/-- Reading to the end is polling often enough. -/
theorem drain_outcome (h : r.Resumable Inv size) {p : Reading σ α ε} (hp : Inv p.state) {n : ℕ}
    (hn : size p.state < n) : (r.drain size p).outcome = (r.pollOnce^[n] p).outcome := by
  obtain ⟨m, rfl⟩ := Nat.exists_eq_add_of_le hn
  have hsettled := h.settled_iterate hp (Nat.lt_succ_self (size p.state))
  rw [Nat.add_comm, Function.iterate_add_apply]
  exact (hsettled.outcome m).symm

/-- However a reader is fed, polled and interrupted, once it is read to the end it has read what it
reads when it is fed everything first and never interrupted. -/
theorem drain_run (h : r.Resumable Inv size) {s : σ} (hs : Inv s) (actions : List (Action ι)) :
    (r.drain size (r.run actions (.start s))).outcome =
      (r.drain size (.start (r.feeds (Action.inputs actions) s))).outcome := by
  have hinv : ∀ (actions : List (Action ι)) (p : Reading σ α ε), Inv p.state →
      Inv (r.run actions p).state := by
    intro actions
    induction actions with
    | nil => exact fun p hp => hp
    | cons a actions ih => exact fun p hp => ih _ (h.inv_act hp a)
  have hfeeds : ∀ (is : List ι) (s : σ), Inv s → Inv (r.feeds is s) := by
    intro is
    induction is with
    | nil => exact fun s hs => hs
    | cons i is ih => exact fun s hs => ih _ (h.feed_inv i hs)
  have hstart : Tracks r s [] (.start s) := ⟨0, fun is => .refl _⟩
  obtain ⟨k, hk⟩ := h.tracks_run actions hs hstart
  have hsame := hk []
  rw [List.append_nil, List.nil_append] at hsame
  let whole : Reading σ α ε := .start (r.feeds (Action.inputs actions) s)
  let p := r.run actions (.start s)
  let n := size p.state + size whole.state
  have hp : size p.state < n + 1 := Nat.lt_succ_of_le (Nat.le_add_right _ _)
  have hwhole : size whole.state < n + 1 + k :=
    Nat.lt_of_lt_of_le (Nat.lt_succ_of_le (Nat.le_add_left _ _)) (Nat.le_add_right _ _)
  calc (r.drain size p).outcome
      = (r.pollOnce^[n + 1] p).outcome := h.drain_outcome (hinv actions _ hs) hp
    _ = (r.pollOnce^[n + 1] (r.pollOnce^[k] whole)).outcome := by
        rw [Function.iterate_succ_apply', Function.iterate_succ_apply']
        exact (hsame.iterate n).outcome_pollOnce
    _ = (r.pollOnce^[n + 1 + k] whole).outcome := by rw [← Function.iterate_add_apply]
    _ = (r.drain size whole).outcome :=
        (h.drain_outcome (hfeeds (Action.inputs actions) s hs) hwhole).symm

end Resumable

end Reader

end Polling
