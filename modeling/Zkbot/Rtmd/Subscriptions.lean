import Mathlib.Data.Finset.Basic
import Zkbot.Core.Dict
import Zkbot.Core.Run

/-!
# Upstream subscriptions, by reference count

`sub_manager.rs`: the market-data gateway holds one upstream subscription for each stream that some
downstream lease asks for.  The manager counts the leases of a stream: the first one subscribes, the
last one unsubscribes.  A call of the adapter can fail.  A failed `subscribe` takes the count back,
though the lease is there; a failed `unsubscribe` puts it back, though the lease is gone.

* `SubscriptionManager.applyChange` — one change, with the outcome of the call it may make.
* `Subscribers` — the manager beside the leases that are there and the streams whose last change
  failed.
* `Shelters` — what a change should not do: cost another lease its stream, or leave a stream whose
  last change went well with a wrong count.
* `Recovers` — a stream whose last change failed is changed again only in ways that repair it.
  `shelters_iff_recovers` says that this is exactly when the changes of a run are harmless.
-/

namespace Zkbot

open List Option

/-! ## Streams and leases -/

inductive ChannelType where
  | tick
  | kline (interval : String)
  | orderBook (depth : Option ℕ)
  | funding
  deriving DecidableEq

/-- Leases with one `StreamKey` share one upstream subscription. -/
structure StreamKey where
  instrumentCode : String
  channel : ChannelType
  deriving DecidableEq

structure RtmdSubscriptionSpec where
  streamKey : StreamKey
  /-- the instrument as the venue calls it -/
  instrumentExch : String
  venue : String
  deriving DecidableEq

structure RtmdLease where
  subscriberId : String
  subscriptionId : String
  instrumentCode : String
  channel : ChannelType
  instrumentExch : String
  venue : String
  leaseExpiryMs : Int
  deriving DecidableEq

def RtmdLease.streamKey (l : RtmdLease) : StreamKey :=
  { instrumentCode := l.instrumentCode, channel := l.channel }

def RtmdLease.toSpec (l : RtmdLease) : RtmdSubscriptionSpec :=
  { streamKey := l.streamKey, instrumentExch := l.instrumentExch, venue := l.venue }

inductive SubInterestChange where
  | added (lease : RtmdLease)
  | removed (subscriberId subscriptionId : String) (streamKey : StreamKey)
  deriving DecidableEq

open SubInterestChange

def SubInterestChange.key : SubInterestChange → StreamKey
  | .added lease => lease.streamKey
  | .removed _ _ streamKey => streamKey

/-- A call of the venue adapter. -/
inductive AdapterCall where
  | subscribe (spec : RtmdSubscriptionSpec)
  | unsubscribe (spec : RtmdSubscriptionSpec)
  deriving DecidableEq

/-! ## The manager -/

/-- `SubscriptionManager`: a count for each stream, and the spec it was subscribed with. -/
structure SubscriptionManager where
  state : Dict StreamKey (ℕ × RtmdSubscriptionSpec) := ∅

namespace SubscriptionManager

variable {m : SubscriptionManager} {key : StreamKey}

section

variable (m : SubscriptionManager)

def refcount (key : StreamKey) : ℕ :=
  ((m.state.lookup key).map (·.1)).getD 0

/-- `entry(key).or_insert((0, spec))`, counted up by one: the manager and the new count. -/
def countUp (key : StreamKey) (spec : RtmdSubscriptionSpec) : SubscriptionManager × ℕ :=
  let entry := m.state.getD key (0, spec)
  ({ state := m.state.insert key (entry.1 + 1, entry.2) }, entry.1 + 1)

/-- What a failed `subscribe` takes back. -/
def rollBack (key : StreamKey) : SubscriptionManager :=
  match m.state.lookup key with
  | none => m
  | some (count, spec) =>
    if count - 1 = 0 then { state := m.state.erase key }
    else { state := m.state.insert key (count - 1, spec) }

/-- Count down, and say what to unsubscribe. -/
def countDown (key : StreamKey) : SubscriptionManager × Option RtmdSubscriptionSpec :=
  match m.state.lookup key with
  | none => (m, none)
  | some (count, spec) =>
    if count = 0 then (m, none)
    else if count - 1 = 0 then ({ state := m.state.erase key }, some spec)
    else ({ state := m.state.insert key (count - 1, spec) }, none)

/-- What a failed `unsubscribe` puts back: `entry(key).or_insert((1, spec))`. -/
def putBack (key : StreamKey) (spec : RtmdSubscriptionSpec) : SubscriptionManager :=
  { state := m.state.insert key (m.state.getD key (1, spec)) }

/-- `apply_change`: the manager afterwards, and the call it made of the adapter.  `fails` is the
outcome of that call. -/
def applyChange (fails : Bool) : SubInterestChange → SubscriptionManager × Option AdapterCall
  | .added lease =>
    let up := m.countUp lease.streamKey lease.toSpec
    if up.2 = 1 then
      (if fails then up.1.rollBack lease.streamKey else up.1, some (.subscribe lease.toSpec))
    else (up.1, none)
  | .removed _ _ key =>
    let down := m.countDown key
    match down.2 with
    | some spec =>
      (if fails then down.1.putBack key spec else down.1, some (.unsubscribe spec))
    | none => (down.1, none)

end

/-! ## The counts after a change -/

lemma refcount_of_lookup {entry : ℕ × RtmdSubscriptionSpec} (h : m.state.lookup key = some entry) :
    m.refcount key = entry.1 := by
  simp [refcount, h]

lemma refcount_of_none (h : m.state.lookup key = none) : m.refcount key = 0 := by
  simp [refcount, h]

lemma exists_of_refcount (h : m.refcount key ≠ 0) : ∃ entry, m.state.lookup key = some entry := by
  cases hkey : m.state.lookup key with
  | none => exact absurd (refcount_of_none hkey) h
  | some entry => exact ⟨entry, rfl⟩

section

variable (d : Dict StreamKey (ℕ × RtmdSubscriptionSpec)) (key k : StreamKey)

lemma refcount_insert (entry : ℕ × RtmdSubscriptionSpec) :
    refcount { state := d.insert key entry } k = if k = key then entry.1 else refcount ⟨d⟩ k := by
  simp only [refcount, Dict.lookup_insert_if]
  split_ifs <;> rfl

lemma refcount_erase :
    refcount { state := d.erase key } k = if k = key then 0 else refcount ⟨d⟩ k := by
  simp only [refcount, Dict.lookup_erase_if]
  split_ifs <;> rfl

end

variable (m) (fails : Bool)

/-- **An added lease** is counted, unless it is the first one and cannot be subscribed. -/
lemma applyChange_added (lease : RtmdLease) :
    (m.applyChange fails (.added lease)).2 =
        (if m.refcount lease.streamKey = 0 then some (.subscribe lease.toSpec) else none) ∧
      ∀ k, (m.applyChange fails (.added lease)).1.refcount k =
        if k = lease.streamKey then
          if m.refcount lease.streamKey = 0 ∧ fails = true then 0
          else m.refcount lease.streamKey + 1
        else m.refcount k := by
  obtain ⟨d⟩ := m
  cases hkey : d.lookup lease.streamKey with
  | none =>
    have hcount : refcount ⟨d⟩ lease.streamKey = 0 := refcount_of_none hkey
    grind [applyChange, countUp, rollBack, Dict.getD, Dict.lookup_insert_if, refcount_insert,
      refcount_erase]
  | some entry =>
    have hcount : refcount ⟨d⟩ lease.streamKey = entry.1 := refcount_of_lookup hkey
    grind [applyChange, countUp, rollBack, Dict.getD, Dict.lookup_insert_if, refcount_insert,
      refcount_erase]

/-- **A removed lease** is counted off, unless it is the last one and cannot be unsubscribed. -/
lemma applyChange_removed (sub id : String) (key : StreamKey) :
    (m.applyChange fails (.removed sub id key)).2 =
        (if m.refcount key = 1 then (m.state.lookup key).map (.unsubscribe ·.2) else none) ∧
      ∀ k, (m.applyChange fails (.removed sub id key)).1.refcount k =
        if k = key then if m.refcount key = 1 ∧ fails = true then 1 else m.refcount key - 1
        else m.refcount k := by
  obtain ⟨d⟩ := m
  cases hkey : d.lookup key with
  | none =>
    have hcount : refcount ⟨d⟩ key = 0 := refcount_of_none hkey
    grind [applyChange, countDown]
  | some entry =>
    have hcount : refcount ⟨d⟩ key = entry.1 := refcount_of_lookup hkey
    grind [applyChange, countDown, putBack, Dict.getD, Dict.lookup_erase_if, refcount_insert,
      refcount_erase]

end SubscriptionManager

/-! ## Leases and counts -/

/-- The manager, the leases that are there, and the streams whose last change made a call that
failed.  The manager knows only of the first. -/
structure Subscribers where
  manager : SubscriptionManager := {}
  leases : List RtmdLease := []
  failing : Finset StreamKey := ∅

namespace Subscribers

variable {e : SubInterestChange × Bool}

/-- How many leases of a stream are there. -/
def leasesFor (w : Subscribers) (key : StreamKey) : ℕ :=
  w.leases.countP fun l => decide (l.streamKey = key)

/-- The lease that a removal names. -/
def isNamed (subscriberId subscriptionId : String) (key : StreamKey) (l : RtmdLease) : Bool :=
  decide (l.subscriberId = subscriberId) && decide (l.subscriptionId = subscriptionId) &&
    decide (l.streamKey = key)

/-- The leases after a change.  A removal has to name one of them. -/
def leasesAfter (w : Subscribers) : SubInterestChange → Option (List RtmdLease)
  | .added lease => some (w.leases ++ [lease])
  | .removed sub id key =>
    if w.leases.any (isNamed sub id key) then some (w.leases.eraseP (isNamed sub id key)) else none

/-- The call that a change makes. -/
def call (w : Subscribers) (e : SubInterestChange × Bool) : Option AdapterCall :=
  (w.manager.applyChange e.2 e.1).2

/-- One change, with the outcome of its call. -/
def step (w : Subscribers) (e : SubInterestChange × Bool) : Option Subscribers :=
  (w.leasesAfter e.1).map fun leases =>
    { manager := (w.manager.applyChange e.2 e.1).1
      leases
      failing :=
        if (w.call e).isSome && e.2 then insert e.1.key w.failing else w.failing.erase e.1.key }

/-- A change is harmless: nothing is unsubscribed that another lease needs, and every stream whose
last change did not fail is counted right. -/
def Shelters (w : Subscribers) (e : SubInterestChange × Bool) : Prop :=
  ∀ w', w.step e = some w' →
    (∀ spec, w.call e = some (.unsubscribe spec) → w'.leasesFor e.1.key = 0) ∧
    ∀ k, k ∉ w'.failing → w'.manager.refcount k = w'.leasesFor k

/-- A change comes to a stream whose last change went well, or whose `subscribe` failed and does so
again, or whose `subscribe` failed for the only lease it has, and that goes. -/
def Recovers (w : Subscribers) (e : SubInterestChange × Bool) : Prop :=
  e.1.key ∉ w.failing ∨
    w.manager.refcount e.1.key = 0 ∧
      match e.1 with
      | .added _ => e.2 = true
      | .removed .. => w.leasesFor e.1.key = 1

instance : (w : Subscribers) → (e : SubInterestChange × Bool) → Decidable (w.Recovers e)
  | _, (.added _, fails) => inferInstanceAs (Decidable (_ ∨ _ ∧ fails = true))
  | _, (.removed .., _) => inferInstanceAs (Decidable (_ ∨ _ ∧ _ = 1))

/-- The two ways in which a failed call leaves its stream: with leases that are not counted, or with
a count and no lease. -/
structure Counted (w : Subscribers) : Prop where
  right : ∀ k, k ∉ w.failing → w.manager.refcount k = w.leasesFor k
  failing : ∀ k ∈ w.failing, w.manager.refcount k = 0 ∧ 1 ≤ w.leasesFor k ∨
    w.manager.refcount k = 1 ∧ w.leasesFor k = 0

/-! ## One change -/

/-- Erasing the first lease that `p` holds of takes one from the leases that `q` counts. -/
lemma countP_eraseP {p q : RtmdLease → Bool} {ls : List RtmdLease} (h : ls.any p = true) :
    ∃ l, p l = true ∧ ls.countP q = (ls.eraseP p).countP q + if q l then 1 else 0 := by
  obtain ⟨l, hl, hp⟩ := any_eq_true.mp h
  obtain ⟨l', as, bs, -, hp', heq, herase⟩ := exists_of_eraseP hl hp
  refine ⟨l', hp', ?_⟩
  rw [herase, heq, countP_append, countP_append, countP_cons, Nat.add_assoc]

variable {w w' : Subscribers} {lease : RtmdLease} {fails : Bool} {sub id : String}
  {key : StreamKey}

/-- The leases of each stream after an addition. -/
lemma leasesFor_added (h : w.step (.added lease, fails) = some w') (k : StreamKey) :
    w'.leasesFor k = if k = lease.streamKey then w.leasesFor k + 1 else w.leasesFor k := by
  cases h
  simp only [leasesFor, countP_append, countP_singleton, decide_eq_true_eq]
  split_ifs with h1 h2 h2
  · rfl
  · exact absurd h1.symm h2
  · exact absurd h2.symm h1
  · rfl

/-- The leases of each stream after a removal, which takes one. -/
lemma leasesFor_removed (h : w.step (.removed sub id key, fails) = some w') (k : StreamKey) :
    w.leasesFor k = w'.leasesFor k + if k = key then 1 else 0 := by
  simp only [step, leasesAfter, map_eq_some_iff] at h
  obtain ⟨leases, hleases, rfl⟩ := h
  split_ifs at hleases with hany
  cases hleases
  obtain ⟨l, hl, heq⟩ := countP_eraseP (q := fun l => decide (l.streamKey = k)) hany
  simp only [isNamed, Bool.and_eq_true, decide_eq_true_eq] at hl heq
  rw [leasesFor, heq, hl.2]
  simp [leasesFor, eq_comm]

lemma added_self (h : w.step (.added lease, fails) = some w') :
    (∀ spec, w.call (.added lease, fails) ≠ some (.unsubscribe spec)) ∧
    w'.leasesFor lease.streamKey = w.leasesFor lease.streamKey + 1 ∧
    if w.manager.refcount lease.streamKey = 0 ∧ fails = true then
      lease.streamKey ∈ w'.failing ∧ w'.manager.refcount lease.streamKey = 0
    else
      lease.streamKey ∉ w'.failing ∧
        w'.manager.refcount lease.streamKey = w.manager.refcount lease.streamKey + 1 := by
  obtain ⟨hcall, hcount⟩ := w.manager.applyChange_added fails lease
  refine ⟨fun spec hspec => ?_, (leasesFor_added h _).trans (if_pos rfl), ?_⟩
  · rw [call, hcall] at hspec
    split_ifs at hspec
    cases hspec
  · cases h
    have hself := (hcount lease.streamKey).trans (if_pos rfl)
    by_cases hfirst : w.manager.refcount lease.streamKey = 0 <;> cases fails <;>
      simp [call, hcall, hself, hfirst, key]

lemma removed_self (h : w.step (.removed sub id key, fails) = some w') :
    ((∃ spec, w.call (.removed sub id key, fails) = some (.unsubscribe spec)) ↔
      w.manager.refcount key = 1) ∧
    w.leasesFor key = w'.leasesFor key + 1 ∧
    if w.manager.refcount key = 1 ∧ fails = true then
      key ∈ w'.failing ∧ w'.manager.refcount key = 1
    else key ∉ w'.failing ∧ w'.manager.refcount key = w.manager.refcount key - 1 := by
  obtain ⟨hcall, hcount⟩ := w.manager.applyChange_removed fails sub id key
  have hlast : w.manager.refcount key = 1 → ∃ entry, w.manager.state.lookup key = some entry :=
    fun hone => SubscriptionManager.exists_of_refcount (by omega)
  refine ⟨⟨fun ⟨spec, hspec⟩ => ?_, fun hone => ?_⟩,
    (leasesFor_removed h key).trans (by rw [if_pos rfl]), ?_⟩
  · rw [call, hcall] at hspec
    split_ifs at hspec with hone
    exact hone
  · obtain ⟨entry, hentry⟩ := hlast hone
    exact ⟨entry.2, by rw [call, hcall, if_pos hone, hentry]; rfl⟩
  · simp only [step, map_eq_some_iff] at h
    obtain ⟨leases, -, rfl⟩ := h
    have hself := (hcount key).trans (if_pos rfl)
    by_cases hone : w.manager.refcount key = 1
    · obtain ⟨entry, hentry⟩ := hlast hone
      cases fails <;> simp [call, hcall, hself, hone, hentry, SubInterestChange.key]
    · simp [call, hcall, hself, hone, SubInterestChange.key]

lemma step_of_ne (h : w.step e = some w') {k : StreamKey} (hk : k ≠ e.1.key) :
    w'.manager.refcount k = w.manager.refcount k ∧ w'.leasesFor k = w.leasesFor k ∧
      (k ∈ w'.failing ↔ k ∈ w.failing) := by
  have hfailing : k ∈ w'.failing ↔ k ∈ w.failing := by
    simp only [step, map_eq_some_iff] at h
    obtain ⟨leases, -, rfl⟩ := h
    show k ∈ (if _ then insert e.1.key w.failing else w.failing.erase e.1.key) ↔ _
    split_ifs <;> simp [hk]
  have hmanager : w'.manager = (w.manager.applyChange e.2 e.1).1 := by
    simp only [step, map_eq_some_iff] at h
    obtain ⟨leases, -, rfl⟩ := h
    rfl
  rw [hmanager]
  obtain ⟨change, fails⟩ := e
  cases change with
  | added lease =>
    exact ⟨((w.manager.applyChange_added fails lease).2 k).trans (if_neg hk),
      (leasesFor_added h k).trans (if_neg hk), hfailing⟩
  | removed sub id key =>
    have hk : k ≠ key := hk
    exact ⟨((w.manager.applyChange_removed fails sub id key).2 k).trans (if_neg hk),
      ((leasesFor_removed h k).trans (by simp [hk])).symm, hfailing⟩

/-- In a good state a change is harmless if it is so at its own stream. -/
lemma Counted.shelters_iff (hw : w.Counted) (h : w.step e = some w') :
    w.Shelters e ↔
      ((∃ spec, w.call e = some (.unsubscribe spec)) → w'.leasesFor e.1.key = 0) ∧
      (e.1.key ∉ w'.failing → w'.manager.refcount e.1.key = w'.leasesFor e.1.key) := by
  constructor
  · intro hsh
    obtain ⟨hcall, hcount⟩ := hsh w' h
    exact ⟨fun ⟨spec, hspec⟩ => hcall spec hspec, hcount e.1.key⟩
  · rintro ⟨hcall, hcount⟩ w'' h''
    obtain rfl := mem_unique h h''
    refine ⟨fun spec hspec => hcall ⟨spec, hspec⟩, fun k hk => ?_⟩
    by_cases hkey : k = e.1.key
    · subst hkey
      exact hcount hk
    · obtain ⟨hr, hl, hf⟩ := step_of_ne h hkey
      rw [hr, hl]
      exact hw.right k fun hmem => hk (hf.mpr hmem)

/-- What is known of a stream in a good state. -/
lemma Counted.cases (hw : w.Counted) (k : StreamKey) :
    k ∉ w.failing ∧ w.manager.refcount k = w.leasesFor k ∨
    k ∈ w.failing ∧ w.manager.refcount k = 0 ∧ 1 ≤ w.leasesFor k ∨
    k ∈ w.failing ∧ w.manager.refcount k = 1 ∧ w.leasesFor k = 0 := by
  by_cases hk : k ∈ w.failing
  · rcases hw.failing k hk with h | h
    · exact .inr (.inl ⟨hk, h⟩)
    · exact .inr (.inr ⟨hk, h⟩)
  · exact .inl ⟨hk, hw.right k hk⟩

/-- **One change**: in a good state it is harmless exactly if it repairs its stream. -/
lemma Counted.shelters_step_iff (hw : w.Counted) (h : w.step e = some w') :
    w.Shelters e ↔ w.Recovers e := by
  rw [hw.shelters_iff h]
  obtain ⟨change, fails⟩ := e
  have hcases := hw.cases change.key
  cases change with
  | added lease =>
    obtain ⟨hcall, hleases, hself⟩ := added_self h
    simp only [Recovers, key] at *
    grind
  | removed =>
    obtain ⟨hcall, hleases, hself⟩ := removed_self h
    simp only [Recovers, key] at *
    grind

lemma Counted.step (hw : w.Counted) (hok : w.Recovers e) (h : w.step e = some w') : w'.Counted := by
  have hsh := (hw.shelters_step_iff h).mpr hok w' h
  refine ⟨hsh.2, fun k hk => ?_⟩
  by_cases hkey : k = e.1.key
  · obtain ⟨change, fails⟩ := e
    cases change with
    | added lease =>
      obtain ⟨-, hleases, hself⟩ := added_self h
      simp only [key] at *
      grind
    | removed =>
      obtain ⟨hcall, hleases, hself⟩ := removed_self h
      simp only [key] at *
      grind
  · obtain ⟨hr, hl, hf⟩ := step_of_ne h hkey
    rw [hr, hl]
    exact hw.failing k (hf.mp hk)

lemma counted_start : Counted {} where
  right := fun _ _ => rfl
  failing := fun k hk => by cases hk

/-- **Failures of the adapter cost no other subscriber its stream** exactly if a stream is changed
after a failed call only in ways that repair it: another `subscribe` fails, or the one lease that
was not subscribed goes. -/
theorem shelters_iff_recovers {es : List (SubInterestChange × Bool)} {w : Subscribers}
    (h : run step {} es = some w) : Guarded step Shelters {} es ↔ Guarded step Recovers {} es :=
  guarded_congr (fun _ _ _ hw hs => hw.shelters_step_iff hs)
    (fun _ _ _ hw hok hs => hw.step hok hs) counted_start h

end Subscribers

def Sample.tickLease (subscriber instrumentExch : String) : RtmdLease :=
  { subscriberId := subscriber, subscriptionId := subscriber, instrumentCode := "B-Q"
    channel := .tick, instrumentExch, venue := "V", leaseExpiryMs := 0 }

def Sample.tickLeaseGone (subscriber : String) : SubInterestChange :=
  .removed subscriber subscriber { instrumentCode := "B-Q", channel := .tick }

open Sample

/-- A failed `subscribe` is repaired when its lease goes, and later subscribers are safe. -/
theorem Subscribers.shelters_after_failed_subscribe :
    Guarded step Shelters {}
      [(.added (tickLease "a" "BQ"), true), (tickLeaseGone "a", false),
       (.added (tickLease "b" "BQ"), false), (.added (tickLease "c" "BQ"), false),
       (tickLeaseGone "b", false)] :=
  (shelters_iff_recovers rfl).mpr (by decide)

/-- The first subscriber's call fails, the second one's does not.  When the first goes, the stream
is unsubscribed under the second. -/
theorem Subscribers.failed_subscribe_costs_stream :
    (run step {} [(.added (tickLease "a" "BQ"), true),
        (.added (tickLease "b" "BQ"), false), (tickLeaseGone "a", false)]).isSome ∧
      ¬ Guarded step Shelters {} [(.added (tickLease "a" "BQ"), true),
        (.added (tickLease "b" "BQ"), false), (tickLeaseGone "a", false)] := by
  refine ⟨rfl, fun hg => ?_⟩
  obtain ⟨hsh, -⟩ := (hg.2 _ rfl).2 _ rfl
  have hleases := (hsh _ rfl).1 _ rfl
  exact absurd hleases (by decide)

end Zkbot
