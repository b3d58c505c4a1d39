import Zkbot.Core.Changes
import Zkbot.Core.Run

/-!
# The discovery cache and its events

`nats_kv_discovery.rs`: one task watches the registry bucket and keeps a cache of the registrations.
Each time it connects it collects entries in a staging map until none comes for a while, puts the
map in the place of the cache, and announces what is different; from then on every entry changes the
cache directly.  Others subscribe to the announcements and take a snapshot of the cache.

* `Watcher.step` — the task, one wait or one send at a time.  The cache is swapped under a lock that
  is released before the announcements are sent; the lock of a live update is held until its event
  is sent, so that the two are one step.
* `Watcher.log` — what has been announced, with what still has to be.  The cache is the log,
  replayed on nothing (`Logged`), in every state of every run.
* `events_replicate` — so a subscriber that replays what it receives on its snapshot has the cache,
  once the announcements of a swap have all been sent.
-/

namespace Zkbot

open List

/-- `DiscoveryEvent`: `Upsert` and `Remove`. -/
abbrev DiscoveryEvent (ρ : Type) := Change String ρ

inductive KvOperation where
  | put
  | delete
  | purge
  deriving DecidableEq

/-- An entry of a watch, with the bytes that were written. -/
structure KvEntry (β : Type) where
  key : String
  operation : KvOperation
  value : β
  deriving DecidableEq

section Apply

variable {β ρ : Type} [DecidableEq ρ] (decode : β → Option ρ)

/-- `apply_entry`, for the staging map and for the cache.  A value that cannot be decoded is
skipped. -/
def applyEntry (map : Dict String ρ) (entry : KvEntry β) :
    Dict String ρ × Option (DiscoveryEvent ρ) :=
  match entry.operation with
  | .put =>
    match decode entry.value with
    | some reg =>
      (map.insert entry.key reg,
        if map.lookup entry.key ≠ some reg then some (.upsert entry.key reg) else none)
    | none => (map, none)
  | .delete | .purge =>
    (map.erase entry.key, (map.lookup entry.key).map fun _ => .remove entry.key)

lemma lookup_applyEntry (map : Dict String ρ) (entry : KvEntry β) (k : String) :
    (applyEntry decode map entry).1.lookup k =
      (replay map (applyEntry decode map entry).2.toList).lookup k := by
  have hremove : (map.erase entry.key).lookup k =
      (replay map
        ((map.lookup entry.key).map fun _ => Change.remove entry.key).toList).lookup k := by
    cases hold : map.lookup entry.key with
    | some reg => rfl
    | none =>
      rw [Dict.lookup_erase_if]
      split_ifs with hk
      · exact (hk ▸ hold).symm
      · rfl
  simp only [applyEntry]
  cases entry.operation with
  | put =>
    cases decode entry.value with
    | none => rfl
    | some reg =>
      by_cases hchanged : map.lookup entry.key = some reg
      · simp only [hchanged, ne_eq, not_true_eq_false, if_false]
        rw [Dict.lookup_insert_if]
        split_ifs with hk
        · exact (hk ▸ hchanged).symm
        · rfl
      · simp only [hchanged, ne_eq, not_false_eq_true, if_true]
        rfl
  | delete | purge => exact hremove

end Apply

/-! ## The watch loop -/

/-- Where the loop stands. -/
inductive WatchPhase (ρ : Type) where
  /-- asks for a watch, or sleeps before it does -/
  | connecting
  | snapshot (staging : Dict String ρ)
  /-- after the swap, with the events that are still to be sent -/
  | announcing (unsent : List (DiscoveryEvent ρ))
  | live

/-- What the loop waits for, and what comes. -/
inductive WatchInput (β : Type) where
  | watchFailed
  | watchOpened
  | entry (e : KvEntry β)
  | streamError
  | streamEnded
  /-- no entry for `SNAPSHOT_SETTLE_MS` -/
  | settled
  /-- the next of the events is sent -/
  | send
  deriving DecidableEq

/-- The client: the cache, the events that were sent on the broadcast channel, and the loop. -/
structure Watcher (ρ : Type) where
  cache : Dict String ρ := ∅
  sent : List (DiscoveryEvent ρ) := []
  phase : WatchPhase ρ := .connecting

namespace Watcher

variable {β ρ : Type} [DecidableEq ρ] {w w' : Watcher ρ} {input : WatchInput β}
  {inputs : List (WatchInput β)}

def swap (w : Watcher ρ) (staging : Dict String ρ) : Watcher ρ :=
  { w with cache := staging, phase := .announcing (changes w.cache staging) }

/-- One step of the loop; `none` is an input it does not wait for. -/
def step (decode : β → Option ρ) (w : Watcher ρ) (input : WatchInput β) : Option (Watcher ρ) :=
  match w.phase, input with
  | .connecting, .watchFailed => some w
  | .connecting, .watchOpened => some { w with phase := .snapshot ∅ }
  | .snapshot staging, .entry e =>
    some { w with phase := .snapshot (applyEntry decode staging e).1 }
  | .snapshot _, .streamError => some { w with phase := .connecting }
  | .snapshot staging, .streamEnded => some (w.swap staging)
  | .snapshot staging, .settled => some (w.swap staging)
  | .announcing (event :: rest), .send =>
    some { w with sent := w.sent ++ [event], phase := .announcing rest }
  | .announcing [], .send => some { w with phase := .live }
  | .live, .entry e =>
    let (cache, event) := applyEntry decode w.cache e
    some { w with cache, sent := w.sent ++ event.toList }
  | .live, .streamError => some { w with phase := .connecting }
  | .live, .streamEnded => some { w with phase := .connecting }
  | _, _ => none

/-- The events of a swap that are still to be sent. -/
def unsent (w : Watcher ρ) : List (DiscoveryEvent ρ) :=
  match w.phase with
  | .announcing events => events
  | _ => []

def log (w : Watcher ρ) : List (DiscoveryEvent ρ) := w.sent ++ w.unsent

variable {decode : β → Option ρ}

/-- What a step does to the log: it is announced further, or changes are added, which the cache has
at once. -/
inductive StepCase (decode : β → Option ρ) (w w' : Watcher ρ) : Prop
  | quiet (hcache : w'.cache = w.cache) (hsent : w.sent <+: w'.sent) (hlog : w'.log = w.log)
  | swapped (staging : Dict String ρ) (hcache : w'.cache = staging) (hsent : w'.sent = w.sent)
      (hlog : w'.log = w.log ++ changes w.cache staging)
  | updated (e : KvEntry β) (hcache : w'.cache = (applyEntry decode w.cache e).1)
      (hsent : w.sent <+: w'.sent)
      (hlog : w'.log = w.log ++ (applyEntry decode w.cache e).2.toList)

lemma step_cases (h : step decode w input = some w') : StepCase decode w w' := by
  obtain ⟨cache, sent, phase⟩ := w
  simp only [step] at h
  split at h <;> cases h
  case h_1 | h_2 | h_3 | h_4 | h_8 | h_10 | h_11 =>
    exact .quiet rfl (prefix_refl _) (by simp [log, unsent])
  case h_5 staging | h_6 staging => exact .swapped staging rfl rfl (by simp [log, unsent, swap])
  case h_7 event rest => exact .quiet rfl (prefix_append _ _) (by simp [log, unsent])
  case h_9 e => exact .updated e rfl (prefix_append _ _) (by simp [log, unsent])

lemma cache_eq_or_not_snapshot (h : step decode w input = some w') :
    w'.cache = w.cache ∨ ∀ staging, w'.phase ≠ .snapshot staging := by
  obtain ⟨cache, sent, phase⟩ := w
  simp only [step] at h
  split at h <;> cases h
  case h_5 | h_6 | h_9 => exact .inr fun _ hphase => by cases hphase
  all_goals exact .inl rfl

/-- The cache is what the log says. -/
def Logged (w : Watcher ρ) : Prop := ∀ k, w.cache.lookup k = (replay ∅ w.log).lookup k

lemma logged_step (inv : Logged w) (h : step decode w input = some w') : Logged w' := by
  cases step_cases h with
  | quiet hcache _ hlog =>
    intro k
    rw [hcache, hlog]
    exact inv k
  | swapped staging hcache _ hlog =>
    intro k
    rw [hcache, hlog, replay_append, ← lookup_replay_changes w.cache staging]
    exact lookup_replay_congr (.inl (inv k))
  | updated e hcache _ hlog =>
    intro k
    rw [hcache, hlog, replay_append, lookup_applyEntry]
    exact lookup_replay_congr (.inl (inv k))

lemma log_prefix_step (h : step decode w input = some w') :
    w.sent <+: w'.sent ∧ w.log <+: w'.log := by
  cases step_cases h with
  | quiet _ hsent hlog => exact ⟨hsent, hlog ▸ prefix_refl _⟩
  | swapped staging _ hsent hlog =>
    exact ⟨hsent ▸ prefix_refl _, hlog ▸ prefix_append _ _⟩
  | updated e _ hsent hlog => exact ⟨hsent, hlog ▸ prefix_append _ _⟩

lemma log_prefix_run (h : run (step decode) w inputs = some w') :
    w.sent <+: w'.sent ∧ w.log <+: w'.log := by
  have hg : Guarded (step decode) (fun _ _ => True) w inputs :=
    guarded_of_forall (fun _ _ => trivial) _ _
  refine run_invariant (I := fun x => w.sent <+: x.sent ∧ w.log <+: x.log) ?_
    ⟨prefix_refl _, prefix_refl _⟩ hg h
  intro x input x' inv _ hstep
  have hx := log_prefix_step hstep
  exact ⟨inv.1.trans hx.1, inv.2.trans hx.2⟩

lemma logged_run (h : run (step decode) {} inputs = some w) : Logged w := by
  have hg : Guarded (step decode) (fun _ _ => True) {} inputs :=
    guarded_of_forall (fun _ _ => trivial) _ _
  exact run_invariant (fun _ _ _ inv _ hstep => logged_step inv hstep) (fun _ => rfl) hg h

/-- What a subscriber has received that subscribed in one state and has kept up until another. -/
def received (subscribed w : Watcher ρ) : List (DiscoveryEvent ρ) :=
  w.sent.drop subscribed.sent.length

/-- **The events replicate the cache.**  A subscriber that replays on its snapshot all the events it
has received, and then those of a swap that are still to be sent, has the cache. -/
theorem events_replicate {inputs₁ inputs₂ inputs₃ : List (WatchInput β)}
    {subscribed snapshot w : Watcher ρ} (h₁ : run (step decode) {} inputs₁ = some subscribed)
    (h₂ : run (step decode) subscribed inputs₂ = some snapshot)
    (h₃ : run (step decode) snapshot inputs₃ = some w) (k : String) :
    (replay snapshot.cache (received subscribed w ++ w.unsent)).lookup k = w.cache.lookup k := by
  have hlogged : Logged snapshot := logged_run (run_append_eq_some.mpr ⟨_, h₁, h₂⟩)
  have hlogged' : Logged w :=
    logged_run (run_append_eq_some.mpr ⟨_, run_append_eq_some.mpr ⟨_, h₁, h₂⟩, h₃⟩)
  obtain ⟨hsent, hlog⟩ := log_prefix_run h₂
  obtain ⟨hsent', hlog'⟩ := log_prefix_run h₃
  -- cut the log where the subscription begins and where the snapshot was taken
  obtain ⟨bs, hbs⟩ : subscribed.sent <+: snapshot.log :=
    hsent.trans (prefix_append _ _)
  obtain ⟨cs, hcs⟩ := hlog'
  have hreceived : received subscribed w ++ w.unsent = bs ++ cs := by
    have hle : subscribed.sent.length ≤ w.sent.length := (hsent.trans hsent').length_le
    have hdrop : received subscribed w ++ w.unsent = w.log.drop subscribed.sent.length := by
      rw [log, drop_append_of_le_length hle, received]
    rw [hdrop, ← hcs, ← hbs, append_assoc, drop_left]
  calc (replay snapshot.cache (received subscribed w ++ w.unsent)).lookup k
      = (replay (replay ∅ snapshot.log) (bs ++ cs)).lookup k := by
        rw [hreceived]
        exact lookup_replay_congr (.inl (hlogged k))
    _ = (replay ∅ w.log).lookup k := by
        rw [← hcs, ← hbs]
        exact lookup_replay_again ∅ subscribed.sent bs cs k
    _ = w.cache.lookup k := (hlogged' k).symm

/-- A subscriber that joins after a swap, when one of its two events has been sent. -/
theorem events_replicate_mid_swap :
    let put (key : String) : WatchInput ℕ := .entry ⟨key, .put, 1⟩
    let inputs₁ := [.watchOpened, put "svc.oms.1", put "svc.gw.1", .settled, .send]
    let inputs₃ := [.send, .send, .entry ⟨"svc.gw.1", .delete, 0⟩]
    ∃ s ∈ run (step some) {} inputs₁, ∃ w ∈ run (step some) s inputs₃,
      (received s w).length = 2 ∧ w.unsent = [] ∧
        ∀ k, (replay s.cache (received s w ++ w.unsent)).lookup k = w.cache.lookup k := by
  intro put inputs₁ inputs₃
  obtain ⟨s, hs, w, hw, hlength, hunsent⟩ :
      ∃ s ∈ run (step some) {} inputs₁, ∃ w ∈ run (step some) s inputs₃,
        (received s w).length = 2 ∧ w.unsent = [] := by
    decide +kernel
  refine ⟨s, hs, w, hw, hlength, hunsent, fun k => ?_⟩
  exact events_replicate hs (show run (step some) s [] = some s from rfl) hw k

/-- Between a swap and its events a subscriber that has received all that was sent does not have
what the cache has. -/
theorem swapped_before_announced :
    ∃ w ∈ run (step some) ({} : Watcher ℕ) [.watchOpened, .entry ⟨"svc.oms.1", .put, 1⟩, .settled],
      received {} w = [] ∧ (replay ∅ (received {} w)).lookup "svc.oms.1" = none ∧
        w.cache.lookup "svc.oms.1" = some 1 := by
  decide +kernel

end Watcher

end Zkbot
