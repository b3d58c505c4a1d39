import Zkbot.Infra.Discovery

/-!
# Registered services in the discovery cache

The watch loop of `nats_kv_discovery.rs` together with the bucket it watches.  A watch first
delivers the entries the bucket has when it is opened, and then every write, with any delay between
one entry and the next.  The loop takes a pause of `SNAPSHOT_SETTLE_MS`, or the end of the stream,
for the end of the first part, and puts what it has got by then in the place of the cache.

* `RegistryWatch.step` — the bucket, the stream and the loop.
* `Covered` — a swap finds the entry of the key delivered, and no old deletion of it is.
* `stays_discovered` — under this condition a registered key that is in the cache stays there.
-/

namespace Zkbot

open Option

/-- The bucket, the entries of the open watch that have not been delivered, and the loop. -/
structure RegistryWatch (β ρ : Type) where
  bucket : Dict String β := ∅
  /-- whether writes still reach the stream -/
  isOpen : Bool := false
  /-- of the entries the bucket had when the watch was opened -/
  burst : List (KvEntry β) := []
  /-- of the writes since then -/
  updates : List (KvEntry β) := []
  client : Watcher ρ := {}

open RegistryWatch

/-- A write to the bucket, or a step of the loop. -/
inductive RegistryEvent (β : Type) where
  | put (key : String) (value : β)
  | delete (key : String)
  | purge (key : String)
  /-- the bucket's `max_age` has run out for the key, which the stream does not tell -/
  | expire (key : String)
  | watchFailed
  | watchOpened (burst : List (KvEntry β))
  /-- the next entry of the stream -/
  | deliver
  | streamError
  | streamEnded
  | settled
  | send

/-- The first part of a watch: the last entry of every key, in any order. -/
def IsBurst {β : Type} (bucket : Dict String β) (burst : List (KvEntry β)) : Prop :=
  (∀ e ∈ bucket.entries, ⟨e.1, .put, e.2⟩ ∈ burst) ∧
    ∀ e ∈ burst, if e.operation = .put then bucket.lookup e.key = some e.value else e.key ∉ bucket

instance {β : Type} [DecidableEq β] (bucket : Dict String β) (burst : List (KvEntry β)) :
    Decidable (IsBurst bucket burst) :=
  inferInstanceAs (Decidable (_ ∧ ∀ e ∈ burst, _))

namespace RegistryWatch

variable {β ρ : Type} [DecidableEq β] [Inhabited β] [DecidableEq ρ] {s s' : RegistryWatch β ρ}
  {event : RegistryEvent β} {e : KvEntry β} {staging : Dict String ρ}

def write (s : RegistryWatch β ρ) (bucket : Dict String β) (entry : KvEntry β) :
    RegistryWatch β ρ :=
  { s with bucket, updates := if s.isOpen then s.updates ++ [entry] else s.updates }

def clientStep (decode : β → Option ρ) (s : RegistryWatch β ρ) (input : WatchInput β) :
    Option (RegistryWatch β ρ) :=
  (s.client.step decode input).map fun client => { s with client }

/-- The next entry of the stream, and the stream after it. -/
def next (s : RegistryWatch β ρ) : Option (KvEntry β × RegistryWatch β ρ) :=
  match s.burst, s.updates with
  | e :: burst, _ => some (e, { s with burst })
  | [], e :: updates => some (e, { s with updates })
  | [], [] => none

def closed (s : RegistryWatch β ρ) : RegistryWatch β ρ :=
  { s with isOpen := false, burst := [], updates := [] }

def step (decode : β → Option ρ) (s : RegistryWatch β ρ) :
    RegistryEvent β → Option (RegistryWatch β ρ)
  | .put key value => some (s.write (s.bucket.insert key value) ⟨key, .put, value⟩)
  -- a tombstone has the empty value
  | .delete key => some (s.write (s.bucket.erase key) ⟨key, .delete, default⟩)
  | .purge key => some (s.write (s.bucket.erase key) ⟨key, .purge, default⟩)
  | .expire key => some { s with bucket := s.bucket.erase key }
  | .watchFailed => s.clientStep decode .watchFailed
  | .watchOpened burst =>
    if IsBurst s.bucket burst then
      { s with isOpen := true, burst, updates := [] }.clientStep decode .watchOpened
    else none
  | .deliver => s.next.bind fun (e, s) => s.clientStep decode (.entry e)
  | .streamError => s.closed.clientStep decode .streamError
  | .streamEnded => s.closed.clientStep decode .streamEnded
  | .settled => s.clientStep decode .settled
  | .send => s.clientStep decode .send

/-- The key has a registration in the bucket, and one that can be decoded. -/
def Registered (decode : β → Option ρ) (key : String) (s : RegistryWatch β ρ) : Prop :=
  ∃ v ∈ s.bucket.lookup key, (decode v).isSome
deriving Decidable

/-- The first part of a watch is not taken to be over before it has delivered the entry of the key;
and no deletion of the key is delivered, which would be older than its registration. -/
def Covered (key : String) (s : RegistryWatch β ρ) : RegistryEvent β → Prop
  | .settled | .streamEnded => ∀ e ∈ s.burst, e.key ≠ key
  | .deliver => ∀ x ∈ s.next, x.1.key = key → x.1.operation = .put
  | _ => True

instance (key : String) (s : RegistryWatch β ρ) (event : RegistryEvent β) :
    Decidable (Covered key s event) :=
  match event with
  | .settled | .streamEnded | .deliver | .put .. | .delete _ | .purge _ | .expire _ | .watchFailed
  | .watchOpened _ | .streamError | .send => by dsimp only [Covered]; infer_instance

variable {decode : β → Option ρ} {key : String}

/-- The key is in the cache; and while a snapshot is collected it is in the staging map as well, or
its entry is still to come. -/
structure Discovered (decode : β → Option ρ) (key : String) (s : RegistryWatch β ρ) : Prop where
  cached : key ∈ s.client.cache
  staged : ∀ staging, s.client.phase = .snapshot staging →
    key ∈ staging ∨ ∃ e ∈ s.burst, e.key = key ∧ e.operation = .put ∧ (decode e.value).isSome

omit [DecidableEq β] [Inhabited β] in
/-- An entry that does not delete the key leaves it in a map, and a good registration puts it
there. -/
lemma mem_applyEntry {map : Dict String ρ} (hput : e.key = key → e.operation = .put)
    (h : key ∈ map ∨ e.key = key ∧ (decode e.value).isSome) :
    key ∈ (applyEntry decode map e).1 := by
  have herase : e.operation ≠ .put → key ∈ map.erase e.key := by
    intro hop
    have hne : key ≠ e.key := fun heq => hop (hput heq.symm)
    exact AList.mem_erase.mpr ⟨hne, h.resolve_right fun hnew => hne hnew.1.symm⟩
  simp only [applyEntry]
  cases hop : e.operation with
  | put =>
    cases hdecode : decode e.value with
    | some reg =>
      exact (AList.mem_insert _).mpr (h.symm.imp_left fun hnew => hnew.1.symm)
    | none =>
      refine h.resolve_right fun hnew => ?_
      simp [hdecode] at hnew
  | delete | purge => exact herase (by simp [hop])

omit [DecidableEq β] [Inhabited β] [DecidableEq ρ] in
lemma Discovered.congr (inv : Discovered decode key s) (hclient : s'.client = s.client)
    (hburst : s'.burst = s.burst) : Discovered decode key s' where
  cached := hclient ▸ inv.cached
  staged := by
    rw [hclient, hburst]
    exact inv.staged

omit [DecidableEq β] [Inhabited β] [DecidableEq ρ] in
lemma mem_burst (hreg : Registered decode key s) {burst : List (KvEntry β)}
    (hburst : IsBurst s.bucket burst) :
    ∃ e ∈ burst, e.key = key ∧ e.operation = .put ∧ (decode e.value).isSome := by
  obtain ⟨v, hv, hdecode⟩ := hreg
  exact ⟨_, hburst.1 ⟨key, v⟩ (Dict.mem_entries_iff.mpr hv), rfl, rfl, hdecode⟩

omit [DecidableEq β] [Inhabited β] [DecidableEq ρ] in
/-- The entries of the first part are delivered before the others. -/
lemma next_cases (h : s.next = some (e, s')) :
    s'.client = s.client ∧ (s.burst = e :: s'.burst ∨ s.burst = [] ∧ s'.burst = []) := by
  simp only [next] at h
  split at h
  case h_1 hburst =>
    cases h
    exact ⟨rfl, .inl hburst⟩
  case h_2 hburst _ =>
    cases h
    exact ⟨rfl, .inr ⟨hburst, hburst⟩⟩
  case h_3 => cases h

omit [DecidableEq β] [Inhabited β] [DecidableEq ρ] in
/-- A map that is put in the place of the cache has the key, if its entry has been delivered. -/
lemma Discovered.mem_staging (inv : Discovered decode key s)
    (hphase : s.client.phase = .snapshot staging) (hburst : ∀ e ∈ s.burst, e.key ≠ key) :
    key ∈ staging := by
  refine (inv.staged staging hphase).resolve_right ?_
  rintro ⟨e, he, hkey, -⟩
  exact hburst e he hkey

omit [DecidableEq β] [Inhabited β] in
/-- The staging map after an entry: the key is in it, or its entry is among those still to come. -/
lemma Discovered.staged_next {s₁ : RegistryWatch β ρ} (inv : Discovered decode key s)
    (hphase : s.client.phase = .snapshot staging)
    (hburst : s.burst = e :: s₁.burst ∨ s.burst = [] ∧ s₁.burst = [])
    (hput : e.key = key → e.operation = .put) :
    key ∈ (applyEntry decode staging e).1 ∨
      ∃ e ∈ s₁.burst, e.key = key ∧ e.operation = .put ∧ (decode e.value).isSome := by
  rcases inv.staged staging hphase with hmem | ⟨e₀, he₀, hkey, hop, hdecode⟩
  · exact .inl (mem_applyEntry hput (.inl hmem))
  · rcases hburst with hburst | ⟨hburst, -⟩
    · rw [hburst] at he₀
      rcases List.mem_cons.mp he₀ with rfl | he₀
      · exact .inl (mem_applyEntry hput (.inr ⟨hkey, hdecode⟩))
      · exact .inr ⟨e₀, he₀, hkey, hop, hdecode⟩
    · rw [hburst] at he₀
      cases he₀

lemma Discovered.deliver (inv : Discovered decode key s) (hcov : Covered key s .deliver)
    (h : step decode s .deliver = some s') : Discovered decode key s' := by
  obtain ⟨⟨e, s₁⟩, hnext, h⟩ := bind_eq_some_iff.mp h
  obtain ⟨client, hclient, rfl⟩ := map_eq_some_iff.mp h
  obtain ⟨hsame, hburst⟩ := next_cases hnext
  have hput : e.key = key → e.operation = .put := hcov _ hnext
  cases hphase : s.client.phase with
  | connecting | announcing unsent =>
    simp only [Watcher.step, hsame, hphase] at hclient
    cases hclient
  | snapshot staging =>
    simp only [Watcher.step, hsame, hphase] at hclient
    cases hclient
    refine ⟨inv.cached, fun staging' hphase' => ?_⟩
    cases hphase'
    exact inv.staged_next hphase hburst hput
  | live =>
    simp only [Watcher.step, hsame, hphase] at hclient
    cases hclient
    exact ⟨mem_applyEntry hput (.inl inv.cached), fun _ h => by cases h⟩

lemma discovered_step (inv : Discovered decode key s) (hreg : Registered decode key s)
    (hcov : Covered key s event) (h : step decode s event = some s') :
    Discovered decode key s' := by
  cases event with
  | put | delete | purge | expire =>
    cases h
    exact inv.congr rfl rfl
  | deliver => exact inv.deliver hcov h
  | watchFailed =>
    obtain ⟨client, hclient, rfl⟩ := map_eq_some_iff.mp h
    cases hphase : s.client.phase <;> simp only [Watcher.step, hphase] at hclient <;>
      cases hclient
    exact inv
  | watchOpened burst =>
    simp only [step] at h
    split_ifs at h with hburst
    obtain ⟨client, hclient, rfl⟩ := map_eq_some_iff.mp h
    cases hphase : s.client.phase <;> simp only [Watcher.step, hphase] at hclient <;>
      cases hclient
    exact ⟨inv.cached, fun _ _ => .inr (mem_burst hreg hburst)⟩
  | streamError =>
    obtain ⟨client, hclient, rfl⟩ := map_eq_some_iff.mp h
    cases hphase : s.client.phase <;> simp only [Watcher.step, closed, hphase] at hclient <;>
      cases hclient
    · exact ⟨inv.cached, fun _ h => by cases h⟩
    · exact ⟨inv.cached, fun _ h => by cases h⟩
  | streamEnded =>
    obtain ⟨client, hclient, rfl⟩ := map_eq_some_iff.mp h
    cases hphase : s.client.phase <;> simp only [Watcher.step, closed, hphase] at hclient <;>
      cases hclient
    · exact ⟨inv.mem_staging hphase hcov, fun _ h => by cases h⟩
    · exact ⟨inv.cached, fun _ h => by cases h⟩
  | settled =>
    obtain ⟨client, hclient, rfl⟩ := map_eq_some_iff.mp h
    cases hphase : s.client.phase <;> simp only [Watcher.step, hphase] at hclient <;>
      cases hclient
    exact ⟨inv.mem_staging hphase hcov, fun _ h => by cases h⟩
  | send =>
    obtain ⟨client, hclient, rfl⟩ := map_eq_some_iff.mp h
    cases hphase : s.client.phase with
    | announcing unsent =>
      cases unsent <;> simp only [Watcher.step, hphase] at hclient <;> cases hclient <;>
        exact ⟨inv.cached, fun _ h => by cases h⟩
    | _ =>
      simp only [Watcher.step, hphase] at hclient
      cases hclient

lemma client_of_step (h : step decode s event = some s') :
    s'.client = s.client ∨ ∃ input, s.client.step decode input = some s'.client := by
  have hclient : ∀ {s₁ : RegistryWatch β ρ} {input}, s₁.clientStep decode input = some s' →
      s₁.client = s.client → ∃ input, s.client.step decode input = some s'.client := by
    intro s₁ input hstep hsame
    obtain ⟨client, hclient, rfl⟩ := map_eq_some_iff.mp hstep
    exact ⟨input, hsame ▸ hclient⟩
  cases event with
  | put | delete | purge | expire =>
    cases h
    exact .inl rfl
  | watchFailed | settled | send | streamError | streamEnded => exact .inr (hclient h rfl)
  | watchOpened burst =>
    simp only [step] at h
    split_ifs at h
    exact .inr (hclient h rfl)
  | deliver =>
    obtain ⟨⟨e, s₁⟩, hnext, h⟩ := bind_eq_some_iff.mp h
    exact .inr (hclient h (next_cases hnext).1)

/-- Where a key comes into the cache no snapshot is being collected. -/
lemma discovered_of_entered (hbefore : key ∉ s.client.cache) (h : step decode s event = some s')
    (hafter : key ∈ s'.client.cache) : Discovered decode key s' := by
  have hchanged : s'.client.cache ≠ s.client.cache := fun heq => hbefore (heq ▸ hafter)
  refine ⟨hafter, fun staging hphase => ?_⟩
  rcases client_of_step h with hsame | ⟨input, hstep⟩
  · exact absurd (congrArg Watcher.cache hsame) hchanged
  · exact absurd hphase ((Watcher.cache_eq_or_not_snapshot hstep).resolve_left hchanged staging)

/-- **A registered service stays in discovery**: from when its key comes into the cache, as long as
it has a well-formed registration in the bucket, if no snapshot is cut short before its entry. -/
theorem stays_discovered {events : List (RegistryEvent β)} {event : RegistryEvent β}
    {s₀ s₁ s₂ : RegistryWatch β ρ} (hbefore : key ∉ s₀.client.cache)
    (hentered : step decode s₀ event = some s₁) (hafter : key ∈ s₁.client.cache)
    (hok : Guarded (step decode) (fun s e => Registered decode key s ∧ Covered key s e) s₁ events)
    (hrun : run (step decode) s₁ events = some s₂) : key ∈ s₂.client.cache := by
  have inv : Discovered decode key s₂ :=
    run_invariant (fun _ _ _ inv hok hstep => discovered_step inv hok.1 hok.2 hstep)
      (discovered_of_entered hbefore hentered hafter) hok hrun
  exact inv.cached

end RegistryWatch

/-- One service is registered, discovered by a first watch. -/
def Sample.discovering : List (RegistryEvent ℕ) :=
  [.put "svc.oms.1" 1, .watchOpened [⟨"svc.oms.1", .put, 1⟩], .deliver]

/-- The stream breaks, and the next watch is opened. -/
def Sample.reconnecting : List (RegistryEvent ℕ) :=
  [.send, .send, .streamError, .watchOpened [⟨"svc.oms.1", .put, 1⟩]]

open Sample

/-- The second watch delivers the entry before it pauses. -/
theorem stays_discovered_after_reconnect :
    ∃ s₀ ∈ run (step some) ({} : RegistryWatch ℕ ℕ) discovering,
      ∃ s₁ ∈ step some s₀ .settled,
        ∃ s₂ ∈ run (step some) s₁ (reconnecting ++ [.deliver, .settled]),
          "svc.oms.1" ∉ s₀.client.cache ∧ "svc.oms.1" ∈ s₂.client.cache := by
  obtain ⟨s₀, hs₀, s₁, hs₁, s₂, hs₂, hbefore, hafter, hok⟩ :
      ∃ s₀ ∈ run (step some) ({} : RegistryWatch ℕ ℕ) discovering,
        ∃ s₁ ∈ step some s₀ .settled,
          ∃ s₂ ∈ run (step some) s₁ (reconnecting ++ [.deliver, .settled]),
            "svc.oms.1" ∉ s₀.client.cache ∧ "svc.oms.1" ∈ s₁.client.cache ∧
              Guarded (step some)
                (fun s e => s.Registered some "svc.oms.1" ∧ s.Covered "svc.oms.1" e) s₁
                (reconnecting ++ [.deliver, .settled]) := by
    decide +kernel
  exact ⟨s₀, hs₀, s₁, hs₁, s₂, hs₂, hbefore, stays_discovered hbefore hs₁ hafter hok hs₂⟩

/-- The second watch pauses before it delivers anything: the service is gone from the cache, and was
in the bucket all the time. -/
theorem vanishes_on_pause :
    ∃ s₁ ∈ run (step some) ({} : RegistryWatch ℕ ℕ) (discovering ++ [.settled]),
      ∃ s₂ ∈ run (step some) s₁ (reconnecting ++ [.settled]),
        Guarded (step some) (fun s _ => s.Registered some "svc.oms.1") s₁
            (reconnecting ++ [.settled]) ∧
          s₂.Registered some "svc.oms.1" ∧ "svc.oms.1" ∈ s₁.client.cache ∧
          "svc.oms.1" ∉ s₂.client.cache := by
  decide +kernel

end Zkbot
