import Mathlib.Data.Fintype.Pi
import Zkbot.Infra.Heartbeat

/-!
# Instances that share a registry key

`service_registry.rs` and the shutdown of the service mains.  Any number of processes register
under one key: each writes it once, unconditionally, and then keeps it with its own heartbeat loop.
A process that shuts down deletes the key, unless it shuts down because it has been fenced.

* `Registry.step` — one call of one process, or a write to another key of the bucket.
* `Owned` — the invariant after a write: the writer has the revision of the key, and every other
  loop an older one.  `one_owner` is what follows for the rest of the run.
-/

namespace Zkbot

open List Option Slot

/-! ## Processes -/

/-- Where the main task of a process stands. -/
inductive MainTask where
  | serving
  /-- has decided to shut down and will deregister -/
  | draining
  /-- shuts down without deregistering, as it has been fenced -/
  | left
  /-- has deregistered and ended -/
  | deregistered
  deriving DecidableEq

/-- What the main does with the reason: deregister, unless it is fenced.  `none` is the server that
has ended by itself. -/
def afterShutdown (reason : Option ShutdownReason) : MainTask :=
  let fenced := match reason with
    | some r => r.isFenced
    | none => false
  if !fenced then .draining else .left

/-- A registered process. -/
structure Process where
  /-- the revision its registration got -/
  initialRevision : ℕ
  loop : Except HeartbeatTermination HeartbeatLoop
  main : MainTask := .serving

/-- The key, and the processes that have registered under it. -/
structure Registry (ι ν : Type) where
  slot : Slot ν
  process : ι → Option Process := fun _ => none

/-- What can happen. -/
inductive Call (ι : Type) where
  | put (i : ι)
  | heartbeat (i : ι) (a : Attempt)
  /-- `wait_shutdown` returns -/
  | shutdown (i : ι) (w : Wakeup)
  /-- the server of the process ends by itself -/
  | serverExit (i : ι)
  /-- `deregister`; the deletion may get lost -/
  | deregister (i : ι) (applied : Bool)
  | otherKey
  deriving DecidableEq

/-- Every update is answered, and nobody deletes the key. -/
def Call.Answered {ι : Type} : Call ι → Prop
  | .heartbeat _ a => a = .delivered
  | .deregister _ _ => False
  | _ => True

namespace Registry

variable {ι ν : Type} [DecidableEq ι] {value : ι → ν} {s s' : Registry ι ν} {i w : ι} {c : Call ι}
  {t : Registry ι ν} {calls : List (Call ι)} {r : HeartbeatTermination}

def setProcess (s : Registry ι ν) (i : ι) (p : Process) : Registry ι ν :=
  { s with process := Function.update s.process i (some p) }

@[simp] lemma setProcess_process (s : Registry ι ν) (i j : ι) (p : Process) :
    (s.setProcess i p).process j = if j = i then some p else s.process j :=
  Function.update_apply s.process i (some p) j

/-- One call of one process.  The processes' payloads are `value`. -/
def step (value : ι → ν) (s : Registry ι ν) : Call ι → Option (Registry ι ν)
  | .put i =>
    match s.process i with
    | some _ => none
    | none =>
      let slot := s.slot.put (value i)
      some ({ s with slot }.setProcess i
        { initialRevision := slot.revision, loop := .ok { revision := slot.revision } })
  | .heartbeat i a => do
      let p ← s.process i
      match p.main, p.loop with
      | .deregistered, _ => none
      | _, .error _ => none
      | _, .ok loop =>
        let (slot, result) := updateFn s.slot (value i) loop.revision a
        some ({ s with slot }.setProcess i { p with loop := loop.onResult result })
  | .shutdown i w => do
      let p ← s.process i
      let reason ← waitShutdown (channel p.loop) w
      if p.main = .serving then
        some (s.setProcess i { p with main := afterShutdown (some reason) })
      else none
  | .serverExit i => do
      let p ← s.process i
      if p.main = .serving then some (s.setProcess i { p with main := afterShutdown none })
      else none
  | .deregister i applied => do
      let p ← s.process i
      if p.main = .draining then
        let slot := if applied then s.slot.delete else s.slot
        some ({ s with slot }.setProcess i { p with main := .deregistered })
      else none
  | .otherKey => some { s with slot := s.slot.skip }

/-! ## What a call does -/

lemma step_put (h : s.step value (.put i) = some s') :
    s.process i = none ∧
      s' = { s with slot := s.slot.put (value i) }.setProcess i
        { initialRevision := s.slot.lastSeq + 1
          loop := .ok { revision := s.slot.lastSeq + 1 } } := by
  simp only [step] at h
  split at h
  · cases h
  · cases h
    exact ⟨‹_›, rfl⟩

lemma step_heartbeat {a : Attempt} (h : s.step value (.heartbeat i a) = some s') :
    ∃ p loop, s.process i = some p ∧ p.loop = .ok loop ∧
      s' = { s with slot := (updateFn s.slot (value i) loop.revision a).1 }.setProcess i
        { p with loop := loop.onResult (updateFn s.slot (value i) loop.revision a).2 } := by
  simp only [step, bind_eq_some] at h
  obtain ⟨p, hp, h⟩ := h
  split at h
  · cases h
  · cases h
  · cases h
    exact ⟨p, _, hp, ‹_›, rfl⟩

lemma step_shutdown {w : Wakeup} (h : s.step value (.shutdown i w) = some s') :
    ∃ p reason, s.process i = some p ∧ p.main = .serving ∧
      waitShutdown (channel p.loop) w = some reason ∧
      s' = s.setProcess i { p with main := afterShutdown (some reason) } := by
  simp only [step, bind_eq_some] at h
  obtain ⟨p, hp, reason, hreason, h⟩ := h
  split at h
  · cases h
    exact ⟨p, reason, hp, ‹_›, hreason, rfl⟩
  · cases h

lemma step_serverExit (h : s.step value (.serverExit i) = some s') :
    ∃ p, s.process i = some p ∧ p.main = .serving ∧
      s' = s.setProcess i { p with main := .draining } := by
  simp only [step, bind_eq_some] at h
  obtain ⟨p, hp, h⟩ := h
  split at h
  · cases h
    exact ⟨p, hp, ‹_›, rfl⟩
  · cases h

lemma step_deregister {applied : Bool} (h : s.step value (.deregister i applied) = some s') :
    ∃ p, s.process i = some p ∧ p.main = .draining ∧
      s' = { s with slot := if applied then s.slot.delete else s.slot }.setProcess i
        { p with main := .deregistered } := by
  simp only [step, bind_eq_some] at h
  obtain ⟨p, hp, h⟩ := h
  split at h
  · cases h
    exact ⟨p, hp, ‹_›, rfl⟩
  · cases h

def runningLoop (s : Registry ι ν) (i : ι) : Option HeartbeatLoop :=
  (s.process i).bind fun p => p.loop.toOption

lemma runningLoop_setProcess (s : Registry ι ν) (i j : ι) (p : Process) :
    (s.setProcess i p).runningLoop j = if j = i then p.loop.toOption else s.runningLoop j := by
  simp only [runningLoop, setProcess_process]
  split <;> rfl

lemma runningLoop_setMain {p : Process} (hp : s.process i = some p) (m : MainTask) (j : ι) :
    (s.setProcess i { p with main := m }).runningLoop j = s.runningLoop j := by
  rw [runningLoop_setProcess]
  split
  case isTrue h => rw [h, runningLoop, hp, bind_some]
  case isFalse => rfl

/-! ## One owner -/

/-- No loop has a revision the store has not given out. -/
def Numbered (s : Registry ι ν) : Prop :=
  ∀ i loop, s.runningLoop i = some loop → loop.revision ≤ s.slot.lastSeq

lemma updateFn_numbered (slot : Slot ν) (v : ν) (last : ℕ) (a : Attempt) :
    slot.lastSeq ≤ (updateFn slot v last a).1.lastSeq ∧
      ∀ n, (updateFn slot v last a).2 = .ok n → n ≤ (updateFn slot v last a).1.lastSeq := by
  by_cases h : last = slot.revision
  · subst h
    cases a <;> simp [updateFn, update_revision]
  · cases a <;> simp [updateFn, update_eq_none h]

/-- A loop learns its revision from the answer, or keeps the one it has. -/
lemma onResult_revision {loop loop' : HeartbeatLoop} {result : Except HeartbeatError ℕ}
    (h : (loop.onResult result).toOption = some loop') :
    loop'.revision = loop.revision ∨ result = .ok loop'.revision := by
  rcases result with (_ | _) | newRev
  · cases h
  · simp only [HeartbeatLoop.onResult] at h
    split at h <;> cases h
    exact .inl rfl
  · cases h
    exact .inr rfl

lemma numbered_step (inv : Numbered s) (h : s.step value c = some s') : Numbered s' := by
  have hcongr : ∀ {t : Registry ι ν}, s.slot.lastSeq ≤ t.slot.lastSeq →
      (∀ j, t.runningLoop j = s.runningLoop j) → Numbered t := by
    intro t hslot hloop i loop hi
    exact (inv i loop (hloop i ▸ hi)).trans hslot
  cases c with
  | put w =>
    obtain ⟨-, rfl⟩ := step_put h
    intro i loop hi
    rw [runningLoop_setProcess] at hi
    split at hi
    · cases hi
      exact le_rfl
    · exact (inv i loop hi).trans (Nat.le_succ _)
  | heartbeat w a =>
    obtain ⟨p, loop, hp, hloop, rfl⟩ := step_heartbeat h
    obtain ⟨hseq, hnew⟩ := updateFn_numbered s.slot (value w) loop.revision a
    intro i loop' hi
    rw [runningLoop_setProcess] at hi
    split at hi
    · rcases onResult_revision hi with hold | hok
      · rw [hold]
        exact (inv w loop (by rw [runningLoop, hp, bind_some, hloop]; rfl)).trans hseq
      · exact hnew _ hok
    · exact (inv i loop' hi).trans hseq
  | shutdown i w =>
    obtain ⟨p, reason, hp, -, -, rfl⟩ := step_shutdown h
    exact hcongr le_rfl (runningLoop_setMain hp _)
  | serverExit i =>
    obtain ⟨p, hp, -, rfl⟩ := step_serverExit h
    exact hcongr le_rfl (runningLoop_setMain hp _)
  | deregister i applied =>
    obtain ⟨p, hp, -, rfl⟩ := step_deregister h
    refine hcongr ?_ (runningLoop_setMain (s := { s with slot := _ }) hp _)
    cases applied
    · exact le_rfl
    · exact Nat.le_succ _
  | otherKey =>
    cases h
    exact hcongr (Nat.le_succ _) fun _ => rfl

/-- `w` has the revision of the key, every other loop an older one. -/
structure Owned (w : ι) (s : Registry ι ν) : Prop where
  owner : ∃ loop, s.runningLoop w = some loop ∧ loop.revision = s.slot.revision
  others : ∀ i ≠ w, ∀ loop, s.runningLoop i = some loop → loop.revision < s.slot.revision

lemma Owned.numbered (h : Owned w s) : Numbered s := by
  intro i loop hi
  have hle := s.slot.revision_le
  by_cases hw : i = w
  · subst hw
    obtain ⟨loop', hi', hrev⟩ := h.owner
    cases hi.symm.trans hi'
    omega
  · have := h.others i hw loop hi
    omega

lemma owned_put (hs : Numbered s) (h : s.step value (.put w) = some s') : Owned w s' := by
  obtain ⟨-, rfl⟩ := step_put h
  constructor
  case owner => exact ⟨_, by rw [runningLoop_setProcess, if_pos rfl]; rfl, rfl⟩
  case others =>
    intro i hi loop hloop
    rw [runningLoop_setProcess, if_neg hi] at hloop
    exact Nat.lt_succ_of_le (hs i loop hloop)

lemma Owned.heartbeat_self (inv : Owned w s)
    (h : s.step value (.heartbeat w .delivered) = some s') : Owned w s' := by
  obtain ⟨p, loop, hp, hloop, rfl⟩ := step_heartbeat h
  have hw : s.runningLoop w = some loop := by rw [runningLoop, hp, bind_some, hloop]; rfl
  obtain ⟨loop', hw', hrev⟩ := inv.owner
  cases hw.symm.trans hw'
  simp only [updateFn, hrev, update_revision]
  constructor
  case owner => exact ⟨_, by rw [runningLoop_setProcess, if_pos rfl]; rfl, rfl⟩
  case others =>
    intro i hi l hl
    rw [runningLoop_setProcess, if_neg hi] at hl
    exact Nat.lt_succ_of_le (inv.numbered i l hl)

lemma Owned.heartbeat_other (inv : Owned w s) (hi : i ≠ w)
    (h : s.step value (.heartbeat i .delivered) = some s') :
    s'.slot = s.slot ∧ (∃ p, s'.process i = some p ∧ p.loop = .error .fenced) ∧
      ∀ j ≠ i, s'.process j = s.process j := by
  obtain ⟨p, loop, hp, hloop, rfl⟩ := step_heartbeat h
  have hlt := inv.others i hi loop (by rw [runningLoop, hp, bind_some, hloop]; rfl)
  have hnone : s.slot.update (value i) loop.revision = none := update_eq_none hlt.ne
  simp only [updateFn, hnone]
  refine ⟨rfl, ⟨_, by rw [setProcess_process, if_pos rfl], rfl⟩, ?_⟩
  intro j hj
  rw [setProcess_process, if_neg hj]

lemma owned_step (inv : Owned w s) (hc : c.Answered ∧ ∀ i, c ≠ .put i)
    (h : s.step value c = some s') : Owned w s' := by
  have hcongr : ∀ {t : Registry ι ν}, t.slot.revision = s.slot.revision →
      (∀ j, t.runningLoop j = s.runningLoop j) → Owned w t := by
    intro t hslot hloop
    constructor
    · rw [hloop, hslot]
      exact inv.owner
    · intro i hi loop
      rw [hloop, hslot]
      exact inv.others i hi loop
  cases c with
  | put i => exact absurd rfl (hc.2 i)
  | heartbeat i a =>
    obtain rfl : a = .delivered := hc.1
    by_cases hi : i = w
    · subst hi
      exact inv.heartbeat_self h
    · obtain ⟨hslot, ⟨p, hp, hend⟩, hother⟩ := inv.heartbeat_other hi h
      constructor
      · rw [runningLoop, hother w (Ne.symm hi), hslot]
        exact inv.owner
      · intro j hj loop hloop
        rw [hslot]
        by_cases hji : j = i
        · subst hji
          rw [runningLoop, hp, bind_some, hend] at hloop
          cases hloop
        · rw [runningLoop, hother j hji] at hloop
          exact inv.others j hj loop hloop
  | shutdown i w' =>
    obtain ⟨p, reason, hp, -, -, rfl⟩ := step_shutdown h
    exact hcongr rfl (runningLoop_setMain hp _)
  | serverExit i =>
    obtain ⟨p, hp, -, rfl⟩ := step_serverExit h
    exact hcongr rfl (runningLoop_setMain hp _)
  | deregister i applied => exact hc.1.elim
  | otherKey =>
    cases h
    exact hcongr rfl fun _ => rfl

lemma owned_run (inv : Owned w s) (hcalls : ∀ c ∈ calls, c.Answered ∧ ∀ i, c ≠ .put i)
    (hrun : run (step value) s calls = some t) : Owned w t := by
  have hguard : Guarded (step value) (fun _ c => c.Answered ∧ ∀ i, c ≠ .put i) s calls :=
    guarded_of_mem hcalls
  exact run_invariant (fun _ _ _ inv hc h => owned_step inv hc h) inv hguard hrun

/-- What the loop of a process has sent through its watch channel. -/
def sent (s : Registry ι ν) (i : ι) : Option HeartbeatTermination :=
  (s.process i).bind fun p => channel p.loop

lemma sent_setProcess (s : Registry ι ν) (i j : ι) (p : Process) :
    (s.setProcess i p).sent j = if j = i then channel p.loop else s.sent j := by
  simp only [sent, setProcess_process]
  split <;> rfl

lemma sent_setMain {p : Process} (hp : s.process i = some p) (m : MainTask) (j : ι) :
    (s.setProcess i { p with main := m }).sent j = s.sent j := by
  rw [sent_setProcess]
  split
  case isTrue h => rw [h, sent, hp, bind_some]
  case isFalse => rfl

/-- A loop that has ended makes no more updates, and its process does not register again. -/
lemma ended_step (hs : s.sent i = some r) (h : s.step value c = some s') :
    s'.sent i = some r ∧ ∀ a, c ≠ .heartbeat i a := by
  cases c with
  | put w =>
    obtain ⟨hnone, rfl⟩ := step_put h
    rw [sent_setProcess]
    split
    case isTrue hi =>
      rw [hi, sent, hnone] at hs
      cases hs
    case isFalse => exact ⟨hs, nofun⟩
  | heartbeat w a =>
    obtain ⟨p, loop, hp, hloop, rfl⟩ := step_heartbeat h
    have hi : i ≠ w := by
      rintro rfl
      rw [sent, hp, bind_some, hloop] at hs
      cases hs
    rw [sent_setProcess, if_neg hi]
    refine ⟨hs, ?_⟩
    rintro a' ⟨⟩
    exact hi rfl
  | shutdown w wakeup =>
    obtain ⟨p, reason, hp, -, -, rfl⟩ := step_shutdown h
    exact ⟨sent_setMain hp _ i ▸ hs, nofun⟩
  | serverExit w =>
    obtain ⟨p, hp, -, rfl⟩ := step_serverExit h
    exact ⟨sent_setMain hp _ i ▸ hs, nofun⟩
  | deregister w applied =>
    obtain ⟨p, hp, -, rfl⟩ := step_deregister h
    exact ⟨(sent_setMain (s := { s with slot := _ }) hp _ i).trans hs, nofun⟩
  | otherKey =>
    cases h
    exact ⟨hs, nofun⟩

lemma ended_run (hs : s.sent i = some r) (hrun : run (step value) s calls = some t) :
    t.sent i = some r ∧ ∀ a, .heartbeat i a ∉ calls := by
  induction calls generalizing s with
  | nil =>
    cases hrun
    exact ⟨hs, fun _ => not_mem_nil⟩
  | cons c calls ih =>
    obtain ⟨s', hs', htail⟩ := run_cons_eq_some.mp hrun
    obtain ⟨hsent, hne⟩ := ended_step hs hs'
    obtain ⟨ht, hnot⟩ := ih hsent htail
    refine ⟨ht, fun a ha => ?_⟩
    rcases mem_cons.mp ha with rfl | ha
    · exact hne a rfl
    · exact hnot a ha

/-- Who writes the key: the process after whose call it has another revision. -/
def writer (value : ι → ν) (s : Registry ι ν) (c : Call ι) : List ι :=
  match s.step value c, c with
  | some s', .put i | some s', .heartbeat i _ | some s', .deregister i _ =>
    if s'.slot.revision = s.slot.revision then [] else [i]
  | _, _ => []

/-- Nobody but the owner writes the key. -/
lemma writer_of_owned (inv : Owned w s) (hc : c.Answered ∧ ∀ j, c ≠ .put j)
    (h : s.step value c = some s') (hi : i ∈ writer value s c) : i = w := by
  cases c with
  | put j => exact absurd rfl (hc.2 j)
  | deregister j applied => exact hc.1.elim
  | heartbeat j a =>
    obtain rfl : a = .delivered := hc.1
    simp only [writer, h] at hi
    by_contra hne
    split at hi
    · cases hi
    · cases mem_singleton.mp hi
      obtain ⟨hslot, -⟩ := inv.heartbeat_other hne h
      exact absurd (congrArg revision hslot) ‹_›
  | shutdown j wakeup | serverExit j | otherKey =>
    simp only [writer, h] at hi
    cases hi

omit [DecidableEq ι] in
lemma Owned.sent_eq_none (inv : Owned w s) : s.sent w = none := by
  obtain ⟨loop, hloop, -⟩ := inv.owner
  obtain ⟨p, hp, hrun⟩ := bind_eq_some_iff.mp hloop
  rw [sent, hp, bind_some]
  cases hl : p.loop with
  | ok => rfl
  | error r =>
    rw [hl] at hrun
    cases hrun

/-- **The last to register owns the key.**  As long as all updates are answered and nobody deletes
the key, nobody else writes it afterwards, everybody else is fenced by the next heartbeat and makes
no further one, and the owner is not fenced. -/
theorem one_owner {value : ι → ν} {slot : Slot ν} {before after : List (Call ι)} {w : ι}
    {s t : Registry ι ν}
    (hbefore : run (step value) { slot } (before ++ [.put w]) = some s)
    (hafter : run (step value) s after = some t)
    (hanswered : ∀ c ∈ before ++ after, c.Answered) (hlast : ∀ i, .put i ∉ after) :
    (∀ i ∈ trace (step value) (writer value) s after, i = w) ∧
      (∀ i ≠ w, .heartbeat i .delivered ∈ after →
        t.sent i = some .fenced ∧ after.count (.heartbeat i .delivered) = 1) ∧
      t.sent w = none := by
  obtain ⟨s₀, hs₀, hput⟩ := run_append_eq_some.mp hbefore
  obtain ⟨s₁, hput, hs₁⟩ := run_cons_eq_some.mp hput
  cases hs₁
  have hnumbered : Numbered s₀ :=
    run_invariant (fun _ _ _ inv _ h => numbered_step inv h) (fun _ _ h => by cases h)
      (guarded_of_forall (fun _ _ => trivial) _ _) hs₀
  have howned : Owned w s := owned_put hnumbered hput
  have hguard : ∀ c ∈ after, c.Answered ∧ ∀ i, c ≠ .put i := by
    intro c hc
    refine ⟨hanswered c (mem_append_right _ hc), ?_⟩
    rintro i rfl
    exact hlast i hc
  refine ⟨?_, ?_, ?_⟩
  · refine (run_trace_invariant (I := fun s h => Owned w s ∧ ∀ i ∈ h, i = w) (h := []) ?_
      ⟨howned, nofun⟩ (guarded_of_mem hguard) hafter).2
    rintro s h c s' ⟨inv, hold⟩ hc hs'
    refine ⟨owned_step inv hc hs', fun i hi => ?_⟩
    rcases mem_append.mp hi with hi | hi
    · exact hold i hi
    · exact writer_of_owned inv hc hs' hi
  · intro i hi hbeat
    -- the first heartbeat of `i` finds `w` the owner, and there is none after it
    obtain ⟨pre, post, rfl, hpre⟩ := eq_append_cons_of_mem hbeat
    obtain ⟨s₁, hs₁, hrest⟩ := run_append_eq_some.mp hafter
    obtain ⟨s₂, hs₂, hpost⟩ := run_cons_eq_some.mp hrest
    have howned₁ : Owned w s₁ :=
      owned_run howned (forall_mem_append.mp hguard).1 hs₁
    obtain ⟨-, ⟨p, hp, hend⟩, -⟩ := howned₁.heartbeat_other hi hs₂
    have hsent : s₂.sent i = some .fenced := by
      rw [sent, hp, bind_some, hend]
      rfl
    obtain ⟨hsent, hnot⟩ := ended_run hsent hpost
    refine ⟨hsent, ?_⟩
    rw [count_append, count_cons_self, count_eq_zero_of_not_mem hpre,
      count_eq_zero_of_not_mem (hnot _)]
  · exact (owned_run howned hguard hafter).sent_eq_none

/-- Three processes: the first two are fenced at their next heartbeat, the third goes on. -/
theorem one_owner_of_three :
    let before : List (Call (Fin 3)) := [.put 0, .heartbeat 0 .delivered, .put 1]
    let after : List (Call (Fin 3)) := [.heartbeat 2 .delivered, .heartbeat 0 .delivered,
      .otherKey, .heartbeat 2 .delivered, .heartbeat 1 .delivered]
    ∃ s ∈ run (step id) { slot := empty } (before ++ [.put 2]),
      ∃ t ∈ run (step id) s after,
        t.sent 0 = some .fenced ∧ t.sent 1 = some .fenced ∧ t.sent 2 = none := by
  intro before after
  obtain ⟨s, hs⟩ : ∃ s, run (step id) { slot := empty } (before ++ [.put 2]) = some s :=
    ⟨_, rfl⟩
  obtain ⟨t, ht⟩ : ∃ t, run (step id) s after = some t := by
    cases hs
    exact ⟨_, rfl⟩
  obtain ⟨-, hfenced, howner⟩ := one_owner hs ht
    (by simp [before, after, Call.Answered]) (by simp [after])
  exact ⟨s, hs, t, ht, (hfenced 0 (by decide) (by decide)).1, (hfenced 1 (by decide) (by decide)).1,
    howner⟩

end Registry

end Zkbot
