import Mathlib.Data.List.Basic
import Zkbot.Core.Revision
import Zkbot.Core.Run

/-!
# The heartbeat of a registered instance

`nats_kv.rs`: a registered instance rewrites its registry entry at every tick, with a
compare-and-set on the revision of its own last write.  A conflict means that somebody else has
written the entry (`Fenced`); any other error is retried at the next tick, with the same revision.

* `HeartbeatLoop.onResult` — the body of `heartbeat_loop_inner`, once the update has been answered.
* `Attempt` — what the network does to an update; `updateFn` is what the store and the client see.
* `unrivalled_not_fenced_iff` — against a store that nobody else writes to, the loop is
  fenced exactly when an update is answered after one that was applied while its answer was lost.
-/

namespace Zkbot

/-! ## The loop -/

/-- How an update can fail.  The texts of the errors go to the log. -/
inductive HeartbeatError where
  | fenced
  | retryable
  deriving DecidableEq

/-- Why the loop ended. -/
inductive HeartbeatTermination where
  | fenced
  | registryUnavailable
  deriving DecidableEq

def maxHeartbeatRetries : ℕ := 5

/-- The variables of the loop. -/
structure HeartbeatLoop where
  revision : ℕ
  consecutiveFailures : ℕ := 0
  deriving DecidableEq

/-- The body of the loop after the update; an error goes through the watch channel, and ends it. -/
def HeartbeatLoop.onResult (loop : HeartbeatLoop) :
    Except HeartbeatError ℕ → Except HeartbeatTermination HeartbeatLoop
  | .ok newRev => .ok { revision := newRev, consecutiveFailures := 0 }
  | .error .fenced => .error .fenced
  | .error .retryable =>
    if loop.consecutiveFailures + 1 ≥ maxHeartbeatRetries then .error .registryUnavailable
    else .ok { loop with consecutiveFailures := loop.consecutiveFailures + 1 }

def channel : Except HeartbeatTermination HeartbeatLoop → Option HeartbeatTermination
  | .ok _ => none
  | .error r => some r

/-! ## What the process makes of it -/

inductive ShutdownSignal where
  | sigInt
  | sigTerm
  | sigHup
  deriving DecidableEq

inductive ShutdownReason where
  | signal (s : ShutdownSignal)
  | fenced
  | heartbeatLost
  deriving DecidableEq

def ShutdownReason.isFenced : ShutdownReason → Bool
  | .fenced => true
  | _ => false

/-- `heartbeat_termination_reason`, from the value in the watch channel. -/
def heartbeatTerminationReason : Option HeartbeatTermination → ShutdownReason
  | some .fenced => .fenced
  | some .registryUnavailable => .heartbeatLost
  | none => .heartbeatLost

/-- The branch of the `select!` that `wait_shutdown` returns from. -/
inductive Wakeup where
  | signal (s : ShutdownSignal)
  | heartbeat
  deriving DecidableEq

/-- `wait_shutdown`; `none` while the branch is not ready.  The loop does not end without a value in
the channel. -/
def waitShutdown (channel : Option HeartbeatTermination) : Wakeup → Option ShutdownReason
  | .signal s => some (.signal s)
  | .heartbeat => if channel.isSome then some (heartbeatTerminationReason channel) else none

/-- `wait_shutdown` can return `Fenced` only when the loop has sent it. -/
lemma exists_waitShutdown_fenced {channel : Option HeartbeatTermination} :
    (∃ w, waitShutdown channel w = some .fenced) ↔ channel = some .fenced := by
  constructor
  · rintro ⟨w, hw⟩
    cases w with
    | signal s => cases hw
    | heartbeat =>
      rcases channel with _ | _ | _
      · cases hw
      · rfl
      · cases hw
  · rintro rfl
    exact ⟨.heartbeat, rfl⟩

/-! ## The network -/

/-- What becomes of an update. -/
inductive Attempt where
  /-- it reaches the store, and the answer reaches the client -/
  | delivered
  /-- the store never sees it -/
  | requestLost
  /-- the store handles it, and the client times out -/
  | replyLost
  deriving DecidableEq

variable {ν : Type}

/-- The update of `heartbeat_loop`: what it does to the key, and what the loop is told.  A wrong
last revision is `Fenced`, every other error `Retryable`. -/
def updateFn (slot : Slot ν) (value : ν) (revision : ℕ) :
    Attempt → Slot ν × Except HeartbeatError ℕ
  | .delivered =>
    match slot.update value revision with
    | some slot' => (slot', .ok slot'.revision)
    | none => (slot, .error .fenced)
  | .requestLost => (slot, .error .retryable)
  | .replyLost => ((slot.update value revision).getD slot, .error .retryable)

/-- The loop and its key: `loop` is an error once the loop has ended. -/
structure Heartbeat (ν : Type) where
  slot : Slot ν
  loop : Except HeartbeatTermination HeartbeatLoop

open Heartbeat

/-- What happens to them: a tick, or a write to another key of the bucket. -/
inductive Tick where
  | attempt (a : Attempt)
  | otherKey
  deriving DecidableEq

/-- One tick of a loop whose key nobody else writes to. -/
def Heartbeat.step (value : ν) (s : Heartbeat ν) : Tick → Option (Heartbeat ν)
  | .attempt a =>
    match s.loop with
    | .error _ => none
    | .ok loop =>
      let (slot, result) := updateFn s.slot value loop.revision a
      some { slot, loop := loop.onResult result }
  | .otherKey => some { s with slot := s.slot.skip }

/-- An instance that has just registered: `register_direct`, `register_kv_with_grant`. -/
def Heartbeat.registered (slot : Slot ν) (value : ν) : Heartbeat ν :=
  { slot := slot.put value, loop := .ok { revision := (slot.put value).revision } }

def attempts (ticks : List Tick) : List Attempt :=
  ticks.filterMap fun
    | .attempt a => some a
    | .otherKey => none

@[simp] lemma attempts_cons_attempt (a : Attempt) (ticks : List Tick) :
    attempts (.attempt a :: ticks) = a :: attempts ticks := rfl

/-! ## When the loop is fenced -/

/-- A loop that has ended stays ended, and attempts nothing. -/
lemma run_ended {value : ν} {s t : Heartbeat ν} {ticks : List Tick} {r : HeartbeatTermination}
    (hs : s.loop = .error r) (hrun : run (step value) s ticks = some t) :
    t.loop = .error r ∧ attempts ticks = [] := by
  induction ticks generalizing s with
  | nil =>
    cases hrun
    exact ⟨hs, rfl⟩
  | cons tick ticks ih =>
    obtain ⟨s', hs', htail⟩ := run_cons_eq_some.mp hrun
    cases tick with
    | attempt a =>
      simp only [step, hs] at hs'
      cases hs'
    | otherKey =>
      cases hs'
      exact ih (s := ⟨s.slot.skip, s.loop⟩) hs htail

/-- A failed attempt ends the loop without fencing it, or leaves its revision as it is. -/
lemma onResult_retryable (loop : HeartbeatLoop) :
    loop.onResult (.error .retryable) = .error .registryUnavailable ∨
      ∃ loop', loop.onResult (.error .retryable) = .ok loop' ∧ loop'.revision = loop.revision := by
  simp only [HeartbeatLoop.onResult]
  split
  · exact .inl rfl
  · exact .inr ⟨_, rfl, rfl⟩

/-- A loop whose revision is not the revision of the key any more: the next answer fences it. -/
lemma run_behind {value : ν} {s t : Heartbeat ν} {ticks : List Tick} {loop : HeartbeatLoop}
    (hs : s.loop = .ok loop) (hrev : loop.revision ≠ s.slot.revision)
    (hrun : run (step value) s ticks = some t) :
    t.loop = .error .fenced ↔ .delivered ∈ attempts ticks := by
  induction ticks generalizing s loop with
  | nil =>
    cases hrun
    simp [hs, attempts]
  | cons tick ticks ih =>
    obtain ⟨s', hs', htail⟩ := run_cons_eq_some.mp hrun
    cases tick with
    | otherKey =>
      cases hs'
      exact ih (s := ⟨s.slot.skip, s.loop⟩) hs hrev htail
    | attempt a =>
      have hnone := Slot.update_eq_none (v := value) hrev
      have hfail : s' = ⟨s.slot, loop.onResult (.error .retryable)⟩ →
          (t.loop = .error .fenced ↔ .delivered ∈ attempts ticks) := by
        rintro rfl
        rcases onResult_retryable loop with hend | ⟨loop', hgo, hrev'⟩
        · obtain ⟨hend', hnil⟩ := run_ended hend htail
          simp [hend', hnil]
        · exact ih hgo (hrev' ▸ hrev) htail
      cases a with
      | delivered =>
        have hfenced : s'.loop = .error .fenced := by
          simp only [step, hs, updateFn, hnone] at hs'
          cases hs'
          rfl
        simp [(run_ended hfenced htail).1]
      | requestLost =>
        simp only [step, hs, updateFn] at hs'
        simpa using hfail (Option.some.inj hs').symm
      | replyLost =>
        simp only [step, hs, updateFn, hnone] at hs'
        simpa using hfail (Option.some.inj hs').symm

/-- A loop that has the revision of the key keeps it with every attempt that is answered, and loses
it with the first one that is applied without an answer. -/
lemma run_level {value : ν} {s t : Heartbeat ν} {ticks : List Tick} {loop : HeartbeatLoop}
    (hs : s.loop = .ok loop) (hrev : loop.revision = s.slot.revision)
    (hrun : run (step value) s ticks = some t) :
    t.loop = .error .fenced ↔ List.Sublist [.replyLost, .delivered] (attempts ticks) := by
  induction ticks generalizing s loop with
  | nil =>
    cases hrun
    simp [hs, attempts]
  | cons tick ticks ih =>
    obtain ⟨s', hs', htail⟩ := run_cons_eq_some.mp hrun
    cases tick with
    | otherKey =>
      cases hs'
      exact ih (s := ⟨s.slot.skip, s.loop⟩) hs hrev htail
    | attempt a =>
      have hput : s.slot.update value loop.revision = some (s.slot.put value) :=
        hrev ▸ Slot.update_revision s.slot value
      rw [attempts_cons_attempt, List.sublist_cons_iff]
      cases a with
      | delivered =>
        simp only [step, hs, updateFn, hput, HeartbeatLoop.onResult] at hs'
        cases hs'
        rw [ih rfl rfl htail]
        simp
      | requestLost =>
        simp only [step, hs, updateFn] at hs'
        cases hs'
        rcases onResult_retryable loop with hend | ⟨loop', hgo, hrev'⟩
        · obtain ⟨hend', hnil⟩ := run_ended hend htail
          simp [hend', hnil]
        · rw [ih (s := ⟨s.slot, _⟩) hgo (hrev'.trans hrev) htail]
          simp
      | replyLost =>
        simp only [step, hs, updateFn, hput] at hs'
        cases hs'
        rcases onResult_retryable loop with hend | ⟨loop', hgo, hrev'⟩
        · obtain ⟨hend', hnil⟩ := run_ended hend htail
          simp [hend', hnil]
        · -- the key has moved on, so every further answer is a conflict
          have hbehind : loop'.revision ≠ (s.slot.put value).revision := by
            have := s.slot.revision_le
            rw [Slot.put_revision]
            omega
          rw [run_behind hgo hbehind htail]
          constructor
          · exact fun h => .inr ⟨_, rfl, List.singleton_sublist.mpr h⟩
          · rintro (h | ⟨_, h, hsub⟩)
            · exact h.mem (by simp)
            · cases h
              exact List.singleton_sublist.mp hsub

lemma channel_eq_some {loop : Except HeartbeatTermination HeartbeatLoop}
    {r : HeartbeatTermination} : channel loop = some r ↔ loop = .error r := by
  cases loop <;> simp [channel]

/-- **An instance that nobody competes with is not fenced**, neither by its loop nor by
`wait_shutdown`, exactly as long as no update is answered after one whose answer was lost. -/
theorem unrivalled_not_fenced_iff {value : ν} {slot : Slot ν} {ticks : List Tick}
    {t : Heartbeat ν}
    (hrun : run (step value) (registered slot value) ticks = some t) :
    (channel t.loop ≠ some .fenced ∧ ∀ w, waitShutdown (channel t.loop) w ≠ some .fenced) ↔
      ¬ List.Sublist [.replyLost, .delivered] (attempts ticks) := by
  rw [← run_level rfl rfl hrun, ← channel_eq_some]
  constructor
  · exact fun h => h.1
  · intro h
    exact ⟨h, fun w hw => h (exists_waitShutdown_fenced.mp ⟨w, hw⟩)⟩

/-- Lost requests do no harm, nor does an answer that is lost at the very end. -/
theorem lost_requests_not_fenced :
    let ticks : List Tick := [.attempt .delivered, .attempt .requestLost, .otherKey,
      .attempt .requestLost, .attempt .delivered, .attempt .replyLost, .attempt .requestLost]
    ∃ t ∈ run (step ()) (registered Slot.empty ()) ticks, channel t.loop ≠ some .fenced := by
  intro ticks
  obtain ⟨t, ht⟩ : ∃ t, run (step ()) (.registered Slot.empty ()) ticks = some t :=
    ⟨_, rfl⟩
  exact ⟨t, ht, ((unrivalled_not_fenced_iff ht).mpr (by decide)).1⟩

/-- The first update is applied and its answer lost; the retry names the old revision. -/
theorem retry_after_lost_reply_fenced :
    ∃ t ∈ run (step ()) (registered Slot.empty ()) [.attempt .replyLost, .attempt .delivered],
      channel t.loop = some .fenced ∧ waitShutdown (channel t.loop) .heartbeat = some .fenced :=
  ⟨_, rfl, by decide⟩

end Zkbot
