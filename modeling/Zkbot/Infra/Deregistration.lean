import Zkbot.Infra.Registry

/-!
# Deregistering and successors

A process that shuts down decides once whether it will delete the key: unless its reason is
`Fenced`.  The deletion comes later, and is unconditional.  In between, and before the heartbeat
notices, another process can register under the same key.

* `RegisteredAfter s o n` — `n` has written the key after `o` did.
* `HandsOver` — a process that decides to deregister has no successor that is still there, and
  nobody registers between a decision and the deletion.
* `successor_kept` — in runs that keep to it, no process deletes the entry of a successor.
-/

namespace Zkbot

open Option

namespace Registry

variable {ι ν : Type} [DecidableEq ι] {s s' : Registry ι ν}

/-! ## Who registered when -/

section

variable (s : Registry ι ν)

def initialRevision (i : ι) : Option ℕ :=
  (s.process i).map Process.initialRevision

def main (i : ι) : Option MainTask :=
  (s.process i).map Process.main

/-- `n` has registered after `o`. -/
def RegisteredAfter (o n : ι) : Prop :=
  ∃ p ∈ s.initialRevision o, ∃ q ∈ s.initialRevision n, p < q

/-- Everybody who registered after `o` has deregistered. -/
def NoSuccessor (o : ι) : Prop :=
  ∀ n, s.RegisteredAfter o n → s.main n = some .deregistered

/-- The condition under which a call is made: who decides to deregister has no successor, and nobody
registers while somebody is about to deregister. -/
def HandsOver : Call ι → Prop
  | .put _ => ∀ i, s.main i ≠ some .draining
  | .shutdown i w =>
    waitShutdown (s.sent i) w = some .fenced ∨ s.NoSuccessor i
  | .serverExit i => s.NoSuccessor i
  | .heartbeat _ _ | .deregister _ _ | .otherKey => True

end

instance [Fintype ι] (s : Registry ι ν) (o : ι) : Decidable (s.NoSuccessor o) :=
  inferInstanceAs (Decidable (∀ n, (∃ p ∈ s.initialRevision o, ∃ q ∈ s.initialRevision n, p < q) →
    s.main n = some .deregistered))

instance [Fintype ι] (s : Registry ι ν) (c : Call ι) : Decidable (s.HandsOver c) := by
  cases c <;> dsimp only [HandsOver] <;> infer_instance

/-! ## What a call does to the main tasks -/

lemma initialRevision_setProcess {i : ι} {p p' : Process} (hp : s.process i = some p)
    (h : p'.initialRevision = p.initialRevision) :
    (s.setProcess i p').initialRevision = s.initialRevision := by
  funext j
  simp only [initialRevision, setProcess_process]
  split
  case isTrue hj => rw [hj, hp, map_some, map_some, h]
  case isFalse => rfl

lemma main_setProcess (s : Registry ι ν) (i j : ι) (p : Process) :
    (s.setProcess i p).main j = if j = i then some p.main else s.main j := by
  simp only [main, setProcess_process]
  split <;> rfl

omit [DecidableEq ι] in
lemma NoSuccessor.congr {o : ι} (h : s.NoSuccessor o)
    (hrev : s'.initialRevision = s.initialRevision)
    (hmain : ∀ n, s.main n = some .deregistered → s'.main n = some .deregistered) :
    s'.NoSuccessor o := by
  intro n hn
  simp only [RegisteredAfter, hrev] at hn
  exact hmain n (h n hn)

/-! ## Handing over -/

/-- Who is about to deregister has no successor. -/
def Yielding (s : Registry ι ν) : Prop :=
  ∀ i, s.main i = some .draining → s.NoSuccessor i

lemma Yielding.setMain (inv : Yielding s) {i : ι} {p : Process} {m : MainTask}
    (hp : s.process i = some p) (hmain : p.main ≠ .deregistered)
    (hm : m = .draining → s.NoSuccessor i) : Yielding (s.setProcess i { p with main := m }) := by
  have hkeep : ∀ n, s.main n = some .deregistered →
      (s.setProcess i { p with main := m }).main n = some .deregistered := by
    intro n hn
    rw [main_setProcess]
    split
    case isTrue h =>
      rw [h, main, hp, map_some] at hn
      exact absurd (some.inj hn) hmain
    case isFalse => exact hn
  intro j hj
  rw [main_setProcess] at hj
  split at hj
  case isTrue h =>
    rw [h]
    exact (hm (some.inj hj)).congr (initialRevision_setProcess hp rfl) hkeep
  case isFalse => exact (inv j hj).congr (initialRevision_setProcess hp rfl) hkeep

/-- Only a reason that is not `Fenced` leads to deregistering. -/
lemma afterShutdown_draining {reason : ShutdownReason}
    (h : afterShutdown (some reason) = .draining) : reason ≠ .fenced := by
  rintro rfl
  cases h

lemma yielding_step {value : ι → ν} {c : Call ι} (inv : Yielding s) (hc : s.HandsOver c)
    (h : s.step value c = some s') : Yielding s' := by
  cases c with
  | put w =>
    obtain ⟨-, rfl⟩ := step_put h
    intro i hi
    rw [main_setProcess] at hi
    split at hi
    · cases hi
    · exact absurd hi (hc i)
  | heartbeat w a =>
    obtain ⟨p, loop, hp, -, rfl⟩ := step_heartbeat h
    have hmain : ∀ j, (s.setProcess w { p with
        loop := loop.onResult (updateFn s.slot (value w) loop.revision a).2 }).main j =
          s.main j := by
      intro j
      rw [main_setProcess]
      split
      case isTrue hj => rw [hj, main, hp, map_some]
      case isFalse => rfl
    intro i hi
    exact (inv i ((hmain i).symm.trans hi)).congr (initialRevision_setProcess hp rfl)
      fun n hn => (hmain n).trans hn
  | shutdown i w =>
    obtain ⟨p, reason, hp, hserving, hreason, rfl⟩ := step_shutdown h
    refine inv.setMain hp (by rw [hserving]; decide) fun hdrain => ?_
    refine hc.resolve_left fun hfenced => afterShutdown_draining hdrain ?_
    rw [sent, hp, bind_some, hreason] at hfenced
    exact some.inj hfenced
  | serverExit i =>
    obtain ⟨p, hp, hserving, rfl⟩ := step_serverExit h
    exact inv.setMain hp (by rw [hserving]; decide) fun _ => hc
  | deregister i applied =>
    obtain ⟨p, hp, hdraining, rfl⟩ := step_deregister h
    exact Yielding.setMain (s := { s with slot := _ }) inv hp (by rw [hdraining]; decide)
      fun hm => by cases hm
  | otherKey =>
    cases h
    exact inv

/-- **Nobody deletes the entry of a successor**, in every run that hands over. -/
theorem successor_kept {value : ι → ν} {slot : Slot ν} {calls : List (Call ι)}
    {s s' : Registry ι ν} {o n : ι} {applied : Bool}
    (hrun : run (step value) { slot } calls = some s)
    (hguard : Guarded (step value) HandsOver { slot } calls)
    (hdelete : s.step value (.deregister o applied) = some s') (hafter : s.RegisteredAfter o n) :
    s.main n = some .deregistered := by
  have inv : Yielding s :=
    run_invariant (fun _ _ _ inv hc h => yielding_step inv hc h) (fun _ h => by cases h) hguard hrun
  obtain ⟨p, hp, hdraining, -⟩ := step_deregister hdelete
  exact inv o (by rw [main, hp, map_some, hdraining]) n hafter

/-- A successor that has come and gone again. -/
theorem successor_kept_in_turn :
    let calls : List (Call (Fin 3)) := [.put 0, .put 1, .shutdown 1 (.signal .sigTerm),
      .deregister 1 true, .shutdown 0 (.signal .sigInt)]
    ∃ s ∈ run (step id) { slot := Slot.empty } calls,
      (s.step id (.deregister 0 true)).isSome ∧ s.main 1 = some .deregistered := by
  intro calls
  refine exists_mem_imp (P := fun s => (s.step id (.deregister 0 true)).isSome ∧
    ∃ p ∈ s.initialRevision 0, ∃ q ∈ s.initialRevision 1, p < q) (by decide +kernel) ?_
  rintro s hs ⟨hdelete, hafter⟩
  obtain ⟨s', hs'⟩ := isSome_iff_exists.mp hdelete
  exact ⟨hdelete, successor_kept hs (by decide +kernel) hs' hafter⟩

/-- Process 1 takes over; before the next heartbeat of process 0, a signal reaches process 0, and it
deletes the entry of process 1. -/
theorem signal_after_takeover_deletes_successor :
    let calls : List (Call (Fin 2)) :=
      [.put 0, .heartbeat 0 .delivered, .put 1, .shutdown 0 (.signal .sigTerm)]
    ∃ s ∈ run (step id) { slot := Slot.empty } calls,
      s.slot.value = some 1 ∧ s.main 1 = some .serving ∧
        ∃ s' ∈ s.step id (.deregister 0 true), s'.slot.value = none := by
  decide +kernel

end Registry

end Zkbot
