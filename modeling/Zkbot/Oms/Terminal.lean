import Zkbot.Oms.ReportStatus
import Zkbot.Oms.StepCases

/-!
# Filled and cancelled orders

A filled or cancelled order should never change its status again, and its terminal time should be
written once.  The second holds of every message.  The first does not: `apply_oms_error` sets
`Rejected` without asking `can_update_status`, so an execution report that says *rejected*
overwrites a fill.

* `SettledKept` — the property, for one order and the messages that follow.
* `KeepsSettled` — the operations under which it holds: no report with an execution rejection
  reaches the order, and no new order takes over its id.
-/

namespace Zkbot

open Sample LiveOrder OrderStoreV2

namespace OmsCoreV2

/-- **A filled or cancelled order keeps its status and its terminal time** while the events `evs`
are handled from `s`, as long as it is cached. -/
def SettledKept (s : OmsCoreV2) (id : Int) (evs : List OmsEvent) : Prop :=
  ∀ l ∈ s.orders.live.lookup id, l.orderStatus.isSettled = true →
    ∀ t ∈ run handle s evs, ∀ l' ∈ t.orders.live.lookup id,
      l'.orderStatus = l.orderStatus ∧ ∀ ta, l.terminalAt = some ta → l'.terminalAt = some ta

/-- The operations that keep order `id` settled: no order is recorded under its id again, and no
report with an execution rejection is applied to it. -/
def KeepsSettled (id : Int) (s : OmsCoreV2) : Op → Prop
  | .place _ req => s.admits req → req.orderId ≠ id
  | .report r =>
    ((s.createsExternal r).isSome → s.orders.idCounter ≠ id) ∧
      ∀ t ∈ s.reportTarget r, t.2 = id → r.rejects = false
  | _ => True

instance (id : Int) (s : OmsCoreV2) : (op : Op) → Decidable (s.KeepsSettled id op)
  | .place .. | .report _ | .cancel .. | .balanceUpdate .. | .panic _ | .dontPanic _
  | .sendFailed .. | .cancelSendFailed .. | .reload _ =>
    by dsimp only [KeepsSettled]; infer_instance

/-- The live record of an order, if it is there, still has the status and the terminal time of
`l`. -/
def StillAs (id : Int) (l : LiveOrder) (s : OmsCoreV2) : Prop :=
  ∀ l' ∈ s.orders.live.lookup id,
    l'.orderStatus = l.orderStatus ∧ ∀ ta, l.terminalAt = some ta → l'.terminalAt = some ta

theorem stillAs_step {id : Int} {l : LiveOrder} (hl : l.orderStatus.isSettled = true)
    {s s' : OmsCoreV2} {op : Op} (hk : SameKeys s.orders) (hinv : StillAs id l s)
    (hok : s.KeepsSettled id op) (h : s.step op = some s') : StillAs id l s' := by
  intro m hm
  cases record_step hk h hm with
  | kept m₀ hm₀ hcore =>
    rw [status_of_core hcore, terminalAt_of_core hcore]
    exact hinv m₀ hm₀
  | placed hadm hj => exact absurd hj.symm (hok hadm)
  | sendFailed l₁ hl₁ hterm =>
    -- a failed send rejects working orders only
    rw [isInTerminalState, (hinv l₁ hl₁).1, OrderStatus.isTerminal_of_isSettled hl] at hterm
    cases hterm
  | @report r _ _ _ _ _ _ htarget hl₁ spec =>
    obtain ⟨hstat, hta⟩ := hinv _ hl₁
    rw [spec.follows.status, spec.follows.terminalAt]
    refine ⟨?_, fun ta hta₀ => terminalAt_kept (hta ta hta₀) r⟩
    rw [settled_status (hstat ▸ hl) (hok.2 _ htarget rfl), hstat]
  | external hx hj => exact absurd hj.symm (hok.1 (by rw [hx]; rfl))

/-- **Filled and cancelled are absorbing** for runs in which no execution rejection reaches the
order and its id is not used again. -/
theorem settled_kept_of_run (u : OmsSetup) (before : List OmsEvent) (s : OmsCoreV2)
    (hreach : run handle u.start before = some s) (id : Int) (evs : List OmsEvent)
    (hok : Guarded step (KeepsSettled id) s (evs.flatMap OmsEvent.ops)) :
    SettledKept s id evs := by
  intro l hl hset t ht
  have h : SameKeys t.orders ∧ StillAs id l t := by
    refine events_invariant (I := fun s => SameKeys s.orders ∧ StillAs id l s) ?_ ⟨?_, ?_⟩ hok ht
    · rintro s op s' ⟨hk, hinv⟩ hop hstep
      exact ⟨sameKeys_step hk hstep, stillAs_step hset hk hinv hop hstep⟩
    · exact sameKeys_run (sameKeys_start u) hreach
    · intro m hm
      obtain rfl : l = m := Option.mem_unique hl hm
      exact ⟨rfl, fun ta hta => hta⟩
  exact h.2

open Sample

/-- A filled order under a late cancel, a failed send, a state report, a trade and a fee. -/
theorem settled_kept_sample :
    ∃ s ∈ run handle (setup false false 4).start
      [place 10 .buy 5, report 10 [state .filled 5]],
      (∃ l ∈ s.orders.live.lookup 10, l.orderStatus = .filled) ∧
      SettledKept s 10
        [.message 2 (.cancelOrder { orderId := 10 }), .message 2 (.gatewaySendFailed 10 0 "late"),
          report 10 [state .booked 0, trade 5],
          report 10 [⟨.fee, some (.feeReport { feeSymbol := "Q", feeQty := 1 })⟩]] := by
  refine exists_mem_imp ?_ fun s hs => And.imp_right (settled_kept_of_run _ _ s hs 10 _)
  decide +kernel

/-- An execution rejection overwrites the status of a filled order. -/
theorem settled_overwritten :
    ∃ s ∈ run handle (setup false false 4).start
      [place 10 .buy 5, report 10 [state .filled 5]],
      ¬ SettledKept s 10 [report 10 [rejection]] := by
  refine exists_mem_imp (P := fun s =>
    ∃ l ∈ s.orders.live.lookup 10, l.orderStatus.isSettled = true ∧
      ∃ t ∈ run handle s [report 10 [rejection]],
        ∃ l' ∈ t.orders.live.lookup 10, l'.orderStatus ≠ l.orderStatus) (by decide +kernel) ?_
  rintro s - ⟨l, hl, hset, t, ht, l', hl', hne⟩ h
  exact hne (h l hl hset t ht l' hl').1

end OmsCoreV2

end Zkbot
