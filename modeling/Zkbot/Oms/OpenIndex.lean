import Zkbot.Oms.ReportStatus
import Zkbot.Oms.StepCases

/-!
# The index of open orders

The store keeps the ids of working orders in `open_order_ids`, and by account in `open_by_account`.
`create_order` and `init_with_orders` enter an order, `mark_closed` takes it out; the status itself
is written elsewhere.  Two paths forget the index: `create_external_order` enters nothing, and a
report that takes a rejected order back to work does not enter it again.

* `OpenIndexExact` — both indices say exactly which orders are working.
* `OpenInv` — the invariant behind it, with the queue of closed orders: an order that waits for
  eviction is not open.  `OpenInvBut id` allows it to fail at one order, the one an operation is
  about; closing that order restores it (`OpenInvBut.markClosed`).
* `KeepsOpenIndex` — the operations that keep the index exact, as a condition on the state they
  are handled in.
-/

namespace Zkbot

open Option AList LiveOrder

variable {os : OrderStoreV2}

open OrderStoreV2 Sample

open OrderStoreV2 (SameBut Quiet)

/-! ## The property and the invariant -/

/-- **The open-order index is exact.** -/
structure OpenIndexExact (os : OrderStoreV2) : Prop where
  opens : ∀ id, id ∈ os.openOrderIds ↔ ∃ l ∈ os.live.lookup id, l.isInTerminalState = false
  accounts : ∀ a id, id ∈ os.openByAccount.getD a ∅ ↔
    id ∈ os.openOrderIds ∧ ∃ l ∈ os.live.lookup id, l.accountId = a

namespace OrderStoreV2

variable {os : OrderStoreV2} {id : Int}

/-- The account of an order, if the order is working. -/
def workingAccount (os : OrderStoreV2) (id : Int) : Option Int :=
  (os.live.lookup id).bind fun l => if l.isInTerminalState then none else some l.accountId

lemma workingAccount_of_lookup {l : LiveOrder} (hl : os.live.lookup id = some l) :
    os.workingAccount id = if l.isInTerminalState then none else some l.accountId := by
  rw [workingAccount, hl, bind_some]

lemma workingAccount_eq_some {a : Int} :
    os.workingAccount id = some a ↔
      ∃ l, os.live.lookup id = some l ∧ l.isInTerminalState = false ∧ l.accountId = a := by
  rw [workingAccount, bind_eq_some_iff]
  constructor
  · rintro ⟨l, hl, h⟩
    split_ifs at h with ht
    exact ⟨l, hl, by simpa using ht, some.inj h⟩
  · rintro ⟨l, hl, ht, ha⟩
    exact ⟨l, hl, by simp [ht, ha]⟩

lemma workingAccount_congr {os' : OrderStoreV2} (h : os'.live.lookup id = os.live.lookup id) :
    os'.workingAccount id = os.workingAccount id := by
  rw [workingAccount, workingAccount, h]

end OrderStoreV2

/-- The indices agree with the working orders, and no open order is queued for eviction. -/
structure OpenInv (os : OrderStoreV2) : Prop where
  opens : ∀ id, id ∈ os.openOrderIds ↔ ∃ a, os.workingAccount id = some a
  accounts : ∀ a id, id ∈ os.openByAccount.getD a ∅ ↔ os.workingAccount id = some a
  queue : ∀ id ∈ os.closedLru, id ∉ os.openOrderIds

/-- The same at every order but `id`, which may be listed under its own account only. -/
structure OpenInvBut (id : Int) (os : OrderStoreV2) : Prop where
  opens : ∀ j, j ≠ id → (j ∈ os.openOrderIds ↔ ∃ a, os.workingAccount j = some a)
  accounts : ∀ a j, j ≠ id → (j ∈ os.openByAccount.getD a ∅ ↔ os.workingAccount j = some a)
  queue : ∀ j ∈ os.closedLru, j ≠ id → j ∉ os.openOrderIds
  own : ∀ a l, id ∈ os.openByAccount.getD a ∅ → os.live.lookup id = some l → l.accountId = a

lemma OpenInv.exact (h : OpenInv os) : OpenIndexExact os where
  opens id := by
    rw [h.opens id]
    constructor
    · rintro ⟨a, ha⟩
      obtain ⟨l, hl, ht, -⟩ := workingAccount_eq_some.mp ha
      exact ⟨l, hl, ht⟩
    · rintro ⟨l, hl, ht⟩
      exact ⟨l.accountId, workingAccount_eq_some.mpr ⟨l, hl, ht, rfl⟩⟩
  accounts a id := by
    rw [h.accounts a id, h.opens id]
    constructor
    · intro ha
      obtain ⟨l, hl, -, hacc⟩ := workingAccount_eq_some.mp ha
      exact ⟨⟨a, ha⟩, l, hl, hacc⟩
    · rintro ⟨⟨b, hb⟩, l, hl, hacc⟩
      obtain ⟨l₁, hl₁, -, hacc₁⟩ := workingAccount_eq_some.mp hb
      have heq : l = l₁ := mem_unique hl hl₁
      rw [hb, ← hacc₁, ← heq, hacc]

/-! ## One order at a time -/

section OneOrder

variable {os os' : OrderStoreV2} {id : Int}

lemma OpenInv.congr (h : OpenInv os) (hw : ∀ j, os'.workingAccount j = os.workingAccount j)
    (ho : os'.openOrderIds = os.openOrderIds) (ha : os'.openByAccount = os.openByAccount)
    (hq : os'.closedLru = os.closedLru) : OpenInv os' where
  opens j := by rw [ho, hw j, h.opens j]
  accounts a j := by rw [ha, hw j, h.accounts a j]
  queue j hj := by
    rw [ho]
    exact h.queue j (hq ▸ hj)

lemma OpenInv.but (h : OpenInv os) (hs : SameBut id os os')
    (hacc : ∀ l l', os.live.lookup id = some l → os'.live.lookup id = some l' →
      l'.accountId = l.accountId) : OpenInvBut id os' where
  opens j hj := by
    rw [hs.openOrderIds, workingAccount_congr (hs.live j hj), h.opens j]
  accounts a j hj := by
    rw [hs.openByAccount, workingAccount_congr (hs.live j hj), h.accounts a j]
  queue j hj _ := by
    rw [hs.openOrderIds]
    exact h.queue j (hs.closedLru ▸ hj)
  own a l' hmem hl' := by
    rw [hs.openByAccount, h.accounts a id, workingAccount_eq_some] at hmem
    obtain ⟨l, hl, -, ha⟩ := hmem
    rw [hacc l l' hl hl', ha]

lemma OpenInv.enter (h : OpenInv os) (l : LiveOrder) (d : OrderDetailLog)
    (hacc : ∀ a, os.workingAccount id = some a → a = l.accountId) :
    OpenInvBut id (os.enter id l d) where
  opens j hj := by
    rw [workingAccount_congr (enter_live_ne hj l d), ← h.opens j]
    simp [OrderStoreV2.enter, hj]
  accounts a j hj := by
    rw [workingAccount_congr (enter_live_ne hj l d), ← h.accounts a j]
    simp only [OrderStoreV2.enter, OrderStoreV2.addOpenByAccount, Dict.getD, Dict.lookup_insert_if]
    split_ifs with ha
    · subst ha
      simp [hj]
    · exact Iff.rfl
  queue j hj hne := by
    simp only [OrderStoreV2.enter, Finset.mem_insert, hne, false_or]
    exact h.queue j hj
  own a l' hmem hl' := by
    have hll : l' = l := by
      rw [OrderStoreV2.enter, lookup_insert, some.injEq] at hl'
      exact hl'.symm
    by_contra hne
    have hne' : a ≠ l.accountId := fun heq => hne (by rw [hll, heq])
    simp only [OrderStoreV2.enter, OrderStoreV2.addOpenByAccount, Dict.getD,
      lookup_insert_ne hne'] at hmem
    exact hne' (hacc a ((h.accounts a id).mp hmem))

/-- **Closing an order restores the invariant**, whatever it evicts. -/
lemma OpenInvBut.markClosed (h : OpenInvBut id os) {l : LiveOrder}
    (hl : os.live.lookup id = some l) (ht : l.isInTerminalState = true) :
    OpenInv (os.markClosed id) := by
  -- the closed order is not working any more, and an evicted one was not working before
  have hid : os.workingAccount id = none := by
    rw [workingAccount_of_lookup hl, ht, if_pos rfl]
  have hnone : ∀ e, os.evicted id = some e → os.workingAccount e = none := by
    intro e he
    by_cases hne : e = id
    · rw [hne, hid]
    · rcases mem_of_evicted he with hq | heq
      · have hno := h.queue e hq hne
        rw [h.opens e hne, not_exists] at hno
        exact eq_none_iff_forall_not_mem.mpr hno
      · exact absurd heq hne
  have hw : ∀ j, (os.markClosed id).workingAccount j = os.workingAccount j := by
    intro j
    by_cases he : os.evicted id = some j
    · rw [hnone j he, workingAccount, markClosed_live, if_pos he, bind_none]
    · apply workingAccount_congr
      rw [markClosed_live, if_neg he]
  refine ⟨fun j => ?_, fun a j => ?_, fun j hj => ?_⟩
  · rw [hw j, markClosed_openOrderIds, Finset.mem_erase]
    by_cases hj : j = id
    · subst hj
      simp [hid]
    · simp only [ne_eq, hj, not_false_eq_true, true_and]
      exact h.opens j hj
  · rw [hw j, mem_markClosed_openByAccount hl]
    by_cases hj : j = id
    · subst hj
      rw [hid]
      refine iff_of_false ?_ (by simp)
      rintro ⟨hmem, hno⟩
      exact hno ⟨rfl, (h.own a l hmem hl).symm⟩
    · simp only [hj, false_and, not_false_eq_true, and_true]
      exact h.accounts a j hj
  · rw [markClosed_openOrderIds, Finset.mem_erase]
    rintro ⟨hne, hopen⟩
    rcases mem_markClosed_closedLru hj with hq | heq
    · exact h.queue j hq hne hopen
    · exact hne heq

end OneOrder

/-- A working order that is entered in the index keeps the invariant everywhere. -/
lemma OpenInv.enter_working {id : Int} (h : OpenInv os) (l : LiveOrder) (d : OrderDetailLog)
    (ht : l.isInTerminalState = false) (hq : id ∉ os.closedLru)
    (hacc : ∀ a, os.workingAccount id = some a → a = l.accountId) : OpenInv (os.enter id l d) := by
  have hbut := h.enter l d hacc
  have hlive : (os.enter id l d).live.lookup id = some l := lookup_insert _
  have hid : (os.enter id l d).workingAccount id = some l.accountId := by
    rw [workingAccount_of_lookup hlive, ht]
    rfl
  refine ⟨fun j => ?_, fun a j => ?_, fun j hj => ?_⟩
  · by_cases hj : j = id
    · subst hj
      refine iff_of_true ?_ ⟨_, hid⟩
      simp [OrderStoreV2.enter]
    · exact hbut.opens j hj
  · by_cases hj : j = id
    · subst hj
      rw [hid, some.injEq]
      constructor
      · intro hmem
        exact hbut.own a l hmem hlive
      · rintro rfl
        simp [OrderStoreV2.enter, OrderStoreV2.addOpenByAccount, Dict.getD]
    · exact hbut.accounts a j hj
  · have hne : j ≠ id := by
      rintro rfl
      exact hq hj
    exact hbut.queue j hj hne

/-! ## Warm start -/

lemma OpenInv.initWithOrder (h : OpenInv os) (hq : os.closedLru = []) (l : LiveOrder)
    (d : OrderDetailLog) (hnew : os.live.lookup l.orderId = none) :
    OpenInv (os.initWithOrder l d) := by
  by_cases h0 : l.orderId = 0
  · simp only [OrderStoreV2.initWithOrder, h0]
    exact h
  have hwnew : os.workingAccount l.orderId = none := by
    rw [workingAccount, hnew, bind_none]
  cases ht : l.isInTerminalState with
  | true =>
    simp only [OrderStoreV2.initWithOrder, h0, ht]
    refine h.congr (fun j => ?_) rfl rfl rfl
    by_cases hj : j = l.orderId
    · rw [hj, hwnew, workingAccount_of_lookup (lookup_insert _), if_pos ht]
    · exact workingAccount_congr (lookup_insert_ne hj)
  | false =>
    -- a working order is entered as a new one would be
    have henter : OpenInv (os.enter l.orderId l d) := by
      refine h.enter_working l d ht (by simp [hq]) (fun a ha => ?_)
      rw [hwnew] at ha
      cases ha
    simp only [OrderStoreV2.initWithOrder, h0, ht]
    exact henter.congr (fun j => rfl) rfl rfl rfl

theorem openInv_start (u : OmsSetup) (hids : (u.orders.map (·.orderId)).Nodup) :
    OpenInv u.start.orders := by
  have h : OpenInv u.start.orders ∧ u.start.orders.closedLru = [] := by
    refine OmsCoreV2.warm_induct (P := fun os => OpenInv os ∧ os.closedLru = []) u hids ?_ ?_
    · refine ⟨⟨fun id => ?_, fun a id => ?_, fun id hid => ?_⟩, rfl⟩
      · exact iff_of_false (Finset.notMem_empty id) (by rintro ⟨a, ha⟩; cases ha)
      · exact iff_of_false (Finset.notMem_empty id) (by intro ha; cases ha)
      · cases hid
    · rintro s v1 ⟨hinv, hq⟩ hnew
      refine ⟨?_, ?_⟩
      · have hconv : OpenInv (s.convertV1Order v1).1.orders :=
          hinv.congr (fun _ => rfl) rfl rfl rfl
        exact hconv.initWithOrder hq _ _ hnew
      · simp only [OmsCoreV2.initOrder, initWithOrder]
        split_ifs <;> exact hq
  exact h.1

/-! ## Every operation -/

namespace OmsCoreV2

/-- The operations that keep the index exact: a placed order is not one that still waits for
eviction, and does not take over a working order of another account; a report creates no external
order and does not take a closed order back to work. -/
def KeepsOpenIndex (s : OmsCoreV2) : Op → Prop
  | .place _ req => s.admits req →
      req.orderId ∉ s.orders.closedLru ∧
        ∀ a ∈ s.orders.workingAccount req.orderId, a = req.accountId
  | .report r =>
    s.createsExternal r = none ∧
      ∀ t ∈ s.reportTarget r, ∀ l ∈ s.orders.live.lookup t.2,
        l.isInTerminalState = true → revives l r = false
  | _ => True

instance (s : OmsCoreV2) : (op : Op) → Decidable (s.KeepsOpenIndex op)
  | .place .. | .report _ | .cancel .. | .balanceUpdate .. | .panic _ | .dontPanic _
  | .sendFailed .. | .cancelSendFailed .. | .reload _ =>
    by dsimp only [KeepsOpenIndex]; infer_instance

theorem openInv_step {s s' : OmsCoreV2} {op : Op} (hk : SameKeys s.orders)
    (hinv : OpenInv s.orders) (hok : s.KeepsOpenIndex op) (h : s.step op = some s') :
    OpenInv s'.orders := by
  cases step_cases hk h with
  | quiet hq =>
    refine hinv.congr (fun j => ?_) hq.openOrderIds hq.openByAccount hq.closedLru
    cases hl : s.orders.live.lookup j with
    | none =>
      have hl' := hq.live_none.mpr hl
      rw [workingAccount, workingAccount, hl, hl']
    | some l =>
      obtain ⟨l', hl', hcore⟩ := hq.live_some' hl
      rw [workingAccount_of_lookup hl, workingAccount_of_lookup hl',
        isInTerminalState, isInTerminalState, status_of_core hcore,
        accountId_of_terms (terms_of_core hcore)]
  | rejected hadm hrefuse l d hl hterm horders =>
    obtain ⟨-, hacc⟩ := hok hadm
    rw [horders]
    refine (hinv.enter l d (fun a ha => ?_)).markClosed (lookup_insert _) hterm
    rw [hl.accountId]
    exact hacc a ha
  | accepted hadm _ _ _ l d _ hl hw _ _ _ horders =>
    obtain ⟨hqueue, hacc⟩ := hok hadm
    rw [horders]
    refine hinv.enter_working l d hw hqueue (fun a ha => ?_)
    rw [hl.accountId]
    exact hacc a ha
  | sendFailed l l' _ hfail =>
    rw [hfail.orders]
    refine OpenInvBut.markClosed (hinv.but hfail.same (fun l₁ l₂ h₁ h₂ => ?_)) hfail.live
      hfail.closed
    obtain rfl : l = l₁ := mem_unique hfail.found h₁
    obtain rfl : l' = l₂ := mem_unique hfail.live h₂
    exact accountId_of_terms hfail.terms
  | report r gwId id l d os l' d' ht hl hd spec =>
    have hacc : l'.accountId = l.accountId := accountId_of_terms spec.follows.terms
    have hbut : OpenInvBut id os := by
      refine hinv.but spec.same (fun l₁ l₂ h₁ h₂ => ?_)
      obtain rfl : l = l₁ := mem_unique hl h₁
      obtain rfl : l' = l₂ := mem_unique spec.live h₂
      exact hacc
    have hstatus : l'.isInTerminalState = (reportEffect l r).status.isTerminal := by
      rw [isInTerminalState, spec.follows.status]
    rw [spec.orders]
    cases hc : closes l r with
    | true =>
      refine hbut.markClosed spec.live ?_
      rw [hstatus]
      simp only [closes, Bool.and_eq_true] at hc
      exact hc.2
    | false =>
      -- the order was working and still is, or was closed and still is
      rw [if_neg (by simp)]
      have hkeep : l'.isInTerminalState = l.isInTerminalState := by
        rw [hstatus]
        cases hterm : l.isInTerminalState with
        | true => exact terminal_of_not_revives hterm (hok.2 (gwId, id) ht l hl hterm)
        | false =>
          cases hnew : (reportEffect l r).status.isTerminal with
          | false => rfl
          | true => rw [closes_of_terminal hterm hnew] at hc; cases hc
      refine hinv.congr (fun j => ?_) spec.same.openOrderIds spec.same.openByAccount
        spec.same.closedLru
      by_cases hj : j = id
      · rw [hj, workingAccount_of_lookup hl, workingAccount_of_lookup spec.live, hkeep, hacc]
      · exact workingAccount_congr (spec.same.live j hj)
  | external _ _ _ _ _ hx =>
    rw [hok.1] at hx
    cases hx

/-- **The index of open orders is exact in every state** of a run whose operations all keep it, from
any start whose persisted orders have distinct ids. -/
theorem openIndex_exact_of_run (u : OmsSetup) (hids : (u.orders.map (·.orderId)).Nodup)
    (evs : List OmsEvent) (hok : Guarded step KeepsOpenIndex u.start (evs.flatMap OmsEvent.ops))
    (s : OmsCoreV2) (hrun : run handle u.start evs = some s) : OpenIndexExact s.orders := by
  have h : SameKeys s.orders ∧ OpenInv s.orders := by
    refine events_invariant (I := fun s => SameKeys s.orders ∧ OpenInv s.orders) ?_
      ⟨sameKeys_start u, openInv_start u hids⟩ hok hrun
    rintro s op s' ⟨hk, hinv⟩ hop hstep
    exact ⟨sameKeys_step hk hstep, openInv_step hk hinv hop hstep⟩
  exact h.2.exact

open Sample

/-- A run with a fill, a rejection and an eviction that keeps the index. -/
theorem openIndex_exact_sample :
    ∃ s ∈ run handle (setup false false 1).start
      [place 10 .buy 5, place 11 .sell 3, report 10 [state .filled 5],
        report 11 [rejection], place 12 .buy 1],
      11 ∉ s.orders.openOrderIds ∧ 12 ∈ s.orders.openOrderIds ∧ OpenIndexExact s.orders := by
  refine exists_mem_imp (P := fun s => 11 ∉ s.orders.openOrderIds ∧ 12 ∈ s.orders.openOrderIds)
    (by decide +kernel) ?_
  rintro s hs ⟨h11, h12⟩
  refine ⟨h11, h12, ?_⟩
  exact openIndex_exact_of_run (setup false false 1) (by decide) _ (by decide +kernel) s hs

lemma not_openIndexExact (id : Int) {os : OrderStoreV2} (h : id ∉ os.openOrderIds ∧
    ∃ l ∈ os.live.lookup id, l.isInTerminalState = false) : ¬ OpenIndexExact os :=
  fun hexact => h.1 ((hexact.opens id).mpr h.2)

/-- The two paths that forget the index.  A rejected order that the venue reports as booked is
working but not open; so is an external order from the moment it is created. -/
theorem openIndex_not_exact :
    (∃ s ∈ run handle (setup false false 4).start
      [place 10 .buy 5, report 10 [rejection],
        report 10 [state .booked 0]], ¬ OpenIndexExact s.orders) ∧
    (∃ s ∈ run handle (setup false true 4).start
      [reportByRef "ref" [state .booked 0]], ¬ OpenIndexExact s.orders) := by
  constructor
  · exact exists_mem_imp (by decide +kernel) fun _ _ => not_openIndexExact 10
  · exact exists_mem_imp (by decide +kernel) fun _ _ => not_openIndexExact 1048576

end OmsCoreV2

end Zkbot
