import Zkbot.Oms.StepCases

/-!
# What an operation asks the service to do

`perform` is an operation together with the actions it puts out, and a message performs its
operations one after another (`processMessage_eq`).  Which actions those are is said once for each
handler (`processOrder_cases` and its siblings).  `ActionOf` sums up which orders the actions are
about.
-/

namespace Zkbot

open List Option

def OmsActionV2.order : OmsActionV2 → Option Int
  | .sendOrderToGw _ orderId _ | .sendCancelToGw _ orderId | .publishOrderUpdate orderId ..
  | .persistOrder orderId _ _ => some orderId
  | .publishBalanceUpdate _ | .publishPositionUpdate _ | .persistBalance .. | .persistPosition .. =>
    none

namespace OmsCoreV2

variable {s s' : OmsCoreV2} {actions : List OmsActionV2} {now : Int} {op : Op} {req : OrderRequest}
  {msg : String} {id : Int} {u : BalanceUpdate} {a : OmsActionV2}

/-! ## Batches -/

section Batch

variable {α : Type} {f : OmsCoreV2 → α → Option (OmsCoreV2 × List OmsActionV2)}

lemma processBatch_cons (s : OmsCoreV2) (a : α) (as : List α) :
    processBatch f s (a :: as) =
      (f s a).bind fun r => (processBatch f r.1 as).map fun q => (q.1, r.2 ++ q.2) := by
  -- the actions collected so far are a prefix of the actions at the end
  suffices h : ∀ (as : List α) (acc : OmsCoreV2 × List OmsActionV2),
      as.foldlM (fun acc req => (f acc.1 req).map fun r => (r.1, acc.2 ++ r.2)) acc =
        (processBatch f acc.1 as).map fun q => (q.1, acc.2 ++ q.2) by
    simp only [processBatch, foldlM_cons, nil_append]
    cases f s a with
    | none => rfl
    | some r => exact h as r
  intro as
  induction as with
  | nil =>
    intro acc
    simp [processBatch]
  | cons b bs ih =>
    intro acc
    simp only [processBatch, foldlM_cons, nil_append]
    cases f acc.1 b with
    | none => rfl
    | some r =>
      show List.foldlM _ (r.1, acc.2 ++ r.2) bs = Option.map _ (List.foldlM _ (r.1, r.2) bs)
      rw [ih, ih, Option.map_map]
      simp [Function.comp_def]

lemma processBatch_cons_eq_some {t : OmsCoreV2} {a : α} {as : List α} {out : List OmsActionV2}
    (h : processBatch f s (a :: as) = some (t, out)) :
    ∃ s₁ new rest, f s a = some (s₁, new) ∧ processBatch f s₁ as = some (t, rest) ∧
      out = new ++ rest := by
  rw [processBatch_cons, bind_eq_some_iff] at h
  obtain ⟨⟨s₁, new⟩, ha, h⟩ := h
  obtain ⟨⟨s₂, rest⟩, hrest, heq⟩ := map_eq_some_iff.mp h
  cases heq
  exact ⟨s₁, new, rest, ha, hrest, rfl⟩

lemma processBatch_singleton (s : OmsCoreV2) (a : α) : processBatch f s [a] = f s a := by
  rw [processBatch_cons]
  cases f s a with
  | none => rfl
  | some r => simp [processBatch]

end Batch

/-! ## Operations and their actions -/

def perform (s : OmsCoreV2) : Op → Option (OmsCoreV2 × List OmsActionV2)
  | .place now req => s.processOrder now req
  | .cancel now req => s.processCancel now req
  | .report report => s.processOrderReport report
  | .balanceUpdate now update => s.processBalanceUpdate now update
  | .panic accountId => some ({ s with panicAccounts := insert accountId s.panicAccounts }, [])
  | .dontPanic accountId =>
    some ({ s with panicAccounts := s.panicAccounts.erase accountId }, [])
  | .sendFailed now orderId errorMsg => s.processGatewaySendFailed now orderId errorMsg
  | .cancelSendFailed now orderId errorMsg => s.processGatewayCancelSendFailed now orderId errorMsg
  | .reload newConfig => (s.reloadConfig newConfig).map fun s' => (s', [])

lemma step_eq_perform (s : OmsCoreV2) (op : Op) : s.step op = (s.perform op).map (·.1) := by
  cases op with
  | reload newConfig =>
    simp only [step, perform, Option.map_map]
    exact Option.map_id'.symm
  | _ => rfl

lemma step_of_perform (h : s.perform op = some (s', actions)) : s.step op = some s' := by
  rw [step_eq_perform, h]
  rfl

/-- A message performs its operations, one after another. -/
theorem processMessage_eq (s : OmsCoreV2) (now : Int) (msg : OmsMessage) :
    s.processMessage now msg = processBatch perform s (OmsEvent.message now msg).ops := by
  cases msg with
  | batchPlaceOrders reqs | batchCancelOrders reqs =>
    show List.foldlM _ _ reqs = List.foldlM _ _ (reqs.map _)
    rw [foldlM_map]
    rfl
  | recheckOrder | recheckCancel | cleanup _ | reloadConfig | positionRecheck => rfl
  | _ =>
    simp only [OmsEvent.ops, processBatch_singleton]
    rfl

/-- **The invariant rule for operations and their actions**: `acts` is what was put out before. -/
theorem processBatch_invariant {I : OmsCoreV2 → List OmsActionV2 → Prop}
    {ok : OmsCoreV2 → Op → Prop}
    (hstep : ∀ s acts op s' new, I s acts → ok s op → s.perform op = some (s', new) →
      I s' (acts ++ new)) {acts out : List OmsActionV2} {ops : List Op} (h0 : I s acts)
    (hg : Guarded step ok s ops) (h : processBatch perform s ops = some (s', out)) :
    I s' (acts ++ out) := by
  induction ops generalizing s acts out with
  | nil =>
    cases h
    rw [append_nil]
    exact h0
  | cons op ops ih =>
    obtain ⟨s₁, new, rest, hop, hrest, rfl⟩ := processBatch_cons_eq_some h
    rw [← append_assoc]
    exact ih (hstep s acts op s₁ new h0 hg.1 hop) (hg.2 s₁ (step_of_perform hop)) hrest

/-! ## Which order an action is about -/

/-- The order that an operation works on. -/
def worksOn (s : OmsCoreV2) : Op → Option Int
  | .place _ req => some req.orderId
  | .cancel _ req => some req.orderId
  | .report r =>
    match s.reportTarget r with
    | some (_, id) => some id
    | none => (s.createsExternal r).map fun _ => s.orders.idCounter
  | .sendFailed _ orderId _ | .cancelSendFailed _ orderId _ => some orderId
  | .balanceUpdate .. | .panic _ | .dontPanic _ | .reload _ => none

/-- The operations that persist balances and positions. -/
def writesState : Op → Bool
  | .report _ | .balanceUpdate .. => true
  | _ => false

/-- The actions that an operation can put out.  Only a placement sends an order, and whatever
mentions an order mentions the one that the operation works on. -/
inductive ActionOf (s : OmsCoreV2) : Op → OmsActionV2 → Prop where
  | sendOrder (now : Int) (req : OrderRequest) (gwId : ℕ) (ts : Int) :
      ActionOf s (.place now req) (.sendOrderToGw gwId req.orderId ts)
  | sendCancel (now : Int) (req : OrderCancelRequest) (gwId : ℕ) :
      ActionOf s (.cancel now req) (.sendCancelToGw gwId req.orderId)
  | persist {op : Op} {id : Int} (h : s.worksOn op = some id) (setExpire setClosed : Bool) :
      ActionOf s op (.persistOrder id setExpire setClosed)
  | publish {op : Op} {id : Int} (h : s.worksOn op = some id) (trade fee exec inferred : Bool) :
      ActionOf s op (.publishOrderUpdate id trade fee exec inferred)
  | state {op : Op} {a : OmsActionV2} (h : a.order = none) (hop : writesState op = true) :
      ActionOf s op a

lemma ActionOf.order (h : ActionOf s op a) : ∀ id ∈ a.order, s.worksOn op = some id := by
  intro id hid
  cases h with
  | sendOrder now req gwId ts | sendCancel now req gwId =>
    cases hid
    rfl
  | persist h setExpire setClosed | publish h =>
    cases hid
    exact h
  | state h =>
    rw [h] at hid
    cases hid

lemma order_of_mem_fillActions {l : LiveOrder} {fills : List ℚ} (h : a ∈ fillActions l fills) :
    a.order = none := by
  simp only [fillActions] at h
  split at h
  · split_ifs at h
    · rcases mem_pair.mp h with rfl | rfl
      all_goals rfl
    · cases h
  · cases h

lemma actionOf_report {r : OrderReport} {l : LiveOrder} (hput : ReportActions id l r actions)
    (hworks : s.worksOn (.report r) = some id) : ∀ a ∈ actions, ActionOf s (.report r) a := by
  intro a ha
  rcases hput with ⟨-, rfl⟩ | ⟨-, trade, fee, exec, inferred, rfl⟩
  · cases ha
  · rw [cons_append, mem_cons, mem_append, mem_singleton] at ha
    rcases ha with rfl | ha | rfl
    · exact .publish hworks ..
    · exact .state (order_of_mem_fillActions ha) rfl
    · exact .persist hworks ..

lemma order_of_mem_balanceActions {md : MetadataTables} {accountId : Int}
    (h : a ∈ balanceActions md accountId u) : a.order = none := by
  have hone : ∀ {p : Prop} [Decidable p] {b : OmsActionV2},
      a ∈ (if p then [] else [b]) → a = b := by
    intro p _ b hb
    split_ifs at hb
    · cases hb
    · exact mem_singleton.mp hb
  simp only [balanceActions, spotActions, positionActions, mem_append, mem_filterMap,
    map_eq_some_iff] at h
  rcases h with (⟨e, -, i, -, rfl⟩ | h) | ⟨e, -, inst, -, rfl⟩ | h
  · rfl
  · rw [hone h]
    rfl
  · rfl
  · rw [hone h]
    rfl

/-- **The actions of an operation.** -/
theorem actionOf_perform (hk : SameKeys s.orders) (h : s.perform op = some (s', actions)) :
    ∀ a ∈ actions, ActionOf s op a := by
  intro a ha
  cases op with
  | place now req =>
    cases processOrder_cases h with
    | dropped => cases ha
    | rejected =>
      rw [mem_singleton.mp ha]
      exact .publish rfl ..
    | accepted =>
      rcases mem_pair.mp ha with rfl | rfl
      · exact .persist rfl ..
      · exact .sendOrder now req ..
  | cancel now req =>
    rcases (processCancel_quiet h).2 with rfl | ⟨-, rfl | ⟨gwId, rfl⟩⟩
    · cases ha
    · rw [mem_singleton.mp ha]
      exact .publish rfl ..
    · rw [mem_singleton.mp ha]
      exact .sendCancel now req gwId
  | report r =>
    cases processOrderReport_cases hk h with
    | ignored => cases ha
    | buffered => cases ha
    | applied _ _ _ _ _ _ _ ht _ _ _ _ hput =>
      exact actionOf_report hput (by simp [worksOn, ht]) a ha
    | created _ _ _ _ hnone hx _ hput =>
      exact actionOf_report hput (by simp [worksOn, hnone, hx]) a ha
  | balanceUpdate now u =>
    rcases processBalanceUpdate_spec h with ⟨-, -, rfl⟩ | ⟨accountId, ps, -, -, -, rfl⟩
    · cases ha
    · exact .state (order_of_mem_balanceActions ha) rfl
  | sendFailed =>
    cases processGatewaySendFailed_cases h with
    | ignored => cases ha
    | rejected =>
      rcases mem_pair.mp ha with rfl | rfl
      · exact .persist rfl ..
      · exact .publish rfl ..
  | cancelSendFailed =>
    rcases (processGatewayCancelSendFailed_quiet h).2 with rfl | ⟨l, -, -, rfl⟩
    · cases ha
    · rcases mem_pair.mp ha with rfl | rfl
      · exact .persist rfl ..
      · exact .publish rfl ..
  | panic accountId | dontPanic accountId =>
    cases h
    cases ha
  | reload newConfig =>
    obtain ⟨s₁, -, heq⟩ := map_eq_some_iff.mp h
    cases heq
    cases ha

end OmsCoreV2

end Zkbot
