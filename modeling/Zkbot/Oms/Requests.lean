import Zkbot.Oms.Actions

/-!
# The requests that are stored for the gateway

An action of the core names an order; the request that goes to the gateway is read from the order's
detail record when the action is carried out.  A place request carries the order's id as its
correlation id, and a cancel request as its order id.

* `GwCommand` — what an action asks of the gateway: to place or to cancel an order.
* `OrderStoreV2.Own` — the request stored for a command names the order of the command.
* `own_perform`, `own_message` — no operation and no message breaks this, and the one that puts out
  a command establishes it, whatever was stored before.
-/

namespace Zkbot

inductive CommandKind where
  | place
  | cancel
  deriving DecidableEq

/-- What a gateway is asked to do. -/
structure GwCommand where
  kind : CommandKind
  orderId : Int
  deriving DecidableEq

def OmsActionV2.command : OmsActionV2 → Option GwCommand
  | .sendOrderToGw _ orderId _ => some ⟨.place, orderId⟩
  | .sendCancelToGw _ orderId => some ⟨.cancel, orderId⟩
  | _ => none

def commands (actions : List OmsActionV2) : List GwCommand := actions.filterMap OmsActionV2.command

/-- The request of that kind names the order. -/
def OrderDetailLog.Own (c : GwCommand) (d : OrderDetailLog) : Prop :=
  match c.kind with
  | .place => ∀ r ∈ d.lastGwReq, r.correlationId = c.orderId
  | .cancel => ∀ r ∈ d.cancelReq, r.orderId = c.orderId

lemma OrderDetailLog.Own.congr {c : GwCommand} {d d' : OrderDetailLog} (h : d.Own c)
    (hsend : d'.lastGwReq = d.lastGwReq) (hcancel : d'.cancelReq = d.cancelReq) : d'.Own c := by
  simp only [OrderDetailLog.Own] at h ⊢
  rw [hsend, hcancel]
  exact h

namespace OrderStoreV2

variable {id : Int}

/-- The request that is stored for the command, if there is one, names its order. -/
def Own (os : OrderStoreV2) (c : GwCommand) : Prop :=
  ∀ d ∈ os.detail.lookup c.orderId, d.Own c

variable {os os' : OrderStoreV2} {c : GwCommand}

lemma Own.of_detail (h : os.Own c) (heq : os'.detail = os.detail) : os'.Own c := by
  rw [Own, heq]
  exact h

lemma Own.insert {d : OrderDetailLog} (h : c.orderId ≠ id → os.Own c)
    (hd : id = c.orderId → d.Own c) (heq : os'.detail = os.detail.insert id d) : os'.Own c := by
  intro d' hd'
  rw [heq, Dict.lookup_insert_if] at hd'
  split_ifs at hd' with hid
  · cases hd'
    exact hd hid.symm
  · exact h hid d' hd'

lemma Own.modify (h : os.Own c) {f : OrderDetailLog → OrderDetailLog}
    (hf : ∀ d, id = c.orderId → d.Own c → (f d).Own c) (heq : os'.detail = os.detail.modify id f) :
    os'.Own c := by
  intro d hd
  rw [heq] at hd
  by_cases hid : id = c.orderId
  · subst hid
    rw [Dict.lookup_modify_self, Option.mem_def, Option.map_eq_some_iff] at hd
    obtain ⟨d₀, hd₀, rfl⟩ := hd
    exact hf d₀ rfl (h d₀ hd₀)
  · rw [Dict.lookup_modify_ne (Ne.symm hid)] at hd
    exact h d hd

lemma Own.markClosed (h : os.Own c) (id : Int) : (os.markClosed id).Own c := by
  intro d hd
  rw [markClosed_detail] at hd
  split_ifs at hd
  · cases hd
  · exact h d hd

lemma Own.update (h : os.Own c) {f : LiveOrder → OrderDetailLog → LiveOrder × OrderDetailLog}
    (hf : ∀ l d, (f l d).2.lastGwReq = d.lastGwReq ∧ (f l d).2.cancelReq = d.cancelReq)
    (hos' : os.updateLiveAndDetail id f = some os') : os'.Own c := by
  simp only [updateLiveAndDetail, bind_eq_some] at hos'
  obtain ⟨l, -, d, hd, hos'⟩ := hos'
  cases hos'
  refine Own.insert (fun _ => h) (fun hid => ?_) rfl
  exact (h d (hid ▸ hd)).congr (hf l d).1 (hf l d).2

end OrderStoreV2

namespace OmsCoreV2

variable {id now : Int} {flags : OrderAccountingFlags} {actions : List OmsActionV2} {ts : Int}
  {r : OrderReport} {msg : OmsMessage}

open OrderStoreV2 (Own)

variable {s s' : OmsCoreV2} {c : GwCommand}

/-! ## The handlers -/

lemma own_error {os os' : OrderStoreV2} {msg : String} {kind : ExecType} {rej : Rejection}
    (h : os.Own c)
    (hos' : os.updateLiveAndDetail id (fun live detail => applyOmsError live detail msg ts kind rej)
      = some os') : os'.Own c :=
  h.update (fun _ _ => ⟨rfl, rfl⟩) hos'

section

variable (h : s.orders.Own c ∨ c ∈ commands actions) {req : OrderRequest} {om : ResolvedOrderMeta}

include h

lemma own_processOrder (hproc : s.processOrder now req = some (s', actions)) : s'.orders.Own c := by
  cases processOrder_cases hproc with
  | dropped _ hs =>
    subst hs
    exact h.resolve_right (by simp [commands])
  | rejected _ _ f hrej =>
    rw [hrej.state]
    refine Own.markClosed (Own.insert (fun _ => ?_) (fun _ => ?_) rfl) _
    · exact h.resolve_right List.not_mem_nil
    · cases hkind : c.kind <;> simp [OrderDetailLog.Own, refusedDetail, hkind]
  | accepted _ _ om sym gwReq hacc =>
    rw [hacc.state]
    refine Own.insert (fun hne => ?_) (fun hid => ?_) rfl
    · refine h.resolve_right fun hc => ?_
      rw [List.mem_singleton.mp hc] at hne
      exact absurd rfl hne
    · cases hkind : c.kind <;>
        simp [OrderDetailLog.Own, sentDetail, hkind, hid, hacc.correlationId]

lemma own_processCancel {req : OrderCancelRequest}
    (hproc : s.processCancel now req = some (s', actions)) : s'.orders.Own c := by
  simp only [processCancel] at hproc
  split at hproc
  · cases hproc
    exact h.resolve_right (by simp [commands])
  · split at hproc
    · cases hproc
      exact h.resolve_right (by simp [commands])
    · obtain ⟨ref, -, hproc⟩ := bind_eq_some.mp hproc
      split_ifs at hproc
      · cases hproc
        exact h.resolve_right (by simp [commands])
      · obtain ⟨os, hos, hproc⟩ := bind_eq_some.mp hproc
        cases hproc
        exact own_error (h.resolve_right (by simp [commands, OmsActionV2.command])) hos
      · cases hproc
        rcases h with h | h
        · refine h.modify (fun d hid hold => ?_) rfl
          cases hkind : c.kind with
          | place => simpa [OrderDetailLog.Own, hkind] using hold
          | cancel => simp [OrderDetailLog.Own, hkind, hid]
        · rw [List.mem_singleton.mp h]
          intro d hd
          rw [Dict.lookup_modify_self, Option.mem_def, Option.map_eq_some_iff] at hd
          obtain ⟨d₀, -, rfl⟩ := hd
          simp [OrderDetailLog.Own]

end

section

variable (h : s.orders.Own c)
include h

lemma own_unfreezeRemaining {accountId : Int} :
    (s.unfreezeRemaining id accountId flags).orders.Own c := by
  simp only [unfreezeRemaining]
  split
  · exact h
  · split_ifs <;> exact h

lemma own_report {gwId : ℕ} {l l' : LiveOrder} {d d' : OrderDetailLog} {os : OrderStoreV2}
    (hd : s.orders.detail.lookup id = some d) (spec : ReportSpec s id gwId r l d s' os l' d') :
    s'.orders.Own c := by
  have hos : os.Own c := by
    intro d₁ hd₁
    by_cases hid : c.orderId = id
    · obtain rfl : d₁ = d' := Option.mem_unique (hid ▸ hd₁) spec.detail
      exact (h d (hid ▸ hd)).congr spec.follows.requests.1 spec.follows.requests.2
    · rw [spec.same.detail _ hid] at hd₁
      exact h d₁ hd₁
  rw [spec.orders]
  split_ifs
  · exact hos.markClosed id
  · exact hos

lemma own_processOrderReport (hk : SameKeys s.orders)
    (hproc : s.processOrderReport r = some (s', actions)) : s'.orders.Own c := by
  cases processOrderReport_cases hk hproc with
  | ignored hnone hx hs => exact hs ▸ h
  | buffered _ _ _ hs =>
    rw [hs]
    exact h.of_detail rfl
  | applied gwId id l d os l' d' _ _ _ hd spec _ => exact own_report h hd spec
  | created gwId os l' d' _ _ spec _ =>
    refine own_report (Own.insert (fun _ => h) (fun _ => ?_) rfl)
      (addExternalOrder_detail s gwId r) spec
    cases hkind : c.kind <;> simp [OrderDetailLog.Own, hkind]

end

/-! ## Operations and messages -/

variable (hk : SameKeys s.orders)
include hk

/-- Only a place and a cancel put out a command. -/
lemma commands_eq_nil {op : Op} (hplace : ∀ now req, op ≠ .place now req)
    (hcancel : ∀ now req, op ≠ .cancel now req) (h : s.perform op = some (s', actions)) :
    commands actions = [] := by
  rw [commands, List.filterMap_eq_nil_iff]
  intro a ha
  cases actionOf_perform hk h a ha with
  | sendOrder now req => exact absurd rfl (hplace now req)
  | sendCancel now req => exact absurd rfl (hcancel now req)
  | persist _ _ _ => rfl
  | publish _ _ _ _ _ => rfl
  | state hnone =>
    cases a with
    | sendOrderToGw _ _ _ => cases hnone
    | sendCancelToGw _ _ => cases hnone
    | _ => rfl

/-- **The request of a command names its order** after every operation, if it did before or if the
operation puts out the command. -/
theorem own_perform {op : Op} (h : s.orders.Own c ∨ c ∈ commands actions)
    (hperf : s.perform op = some (s', actions)) : s'.orders.Own c := by
  have hold : (∀ now req, op ≠ .place now req) → (∀ now req, op ≠ .cancel now req) →
      s.orders.Own c := by
    intro hplace hcancel
    rw [commands_eq_nil hk hplace hcancel hperf] at h
    exact h.resolve_right (List.not_mem_nil)
  cases op with
  | place now req => exact own_processOrder h hperf
  | cancel now req => exact own_processCancel h hperf
  | report r => exact own_processOrderReport (hold (by simp) (by simp)) hk hperf
  | balanceUpdate now u =>
    have hown := hold (by simp) (by simp)
    obtain ⟨b, ps, rfl, -⟩ := processBalanceUpdate_rest hperf
    exact hown
  | panic accountId | dontPanic accountId =>
    have hown := hold (by simp) (by simp)
    cases hperf
    exact hown
  | sendFailed now id msg =>
    have hown := hold (by simp) (by simp)
    rcases onWorking_eq_some hperf with ⟨hperf, -⟩ | ⟨l, -, -, hperf⟩
    · cases hperf
      exact hown
    · obtain ⟨os, hos, hperf⟩ := bind_eq_some.mp hperf
      cases hperf
      refine own_unfreezeRemaining ?_
      exact Own.markClosed (own_error hown hos) id
  | cancelSendFailed =>
    have hown := hold (by simp) (by simp)
    rcases onWorking_eq_some hperf with ⟨hperf, -⟩ | ⟨l, -, -, hperf⟩
    · cases hperf
      exact hown
    · obtain ⟨os, hos, hperf⟩ := bind_eq_some.mp hperf
      cases hperf
      exact own_error hown hos
  | reload newConfig =>
    have hown := hold (by simp) (by simp)
    obtain ⟨s₁, hs₁, hperf⟩ := Option.map_eq_some_iff.mp hperf
    obtain ⟨md, rfl⟩ := reloadConfig_eq hs₁
    cases hperf
    exact hown

lemma sameKeys_message (hmsg : s.processMessage now msg = some (s', actions)) :
    SameKeys s'.orders := by
  have hrun : run handle s [.message now msg] = some s' := by
    simp [run_cons, handle, hmsg]
  exact sameKeys_run hk hrun

/-- The same for a message. -/
theorem own_message (h : s.orders.Own c ∨ c ∈ commands actions)
    (hmsg : s.processMessage now msg = some (s', actions)) : s'.orders.Own c := by
  rw [processMessage_eq] at hmsg
  have hg : Guarded step (fun _ _ => True) s (OmsEvent.message now msg).ops :=
    guarded_of_forall (fun _ _ => trivial) _ _
  have hstart : SameKeys s.orders ∧ (s.orders.Own c ∨ c ∈ commands [] → s.orders.Own c) :=
    ⟨hk, fun h => h.resolve_right List.not_mem_nil⟩
  refine (processBatch_invariant (I := fun t acts => SameKeys t.orders ∧
    (s.orders.Own c ∨ c ∈ commands acts → t.orders.Own c)) ?_ hstart hg hmsg).2 h
  rintro t acts op t' new ⟨hkt, hown⟩ - hop
  refine ⟨sameKeys_step hkt (step_of_perform hop), fun h => own_perform hkt ?_ hop⟩
  rw [commands, List.filterMap_append, List.mem_append, ← or_assoc] at h
  exact h.imp_left hown

end OmsCoreV2

end Zkbot
