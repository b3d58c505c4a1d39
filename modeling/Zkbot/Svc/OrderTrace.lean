import Zkbot.Oms.Panics
import Zkbot.Svc.Turns

/-!
# Every change of an order is traced

An order reaches the snapshot by `PersistOrder` actions only.  An operation is `Recorded` if each
change it makes to the record of an order comes with such an action and it interns no new name.

* `lastPersist` — what the last `PersistOrder` for an order in a list of actions says.
* `Recorded` — no request is refused, no report reaches an order without updating it, and no new
  source is named.
* `traced_perform` — a recorded operation asks for an order to be persisted, with the right word on
  whether it is closed, or leaves its record as it was.
-/

namespace Zkbot

open List Option LiveOrder ReportEffect

open OrderStoreV2 (SameBut Quiet)
open OmsService (Turn Dispatch)

/-! ## Reports that update their order -/

/-- An entry on which `original_order_updated` is raised. -/
def OrderReportEntry.updates (e : OrderReportEntry) (linkageOnly : Bool) : Bool :=
  match e.acted with
  | none => false
  | some (.orderIdLinkageReport _) => linkageOnly
  | some (.execReport r) => decide (omsExecType r.execType ≠ .unspecified)
  | some _ => true

/-- A report with such an entry. -/
def updatesOrder (live : LiveOrder) (report : OrderReport) : Bool :=
  (loopEntries live report).any (·.updates (linkageOnly live report))

lemma ReportEffect.entry_updated (qty : ℚ) (ts : Int) (lo : Bool) (v : ReportEffect)
    (e : OrderReportEntry) : (v.entry qty ts lo e).updated = (v.updated || e.updates lo) := by
  simp only [entry, OrderReportEntry.updates]
  cases e.acted with
  | none => simp
  | some r =>
    cases r with
    | orderIdLinkageReport linkage => cases lo <;> simp
    | execReport r => cases hx : omsExecType r.execType <;> simp [hx]
    | _ => simp

lemma reportEffect_updated (l : LiveOrder) (r : OrderReport) :
    (reportEffect l r).updated = updatesOrder l r := by
  rw [reportEffect, finish_updated, updatesOrder]
  suffices h : ∀ (es : List OrderReportEntry) (v : ReportEffect),
      (es.foldl (entry l.qty r.updateTimestamp (linkageOnly l r)) v).updated =
        (v.updated || es.any (·.updates (linkageOnly l r))) from
    (h _ _).trans (Bool.false_or _)
  intro es
  induction es with
  | nil => simp
  | cons e es ih =>
    intro v
    rw [foldl_cons, ih, entry_updated, any_cons, Bool.or_assoc]

/-! ## Pending writes -/

/-- Whether the last `PersistOrder` for an order says that it is closed. -/
def lastPersist (actions : List OmsActionV2) (id : Int) : Option Bool :=
  actions.reverse.findSome? fun a =>
    match a with
    | .persistOrder j _ setClosed => if j = id then some setClosed else none
    | _ => none

lemma lastPersist_append (as bs : List OmsActionV2) (id : Int) :
    lastPersist (as ++ bs) id = (lastPersist bs id).or (lastPersist as id) := by
  rw [lastPersist, reverse_append, findSome?_append]
  rfl

lemma lastPersist_cons (a : OmsActionV2) (as : List OmsActionV2) (id : Int) :
    lastPersist (a :: as) id = (lastPersist as id).or (lastPersist [a] id) :=
  lastPersist_append [a] as id

lemma lastPersist_cons_other {a : OmsActionV2}
    (ha : ∀ orderId setExpire setClosed, a ≠ .persistOrder orderId setExpire setClosed)
    (as : List OmsActionV2) (id : Int) : lastPersist (a :: as) id = lastPersist as id := by
  have hnone : lastPersist [a] id = none := by
    cases a with
    | persistOrder j e c => exact absurd rfl (ha j e c)
    | _ => rfl
  rw [lastPersist_cons, hnone, or_none]

namespace OmsCoreV2

variable {s s' : OmsCoreV2} {actions : List OmsActionV2} {id j : Int} {l m : LiveOrder}

/-- Actions that are not about an order do not persist it. -/
lemma lastPersist_eq_none (h : ∀ a ∈ actions, a.order ≠ some id) :
    lastPersist actions id = none := by
  rw [lastPersist, findSome?_eq_none_iff]
  intro a ha
  have hne := h a (mem_reverse.mp ha)
  cases a with
  | persistOrder j setExpire setClosed => exact if_neg fun hj => hne (congrArg some hj)
  | _ => rfl

/-! ## Operations that the snapshot can follow -/

/-- The name of the source that external orders of a gateway get. -/
def externalSource (r : OrderReport) : String :=
  let gwKey := r.exchange
  s!"External@{gwKey}"

/-- An operation that the snapshot can follow.  A request that is looked at is accepted, and its
source is known; a report that reaches an order updates it, and if it creates the order, the source
of external orders is known. -/
def Recorded (s : OmsCoreV2) : Op → Prop
  | .place _ req => s.admits req → s.refuses req = false ∧
      (req.sourceId = "" ∨ (s.metadata.strings.lookup req.sourceId).isSome = true)
  | .report r =>
    (∀ target ∈ s.reportTarget r, ∀ l ∈ s.orders.live.lookup target.2, updatesOrder l r = true) ∧
    ∀ gwId ∈ s.createsExternal r, updatesOrder (s.newExternal gwId r) r = true ∧
      (s.metadata.strings.lookup (externalSource r)).isSome = true
  | _ => True

instance (s : OmsCoreV2) : (op : Op) → Decidable (s.Recorded op)
  | .place .. | .report _ | .cancel .. | .balanceUpdate .. | .panic _ | .dontPanic _
  | .sendFailed .. | .cancelSendFailed .. | .reload _ => by dsimp only [Recorded]; infer_instance

lemma metadata_intern_known {md : MetadataTables} {name : String}
    (h : (md.strings.lookup name).isSome = true) : (md.intern name).1 = md := by
  obtain ⟨i, hi⟩ := isSome_iff_exists.mp h
  simp [MetadataTables.intern, InternTable.intern_of_lookup hi]

lemma metadata_perform {op : Op} (hk : SameKeys s.orders) (hmsg : op.isReload = false)
    (hok : s.Recorded op) (h : s.perform op = some (s', actions)) : s'.metadata = s.metadata := by
  cases (tables_step hk (step_of_perform h)).1 with
  | kept hmd => exact hmd
  | source hadm hmd =>
    rw [hmd, internSource]
    split_ifs with hempty
    · rfl
    · exact metadata_intern_known ((hok hadm).2.resolve_left hempty)
  | external hx hmd => exact hmd.trans (metadata_intern_known (hok.2 _ hx).2)
  | rebuilt => cases hmsg

/-! ## Every change comes with an action -/

/-- What a recorded operation leaves of an order: if it asks for the order to be persisted, the last
such action knows whether the order is closed; if it does not, the record is what it was. -/
def Traced (s : OmsCoreV2) (actions : List OmsActionV2) (id : Int) (l' : LiveOrder) : Prop :=
  match lastPersist actions id with
  | some setClosed => setClosed = l'.isInTerminalState
  | none => ∃ l, s.orders.live.lookup id = some l ∧ l'.core = l.core

/-- An order of which nothing is persisted has to be as it was. -/
lemma Traced.of_none {l' : LiveOrder} (hact : lastPersist actions id = none)
    (hl : s.orders.live.lookup id = some l) (hcore : l'.core = l.core) :
    s.Traced actions id l' := by
  simp only [Traced, hact]
  exact ⟨l, hl, hcore⟩

lemma Traced.of_some {l' : LiveOrder} {c : Bool} (hact : lastPersist actions id = some c)
    (hterm : c = l'.isInTerminalState) : s.Traced actions id l' := by
  simp only [Traced, hact]
  exact hterm

/-- A report that updates its order persists it. -/
lemma persist_of_report {gwId : ℕ} {r : OrderReport} {d d' : OrderDetailLog} {os : OrderStoreV2}
    {l' : LiveOrder} (spec : ReportSpec s id gwId r l d s' os l' d')
    (hput : ReportActions id l r actions) (hupd : updatesOrder l r = true)
    (hm : s'.orders.live.lookup id = some m) :
    lastPersist actions id = some m.isInTerminalState := by
  rw [← reportEffect_updated] at hupd
  rcases hput with ⟨hno, -⟩ | ⟨-, trade, fee, exec, inferred, rfl⟩
  · rw [hupd] at hno
    cases hno
  · obtain rfl := spec.live_self hm
    have hlast : lastPersist [.persistOrder id (closes l r) (closes l r)] id = some (closes l r) :=
      by simp [lastPersist]
    rw [lastPersist_append, hlast, some_or, closes, hupd, isInTerminalState, spec.follows.status,
      Bool.true_and]

/-- An operation that works on another order leaves this one alone. -/
lemma traced_other {op : Op} (hk : SameKeys s.orders) (h : s.perform op = some (s', actions))
    (hm : s'.orders.live.lookup j = some m) (hworks : s.worksOn op ≠ some j) :
    s.Traced actions j m := by
  have hnone : lastPersist actions j = none :=
    lastPersist_eq_none fun a ha hj => hworks ((actionOf_perform hk h a ha).order j hj)
  cases record_step hk (step_of_perform h) hm with
  | kept l hl hcore => exact .of_none hnone hl hcore
  | placed _ hj => exact absurd (congrArg some hj.symm) hworks
  | sendFailed => exact absurd rfl hworks
  | report ht => exact absurd (by simp [worksOn, ht]) hworks
  | external hx hj =>
    exact absurd (by simp [worksOn, reportTarget_of_createsExternal hx, hx, hj]) hworks

lemma traced_place {now : Int} {req : OrderRequest} (hok : s.admits req → s.refuses req = false)
    (h : s.processOrder now req = some (s', actions))
    (hm : s'.orders.live.lookup req.orderId = some m) : s.Traced actions req.orderId m := by
  cases processOrder_cases h with
  | dropped _ hs =>
    subst hs
    exact .of_none rfl hm rfl
  | rejected hadm hrefuse =>
    rw [hok hadm] at hrefuse
    cases hrefuse
  | accepted _ _ om sym gwReq hA =>
    rw [hA.records, OrderStoreV2.enter_live_self] at hm
    cases hm
    exact .of_some (c := false) (by simp [lastPersist]) rfl

/-- **Every change of an order comes with an action**, if the operation is recorded. -/
theorem traced_perform {op : Op} (hk : SameKeys s.orders) (hok : s.Recorded op)
    (h : s.perform op = some (s', actions)) (hm : s'.orders.live.lookup j = some m) :
    s.Traced actions j m := by
  by_cases hworks : s.worksOn op = some j
  swap
  · exact traced_other hk h hm hworks
  cases op with
  | place now req =>
    cases hworks
    exact traced_place (fun hadm => (hok hadm).1) h hm
  | cancel now req =>
    obtain ⟨l, hl, hcore⟩ := (processCancel_quiet h).1.1.live_some hm
    refine .of_none ?_ hl hcore
    rcases (processCancel_quiet h).2 with rfl | ⟨-, rfl | ⟨gwId, rfl⟩⟩
    all_goals rfl
  | report r =>
    cases processOrderReport_cases hk h with
    | ignored _ _ hs | buffered gwId _ _ hs =>
      subst hs
      exact .of_none rfl hm rfl
    | applied gwId id l _ _ _ _ ht _ hl _ spec hput =>
      obtain rfl : id = j := by simpa [worksOn, ht] using hworks
      exact .of_some (persist_of_report spec hput (hok.1 (gwId, id) ht l hl) hm) rfl
    | created gwId _ _ _ hnone hx spec hput =>
      obtain rfl : s.orders.idCounter = j := by simpa [worksOn, hnone, hx] using hworks
      exact .of_some (persist_of_report spec hput (hok.2 gwId hx).1 hm) rfl
  | sendFailed now id msg =>
    cases hworks
    cases processGatewaySendFailed_cases h with
    | ignored _ hs =>
      subst hs
      exact .of_none rfl hm rfl
    | rejected _ _ _ hfail =>
      obtain rfl := hfail.live_self hm
      exact .of_some (c := true) (by simp [lastPersist]) hfail.closed.symm
  | cancelSendFailed now id msg =>
    cases hworks
    obtain ⟨⟨hq, -⟩, hactions⟩ := processGatewayCancelSendFailed_quiet h
    obtain ⟨l₁, hl₁, hcore⟩ := hq.live_some hm
    rcases hactions with rfl | ⟨l, hl, hterm, rfl⟩
    · exact .of_none rfl hl₁ hcore
    · obtain rfl : l = l₁ := mem_unique hl hl₁
      refine .of_some (c := false) ?_ ?_
      · simp [lastPersist]
      · rw [isInTerminalState_of_core hcore, hterm]
  | balanceUpdate | panic | dontPanic | reload => cases hworks

end OmsCoreV2

end Zkbot
