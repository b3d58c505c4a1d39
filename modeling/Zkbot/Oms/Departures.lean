import Zkbot.Oms.Actions

/-!
# Orders that are gone before their actions are read

An operation names an order in its actions, and the service reads the order from the store
afterwards.  But closing an order can push one out of the queue of closed orders: the order itself
if the cache has no room at all or the queue holds it already, and in a batch also an order that an
earlier request of the same batch was refused for.

* `closing`, `evicts`, `enters` — the order that an operation closes, pushes out, and records; by
  `mem_live_step` they decide which orders are in the store afterwards, on their old terms
  (`order_kept`).
* `Naming` — what the actions of an operation name.
* `KeepsNamed` — the messages whose actions name only orders that are still there
  (`named_present_iff`).
-/

namespace Zkbot

open List Dict

open OrderStoreV2 (SameBut Quiet)

namespace OmsCoreV2

variable {s s' : OmsCoreV2} {op : Op} {id now : Int} {actions : List OmsActionV2}
  {req : OrderRequest} {r : OrderReport} {d : OrderDetailLog} {named : List Int}
  {reqs : List OrderRequest} {t : OmsCoreV2}

/-! ## Who leaves and who enters -/

def closing (s : OmsCoreV2) : Op → Option Int
  | .place _ req => if s.admits req ∧ s.refuses req = true then some req.orderId else none
  | .report r =>
    match s.reportTarget r with
    | some (_, id) => (s.orders.live.lookup id).bind fun l => if closes l r then some id else none
    | none =>
      (s.createsExternal r).bind fun gwId =>
        if closes (s.newExternal gwId r) r then some s.orders.idCounter else none
  | .sendFailed _ id _ =>
    (s.orders.live.lookup id).bind fun l => if l.isInTerminalState then none else some id
  | _ => none

def evicts (s : OmsCoreV2) (op : Op) : Option Int := (s.closing op).bind s.orders.evicted

def enters (s : OmsCoreV2) : Op → Option Int
  | .place _ req => if s.admits req then some req.orderId else none
  | .report r => (s.createsExternal r).map fun _ => s.orders.idCounter
  | _ => none

lemma closing_of_idle (h : s.Idle op) : s.closing op = none := by
  cases op with
  | place now req => exact if_neg fun hc => h hc.1
  | report r =>
    simp only [closing]
    split
    · rename_i gwId id ht
      rw [h.2 gwId id ht, Option.bind_none]
    · rw [h.1, Option.bind_none]
  | sendFailed now id msg =>
    cases hl : s.orders.live.lookup id with
    | none => simp [closing, hl]
    | some l => simp [closing, hl, h l hl]
  | _ => rfl

lemma enters_of_idle (h : s.Idle op) : s.enters op = none := by
  cases op with
  | place now req => exact if_neg h
  | report r => simp [enters, h.1]
  | _ => rfl

/-- What a report leaves in the store, `closed` being the order it closes. -/
lemma mem_live_reportSpec {gwId : ℕ} {l l' : LiveOrder} {d' : OrderDetailLog} {os : OrderStoreV2}
    (hid : id ∈ s.orders.live) (spec : ReportSpec s id gwId r l d s' os l' d') (j : Int) :
    j ∈ s'.orders.live ↔ j ∈ s.orders.live ∧
      (if closes l r then some id else none).bind s.orders.evicted ≠ some j := by
  have hos := spec.same.mem_live hid (mem_of_lookup spec.live) j
  have hev := spec.same.evicted id
  rw [spec.orders]
  cases hc : closes l r with
  | true => simp [mem_markClosed_live, hos, hev, and_comm]
  | false => simp [hos]

/-- **Which orders are in the store after an operation.** -/
theorem mem_live_step (hk : SameKeys s.orders) (h : s.step op = some s') (j : Int) :
    j ∈ s'.orders.live ↔ (j ∈ s.orders.live ∨ s.enters op = some j) ∧ s.evicts op ≠ some j := by
  cases step_cases hk h with
  | quiet hq _ _ hidle =>
    rw [mem_live_of_quiet hq, evicts, closing_of_idle hidle, enters_of_idle hidle]
    simp
  | @rejected now req _ hadm hrefuse l d _ _ horders =>
    have hclose : s.closing (.place now req) = some req.orderId := if_pos ⟨hadm, hrefuse⟩
    have henter : s.enters (.place now req) = some req.orderId := if_pos hadm
    rw [horders, mem_markClosed_live, evicts, hclose, henter, Option.bind_some,
      OrderStoreV2.enter, AList.mem_insert, Option.some.injEq]
    show s.orders.evicted req.orderId ≠ some j ∧ _ ↔ _
    tauto
  | @accepted now req _ hadm hrefuse om _ l d _ _ _ _ _ _ horders =>
    have hclose : s.closing (.place now req) = none := by
      refine if_neg fun hc => ?_
      rw [hc.2] at hrefuse
      cases hrefuse
    have henter : s.enters (.place now req) = some req.orderId := if_pos hadm
    rw [horders, evicts, hclose, henter, OrderStoreV2.enter, AList.mem_insert, Option.some.injEq]
    simp [or_comm, eq_comm]
  | @sendFailed now id msg _ l l' os hfail =>
    have hclose : s.closing (.sendFailed now id msg) = some id := by
      simp [closing, hfail.found, hfail.working]
    have hos := hfail.same.mem_live (mem_of_lookup hfail.found) (mem_of_lookup hfail.live) j
    rw [hfail.orders, mem_markClosed_live, hos, hfail.same.evicted, evicts, hclose]
    simp [enters, and_comm]
  | report r _ _ _ _ _ _ _ ht hl _ spec =>
    have hx : s.createsExternal r = none := by
      cases hx : s.createsExternal r with
      | none => rfl
      | some g => rw [reportTarget_of_createsExternal hx] at ht; cases ht
    rw [mem_live_reportSpec (mem_of_lookup hl) spec]
    simp [evicts, closing, enters, ht, hl, hx]
  | external r gwId _ _ _ hx spec =>
    have hadd : s.orders.idCounter ∈ (s.addExternalOrder gwId r).orders.live :=
      mem_of_lookup (addExternalOrder_live s gwId r)
    have hev : (s.addExternalOrder gwId r).orders.evicted = s.orders.evicted := rfl
    have hmem : j ∈ (s.addExternalOrder gwId r).orders.live ↔
        j ∈ s.orders.live ∨ s.orders.idCounter = j := by
      refine (AList.mem_insert _).trans ?_
      rw [or_comm, eq_comm]
    rw [mem_live_reportSpec hadd spec, hmem, hev]
    simp [evicts, closing, enters, reportTarget_of_createsExternal hx, hx]

/-- **An order stays in the store, on the terms it was placed on**, through every run that neither
pushes it out nor records its id again. -/
theorem order_kept {u : OmsSetup} {before evs : List OmsEvent} {l : LiveOrder}
    (hs : run handle u.start before = some s) (hl : s.orders.live.lookup id = some l)
    (hg : Guarded step (fun s op => s.evicts op ≠ some id ∧ s.enters op ≠ some id) s
      (evs.flatMap OmsEvent.ops))
    (h : run handle s evs = some t) :
    ∃ m, t.orders.live.lookup id = some m ∧ m.terms = l.terms := by
  refine (events_invariant (I := fun t => SameKeys t.orders ∧
    ∃ m, t.orders.live.lookup id = some m ∧ m.terms = l.terms) ?_
    ⟨sameKeys_run (sameKeys_start u) hs, l, hl, rfl⟩ hg h).2
  rintro s op s' ⟨hk, m, hm, hterms⟩ ⟨hev, hent⟩ hop
  obtain ⟨m', hm'⟩ := mem_iff_lookup.mp
    ((mem_live_step hk hop id).mpr ⟨.inl (mem_of_lookup hm), hev⟩)
  have hsame : ∀ {l'}, s.orders.live.lookup id = some l' → m'.terms = l'.terms →
      m'.terms = l.terms := fun hl' h' => by
    cases hl'.symm.trans hm
    exact h'.trans hterms
  refine ⟨sameKeys_step hk hop, m', hm', ?_⟩
  cases record_step hk hop hm' with
  | kept l' hl' hcore => exact hsame hl' (LiveOrder.terms_of_core hcore)
  | placed hadm hj => exact absurd (by simp [enters, hadm, hj]) hent
  | sendFailed l' hl' _ hterms' => exact hsame hl' hterms'
  | report _ hl' spec => exact hsame hl' spec.follows.terms
  | external hx hj => exact absurd (by simp [enters, hx, hj]) hent

open Sample in
/-- An order that is filled. -/
theorem order_kept_filled :
    ∃ s ∈ run handle (setup false false 4).start [place 10 .buy 2],
      ∃ l ∈ s.orders.live.lookup 10, ∃ t ∈ run handle s [report 10 [trade 2]],
        ∃ m, t.orders.live.lookup 10 = some m ∧ m.terms = l.terms := by
  refine exists_mem_imp (P := fun s => (s.orders.live.lookup 10).isSome ∧
    (run handle s [report 10 [trade 2]]).isSome ∧
      Guarded step (fun s op => s.evicts op ≠ some 10 ∧ s.enters op ≠ some 10) s
        ([report 10 [trade 2]].flatMap OmsEvent.ops)) (by decide +kernel) ?_
  rintro s hs ⟨hl, ht, hg⟩
  exact ⟨_, Option.get_mem hl, _, Option.get_mem ht,
    order_kept hs (Option.some_get hl).symm hg (Option.some_get ht).symm⟩

/-! ## What the actions name -/

def Names (actions : List OmsActionV2) (id : Int) : Prop := ∃ a ∈ actions, a.order = some id

lemma names_append {as bs : List OmsActionV2} :
    Names (as ++ bs) id ↔ Names as id ∨ Names bs id := by
  simp [Names, or_and_right, exists_or]

/-- The actions of an operation name no order, and then it closes none; or they name one that is in
the store or has just been recorded, and no other order is closed. -/
inductive Naming (s : OmsCoreV2) (op : Op) (actions : List OmsActionV2) : Prop where
  | nothing (hnames : ∀ id, ¬ Names actions id) (hclose : s.closing op = none)
  | order (id : Int) (hnames : ∀ j, Names actions j ↔ j = id)
      (hat : id ∈ s.orders.live ∨ s.enters op = some id) (hclose : ∀ j ∈ s.closing op, j = id)

lemma Naming.of_forall (h : ∀ a ∈ actions, a.order = none) (hclose : s.closing op = none) :
    Naming s op actions := by
  refine .nothing ?_ hclose
  rintro id ⟨a, ha, hid⟩
  rw [h a ha] at hid
  cases hid

/-- The naming case from one action that names the order, when no action names another. -/
lemma Naming.of_mem {a : OmsActionV2} (ha : a ∈ actions) (hid : a.order = some id)
    (hothers : ∀ b ∈ actions, ∀ j ∈ b.order, j = id)
    (hat : id ∈ s.orders.live ∨ s.enters op = some id) (hclose : ∀ j ∈ s.closing op, j = id) :
    Naming s op actions := by
  refine .order id (fun j => ⟨?_, ?_⟩) hat hclose
  · rintro ⟨b, hb, hj⟩
    exact hothers b hb j hj
  · rintro rfl
    exact ⟨a, ha, hid⟩

lemma naming_report {l : LiveOrder} (hput : ReportActions id l r actions)
    (hworks : s.worksOn (.report r) = some id)
    (hat : id ∈ s.orders.live ∨ s.enters (.report r) = some id)
    (hclose : s.closing (.report r) = if closes l r then some id else none) :
    Naming s (.report r) actions := by
  have hof := actionOf_report hput hworks
  rcases hput with ⟨hupd, rfl⟩ | ⟨-, trade, fee, exec, inf, rfl⟩
  · refine .of_forall (fun a ha => by cases ha) ?_
    rw [hclose, closes, hupd, Bool.false_and]
    rfl
  · refine .of_mem (mem_cons_self ..) rfl (fun b hb j hj => ?_) hat (fun j hj => ?_)
    · exact Option.some.inj (((hof b hb).order j hj).symm.trans hworks)
    · rw [hclose] at hj
      split_ifs at hj
      · exact (Option.some.inj hj).symm
      · cases hj

lemma processCancel_named {req : OrderCancelRequest}
    (h : s.processCancel now req = some (s', actions)) :
    actions = [] ∨ req.orderId ∈ s.orders.live ∧ ∃ a ∈ actions, a.order = some req.orderId := by
  rcases (processCancel_quiet h).2 with rfl | ⟨hlive, rfl | ⟨gwId, rfl⟩⟩
  · exact .inl rfl
  · exact .inr ⟨hlive, _, mem_singleton_self _, rfl⟩
  · exact .inr ⟨hlive, _, mem_singleton_self _, rfl⟩

/-- **What the actions of an operation name.** -/
theorem naming_perform (hk : SameKeys s.orders) (h : s.perform op = some (s', actions)) :
    Naming s op actions := by
  have hof := actionOf_perform hk h
  have hothers : ∀ {id : Int}, s.worksOn op = some id → ∀ b ∈ actions, ∀ j ∈ b.order, j = id := by
    intro id hworks b hb j hj
    exact Option.some.inj (((hof b hb).order j hj).symm.trans hworks)
  cases op with
  | place now req =>
    have hclose : ∀ j ∈ s.closing (.place now req), j = req.orderId := by
      intro j hj
      simp only [closing] at hj
      split_ifs at hj
      · exact (Option.some.inj hj).symm
      · cases hj
    cases processOrder_cases h with
    | dropped hadm => exact .of_forall (fun a ha => by cases ha) (if_neg fun hc => hadm hc.1)
    | rejected hadm hrefuse | accepted hadm =>
      exact .of_mem (mem_cons_self ..) rfl (hothers rfl) (.inr (if_pos hadm)) hclose
  | cancel now req =>
    rcases processCancel_named h with rfl | ⟨hlive, a, ha, hid⟩
    · exact .of_forall (fun a ha => by cases ha) rfl
    · exact .of_mem ha hid (hothers rfl) (.inl hlive) (fun j hj => by cases hj)
  | report r =>
    cases processOrderReport_cases hk h with
    | ignored hnone hx hs =>
      exact .of_forall (fun a ha => by cases ha) (closing_of_idle ⟨hx, hnone⟩)
    | buffered gwId hnone hx hs =>
      refine .of_forall (fun a ha => by cases ha) (closing_of_idle ⟨hx, fun _ _ ht => ?_⟩)
      rw [hnone] at ht
      cases ht
    | applied _ _ _ _ _ _ _ ht _ hl _ _ hput =>
      exact naming_report hput (by simp [worksOn, ht]) (.inl (mem_of_lookup hl))
        (by simp [closing, ht, hl])
    | created _ _ _ _ hnone hx _ hput =>
      exact naming_report hput (by simp [worksOn, hnone, hx]) (.inr (by simp [enters, hx]))
        (by simp [closing, hnone, hx])
  | sendFailed now id msg =>
    cases processGatewaySendFailed_cases h with
    | ignored hidle => exact .of_forall (fun a ha => by cases ha) (closing_of_idle hidle)
    | rejected l _ _ hfail =>
      refine .of_mem (mem_cons_self ..) rfl (hothers rfl) (.inl (mem_of_lookup hfail.found)) ?_
      intro j hj
      have hclose : s.closing (.sendFailed now id msg) = some id := by
        simp [closing, hfail.found, hfail.working]
      exact (Option.mem_unique hclose hj).symm
  | cancelSendFailed =>
    rcases (processGatewayCancelSendFailed_quiet h).2 with rfl | ⟨l, hl, -, rfl⟩
    · exact .of_forall (fun a ha => by cases ha) rfl
    · exact .of_mem (mem_cons_self ..) rfl (hothers rfl) (.inl (mem_of_lookup hl))
        (fun j hj => by cases hj)
  | balanceUpdate | panic | dontPanic | reload =>
    refine .of_forall (fun a ha => ?_) rfl
    cases horder : a.order with
    | none => rfl
    | some id =>
      have hworks := (hof a ha).order id horder
      cases hworks

/-! ## Messages that keep what they name -/

/-- The operation does not push out the order it closes. -/
def KeepsClosed (s : OmsCoreV2) (op : Op) : Prop :=
  ∀ id ∈ s.closing op, s.orders.evicted id ≠ some id
deriving Decidable

/-- The requests record an order under this id. -/
def Places (s : OmsCoreV2) (reqs : List OrderRequest) (id : Int) : Prop :=
  ∃ req ∈ reqs, s.admits req ∧ req.orderId = id
deriving Decidable

/-- The orders named after one more request. -/
def namedBy (s : OmsCoreV2) (named : List Int) (req : OrderRequest) : List Int :=
  if s.admits req then req.orderId :: named else named

/-- A batch of placements in which no request pushes out an order that the batch has named so far,
unless a later request records it again. -/
def StaysPlaced (now : Int) (s : OmsCoreV2) (named : List Int) : List OrderRequest → Prop
  | [] => True
  | req :: reqs =>
    (∀ e ∈ s.evicts (.place now req), e ∈ s.namedBy named req → s.Places reqs e) ∧
      ∀ s' ∈ s.step (.place now req), StaysPlaced now s' (s.namedBy named req) reqs

instance decidableStaysPlaced (now : Int) (s : OmsCoreV2) (named : List Int) :
    (reqs : List OrderRequest) → Decidable (StaysPlaced now s named reqs)
  | [] => .isTrue trivial
  | req :: reqs =>
    have : ∀ s' named', Decidable (StaysPlaced now s' named' reqs) :=
      fun s' named' => decidableStaysPlaced now s' named' reqs
    inferInstanceAs (Decidable (_ ∧ ∀ s' ∈ s.step (.place now req), _))

/-- The messages whose actions name only orders that are still there. -/
def KeepsNamed (s : OmsCoreV2) (now : Int) : OmsMessage → Prop
  | .batchPlaceOrders reqs => StaysPlaced now s [] reqs
  | msg => ∀ op ∈ (OmsEvent.message now msg).ops, s.KeepsClosed op

instance (s : OmsCoreV2) (now : Int) (msg : OmsMessage) : Decidable (s.KeepsNamed now msg) := by
  cases msg <;> dsimp only [KeepsNamed] <;> infer_instance

/-- One operation: what it names is there afterwards if it does not push out what it closes. -/
lemma names_live_iff (hk : SameKeys s.orders) (h : s.perform op = some (s', actions)) :
    (∀ id, Names actions id → id ∈ s'.orders.live) ↔ s.KeepsClosed op := by
  have hmem := mem_live_step hk (step_of_perform h)
  cases naming_perform hk h with
  | nothing hnames hclose =>
    refine iff_of_true (fun id hid => absurd hid (hnames id)) ?_
    intro id hid
    rw [hclose] at hid
    cases hid
  | order id hnames hat hclose =>
    have hone : (∀ j, Names actions j → j ∈ s'.orders.live) ↔ s.evicts op ≠ some id := by
      have hid : id ∈ s'.orders.live ↔ s.evicts op ≠ some id :=
        (hmem id).trans (and_iff_right hat)
      rw [← hid]
      constructor
      · intro hall
        exact hall id ((hnames id).mpr rfl)
      · intro hlive j hj
        rw [(hnames j).mp hj]
        exact hlive
    rw [hone, evicts]
    cases hc : s.closing op with
    | none => simp [KeepsClosed, hc]
    | some j =>
      obtain rfl := hclose j hc
      simp [KeepsClosed, hc]

lemma panicAccounts_place (h : s.step (.place now req) = some s') :
    s'.panicAccounts = s.panicAccounts := by
  obtain ⟨actions, hop⟩ := exists_actions h
  cases processOrder_cases hop with
  | dropped hadm hs => rw [hs]
  | rejected _ _ _ h | accepted _ _ _ _ _ h => rw [h.state]

/-- Placing an order leaves the panicking accounts alone, so it changes no later admission. -/
lemma places_of_place (h : s.step (.place now req) = some s') (reqs : List OrderRequest)
    (id : Int) : s'.Places reqs id ↔ s.Places reqs id := by
  simp [Places, admits, panicAccounts_place h]

lemma mem_namedBy : id ∈ s.namedBy named req ↔ id ∈ named ∨ s.admits req ∧ req.orderId = id := by
  rw [namedBy]
  split_ifs with hadm
  · rw [mem_cons, or_comm]
    simp [hadm, eq_comm]
  · simp [hadm]

lemma places_cons :
    s.Places (req :: reqs) id ↔ (s.admits req ∧ req.orderId = id) ∨ s.Places reqs id := by
  simp [Places]

lemma names_place (h : s.processOrder now req = some (s', actions)) (id : Int) :
    Names actions id ↔ s.admits req ∧ req.orderId = id := by
  cases processOrder_cases h with
  | dropped hadm => simp [Names, hadm]
  | rejected hadm hrefuse | accepted hadm => simp [Names, OmsActionV2.order, hadm]

lemma enters_place : s.enters (.place now req) = some id ↔ s.admits req ∧ req.orderId = id := by
  simp only [enters]
  split_ifs with hadm
  · simp [hadm]
  · simp [hadm]

/-- One step of a batch, after which what is `named'` is good or comes in again later: what was
named before is good or comes in again, and nothing is spoilt that does not. -/
lemma kept_iff {κ : Type} (enters : κ → Prop) {named named' : List κ}
    {good good' later later' spoils : κ → Prop}
    (hgood : ∀ k, good' k ↔ (good k ∨ enters k) ∧ ¬ spoils k)
    (hlater : ∀ k, later k ↔ enters k ∨ later' k) (hnamed : ∀ k ∈ named, k ∈ named')
    (hnew : ∀ k ∈ named', k ∈ named ∨ enters k) :
    (∀ k ∈ named', good' k ∨ later' k) ↔
      (∀ k ∈ named, good k ∨ later k) ∧ ∀ k ∈ named', spoils k → later' k := by
  simp only [hgood, hlater]
  constructor
  · intro hall
    refine ⟨fun k hk => ?_, fun k hk hspoilt => ?_⟩
    · rcases hall k (hnamed k hk) with ⟨hgood | henter, -⟩ | hlater
      · exact .inl hgood
      · exact .inr (.inl henter)
      · exact .inr (.inr hlater)
    · exact (hall k hk).resolve_left fun hc => hc.2 hspoilt
  · rintro ⟨hbefore, hspoilt⟩ k hk
    by_cases hs : spoils k
    · exact .inr (hspoilt k hk hs)
    · rcases hnew k hk with hold | henter
      · rcases hbefore k hold with hgood | henter | hlater
        · exact .inl ⟨.inl hgood, hs⟩
        · exact .inl ⟨.inr henter, hs⟩
        · exact .inr hlater
      · exact .inl ⟨.inr henter, hs⟩

variable (hk : SameKeys s.orders)
include hk

/-- One request of a batch: the orders named so far are kept, or will be recorded again. -/
lemma kept_place (h : s.step (.place now req) = some s') (named : List Int)
    (reqs : List OrderRequest) :
    (∀ id ∈ s.namedBy named req, id ∈ s'.orders.live ∨ s'.Places reqs id) ↔
      (∀ id ∈ named, id ∈ s.orders.live ∨ s.Places (req :: reqs) id) ∧
        ∀ e ∈ s.evicts (.place now req), e ∈ s.namedBy named req → s.Places reqs e := by
  have hswap : (∀ e ∈ s.evicts (.place now req), e ∈ s.namedBy named req → s.Places reqs e) ↔
      ∀ e ∈ s.namedBy named req, s.evicts (.place now req) = some e → s.Places reqs e :=
    ⟨fun hall e he hev => hall e hev he, fun hall e hev he => hall e he hev⟩
  simp only [places_of_place h, hswap]
  refine kept_iff (fun id => s.admits req ∧ req.orderId = id) (fun id => ?_)
    (fun id => places_cons) (fun id hid => mem_namedBy.mpr (.inl hid)) fun id => mem_namedBy.mp
  rw [mem_live_step hk h, enters_place]

/-- **A batch of placements**, after orders `named` have been named before: all that has been named
is there at the end if no request pushes out one that is not recorded again. -/
theorem names_live_batch (h : processBatch perform s (reqs.map (.place now)) = some (t, actions)) :
    (∀ id, id ∈ named ∨ Names actions id → id ∈ t.orders.live) ↔
      (∀ id ∈ named, id ∈ s.orders.live ∨ s.Places reqs id) ∧ StaysPlaced now s named reqs := by
  induction reqs generalizing s actions named with
  | nil =>
    cases h
    simp [Names, Places, StaysPlaced]
  | cons req reqs ih =>
    obtain ⟨s₁, new, rest, hop, hrest, rfl⟩ := processBatch_cons_eq_some h
    have hstep : s.step (.place now req) = some s₁ := step_of_perform hop
    have hnamed : ∀ id, (id ∈ named ∨ Names (new ++ rest) id) ↔
        (id ∈ s.namedBy named req ∨ Names rest id) := by
      intro id
      rw [names_append, names_place hop, mem_namedBy, or_assoc]
    have htail : (∀ s' ∈ s.step (.place now req),
        StaysPlaced now s' (s.namedBy named req) reqs) ↔
        StaysPlaced now s₁ (s.namedBy named req) reqs := by
      rw [hstep]
      simp
    simp only [hnamed, ih (sameKeys_step hk hstep) hrest, kept_place hk hstep, StaysPlaced,
      htail, and_assoc]

/-- A batch of cancels closes nothing, so what it names stays. -/
lemma names_live_cancels {reqs : List OrderCancelRequest}
    (h : processBatch perform s (reqs.map (.cancel now)) = some (t, actions)) :
    ∀ id, Names actions id → id ∈ t.orders.live := by
  have hg : Guarded step (fun _ op => ∃ req, op = .cancel now req) s (reqs.map (.cancel now)) := by
    refine guarded_of_mem fun op hop => ?_
    obtain ⟨req, -, rfl⟩ := mem_map.mp hop
    exact ⟨req, rfl⟩
  have h0 : SameKeys s.orders ∧ ∀ id, Names [] id → id ∈ s.orders.live := ⟨hk, by simp [Names]⟩
  refine (processBatch_invariant
    (I := fun s acts => SameKeys s.orders ∧ ∀ id, Names acts id → id ∈ s.orders.live)
    ?_ h0 hg h).2
  rintro s acts op s' new ⟨hk, hacts⟩ ⟨req, rfl⟩ hop
  have hstep := step_of_perform hop
  refine ⟨sameKeys_step hk hstep, fun id hid => ?_⟩
  rcases names_append.mp hid with hold | hnew
  · exact (mem_live_step hk hstep id).mpr ⟨.inl (hacts id hold), by simp [evicts, closing]⟩
  · exact (names_live_iff hk hop).mpr (fun j hj => by cases hj) id hnew

/-- **The orders that a message names are in the store afterwards** exactly if the message keeps
them. -/
theorem named_present_iff {msg : OmsMessage} (h : s.processMessage now msg = some (t, actions)) :
    (∀ id, Names actions id → id ∈ t.orders.live) ↔ s.KeepsNamed now msg := by
  rw [processMessage_eq] at h
  cases msg with
  | batchPlaceOrders reqs =>
    have hbatch : (∀ id, id ∈ [] ∨ Names actions id → id ∈ t.orders.live) ↔
        (∀ id ∈ [], id ∈ s.orders.live ∨ s.Places reqs id) ∧ StaysPlaced now s [] reqs :=
      names_live_batch hk h
    simpa [KeepsNamed] using hbatch
  | batchCancelOrders reqs =>
    refine iff_of_true (names_live_cancels hk h) ?_
    intro op hop
    obtain ⟨req, -, rfl⟩ := mem_map.mp hop
    exact fun id hid => by cases hid
  | recheckOrder | recheckCancel | cleanup _ | reloadConfig | positionRecheck =>
    cases h
    simp [Names, KeepsNamed, OmsEvent.ops]
  | _ =>
    simp only [OmsEvent.ops, processBatch_singleton] at h
    simpa [KeepsNamed, OmsEvent.ops] using names_live_iff hk h

end OmsCoreV2

end Zkbot
