import Zkbot.Oms.Eviction
import Zkbot.Oms.Inference
import Zkbot.Oms.Overtaking
import Zkbot.Svc.Redis

/-!
# Orders across a restart

An order is persisted by `build_persisted_order` and `PersistedOrder::from_oms_order`, and a restart
enters it again through `into_oms_order` and `convert_v1_order`.  Three things are lost on the way:
the quantity of the trades so far, from which a state is inferred when a report has trades only; the
accounting flags, without which no fill moves a position; and every exchange reference but the last.
An order with id zero is not entered at all.

* `outcomeOf` — what a report does to an order: status, cumulative fill and position deltas.
  `SameFrom` says that a list of reports does the same in two cores.
* `SurvivesFrom` — the reports that do: the order can be found, no position is moved, and what is
  inferred from trades is the same without the lost ones.
* `Twin` — how the core that goes on and the one that was restarted compare as long as this holds.
* `restart_same_iff` — for reports that agree with each other, `SurvivesFrom` is exact.
-/

namespace Zkbot

open List Option AList Dict LiveOrder MetadataTables PersistedOrder InternTable OrderStoreV2 Sample

/-! ## References after a restart -/

/-- The order a reference stands for on a gateway. -/
def RefView.finds (v : RefView) (gwId : ℕ) (ref : String) : Option Int :=
  (v.strings.lookup ref).bind fun i => v.index.lookup (gwId, i)

/-- Every reference of the index has been interned. -/
def RefView.Interned (v : RefView) : Prop :=
  ∀ key j, v.index.lookup key = some j → ∃ ref, v.strings.lookup ref = some key.2

section RefView

variable {v : RefView} {id : Int} {known : List (ℕ × String)}

lemma RefView.Interned.link (h : v.Interned) (id : Int) (gwId : ℕ) (ref : String) :
    (v.link id gwId ref).Interned := by
  intro key j hj
  simp only [RefView.link, Dict.lookup_insert_if] at hj ⊢
  split_ifs at hj with hkey
  · rw [hkey]
    exact ⟨ref, lookup_intern_self v.strings ref⟩
  · obtain ⟨ref', href'⟩ := h key j hj
    exact ⟨ref', lookup_intern_of_lookup href' ref⟩

/-- Linking makes the reference stand for the order, and leaves all others alone. -/
lemma RefView.finds_link (h : v.Interned) (id : Int) (gwId : ℕ) (ref : String) (g : ℕ)
    (ρ : String) :
    (v.link id gwId ref).finds g ρ = if g = gwId ∧ ρ = ref then some id else v.finds g ρ := by
  simp only [RefView.finds, RefView.link]
  by_cases hρ : ρ = ref
  · subst hρ
    rw [lookup_intern_self, bind_some, Dict.lookup_insert_if]
    by_cases hg : g = gwId
    · simp [hg]
    · have hne : (g, (v.strings.intern ρ).2) ≠ (gwId, (v.strings.intern ρ).2) := by
        intro heq
        exact hg (congrArg Prod.fst heq)
      rw [if_neg hne, if_neg fun hc => hg hc.1]
      -- the index of another gateway has the reference only if it was interned before
      cases hlook : v.strings.lookup ρ with
      | some i => rw [intern_of_lookup hlook, bind_some]
      | none =>
        cases hidx : v.index.lookup (g, (v.strings.intern ρ).2) with
        | none => rfl
        | some j =>
          obtain ⟨ρ', hρ'⟩ := h _ j hidx
          have hinj := lookup_inj (lookup_intern_of_lookup hρ' ρ)
            (lookup_intern_self v.strings ρ)
          rw [hinj, hlook] at hρ'
          cases hρ'
  · rw [if_neg fun hc => hρ hc.2, lookup_intern_ne v.strings hρ]
    cases hlook : v.strings.lookup ρ with
    | none => rfl
    | some i =>
      rw [bind_some, bind_some, Dict.lookup_insert_if, if_neg]
      intro heq
      obtain ⟨-, rfl⟩ := Prod.mk.inj heq
      exact hρ (lookup_inj (lookup_intern_of_lookup hlook ref) (lookup_intern_self v.strings ref))

/-- The references stand for order `id` exactly if they are among `known`. -/
structure RefView.Knows (id : Int) (known : List (ℕ × String)) (v : RefView) : Prop where
  interned : v.Interned
  finds : ∀ gwId ref, v.finds gwId ref = if (gwId, ref) ∈ known then some id else none
  string : v.string.isSome = true

lemma RefView.Knows.link (h : v.Knows id known) (gwId : ℕ) (ref : String) :
    (v.link id gwId ref).Knows id (known ++ [(gwId, ref)]) := by
  refine ⟨h.interned.link id gwId ref, fun g ρ => ?_, ?_⟩
  · rw [RefView.finds_link h.interned, h.finds]
    by_cases hnew : g = gwId ∧ ρ = ref
    · rw [if_pos hnew, if_pos]
      rw [hnew.1, hnew.2]
      exact mem_append_right _ mem_cons_self
    · rw [if_neg hnew]
      simp [hnew]
  · rw [RefView.string_link]
    rfl

lemma RefView.Knows.links (h : v.Knows id known) (gwId : ℕ) (refs : List String) :
    (refs.foldl (RefView.link id gwId) v).Knows id (known ++ refs.map (gwId, ·)) := by
  induction refs generalizing v known with
  | nil =>
    rw [map_nil, append_nil]
    exact h
  | cons ref refs ih =>
    have hnext := ih (h.link gwId ref)
    rw [append_assoc] at hnext
    exact hnext

end RefView

namespace OmsCoreV2

/-! ## What reports do to an order -/

/-- The status, the cumulative fill and the position deltas of order `id` after a report; nothing if
the report is not for it. -/
def outcomeOf (s : OmsCoreV2) (id : Int) (r : OrderReport) :
    Option (OrderStatus × ℚ × List PositionDeltaV2) :=
  (s.reportTarget r).bind fun x =>
    if x.2 = id then (s.fillLoop id x.1 r).map fun p => (p.1.orderStatus, p.1.filledQty, p.2)
    else none

/-- One report after another does the same to order `id` in both cores. -/
def SameFrom (id : Int) : OmsCoreV2 → OmsCoreV2 → List OrderReport → Prop
  | _, _, [] => True
  | s, t, r :: rs =>
    t.outcomeOf id r = s.outcomeOf id r ∧
      ∀ s' ∈ s.reportStep r, ∃ t' ∈ t.reportStep r, SameFrom id s' t' rs

/-- The references a report links on its gateway, which is looked up in the tables `md`. -/
def linksOf (md : MetadataTables) (r : OrderReport) : List (ℕ × String) :=
  (md.gwIdOfKey r.exchange).elim [] fun gwId => r.linkedRefs.map (gwId, ·)

/-- A report that names order `id`, or a reference that is `known`, on gateway `gwId`. -/
def Addresses (id : Int) (known : List (ℕ × String)) (gwId : ℕ) (r : OrderReport) : Prop :=
  r.orderId = id ∨ (gwId, r.exchOrderRef) ∈ known
deriving Decidable

/-- The report does the same to an order that is known by `known`, in the tables `md`, and has lost
trades of `lost`. -/
def Survives (md : MetadataTables) (id : Int) (lost : ℚ) (known : List (ℕ × String))
    (s : OmsCoreV2) (r : OrderReport) : Prop :=
  id ≠ 0 ∧ (∀ gwId ∈ md.gwIdOfKey r.exchange, Addresses id known gwId r) ∧
    ∀ l ∈ s.orders.live.lookup id, MovesNothing l r ∧ InfersAlike lost l r
deriving Decidable

/-- So do all of them, each in the state in which it comes. -/
def SurvivesFrom (md : MetadataTables) (id : Int) (lost : ℚ) :
    List (ℕ × String) → OmsCoreV2 → List OrderReport → Prop
  | _, _, [] => True
  | known, s, r :: rs =>
    Survives md id lost known s r ∧
      ∀ s' ∈ s.reportStep r, SurvivesFrom md id lost (known ++ linksOf md r) s' rs

instance SurvivesFrom.decidable (md : MetadataTables) (id : Int) (lost : ℚ) :
    (known : List (ℕ × String)) → (s : OmsCoreV2) → (rs : List OrderReport) →
      Decidable (SurvivesFrom md id lost known s rs)
  | _, _, [] => .isTrue trivial
  | _, s, r :: rs =>
    have : ∀ known' s', Decidable (SurvivesFrom md id lost known' s' rs) :=
      fun known' s' => SurvivesFrom.decidable md id lost known' s' rs
    inferInstanceAs (Decidable (_ ∧ ∀ s' ∈ s.reportStep r, _))

/-- The outcome of a report that goes through is its effect. -/
lemma outcomeOf_of_target {s : OmsCoreV2} {id : Int} {gwId : ℕ} {r : OrderReport} {l : LiveOrder}
    {d : OrderDetailLog} (htarget : s.reportTarget r = some (gwId, id))
    (hl : s.orders.live.lookup id = some l) (hd : s.orders.detail.lookup id = some d)
    (hloop : ∃ x, s.reportLoop id gwId r l = some x) :
    s.outcomeOf id r = some ((reportEffect l r).status, (reportEffect l r).filledQty,
      fillDeltas l (reportEffect l r).fills) := by
  obtain ⟨⟨os, fl⟩, hloop⟩ := hloop
  obtain ⟨live, hlive, -, hfilled, hstatus⟩ := fillLoop_eq hl hd hloop
  simp [outcomeOf, htarget, hlive, hfilled, hstatus]

/-! ## Two cores in step -/

/-- `s` goes on with order `id`, and `t` has started again with nothing but a record `m` of it. -/
structure Twin (md : MetadataTables) (id : Int) (lost : ℚ) (known : List (ℕ × String))
    (s t : OmsCoreV2) (l m : LiveOrder) : Prop where
  nonzero : id ≠ 0
  keys : SameKeys s.orders
  keys' : SameKeys t.orders
  gateways : ∀ key, t.metadata.gwIdOfKey key = md.gwIdOfKey key
  /-- the ids may be others, but the keys are the same -/
  gateways' : ∀ key, (md.gwIdOfKey key).isSome = (s.metadata.gwIdOfKey key).isSome
  codes : ∀ i, (instrumentCode t.metadata i).isSome = true
  live : s.orders.live.lookup id = some l
  live' : t.orders.live.lookup id = some m
  restored : Restored lost l m
  alone : ∀ j ∈ t.orders.live, j = id
  refs : (t.orders.refView m).Knows id known
  externals : ∀ key, t.orders.externalOrderIds.lookup key = none
  /-- `t` forgets the order no earlier than `s` -/
  fits : s.orders.QueueFits t.orders.maxCachedOrders
  queue : t.orders.closedLru <:+ s.orders.closedLru
  closed : ∀ j ∈ t.orders.closedLru, j = id

section Twin

variable {md : MetadataTables} {s s' t : OmsCoreV2} {id : Int} {lost delivered : ℚ}
  {known : List (ℕ × String)} {gwId gwId' : ℕ} {r : OrderReport} {l m : LiveOrder}

section

variable (h : Twin md id lost known s t l m)
include h

lemma Twin.reportTarget (hgw : md.gwIdOfKey r.exchange = some gwId) :
    t.reportTarget r = if Addresses id known gwId r then some (gwId, id) else none := by
  have hmem : r.orderId ≠ 0 ∧ r.orderId ∈ t.orders.live ↔ r.orderId = id := by
    constructor
    · rintro ⟨-, hlive⟩
      exact h.alone _ hlive
    · intro heq
      rw [heq]
      exact ⟨h.nonzero, mem_of_lookup h.live'⟩
  have hresolve : t.orders.resolveOrderId r.orderId gwId r.exchOrderRef =
      if Addresses id known gwId r then some id else none := by
    have hfinds := h.refs.finds gwId r.exchOrderRef
    simp only [resolveOrderId, hmem]
    by_cases hid : r.orderId = id
    · have haddr : Addresses id known gwId r := .inl hid
      rw [if_pos hid, if_pos haddr, hid]
    · have haddr : Addresses id known gwId r ↔ (gwId, r.exchOrderRef) ∈ known := or_iff_right hid
      simp only [if_neg hid, haddr]
      exact hfinds
  have hext : t.existingExternal gwId r.exchOrderRef = none := by
    simp [existingExternal, h.externals]
  simp only [OmsCoreV2.reportTarget, h.gateways, hgw, bind_some, hresolve]
  by_cases haddr : Addresses id known gwId r
  · rw [if_pos haddr, if_pos haddr]
  · rw [if_neg haddr, if_neg haddr]
    simp [hext]

lemma Twin.reportLoop (gwId : ℕ) (r : OrderReport) : ∃ x, t.reportLoop id gwId r m = some x := by
  obtain ⟨d, hd⟩ := h.keys'.detail h.live'
  refine reportLoop_total gwId hd (.inr ⟨h.codes, ?_⟩)
  rw [exchRefString_eq]
  exact h.refs.string

/-- **One report** does the same in both cores exactly if it survives. -/
lemma Twin.outcome_iff (hlost : 0 ≤ lost) (hc : ReportConsistent l.qty delivered r)
    (hdel : l.accTradesFilledQty ≤ delivered) (htarget : s.reportTarget r = some (gwId', id))
    (hgw : md.gwIdOfKey r.exchange = some gwId) (hloop : ∃ x, s.reportLoop id gwId' r l = some x) :
    t.outcomeOf id r = s.outcomeOf id r ↔ Survives md id lost known s r := by
  obtain ⟨d, hd⟩ := h.keys.detail h.live
  have hsurv : Survives md id lost known s r ↔
      Addresses id known gwId r ∧ MovesNothing l r ∧ InfersAlike lost l r := by
    simp [Survives, hgw, h.live, h.nonzero]
  rw [hsurv, outcomeOf_of_target htarget h.live hd hloop]
  by_cases haddr : Addresses id known gwId r
  · have htarget' : t.reportTarget r = some (gwId, id) := by rw [h.reportTarget hgw, if_pos haddr]
    obtain ⟨d', hd'⟩ := h.keys'.detail h.live'
    rw [outcomeOf_of_target htarget' h.live' hd' (h.reportLoop gwId r), some.injEq,
      Zkbot.outcome_iff h.restored hlost hc hdel, and_iff_right haddr]
  · have htarget' : t.reportTarget r = none := by rw [h.reportTarget hgw, if_neg haddr]
    refine iff_of_false ?_ fun hs => haddr hs.1
    simp only [outcomeOf, htarget', bind_none]
    intro habs
    cases habs

end

/-- An order that is alone in its queue is not evicted before it is evicted from a longer one. -/
lemma evicted_eq_none {os ot : OrderStoreV2} (hfits : os.QueueFits ot.maxCachedOrders)
    (hqueue : ot.closedLru <:+ os.closedLru) (hclosed : ∀ j ∈ ot.closedLru, j = id)
    (hkept : os.evicted id ≠ some id) : ot.evicted id = none := by
  obtain ⟨hcap, hlen⟩ := hfits
  by_contra hne
  simp only [evicted] at hne hkept
  split_ifs at hne with hfull
  · -- the queue is full, so both are the same, and the order is its head
    have heq : ot.closedLru = os.closedLru := hqueue.eq_of_length_le (by omega)
    rw [hcap, ← heq, if_pos hfull] at hkept
    apply hkept
    cases hq : ot.closedLru with
    | nil => rfl
    | cons j q =>
      rw [hclosed j (by rw [hq]; exact mem_cons_self)]
      rfl
  · exact hne rfl

/-- What is left of a record that lost trades, after a report that infers alike. -/
lemma restored_next {l' m' : LiveOrder} {d₁ d₁' d₂ d₂' : OrderDetailLog}
    (h : Restored lost l m) (hlost : 0 ≤ lost) (hc : ReportConsistent l.qty delivered r)
    (hdel : l.accTradesFilledQty ≤ delivered) (hinf : InfersAlike lost l r)
    (hl : Follows l d₁ (reportEffect l r) l' d₁') (hm : Follows m d₂ (reportEffect m r) m' d₂') :
    Restored lost l' m' := by
  obtain ⟨hstatus, hfilled⟩ := (effect_iff h hlost hc hdel).mpr hinf
  have hnonneg : 0 ≤ r.tradeTotal := sum_nonneg fun q hq => (hc.positive q hq).le
  have hm' : m'.accTradesFilledQty = m.accTradesFilledQty + r.tradeTotal := by
    rw [hm.accQty, reportEffect_tradeFills]
    rfl
  have hl' : l'.accTradesFilledQty = l.accTradesFilledQty + r.tradeTotal := by
    rw [hl.accQty, reportEffect_tradeFills]
    rfl
  refine ⟨?_, ?_, ?_, ?_, ?_, ?_⟩
  · rw [qty_of_terms hm.terms, qty_of_terms hl.terms, h.qty]
  · rw [hm.status, hl.status, hstatus]
  · rw [hm.filledQty, hl.filledQty, hfilled]
  · rw [hm', hl', ← h.acc]
    ring
  · rw [hm']
    exact add_nonneg h.since hnonneg
  · rw [flags_of_terms hm.terms]
    exact h.noKey

/-- **The step lemma.**  A report that survives is handled in both cores, and they stay in step
unless the core that went on has forgotten the order. -/
lemma Twin.step (h : Twin md id lost known s t l m) (hlost : 0 ≤ lost)
    (hc : ReportConsistent l.qty delivered r) (hdel : l.accTradesFilledQty ≤ delivered)
    (htarget : s.reportTarget r = some (gwId', id)) (hgw : md.gwIdOfKey r.exchange = some gwId)
    (haddr : Addresses id known gwId r) (hinf : InfersAlike lost l r)
    (hstep : s.reportStep r = some s') :
    ∃ t', t.reportStep r = some t' ∧ ∀ l', s'.orders.live.lookup id = some l' →
      ∃ m', Twin md id lost (known ++ r.linkedRefs.map (gwId, ·)) s' t' l' m' := by
  obtain ⟨d, hd⟩ := h.keys.detail h.live
  obtain ⟨d', hd'⟩ := h.keys'.detail h.live'
  have htarget' : t.reportTarget r = some (gwId, id) := by rw [h.reportTarget hgw, if_pos haddr]
  have hread : Readable t.metadata t.orders m := by
    refine ⟨h.codes, ?_⟩
    rw [exchRefString_eq]
    exact h.refs.string
  obtain ⟨⟨t', actions⟩, hproc⟩ : ∃ x, t.processReportForOrder id gwId r = some x :=
    processReportForOrder_total gwId h.live' hd' (.inr hread)
  have hstep' : t.reportStep r = some t' := by
    simp [reportStep, OmsCoreV2.step, processOrderReport_of_target htarget', hproc]
  refine ⟨t', hstep', fun l' hl' => ?_⟩
  obtain ⟨os, l₁, d₁, spec⟩ := reportSpec_of_target htarget h.live hd hstep
  obtain ⟨ot, m', d₁', spec'⟩ := reportSpec_of_target htarget' h.live' hd' hstep'
  obtain rfl := spec.live_self hl'
  obtain ⟨hstatus, -⟩ := (effect_iff h.restored hlost hc hdel).mpr hinf
  have hcloses : closes m r = closes l r := by
    rw [closes, closes, hstatus, h.restored.updated_eq hlost hc hdel]
  have hfits : os.QueueFits ot.maxCachedOrders := by
    rw [spec'.same.maxCachedOrders]
    exact h.fits.congr spec.same.maxCachedOrders spec.same.closedLru
  have hqueue : ot.closedLru <:+ os.closedLru := by
    rw [spec'.same.closedLru, spec.same.closedLru]
    exact h.queue
  have hclosed : ∀ j ∈ ot.closedLru, j = id := by
    rw [spec'.same.closedLru]
    exact h.closed
  have halone : ∀ j ∈ ot.live, j = id := by
    intro j hj
    by_contra hne
    obtain ⟨x, hx⟩ := mem_iff_lookup.mp hj
    rw [spec'.same.live j hne] at hx
    exact hne (h.alone j (mem_of_lookup hx))
  have hrefs : (ot.refView m').Knows id (known ++ r.linkedRefs.map (gwId, ·)) := by
    rw [reportSpec_refView spec']
    exact h.refs.links gwId r.linkedRefs
  -- the report may close the order in both, but the restarted core does not evict it
  have horders : t'.orders.live = ot.live ∧ t'.orders.refView m' = ot.refView m' ∧
      t'.orders.externalOrderIds = ot.externalOrderIds ∧
      s'.orders.QueueFits t'.orders.maxCachedOrders ∧
      t'.orders.closedLru <:+ s'.orders.closedLru ∧ ∀ j ∈ t'.orders.closedLru, j = id := by
    rw [spec.orders] at hl' ⊢
    rw [spec'.orders, hcloses]
    split_ifs at hl' ⊢ with hcl
    · have hnone : ot.evicted id = none := by
        refine evicted_eq_none hfits hqueue hclosed fun hev => ?_
        rw [markClosed_live, if_pos hev] at hl'
        cases hl'
      have hcap := hfits.1
      refine ⟨?_, ?_, ?_, ?_, ?_, ?_⟩
      · rw [markClosed_of_none hnone]
        rfl
      · rw [markClosed_of_none hnone]
        rfl
      · exact markClosed_externalOrderIds ot id
      · rw [markClosed_maxCachedOrders]
        exact hfits.markClosed id
      · rw [markClosed_closedLru, markClosed_closedLru, hcap]
        exact Fifo.push_suffix_push hqueue hfits.2 id
      · intro j hj
        rw [markClosed_closedLru] at hj
        have hmem := (Fifo.push_suffix _ _ _).subset hj
        rcases mem_append.mp hmem with hj | hj
        · exact hclosed j hj
        · exact mem_singleton.mp hj
    · exact ⟨rfl, rfl, rfl, hfits, hqueue, hclosed⟩
  obtain ⟨hlive, hview, hext, hfits', hqueue', hclosed'⟩ := horders
  have hmd : s'.metadata = s.metadata := by rw [spec.rest]
  have hmd' : t'.metadata = t.metadata := by rw [spec'.rest]
  exact ⟨m', {
    nonzero := h.nonzero
    keys := sameKeys_step h.keys hstep
    keys' := sameKeys_step h.keys' hstep'
    gateways := by rw [hmd']; exact h.gateways
    gateways' := by rw [hmd]; exact h.gateways'
    codes := by rw [hmd']; exact h.codes
    live := hl'
    live' := by rw [hlive]; exact spec'.live
    restored := restored_next h.restored hlost hc hdel hinf spec.follows spec'.follows
    alone := by rw [hlive]; exact halone
    refs := by rw [hview]; exact hrefs
    externals := by rw [hext, spec'.same.externalOrderIds]; exact h.externals
    fits := hfits'
    queue := hqueue'
    closed := hclosed' }⟩

/-- **All reports**, by induction: the first one that does not survive is the first one that does
something else. -/
lemma sameFrom_iff (hlost : 0 ≤ lost) (rs : List OrderReport) :
    ∀ {known : List (ℕ × String)} {s t : OmsCoreV2} {l m : LiveOrder} {delivered : ℚ},
      Twin md id lost known s t l m → l.accTradesFilledQty ≤ delivered →
      ConsistentFrom l.qty delivered rs → Guarded reportStep (ReportsOn id) s rs →
      (run reportStep s rs).isSome →
      (SameFrom id s t rs ↔ SurvivesFrom md id lost known s rs) := by
  induction rs with
  | nil =>
    intro known s t l m delivered _ _ _ _ _
    exact Iff.rfl
  | cons r rs ih =>
    intro known s t l m delivered h hdel hcons hon hrun
    obtain ⟨hc, hcons'⟩ := hcons
    obtain ⟨⟨htarget, -⟩, hon'⟩ := hon
    obtain ⟨s₁, hrun⟩ := isSome_iff_exists.mp hrun
    obtain ⟨s', hstep, hrun'⟩ := run_cons_eq_some.mp hrun
    obtain ⟨⟨gwId', id'⟩, ht, rfl⟩ := map_eq_some_iff.mp htarget
    obtain ⟨gwId, hgw⟩ : ∃ gwId, md.gwIdOfKey r.exchange = some gwId := by
      rw [← isSome_iff_exists, h.gateways', gwIdOfKey_of_target ht]
      rfl
    obtain ⟨d, hd⟩ := h.keys.detail h.live
    obtain ⟨os, l', d', spec⟩ := reportSpec_of_target ht h.live hd hstep
    have hloop : ∃ x, s.reportLoop id' gwId' r l = some x := by
      obtain ⟨os₁, fl, l₁, hloop, -⟩ := spec.refs
      exact ⟨_, hloop⟩
    have houtcome := h.outcome_iff hlost hc hdel ht hgw hloop
    have hlinks : linksOf md r = r.linkedRefs.map (gwId, ·) := by
      simp [linksOf, hgw]
    simp only [SameFrom, SurvivesFrom, houtcome, hstep, mem_some_iff, forall_eq', hlinks]
    refine and_congr_right fun hsurv => ?_
    have haddr := hsurv.2.1 gwId hgw
    have hinf := (hsurv.2.2 l h.live).2
    obtain ⟨t', hstep', htwin⟩ := h.step hlost hc hdel ht hgw haddr hinf hstep
    simp only [hstep', mem_some_iff, exists_eq_left']
    cases rs with
    | nil => exact Iff.rfl
    | cons r₂ rs =>
      -- the next report is for the order too, so it is still there
      obtain ⟨⟨-, hmem⟩, -⟩ := hon' s' hstep
      obtain ⟨l₂, hl₂⟩ := mem_iff_lookup.mp hmem
      obtain rfl := spec.live_self hl₂
      obtain ⟨m', htwin'⟩ := htwin l₂ hl₂
      have hdel' : l₂.accTradesFilledQty ≤ delivered + r.tradeTotal := by
        rw [spec.follows.accQty, reportEffect_tradeFills]
        exact add_le_add_left hdel r.tradeTotal
      refine ih htwin' hdel' ?_ (hon' s' hstep) ?_
      · rw [qty_of_terms spec.follows.terms]
        exact hcons'
      · rw [hrun']
        rfl

end Twin

/-! ## The restart -/

/-- The reference that a persisted order is found by, on the gateway its key stands for. -/
def persistedRefs (md : MetadataTables) (o : OmsOrder) : List (ℕ × String) :=
  o.exchOrderRef.toList.map fun ref => ((md.gwIdOfKey o.orderState.gwKey).getD 0, ref)

lemma buildPersistedOrder_spec {s : OmsCoreV2} {id : Int} {l : LiveOrder} {o : OmsOrder}
    (hl : s.orders.live.lookup id = some l) (ho : s.buildPersistedOrder id = some (some o)) :
    o.orderId = l.orderId ∧ o.orderState.qty = l.qty ∧ o.orderState.orderStatus = l.orderStatus ∧
      o.orderState.filledQty = l.filledQty := by
  simp only [buildPersistedOrder, hl, bind_eq_some] at ho
  obtain ⟨p, hp, ho⟩ := ho
  obtain ⟨hid, rfl⟩ : o.orderId = l.orderId ∧ o.orderState = p := by
    cases href : l.exchOrderRefId with
    | none =>
      simp only [href, some_bind, some.injEq] at ho
      rw [← ho]
      exact ⟨rfl, rfl⟩
    | some i =>
      simp only [href, bind_eq_some] at ho
      obtain ⟨_, -, ho⟩ := ho
      cases ho
      exact ⟨rfl, rfl⟩
  simp only [buildProtoOrder, bind_eq_some, some.injEq] at hp
  obtain ⟨_, -, _, -, _, -, _, -, hp⟩ := hp
  rw [← hp]
  exact ⟨hid, rfl, rfl, rfl⟩

/-- A restart with one persisted order enters that order, and nothing else. -/
lemma restart_orders (u : OmsSetup) (v1 : OmsOrder) (ps : List PersistedManagedPosition)
    (bs : List PersistedBalance) :
    (u.restart [v1] ps bs).start.orders = (u.blank.initOrder v1).orders := by
  rw [OmsSetup.start, initState_orders]
  rfl

/-- The restarted core knows the order by the reference that was persisted of it. -/
lemma knows_initOrder {u : OmsSetup} {v1 : OmsOrder} (h0 : v1.orderId ≠ 0) :
    ((u.blank.initOrder v1).orders.refView (u.blank.warmLive v1)).Knows v1.orderId
      (v1.exchOrderRef.toList.map fun ref => ((u.blank.warmLive v1).gwId, ref)) := by
  have hnew : (RefView.mk ∅ u.blank.orders.dynStrings none).Knows v1.orderId [] := by
    refine ⟨fun key j habs => ?_, fun gwId ref => ?_, rfl⟩
    · cases habs
    · simp [RefView.finds, lookup_empty]
  rw [refView_initOrder _ h0]
  exact hnew.links (u.blank.warmLive v1).gwId v1.exchOrderRef.toList

section Restart

variable {u : OmsSetup} {evs : List OmsEvent} {s : OmsCoreV2} {id : Int} {l : LiveOrder}
  {o : OmsOrder}

/-- What a core that goes on keeps: every record under its own id, and a queue that fits. -/
lemma kept_events (hreach : run handle u.start evs = some s) :
    SameKeys s.orders ∧ OwnIds s.orders ∧ s.orders.QueueFits u.maxCachedOrders := by
  refine reached_invariant (I := fun s => OwnIds s.orders ∧ s.orders.QueueFits u.maxCachedOrders) ?_
    (sameKeys_start u) ⟨ownIds_start u, queueFits_start u⟩ hreach
  rintro s op s' hk ⟨hown, hfits⟩ hstep
  exact ⟨ownIds_step hk hown hstep, queueFits_step hk hfits hstep⟩

/-- **The start lemma.**  After a restart with what was persisted of an order, the two cores are in
step. -/
lemma twin_restart (hu : u.config.Keyed) (hkeyed : ∀ c, OmsEvent.reload c ∈ evs → c.Keyed)
    (hreach : run handle u.start evs = some s)
    (hl : s.orders.live.lookup id = some l) (ho : s.buildPersistedOrder id = some (some o))
    (hid : id ≠ 0) (ps : List PersistedManagedPosition) (bs : List PersistedBalance) :
    let config := inForce u.config evs
    let md := fromConfdata config
    ∃ m, Twin md id l.accTradesFilledQty (persistedRefs md o) s
      ((u.withConfig config).restart [(fromOmsOrder o).intoOmsOrder] ps bs).start
      l m := by
  intro config md
  obtain ⟨hkeys, hown, hfits⟩ := kept_events hreach
  obtain ⟨hoid, hqty, hstatus, hfilled⟩ := buildPersistedOrder_spec hl ho
  rw [hown id l hl] at hoid
  have hcurrent : MetadataTables.Current config s.metadata := by
    have hstart := (current_fromConfdata ⟨u.config, hu⟩).interned (metadata_start u)
    exact current_run hkeyed (sameKeys_start u) hstart hreach
  have hconfig : config.Keyed := keyed_inForce hu hkeyed
  have hmd : MetadataTables.Current config md :=
    current_fromConfdata ⟨config, hconfig⟩
  generalize hv1 : (fromOmsOrder o).intoOmsOrder = v1
  have hid' : v1.orderId = id := by
    rw [← hv1]
    exact hoid
  generalize hblank : (u.withConfig config).blank = blank
  generalize hu' : (u.withConfig config).restart [v1] ps bs = u'
  have hconfig' : u'.config = config := by rw [← hu']; rfl
  have hcap : u'.maxCachedOrders = u.maxCachedOrders := by rw [← hu']; rfl
  have hmd' : MetadataTables.Interned md u'.start.metadata := by
    have hstart := metadata_start u'
    rw [hconfig'] at hstart
    exact hstart
  have hgateways : ∀ key, u'.start.metadata.gwIdOfKey key = md.gwIdOfKey key :=
    idOf_interned hmd.kept hmd' .gateway
  have hgateways' : ∀ key, (md.gwIdOfKey key).isSome = (s.metadata.gwIdOfKey key).isSome := by
    intro key
    rw [Bool.eq_iff_iff]
    exact (hmd.names .gateway key).trans (hcurrent.names .gateway key).symm
  have horders : u'.start.orders = (blank.initOrder v1).orders := by
    rw [← hu', ← hblank]
    exact restart_orders _ _ _ _
  have hlive : (blank.initOrder v1).orders.live =
      (∅ : Dict Int LiveOrder).insert id (blank.warmLive v1) := by
    rw [initOrder_live, hid', if_neg hid, ← hblank]
    rfl
  have hrefs : ((blank.initOrder v1).orders.refView (blank.warmLive v1)).Knows id
      (persistedRefs md o) := by
    have hknows := knows_initOrder (u := u.withConfig config) (hid'.trans_ne hid)
    rw [hid', hblank] at hknows
    rw [← hv1, ← hblank] at hknows ⊢
    exact hknows
  refine ⟨blank.warmLive v1, {
    nonzero := hid
    keys := hkeys
    keys' := sameKeys_start u'
    gateways := hgateways
    gateways' := hgateways'
    codes := isSome_instrumentCode (hmd.kept.interned hmd')
    live := hl
    live' := by rw [horders, hlive]; exact lookup_insert _
    restored := ?_
    alone := fun j hj => ?_
    refs := by rw [horders]; exact hrefs
    externals := fun key => ?_
    fits := ?_
    queue := ?_
    closed := fun j hj => ?_ }⟩
  · subst hv1
    exact ⟨hqty, hstatus, hfilled, zero_add _, le_refl _, rfl⟩
  · rw [horders, hlive, mem_insert] at hj
    exact hj.resolve_right (notMem_empty j)
  · have hext : (blank.initOrder v1).orders.externalOrderIds = ∅ := by
      simp only [initOrder, initWithOrder, ← hblank]
      split_ifs <;> rfl
    rw [horders, hext]
    rfl
  · have hmax := (queueFits_start u').1
    rw [hmax, hcap]
    exact hfits
  · rw [horders, (initOrder_queue blank v1).1, ← hblank]
    exact nil_suffix
  · rw [horders, (initOrder_queue blank v1).1, ← hblank] at hj
    cases hj

/-- An order without an id is not entered again, and no report finds it. -/
lemma reportTarget_restart_zero {v1 : OmsOrder} (h0 : v1.orderId = 0) (u : OmsSetup)
    (ps : List PersistedManagedPosition) (bs : List PersistedBalance) (r : OrderReport) :
    (u.restart [v1] ps bs).start.reportTarget r = none := by
  have horders := restart_orders u v1 ps bs
  obtain ⟨hlive, hidx, hext⟩ : (u.blank.initOrder v1).orders.live = ∅ ∧
      (u.blank.initOrder v1).orders.orderIdByExchRef = ∅ ∧
      (u.blank.initOrder v1).orders.externalOrderIds = ∅ := by
    have hid : (u.blank.warmLive v1).orderId = 0 := h0
    simp only [initOrder, convertV1Order, initWithOrder, hid, if_true]
    exact ⟨rfl, rfl, rfl⟩
  have hresolve : ∀ gwId, (u.restart [v1] ps bs).start.orders.resolveOrderId r.orderId gwId
      r.exchOrderRef = none := by
    intro gwId
    simp [resolveOrderId, horders, hlive, hidx, lookup_empty]
  have hnone : ∀ gwId,
      (u.restart [v1] ps bs).start.existingExternal gwId r.exchOrderRef = none := by
    intro gwId
    simp [existingExternal, horders, hext, lookup_empty]
  simp [OmsCoreV2.reportTarget, hresolve, hnone]

/-- **An order survives a restart** under the same config — further reports that agree with each
other and with the trades of the order do to it what they would have done — exactly if each of them
finds it, moves no position, and infers nothing from the trades that are lost. -/
theorem restart_same_iff (hu : u.config.Keyed)
    (hkeyed : ∀ c, OmsEvent.reload c ∈ evs → c.Keyed) (hreach : run handle u.start evs = some s)
    (hl : s.orders.live.lookup id = some l) (ho : s.buildPersistedOrder id = some (some o))
    {delivered : ℚ} (hacc : 0 ≤ l.accTradesFilledQty) (hdel : l.accTradesFilledQty ≤ delivered)
    {rs : List OrderReport} (hcons : ConsistentFrom l.qty delivered rs)
    (hon : Guarded reportStep (ReportsOn id) s rs) (hrun : (run reportStep s rs).isSome)
    (ps : List PersistedManagedPosition) (bs : List PersistedBalance) :
    let config := inForce u.config evs
    let md := fromConfdata config
    SameFrom id s
        ((u.withConfig config).restart [(fromOmsOrder o).intoOmsOrder] ps bs).start
        rs ↔
      SurvivesFrom md id l.accTradesFilledQty (persistedRefs md o) s rs := by
  by_cases hid : id = 0
  · cases rs with
    | nil => exact Iff.rfl
    | cons r rs =>
      obtain ⟨hkeys, hown, -⟩ := kept_events hreach
      have h0 : (fromOmsOrder o).intoOmsOrder.orderId = 0 := by
        rw [← hid, ← hown id l hl]
        exact (buildPersistedOrder_spec hl ho).1
      have htarget := hon.1.1
      obtain ⟨⟨gwId, id'⟩, ht, rfl⟩ := map_eq_some_iff.mp htarget
      obtain ⟨d, hd⟩ := hkeys.detail hl
      obtain ⟨s₁, hrun⟩ := isSome_iff_exists.mp hrun
      obtain ⟨s', hstep, -⟩ := run_cons_eq_some.mp hrun
      obtain ⟨os, l', d', spec⟩ := reportSpec_of_target ht hl hd hstep
      obtain ⟨os₁, fl, l₁, hloop, -⟩ := spec.refs
      refine iff_of_false (fun hsame => ?_) fun hsurv => hsurv.1.1 hid
      have hout := hsame.1
      rw [outcomeOf_of_target ht hl hd ⟨_, hloop⟩, outcomeOf, reportTarget_restart_zero h0] at hout
      cases hout
  · obtain ⟨m, htwin⟩ := twin_restart hu hkeyed hreach hl ho hid ps bs
    exact sameFrom_iff hacc rs htwin hdel hcons hon hrun

end Restart

end OmsCoreV2

open Sample

/-- Ten are bought and four of them traded. -/
def Sample.partlyTraded : List OmsEvent :=
  [place 10 .buy 10, .message 1 (.gatewayOrderReport linkReport), report 10 [trade 4]]

/-- The rest is cancelled after a restart.  The report names the order by its reference, and the
fill it announces is known. -/
theorem OmsCoreV2.restart_same_sample :
    let u : OmsSetup := { config := (venue false).toConfdataManager, maxCachedOrders := 4 }
    let rs := [orderReport 0 "a" [state .cancelled 4]]
    ∃ s, run handle u.start partlyTraded = some s ∧
      ∃ o, s.buildPersistedOrder 10 = some (some o) ∧
        SameFrom 10 s (u.restart [(fromOmsOrder o).intoOmsOrder] [] []).start rs := by
  intro u rs
  obtain ⟨s, hs, l, hl, x, hx, o, rfl, hacc, hdel, hcons, hon, hrun, hsurv⟩ :
      ∃ s ∈ run handle u.start partlyTraded,
      ∃ l ∈ s.orders.live.lookup 10, ∃ x ∈ s.buildPersistedOrder 10, ∃ o ∈ x,
        0 ≤ l.accTradesFilledQty ∧ l.accTradesFilledQty ≤ 4 ∧ ConsistentFrom l.qty 4 rs ∧
        Guarded reportStep (ReportsOn 10) s rs ∧ (run reportStep s rs).isSome ∧
        SurvivesFrom (.fromConfdata u.config) 10 l.accTradesFilledQty
          (persistedRefs (.fromConfdata u.config) o) s rs := by
    decide +kernel
  have hkeyed : ∀ c, OmsEvent.reload c ∈ partlyTraded → c.Keyed := by
    intro c hc
    simp [partlyTraded, place, report] at hc
  exact ⟨s, hs, o, hx, (restart_same_iff (venue false).keyed hkeyed hs hl hx hacc hdel hcons
    hon hrun [] []).mpr hsurv⟩

/-- The rest is traded after a restart: the order is not filled, and the position does not move. -/
theorem OmsCoreV2.trades_forgotten :
    let u : OmsSetup := { config := (venue false).toConfdataManager, maxCachedOrders := 4 }
    let r := orderReport 10 "" [trade 6]
    ∃ s ∈ run handle u.start partlyTraded,
    ∃ l ∈ s.orders.live.lookup 10, ∃ x ∈ s.buildPersistedOrder 10, ∃ o ∈ x,
      ConsistentFrom l.qty l.accTradesFilledQty [r] ∧
      (s.outcomeOf 10 r).any (fun p => p.1 == .filled && p.2.1 == 10 && !p.2.2.isEmpty) ∧
      ((u.restart [(fromOmsOrder o).intoOmsOrder] [] []).start.outcomeOf 10 r).any
        (fun p => p.1 == .partiallyFilled && p.2.1 == 6 && p.2.2.isEmpty) := by
  decide +kernel

end Zkbot
