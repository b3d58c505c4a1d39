import Zkbot.Oms.ReportStatus
import Zkbot.Oms.StepCases

/-!
# The index of exchange references

`order_id_by_exch_ref` maps a gateway and a reference to the order that carries it.  Linkage entries
write it, and write the reference on the order; eviction removes the reference the order carries
last.  The two drift apart when an order is linked twice, when two orders claim one reference, when
the linkage comes through another gateway than the order's, and when an order is recorded over
another one; and `external_order_ids` is never cleaned up at all.

* `RefIndexExact` — the index agrees with the orders, and a reference resolves to the order that
  carries it.
* `RefView` — what linkage writes.  `reportSpec_refView` says that a report links the references its
  entries name, in order, and changes nothing else here.
* `KeepsRefs` — the operations that keep the index exact.
-/

namespace Zkbot

open List Option AList LiveOrder Dict

variable {os : OrderStoreV2} {md : MetadataTables}

open OrderStoreV2 InternTable Sample

open OrderStoreV2 (SameBut Quiet)

/-! ## The property and the invariant -/

/-- **The exchange-reference index agrees with the orders.** -/
structure RefIndexExact (os : OrderStoreV2) : Prop where
  refs : ∀ gwId ref id, os.orderIdByExchRef.lookup (gwId, ref) = some id ↔
    ∃ l ∈ os.live.lookup id, l.gwId = gwId ∧ l.exchOrderRefId = some ref
  externals : ∀ key id, os.externalOrderIds.lookup key = some id → id ∈ os.live
  /-- a report resolves to the order it names by id, or to one that carries its reference -/
  resolves : ∀ orderId gwId ref id, os.resolveOrderId orderId gwId ref = some id →
    ∃ l ∈ os.live.lookup id, id = orderId ∨
      l.gwId = gwId ∧ ∃ refId, os.dynStrings.lookup ref = some refId ∧ l.exchOrderRefId = some refId

/-- The same in terms of `refKey`; and every reference in use has been interned. -/
structure RefInv (os : OrderStoreV2) : Prop where
  refs : ∀ key id, os.orderIdByExchRef.lookup key = some id ↔ os.refKey id = some key
  known : ∀ key id, os.refKey id = some key → ∃ ref, os.dynStrings.lookup ref = some key.2
  externals : ∀ key id, os.externalOrderIds.lookup key = some id → id ∈ os.live

namespace OrderStoreV2

variable {os : OrderStoreV2} {id : Int}

lemma refKey_of_lookup {l : LiveOrder} (hl : os.live.lookup id = some l) :
    os.refKey id = l.exchOrderRefId.map fun ref => (l.gwId, ref) := by
  rw [refKey, hl, bind_some]

lemma refKey_congr {os' : OrderStoreV2} (h : os'.live.lookup id = os.live.lookup id) :
    os'.refKey id = os.refKey id := by
  rw [refKey, refKey, h]

lemma refKey_eq_some {gwId ref : ℕ} :
    os.refKey id = some (gwId, ref) ↔
      ∃ l, os.live.lookup id = some l ∧ l.gwId = gwId ∧ l.exchOrderRefId = some ref := by
  rw [refKey, bind_eq_some_iff]
  constructor
  · rintro ⟨l, hl, h⟩
    obtain ⟨r, hr, heq⟩ := map_eq_some_iff.mp h
    cases heq
    exact ⟨l, hl, rfl, hr⟩
  · rintro ⟨l, hl, hg, hr⟩
    exact ⟨l, hl, by rw [hr, hg, map_some]⟩

lemma refKey_of_none (h : os.live.lookup id = none) : os.refKey id = none := by
  rw [refKey, h, bind_none]

end OrderStoreV2

lemma RefInv.exact (h : RefInv os) : RefIndexExact os where
  refs gwId ref id := by
    rw [h.refs, refKey_eq_some]
    rfl
  externals := h.externals
  resolves orderId gwId ref id hr := by
    simp only [resolveOrderId] at hr
    split_ifs at hr with hid
    · cases hr
      obtain ⟨l, hl⟩ := mem_iff_lookup.mp hid.2
      exact ⟨l, hl, .inl rfl⟩
    · obtain ⟨refId, href, hr⟩ := bind_eq_some.mp hr
      obtain ⟨l, hl, hg, hl'⟩ := refKey_eq_some.mp ((h.refs _ _).mp hr)
      exact ⟨l, hl, .inr ⟨hg, refId, href, hl'⟩⟩

section RefInv

variable {os os' : OrderStoreV2} {id : Int}

lemma RefInv.congr (h : RefInv os) (hidx : os'.orderIdByExchRef = os.orderIdByExchRef)
    (hkey : ∀ j, os'.refKey j = os.refKey j)
    (hdyn : ∀ ref i, os.dynStrings.lookup ref = some i → os'.dynStrings.lookup ref = some i)
    (hext : os'.externalOrderIds = os.externalOrderIds)
    (hlive : ∀ j, j ∈ os.live → j ∈ os'.live) : RefInv os' where
  refs key j := by rw [hidx, hkey j, h.refs]
  known key j hj := by
    rw [hkey j] at hj
    obtain ⟨ref, href⟩ := h.known key j hj
    exact ⟨ref, hdyn ref _ href⟩
  externals key j hj := by
    rw [hext] at hj
    exact hlive j (h.externals key j hj)

/-- Order `id` takes a reference that no other order has, and had no other one before. -/
lemma RefInv.link (h : RefInv os) {key : ℕ × ℕ}
    (hidx : os'.orderIdByExchRef = os.orderIdByExchRef.insert key id)
    (hself : os'.refKey id = some key) (hne : ∀ j, j ≠ id → os'.refKey j = os.refKey j)
    (hfree : ∀ j, os.orderIdByExchRef.lookup key = some j → j = id)
    (hold : ∀ key', os.refKey id = some key' → key' = key)
    (hdyn : ∀ ref i, os.dynStrings.lookup ref = some i → os'.dynStrings.lookup ref = some i)
    (hknown : ∃ ref, os'.dynStrings.lookup ref = some key.2)
    (hext : ∀ k j, os'.externalOrderIds.lookup k = some j → j ∈ os'.live) : RefInv os' where
  refs key' j := by
    rw [hidx, lookup_insert_if]
    by_cases hj : j = id
    · subst hj
      rw [hself]
      split_ifs with hk
      · simp [hk]
      · rw [h.refs, some.injEq]
        refine iff_of_false (fun hk' => hk (hold key' hk')) (fun hk' => hk hk'.symm)
    · rw [hne j hj]
      split_ifs with hk
      · subst hk
        refine iff_of_false (fun heq => hj (some.inj heq).symm) (fun hj' => ?_)
        exact hj (hfree j ((h.refs _ _).mpr hj'))
      · exact h.refs key' j
  known key' j hj := by
    by_cases hj' : j = id
    · rw [hj', hself, some.injEq] at hj
      rw [← hj]
      exact hknown
    · rw [hne j hj'] at hj
      obtain ⟨ref, href⟩ := h.known key' j hj
      exact ⟨ref, hdyn ref _ href⟩
  externals := hext

/-- Closing `id` evicts no external order. -/
def KeepsExternals (os : OrderStoreV2) (id : Int) : Prop :=
  ∀ x ∈ os.externalOrderIds.entries, os.evicted id ≠ some x.2
deriving Decidable

/-- Eviction removes the one reference of the order it removes. -/
lemma RefInv.markClosed (h : RefInv os) (hx : KeepsExternals os id) :
    RefInv (os.markClosed id) := by
  have hkey : ∀ j, (os.markClosed id).refKey j =
      if os.evicted id = some j then none else os.refKey j := by
    intro j
    split_ifs with he
    · apply refKey_of_none
      rw [markClosed_live, if_pos he]
    · apply refKey_congr
      rw [markClosed_live, if_neg he]
  refine ⟨fun key j => ?_, fun key j hj => ?_, fun key j hj => ?_⟩
  · rw [markClosed_refs, hkey j]
    by_cases he : os.evicted id = some j
    · -- the evicted order itself: its own reference is gone, and it had no other
      rw [if_pos he, he, bind_some]
      split_ifs with hk
      · simp
      · rw [h.refs]
        exact iff_of_false hk (by simp)
    · split_ifs with hk
      · obtain ⟨e, he', hek⟩ := bind_eq_some_iff.mp hk
        refine iff_of_false (by simp) (fun hjk => he ?_)
        have hej : e = j := by
          have h₁ := (h.refs key e).mpr hek
          have h₂ := (h.refs key j).mpr hjk
          exact mem_unique h₁ h₂
        rw [he', hej]
      · exact h.refs key j
  · rw [hkey j] at hj
    split_ifs at hj
    rw [markClosed_dynStrings]
    exact h.known key j hj
  · rw [markClosed_externalOrderIds] at hj
    rw [OmsCoreV2.mem_markClosed_live]
    exact ⟨hx ⟨key, j⟩ (mem_lookup_iff.mp hj), h.externals key j hj⟩

end RefInv

/-! ## What linkage writes -/

/-- The index, the string table, and the reference on one order. -/
structure RefView where
  index : Dict (ℕ × ℕ) Int
  strings : DynStringTable
  ref : Option ℕ

open RefView

def OrderStoreV2.refView (os : OrderStoreV2) (l : LiveOrder) : RefView :=
  ⟨os.orderIdByExchRef, os.dynStrings, l.exchOrderRefId⟩

/-- `register_exch_ref` on the view of order `id`. -/
def RefView.link (id : Int) (gwId : ℕ) (v : RefView) (ref : String) : RefView :=
  ⟨v.index.insert (gwId, (v.strings.intern ref).2) id, (v.strings.intern ref).1,
    some (v.strings.intern ref).2⟩

lemma RefView.link_link (id : Int) (gwId : ℕ) (v : RefView) (ref : String) :
    (v.link id gwId ref).link id gwId ref = v.link id gwId ref := by
  simp [link, intern_intern]

/-- The reference a linkage entry names. -/
def OrderReportEntry.linkedRef (e : OrderReportEntry) : Option String :=
  match e.acted with
  | some (.orderIdLinkageReport linkage) => some linkage.exchOrderRef
  | _ => none

/-- The references a report links, in order. -/
def OrderReport.linkedRefs (r : OrderReport) : List String :=
  r.orderReportEntries.filterMap (·.linkedRef)

/-- One turn of the loop links the reference of its entry, if it has one. -/
lemma processEntry_refView {id : Int} {gwId : ℕ} {ts : Int} {lo : Bool} {os' : OrderStoreV2}
    {l : LiveOrder} {fl fl' : ReportFlags} {e : OrderReportEntry} (hl : os.live.lookup id = some l)
    (h : OmsCoreV2.processEntry md id gwId ts lo (os, fl) e = some (os', fl')) :
    ∃ l', os'.live.lookup id = some l' ∧
      os'.refView l' = e.linkedRef.elim (os.refView l) ((os.refView l).link id gwId) := by
  -- an update of both records that leaves the reference alone
  have hupd : ∀ {f : LiveOrder → OrderDetailLog → LiveOrder × OrderDetailLog} {os₁},
      (∀ l d, (f l d).1.exchOrderRefId = l.exchOrderRefId) →
      os.updateLiveAndDetail id f = some os₁ →
      ∃ l', os₁.live.lookup id = some l' ∧ os₁.refView l' = os.refView l := by
    intro f os₁ hf hos₁
    simp only [updateLiveAndDetail, hl, some_bind, bind_eq_some] at hos₁
    obtain ⟨d, -, hos₁⟩ := hos₁
    cases hos₁
    refine ⟨_, lookup_insert _, ?_⟩
    rw [refView, refView, hf]
  simp only [OmsCoreV2.processEntry] at h
  simp only [OrderReportEntry.linkedRef]
  cases ha : e.acted with
  | none =>
    rw [ha] at h
    cases h
    exact ⟨l, hl, rfl⟩
  | some r =>
    rw [ha] at h
    cases r with
    | orderIdLinkageReport linkage =>
      have hl' := registerExchRef_live hl gwId linkage.exchOrderRef
      cases lo with
      | false =>
        cases h
        exact ⟨_, hl', rfl⟩
      | true =>
        cases h
        exact ⟨_, applyLinkagePromotion_live hl', rfl⟩
    | orderStateReport r =>
      simp only [bind_eq_some] at h
      obtain ⟨_, -, os₁, hos₁, _, -, h⟩ := h
      cases h
      exact hupd (fun _ _ => rfl) hos₁
    | tradeReport t =>
      simp only [bind_eq_some] at h
      obtain ⟨_, -, trade, -, os₁, hos₁, h⟩ := h
      cases h
      exact hupd (fun _ _ => rfl) hos₁
    | execReport r =>
      simp only at h
      split_ifs at h
      · obtain ⟨os₁, hos₁, h⟩ := bind_eq_some.mp h
        cases h
        refine hupd (fun l d => ?_) hos₁
        simp only [applyOmsError]
        split_ifs <;> rfl
      · cases h
        exact ⟨l, hl, rfl⟩
    | feeReport f =>
      simp only [bind_eq_some] at h
      obtain ⟨_, -, _, -, h⟩ := h
      cases h
      exact ⟨l, hl, rfl⟩

lemma foldlM_processEntry_refView {id : Int} {gwId : ℕ} {ts : Int} {lo : Bool}
    (es : List OrderReportEntry) :
    ∀ {os os' : OrderStoreV2} {l : LiveOrder} {fl fl' : ReportFlags},
      os.live.lookup id = some l →
      es.foldlM (OmsCoreV2.processEntry md id gwId ts lo) (os, fl) = some (os', fl') →
      ∃ l', os'.live.lookup id = some l' ∧
        os'.refView l' = (es.filterMap (·.linkedRef)).foldl (link id gwId) (os.refView l) := by
  induction es with
  | nil =>
    intro os os' l fl fl' hl h
    cases h
    exact ⟨l, hl, rfl⟩
  | cons e es ih =>
    intro os os' l fl fl' hl h
    rw [foldlM_cons, bind_eq_some] at h
    obtain ⟨⟨os₁, fl₁⟩, h₁, h₂⟩ := h
    obtain ⟨l₁, hl₁, hv₁⟩ := processEntry_refView hl h₁
    obtain ⟨l₂, hl₂, hv₂⟩ := ih hl₁ h₂
    refine ⟨l₂, hl₂, ?_⟩
    rw [hv₂, hv₁, filterMap_cons]
    cases e.linkedRef <;> rfl

lemma filterMap_linkedRef_loopEntries (l : LiveOrder) (r : OrderReport) :
    (loopEntries l r).filterMap (·.linkedRef) = r.linkedRefs := by
  rw [loopEntries, filterMap_append, OrderReport.linkedRefs]
  cases h : inferStateFromTrades r.orderReportEntries l with
  | none => simp
  | some e =>
    obtain ⟨-, -, -, status, avgPrice, hact⟩ := inferStateFromTrades_eq_some h
    simp [OrderReportEntry.linkedRef, hact]

namespace OmsCoreV2

variable {s s' : OmsCoreV2} {id : Int} {gwId : ℕ} {r : OrderReport} {os : OrderStoreV2}
  {l l' : LiveOrder} {d d' : OrderDetailLog}

/-- **A report links the references it names, in order**, and changes no other reference. -/
lemma reportSpec_refView (spec : ReportSpec s id gwId r l d s' os l' d') :
    os.refView l' = r.linkedRefs.foldl (link id gwId) (s.orders.refView l) := by
  obtain ⟨os₁, fl, l₁, hloop, hl₁, hidx, hdyn, href⟩ := spec.refs
  obtain ⟨l₂, hl₂, hview⟩ := foldlM_processEntry_refView (loopEntries l r) (touch_live ..) hloop
  obtain rfl : l₁ = l₂ := mem_unique hl₁ hl₂
  rw [filterMap_linkedRef_loopEntries] at hview
  rw [refView, hidx, hdyn, href]
  exact hview

/-! ## Reports that link cleanly -/

/-- A report from gateway `gwId` links an order cleanly: it names at most one reference, through the
order's own gateway, and either the order has that reference already or it has none and nobody else
has that one. -/
def LinksCleanly (os : OrderStoreV2) (gwId : ℕ) (l : LiveOrder) (r : OrderReport) : Prop :=
  match r.linkedRefs with
  | [] => True
  | ref :: refs =>
    (∀ ref' ∈ refs, ref' = ref) ∧ gwId = l.gwId ∧
      match l.exchOrderRefId with
      | some refId => os.dynStrings.lookup ref = some refId
      | none => ∀ refId ∈ os.dynStrings.lookup ref, os.orderIdByExchRef.lookup (gwId, refId) = none

instance (os : OrderStoreV2) (gwId : ℕ) (l : LiveOrder) (r : OrderReport) :
    Decidable (LinksCleanly os gwId l r) :=
  match h : r.linkedRefs, h' : l.exchOrderRefId with
  | [], _ => .isTrue (by simp [LinksCleanly, h])
  | ref :: refs, some refId =>
    decidable_of_iff ((∀ ref' ∈ refs, ref' = ref) ∧ gwId = l.gwId ∧
      os.dynStrings.lookup ref = some refId) (by simp [LinksCleanly, h, h'])
  | ref :: refs, none =>
    decidable_of_iff ((∀ ref' ∈ refs, ref' = ref) ∧ gwId = l.gwId ∧
      ∀ refId ∈ os.dynStrings.lookup ref, os.orderIdByExchRef.lookup (gwId, refId) = none)
      (by simp [LinksCleanly, h, h'])

lemma foldl_link_same {ref : String} {refs : List String} (h : ∀ ref' ∈ refs, ref' = ref)
    (v : RefView) : refs.foldl (link id gwId) (v.link id gwId ref) = v.link id gwId ref := by
  induction refs with
  | nil => rfl
  | cons ref' refs ih =>
    rw [foldl_cons, h ref' mem_cons_self, link_link]
    exact ih fun ref'' hmem => h ref'' (mem_cons_of_mem _ hmem)

lemma intern_fresh {t : DynStringTable} {ref ref' : String} (h : t.lookup ref = none) {i : ℕ}
    (h' : t.lookup ref' = some i) : (t.intern ref).2 ≠ i := by
  intro heq
  have h₁ := lookup_intern_self t ref
  have h₂ := lookup_intern_of_lookup h' ref
  rw [heq] at h₁
  have := lookup_inj h₁ h₂
  rw [this, h'] at h
  cases h

/-- The key of an interned reference is free, if nobody has the reference. -/
lemma lookup_interned_ref (h : RefInv os) {ref : String}
    (hfree : ∀ i ∈ os.dynStrings.lookup ref, os.orderIdByExchRef.lookup (gwId, i) = none) :
    os.orderIdByExchRef.lookup (gwId, (os.dynStrings.intern ref).2) = none := by
  cases hlook : os.dynStrings.lookup ref with
  | some i =>
    rw [intern_of_lookup hlook]
    exact hfree i hlook
  | none =>
    rw [eq_none_iff_forall_not_mem]
    intro j hj
    obtain ⟨ref', href'⟩ := h.known _ j ((h.refs _ j).mp hj)
    exact intern_fresh hlook href' rfl

/-- **Clean linkage keeps the index exact.**  Order `id` had the reference `old`, and is linked to
the one it has or, if it has none, to one that nobody has. -/
lemma refInv_linked {os' : OrderStoreV2} {old : Option ℕ} {refs : List String} (h : RefInv os)
    (hl : os'.live.lookup id = some l) (hold : os.refKey id = old.map (l.gwId, ·))
    (hview : os'.refView l = refs.foldl (link id gwId) ⟨os.orderIdByExchRef, os.dynStrings, old⟩)
    (hclean : ∀ ref rest, refs = ref :: rest → (∀ ref' ∈ rest, ref' = ref) ∧ gwId = l.gwId ∧
      ((∃ i ∈ old, os.dynStrings.lookup ref = some i) ∨
        old = none ∧ ∀ i ∈ os.dynStrings.lookup ref, os.orderIdByExchRef.lookup (gwId, i) = none))
    (hne : ∀ j, j ≠ id → os'.refKey j = os.refKey j)
    (hext : ∀ k j, os'.externalOrderIds.lookup k = some j → j ∈ os'.live) : RefInv os' := by
  cases refs with
  | nil =>
    -- nothing is linked
    have hidx : os'.orderIdByExchRef = os.orderIdByExchRef := congrArg index hview
    have hdyn : os'.dynStrings = os.dynStrings := congrArg strings hview
    have href : l.exchOrderRefId = old := congrArg ref hview
    have hkey : ∀ j, os'.refKey j = os.refKey j := by
      intro j
      by_cases hj : j = id
      · rw [hj, refKey_of_lookup hl, hold, href]
      · exact hne j hj
    refine ⟨fun key j => ?_, fun key j hj => ?_, hext⟩
    · rw [hidx, hkey j, h.refs]
    · rw [hdyn]
      exact h.known key j (hkey j ▸ hj)
  | cons ref refs =>
    obtain ⟨hsame, rfl, hrest⟩ := hclean ref refs rfl
    rw [foldl_cons, foldl_link_same hsame] at hview
    set i := (os.dynStrings.intern ref).2 with hi
    have hidx : os'.orderIdByExchRef = os.orderIdByExchRef.insert (l.gwId, i) id :=
      congrArg index hview
    have hdyn : os'.dynStrings = (os.dynStrings.intern ref).1 := congrArg strings hview
    have href : l.exchOrderRefId = some i := congrArg RefView.ref hview
    -- the order had this reference or none, and nobody else has it
    have hfree : (∀ j, os.orderIdByExchRef.lookup (l.gwId, i) = some j → j = id) ∧
        ∀ key, os.refKey id = some key → key = (l.gwId, i) := by
      rcases hrest with ⟨refId, rfl, hlook⟩ | ⟨rfl, hunused⟩
      · have hii : i = refId := by rw [hi, intern_of_lookup hlook]
        rw [map_some, ← hii] at hold
        refine ⟨fun j hj => ?_, fun key hk => mem_unique hk hold⟩
        rw [(h.refs _ _).mpr hold] at hj
        exact (some.inj hj).symm
      · have hnone := lookup_interned_ref h hunused
        refine ⟨fun j hj => ?_, fun key hk => ?_⟩
        · rw [hnone] at hj
          cases hj
        · rw [hold] at hk
          cases hk
    refine h.link hidx ?_ hne hfree.1 hfree.2 (fun ref' i' hi' => ?_) ⟨ref, ?_⟩ hext
    · rw [refKey_of_lookup hl, href, map_some]
    · rw [hdyn]
      exact lookup_intern_of_lookup hi' ref
    · rw [hdyn]
      exact lookup_intern_self _ _

/-- **A clean report keeps the index exact** up to the closing of its order. -/
lemma refInv_reportSpec (h : RefInv s.orders) (hl : s.orders.live.lookup id = some l)
    (hclean : LinksCleanly s.orders gwId l r) (spec : ReportSpec s id gwId r l d s' os l' d') :
    RefInv os := by
  have hgw : l'.gwId = l.gwId := gwId_of_terms spec.follows.terms
  refine refInv_linked h spec.live ?_ (reportSpec_refView spec) (fun ref refs hrefs => ?_)
    (fun j hj => refKey_congr (spec.same.live j hj)) fun k j hj => ?_
  · rw [refKey_of_lookup hl, hgw]
  · simp only [LinksCleanly, hrefs] at hclean
    obtain ⟨hsame, hg, hrest⟩ := hclean
    refine ⟨hsame, hg.trans hgw.symm, ?_⟩
    cases hold : l.exchOrderRefId with
    | some refId => exact .inl ⟨refId, rfl, by simpa [hold] using hrest⟩
    | none => exact .inr ⟨rfl, by simpa [hold] using hrest⟩
  · rw [spec.same.externalOrderIds] at hj
    exact (spec.same.mem_live (mem_of_lookup hl) (mem_of_lookup spec.live) j).mpr
      (h.externals k j hj)

lemma refInv_afterReport (h : RefInv os)
    (hx : ∀ key j, os.externalOrderIds.lookup key = some j → s.orders.evicted id ≠ some j)
    (spec : ReportSpec s id gwId r l d s' os l' d') : RefInv s'.orders := by
  rw [spec.orders]
  split_ifs
  · refine h.markClosed (fun x hmem => ?_)
    have hev : os.evicted id = s.orders.evicted id := by
      rw [evicted, evicted, spec.same.closedLru, spec.same.maxCachedOrders]
    rw [hev]
    exact hx x.1 x.2 (mem_lookup_iff.mpr hmem)
  · exact h

/-! ## Every operation -/

/-- The operations that keep the index exact.  An order is not recorded over one that has a
reference; a report links its order cleanly; a generated id is new, and the report that creates an
external order links it to no other reference; and what is closed evicts no external order. -/
def KeepsRefs (s : OmsCoreV2) : Op → Prop
  | .place _ req => s.admits req →
      (∀ l ∈ s.orders.live.lookup req.orderId, l.exchOrderRefId = none) ∧
        (s.refuses req = true → KeepsExternals s.orders req.orderId)
  | .report r =>
    (∀ t ∈ s.reportTarget r, ∀ l ∈ s.orders.live.lookup t.2,
      LinksCleanly s.orders t.1 l r ∧ KeepsExternals s.orders t.2) ∧
    ((s.createsExternal r).isSome →
      s.orders.idCounter ∉ s.orders.live ∧ (∀ ref ∈ r.linkedRefs, ref = r.exchOrderRef) ∧
        KeepsExternals s.orders s.orders.idCounter ∧
        s.orders.evicted s.orders.idCounter ≠ some s.orders.idCounter)
  | .sendFailed _ id _ => KeepsExternals s.orders id
  | _ => True

instance (s : OmsCoreV2) : (op : Op) → Decidable (s.KeepsRefs op)
  | .place .. | .report _ | .sendFailed .. | .cancel .. | .balanceUpdate .. | .panic _
  | .dontPanic _ | .cancelSendFailed .. | .reload _ => by dsimp only [KeepsRefs]; infer_instance

lemma refInv_enter (h : RefInv os) (l : LiveOrder) (d : OrderDetailLog)
    (hl : l.exchOrderRefId = none) (hold : ∀ l' ∈ os.live.lookup id, l'.exchOrderRefId = none) :
    RefInv (os.enter id l d) := by
  refine h.congr rfl (fun j => ?_) (fun _ _ hi => hi) rfl (fun j hj => (mem_insert _).mpr (.inr hj))
  by_cases hj : j = id
  · subst hj
    rw [refKey_of_lookup (enter_live_self ..), hl, map_none, eq_comm]
    cases hlook : os.live.lookup j with
    | none => exact refKey_of_none hlook
    | some l' => rw [refKey_of_lookup hlook, hold l' hlook, map_none]
  · exact refKey_congr (enter_live_ne hj l d)

lemma refInv_addExternalOrder (h : RefInv s.orders) (hx : s.createsExternal r = some gwId)
    (hnew : s.orders.idCounter ∉ s.orders.live) : RefInv (s.addExternalOrder gwId r).orders := by
  -- the reference resolves to nothing, so no order has it
  have hfree : ∀ i ∈ s.orders.dynStrings.lookup r.exchOrderRef,
      s.orders.orderIdByExchRef.lookup (gwId, i) = none := by
    simp only [createsExternal, bind_eq_some_iff] at hx
    obtain ⟨g, -, hx⟩ := hx
    split_ifs at hx with hc
    cases hx
    have hres := hc.1
    simp only [resolveOrderId] at hres
    split_ifs at hres
    intro i hi
    rw [hi, some_bind] at hres
    exact hres
  have hold : s.orders.refKey s.orders.idCounter =
      (none : Option ℕ).map ((s.newExternal gwId r).gwId, ·) :=
    refKey_of_none (lookup_eq_none.mpr hnew)
  have hview : (s.addExternalOrder gwId r).orders.refView (s.newExternal gwId r) =
      [r.exchOrderRef].foldl (link s.orders.idCounter gwId)
        ⟨s.orders.orderIdByExchRef, s.orders.dynStrings, none⟩ := rfl
  refine refInv_linked h (addExternalOrder_live s gwId r) hold hview (fun ref rest hrefs => ?_)
    (fun j hj => refKey_congr (lookup_insert_ne hj)) fun k j hj => (mem_insert _).mpr ?_
  · cases hrefs
    exact ⟨by simp, rfl, .inr ⟨rfl, hfree⟩⟩
  · have hj' : (s.orders.externalOrderIds.insert (gwId,
        (s.orders.dynStrings.intern r.exchOrderRef).2) s.orders.idCounter).lookup k = some j := hj
    rw [lookup_insert_if] at hj'
    split_ifs at hj'
    · exact .inl (some.inj hj').symm
    · exact .inr (h.externals k j hj')

theorem refInv_step {op : Op} (hk : SameKeys s.orders) (hinv : RefInv s.orders)
    (hok : s.KeepsRefs op) (h : s.step op = some s') : RefInv s'.orders := by
  cases step_cases hk h with
  | quiet hq =>
    refine hinv.congr hq.orderIdByExchRef (fun j => ?_) hq.dynStrings hq.externalOrderIds
      (fun j => (mem_live_of_quiet hq j).mpr)
    cases hl : s.orders.live.lookup j with
    | none =>
      have hl' := hq.live_none.mpr hl
      rw [refKey_of_none hl, refKey_of_none hl']
    | some l =>
      obtain ⟨l', hl', hcore⟩ := hq.live_some' hl
      rw [refKey_of_lookup hl, refKey_of_lookup hl', exchOrderRefId_of_core hcore,
        gwId_of_terms (terms_of_core hcore)]
  | rejected hadm hrefuse l d hl hst horders =>
    obtain ⟨hold, hx⟩ := hok hadm
    rw [horders]
    exact RefInv.markClosed (refInv_enter hinv l d hl.exchOrderRefId hold) (hx hrefuse)
  | accepted hadm _ _ _ l d _ hl _ _ _ _ horders =>
    rw [horders]
    exact refInv_enter hinv l d hl.exchOrderRefId (hok hadm).1
  | @sendFailed _ id _ _ _ _ os hfail =>
    have hsame := hfail.same
    rw [hfail.orders]
    have hos : RefInv os := by
      refine hinv.congr hfail.refs (fun j => ?_) (fun _ _ hi => hfail.dynStrings ▸ hi)
        hsame.externalOrderIds
        (fun j => (hsame.mem_live (mem_of_lookup hfail.found) (mem_of_lookup hfail.live) j).mpr)
      by_cases hj : j = id
      · rw [hj, refKey_of_lookup hfail.live, refKey_of_lookup hfail.found, hfail.ref,
          gwId_of_terms hfail.terms]
      · exact refKey_congr (hsame.live j hj)
    refine hos.markClosed (fun x hx => ?_)
    rw [hsame.externalOrderIds] at hx
    rw [hsame.evicted]
    exact hok x hx
  | report _ gwId id l _ _ _ _ ht hl _ spec =>
    obtain ⟨hclean, hx⟩ := hok.1 (gwId, id) ht l hl
    refine refInv_afterReport (refInv_reportSpec hinv hl hclean spec) (fun key j hj => ?_) spec
    rw [spec.same.externalOrderIds] at hj
    exact hx ⟨key, j⟩ (mem_lookup_iff.mp hj)
  | external r gwId _ _ _ hx spec =>
    obtain ⟨hnew, hlinks, hkeep, hself⟩ := hok.2 (by rw [hx]; rfl)
    have hadd := refInv_addExternalOrder hinv hx hnew
    have hclean :
        LinksCleanly (s.addExternalOrder gwId r).orders gwId (s.newExternal gwId r) r := by
      simp only [LinksCleanly]
      cases hrefs : r.linkedRefs with
      | nil => trivial
      | cons ref refs =>
        rw [hrefs] at hlinks
        have href := hlinks ref mem_cons_self
        refine ⟨fun ref' hmem => ?_, rfl, ?_⟩
        · rw [hlinks ref' (mem_cons_of_mem _ hmem), href]
        · rw [href]
          exact lookup_intern_self _ _
    refine refInv_afterReport (refInv_reportSpec hadd (lookup_insert _) hclean spec)
      (fun key j hj => ?_) spec
    rw [spec.same.externalOrderIds] at hj
    have hj' : (s.orders.externalOrderIds.insert (gwId, _) s.orders.idCounter).lookup key
        = some j := hj
    rw [lookup_insert_if] at hj'
    split_ifs at hj'
    · rw [← some.inj hj']
      exact hself
    · exact hkeep ⟨key, j⟩ (mem_lookup_iff.mp hj')

/-! ## Warm start and whole runs -/

/-- A persisted order that finds its id and its reference unused. -/
def WarmFresh (s : OmsCoreV2) (v1 : OmsOrder) : Prop :=
  v1.orderId ≠ 0 → v1.orderId ∉ s.orders.live ∧
    ∀ ref ∈ v1.exchOrderRef, ∀ refId ∈ s.orders.dynStrings.lookup ref,
      s.orders.orderIdByExchRef.lookup
        ((s.metadata.gwIdOfKey v1.orderState.gwKey).getD 0, refId) = none
deriving Decidable

lemma refView_initOrder (s : OmsCoreV2) {v1 : OmsOrder} (h0 : v1.orderId ≠ 0) :
    (s.initOrder v1).orders.refView (s.warmLive v1) =
      v1.exchOrderRef.toList.foldl (link v1.orderId (s.warmLive v1).gwId)
        ⟨s.orders.orderIdByExchRef, s.orders.dynStrings, none⟩ := by
  have hid : (s.warmLive v1).orderId = v1.orderId := rfl
  have href : (s.warmLive v1).exchOrderRefId =
      v1.exchOrderRef.map fun r => (s.orders.dynStrings.intern r).2 := rfl
  simp only [initOrder, convertV1Order, initWithOrder, hid, if_neg h0, refView, href]
  cases v1.exchOrderRef with
  | none => rfl
  | some ref => rfl

lemma refInv_initOrder (h : RefInv s.orders) {v1 : OmsOrder} (hfresh : s.WarmFresh v1) :
    RefInv (s.initOrder v1).orders := by
  by_cases h0 : v1.orderId = 0
  · -- the reference is interned, and nothing else changes
    have horders : (s.initOrder v1).orders = (s.convertV1Order v1).1.orders := by
      simp [initOrder, initWithOrder, convertV1Order, warmLive, h0]
    rw [horders]
    refine h.congr rfl (fun _ => rfl) (fun ref i hi => ?_) rfl (fun _ hj => hj)
    cases href : v1.exchOrderRef with
    | none => simpa [convertV1Order, href] using hi
    | some ref' =>
      simp only [convertV1Order, href, elim_some]
      exact lookup_intern_of_lookup hi ref'
  obtain ⟨hnew, href⟩ := hfresh h0
  have hlive : (s.initOrder v1).orders.live = s.orders.live.insert v1.orderId (s.warmLive v1) := by
    rw [initOrder_live, if_neg h0]
  have hext : (s.initOrder v1).orders.externalOrderIds = s.orders.externalOrderIds := by
    simp [initOrder, convertV1Order, initWithOrder, warmLive, h0]
  have hold : s.orders.refKey v1.orderId = (none : Option ℕ).map ((s.warmLive v1).gwId, ·) :=
    refKey_of_none (lookup_eq_none.mpr hnew)
  refine refInv_linked h (by rw [hlive, lookup_insert]) hold (refView_initOrder s h0)
    (fun ref rest hrefs => ?_) (fun j hj => refKey_congr ?_) fun k j hj => ?_
  · cases hr : v1.exchOrderRef with
    | none =>
      rw [hr] at hrefs
      cases hrefs
    | some ref' =>
      rw [hr] at hrefs
      cases hrefs
      exact ⟨by simp, rfl, .inr ⟨rfl, href ref hr⟩⟩
  · rw [hlive, lookup_insert_ne hj]
  · rw [hext] at hj
    rw [hlive]
    exact (mem_insert _).mpr (.inr (h.externals k j hj))

lemma run_initOrder (warm : List OmsOrder) (s : OmsCoreV2) :
    run (fun s v1 => some (initOrder s v1)) s warm = some (warm.foldl initOrder s) := by
  induction warm generalizing s with
  | nil => rfl
  | cons v1 warm ih =>
    exact ih (s.initOrder v1)

theorem refInv_start (u : OmsSetup)
    (hfresh : Guarded (fun s v1 => some (initOrder s v1)) WarmFresh u.blank u.orders) :
    RefInv u.start.orders := by
  rw [OmsSetup.start, initState_orders]
  refine run_invariant (I := fun s => RefInv s.orders) ?_ ?_ hfresh (run_initOrder u.orders _)
  · rintro s v1 s' hinv hv1 hs'
    cases hs'
    exact refInv_initOrder hinv hv1
  · refine ⟨fun key id => ?_, fun key id hk => ?_, fun key id hk => ?_⟩
    · exact iff_of_false (by intro h; cases h) (by intro h; cases h)
    · cases hk
    · cases hk

/-- **The reference index agrees with the orders in every state** of a run whose operations all keep
it, from any start whose persisted orders have ids and references of their own. -/
theorem refIndex_exact_of_run (u : OmsSetup)
    (hfresh : Guarded (fun s v1 => some (initOrder s v1)) WarmFresh u.blank u.orders)
    (evs : List OmsEvent) (hok : Guarded step KeepsRefs u.start (evs.flatMap OmsEvent.ops))
    (s : OmsCoreV2) (hrun : run handle u.start evs = some s) : RefIndexExact s.orders := by
  have h : SameKeys s.orders ∧ RefInv s.orders := by
    refine events_invariant (I := fun s => SameKeys s.orders ∧ RefInv s.orders) ?_
      ⟨sameKeys_start u, refInv_start u hfresh⟩ hok hrun
    rintro s op s' ⟨hk, hinv⟩ hop hstep
    exact ⟨sameKeys_step hk hstep, refInv_step hk hinv hop hstep⟩
  exact RefInv.exact h.2

open Sample

/-- Two orders linked to references of their own, an external order, and an eviction. -/
theorem refIndex_exact_sample :
    ∃ s ∈ run handle (setup false true 1).start
      [place 10 .buy 5, place 11 .buy 3, report 10 [linkage "a"],
        report 11 [linkage "b", state .booked 0],
        reportByRef "c" [linkage "c"],
        report 10 [state .filled 5], report 11 [rejection]],
      (s.orders.live.lookup 10).isNone ∧ s.orders.orderIdByExchRef.entries.length = 2 ∧
        RefIndexExact s.orders := by
  refine exists_mem_imp (P := fun s => (s.orders.live.lookup 10).isNone ∧
    s.orders.orderIdByExchRef.entries.length = 2) (by decide +kernel) ?_
  rintro s hs ⟨hgone, hlen⟩
  refine ⟨hgone, hlen, ?_⟩
  exact refIndex_exact_of_run (setup false true 1) (by decide +kernel) _ (by decide +kernel) s hs

/-- Two orders claim one reference: the index has the second, and the first still carries it. -/
theorem refIndex_not_exact :
    ∃ s ∈ run handle (setup false false 4).start
      [place 10 .buy 5, place 11 .buy 3, report 10 [linkage "a"],
        report 11 [linkage "a"]], ¬ RefIndexExact s.orders := by
  refine exists_mem_imp (P := fun s => s.orders.orderIdByExchRef.lookup (0, 0) = some 11 ∧
    ∃ l ∈ s.orders.live.lookup 10, l.gwId = 0 ∧ l.exchOrderRefId = some 0) (by decide +kernel) ?_
  rintro s - ⟨hidx, hlive⟩ h
  have h10 := (h.refs 0 0 10).mpr hlive
  rw [hidx] at h10
  cases h10

end OmsCoreV2

end Zkbot
