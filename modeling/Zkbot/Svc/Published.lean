import Zkbot.Oms.Admission
import Zkbot.Oms.Duplicates
import Zkbot.Oms.Eviction
import Zkbot.Svc.Materialize

/-!
# The names an order is published under

An order stores the index of its instrument and the symbol of its source, and they are read back
through the tables when the order is published.  A request that cannot be resolved, a persisted
order on an instrument that is gone, an empty source and an external order all leave the number 0
behind, and 0 is an entry like any other: such an order is published as an order on the first
instrument of the config, or by whatever was interned first.

* `ShowsAs` — the instrument and the source that an order is published with; `showsAs_iff` reads
  them off its record.
* `placedMeta`, `placedTables` — what placing an order records and interns (`place_record`).
* `NamesPlaced`, `NamesRestored`, `NamesExternal` — when the names are right.
-/

namespace Zkbot

open List Option OmsSetup OrderTerms MetadataTables OrderStoreV2

open MetadataTables (Kept Interned)

namespace OmsCoreV2

variable {s s' : OmsCoreV2} {l : LiveOrder} {req : OrderRequest} {om : ResolvedOrderMeta}
  {actions : List OmsActionV2} {now : Int}

/-! ## Names and numbers -/

def instrumentShown (s : OmsCoreV2) (i : ℕ) : String := (instrumentCode s.metadata i).getD ""

def sourceShown (s : OmsCoreV2) (sym : ℕ) : String := (s.metadata.strings.resolve sym).getD ""

/-- The order, if it is in the store, is published with this instrument and this source: both in the
order itself and in every update event that carries it. -/
def ShowsAs (s : OmsCoreV2) (id : Int) (code source : String) : Prop :=
  ∀ l, s.orders.live.lookup id = some l → ∃ o, s.buildProtoOrder l = some o ∧
    o.instrument = code ∧ o.sourceId = source ∧
    ∀ now trade fee exec inferred, ∃ event,
      s.buildOrderUpdateEvent now id trade fee exec inferred = some (some event) ∧
        event.orderSnapshot = some o ∧ event.orderSourceId = source

lemma entryName_instrument (md : MetadataTables) (i : ℕ) :
    entryName md (·.instrumentCodeSym) (md.instrument i) = instrumentCode md i := by
  simp only [entryName, instrumentCode]
  cases md.instrument i with
  | none => rfl
  | some inst => rfl

lemma buildProtoOrder_names {o : Order} (h : s.buildProtoOrder l = some o) :
    o.instrument = s.instrumentShown l.instrumentId ∧ o.sourceId = s.sourceShown l.sourceSym := by
  simp only [buildProtoOrder, bind_eq_some] at h
  obtain ⟨code, hcode, exch, -, gw, -, ref, -, h⟩ := h
  cases h
  rw [entryName_instrument] at hcode
  exact ⟨by rw [instrumentShown, hcode, getD_some], rfl⟩

/-- **What an order is published with** stands in its record. -/
theorem showsAs_iff (h : s.Legible) {id : Int} (hl : s.orders.live.lookup id = some l)
    (code source : String) :
    s.ShowsAs id code source ↔
      s.instrumentShown l.instrumentId = code ∧ s.sourceShown l.sourceSym = source := by
  constructor
  · intro hshows
    obtain ⟨o, ho, rfl, rfl, -⟩ := hshows l hl
    obtain ⟨hinst, hsource⟩ := buildProtoOrder_names ho
    exact ⟨hinst.symm, hsource.symm⟩
  · rintro ⟨rfl, rfl⟩ l' hl'
    obtain rfl : l = l' := mem_unique hl hl'
    obtain ⟨o, ho⟩ := h.buildProtoOrder_total hl
    obtain ⟨hinst, hsource⟩ := buildProtoOrder_names ho
    refine ⟨o, ho, hinst, hsource, fun now trade fee exec inferred => ?_⟩
    simp only [buildOrderUpdateEvent, hl, ho, some_bind]
    exact ⟨_, rfl, rfl, rfl⟩

lemma showsAs_of_gone {id : Int} (h : id ∉ s.orders.live) (code source : String) :
    s.ShowsAs id code source := by
  intro l hl
  exact absurd (Dict.mem_of_lookup hl) h

/-- A code that leads to an instrument is the one shown for it, also when more has been interned. -/
lemma instrumentShown_of_resolve (h : Kept s.metadata) (hmd : Interned s.metadata s'.metadata)
    {code : String} {inst : InstrumentMeta}
    (hinst : s.metadata.resolveInstrument code = some inst) :
    s'.instrumentShown inst.instrumentId = code := by
  have hid : s.metadata.idOf .instrument code = some inst.instrumentId := by
    rw [← h.resolveInstrument, hinst, map_some]
  have hname : s'.metadata.nameOf .instrument inst.instrumentId = some code := by
    rw [nameOf_interned h hmd]
    exact h.nameOf_of_idOf hid
  rw [instrumentShown, instrumentCode_of_nameOf hname, getD_some]

/-- A source that has been interned is the one shown for its symbol from then on. -/
lemma sourceShown_of_intern {md : MetadataTables} {source : String}
    (hmd : Interned (md.intern source).1 s'.metadata) :
    s'.sourceShown (md.intern source).2 = source := by
  have hself : (md.intern source).1.strings.resolve (md.intern source).2 = some source :=
    InternTable.resolve_intern_self md.strings source
  rw [sourceShown, hmd.strings _ _ hself, getD_some]

/-! ## Placed orders -/

/-- The record of an order as it was placed. -/
structure RecordedAs (om : ResolvedOrderMeta) (l : LiveOrder) : Prop where
  instrumentId : l.instrumentId = om.instrumentId
  sourceSym : l.sourceSym = om.sourceSym

/-- **What placing an order leaves behind**, whether it is accepted or refused. -/
theorem place_record (hadm : s.admits req) (h : s.processOrder now req = some (s', actions)) :
    s'.metadata = s.placedTables req ∧
      ∀ l, s'.orders.live.lookup req.orderId = some l → RecordedAs (s.placedMeta req) l := by
  cases processOrder_cases h with
  | dropped hnot => exact absurd hadm hnot
  | rejected _ _ f hR =>
    refine ⟨by rw [hR.state], fun l hl => ?_⟩
    rw [hR.state] at hl
    have hlive := live_of_markClosed hl
    rw [enter_live_self] at hlive
    cases hlive
    rw [← hR.orderMeta]
    exact ⟨rfl, rfl⟩
  | accepted _ _ om sym gwReq hA =>
    refine ⟨by rw [hA.state], fun l hl => ?_⟩
    rw [hA.state, enter_live_self] at hl
    cases hl
    rw [hA.orderMeta]
    exact ⟨rfl, rfl⟩

/-- The request can be resolved: its account has a route and its instrument is known. -/
def Resolvable (s : OmsCoreV2) (req : OrderRequest) : Prop :=
  (s.metadata.route req.accountId).isSome = true ∧
    (s.metadata.resolveInstrument req.instrumentCode).isSome = true
deriving Decidable

lemma resolvable_of_ok (h : s.resolveOrderMeta req = .ok om) : s.Resolvable req := by
  obtain ⟨rt, inst, hres⟩ := resolveOrderMeta_ok h
  exact ⟨by rw [hres.route]; rfl, by rw [hres.instrument]; rfl⟩

lemma not_resolvable_of_error {errors : List String} (h : s.resolveOrderMeta req = .error errors) :
    ¬ s.Resolvable req := by
  rintro ⟨hroute, hinst⟩
  obtain ⟨rt, hrt⟩ := isSome_iff_exists.mp hroute
  obtain ⟨inst, hinst⟩ := isSome_iff_exists.mp hinst
  simp [resolveOrderMeta, hrt, hinst] at h

/-- The requests whose names come out right.  The number 0 stands in for the instrument of a request
that cannot be resolved, and for its source; also for an empty source. -/
structure NamesPlaced (s : OmsCoreV2) (req : OrderRequest) : Prop where
  instrument : s.Resolvable req ∨ s.instrumentShown 0 = req.instrumentCode
  source : s.Resolvable req ∧ req.sourceId ≠ "" ∨ s.sourceShown 0 = req.sourceId

/-- An order that has been placed is shown under the right names if they come out right, or if it is
refused and pushed out of the store at once. -/
lemma showsAs_placed_iff (hs : s.Legible) (hs' : s'.Legible) (hadm : s.admits req)
    (h : s.processOrder now req = some (s', actions)) :
    s'.ShowsAs req.orderId req.instrumentCode req.sourceId ↔
      s.evicts (.place now req) = some req.orderId ∨ s.NamesPlaced req := by
  have hstep : s.step (.place now req) = some s' := by simp only [step, h, map_some]
  have hmem := mem_live_step hs.keys hstep req.orderId
  rw [show s.enters (.place now req) = some req.orderId from if_pos hadm] at hmem
  by_cases he : s.evicts (.place now req) = some req.orderId
  · exact iff_of_true (showsAs_of_gone (fun hc => (hmem.mp hc).2 he) _ _) (.inl he)
  · obtain ⟨l, hl⟩ := Dict.mem_iff_lookup.mp (hmem.mpr ⟨.inr rfl, he⟩)
    obtain ⟨hmd, hrecord⟩ := place_record hadm h
    obtain ⟨hinst, hsource⟩ := hrecord l hl
    rw [showsAs_iff hs' hl, hinst, hsource, or_iff_right he]
    cases hom : s.resolveOrderMeta req with
    | error errors =>
      -- nothing was resolved and nothing interned: both numbers are 0
      have hno := not_resolvable_of_error hom
      have hsame : s'.metadata = s.metadata := by rw [hmd, placedTables, hom]
      simp only [placedMeta, hom, stubMeta, instrumentShown, sourceShown, hsame]
      constructor
      · rintro ⟨hi, hsrc⟩
        exact ⟨.inr hi, .inr hsrc⟩
      · intro hnames
        exact ⟨hnames.instrument.resolve_left hno, hnames.source.resolve_left fun hc => hno hc.1⟩
    | ok om =>
      have hyes := resolvable_of_ok hom
      obtain ⟨rt, inst, hres⟩ := resolveOrderMeta_ok hom
      have htables : s'.metadata = (s.internSource req).metadata := by rw [hmd, placedTables, hom]
      have hshown : s'.instrumentShown inst.instrumentId = req.instrumentCode := by
        refine instrumentShown_of_resolve hs.tables ?_ hres.instrument
        rw [htables]
        exact interned_internSource s req
      have hid : (s.placedMeta req).instrumentId = inst.instrumentId := by
        rw [← hres.instrumentId, placedMeta, hom]
        simp only [withSource]
        split_ifs <;> rfl
      rw [hid, and_iff_right hshown]
      by_cases hempty : req.sourceId = ""
      · have hsym : (s.placedMeta req).sourceSym = 0 := by
          simp [placedMeta, hom, withSource, if_pos hempty, hres.sourceSym]
        have hsame : s'.metadata = s.metadata := by
          rw [htables, internSource, if_pos hempty]
        have hzero : s'.sourceShown 0 = s.sourceShown 0 := by simp only [sourceShown, hsame]
        rw [hsym, hzero]
        constructor
        · intro hsrc
          exact ⟨.inl hyes, .inr hsrc⟩
        · intro hnames
          exact hnames.source.resolve_left fun hc => hc.2 hempty
      · have hsym : (s.placedMeta req).sourceSym = (s.metadata.intern req.sourceId).2 := by
          simp [placedMeta, hom, withSource, if_neg hempty]
        have hmd' : s'.metadata = (s.metadata.intern req.sourceId).1 := by
          rw [htables, internSource, if_neg hempty]
        rw [hsym]
        refine iff_of_true (sourceShown_of_intern ?_) ⟨.inl hyes, .inl ⟨hyes, hempty⟩⟩
        rw [hmd']
        exact .refl _

/-! ## Restored orders -/

end OmsCoreV2

/-- The order is restored by `init_state`: it has an id, and no later one has the same. -/
def OmsSetup.Restores (u : OmsSetup) (v1 : OmsOrder) : Prop :=
  v1.orderId ≠ 0 ∧ ∃ before after, u.orders = before ++ v1 :: after ∧
    ∀ w ∈ after, w.orderId ≠ v1.orderId

/-- The string with symbol 0 after the start: the first that the config interned, or else the first
source of a persisted order. -/
def OmsSetup.firstInterned (u : OmsSetup) : Option String :=
  (u.blank.metadata.strings.resolve 0).or
    ((u.orders.map (·.orderState.sourceId)).find? fun source => decide (source ≠ ""))

namespace OmsCoreV2

variable {s : OmsCoreV2} {id : Int} {u : OmsSetup}

lemma foldl_initOrder_live_ne (warm : List OmsOrder) (s : OmsCoreV2)
    (h : ∀ w ∈ warm, w.orderId ≠ id) :
    (warm.foldl initOrder s).orders.live.lookup id = s.orders.live.lookup id := by
  induction warm generalizing s with
  | nil => rfl
  | cons v1 warm ih =>
    rw [foldl_cons, ih _ (forall_mem_cons.mp h).2]
    exact initOrder_live_ne s v1 (h v1 mem_cons_self).symm

lemma restored_record {v1 : OmsOrder} (h : u.Restores v1) :
    ∃ s : OmsCoreV2, Interned u.blank.metadata s.metadata ∧
      Interned (s.initOrder v1).metadata u.start.metadata ∧
      u.start.orders.live.lookup v1.orderId = some (s.warmLive v1) := by
  obtain ⟨h0, before, after, horders, hlast⟩ := h
  refine ⟨before.foldl initOrder u.blank, interned_foldl_initOrder before u.blank, ?_, ?_⟩
  · rw [start, initState_metadata, horders, foldl_append, foldl_cons]
    exact interned_foldl_initOrder after _
  · rw [start, initState_orders, horders, foldl_append, foldl_cons,
      foldl_initOrder_live_ne after _ hlast, initOrder_live, if_neg h0]
    exact AList.lookup_insert _

/-- Interning more does not change what is shown for an index. -/
lemma instrumentShown_interned {s' : OmsCoreV2} (h : Kept s.metadata)
    (hmd : Interned s.metadata s'.metadata) (i : ℕ) :
    s'.instrumentShown i = s.instrumentShown i := by
  have hnames : s'.metadata.instrument i = s.metadata.instrument i := by
    obtain ⟨t, heq, -⟩ := hmd
    rw [heq]
    rfl
  cases hi : s.metadata.instrument i with
  | none => simp only [instrumentShown, instrumentCode, hnames, hi]
  | some inst =>
    obtain ⟨code, hcode⟩ := h.nameOf_instrument (i := i) (by rw [hi]; rfl)
    have hcode' : s'.metadata.nameOf .instrument i = some code := by
      rw [nameOf_interned h hmd, hcode]
    rw [instrumentShown, instrumentShown, instrumentCode_of_nameOf hcode,
      instrumentCode_of_nameOf hcode']

lemma firstInterned_initOrder (s : OmsCoreV2) (v1 : OmsOrder) :
    (s.initOrder v1).metadata.strings.resolve 0 = (s.metadata.strings.resolve 0).or
      (if v1.orderState.sourceId = "" then none else some v1.orderState.sourceId) := by
  simp only [initOrder, convertV1Order]
  split_ifs
  · rw [or_none]
  · exact InternTable.resolve_zero_intern s.metadata.strings v1.orderState.sourceId

lemma foldl_initOrder_firstInterned (warm : List OmsOrder) (s : OmsCoreV2) :
    (warm.foldl initOrder s).metadata.strings.resolve 0 = (s.metadata.strings.resolve 0).or
      ((warm.map (·.orderState.sourceId)).find? fun source => decide (source ≠ "")) := by
  induction warm generalizing s with
  | nil => simp
  | cons v1 warm ih =>
    rw [foldl_cons, ih, firstInterned_initOrder, map_cons, find?_cons, Option.or_assoc]
    by_cases hempty : v1.orderState.sourceId = ""
    · simp [hempty]
    · simp [hempty]

lemma sourceShown_start (u : OmsSetup) : u.start.sourceShown 0 = u.firstInterned.getD "" := by
  rw [sourceShown, start, initState_metadata, foldl_initOrder_firstInterned]
  rfl

/-- The persisted orders whose names come out right.  The number 0 stands in for an instrument that
the config does not know, and for an empty source. -/
structure NamesRestored (u : OmsSetup) (v1 : OmsOrder) : Prop where
  instrument : (u.blank.metadata.resolveInstrument v1.orderState.instrument).isSome = true ∨
    u.blank.instrumentShown 0 = v1.orderState.instrument
  source : v1.orderState.sourceId ≠ "" ∨ u.firstInterned.getD "" = ""

lemma showsAs_restored_iff {v1 : OmsOrder} (hkept : Kept u.blank.metadata)
    (hstart : u.start.Legible) (h : u.Restores v1) :
    u.start.ShowsAs v1.orderId v1.orderState.instrument v1.orderState.sourceId ↔
      NamesRestored u v1 := by
  obtain ⟨s, hbefore, hafter, hl⟩ := restored_record h
  have hs : Kept s.metadata := hkept.interned hbefore
  have hto : Interned s.metadata u.start.metadata := (interned_initOrder s v1).trans hafter
  have hinst : u.start.instrumentShown (s.warmLive v1).instrumentId = v1.orderState.instrument ↔
      (u.blank.metadata.resolveInstrument v1.orderState.instrument).isSome = true ∨
        u.blank.instrumentShown 0 = v1.orderState.instrument := by
    have hsame : (s.metadata.resolveInstrument v1.orderState.instrument).isSome =
        (u.blank.metadata.resolveInstrument v1.orderState.instrument).isSome := by
      rw [← isSome_map (f := (·.instrumentId)), hs.resolveInstrument,
        idOf_interned hkept hbefore, ← hkept.resolveInstrument, isSome_map]
    rw [← hsame]
    cases hr : s.metadata.resolveInstrument v1.orderState.instrument with
    | none =>
      simp only [warmLive, hr, map_none, getD_none, isSome_none, Bool.false_eq_true, false_or]
      rw [instrumentShown_interned hkept (hbefore.trans hto)]
    | some inst =>
      simp only [warmLive, hr, map_some, getD_some, isSome_some, true_or, iff_true]
      exact instrumentShown_of_resolve hs hto hr
  have hsource : u.start.sourceShown (s.warmLive v1).sourceSym = v1.orderState.sourceId ↔
      v1.orderState.sourceId ≠ "" ∨ u.firstInterned.getD "" = "" := by
    by_cases hempty : v1.orderState.sourceId = ""
    · simp [warmLive, hempty, sourceShown_start]
    · simp only [warmLive, hempty, ↓reduceIte, ne_eq, not_false_eq_true, true_or, iff_true]
      refine sourceShown_of_intern ?_
      have htables : (s.initOrder v1).metadata = (s.metadata.intern v1.orderState.sourceId).1 :=
        if_neg hempty
      rw [← htables]
      exact hafter
  rw [showsAs_iff hstart hl, hinst, hsource]
  constructor
  · rintro ⟨hi, hsrc⟩
    exact ⟨hi, hsrc⟩
  · rintro ⟨hi, hsrc⟩
    exact ⟨hi, hsrc⟩

/-! ## External orders -/

/-- A record after an operation has the terms of a record before it, or is that of a placement, or
that of a new external order. -/
lemma terms_step {s' : OmsCoreV2} {op : Op} (hk : SameKeys s.orders) (h : s.step op = some s')
    {j : Int} {l' : LiveOrder} (hl' : s'.orders.live.lookup j = some l') :
    (∃ l, s.orders.live.lookup j = some l ∧ l'.terms = l.terms) ∨ l'.isExternal = false ∨
      l'.instrumentId = 0 := by
  cases record_step hk h hl' with
  | kept l hl hcore => exact .inl ⟨l, hl, LiveOrder.terms_of_core hcore⟩
  | placed _ _ hfresh => exact .inr (.inl hfresh.isExternal)
  | sendFailed l hl _ hterms => exact .inl ⟨l, hl, hterms⟩
  | report _ hl spec => exact .inl ⟨_, hl, spec.follows.terms⟩
  | external _ _ spec => exact .inr (.inr (congrArg instrumentId spec.follows.terms))

/-- An external order that was not restored has no instrument: its index is 0, in every run. -/
lemma instrumentId_of_external {evs : List OmsEvent} (hr : run handle u.start evs = some s)
    {l : LiveOrder} (hl : s.orders.live.lookup id = some l) (hext : l.isExternal = true)
    (hid : id ∉ u.orders.map (·.orderId)) : l.instrumentId = 0 := by
  have hstart : ∀ l, u.start.orders.live.lookup id = some l → l.isExternal = true →
      l.instrumentId = 0 := by
    intro l hl
    rw [start, initState_orders] at hl
    rcases ((foldl_initOrder_queue u.orders u.blank).2.2 id).mp (Dict.mem_of_lookup hl) with
      habs | ⟨-, hmem⟩
    · exact absurd habs (AList.notMem_empty _)
    · exact absurd hmem hid
  refine (reached_invariant
    (I := fun s => ∀ l, s.orders.live.lookup id = some l → l.isExternal = true → l.instrumentId = 0)
    ?_ (sameKeys_start u) hstart hr).2 l hl hext
  intro s op s' hk hs hstep l' hl' hext'
  rcases terms_step hk hstep hl' with ⟨l, hl, hterms⟩ | hplaced | hzero
  · have hext₀ : l.isExternal = true := by
      rw [← hext']
      exact (congrArg isExternal hterms).symm
    exact (congrArg instrumentId hterms).trans (hs l hl hext₀)
  · rw [hplaced] at hext'
    cases hext'
  · exact hzero

/-- The config knows the symbol, as this gateway uses it, as the instrument with this code. -/
def Trades (s : OmsCoreV2) (gwId : ℕ) (symbol code : String) : Prop :=
  ∃ inst, s.metadata.resolveInstrumentByGw gwId symbol = some inst ∧
    s.metadata.strResolve inst.instrumentCodeSym = some code

/-- The order is published without an instrument, or with the one it trades.  The exchange knows the
instrument by `symbol`; a report names it in its `order_info`, which the core does not read. -/
def ShowsOwn (s : OmsCoreV2) (l : LiveOrder) (symbol : String) : Prop :=
  ∃ o, s.buildProtoOrder l = some o ∧ (o.instrument = "" ∨ s.Trades l.gwId symbol o.instrument)

/-- An external order comes out right only if the config has no instrument, or if the order happens
to trade the first. -/
def NamesExternal (s : OmsCoreV2) (gwId : ℕ) (symbol : String) : Prop :=
  s.instrumentShown 0 = "" ∨ s.Trades gwId symbol (s.instrumentShown 0)

lemma showsOwn_iff (h : s.Legible) {l : LiveOrder} (hl : s.orders.live.lookup id = some l)
    (hzero : l.instrumentId = 0) (symbol : String) :
    s.ShowsOwn l symbol ↔ s.NamesExternal l.gwId symbol := by
  obtain ⟨o, ho⟩ := h.buildProtoOrder_total hl
  have hinst : o.instrument = s.instrumentShown 0 := by
    rw [(buildProtoOrder_names ho).1, hzero]
  rw [NamesExternal, ← hinst]
  constructor
  · rintro ⟨o', ho', hown⟩
    obtain rfl : o = o' := mem_unique ho ho'
    exact hown
  · intro hown
    exact ⟨o, ho, hown⟩

/-- **An order is published under the names it was requested with** exactly if no 0 stands in for
one of them, or if the entry 0 is the right one by chance: for every placement in a reachable state,
every restored order, and every external order in a reachable state. -/
theorem published_names_iff (u : OmsSetup) (config : Confdata)
    (hu : u.config = config.toConfdataManager) (evs : List OmsEvent)
    (hkeyed : ∀ c, OmsEvent.reload c ∈ evs → c.Keyed) (s : OmsCoreV2)
    (hr : run handle u.start evs = some s) :
    (∀ now req, s.admits req →
      ((∃ s' actions, s.processOrder now req = some (s', actions) ∧
        s'.ShowsAs req.orderId req.instrumentCode req.sourceId) ↔
        s.evicts (.place now req) = some req.orderId ∨ s.NamesPlaced req)) ∧
    (∀ v1, u.Restores v1 →
      (u.start.ShowsAs v1.orderId v1.orderState.instrument v1.orderState.sourceId ↔
        NamesRestored u v1)) ∧
    ∀ id l symbol, s.orders.live.lookup id = some l → l.isExternal = true →
      id ∉ u.orders.map (·.orderId) → (s.ShowsOwn l symbol ↔ s.NamesExternal l.gwId symbol) := by
  have hs : s.Legible := legible_run hu hkeyed hr
  refine ⟨fun now req hadm => ?_, fun v1 hv1 => ?_, fun id l symbol hl hext hid => ?_⟩
  · obtain ⟨s', actions, hproc, hs'⟩ := processMessage_total hs now (.placeOrder req)
    have hplace : s.processOrder now req = some (s', actions) := hproc
    rw [← showsAs_placed_iff hs hs' hadm hplace]
    constructor
    · rintro ⟨s₁, acts, h₁, hshows⟩
      rw [hplace, some.injEq, Prod.mk.injEq] at h₁
      rw [h₁.1]
      exact hshows
    · intro hshows
      exact ⟨s', actions, hplace, hshows⟩
  · have hkept : Kept u.blank.metadata := by
      show Kept (fromConfdata u.config)
      rw [hu]
      exact kept_fromConfdata config
    have hnone : ∀ c, OmsEvent.reload c ∈ [] → c.Keyed := nofun
    have hstart : u.start.Legible := legible_run hu hnone rfl
    exact showsAs_restored_iff hkept hstart hv1
  · exact showsOwn_iff hs hl (instrumentId_of_external hr hl hext hid) symbol

open Sample

/-- A request that is resolved and names its source. -/
theorem published_names_desk :
    ∃ s' actions, (cached 4).start.processOrder 0
        { request 10 .buy 5 with sourceId := "desk" } = some (s', actions) ∧
      s'.ShowsAs 10 "P" "desk" :=
  ((published_names_iff (cached 4) (venue false) rfl [] nofun _
    rfl).1 0 { request 10 .buy 5 with sourceId := "desk" } (by decide +kernel)).mpr
    (.inr ⟨.inl (by decide +kernel), .inl ⟨by decide +kernel, by decide⟩⟩)

/-- A request for an instrument that is not in the config is published as one for `P`, by the source
`gw`, which is the key of a gateway; an order that is accepted without a source is published by the
same source. -/
theorem unknown_shown_as_first :
    (∃ r ∈ (cached 4).start.processOrder 0
        { request 10 .buy 5 with instrumentCode := "Z", sourceId := "desk" },
      ∃ l ∈ r.1.orders.live.lookup 10, ∃ o ∈ r.1.buildProtoOrder l,
        o.instrument = "P" ∧ o.sourceId = "gw") ∧
    ∃ r ∈ (cached 4).start.processOrder 0 (request 10 .buy 5),
      ∃ l ∈ r.1.orders.live.lookup 10, ∃ o ∈ r.1.buildProtoOrder l,
        l.orderStatus = .pending ∧ o.sourceId = "gw" := by
  decide +kernel

end OmsCoreV2

end Zkbot
