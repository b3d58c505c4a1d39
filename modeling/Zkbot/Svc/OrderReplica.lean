import Zkbot.Svc.OrderTrace

/-!
# The replica shows the core's orders

A reader sees an order as the core has it exactly as long as every change of its record comes with a
`PersistOrder` action and every name it refers to was known when the config was loaded.

* `ShowsOrders` — what a reader should see.
* `Mirrors` — the invariant, with the actions that are still pending: an order is shown as it is, or
  the last pending `PersistOrder` for it says correctly whether it is closed.
* `replica_shows_orders` — in every run of recorded operations the replica shows the core's orders.
-/

namespace Zkbot

open List Option AList LiveOrder SnapshotMetadata

variable {l' : LiveOrder} {dyn : DynStringTable} {o : SnapshotOrder}

open OmsCoreV2

variable {l : LiveOrder}

open OmsService (Turn Dispatch)

/-! ## Names -/

lemma getElem?_of_mapM {α β : Type} {f : α → Option β} {as : List α} {bs : List β}
    (h : as.mapM f = some bs) (i : ℕ) : as[i]?.map f = bs[i]?.map some := by
  induction as generalizing bs i with
  | nil =>
    cases h
    rfl
  | cons a as ih =>
    simp only [mapM_cons, bind_eq_some] at h
    obtain ⟨b, hb, bs', hbs, h⟩ := h
    cases h
    cases i with
    | zero => exact congrArg some hb
    | succ i => exact ih hbs i

namespace OmsCoreV2

/-- A name table that was copied from the core resolves as the core does. -/
lemma entryName_of_mapM {α : Type} {md : MetadataTables} {sym : α → ℕ} {entries : List α}
    {names : List String} (h : entries.mapM (fun a => md.strResolve (sym a)) = some names) (i : ℕ) :
    entryName md sym entries[i]? = some (nameAt names i) := by
  have hi := getElem?_of_mapM h i
  rw [nameAt]
  cases hentry : entries[i]? with
  | none =>
    rw [hentry, map_none, eq_comm, map_eq_none_iff] at hi
    rw [hi]
    rfl
  | some a =>
    rw [hentry, map_some, eq_comm, map_eq_some_iff] at hi
    obtain ⟨name, hname, ha⟩ := hi
    rw [hname]
    exact ha.symm

/-- What the tables of the snapshot answer, if they were copied from these tables. -/
lemma names_of_buildSnapshotMetadata {s : OmsCoreV2} {names : SnapshotMetadata}
    (h : s.buildSnapshotMetadata = some names) :
    (∀ i, entryName s.metadata (·.instrumentCodeSym) (s.metadata.instrument i) =
      some (names.instrumentName i)) ∧
    (∀ i, entryName s.metadata (·.instrumentExchSym) (s.metadata.instrument i) =
      some (names.instrumentExchName i)) ∧
    (∀ i, entryName s.metadata (·.gwKeySym) (s.metadata.gw i) = some (names.gwName i)) ∧
    ∀ i, (s.metadata.strings.resolve i).getD "" = names.sourceName i := by
  simp only [buildSnapshotMetadata, bind_eq_some] at h
  obtain ⟨insts, hinsts, exchs, hexchs, assets, -, gws, hgws, h⟩ := h
  cases h
  exact ⟨entryName_of_mapM hinsts, entryName_of_mapM hexchs, entryName_of_mapM hgws, fun _ => rfl⟩

lemma buildSnapshotMetadata_congr {s s' : OmsCoreV2} (h : s'.metadata = s.metadata) :
    s'.buildSnapshotMetadata = s.buildSnapshotMetadata := by
  simp [buildSnapshotMetadata, h]

end OmsCoreV2

/-! ## Orders -/

/-- The writer shows an order as it is. -/
def OmsSnapshotWriterV2.Shows (w : OmsSnapshotWriterV2) (core : OmsCoreV2) (l : LiveOrder) : Prop :=
  ∃ o d, w.orders.lookup l.orderId = some o ∧ w.orderDetails.lookup l.orderId = some d ∧
    buildSnapshotOrderFromLive l core.orders.dynStrings = some o ∧ d.errorMsg = l.errorMsg ∧
    (l.orderId ∈ w.openByAccount.getD l.accountId ∅ ↔ l.isInTerminalState = false)

/-- Two records with the same core differ in their cancel attempts only. -/
lemma LiveOrder.eq_of_core (h : l'.core = l.core) : ∃ n, l' = { l with cancelAttempts := n } := by
  refine ⟨l'.cancelAttempts, ?_⟩
  cases l
  cases l'
  cases h
  rfl

/-- The number of cancel attempts is not shown, and a reference keeps its string. -/
lemma buildSnapshotOrder_mono {dyn' : DynStringTable} (hcore : l'.core = l.core)
    (hext : dyn.Extends dyn') (h : buildSnapshotOrderFromLive l dyn = some o) :
    buildSnapshotOrderFromLive l' dyn' = some o := by
  obtain ⟨n, rfl⟩ := eq_of_core hcore
  simp only [buildSnapshotOrderFromLive, resolveRef, bind_eq_some] at h ⊢
  obtain ⟨ref, href, h⟩ := h
  refine ⟨ref, ?_, h⟩
  cases hid : l.exchOrderRefId with
  | none => rwa [hid] at href
  | some i =>
    rw [hid, map_eq_some_iff] at href
    obtain ⟨str, hstr, rfl⟩ := href
    exact map_eq_some_iff.mpr ⟨str, hext i str hstr, rfl⟩

/-- An order of which the snapshot shows everything is shown as well after the core has moved on. -/
lemma OmsSnapshotWriterV2.Shows.mono {w : OmsSnapshotWriterV2} {core core' : OmsCoreV2}
    (h : w.Shows core l) (hcore : l'.core = l.core)
    (hext : core.orders.dynStrings.Extends core'.orders.dynStrings) : w.Shows core' l' := by
  obtain ⟨o, d, ho, hd, hbuild, herr, hopen⟩ := h
  obtain ⟨n, rfl⟩ := eq_of_core hcore
  exact ⟨o, d, ho, hd, buildSnapshotOrder_mono hcore hext hbuild, herr, hopen⟩

/-- Which ids count as open after an update: the caller's word for the order itself. -/
lemma mem_open_applyOrderUpdate (w : OmsSnapshotWriterV2) (o : SnapshotOrder) (setClosed : Bool)
    (accountId id : Int) :
    id ∈ (w.applyOrderUpdate o setClosed).openByAccount.getD accountId ∅ ↔
      if accountId = o.accountId ∧ id = o.orderId then setClosed = false
      else id ∈ w.openByAccount.getD accountId ∅ := by
  simp only [OmsSnapshotWriterV2.applyOrderUpdate, Dict.getD, Dict.lookup_insert_if]
  by_cases hacc : accountId = o.accountId
  · subst hacc
    by_cases hid : id = o.orderId
    · subst hid
      cases setClosed <;> simp
    · cases setClosed <;> simp [hid]
  · simp [hacc]

lemma key_of_buildSnapshotOrder (h : buildSnapshotOrderFromLive l dyn = some o) :
    o.orderId = l.orderId ∧ o.accountId = l.accountId := by
  simp only [buildSnapshotOrderFromLive, bind_eq_some] at h
  obtain ⟨ref, -, h⟩ := h
  cases h
  exact ⟨rfl, rfl⟩

/-! ## The invariant -/

namespace OmsService

variable {core : OmsCoreV2} {w w' : OmsSnapshotWriterV2} {l : LiveOrder} {setClosed : Bool}
  {x : OmsService} {core' : OmsCoreV2} {pending actions rest : List OmsActionV2} {id : Int}

/-- An order is shown, unless it is still to be persisted. -/
def Covered (core : OmsCoreV2) (w : OmsSnapshotWriterV2) (pending : List OmsActionV2) (id : Int)
    (l : LiveOrder) : Prop :=
  match lastPersist pending id with
  | some setClosed => setClosed = l.isInTerminalState
  | none => w.Shows core l

/-- The writer mirrors the core, but for what is pending. -/
structure Mirrors (core : OmsCoreV2) (w : OmsSnapshotWriterV2) (pending : List OmsActionV2) :
    Prop where
  keys : OmsCoreV2.SameKeys core.orders
  ids : OmsCoreV2.OwnIds core.orders
  names : core.buildSnapshotMetadata = some w.metadata
  orders : ∀ id l, core.orders.live.lookup id = some l → Covered core w pending id l

/-- A recorded operation adds what it changes to what is pending. -/
lemma Covered.perform {l' : LiveOrder}
    (h : ∀ l, core.orders.live.lookup id = some l → Covered core w pending id l)
    (htraced : core.Traced actions id l')
    (hext : core.orders.dynStrings.Extends core'.orders.dynStrings) :
    Covered core' w (pending ++ actions) id l' := by
  simp only [Covered, OmsCoreV2.Traced, lastPersist_append] at h htraced ⊢
  cases hact : lastPersist actions id with
  | some setClosed =>
    rw [hact] at htraced
    exact htraced
  | none =>
    rw [hact] at htraced
    obtain ⟨l, hl, hcore⟩ := htraced
    have hl := h l hl
    cases hpending : lastPersist pending id with
    | some setClosed =>
      rw [hpending] at hl
      exact hl.trans (isInTerminalState_of_core hcore).symm
    | none =>
      rw [hpending] at hl
      exact hl.mono hcore hext

theorem Mirrors.perform {op : Op} (h : Mirrors core w pending) (hmsg : op.isReload = false)
    (hok : core.Recorded op) (hop : core.perform op = some (core', actions)) :
    Mirrors core' w (pending ++ actions) := by
  have hstep := step_of_perform hop
  refine ⟨sameKeys_step h.keys hstep, ownIds_step h.keys h.ids hstep, ?_, ?_⟩
  · rw [buildSnapshotMetadata_congr (metadata_perform h.keys hmsg hok hop)]
    exact h.names
  · intro id l' hl'
    exact Covered.perform (h.orders id) (traced_perform h.keys hok hop hl')
      (dynStrings_step h.keys hstep)

section

variable (hk : OmsCoreV2.SameKeys core.orders) (hl : core.orders.live.lookup l.orderId = some l)
include hk hl

lemma persistOrder_eq (h : persistOrder core w l.orderId setClosed = some w') :
    ∃ o d, buildSnapshotOrderFromLive l core.orders.dynStrings = some o ∧
      d.orderId = l.orderId ∧ d.errorMsg = l.errorMsg ∧
      w' = (w.applyOrderUpdate o setClosed).applyOrderDetail d := by
  obtain ⟨log, hlog⟩ := hk.detail hl
  simp only [persistOrder, hl, hlog, bind_eq_some] at h
  obtain ⟨o, ho, d, hd, h⟩ := h
  simp only [buildSnapshotDetailFromCore, bind_eq_some] at hd
  obtain ⟨ref, -, hd⟩ := hd
  cases hd
  exact ⟨o, _, ho, rfl, rfl, (some.inj h).symm⟩

lemma shows_persistOrder_ne {m : LiveOrder}
    (h : persistOrder core w l.orderId setClosed = some w') (hne : m.orderId ≠ l.orderId)
    (hm : w.Shows core m) : w'.Shows core m := by
  obtain ⟨o, d, ho, hd, -, rfl⟩ := persistOrder_eq hk hl h
  obtain ⟨hkey, -⟩ := key_of_buildSnapshotOrder ho
  obtain ⟨o₁, d₁, ho₁, hd₁, hbuild, herr, hopen⟩ := hm
  refine ⟨o₁, d₁, ?_, ?_, hbuild, herr, ?_⟩
  · rw [← ho₁]
    exact lookup_insert_ne (by rwa [hkey])
  · rw [← hd₁]
    exact lookup_insert_ne (by rwa [hd])
  · refine (mem_open_applyOrderUpdate w o setClosed _ _).trans ?_
    rw [if_neg (fun hsame => hne (hsame.2.trans hkey)), hopen]

lemma shows_persistOrder_self (h : persistOrder core w l.orderId l.isInTerminalState = some w') :
    w'.Shows core l := by
  obtain ⟨o, d, ho, hd, herr, rfl⟩ := persistOrder_eq hk hl h
  obtain ⟨hkey, hacc⟩ := key_of_buildSnapshotOrder ho
  refine ⟨o, d, ?_, ?_, ho, herr, ?_⟩
  · rw [← hkey]
    exact lookup_insert _
  · rw [← hd]
    exact lookup_insert _
  · refine (mem_open_applyOrderUpdate w o _ _ _).trans ?_
    rw [if_pos ⟨hacc.symm, hkey.symm⟩]

end

/-- Carrying out a `PersistOrder` action. -/
theorem Mirrors.persist {setExpire : Bool}
    (h : Mirrors core w (.persistOrder id setExpire setClosed :: rest))
    (hw : persistOrder core w id setClosed = some w') : Mirrors core w' rest := by
  have hlast : ∀ j, lastPersist (.persistOrder id setExpire setClosed :: rest) j =
      (lastPersist rest j).or (if id = j then some setClosed else none) := by
    intro j
    simp [lastPersist]
  cases hl : core.orders.live.lookup id with
  | none =>
    -- the order is gone by now, and nothing is written
    simp only [persistOrder, hl] at hw
    cases hw
    refine { h with orders := fun j m hm => ?_ }
    have hcov := h.orders j m hm
    have hj : id ≠ j := by
      rintro rfl
      rw [hl] at hm
      cases hm
    rwa [Covered, hlast, if_neg hj, or_none] at hcov
  | some l =>
    obtain rfl := h.ids id l hl
    obtain ⟨o, d, -, -, -, hw'⟩ := persistOrder_eq h.keys hl hw
    refine ⟨h.keys, h.ids, ?_, fun j m hm => ?_⟩
    · rw [hw']
      exact h.names
    · have hcov := h.orders j m hm
      simp only [Covered, hlast] at hcov ⊢
      cases hrest : lastPersist rest j with
      | some c =>
        rw [hrest] at hcov
        exact hcov
      | none =>
        rw [hrest, none_or] at hcov
        by_cases hj : l.orderId = j
        · subst hj
          obtain rfl : l = m := mem_unique hl hm
          rw [if_pos rfl] at hcov
          subst hcov
          exact shows_persistOrder_self h.keys hl hw
        · rw [if_neg hj] at hcov
          have hne : m.orderId ≠ l.orderId := by
            rw [h.ids j m hm]
            exact Ne.symm hj
          exact shows_persistOrder_ne h.keys hl hw hne hcov

/-- Any other action can be dropped. -/
lemma Mirrors.skip {a : OmsActionV2} (h : Mirrors core w (a :: rest))
    (ha : ∀ orderId setExpire setClosed, a ≠ .persistOrder orderId setExpire setClosed) :
    Mirrors core w rest := by
  refine { h with orders := fun id l hl => ?_ }
  have hcov := h.orders id l hl
  rwa [Covered, lastPersist_cons_other ha] at hcov

/-- **The writer mirrors the core at every moment of a command.** -/
theorem mirrors_turn {t t' : Turn} (h : Mirrors t.core t.writer t.pending)
    (hstep : Turn.Step OmsCoreV2.Recorded t t') : Mirrors t'.core t'.writer t'.pending := by
  cases hstep with
  | perform _ _ _ hmsg hok hop => exact h.perform hmsg hok hop
  | persistOrder _ _ _ _ hp _ hw =>
    rw [hp] at h
    exact h.persist hw
  | publishBalances accountId rest hp | publishPositions accountId rest hp =>
    rw [hp] at h
    exact h.skip (by simp)
  | skip a rest hp hpersist _ _ =>
    rw [hp] at h
    exact h.skip hpersist

/-! ## Commands and the start -/

/-- What a reader should see: every order of the core, as the core would answer for it, and among
the open orders of its account iff it is working. -/
def ShowsOrders (x : OmsService) : Prop :=
  ∀ id l, x.core.orders.live.lookup id = some l →
    ∃ o, x.replica.orders.lookup id = some o ∧
      x.core.buildProtoOrder l =
        some (o.toProtoOrder x.replica.metadata (x.replica.orderDetails.lookup id)) ∧
      (id ∈ x.replica.openOrderIdsByAccount.getD l.accountId ∅ ↔ l.isInTerminalState = false)

/-- Nothing is pending, and the replica is what the writer has. -/
structure InSync (x : OmsService) : Prop where
  mirrors : Mirrors x.core x.writer []
  metadata : x.replica.metadata = x.writer.metadata
  orders : x.replica.orders = x.writer.orders
  details : x.replica.orderDetails = x.writer.orderDetails
  openOrders : x.replica.openOrderIdsByAccount = x.writer.openByAccount

/-- An order that the writer shows as it is reads as the core would answer for it. -/
lemma buildProtoOrder_of_shows {names : SnapshotMetadata} {o : SnapshotOrder}
    {d : SnapshotOrderDetail} (hnames : core.buildSnapshotMetadata = some names)
    (ho : buildSnapshotOrderFromLive l core.orders.dynStrings = some o)
    (herr : d.errorMsg = l.errorMsg) :
    core.buildProtoOrder l = some (o.toProtoOrder names (some d)) := by
  obtain ⟨hinst, hexch, hgw, hsource⟩ := names_of_buildSnapshotMetadata hnames
  simp only [buildSnapshotOrderFromLive, bind_eq_some] at ho
  obtain ⟨ref, href, ho⟩ := ho
  have hstr : core.orders.exchRefString l = some (ref.getD "") := by
    simp only [resolveRef] at href
    simp only [OrderStoreV2.exchRefString]
    cases hid : l.exchOrderRefId with
    | none =>
      rw [hid] at href
      cases href
      rfl
    | some i =>
      rw [hid, map_eq_some_iff] at href
      obtain ⟨str, hi, rfl⟩ := href
      exact hi
  cases ho
  simp [buildProtoOrder, hinst, hexch, hgw, hstr, hsource, SnapshotOrder.toProtoOrder, herr]

theorem InSync.showsOrders (h : InSync x) : x.ShowsOrders := by
  intro id l hl
  have hcov := h.mirrors.orders id l hl
  obtain ⟨o, d, ho, hd, hbuild, herr, hopen⟩ : x.writer.Shows x.core l := hcov
  obtain rfl := h.mirrors.ids id l hl
  refine ⟨o, ?_, ?_, ?_⟩
  · rw [h.orders]
    exact ho
  · rw [h.metadata, h.details, hd]
    exact buildProtoOrder_of_shows h.mirrors.names hbuild herr
  · rw [h.openOrders]
    exact hopen

lemma inSync_published {y : Dispatch} {tsMs : Int} (h : Mirrors y.core y.writer []) :
    InSync (x.published y tsMs) :=
  ⟨{ h with }, rfl, rfl, rfl, rfl⟩

/-- The panic set has nothing to do with orders. -/
lemma Mirrors.panicUpdate (h : Mirrors core w []) (c : OmsCommand) :
    Mirrors core (panicUpdate w c) [] := by
  cases c
  all_goals exact { h with }

/-- **A command of recorded operations keeps the replica in sync.** -/
theorem inSync_command {x' : OmsService} {d : Delivery} (h : InSync x)
    (hg : Guarded step OmsCoreV2.Recorded x.core (x.operations d))
    (hstep : x.processCommand d = some x') : InSync x' := by
  cases processCommand_cases hg hstep with
  | other hs =>
    rw [hs]
    exact h
  | reload config core names _ hcore hnames hs =>
    rw [hs]
    have horders : core.orders = x.core.orders := by
      obtain ⟨md, rfl⟩ := reloadConfig_eq hcore
      rfl
    refine inSync_published ⟨?_, ?_, hnames, ?_⟩
    · rw [horders]
      exact h.mirrors.keys
    · rw [horders]
      exact h.mirrors.ids
    · intro id l hl
      rw [horders] at hl
      obtain ⟨o, d, ho, hd, hbuild, hrest⟩ := h.mirrors.orders id l hl
      rw [← horders] at hbuild
      exact ⟨o, d, ho, hd, hbuild, hrest⟩
  | message z hturns hs =>
    rw [hs]
    have hend := Turn.Step.invariant (I := fun t => Mirrors t.core t.writer t.pending)
      (fun t t' => mirrors_turn) (h.mirrors.panicUpdate d.command) hturns
    exact inSync_published hend

/-- The `PersistOrder` action that the first snapshot stands for. -/
def hydration (core : OmsCoreV2) (id : Int) : Option OmsActionV2 :=
  (core.orders.live.lookup id).map fun l => .persistOrder id false l.isInTerminalState

lemma lastPersist_hydration (hl : core.orders.live.lookup id = some l) (ids : List Int) :
    lastPersist (ids.filterMap (hydration core)) id =
      if id ∈ ids then some l.isInTerminalState else none := by
  have hone : ∀ j, lastPersist ([j].filterMap (hydration core)) id =
      if id = j then some l.isInTerminalState else none := by
    intro j
    by_cases hj : id = j
    · subst hj
      simp [hydration, hl, lastPersist]
    · cases hj' : core.orders.live.lookup j with
      | none => simp [hydration, hj', lastPersist, hj]
      | some m => simp [hydration, hj', lastPersist, hj, Ne.symm hj]
  induction ids with
  | nil => rfl
  | cons j ids ih =>
    rw [← singleton_append, filterMap_append, lastPersist_append, ih, hone]
    by_cases hmem : id ∈ ids
    · simp [hmem]
    · by_cases hj : id = j
      · simp [hmem]
      · simp [hmem, hj]

/-- The orders of the first snapshot are persisted one by one. -/
lemma mirrors_hydrate {ids : List Int} (h : Mirrors core w (ids.filterMap (hydration core)))
    (hw : ids.foldlM (hydrateOrder core) w = some w') : Mirrors core w' [] := by
  induction ids generalizing w with
  | nil =>
    cases hw
    exact h
  | cons id ids ih =>
    rw [foldlM_cons, bind_eq_some] at hw
    obtain ⟨w₁, hw₁, hw⟩ := hw
    refine ih ?_ hw
    cases hl : core.orders.live.lookup id with
    | none =>
      simp only [hydrateOrder, hl] at hw₁
      cases hw₁
      rwa [filterMap_cons_none (by rw [hydration, hl]; rfl)] at h
    | some l =>
      simp only [hydrateOrder, hl] at hw₁
      rw [filterMap_cons_some (by rw [hydration, hl]; rfl)] at h
      exact h.persist hw₁

/-- The first snapshot shows every order. -/
theorem inSync_launch {tsMs : Int} (hk : OmsCoreV2.SameKeys core.orders)
    (hids : OmsCoreV2.OwnIds core.orders) (h : launch core tsMs = some x) : InSync x := by
  simp only [launch, bind_eq_some] at h
  obtain ⟨names, hnames, w, hw, h⟩ := h
  cases h
  have hstart : Mirrors core { metadata := names }
      (core.orders.live.keys.filterMap (hydration core)) := by
    refine ⟨hk, hids, hnames, fun id l hl => ?_⟩
    have hmem : id ∈ core.orders.live.keys := Dict.mem_of_lookup hl
    rw [Covered, lastPersist_hydration hl, if_pos hmem]
  have hend := mirrors_hydrate hstart hw
  exact ⟨{ hend with }, rfl, rfl, rfl, rfl⟩

end OmsService

open OmsService

lemma ServiceSetup.start_inSync {u : ServiceSetup} {x : OmsService} (h : u.start = some x) :
    OmsService.InSync x := by
  simp only [start, bind_eq_some] at h
  obtain ⟨core, hcore, h⟩ := h
  have hg : Guarded step (fun _ _ => True) u.core.start
      ((u.reconcile.map fun m => OmsEvent.message m.1 m.2).flatMap OmsEvent.ops) :=
    guarded_of_forall (fun _ _ => trivial) _ _
  have hinv := events_invariant
    (I := fun s => OmsCoreV2.SameKeys s.orders ∧ OmsCoreV2.OwnIds s.orders)
    (fun s op s' hs _ hstep =>
      ⟨sameKeys_step hs.1 hstep, ownIds_step hs.1 hs.2 hstep⟩)
    ⟨sameKeys_start u.core, ownIds_start u.core⟩ hg hcore
  exact inSync_launch hinv.1 hinv.2 h

/-- **The replica shows the core's orders** after every command, in every run whose operations are
recorded. -/
theorem replica_shows_orders {u : ServiceSetup} {x y : OmsService} {ds : List Delivery}
    (hstart : u.start = some x)
    (hg : Guarded processCommand
      (fun x d => Guarded step OmsCoreV2.Recorded x.core (x.operations d)) x ds)
    (hr : run processCommand x ds = some y) : y.ShowsOrders := by
  have hend := run_invariant (I := OmsService.InSync)
    (fun x d x' hx hok hstep => inSync_command hx hok hstep)
    (ServiceSetup.start_inSync hstart) hg hr
  exact hend.showsOrders

open Sample

/-- An order that is placed, linked and partly filled. -/
def Sample.fillDay : List Delivery :=
  [{ command := .placeOrder (request 10 .buy 3) }, { command := .gatewayOrderReport linkReport },
    { command := .gatewayOrderReport fillReport }]

/-- Such an order is shown. -/
theorem replica_shows_orders_sample :
    ∃ x y, (service false false).start = some x ∧
      run processCommand x fillDay = some y ∧ 10 ∈ y.core.orders.live ∧
      y.ShowsOrders := by
  obtain ⟨x, hstart, hg, y, hr, hmem⟩ : ∃ x ∈ (service false false).start,
      Guarded processCommand
        (fun x d => Guarded step OmsCoreV2.Recorded x.core (x.operations d)) x
        fillDay ∧
      ∃ y ∈ run processCommand x fillDay, 10 ∈ y.core.orders.live := by
    decide +kernel
  exact ⟨x, y, hstart, hr, hmem, replica_shows_orders hstart hg hr⟩

/-- An order that is refused, here for want of a route, is in the core and not in the replica. -/
theorem refused_order_not_shown :
    ∃ x y, (service false false).start = some x ∧
      run processCommand x [{ command := .placeOrder stray }] = some y ∧
      ¬ y.ShowsOrders := by
  obtain ⟨x, hstart, y, hr, l, hl, hnone⟩ : ∃ x ∈ (service false false).start,
      ∃ y ∈ run processCommand x [{ command := .placeOrder stray }],
        ∃ l ∈ y.core.orders.live.lookup 10, y.replica.orders.lookup 10 = none := by
    decide +kernel
  refine ⟨x, y, hstart, hr, fun hshows => ?_⟩
  obtain ⟨o, ho, -⟩ := hshows 10 l hl
  rw [hnone] at ho
  cases ho

end Zkbot
