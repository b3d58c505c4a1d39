import Zkbot.Oms.Names

/-!
# The routes and size limits in force

A request is checked against the routes and the trading flags in the tables.  `Reflects` says that
those are the ones of a config: a route leads to the gateway that the config names for the account,
and the limit found under a code is the one that the config sets for it.

Both are written by loops that run once the gateways and the instruments are there, so `Reflects` is
a fact about two loops and about what later steps leave alone (`KeepsRouting`).  A reload rewrites
both maps, and messages only intern strings, so in every run the tables reflect the config in force
(`reflects_run`).
-/

namespace Zkbot

open List Option InternTable

open MetadataTables (Interned WellBuilt Coded)

namespace MetadataTables

variable {config : ConfdataManager} {md md' : MetadataTables} {code : String}
  {tc : InstrumentTradingConfig}

/-! ## The routes and limits of a config -/

/-- The size limit that the tables have for a code is the one of `tc`.  The code is interned, so
that no string interned later can take its place. -/
def Limits (md : MetadataTables) (code : String) (tc : InstrumentTradingConfig) : Prop :=
  ∃ sym, md.strings.lookup code = some sym ∧ ∀ i, md.instrumentByCode.lookup sym = some i →
    ∃ tm, md.trading i = some tm ∧ tm.maxOrderSize = tc.maxOrderSize

/-- The routes in the tables are routes of a config, to the gateways that the config names. -/
def Routed (config : ConfdataManager) (md : MetadataTables) : Prop :=
  ∀ a rt, md.route a = some rt →
    ∃ r, config.accountRoutes.lookup a = some r ∧ md.gwIdOfKey r.gwKey = some rt.gwId

/-- The routes and the size limits in the tables are those of a config. -/
structure Reflects (config : ConfdataManager) (md : MetadataTables) : Prop where
  wellBuilt : WellBuilt md
  routed : Routed config md
  limits : ∀ code tc, config.tradingConfigs.lookup code = some tc → md.Limits code tc

/-- A step that leaves the routes and the gateway keys alone. -/
structure KeepsRouting (md md' : MetadataTables) : Prop where
  routeByAccount : md'.routeByAccount = md.routeByAccount
  gwByKey : md'.gwByKey = md.gwByKey
  strings : md.strings.Extends md'.strings

namespace KeepsRouting

variable {md' : MetadataTables} {acc acc' : MetadataTables × Dict ℕ ℕ} {old : Dict ℕ ℕ}
  {r : InstrumentRefData}

lemma refl (md : MetadataTables) : KeepsRouting md md := ⟨rfl, rfl, fun _ _ h => h⟩

lemma trans {md'' : MetadataTables} (h : KeepsRouting md md') (h' : KeepsRouting md' md'') :
    KeepsRouting md md'' where
  routeByAccount := h'.routeByAccount.trans h.routeByAccount
  gwByKey := h'.gwByKey.trans h.gwByKey
  strings := h.strings.trans h'.strings

lemma of_interned (h : Interned md md') : KeepsRouting md md' := by
  obtain ⟨t, rfl, ht⟩ := h
  exact ⟨rfl, rfl, ht⟩

lemma foldl {α : Type} {f : MetadataTables → α → MetadataTables}
    (h : ∀ md a, KeepsRouting md (f md a)) (md : MetadataTables) (as : List α) :
    KeepsRouting md (as.foldl f md) := by
  induction as generalizing md with
  | nil => exact .refl md
  | cons a as ih => exact (h md a).trans (ih (f md a))

lemma gwIdOfKey (h : KeepsRouting md md') {key : String} {g : ℕ} (hg : md.gwIdOfKey key = some g) :
    md'.gwIdOfKey key = some g := by
  simp only [MetadataTables.gwIdOfKey, bind_eq_some] at hg ⊢
  obtain ⟨sym, hsym, hg⟩ := hg
  refine ⟨sym, h.strings.lookup hsym, ?_⟩
  rw [h.gwByKey]
  exact hg

lemma ensureAsset (md : MetadataTables) (name : String) :
    KeepsRouting md (md.ensureAsset name) := by
  refine ⟨?_, ?_, (grows_ensureAsset md name).strings⟩ <;>
    simp only [MetadataTables.ensureAsset, intern] <;> split_ifs
  any_goals rfl
  all_goals split <;> rfl

lemma addAssets (md : MetadataTables) (r : InstrumentRefData) : KeepsRouting md (md.addAssets r) :=
  ((ensureAsset md _).trans (ensureAsset _ _)).trans (ensureAsset _ _)

lemma internRefData (md : MetadataTables) (r : InstrumentRefData) :
    KeepsRouting md (md.internRefData r) := by
  refine of_interned ⟨(md.internRefData r).strings, ?_, (grows_internRefData md r).strings⟩
  exact internRefData_eq md r

lemma indexGwSymbols (config : ConfdataManager) (exchangeName : String) (exchSym instId : ℕ)
    (md : MetadataTables) :
    KeepsRouting md (indexGwSymbols config exchangeName exchSym instId md) := by
  obtain ⟨t, bySym, heq, hext, -⟩ := indexGwSymbols_spec config exchangeName exchSym instId md
  rw [heq]
  exact ⟨rfl, rfl, hext⟩

lemma addInstrument (config : ConfdataManager) (md : MetadataTables) (r : InstrumentRefData) :
    KeepsRouting md (md.addInstrument config r) := by
  have hmid := internRefData md r
  refine KeepsRouting.trans ?_ (indexGwSymbols config _ _ _ _)
  exact { hmid with }

lemma addTrading (md : MetadataTables) (code : String) (tc : InstrumentTradingConfig) :
    KeepsRouting md (md.addTrading code tc) := by
  refine ⟨?_, ?_, (grows_addTrading md code tc).strings⟩ <;>
    simp only [MetadataTables.addTrading, intern] <;> split <;> rfl

lemma ensureAssetStable {name : String} (h : ensureAssetStable old name acc = some acc') :
    KeepsRouting acc.1 acc'.1 := by
  simp only [MetadataTables.ensureAssetStable, intern] at h
  have hmid : KeepsRouting acc.1 (acc.1.intern name).1 := of_interned (.intern _ _)
  split_ifs at h
  · cases h
    exact .refl _
  · split at h
    · cases h
      exact hmid
    · obtain ⟨assets, -, h⟩ := bind_eq_some.mp h
      cases h
      exact { hmid with }
    · cases h
      exact { hmid with }

lemma rebuildAssets (h : rebuildAssets old acc r = some acc') : KeepsRouting acc.1 acc'.1 := by
  simp only [MetadataTables.rebuildAssets, bind_eq_some] at h
  obtain ⟨acc₁, h₁, acc₂, h₂, h₃⟩ := h
  exact ((ensureAssetStable h₁).trans (ensureAssetStable h₂)).trans (ensureAssetStable h₃)

lemma rebuildInstrument (h : rebuildInstrument config old acc r = some acc') :
    KeepsRouting acc.1 acc'.1 := by
  obtain ⟨md, new⟩ := acc
  rw [rebuildInstrument_place, bind_eq_some_iff] at h
  obtain ⟨instruments, -, h⟩ := h
  cases h
  have hmid := internRefData md r
  refine KeepsRouting.trans ?_ (indexGwSymbols config _ _ _ _)
  exact { hmid with }

end KeepsRouting

/-! ### Routes -/

lemma Routed.keeps (h : Routed config md) (hmd : KeepsRouting md md') : Routed config md' := by
  intro a rt hrt
  rw [route, hmd.routeByAccount] at hrt
  obtain ⟨r, hr, hgw⟩ := h a rt hrt
  exact ⟨r, hr, hmd.gwIdOfKey hgw⟩

lemma Routed.addRoute (h : Routed config md) {a : Int} {r : OmsRouteEntry}
    (hr : config.accountRoutes.lookup a = some r) : Routed config (md.addRoute a r) := by
  simp only [MetadataTables.addRoute]
  have hkey : KeepsRouting md (md.intern r.gwKey).1 := .of_interned (.intern _ _)
  have hacc : KeepsRouting (md.intern r.gwKey).1 ((md.intern r.gwKey).1.intern r.exchAccountId).1 :=
    .of_interned (.intern _ _)
  split
  · exact h.keeps hkey
  · rename_i gwId hgwId
    intro b rt hrt
    rw [route, Dict.lookup_insert_if] at hrt
    split_ifs at hrt with hb
    · -- the route just entered: its gateway is what its key led to
      cases hrt
      subst hb
      refine ⟨r, hr, hacc.gwIdOfKey ?_⟩
      have hsym : (md.intern r.gwKey).1.strings.lookup r.gwKey = some (md.intern r.gwKey).2 :=
        lookup_intern_self _ _
      simp only [gwIdOfKey, hsym, some_bind]
      exact hgwId
    · exact h.keeps (hkey.trans hacc) b rt hrt

lemma routed_addRoutes (config : ConfdataManager) (h : md.routeByAccount = ∅) :
    Routed config (config.accountRoutes.entries.foldl (fun md e => md.addRoute e.1 e.2) md) := by
  refine List.foldlRecOn _ _ ?_ ?_
  · intro a rt hrt
    rw [route, h] at hrt
    cases hrt
  · intro md' hmd' e he
    exact hmd'.addRoute (Dict.mem_entries_iff.mp he)

/-! ### Size limits -/

lemma Limits.interned (h : md.Limits code tc) (hmd : Interned md md') : md'.Limits code tc := by
  obtain ⟨t, rfl, ht⟩ := hmd
  obtain ⟨sym, hsym, hlim⟩ := h
  exact ⟨sym, ht.lookup hsym, hlim⟩

lemma limits_addTrading_self (md : MetadataTables) (code : String) (tc : InstrumentTradingConfig) :
    (md.addTrading code tc).Limits code tc := by
  have hsym : (md.intern code).1.strings.lookup code = some (md.intern code).2 :=
    lookup_intern_self _ _
  simp only [addTrading]
  split
  · rename_i hnone
    refine ⟨_, hsym, fun i hi => ?_⟩
    rw [hnone] at hi
    cases hi
  · rename_i i hi
    refine ⟨_, hsym, fun j hj => ?_⟩
    obtain rfl := mem_unique hi hj
    exact ⟨_, AList.lookup_insert _, rfl⟩

/-- The trading config of another code leaves it alone: no two codes lead to one instrument. -/
lemma Limits.addTrading {code' : String} {tc' : InstrumentTradingConfig} (h : md.Limits code tc)
    (hcoded : Coded md.instruments md.instrumentByCode) (hne : code' ≠ code) :
    (md.addTrading code' tc').Limits code tc := by
  have hmid : (md.intern code').1.Limits code tc := h.interned (.intern _ _)
  simp only [MetadataTables.addTrading]
  split
  · exact hmid
  · rename_i i hi
    obtain ⟨sym, hsym, hlim⟩ := hmid
    refine ⟨sym, hsym, fun j hj => ?_⟩
    obtain ⟨tm, htm, hmax⟩ := hlim j hj
    refine ⟨tm, ?_, hmax⟩
    rw [trading, AList.lookup_insert_ne]
    · exact htm
    · rintro rfl
      obtain ⟨inst, hinst, hcode⟩ := hcoded _ _ hi
      obtain ⟨inst', hinst', hcode'⟩ := hcoded _ _ hj
      obtain rfl := mem_unique hinst hinst'
      have hsym' : (md.intern code').1.strings.lookup code' = some (md.intern code').2 :=
        lookup_intern_self _ _
      refine hne (lookup_inj hsym' ?_)
      rw [← hcode, hcode']
      exact hsym

/-- The trading loop: every config that is read sets the limit of its code. -/
lemma limits_addTradings {es : List (Sigma fun _ : String => InstrumentTradingConfig)}
    (hnodup : (es.map (·.1)).Nodup) (hcoded : Coded md.instruments md.instrumentByCode) :
    ∀ e ∈ es, (es.foldl (fun md e => md.addTrading e.1 e.2) md).Limits e.1 e.2 := by
  -- a limit that is set already is kept by the configs of other codes
  have hkept : ∀ (es : List (Sigma fun _ : String => InstrumentTradingConfig))
      (md : MetadataTables),
      Coded md.instruments md.instrumentByCode → ∀ code tc, code ∉ es.map (·.1) →
        md.Limits code tc → (es.foldl (fun md e => md.addTrading e.1 e.2) md).Limits code tc := by
    intro es
    induction es with
    | nil =>
      intro md _ code tc _ h
      exact h
    | cons e es ih =>
      intro md hcoded code tc hmem h
      rw [map_cons, mem_cons, not_or] at hmem
      have hg := grows_addTrading md e.1 e.2
      refine ih _ ?_ code tc hmem.2 (h.addTrading hcoded (Ne.symm hmem.1))
      rw [hg.instruments, hg.instrumentByCode]
      exact hcoded
  induction es generalizing md with
  | nil => simp
  | cons e es ih =>
    rw [map_cons, nodup_cons] at hnodup
    have hg := grows_addTrading md e.1 e.2
    have hcoded' : Coded (md.addTrading e.1 e.2).instruments
        (md.addTrading e.1 e.2).instrumentByCode := by
      rw [hg.instruments, hg.instrumentByCode]
      exact hcoded
    intro e' he'
    rcases mem_cons.mp he' with rfl | he'
    · exact hkept es _ hcoded' _ _ hnodup.1 (limits_addTrading_self md _ _)
    · exact ih hnodup.2 hcoded' e' he'

/-! ### Building, reloading, interning -/

lemma Reflects.interned (h : Reflects config md) (hmd : Interned md md') : Reflects config md' where
  wellBuilt := h.wellBuilt.grows hmd.grows
  routed := h.routed.keeps (.of_interned hmd)
  limits code tc htc := (h.limits code tc htc).interned hmd

/-- What is left once routes are entered and the tables are well built. -/
lemma reflects_of_loops (hrouted : Routed config md)
    (h : WellBuilt (config.tradingConfigs.entries.foldl (fun md e => md.addTrading e.1 e.2) md)) :
    Reflects config
      (config.tradingConfigs.entries.foldl (fun md e => md.addTrading e.1 e.2) md) where
  wellBuilt := h
  routed := hrouted.keeps (KeepsRouting.foldl
    (fun md (e : Sigma fun _ : String => InstrumentTradingConfig) => .addTrading md e.1 e.2) _ _)
  limits code tc htc := by
    have hg := grows_addTradings md config.tradingConfigs.entries
    have hcoded := h.coded
    rw [hg.instruments, hg.instrumentByCode] at hcoded
    exact limits_addTradings config.tradingConfigs.keys_nodup hcoded ⟨code, tc⟩
      (Dict.mem_entries_iff.mpr htc)

lemma addGws_routes (config : ConfdataManager) :
    (config.gwConfigs.entries.foldl (fun md e => md.addGw e.2)
      ({} : MetadataTables)).routeByAccount = ∅ :=
  foldl_preserves (fun (md : MetadataTables) (e : Sigma fun _ : String => GwConfigEntry) =>
    (rfl : (md.addGw e.2).routeByAccount = md.routeByAccount)) _ _

/-- The two loops between the routes and the trading configs. -/
lemma keepsRouting_addAll (config : ConfdataManager) (md : MetadataTables) :
    KeepsRouting md (config.refdata.entries.foldl (fun md e => md.addInstrument config e.2)
      (config.refdata.entries.foldl (fun md e => md.addAssets e.2) md)) :=
  (KeepsRouting.foldl (fun md e => .addAssets md e.2) md config.refdata.entries).trans
    (.foldl (fun md e => .addInstrument config md e.2) _ config.refdata.entries)

lemma reflects_fromConfdata (config : ConfdataManager) : Reflects config (fromConfdata config) :=
  reflects_of_loops ((routed_addRoutes config (addGws_routes config)).keeps
    (keepsRouting_addAll config _)) (wellBuilt_fromConfdata config)

/-- The symbols of every route stand for strings. -/
lemma goodRoutes_fromConfdata (config : ConfdataManager) :
    GoodRoutes (fromConfdata config).strings (fromConfdata config).routeByAccount := by
  obtain ⟨t, routes, hroutes, -, hgood⟩ := addRoutes_spec
    (config.gwConfigs.entries.foldl (fun md e => md.addGw e.2) {})
    (fun a r hr => by rw [addGws_routes] at hr; cases hr) config
  have hrest : KeepsRouting _ (fromConfdata config) := (keepsRouting_addAll config _).trans
    (.foldl (fun md e => .addTrading md e.1 e.2) _ config.tradingConfigs.entries)
  rw [hroutes] at hrest
  rw [hrest.routeByAccount]
  exact hgood.mono hrest.strings

lemma reflects_reload (h : WellBuilt md) (hmd : md.rebuildFromConfig config = some md') :
    Reflects config md' := by
  have hbuilt := wellBuilt_rebuildFromConfig h hmd
  simp only [rebuildFromConfig, bind_eq_some] at hmd
  obtain ⟨⟨m₁, gwByKey⟩, -, ⟨m₃, assetBySymbol⟩, hassets, ⟨m₄, instrumentByCode⟩, hinsts, hmd⟩ :=
    hmd
  cases hmd
  refine reflects_of_loops ?_ hbuilt
  have hempty :
      ({ m₁ with gwByKey, routeByAccount := ∅ } : MetadataTables).routeByAccount = ∅ := rfl
  have hrouted := routed_addRoutes config hempty
  have hkeep₃ := foldlM_invariant (I := fun acc : MetadataTables × Dict ℕ ℕ => KeepsRouting _ acc.1)
    (fun _ _ _ hacc he => hacc.trans (.rebuildAssets he)) (.refl _) hassets
  have hkeep₄ := foldlM_invariant (I := fun acc : MetadataTables × Dict ℕ ℕ => KeepsRouting _ acc.1)
    (fun _ _ _ hacc he => hacc.trans (.rebuildInstrument he)) (.refl _) hinsts
  have h₃ : Routed config m₃ := hrouted.keeps hkeep₃
  -- the two indexes that are rebuilt next are not read by a route
  have h₃' : Routed config { m₃ with assetBySymbol, instrumentByGwSymbol := ∅ } := h₃
  have h₄ : Routed config m₄ := h₃'.keeps hkeep₄
  exact h₄

end MetadataTables

open MetadataTables

open MetadataTables (Reflects) in
/-- **The routes and limits in the tables are those of the config in force**, in every run. -/
theorem OmsCoreV2.reflects_run {u : OmsSetup} {evs : List OmsEvent} {s : OmsCoreV2}
    (hr : run handle u.start evs = some s) : Reflects (inForce u.config evs) s.metadata := by
  refine inForce_run (P := Reflects) (fun _ _ _ h => h.interned) ?_ (sameKeys_start u) ?_ hr
  · intro _ _ _ _ _ h hmd
    exact reflects_reload h.wellBuilt hmd
  · exact (reflects_fromConfdata u.config).interned (metadata_start u)

end Zkbot
