import Zkbot.Oms.Routing

/-!
# What a request resolves to

`resolve_order_meta` reads the tables, not the configuration.  Here the two are compared for a
request on an instrument, an account and a gateway that the configuration has:

* `Described` — every instrument of the tables has the precision of the configuration's;
* `Traded` — every trading entry of the tables is that of the configuration;
* `route_fromConfdata` — no route to a gateway of the configuration is lost;
* `resolveOrderMeta_known` — what the request is resolved to.
-/

namespace Zkbot

open List Option AList Dict MetadataTables InternTable

namespace MetadataTables

variable {config : ConfdataManager} {md md' : MetadataTables} {code : String}
  {inst : InstrumentMeta} {r : InstrumentRefData} {a : Int}

/-! ## Instruments -/

/-- Every instrument in the tables is one of the config, with its precision. -/
def Described (config : ConfdataManager) (md : MetadataTables) : Prop :=
  ∀ inst ∈ md.instruments, ∃ r, config.refdata.lookup r.instrumentId = some r ∧
    md.strResolve inst.instrumentCodeSym = some r.instrumentId ∧
    inst.qtyPrecision = r.qtyPrecision

lemma Described.grows (h : Described config md) (hg : Grows md md') : Described config md' := by
  intro inst hinst
  rw [hg.instruments] at hinst
  obtain ⟨r, hr, hcode, hqty⟩ := h inst hinst
  exact ⟨r, hr, hg.strings _ _ hcode, hqty⟩

lemma Described.addInstrument (h : Described config md)
    (hr : config.refdata.lookup r.instrumentId = some r) :
    Described config (md.addInstrument config r) := by
  refine Described.grows ?_ (grows_indexGwSymbols config _ _ _ _)
  intro inst hinst
  rcases mem_append.mp hinst with hold | hnew
  · exact (h.grows (grows_internRefData md r)) inst hold
  · rw [mem_singleton] at hnew
    subst hnew
    exact ⟨r, hr, resolve_codeSym md r, rfl⟩

lemma described_fromConfdata (config : Confdata) :
    Described config.toConfdataManager (fromConfdata config.toConfdataManager) := by
  refine fromConfdata_induct _ ?_ Described.grows fun md e he hmd => ?_
  · intro inst hinst
    cases hinst
  · have hlook := mem_entries_iff.mp he
    refine hmd.addInstrument ?_
    rw [config.keyed.refdata e.1 e.2 hlook]
    exact hlook

lemma resolveInstrument_eq_some (hb : WellBuilt md) (h : md.resolveInstrument code = some inst) :
    md.strings.lookup code = some inst.instrumentCodeSym ∧
      md.instrumentByCode.lookup inst.instrumentCodeSym = some inst.instrumentId := by
  simp only [resolveInstrument, bind_eq_some] at h
  obtain ⟨sym, hsym, i, hi, hinst⟩ := h
  obtain ⟨inst', hinst', hcode⟩ := hb.coded sym i hi
  obtain rfl : inst' = inst := mem_unique hinst' hinst
  rw [hcode, hb.indexed.index i inst' hinst]
  exact ⟨hsym, hi⟩

lemma Described.qtyPrecision (h : Described config md) (hb : WellBuilt md)
    (hinst : md.resolveInstrument code = some inst) (hr : config.refdata.lookup code = some r) :
    inst.qtyPrecision = r.qtyPrecision := by
  obtain ⟨hsym, -⟩ := resolveInstrument_eq_some hb hinst
  have hmem : inst ∈ md.instruments := by
    simp only [resolveInstrument, bind_eq_some] at hinst
    obtain ⟨-, -, i, -, hi⟩ := hinst
    exact mem_of_getElem? hi
  obtain ⟨r', hr', hcode, hqty⟩ := h inst hmem
  -- both codes are the string of one symbol
  have hname : r'.instrumentId = code :=
    mem_unique hcode (lookup_eq_some.mp hsym)
  rw [hname, hr, some.injEq] at hr'
  rw [hqty, hr']

/-! ## Trading configs -/

/-- Every trading entry in the tables is that of a config for the same instrument. -/
def Traded (config : ConfdataManager) (md : MetadataTables) : Prop :=
  ∀ i tm, md.trading i = some tm → ∃ code tc sym,
    config.tradingConfigs.lookup code = some tc ∧ md.strings.lookup code = some sym ∧
    md.instrumentByCode.lookup sym = some i ∧ tm.bookkeepingBalance = tc.bookkeepingBalance ∧
    tm.maxOrderSize = tc.maxOrderSize

lemma Traded.interned (h : Traded config md) (hmd : Interned md md') : Traded config md' := by
  obtain ⟨t, rfl, ht⟩ := hmd
  intro i tm htm
  obtain ⟨code, tc, sym, htc, hsym, hrest⟩ := h i tm htm
  exact ⟨code, tc, sym, htc, ht.lookup hsym, hrest⟩

lemma Traded.addTrading (h : Traded config md) {tc : InstrumentTradingConfig}
    (htc : config.tradingConfigs.lookup code = some tc) :
    Traded config (md.addTrading code tc) := by
  have hmid := h.interned (.intern md code)
  simp only [MetadataTables.addTrading]
  split
  · exact hmid
  · rename_i j hj
    intro i tm htm
    rw [trading, Dict.lookup_insert_if] at htm
    split_ifs at htm with hij
    · cases htm
      subst hij
      exact ⟨code, tc, _, htc, lookup_intern_self _ _, hj, rfl, rfl⟩
    · exact hmid i tm htm

/-- The trading loop is the last one, and it starts from no entries. -/
lemma traded_fromConfdata (config : Confdata) :
    Traded config.toConfdataManager (fromConfdata config.toConfdataManager) := by
  have hbuilt := rebuildFromConfig_empty config
  simp only [rebuildFromConfig, bind_eq_some] at hbuilt
  obtain ⟨_, _, _, _, _, _, hbuilt⟩ := hbuilt
  rw [some.injEq] at hbuilt
  rw [← hbuilt]
  refine foldlRecOn _ _ ?_ ?_
  · intro i tm htm
    cases htm
  · intro md hmd e he
    exact hmd.addTrading (mem_entries_iff.mp he)

lemma Traded.default (h : Traded config md) (hb : WellBuilt md)
    (hinst : md.resolveInstrument code = some inst)
    (hdefault : ∀ tc, config.tradingConfigs.lookup code = some tc → tc = .defaultFor code) :
    ((md.trading inst.instrumentId).getD defaultTradingMeta).bookkeepingBalance = false ∧
      ((md.trading inst.instrumentId).getD defaultTradingMeta).maxOrderSize = none := by
  cases htm : md.trading inst.instrumentId with
  | none => exact ⟨rfl, rfl⟩
  | some tm =>
    obtain ⟨code', tc, sym, htc, hsym, hi, hbook, hmax⟩ := h _ tm htm
    obtain ⟨hcode, hid⟩ := resolveInstrument_eq_some hb hinst
    -- one instrument has one code
    obtain ⟨inst₁, hinst₁, hsym₁⟩ := hb.coded sym _ hi
    obtain ⟨inst₂, hinst₂, hsym₂⟩ := hb.coded _ _ hid
    obtain rfl : inst₁ = inst₂ := mem_unique hinst₁ hinst₂
    obtain rfl : code' = code := lookup_inj (hsym₁ ▸ hsym) (hsym₂ ▸ hcode)
    rw [getD_some, hbook, hmax, hdefault tc htc]
    exact ⟨rfl, rfl⟩

/-! ## Routes -/

lemma isSome_addRoute (h : (md.route a).isSome = true) (b : Int) (r : OmsRouteEntry) :
    ((md.addRoute b r).route a).isSome = true := by
  simp only [addRoute]
  split
  · exact h
  · rw [route, Dict.lookup_insert_if]
    split_ifs
    · rfl
    · exact h

lemma isSome_addRoute_self {r : OmsRouteEntry} (hgw : md'.gwByKey = md.gwByKey)
    (hstr : (md.intern r.gwKey).1.strings.Extends md'.strings)
    (h : (md'.gwIdOfKey r.gwKey).isSome = true) : ((md.addRoute a r).route a).isSome = true := by
  have hsym : md'.strings.lookup r.gwKey = some (md.intern r.gwKey).2 :=
    hstr.lookup (lookup_intern_self md.strings r.gwKey)
  have hkey : (md.gwByKey.lookup (md.intern r.gwKey).2).isSome = true := by
    rw [← hgw]
    simpa only [gwIdOfKey, hsym, some_bind] using h
  obtain ⟨g, hg⟩ := isSome_iff_exists.mp hkey
  have hg' : (md.intern r.gwKey).1.gwByKey.lookup (md.intern r.gwKey).2 = some g := hg
  simp only [addRoute, hg']
  rw [route, lookup_insert]
  rfl

lemma addRoute_keeps (md : MetadataTables) (a : Int) (r : OmsRouteEntry) :
    (md.addRoute a r).gwByKey = md.gwByKey ∧
      (md.intern r.gwKey).1.strings.Extends (md.addRoute a r).strings := by
  simp only [addRoute]
  split
  · exact ⟨rfl, fun _ _ h => h⟩
  · exact ⟨rfl, extends_intern _ _⟩

lemma isSome_addRoutes {es : List (Sigma fun _ : Int => OmsRouteEntry)}
    (hgw : md'.gwByKey = md.gwByKey)
    (hstr : (es.foldl (fun md e => md.addRoute e.1 e.2) md).strings.Extends md'.strings)
    {e : Sigma fun _ : Int => OmsRouteEntry} (he : e ∈ es)
    (h : (md'.gwIdOfKey e.2.gwKey).isSome = true) :
    ((es.foldl (fun md e => md.addRoute e.1 e.2) md).route e.1).isSome = true := by
  induction es generalizing md with
  | nil => cases he
  | cons e' es ih =>
    obtain ⟨hkeep, hext⟩ := addRoute_keeps md e'.1 e'.2
    rcases mem_cons.mp he with rfl | he
    · have hgrows := Grows.foldl (fun md (e : Sigma fun _ : Int => OmsRouteEntry) =>
        grows_addRoute md e.1 e.2) (md.addRoute e.1 e.2) es
      refine foldlRecOn
        (motive := fun md : MetadataTables => (md.route e.1).isSome = true) es _ ?_
        fun md hmd e' _ => isSome_addRoute hmd e'.1 e'.2
      exact isSome_addRoute_self hgw ((hext.trans hgrows.strings).trans hstr) h
    · exact ih (hgw.trans hkeep.symm) hstr he

/-- **No route to a gateway of the config is lost.** -/
theorem route_fromConfdata (config : Confdata) {r : OmsRouteEntry}
    (hr : config.accountRoutes.lookup a = some r) (hgw : r.gwKey ∈ config.gwConfigs) :
    ((fromConfdata config.toConfdataManager).route a).isSome = true := by
  have hkey : ((fromConfdata config.toConfdataManager).gwIdOfKey r.gwKey).isSome = true :=
    ((current_fromConfdata config).names .gateway r.gwKey).mpr (mem_keys.mp hgw)
  -- the loops after the routes leave them, and the gateways, alone
  have hrest := ((KeepsRouting.foldl (fun md e => .addAssets md e.2)
    (config.accountRoutes.entries.foldl (fun (md : MetadataTables) e => md.addRoute e.1 e.2)
      (config.gwConfigs.entries.foldl (fun (md : MetadataTables) e => md.addGw e.2) {}))
    config.refdata.entries).trans
    (KeepsRouting.foldl (fun md e => .addInstrument config.toConfdataManager md e.2) _
      config.refdata.entries)).trans
    (KeepsRouting.foldl (fun md (e : Sigma fun _ : String => InstrumentTradingConfig) =>
      .addTrading md e.1 e.2) _ config.tradingConfigs.entries)
  have hone : ∀ (md : MetadataTables) (e : Sigma fun _ : Int => OmsRouteEntry),
      (md.addRoute e.1 e.2).gwByKey = md.gwByKey := fun md e => (addRoute_keeps md e.1 e.2).1
  rw [route, fromConfdata, hrest.routeByAccount]
  exact isSome_addRoutes (hrest.gwByKey.trans (foldl_preserves hone _ _)) hrest.strings
    (mem_entries_iff.mpr hr : (⟨a, r⟩ : Sigma fun _ : Int => OmsRouteEntry) ∈ _) hkey

end MetadataTables

/-! ## Requests -/

/-- **What a request on a known instrument and a routed account is resolved to**, if the instrument
has the default trading config: no bookkeeping, no size limit, and the config's precision. -/
theorem OmsCoreV2.resolveOrderMeta_known {config : Confdata} {s : OmsCoreV2}
    (hs : MetadataTables.Interned (MetadataTables.fromConfdata config.toConfdataManager) s.metadata)
    {req : OrderRequest} {rd : InstrumentRefData} {r : OmsRouteEntry}
    (hrd : config.refdata.lookup req.instrumentCode = some rd)
    (hr : config.accountRoutes.lookup req.accountId = some r) (hgw : r.gwKey ∈ config.gwConfigs)
    (hdefault : ∀ tc, config.tradingConfigs.lookup req.instrumentCode = some tc →
      tc = .defaultFor req.instrumentCode) :
    ∃ om, s.resolveOrderMeta req = .ok om ∧ om.bookkeepingBalance = false ∧
      om.maxOrderSize = none ∧ om.qtyPrecision = rd.qtyPrecision ∧
      s.metadata.gwIdOfKey r.gwKey = some om.gwId := by
  have hbuilt := (wellBuilt_fromConfdata config.toConfdataManager).grows hs.grows
  have hcurrent := (current_fromConfdata config).interned hs
  -- the account has its route, and the code its instrument
  obtain ⟨rt, hrt⟩ := isSome_iff_exists.mp (route_fromConfdata config hr hgw)
  have hrt' : s.metadata.route req.accountId = some rt := by
    rw [route, (MetadataTables.KeepsRouting.of_interned hs).routeByAccount]
    exact hrt
  have hid : (s.metadata.idOf .instrument req.instrumentCode).isSome = true :=
    (hcurrent.names .instrument req.instrumentCode).mpr (mem_keys.mp (mem_of_lookup hrd))
  rw [← hcurrent.kept.resolveInstrument, isSome_map] at hid
  obtain ⟨inst, hinst⟩ := isSome_iff_exists.mp hid
  obtain ⟨hbook, hmax⟩ :=
    ((traded_fromConfdata config).interned hs).default hbuilt hinst hdefault
  have hqty := ((described_fromConfdata config).grows hs.grows).qtyPrecision hbuilt
    hinst hrd
  obtain ⟨r', hr', hkey⟩ := ((reflects_fromConfdata
    config.toConfdataManager).interned hs).routed req.accountId rt hrt'
  obtain rfl : r' = r := mem_unique hr' hr
  simp only [resolveOrderMeta, hrt', hinst, Except.ok.injEq, exists_eq_left']
  exact ⟨hbook, hmax, hqty, hkey⟩

end Zkbot
