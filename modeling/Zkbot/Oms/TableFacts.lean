import Zkbot.Core.Run
import Zkbot.Oms.Metadata

/-!
# What the metadata tables satisfy

However the tables were built, an instrument is stored at its own index, the code map leads to the
instrument with that code, and the symbols of an instrument stand for strings (`WellBuilt`).

Most building steps only intern strings and fill other maps (`Grows`); the two that write the
instrument table are `addInstrument` and `rebuildInstrument`.  A rebuild reads the old code map
while it writes a new one, so its invariant speaks about both.
-/

namespace Zkbot

open List Option

namespace InternTable

/-- Every id of `t` stands for the same string in `t'`. -/
def Extends (t t' : InternTable) : Prop := ∀ i s, t.resolve i = some s → t'.resolve i = some s

variable (t : InternTable) (s : String)

lemma extends_intern : t.Extends (t.intern s).1 := by
  intro i s' h
  rw [← lookup_eq_some] at h ⊢
  exact lookup_intern_of_lookup h s

lemma resolve_intern_self : (t.intern s).1.resolve (t.intern s).2 = some s :=
  lookup_eq_some.mp (lookup_intern_self t s)

lemma resolve_zero_intern : (t.intern s).1.resolve 0 = (t.resolve 0).or (some s) := by
  cases h0 : t.resolve 0 with
  | some first => exact t.extends_intern s 0 first h0
  | none =>
    have hnil : t.strsById = [] := by simpa [resolve] using h0
    have hnew : (t.intern s).2 = 0 := by
      simp only [intern]
      split
      · rename_i i hi
        rw [lookup_eq_some, resolve, hnil] at hi
        cases hi
      · show t.strsById.length = 0
        rw [hnil, length_nil]
    rw [← hnew]
    exact resolve_intern_self t s

end InternTable

namespace MetadataTables

variable {md md' : MetadataTables} {old : Dict ℕ ℕ} {config : ConfdataManager}
  {acc acc' : MetadataTables × Dict ℕ ℕ} {r : InstrumentRefData} {new : Dict ℕ ℕ}

/-! ## Steps that leave the instruments alone -/

/-- Strings were interned, and perhaps other maps written, but not the instrument table. -/
structure Grows (md md' : MetadataTables) : Prop where
  instruments : md'.instruments = md.instruments
  instrumentByCode : md'.instrumentByCode = md.instrumentByCode
  strings : md.strings.Extends md'.strings

namespace Grows

lemma refl (md : MetadataTables) : Grows md md := ⟨rfl, rfl, fun _ _ h => h⟩

lemma trans {md'' : MetadataTables} (h : Grows md md') (h' : Grows md' md'') : Grows md md'' where
  instruments := h'.instruments.trans h.instruments
  instrumentByCode := h'.instrumentByCode.trans h.instrumentByCode
  strings i s hs := h'.strings i s (h.strings i s hs)

lemma intern (md : MetadataTables) (s : String) : Grows md (md.intern s).1 :=
  ⟨rfl, rfl, md.strings.extends_intern s⟩

lemma of_eq (h : md'.instruments = md.instruments) (h' : md'.instrumentByCode = md.instrumentByCode)
    (hs : md'.strings = md.strings) : Grows md md' := ⟨h, h', fun i s hi => by rw [hs]; exact hi⟩

lemma foldl {α : Type} {f : MetadataTables → α → MetadataTables}
    (h : ∀ md a, Grows md (f md a)) (md : MetadataTables) (as : List α) :
    Grows md (as.foldl f md) := by
  induction as generalizing md with
  | nil => exact .refl md
  | cons a as ih => exact (h md a).trans (ih (f md a))

end Grows

section

variable (md)

variable (name : String)

lemma grows_addGw (gwCfg : GwConfigEntry) : Grows md (md.addGw gwCfg) := by
  refine (Grows.intern md gwCfg.gwKey).trans ?_
  refine (Grows.intern _ gwCfg.exchName).trans ?_
  exact .of_eq rfl rfl rfl

lemma grows_addRoute (accountId : Int) (route : OmsRouteEntry) :
    Grows md (md.addRoute accountId route) := by
  refine (Grows.intern md route.gwKey).trans ?_
  simp only [addRoute]
  split
  · exact .refl _
  · refine (Grows.intern _ route.exchAccountId).trans ?_
    exact .of_eq rfl rfl rfl

lemma grows_ensureAsset : Grows md (md.ensureAsset name) := by
  simp only [ensureAsset]
  split_ifs
  · exact .refl md
  · refine (Grows.intern md name).trans ?_
    split
    · exact .refl _
    · exact .of_eq rfl rfl rfl

lemma grows_addAssets (r : InstrumentRefData) : Grows md (md.addAssets r) :=
  ((grows_ensureAsset md _).trans (grows_ensureAsset _ _)).trans (grows_ensureAsset _ _)

lemma grows_assetRef : Grows md (md.assetRef name).1 := by
  simp only [assetRef]
  split_ifs
  · exact .refl md
  · exact .intern md name

lemma assetRef_symbol :
    ∀ b ∈ (md.assetRef name).2.2, (md.assetRef name).1.strResolve b = some name := by
  intro b hb
  simp only [assetRef] at hb ⊢
  split_ifs at hb ⊢
  · cases hb
  · cases hb
    exact md.strings.resolve_intern_self name

end

lemma grows_indexGwSymbols (config : ConfdataManager) (exchangeName : String) (exchSym instId : ℕ)
    (md : MetadataTables) : Grows md (indexGwSymbols config exchangeName exchSym instId md) := by
  refine Grows.foldl (fun md gwKey => ?_) md _
  refine (Grows.intern md gwKey).trans ?_
  simp only
  split
  · exact .of_eq rfl rfl rfl
  · exact .refl _

lemma grows_addTrading (md : MetadataTables) (code : String) (tc : InstrumentTradingConfig) :
    Grows md (md.addTrading code tc) := by
  refine (Grows.intern md code).trans ?_
  simp only [addTrading]
  split
  · exact .refl _
  · exact .of_eq rfl rfl rfl

/-! ## Well-built tables -/

/-- An instrument is stored at its own index, and its symbols stand for strings. -/
structure Indexed (md : MetadataTables) : Prop where
  index : ∀ i (inst : InstrumentMeta), md.instruments[i]? = some inst → inst.instrumentId = i
  code : ∀ inst ∈ md.instruments, (md.strResolve inst.instrumentCodeSym).isSome = true
  base : ∀ inst ∈ md.instruments, ∀ b ∈ inst.baseAssetSym, (md.strResolve b).isSome = true

/-- A code map leads to the instrument with that code. -/
def Coded (instruments : List InstrumentMeta) (byCode : Dict ℕ ℕ) : Prop :=
  ∀ sym i, byCode.lookup sym = some i →
    ∃ inst, instruments[i]? = some inst ∧ inst.instrumentCodeSym = sym

structure WellBuilt (md : MetadataTables) : Prop where
  indexed : Indexed md
  coded : Coded md.instruments md.instrumentByCode

lemma isSome_of_extends {t t' : InternTable} (h : t.Extends t') {i : ℕ}
    (hi : (t.resolve i).isSome = true) : (t'.resolve i).isSome = true := by
  obtain ⟨s, hs⟩ := isSome_iff_exists.mp hi
  rw [h i s hs]
  rfl

lemma Indexed.grows (h : Indexed md) (hg : Grows md md') : Indexed md' where
  index i inst hi := h.index i inst (hg.instruments ▸ hi)
  code inst hi := isSome_of_extends hg.strings (h.code inst (hg.instruments ▸ hi))
  base inst hi b hb := isSome_of_extends hg.strings (h.base inst (hg.instruments ▸ hi) b hb)

lemma WellBuilt.grows (h : WellBuilt md) (hg : Grows md md') : WellBuilt md' where
  indexed := h.indexed.grows hg
  coded := by
    rw [hg.instruments, hg.instrumentByCode]
    exact h.coded

lemma getElem?_append_one {α : Type} {as : List α} {a b : α} {i : ℕ}
    (h : (as ++ [a])[i]? = some b) : as[i]? = some b ∨ i = as.length ∧ b = a := by
  rcases lt_trichotomy i as.length with hlt | heq | hgt
  · left
    rw [← h, List.getElem?_append_left hlt]
  · right
    subst heq
    rw [getElem?_concat_length, some.injEq] at h
    exact ⟨rfl, h.symm⟩
  · rw [getElem?_eq_none] at h
    · cases h
    · simp only [length_append, length_singleton]
      omega

lemma Indexed.append (h : Indexed md) (inst : InstrumentMeta)
    (hid : inst.instrumentId = md.instruments.length)
    (hcode : (md.strResolve inst.instrumentCodeSym).isSome = true)
    (hbase : ∀ b ∈ inst.baseAssetSym, (md.strResolve b).isSome = true) :
    Indexed { md with instruments := md.instruments ++ [inst] } where
  index i inst' hi := by
    rcases getElem?_append_one hi with hi | ⟨rfl, rfl⟩
    · exact h.index i inst' hi
    · exact hid
  code inst' hi := by
    rcases mem_append.mp hi with hi | hi
    · exact h.code inst' hi
    · rw [mem_singleton] at hi
      exact hi ▸ hcode
  base inst' hi := by
    rcases mem_append.mp hi with hi | hi
    · exact h.base inst' hi
    · rw [mem_singleton] at hi
      exact hi ▸ hbase

lemma Indexed.set (h : Indexed md) (inst : InstrumentMeta) {e : ℕ} (hid : inst.instrumentId = e)
    (hcode : (md.strResolve inst.instrumentCodeSym).isSome = true)
    (hbase : ∀ b ∈ inst.baseAssetSym, (md.strResolve b).isSome = true) :
    Indexed { md with instruments := md.instruments.set e inst } where
  index i inst' hi := by
    simp only [getElem?_set] at hi
    split_ifs at hi with he hlt
    · cases hi
      exact hid.trans he
    · exact h.index i inst' hi
  code inst' hi := by
    rcases mem_or_eq_of_mem_set hi with hi | rfl
    · exact h.code inst' hi
    · exact hcode
  base inst' hi := by
    rcases mem_or_eq_of_mem_set hi with hi | rfl
    · exact h.base inst' hi
    · exact hbase

namespace Coded

variable {as : List InstrumentMeta} {byCode : Dict ℕ ℕ}

lemma append (h : Coded as byCode) (inst : InstrumentMeta) : Coded (as ++ [inst]) byCode := by
  intro sym i hi
  obtain ⟨inst', hinst', hcode⟩ := h sym i hi
  refine ⟨inst', ?_, hcode⟩
  have hlt : i < as.length := (List.getElem?_eq_some_iff.mp hinst').1
  exact (List.getElem?_append_left hlt).trans hinst'

lemma set (h : Coded as byCode) {e : ℕ} {old inst : InstrumentMeta} (hold : as[e]? = some old)
    (hcode : inst.instrumentCodeSym = old.instrumentCodeSym) : Coded (as.set e inst) byCode := by
  intro sym i hi
  obtain ⟨inst', hinst', hsym⟩ := h sym i hi
  by_cases he : e = i
  · subst he
    have hlt : e < as.length := (List.getElem?_eq_some_iff.mp hold).1
    obtain rfl := Option.mem_unique hold hinst'
    refine ⟨inst, ?_, hcode.trans hsym⟩
    rw [getElem?_set, if_pos rfl, if_pos hlt]
  · refine ⟨inst', ?_, hsym⟩
    rw [getElem?_set, if_neg he]
    exact hinst'

lemma insert (h : Coded as byCode) {i : ℕ} (inst : InstrumentMeta) (hi : as[i]? = some inst) :
    Coded as (byCode.insert inst.instrumentCodeSym i) := by
  intro sym j hj
  rw [Dict.lookup_insert_if] at hj
  split_ifs at hj with hsym
  · cases hj
    exact ⟨inst, hi, hsym.symm⟩
  · exact h sym j hj

end Coded

/-! ## Writing one instrument -/

/-- The tables after the strings of an instrument are interned, before it is written. -/
def internRefData (md : MetadataTables) (r : InstrumentRefData) : MetadataTables :=
  ((((md.intern r.instrumentId).1.intern r.instrumentIdExchange).1.assetRef r.baseAsset).1.assetRef
    r.quoteAsset).1.assetRef r.settlementAsset |>.1

section

variable (md) (r)

lemma grows_internRefData : Grows md (md.internRefData r) :=
  ((((Grows.intern md _).trans (.intern _ _)).trans (grows_assetRef _ _)).trans
    (grows_assetRef _ _)).trans (grows_assetRef _ _)

lemma resolve_codeSym :
    (md.internRefData r).strResolve (md.intern r.instrumentId).2 = some r.instrumentId := by
  have hrest : Grows (md.intern r.instrumentId).1 (md.internRefData r) :=
    (((Grows.intern _ _).trans (grows_assetRef _ _)).trans (grows_assetRef _ _)).trans
      (grows_assetRef _ _)
  exact hrest.strings _ _ (md.strings.resolve_intern_self r.instrumentId)

lemma resolve_baseSym :
    ∀ b ∈ (((md.intern r.instrumentId).1.intern r.instrumentIdExchange).1.assetRef
      r.baseAsset).2.2, (md.internRefData r).strResolve b = some r.baseAsset := by
  intro b hb
  have hrest : Grows (((md.intern r.instrumentId).1.intern r.instrumentIdExchange).1.assetRef
      r.baseAsset).1 (md.internRefData r) := (grows_assetRef _ _).trans (grows_assetRef _ _)
  exact hrest.strings _ _ (assetRef_symbol _ _ b hb)

end

/-- The instrument that is written, at index `id`. -/
def instrumentEntry (md : MetadataTables) (r : InstrumentRefData) (id : ℕ) : InstrumentMeta :=
  let (md, codeSym) := md.intern r.instrumentId
  let (md, exchSym) := md.intern r.instrumentIdExchange
  let (md, baseAssetId, baseAssetSym) := md.assetRef r.baseAsset
  let (md, quoteAssetId, _) := md.assetRef r.quoteAsset
  let (_, settlementAssetId, _) := md.assetRef r.settlementAsset
  { instrumentId := id, instrumentCodeSym := codeSym, instrumentExchSym := exchSym,
    instrumentType := r.instrumentType, baseAssetId, baseAssetSym, quoteAssetId,
    settlementAssetId, qtyPrecision := r.qtyPrecision, pricePrecision := r.pricePrecision }

lemma addInstrument_eq (config : ConfdataManager) (md : MetadataTables) (r : InstrumentRefData) :
    md.addInstrument config r =
      indexGwSymbols config r.exchangeName (md.instrumentEntry r 0).instrumentExchSym
        md.instruments.length { md.internRefData r with
          instrumentByCode := (md.internRefData r).instrumentByCode.insert
            (md.intern r.instrumentId).2 md.instruments.length
          instruments := (md.internRefData r).instruments ++
            [md.instrumentEntry r md.instruments.length] } := rfl

lemma isSome_of_eq_some {α : Type} {o : Option α} {a : α} (h : o = some a) : o.isSome = true := by
  rw [h]
  rfl

lemma wellBuilt_addInstrument (config : ConfdataManager) (h : WellBuilt md)
    (r : InstrumentRefData) : WellBuilt (md.addInstrument config r) := by
  have hg := grows_internRefData md r
  have hlen : (md.internRefData r).instruments.length = md.instruments.length := by
    rw [hg.instruments]
  have hmid : WellBuilt (md.internRefData r) := h.grows hg
  refine WellBuilt.grows ?_ (grows_indexGwSymbols config _ _ _ _)
  refine ⟨?_, ?_⟩
  · have happ := hmid.indexed.append (md.instrumentEntry r md.instruments.length) hlen.symm
      (isSome_of_eq_some (resolve_codeSym md r))
      (fun b hb => isSome_of_eq_some (resolve_baseSym md r b hb))
    exact { happ with }
  · have hlast : ((md.internRefData r).instruments ++
        [md.instrumentEntry r md.instruments.length])[md.instruments.length]? =
          some (md.instrumentEntry r md.instruments.length) := by
      rw [← hlen]
      exact getElem?_concat_length
    exact (hmid.coded.append _).insert _ hlast

/-- The invariant of a rebuild: the instruments agree with the map that is read and with the map
that is written. -/
structure Rebuilding (old : Dict ℕ ℕ) (acc : MetadataTables × Dict ℕ ℕ) : Prop where
  indexed : Indexed acc.1
  before : Coded acc.1.instruments old
  after : Coded acc.1.instruments acc.2

lemma Rebuilding.grows (h : Rebuilding old (md, new)) (hg : Grows md md') :
    Rebuilding old (md', new) where
  indexed := h.indexed.grows hg
  before := by
    show Coded md'.instruments old
    rw [hg.instruments]
    exact h.before
  after := by
    show Coded md'.instruments new
    rw [hg.instruments]
    exact h.after

lemma rebuildInstrument_eq (config : ConfdataManager) (old new : Dict ℕ ℕ) (md : MetadataTables)
    (r : InstrumentRefData) :
    rebuildInstrument config old (md, new) r =
      match old.lookup (md.intern r.instrumentId).2 with
      | some id => (setIndex (md.internRefData r).instruments id (md.instrumentEntry r id)).bind
          fun instruments => some (indexGwSymbols config r.exchangeName
              (md.instrumentEntry r 0).instrumentExchSym id
              { md.internRefData r with instruments },
            new.insert (md.intern r.instrumentId).2 id)
      | none => some (indexGwSymbols config r.exchangeName
            (md.instrumentEntry r 0).instrumentExchSym (md.internRefData r).instruments.length
            { md.internRefData r with instruments := (md.internRefData r).instruments ++
                [md.instrumentEntry r (md.internRefData r).instruments.length] },
          new.insert (md.intern r.instrumentId).2 (md.internRefData r).instruments.length) := rfl

lemma rebuilding_rebuildInstrument (h : Rebuilding old acc)
    (hr : rebuildInstrument config old acc r = some acc') : Rebuilding old acc' := by
  obtain ⟨md, new⟩ := acc
  have hmid : Rebuilding old (md.internRefData r, new) := h.grows (grows_internRefData md r)
  have hcode := isSome_of_eq_some (resolve_codeSym md r)
  have hbase := fun b hb => isSome_of_eq_some (resolve_baseSym md r b hb)
  rw [rebuildInstrument_eq] at hr
  cases hold : old.lookup (md.intern r.instrumentId).2 with
  | none =>
    rw [hold] at hr
    cases hr
    refine Rebuilding.grows ?_ (grows_indexGwSymbols config _ _ _ _)
    have happ := hmid.indexed.append
      (md.instrumentEntry r (md.internRefData r).instruments.length)
      rfl hcode hbase
    refine ⟨{ happ with }, hmid.before.append _, ?_⟩
    exact (hmid.after.append _).insert (md.instrumentEntry r _) getElem?_concat_length
  | some e =>
    rw [hold] at hr
    obtain ⟨instruments, hset, hr⟩ := bind_eq_some_iff.mp hr
    cases hr
    simp only [setIndex] at hset
    split_ifs at hset with hlt
    cases hset
    refine Rebuilding.grows ?_ (grows_indexGwSymbols config _ _ _ _)
    obtain ⟨inst, hinst, hsym⟩ := hmid.before _ e hold
    have hset := hmid.indexed.set (md.instrumentEntry r e) rfl hcode hbase
    refine ⟨{ hset with }, hmid.before.set hinst hsym.symm, ?_⟩
    refine (hmid.after.set hinst hsym.symm).insert (md.instrumentEntry r e) ?_
    rw [getElem?_set, if_pos rfl, if_pos hlt]

/-! ## Building and rebuilding -/

lemma grows_addTradings (md : MetadataTables)
    (es : List (Sigma fun _ : String => InstrumentTradingConfig)) :
    Grows md (es.foldl (fun md e => md.addTrading e.1 e.2) md) :=
  Grows.foldl (fun md e => grows_addTrading md e.1 e.2) md es

/-- Only entering an instrument does more to the tables than to let them grow. -/
lemma fromConfdata_induct (config : ConfdataManager) {P : MetadataTables → Prop} (hempty : P {})
    (hgrows : ∀ {md md' : MetadataTables}, P md → Grows md md' → P md')
    (hinst : ∀ md, ∀ e ∈ config.refdata.entries, P md → P (md.addInstrument config e.2)) :
    P (fromConfdata config) := by
  refine hgrows ?_ (grows_addTradings _ _)
  refine List.foldlRecOn _ _ ?_ fun md hmd e he => hinst md e he hmd
  exact hgrows (hgrows (hgrows hempty
    (Grows.foldl (fun md e => grows_addGw md e.2) _ config.gwConfigs.entries))
    (Grows.foldl (fun md e => grows_addRoute md e.1 e.2) _ config.accountRoutes.entries))
    (Grows.foldl (fun md e => grows_addAssets md e.2) _ config.refdata.entries)

/-- **The tables of every config are well built.** -/
theorem wellBuilt_fromConfdata (config : ConfdataManager) : WellBuilt (fromConfdata config) := by
  refine fromConfdata_induct config ⟨⟨?_, ?_, ?_⟩, ?_⟩ WellBuilt.grows
    fun md e _ hmd => wellBuilt_addInstrument config hmd e.2
  · intro i inst hi
    cases hi
  · intro inst hi
    cases hi
  · intro inst hi
    cases hi
  · intro sym i hi
    cases hi

lemma grows_rebuildGw {new' : Dict ℕ ℕ} {g : GwConfigEntry}
    (h : rebuildGw old (md, new) g = some (md', new')) : Grows md md' := by
  refine ((Grows.intern md g.gwKey).trans (.intern _ g.exchName)).trans ?_
  simp only [rebuildGw] at h
  split at h
  · obtain ⟨gws, -, h⟩ := bind_eq_some.mp h
    cases h
    exact .of_eq rfl rfl rfl
  · cases h
    exact .of_eq rfl rfl rfl

lemma grows_ensureAssetStable {name : String} (h : ensureAssetStable old name acc = some acc') :
    Grows acc.1 acc'.1 := by
  obtain ⟨md, new⟩ := acc
  simp only [ensureAssetStable] at h
  split_ifs at h
  · cases h
    exact .refl md
  · refine (Grows.intern md name).trans ?_
    split at h
    · cases h
      exact .refl _
    · obtain ⟨assets, -, h⟩ := bind_eq_some.mp h
      cases h
      exact .of_eq rfl rfl rfl
    · cases h
      exact .of_eq rfl rfl rfl

lemma grows_rebuildAssets (h : rebuildAssets old acc r = some acc') : Grows acc.1 acc'.1 := by
  simp only [rebuildAssets, bind_eq_some] at h
  obtain ⟨acc₁, h₁, acc₂, h₂, h₃⟩ := h
  exact ((grows_ensureAssetStable h₁).trans (grows_ensureAssetStable h₂)).trans
    (grows_ensureAssetStable h₃)

/-- A reload only adds to the tables until it comes to the instruments, which it indexes anew. -/
lemma grows_of_rebuildFromConfig (h : md.rebuildFromConfig config = some md') :
    ∃ md₂ assetBySymbol md₃ byCode, Grows md md₂ ∧
      config.refdata.entries.foldlM
        (fun acc e => rebuildInstrument config md₂.instrumentByCode acc e.2)
        ({ md₂ with assetBySymbol, instrumentByGwSymbol := ∅ }, ∅) = some (md₃, byCode) ∧
      md' = config.tradingConfigs.entries.foldl (fun md e => md.addTrading e.1 e.2)
        { md₃ with instrumentByCode := byCode, tradingByInstrument := ∅ } := by
  simp only [rebuildFromConfig, bind_eq_some] at h
  obtain ⟨⟨md₁, gwByKey⟩, hgw, ⟨md₂, assetBySymbol⟩, has, ⟨md₃, byCode⟩, hinst, h⟩ := h
  cases h
  have hg₁ : Grows md md₁ :=
    foldlM_invariant (I := fun acc => Grows md acc.1)
      (fun acc e acc' hacc hstep => hacc.trans (grows_rebuildGw hstep)) (.refl md) hgw
  have hmaps : Grows md { md₁ with gwByKey, routeByAccount := ∅ } :=
    hg₁.trans (.of_eq rfl rfl rfl)
  have hroutes := hmaps.trans (Grows.foldl
    (fun md (e : Sigma fun _ : Int => OmsRouteEntry) => grows_addRoute md e.1 e.2) _
    config.accountRoutes.entries)
  have hg₂ : Grows md md₂ :=
    foldlM_invariant (I := fun acc => Grows md acc.1)
      (fun acc e acc' hacc hstep => hacc.trans (grows_rebuildAssets hstep)) hroutes has
  exact ⟨md₂, assetBySymbol, md₃, byCode, hg₂, hinst, rfl⟩

/-- **Well-built tables stay so when the config is reloaded.** -/
theorem wellBuilt_rebuildFromConfig (hmd : WellBuilt md)
    (h : md.rebuildFromConfig config = some md') : WellBuilt md' := by
  obtain ⟨md₂, assetBySymbol, md₃, byCode, hg₂, hinst, rfl⟩ := grows_of_rebuildFromConfig h
  have hstart : WellBuilt { md₂ with assetBySymbol, instrumentByGwSymbol := ∅ } :=
    hmd.grows (hg₂.trans (.of_eq rfl rfl rfl))
  have hend : Rebuilding md₂.instrumentByCode (md₃, byCode) := by
    refine foldlM_invariant (fun acc e acc' hacc hstep =>
      rebuilding_rebuildInstrument hacc hstep) ⟨hstart.indexed, hstart.coded, ?_⟩ hinst
    intro sym i hi
    cases hi
  have hcoded : WellBuilt { md₃ with instrumentByCode := byCode, tradingByInstrument := ∅ } :=
    ⟨⟨hend.indexed.index, hend.indexed.code, hend.indexed.base⟩, hend.after⟩
  exact hcoded.grows (grows_addTradings _ _)

lemma extends_rebuildInstrument (h : rebuildInstrument config old acc r = some acc') :
    acc.1.strings.Extends acc'.1.strings := by
  obtain ⟨md, new⟩ := acc
  have hmid := (grows_internRefData md r).strings
  rw [rebuildInstrument_eq] at h
  cases hold : old.lookup (md.intern r.instrumentId).2 with
  | none =>
    rw [hold] at h
    cases h
    exact fun i s hi => (grows_indexGwSymbols config _ _ _ _).strings i s (hmid i s hi)
  | some e =>
    rw [hold] at h
    obtain ⟨instruments, -, h⟩ := bind_eq_some_iff.mp h
    cases h
    exact fun i s hi => (grows_indexGwSymbols config _ _ _ _).strings i s (hmid i s hi)

/-- **A reload forgets no string.** -/
theorem extends_rebuildFromConfig (h : md.rebuildFromConfig config = some md') :
    md.strings.Extends md'.strings := by
  obtain ⟨md₂, assetBySymbol, md₃, byCode, hg₂, hinst, rfl⟩ := grows_of_rebuildFromConfig h
  have hg₃ : md.strings.Extends md₃.strings :=
    foldlM_invariant (I := fun acc => md.strings.Extends acc.1.strings)
      (fun acc e acc' hacc hstep i s hi => extends_rebuildInstrument hstep i s (hacc i s hi))
      hg₂.strings hinst
  have hend := (grows_addTradings { md₃ with
    instrumentByCode := byCode, tradingByInstrument := ∅ } config.tradingConfigs.entries).strings
  exact fun i s hi => hend i s (hg₃ i s hi)

end MetadataTables

end Zkbot
