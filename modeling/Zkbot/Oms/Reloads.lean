import Zkbot.Core.Directory
import Zkbot.Oms.TableFacts

/-!
# Reloading the configuration

The gateways, assets and instruments of the metadata tables are three directories of symbols
(`MetadataTables.directory`), and `rebuildFromConfig` reloads each of them to the names of the new
configuration.  Building the tables in the first place is reloading the empty ones
(`rebuildFromConfig_empty`), so that there is one operation to understand.

* `Progress` — how far the reload of one directory has come; `Phase` adds what is true of the
  entries of its vector.  The three loops of the source have the same shape, and `Phase.place` is
  the step of all of them.
* `Kept` — what every reload keeps: entries stand at their own index, reverse maps lead to an entry
  with that symbol, and every symbol stands for a string.
* `reload_spec` — a reload of kept tables succeeds, keeps them, and is a reload of each directory.
-/

namespace Zkbot

open List Option Dict Function InternTable MetadataTables

namespace InternTable

variable {t t' : InternTable} {names : List String} {s : String} {sym : ℕ}

/-- The symbol stands for a string. -/
def Resolves (t : InternTable) (sym : ℕ) : Prop := (t.resolve sym).isSome = true

lemma Resolves.mono (h : t.Resolves sym) (ht : t.Extends t') : t'.Resolves sym := by
  obtain ⟨s, hs⟩ := isSome_iff_exists.mp h
  exact isSome_iff_exists.mpr ⟨s, ht sym s hs⟩

lemma resolves_of_lookup (h : t.lookup s = some sym) : t.Resolves sym :=
  isSome_iff_exists.mpr ⟨s, lookup_eq_some.mp h⟩

lemma Extends.trans {t'' : InternTable} (h : t.Extends t') (h' : t'.Extends t'') : t.Extends t'' :=
  fun i s hi => h' i s (h i s hi)

lemma Extends.lookup (h : t.Extends t') (hs : t.lookup s = some sym) : t'.lookup s = some sym :=
  lookup_eq_some.mpr (h sym s (lookup_eq_some.mp hs))

def symbols (t : InternTable) (names : List String) : List ℕ := names.filterMap t.lookup

lemma mem_symbols : sym ∈ t.symbols names ↔ ∃ s ∈ names, t.lookup s = some sym :=
  mem_filterMap

lemma symbols_extends (h : t.Extends t') (hin : ∀ s ∈ names, (t.lookup s).isSome = true) :
    t'.symbols names = t.symbols names := by
  refine filterMap_congr ?_
  intro s hs
  obtain ⟨sym, hsym⟩ := isSome_iff_exists.mp (hin s hs)
  rw [hsym, h.lookup hsym]

lemma symbols_concat (h : t.lookup s = some sym) :
    t.symbols (names ++ [s]) = t.symbols names ++ [sym] := by
  simp [symbols, h]

end InternTable

/-! ## Reloading one directory -/

/-- How far the reload of a directory has come: `done` are the names entered so far, `syms` the
symbols of the vector and `new` the map under construction. -/
structure Progress (d : Directory ℕ) (done : List String) (t : InternTable) (syms : List ℕ)
    (new : Dict ℕ ℕ) : Prop where
  interned : ∀ s ∈ done, (t.lookup s).isSome = true
  reloads : d.Reloads (t.symbols done) ⟨syms, fun k => new.lookup k⟩

namespace Progress

variable {d : Directory ℕ} {done : List String} {t t' : InternTable} {syms : List ℕ}
  {new : Dict ℕ ℕ} {name : String} {sym i : ℕ}

lemma start (d : Directory ℕ) (t : InternTable) : Progress d [] t d.names ∅ where
  interned s hs := by cases hs
  reloads := Directory.Reloads.start d

variable (h : Progress d done t syms new)
include h

lemma mono (ht : t.Extends t') : Progress d done t' syms new where
  interned s hs := by
    obtain ⟨sym, hsym⟩ := isSome_iff_exists.mp (h.interned s hs)
    rw [ht.lookup hsym]
    rfl
  reloads := by
    rw [symbols_extends ht h.interned]
    exact h.reloads

section

variable (hs : t.lookup name = some sym)
include hs

lemma interned_concat : ∀ s ∈ done ++ [name], (t.lookup s).isSome = true := by
  intro s hmem
  rcases mem_append.mp hmem with hmem | hmem
  · exact h.interned s hmem
  · rw [mem_singleton.mp hmem, hs]
    rfl

lemma lookup_isSome : (new.lookup sym).isSome = true ↔ name ∈ done := by
  rw [h.reloads.current sym, mem_symbols]
  constructor
  · rintro ⟨s, hmem, hsym⟩
    rw [lookup_inj hs hsym]
    exact hmem
  · exact fun hmem => ⟨name, hmem, hs⟩

lemma again (hsome : (new.lookup sym).isSome = true) : Progress d (done ++ [name]) t syms new where
  interned := h.interned_concat hs
  reloads := by
    rw [symbols_concat hs]
    exact h.reloads.again ((h.reloads.current sym).mp hsome)

end

omit h in
lemma lookup_insert_eq : (fun k => (new.insert sym i).lookup k) =
    update (fun k => new.lookup k) sym (some i) := by
  funext k
  rw [lookup_insert_if, update_apply]

lemma known (hd : d.Sound) (hs : t.lookup name = some sym) (hi : d.ids sym = some i) :
    Progress d (done ++ [name]) t syms (new.insert sym i) where
  interned := h.interned_concat hs
  reloads := by
    rw [symbols_concat hs, lookup_insert_eq]
    exact h.reloads.known hd hi

lemma append (hs : t.lookup name = some sym) (hnew : new.lookup sym = none)
    (hi : d.ids sym = none) :
    Progress d (done ++ [name]) t (syms ++ [sym]) (new.insert sym syms.length) where
  interned := h.interned_concat hs
  reloads := by
    rw [symbols_concat hs, lookup_insert_eq]
    refine h.reloads.append ?_ hi
    rw [← h.reloads.current sym]
    simp [hnew]

lemma slot (hd : d.Sound) (hi : d.ids sym = some i) : syms[i]? = some sym := by
  obtain ⟨app, happ, -⟩ := h.reloads.appended
  have hold := hd sym i hi
  simp only at happ
  rw [happ, List.getElem?_append_left (List.getElem?_eq_some_iff.mp hold).1]
  exact hold

end Progress

/-- `P` holds of every entry of a vector, at its index. -/
def Each {α : Type} (P : ℕ → α → Prop) (as : List α) : Prop := ∀ i a, as[i]? = some a → P i a

/-- Write an entry where its name stands already, or at the end. -/
def placeEntry {α : Type} (old : Option ℕ) (as : List α) (e : ℕ → α) : Option (List α) :=
  match old with
  | some i => setIndex as i (e i)
  | none => some (as ++ [e as.length])

section Place

variable {α : Type} {P Q : ℕ → α → Prop} {as as' : List α} {e : ℕ → α} {old : Option ℕ}

lemma Each.imp (h : Each P as) (hPQ : ∀ i a, P i a → Q i a) : Each Q as :=
  fun i a hi => hPQ i a (h i a hi)

lemma getElem?_placeEntry (h : placeEntry old as e = some as') {i : ℕ} {a : α}
    (hi : as[i]? = some a) (hne : old ≠ some i) : as'[i]? = some a := by
  cases old with
  | none =>
    cases h
    rw [List.getElem?_append_left (List.getElem?_eq_some_iff.mp hi).1]
    exact hi
  | some j =>
    simp only [placeEntry, setIndex] at h
    split_ifs at h
    cases h
    rw [getElem?_set, if_neg (fun hji => hne (congrArg some hji))]
    exact hi

lemma getElem?_placeEntry_self (h : placeEntry old as e = some as') :
    as'[old.getD as.length]? = some (e (old.getD as.length)) := by
  cases old with
  | none =>
    cases h
    exact getElem?_concat_length
  | some j =>
    simp only [placeEntry, setIndex] at h
    split_ifs at h with hlt
    cases h
    simp [hlt]

lemma Each.place (h : Each P as) (he : ∀ i, P i (e i)) (hp : placeEntry old as e = some as') :
    Each P as' := by
  intro i a hi
  cases old with
  | none =>
    cases hp
    rcases getElem?_append_one hi with hi | ⟨rfl, rfl⟩
    · exact h i a hi
    · exact he _
  | some j =>
    simp only [placeEntry, setIndex] at hp
    split_ifs at hp
    cases hp
    rw [getElem?_set] at hi
    split_ifs at hi with hji
    · cases hi
      exact hji ▸ he j
    · exact h i a hi

end Place

/-- One loop of a reload, over a vector of entries whose symbols are `sym` and which are `good` as
long as their strings are interned. -/
structure Phase {α : Type} (sym : α → ℕ) (good : InternTable → ℕ → α → Prop) (d : Directory ℕ)
    (t₀ : InternTable) (done : List String) (t : InternTable) (as : List α) (new : Dict ℕ ℕ) :
    Prop where
  strings : t₀.Extends t
  each : Each (good t) as
  progress : Progress d done t (as.map sym) new

namespace Phase

variable {α : Type} {sym : α → ℕ} {good : InternTable → ℕ → α → Prop} {d : Directory ℕ}
  {t₀ t t' : InternTable} {done : List String} {as : List α} {new : Dict ℕ ℕ}
  (h : Phase sym good d t₀ done t as new) {name : String}

include h

lemma mono (ht : t.Extends t') (hmono : ∀ i a, good t i a → good t' i a) :
    Phase sym good d t₀ done t' as new where
  strings := h.strings.trans ht
  each := h.each.imp hmono
  progress := h.progress.mono ht

/-- One name that has not been entered: its entry is written, and the map leads there. -/
lemma place (hd : d.Sound) {y : ℕ} (hy : t.lookup name = some y) (hnew : new.lookup y = none)
    {e : ℕ → α} (hgood : ∀ i, good t i (e i)) (hsym : ∀ i, sym (e i) = y) :
    ∃ as', placeEntry (d.ids y) as e = some as' ∧
      Phase sym good d t₀ (done ++ [name]) t as' (new.insert y ((d.ids y).getD as.length)) := by
  cases hold : d.ids y with
  | none =>
    have hplace : placeEntry none as e = some (as ++ [e as.length]) := rfl
    refine ⟨_, hplace, h.strings, h.each.place hgood hplace, ?_⟩
    have happ := h.progress.append hy hnew hold
    simpa [hsym] using happ
  | some i =>
    have hslot := h.progress.slot hd hold
    have hlt : i < as.length := by
      simpa using (List.getElem?_eq_some_iff.mp hslot).1
    have hplace : placeEntry (some i) as e = some (as.set i (e i)) := by
      simp [placeEntry, setIndex, hlt]
    refine ⟨_, hplace, h.strings, h.each.place hgood hplace, ?_⟩
    -- the entry is overwritten by one with the same symbol
    have hsame : (as.set i (e i)).map sym = as.map sym := by
      rw [map_set, hsym]
      obtain ⟨hlt', heq⟩ := List.getElem?_eq_some_iff.mp hslot
      rw [← heq, List.set_getElem_self]
    rw [hsame]
    exact h.progress.known hd hy hold

/-- A name that the source does not enter twice. -/
lemma again {y : ℕ} (hy : t.lookup name = some y) (hsome : (new.lookup y).isSome = true) :
    Phase sym good d t₀ (done ++ [name]) t as new where
  strings := h.strings
  each := h.each
  progress := h.progress.again hy hsome

end Phase

/-! ## The three directories -/

/-- What the tables keep in a vector and a reverse map. -/
inductive EntryKind where
  | gateway
  | asset
  | instrument
  deriving DecidableEq

def InstrumentRefData.assetNames (r : InstrumentRefData) : List String :=
  [r.baseAsset, r.quoteAsset, r.settlementAsset].filter (· ≠ "")

def ConfdataManager.names (config : ConfdataManager) : EntryKind → List String
  | .gateway => config.gwConfigs.keys
  | .asset => config.refdata.entries.flatMap fun e => e.2.assetNames
  | .instrument => config.refdata.keys

namespace GwMeta

/-- Stands at its own index, with symbols that stand for strings. -/
structure Good (t : InternTable) (i : ℕ) (g : GwMeta) : Prop where
  gwId : g.gwId = i
  gwKeySym : t.Resolves g.gwKeySym
  exchNameSym : t.Resolves g.exchNameSym

lemma Good.mono {t t' : InternTable} {i : ℕ} {g : GwMeta} (ht : t.Extends t') (h : g.Good t i) :
    g.Good t' i := ⟨h.gwId, h.gwKeySym.mono ht, h.exchNameSym.mono ht⟩

end GwMeta

/-- Stands at its own index, with a symbol that stands for a string. -/
structure AssetMeta.Good (t : InternTable) (i : ℕ) (a : AssetMeta) : Prop where
  assetId : a.assetId = i
  assetSym : t.Resolves a.assetSym

lemma AssetMeta.Good.mono {t t' : InternTable} {i : ℕ} {a : AssetMeta} (ht : t.Extends t')
    (h : a.Good t i) : a.Good t' i := ⟨h.assetId, h.assetSym.mono ht⟩

namespace InstrumentMeta

/-- Stands at its own index, with symbols that stand for strings. -/
structure Good (t : InternTable) (i : ℕ) (inst : InstrumentMeta) : Prop where
  instrumentId : inst.instrumentId = i
  instrumentCodeSym : t.Resolves inst.instrumentCodeSym
  instrumentExchSym : t.Resolves inst.instrumentExchSym
  baseAssetSym : ∀ b ∈ inst.baseAssetSym, t.Resolves b

lemma Good.mono {t t' : InternTable} {i : ℕ} {inst : InstrumentMeta} (ht : t.Extends t')
    (h : inst.Good t i) : inst.Good t' i :=
  ⟨h.instrumentId, h.instrumentCodeSym.mono ht, h.instrumentExchSym.mono ht,
    fun b hb => (h.baseAssetSym b hb).mono ht⟩

end InstrumentMeta

namespace MetadataTables

variable {md : MetadataTables} {done : List String} {acc : MetadataTables × Dict ℕ ℕ}
  (config : ConfdataManager) (exchangeName : String)

/-- The symbols of a vector, and its reverse map. -/
def directory (md : MetadataTables) : EntryKind → Directory ℕ
  | .gateway => ⟨md.gws.map (·.gwKeySym), fun k => md.gwByKey.lookup k⟩
  | .asset => ⟨md.assets.map (·.assetSym), fun k => md.assetBySymbol.lookup k⟩
  | .instrument => ⟨md.instruments.map (·.instrumentCodeSym), fun k => md.instrumentByCode.lookup k⟩

/-! ### Gateways -/

/-- The tables in the middle of the gateway loop. -/
def GwPhase (md : MetadataTables) (done : List String) (acc : MetadataTables × Dict ℕ ℕ) : Prop :=
  ∃ t gws, acc.1 = { md with strings := t, gws } ∧
    Phase (·.gwKeySym) (fun t i g => GwMeta.Good t i g) (md.directory .gateway)
      md.strings done t gws
      acc.2

/-- The strings of a gateway, and the entry that is written. -/
def gwEntry (t : InternTable) (g : GwConfigEntry) : InternTable × ℕ × (ℕ → GwMeta) :=
  let (t, gwKeySym) := t.intern g.gwKey
  let (t, exchNameSym) := t.intern g.exchName
  (t, gwKeySym, fun gwId =>
    { gwId, gwKeySym, exchNameSym, cancelRequiredFields := g.cancelRequiredFields })

lemma rebuildGw_eq (old new : Dict ℕ ℕ) (md : MetadataTables) (g : GwConfigEntry) :
    rebuildGw old (md, new) g =
      (placeEntry (old.lookup (gwEntry md.strings g).2.1) md.gws (gwEntry md.strings g).2.2).bind
        fun gws => some ({ md with strings := (gwEntry md.strings g).1, gws },
          new.insert (gwEntry md.strings g).2.1
            ((old.lookup (gwEntry md.strings g).2.1).getD md.gws.length)) := by
  simp only [rebuildGw, gwEntry, intern]
  cases old.lookup (md.strings.intern g.gwKey).2 with
  | none => rfl
  | some i => rfl

section

variable (t : InternTable) (g : GwConfigEntry)

lemma extends_gwEntry : t.Extends (gwEntry t g).1 :=
  (t.extends_intern g.gwKey).trans (extends_intern _ g.exchName)

lemma lookup_gwEntry : (gwEntry t g).1.lookup g.gwKey = some (gwEntry t g).2.1 :=
  (extends_intern _ g.exchName).lookup (t.lookup_intern_self g.gwKey)

lemma good_gwEntry (i : ℕ) : ((gwEntry t g).2.2 i).Good (gwEntry t g).1 i where
  gwId := rfl
  gwKeySym := resolves_of_lookup (lookup_gwEntry t g)
  exchNameSym := resolves_of_lookup (lookup_intern_self _ g.exchName)

end

lemma gwPhase_rebuildGw (hd : (md.directory .gateway).Sound) (h : GwPhase md done acc)
    {g : GwConfigEntry} (hnew : g.gwKey ∉ done) :
    ∃ acc', rebuildGw md.gwByKey acc g = some acc' ∧ GwPhase md (done ++ [g.gwKey]) acc' := by
  obtain ⟨m, new⟩ := acc
  obtain ⟨t, gws, rfl, hph⟩ := h
  have ht := extends_gwEntry t g
  have hmid := hph.mono ht fun _ _ => GwMeta.Good.mono ht
  have hy := lookup_gwEntry t g
  have hnone : new.lookup (gwEntry t g).2.1 = none := by
    rw [← not_isSome_iff_eq_none, hmid.progress.lookup_isSome hy]
    exact hnew
  obtain ⟨gws', hplace, hend⟩ := hmid.place hd hy hnone (good_gwEntry t g) fun _ => rfl
  refine ⟨({ md with strings := (gwEntry t g).1, gws := gws' }, _), ?_, _, gws', rfl, hend⟩
  rw [rebuildGw_eq]
  exact congrArg (bind · _) hplace

/-! ### Routes -/

/-- Symbols that stand for strings. -/
structure GoodRoute (t : InternTable) (r : RouteMeta) : Prop where
  gwKeySym : t.Resolves r.gwKeySym
  exchAccountSym : t.Resolves r.exchAccountSym

def GoodRoutes (t : InternTable) (routes : Dict Int RouteMeta) : Prop :=
  ∀ a r, routes.lookup a = some r → GoodRoute t r

lemma GoodRoutes.mono {t t' : InternTable} {routes : Dict Int RouteMeta} (h : GoodRoutes t routes)
    (ht : t.Extends t') : GoodRoutes t' routes :=
  fun a r hr => ⟨(h a r hr).gwKeySym.mono ht, (h a r hr).exchAccountSym.mono ht⟩

/-- The tables in the middle of the route loop. -/
def RoutePhase (md md' : MetadataTables) : Prop :=
  ∃ t routes, md' = { md with strings := t, routeByAccount := routes } ∧ md.strings.Extends t ∧
    GoodRoutes t routes

lemma routePhase_addRoute {md' : MetadataTables} (h : RoutePhase md md') (accountId : Int)
    (route : OmsRouteEntry) : RoutePhase md (md'.addRoute accountId route) := by
  obtain ⟨t, routes, rfl, hext, hgood⟩ := h
  have ht₁ := t.extends_intern route.gwKey
  simp only [addRoute]
  split
  · exact ⟨_, routes, rfl, hext.trans ht₁, hgood.mono ht₁⟩
  · have ht₂ := (t.intern route.gwKey).1.extends_intern route.exchAccountId
    refine ⟨_, _, rfl, (hext.trans ht₁).trans ht₂, fun a r hr => ?_⟩
    rw [lookup_insert_if] at hr
    split_ifs at hr
    · cases hr
      exact ⟨(resolves_of_lookup (t.lookup_intern_self route.gwKey)).mono ht₂,
        resolves_of_lookup (lookup_intern_self _ _)⟩
    · exact hgood.mono (ht₁.trans ht₂) a r hr

/-! ### Assets -/

/-- The tables in the middle of the asset loop. -/
def AssetPhase (md : MetadataTables) (done : List String) (acc : MetadataTables × Dict ℕ ℕ) :
    Prop :=
  ∃ t assets, acc.1 = { md with strings := t, assets } ∧
    Phase (·.assetSym) (fun t i a => AssetMeta.Good t i a) (md.directory .asset) md.strings done t
      assets acc.2

section

variable (hd : (md.directory .asset).Sound) (h : AssetPhase md done acc)
include hd h

lemma assetPhase_ensureAssetStable (name : String) :
    ∃ acc', ensureAssetStable md.assetBySymbol name acc = some acc' ∧
      AssetPhase md (done ++ [name].filter (· ≠ "")) acc' := by
  obtain ⟨m, new⟩ := acc
  obtain ⟨t, assets, rfl, hph⟩ := h
  by_cases hname : name = ""
  · refine ⟨({ md with strings := t, assets }, new), ?_, t, assets, rfl, ?_⟩
    · simp [ensureAssetStable, hname]
    · simpa [hname] using hph
  · have ht := t.extends_intern name
    have hmid := hph.mono ht fun _ _ => AssetMeta.Good.mono ht
    have hy := t.lookup_intern_self name
    have hfilter : [name].filter (· ≠ "") = [name] := by simp [hname]
    rw [hfilter]
    simp only [ensureAssetStable, intern, if_neg hname]
    cases hnew : new.lookup (t.intern name).2 with
    | some i =>
      refine ⟨({ md with strings := (t.intern name).1, assets }, new), rfl, _, assets, rfl, ?_⟩
      exact hmid.again hy (by simp [hnew])
    | none =>
      obtain ⟨assets', hplace, hend⟩ := hmid.place hd hy hnew
        (e := fun id => { assetId := id, assetSym := (t.intern name).2 })
        (fun i => ⟨rfl, resolves_of_lookup hy⟩) fun _ => rfl
      refine ⟨({ md with strings := (t.intern name).1, assets := assets' }, _), ?_, _,
        assets', rfl,
        hend⟩
      have hids : (md.directory .asset).ids (t.intern name).2 =
        md.assetBySymbol.lookup (t.intern name).2 := rfl
      rw [hids] at hplace ⊢
      cases hold : md.assetBySymbol.lookup (t.intern name).2 with
      | none =>
        rw [hold] at hplace
        cases hplace
        rfl
      | some i =>
        rw [hold] at hplace
        simp only [placeEntry] at hplace
        simp only [hplace]
        rfl

lemma assetPhase_rebuildAssets (r : InstrumentRefData) :
    ∃ acc', rebuildAssets md.assetBySymbol acc r = some acc' ∧
      AssetPhase md (done ++ r.assetNames) acc' := by
  obtain ⟨acc₁, h₁, hp₁⟩ := assetPhase_ensureAssetStable hd h r.baseAsset
  obtain ⟨acc₂, h₂, hp₂⟩ := assetPhase_ensureAssetStable hd hp₁ r.quoteAsset
  obtain ⟨acc₃, h₃, hp₃⟩ := assetPhase_ensureAssetStable hd hp₂ r.settlementAsset
  refine ⟨acc₃, ?_, ?_⟩
  · simp [rebuildAssets, h₁, h₂, h₃]
  · have hnames : r.assetNames = [r.baseAsset].filter (· ≠ "") ++ [r.quoteAsset].filter (· ≠ "") ++
        [r.settlementAsset].filter (· ≠ "") := by
      rw [← filter_append, ← filter_append]
      rfl
    rw [hnames, ← append_assoc, ← append_assoc]
    exact hp₃

end

/-! ### Instruments -/

/-- The gateway symbols lead to instruments with that exchange symbol, all of them among `codes`. -/
def GwSymbols (codes : List ℕ) (instruments : List InstrumentMeta)
    (bySym : Dict (ℕ × ℕ) ℕ) : Prop :=
  ∀ g e i, bySym.lookup (g, e) = some i → ∃ inst, instruments[i]? = some inst ∧
    inst.instrumentExchSym = e ∧ inst.instrumentCodeSym ∈ codes

/-- The tables in the middle of the instrument loop. -/
def InstrumentPhase (md : MetadataTables) (done : List String)
    (acc : MetadataTables × Dict ℕ ℕ) : Prop :=
  ∃ t instruments bySym,
    acc.1 = { md with strings := t, instruments, instrumentByGwSymbol := bySym } ∧
    Phase (·.instrumentCodeSym) (fun t i inst => InstrumentMeta.Good t i inst)
      (md.directory .instrument) md.strings done t instruments acc.2 ∧
    GwSymbols (t.symbols done) instruments bySym

section

variable (md)

lemma assetRef_eq (name : String) :
    (md.assetRef name).1 = { md with strings := (md.assetRef name).1.strings } := by
  simp only [assetRef]
  split_ifs <;> rfl

variable (r : InstrumentRefData)

lemma internRefData_eq :
    md.internRefData r = { md with strings := (md.internRefData r).strings } := by
  simp only [internRefData]
  rw [assetRef_eq, assetRef_eq _ r.quoteAsset, assetRef_eq _ r.baseAsset]
  rfl

lemma resolve_exchSym (id : ℕ) :
    (md.internRefData r).strResolve (md.instrumentEntry r id).instrumentExchSym =
      some r.instrumentIdExchange := by
  have hrest : Grows ((md.intern r.instrumentId).1.intern r.instrumentIdExchange).1
      (md.internRefData r) :=
    ((grows_assetRef _ _).trans (grows_assetRef _ _)).trans (grows_assetRef _ _)
  exact hrest.strings _ _ (resolve_intern_self _ r.instrumentIdExchange)

lemma good_instrumentEntry (id : ℕ) :
    (md.instrumentEntry r id).Good (md.internRefData r).strings id where
  instrumentId := rfl
  instrumentCodeSym := isSome_of_eq_some (resolve_codeSym md r)
  instrumentExchSym := isSome_of_eq_some (resolve_exchSym md r id)
  baseAssetSym b hb := isSome_of_eq_some (resolve_baseSym md r b hb)

end

lemma rebuildInstrument_place (old new : Dict ℕ ℕ) (md : MetadataTables) (r : InstrumentRefData) :
    rebuildInstrument config old (md, new) r =
      (placeEntry (old.lookup (md.intern r.instrumentId).2) md.instruments
        (md.instrumentEntry r)).bind fun instruments =>
          some (indexGwSymbols config r.exchangeName (md.instrumentEntry r 0).instrumentExchSym
              ((old.lookup (md.intern r.instrumentId).2).getD md.instruments.length)
              { md.internRefData r with instruments },
            new.insert (md.intern r.instrumentId).2
              ((old.lookup (md.intern r.instrumentId).2).getD md.instruments.length)) := by
  rw [rebuildInstrument_eq, (grows_internRefData md r).instruments]
  cases old.lookup (md.intern r.instrumentId).2 with
  | none => rfl
  | some id => rfl

/-- Indexing an instrument under its exchange symbol writes no other table. -/
lemma indexGwSymbols_spec (exchSym instId : ℕ) (md : MetadataTables) :
    ∃ t bySym, indexGwSymbols config exchangeName exchSym instId md =
        { md with strings := t, instrumentByGwSymbol := bySym } ∧ md.strings.Extends t ∧
      ∀ g e i, bySym.lookup (g, e) = some i →
        md.instrumentByGwSymbol.lookup (g, e) = some i ∨ e = exchSym ∧ i = instId := by
  simp only [indexGwSymbols]
  induction (config.exchNameToGwKeys.lookup exchangeName.toUpper).getD [] generalizing md with
  | nil => exact ⟨md.strings, md.instrumentByGwSymbol, rfl, fun _ _ h => h, fun _ _ _ => .inl⟩
  | cons k ks ih =>
    have ht := md.strings.extends_intern k
    simp only [foldl_cons, intern]
    cases hgw : md.gwByKey.lookup (md.strings.intern k).2 with
    | none =>
      obtain ⟨t, bySym, heq, hext, hsym⟩ := ih { md with strings := (md.strings.intern k).1 }
      exact ⟨t, bySym, heq, ht.trans hext, hsym⟩
    | some gwId =>
      obtain ⟨t, bySym, heq, hext, hsym⟩ := ih { md with
        strings := (md.strings.intern k).1
        instrumentByGwSymbol := md.instrumentByGwSymbol.insert (gwId, exchSym) instId }
      refine ⟨t, bySym, heq, ht.trans hext, fun g e i hi => ?_⟩
      rcases hsym g e i hi with hold | hnew
      · rw [lookup_insert_if] at hold
        split_ifs at hold with hge
        · cases hold
          exact .inr ⟨(Prod.mk.inj hge).2, rfl⟩
        · exact .inl hold
      · exact .inr hnew

lemma instrumentPhase_rebuildInstrument {config : ConfdataManager}
    (hd : (md.directory .instrument).Sound) (h : InstrumentPhase md done acc)
    {r : InstrumentRefData} (hnew : r.instrumentId ∉ done) :
    ∃ acc', rebuildInstrument config md.instrumentByCode acc r = some acc' ∧
      InstrumentPhase md (done ++ [r.instrumentId]) acc' := by
  obtain ⟨m, new⟩ := acc
  obtain ⟨t, instruments, bySym, rfl, hph, hsyms⟩ := h
  generalize hm : ({ md with strings := t, instruments, instrumentByGwSymbol := bySym } :
    MetadataTables) = m
  have hmt : m.strings = t := by rw [← hm]
  have ht : t.Extends (m.internRefData r).strings := hmt ▸ (grows_internRefData m r).strings
  have hmid := hph.mono ht fun _ _ => InstrumentMeta.Good.mono ht
  have hy : (m.internRefData r).strings.lookup r.instrumentId = some (m.intern r.instrumentId).2 :=
    lookup_eq_some.mpr (resolve_codeSym m r)
  have hnone : new.lookup (m.intern r.instrumentId).2 = none := by
    rw [← not_isSome_iff_eq_none, hmid.progress.lookup_isSome hy]
    exact hnew
  obtain ⟨instruments', hplace, hend⟩ := hmid.place hd hy hnone (good_instrumentEntry m r)
    fun _ => rfl
  obtain ⟨t', bySym', hindex, hext, hsyms'⟩ := indexGwSymbols_spec config r.exchangeName
    (m.instrumentEntry r 0).instrumentExchSym
    (((md.directory .instrument).ids (m.intern r.instrumentId).2).getD instruments.length)
    { m.internRefData r with instruments := instruments' }
  have hend' := hend.mono hext fun _ _ => InstrumentMeta.Good.mono hext
  refine ⟨({ md with strings := t', instruments := instruments',
                     instrumentByGwSymbol := bySym' }, _),
    ?_, t', instruments', bySym', rfl, hend', ?_⟩
  · subst hm
    rw [rebuildInstrument_place]
    refine (congrArg (bind · _) hplace).trans (congrArg some (Prod.ext ?_ rfl))
    refine hindex.trans ?_
    rw [internRefData_eq]
  · have hy' := hext.lookup hy
    intro g e i hi
    rcases hsyms' g e i hi with hold | ⟨rfl, rfl⟩
    · rw [internRefData_eq, ← hm] at hold
      obtain ⟨inst, hinst, hexch, hcode⟩ := hsyms g e i hold
      obtain ⟨s, hs, hsym⟩ := mem_symbols.mp hcode
      refine ⟨inst, getElem?_placeEntry hplace hinst ?_, hexch, ?_⟩
      · -- the entry that is overwritten has a code of its own
        intro hi
        have hslot := hmid.progress.slot hd hi
        rw [getElem?_map, hinst] at hslot
        rw [map_some] at hslot
        have hsame := lookup_inj hy (hslot ▸ ht.lookup hsym)
        exact hnew (hsame ▸ hs)
      · refine mem_symbols.mpr ⟨s, mem_append_left _ hs, ?_⟩
        exact (ht.trans hext).lookup hsym
    · refine ⟨_, getElem?_placeEntry_self hplace, rfl, ?_⟩
      exact mem_symbols.mpr ⟨r.instrumentId, by simp, hy'⟩

/-! ## A whole reload -/

/-- What every reload keeps. -/
structure Kept (md : MetadataTables) : Prop where
  gws : Each (fun i g => GwMeta.Good md.strings i g) md.gws
  assets : Each (fun i a => AssetMeta.Good md.strings i a) md.assets
  instruments : Each (fun i inst => InstrumentMeta.Good md.strings i inst) md.instruments
  routes : GoodRoutes md.strings md.routeByAccount
  sound : ∀ kind, (md.directory kind).Sound
  gwSymbols : ∀ g e i, md.instrumentByGwSymbol.lookup (g, e) = some i →
    ∃ inst, md.instruments[i]? = some inst ∧ inst.instrumentExchSym = e

/-- `md'` is `md` after a reload: each directory has been reloaded to the names of the config, all
of which are interned now. -/
structure Reloaded (md : MetadataTables) (config : ConfdataManager) (md' : MetadataTables) :
    Prop where
  strings : md.strings.Extends md'.strings
  interned : ∀ kind, ∀ s ∈ config.names kind, (md'.strings.lookup s).isSome = true
  reloads : ∀ kind, (md.directory kind).Reloads (md'.strings.symbols (config.names kind))
    (md'.directory kind)

lemma kept_empty : Kept {} where
  gws i g hi := by cases hi
  assets i a hi := by cases hi
  instruments i inst hi := by cases hi
  routes a r hr := by cases hr
  sound kind := by
    intro k i hi
    cases kind <;> cases hi
  gwSymbols g e i hi := by cases hi

lemma map_entries_of_keyed {V : Type} {m : Dict String V} {key : V → String}
    (h : ∀ k v, m.lookup k = some v → key v = k) : m.entries.map (key ·.2) = m.keys :=
  map_congr_left fun e he => h e.1 e.2 (mem_entries_iff.mp he)

lemma notMem_of_keyed {V : Type} {m : Dict String V} {key : V → String}
    (h : ∀ k v, m.lookup k = some v → key v = k) {done rest : List (Sigma fun _ : String => V)}
    {e : Sigma fun _ : String => V} (hes : m.entries = done ++ e :: rest) :
    key e.2 ∉ done.map (key ·.2) := by
  have hnodup := m.keys_nodup
  rw [← map_entries_of_keyed h, hes, map_append, nodup_append] at hnodup
  intro hmem
  exact hnodup.2.2 _ hmem _ mem_cons_self rfl

lemma rebuildGws_spec (h : Kept md) (config : Confdata) :
    ∃ acc, config.gwConfigs.entries.foldlM (fun acc e => rebuildGw md.gwByKey acc e.2) (md, ∅) =
      some acc ∧ GwPhase md config.gwConfigs.keys acc := by
  rw [← map_entries_of_keyed config.keyed.gwConfigs]
  refine foldlM_total (I := fun (done : List (Sigma fun _ : String => GwConfigEntry)) acc =>
    GwPhase md (done.map (·.2.gwKey)) acc) ?_ ?_
  · intro done e rest acc hes hacc
    rw [map_append]
    exact gwPhase_rebuildGw (h.sound .gateway) hacc (notMem_of_keyed config.keyed.gwConfigs hes)
  · exact ⟨md.strings, md.gws, rfl, fun _ _ hs => hs, h.gws, .start _ _⟩

section

variable (md)

lemma addRoutes_spec (h : GoodRoutes md.strings md.routeByAccount) (config : ConfdataManager) :
    RoutePhase md (config.accountRoutes.entries.foldl (fun md e => md.addRoute e.1 e.2) md) := by
  refine List.foldlRecOn _ _ ?_ ?_
  · exact ⟨md.strings, md.routeByAccount, rfl, fun _ _ hs => hs, h⟩
  · exact fun md' hmd' e _ => routePhase_addRoute hmd' e.1 e.2

lemma rebuildAssets_spec (hd : (md.directory .asset).Sound)
    (hgood : Each (fun i a => AssetMeta.Good md.strings i a) md.assets) (config : ConfdataManager) :
    ∃ acc, config.refdata.entries.foldlM (fun acc e => rebuildAssets md.assetBySymbol acc e.2)
      (md, ∅) = some acc ∧ AssetPhase md (config.names .asset) acc := by
  refine foldlM_total
    (I := fun (done : List (Sigma fun _ : String => InstrumentRefData)) acc =>
      AssetPhase md (done.flatMap fun e => e.2.assetNames) acc) ?_ ?_
  · intro done e rest acc _ hacc
    rw [flatMap_append, flatMap_singleton]
    exact assetPhase_rebuildAssets hd hacc e.2
  · exact ⟨md.strings, md.assets, rfl, fun _ _ hs => hs, hgood, .start _ _⟩

lemma rebuildInstruments_spec (hd : (md.directory .instrument).Sound)
    (hgood : Each (fun i inst => InstrumentMeta.Good md.strings i inst) md.instruments)
    (hempty : md.instrumentByGwSymbol = ∅) (config : Confdata) :
    ∃ acc, config.refdata.entries.foldlM
      (fun acc e => rebuildInstrument config.toConfdataManager md.instrumentByCode acc e.2)
      (md, ∅) = some acc ∧ InstrumentPhase md config.refdata.keys acc := by
  rw [← map_entries_of_keyed config.keyed.refdata]
  refine foldlM_total (I := fun (done : List (Sigma fun _ : String => InstrumentRefData)) acc =>
    InstrumentPhase md (done.map (·.2.instrumentId)) acc) ?_ ?_
  · intro done e rest acc hes hacc
    rw [map_append]
    exact instrumentPhase_rebuildInstrument hd hacc (notMem_of_keyed config.keyed.refdata hes)
  · refine ⟨md.strings, md.instruments, md.instrumentByGwSymbol, rfl,
      ⟨fun _ _ hs => hs, hgood, .start _ _⟩, ?_⟩
    rw [hempty]
    intro g e i hi
    cases hi

lemma addTradings_spec (config : ConfdataManager) :
    ∃ t trading, config.tradingConfigs.entries.foldl (fun md e => md.addTrading e.1 e.2) md =
      { md with strings := t, tradingByInstrument := trading } ∧ md.strings.Extends t := by
  refine List.foldlRecOn (motive := fun md' => ∃ t trading,
    md' = { md with strings := t, tradingByInstrument := trading } ∧ md.strings.Extends t) _ _ ?_ ?_
  · exact ⟨md.strings, md.tradingByInstrument, rfl, fun _ _ hs => hs⟩
  · rintro _ ⟨t, trading, rfl, hext⟩ e -
    have ht := hext.trans (t.extends_intern e.1)
    simp only [addTrading]
    split
    · exact ⟨_, trading, rfl, ht⟩
    · exact ⟨_, _, rfl, ht⟩

end

/-- **A reload of kept tables succeeds, keeps them, and reloads each directory.** -/
theorem reload_spec (h : Kept md) (config : Confdata) :
    ∃ md', md.rebuildFromConfig config.toConfdataManager = some md' ∧ Kept md' ∧
      Reloaded md config.toConfdataManager md' := by
  obtain ⟨⟨m₁, gwByKey⟩, hgws, t₁, gws, rfl, hgw⟩ := rebuildGws_spec h config
  -- the tables after each of the five loops
  let md₁ := { md with strings := t₁, gws, gwByKey, routeByAccount := ∅ }
  obtain ⟨t₂, routes, hroutes, hext₂, hgood⟩ := addRoutes_spec md₁ (fun a r hr => by cases hr)
    config.toConfdataManager
  have ht₂ : md.strings.Extends t₂ := hgw.strings.trans hext₂
  let md₂ := { md₁ with strings := t₂, routeByAccount := routes }
  obtain ⟨⟨m₃, assetBySymbol⟩, hassets, t₃, assets, rfl, has⟩ := rebuildAssets_spec md₂
    (h.sound .asset) (h.assets.imp fun _ _ => AssetMeta.Good.mono ht₂) config.toConfdataManager
  have ht₃ : md.strings.Extends t₃ := ht₂.trans has.strings
  let md₃ := { md₂ with strings := t₃, assets, assetBySymbol, instrumentByGwSymbol := ∅ }
  obtain ⟨⟨m₄, instrumentByCode⟩, hinsts, t₄, instruments, bySym, rfl, hinst, hsyms⟩ :=
    rebuildInstruments_spec md₃ (h.sound .instrument)
      (h.instruments.imp fun _ _ => InstrumentMeta.Good.mono ht₃) rfl config
  let md₄ := { md₃ with
    strings := t₄, instruments, instrumentByGwSymbol := bySym, instrumentByCode,
    tradingByInstrument := ∅ }
  obtain ⟨t₅, trading, htrading, hext₅⟩ := addTradings_spec md₄ config.toConfdataManager
  have hext₄ : t₃.Extends t₅ := hinst.strings.trans hext₅
  have hext₃ : t₂.Extends t₅ := has.strings.trans hext₄
  have hgwEnd := hgw.mono (hext₂.trans hext₃) fun _ _ => GwMeta.Good.mono (hext₂.trans hext₃)
  have hasEnd := has.mono hext₄ fun _ _ => AssetMeta.Good.mono hext₄
  have hinstEnd := hinst.mono hext₅ fun _ _ => InstrumentMeta.Good.mono hext₅
  have hend : ∀ kind, (∀ s ∈ config.names kind, (t₅.lookup s).isSome = true) ∧
      (md.directory kind).Reloads (t₅.symbols (config.names kind)) (md₄.directory kind) := by
    intro kind
    cases kind with
    | gateway => exact ⟨hgwEnd.progress.interned, hgwEnd.progress.reloads⟩
    | asset => exact ⟨hasEnd.progress.interned, hasEnd.progress.reloads⟩
    | instrument => exact ⟨hinstEnd.progress.interned, hinstEnd.progress.reloads⟩
  refine ⟨{ md₄ with strings := t₅, tradingByInstrument := trading }, ?_, ?_, ?_⟩
  · simp only [rebuildFromConfig, hgws, some_bind]
    rw [hroutes]
    rw [hassets, some_bind]
    rw [hinsts]
    exact congrArg some htrading
  · refine ⟨hgwEnd.each, hasEnd.each, hinstEnd.each, hgood.mono hext₃, ?_, ?_⟩
    · intro kind
      have hsound := (hend kind).2.sound
      cases kind <;> exact hsound
    · intro g e i hi
      obtain ⟨inst, hi, hexch, -⟩ := hsyms g e i hi
      exact ⟨inst, hi, hexch⟩
  · refine ⟨ht₃.trans hext₄, fun kind => (hend kind).1, fun kind => ?_⟩
    have hreloads := (hend kind).2
    cases kind <;> exact hreloads

/-! ## Building is reloading the empty tables -/

/-- A fold that can fail, step by step the image of one that cannot. -/
lemma foldlM_eq_foldl {σ τ ε : Type} (f : σ → ε → Option σ) (g : τ → ε → τ) (put : σ → τ)
    (h : ∀ s e, ∃ s', f s e = some s' ∧ put s' = g (put s) e) (s : σ) (es : List ε) :
    ∃ s', es.foldlM f s = some s' ∧ put s' = es.foldl g (put s) := by
  refine foldlM_total (I := fun done s' => put s' = done.foldl g (put s)) ?_ rfl
  intro done e rest s' _ hs'
  obtain ⟨s'', hstep, hput⟩ := h s' e
  refine ⟨s'', hstep, ?_⟩
  rw [hput, hs', foldl_append]
  rfl

section

variable (acc : MetadataTables × Dict ℕ ℕ)

/-- The tables with the key map that the gateway loop has built. -/
def putGws : MetadataTables :=
  { acc.1 with gwByKey := acc.2, routeByAccount := ∅ }

/-- The tables with the symbol map that the asset loop has built. -/
def putAssets : MetadataTables :=
  { acc.1 with assetBySymbol := acc.2, instrumentByGwSymbol := ∅ }

/-- The tables with the code map that the instrument loop has built. -/
def putInstruments : MetadataTables :=
  { acc.1 with instrumentByCode := acc.2, tradingByInstrument := ∅ }

end

section

variable (acc)

variable (name : String)

lemma rebuildGw_empty (g : GwConfigEntry) :
    ∃ acc', rebuildGw ∅ acc g = some acc' ∧ putGws acc' = (putGws acc).addGw g :=
  ⟨_, rfl, rfl⟩

lemma ensureAssetStable_empty :
    ∃ acc', ensureAssetStable ∅ name acc = some acc' ∧
      putAssets acc' = (putAssets acc).ensureAsset name := by
  obtain ⟨md, new⟩ := acc
  by_cases hname : name = ""
  · exact ⟨(md, new), by simp [ensureAssetStable, hname], by simp [ensureAsset, hname]⟩
  · simp only [ensureAssetStable, ensureAsset, if_neg hname, intern, putAssets]
    cases new.lookup (md.strings.intern name).2 with
    | some i | none => exact ⟨_, rfl, rfl⟩

lemma rebuildAssets_empty (r : InstrumentRefData) :
    ∃ acc', rebuildAssets ∅ acc r = some acc' ∧ putAssets acc' = (putAssets acc).addAssets r := by
  obtain ⟨acc₁, h₁, hput₁⟩ := ensureAssetStable_empty acc r.baseAsset
  obtain ⟨acc₂, h₂, hput₂⟩ := ensureAssetStable_empty acc₁ r.quoteAsset
  obtain ⟨acc₃, h₃, hput₃⟩ := ensureAssetStable_empty acc₂ r.settlementAsset
  refine ⟨acc₃, ?_, ?_⟩
  · simp [rebuildAssets, h₁, h₂, h₃]
  · rw [addAssets, hput₃, hput₂, hput₁]

lemma assetRef_putInstruments :
    (putInstruments acc).assetRef name =
      (putInstruments ((acc.1.assetRef name).1, acc.2), (acc.1.assetRef name).2) := by
  simp only [assetRef]
  split_ifs <;> rfl

lemma intern_putInstruments :
    (putInstruments acc).intern name =
      (putInstruments ((acc.1.intern name).1, acc.2), (acc.1.intern name).2) := rfl

end

section

variable (md) (new : Dict ℕ ℕ) (r : InstrumentRefData)

lemma internRefData_putInstruments :
    (putInstruments (md, new)).internRefData r = putInstruments (md.internRefData r, new) := by
  simp [internRefData, intern_putInstruments, assetRef_putInstruments]

lemma instrumentEntry_putInstruments (id : ℕ) :
    (putInstruments (md, new)).instrumentEntry r id = md.instrumentEntry r id := by
  simp [instrumentEntry, intern_putInstruments, assetRef_putInstruments]

end

lemma indexGwSymbols_putInstruments (exchSym instId : ℕ) (md : MetadataTables) (new : Dict ℕ ℕ) :
    indexGwSymbols config exchangeName exchSym instId (putInstruments (md, new)) =
      putInstruments (indexGwSymbols config exchangeName exchSym instId md, new) := by
  simp only [indexGwSymbols]
  induction (config.exchNameToGwKeys.lookup exchangeName.toUpper).getD [] generalizing md with
  | nil => rfl
  | cons k ks ih =>
    simp only [foldl_cons]
    rw [← ih]
    simp only [intern, putInstruments]
    cases md.gwByKey.lookup (md.strings.intern k).2 with
    | some i => rfl
    | none => rfl

lemma rebuildInstrument_empty (acc : MetadataTables × Dict ℕ ℕ) (r : InstrumentRefData) :
    ∃ acc', rebuildInstrument config ∅ acc r = some acc' ∧
      putInstruments acc' = (putInstruments acc).addInstrument config r := by
  obtain ⟨md, new⟩ := acc
  refine ⟨_, rebuildInstrument_place config ∅ new md r, ?_⟩
  rw [← indexGwSymbols_putInstruments, addInstrument_eq, internRefData_putInstruments,
    instrumentEntry_putInstruments, instrumentEntry_putInstruments]
  have hinst : (putInstruments (md.internRefData r, new)).instruments = md.instruments :=
    (grows_internRefData md r).instruments
  rw [hinst]
  rfl

/-- **The tables of a configuration are the empty tables, reloaded to it.** -/
theorem rebuildFromConfig_empty (config : Confdata) :
    rebuildFromConfig {} config.toConfdataManager =
      some (fromConfdata config.toConfdataManager) := by
  -- the maps that the loops read are empty when they start
  obtain ⟨⟨m₁, gwByKey⟩, hgws, t₁, gws, rfl, -⟩ := rebuildGws_spec kept_empty config
  obtain ⟨acc₁, hacc₁, hput₁⟩ := foldlM_eq_foldl (fun acc e => rebuildGw ∅ acc e.2)
    (fun md (e : Sigma fun _ : String => GwConfigEntry) => md.addGw e.2) putGws
    (fun acc e => rebuildGw_empty acc e.2) ({}, ∅) config.gwConfigs.entries
  obtain rfl : _ = acc₁ := mem_unique hgws hacc₁
  obtain ⟨t₂, routes, hroutes, -⟩ := addRoutes_spec
    ({ strings := t₁, gws, gwByKey } : MetadataTables) (fun a r hr => by cases hr)
    config.toConfdataManager
  let md₂ : MetadataTables := { strings := t₂, gws, gwByKey, routeByAccount := routes }
  obtain ⟨⟨m₃, assetBySymbol⟩, hassets, t₃, assets, rfl, -⟩ := rebuildAssets_spec md₂
    (kept_empty.sound .asset) (fun i a hi => by cases hi) config.toConfdataManager
  obtain ⟨acc₃, hacc₃, hput₃⟩ := foldlM_eq_foldl (fun acc e => rebuildAssets ∅ acc e.2)
    (fun md (e : Sigma fun _ : String => InstrumentRefData) => md.addAssets e.2) putAssets
    (fun acc e => rebuildAssets_empty acc e.2) (md₂, ∅) config.refdata.entries
  obtain rfl : _ = acc₃ := mem_unique hassets hacc₃
  let md₃ : MetadataTables := { md₂ with strings := t₃, assets, assetBySymbol }
  have hstep₄ : ∀ (acc : MetadataTables × Dict ℕ ℕ) (e : Sigma fun _ : String => InstrumentRefData),
      ∃ acc', rebuildInstrument config.toConfdataManager ∅ acc e.2 = some acc' ∧
        putInstruments acc' = (putInstruments acc).addInstrument config.toConfdataManager e.2 :=
    fun acc e => rebuildInstrument_empty config.toConfdataManager acc e.2
  obtain ⟨⟨m₄, instrumentByCode⟩, hacc₄, hput₄⟩ := foldlM_eq_foldl _
    (fun md (e : Sigma fun _ : String => InstrumentRefData) =>
      md.addInstrument config.toConfdataManager e.2) putInstruments hstep₄ (md₃, ∅)
    config.refdata.entries
  have hroutes' : config.accountRoutes.entries.foldl (fun md e => md.addRoute e.1 e.2)
      (putGws ({ strings := t₁, gws }, gwByKey)) = md₂ := hroutes
  have hstart₃ : putAssets (md₂, ∅) = md₂ := rfl
  have hput₃' : putAssets ({ md₂ with strings := t₃, assets }, assetBySymbol) = md₃ := rfl
  have hstart₄ : putInstruments (md₃, ∅) = md₃ := rfl
  have hbuild : fromConfdata config.toConfdataManager =
      config.tradingConfigs.entries.foldl (fun md e => md.addTrading e.1 e.2)
        (putInstruments (m₄, instrumentByCode)) := by
    rw [hput₄, hstart₄, ← hput₃', hput₃, hstart₃, ← hroutes', hput₁]
    rfl
  have hreload : rebuildFromConfig {} config.toConfdataManager =
      some (config.tradingConfigs.entries.foldl (fun md e => md.addTrading e.1 e.2)
        (putInstruments (m₄, instrumentByCode))) := by
    simp only [rebuildFromConfig, hgws, some_bind]
    rw [hroutes]
    refine (congrArg (bind · _) hassets).trans ?_
    exact congrArg (bind · _) hacc₄
  rw [hreload, hbuild]

end MetadataTables

end Zkbot
