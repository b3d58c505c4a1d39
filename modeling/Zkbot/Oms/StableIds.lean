import Zkbot.Oms.Reloads

/-!
# What ids stand for, through any history of reloads

The rest of the system keeps ids of gateways, assets and instruments: balances, positions and orders
are stored under them.  This file follows the tables from an initial configuration through any
sequence of reloads.

* `ids_meaningful` — no reload panics; ids keep standing for the name they were handed out for,
  reverse maps are right, and every symbol resolves.
* `ids_stable_iff` — a name keeps its *id* only as long as it does not leave the configuration.  The
  reverse maps are replaced by every reload, so a name that returns is appended as if it were new,
  and two entries carry its symbol from then on.
-/

namespace Zkbot

open List Option ConfdataManager Dict InternTable

namespace MetadataTables

variable {i : ℕ} {md : MetadataTables}

def reload (md : MetadataTables) (config : Confdata) : Option MetadataTables :=
  md.rebuildFromConfig config.toConfdataManager

/-- The tables built from `c₀`, after the first `i` of the reloads `cs`. -/
def tablesAt (c₀ : Confdata) (cs : List Confdata) (i : ℕ) : Option MetadataTables :=
  run reload (fromConfdata c₀.toConfdataManager) (cs.take i)

lemma run_reload_empty (c₀ : Confdata) (cs : List Confdata) :
    run reload {} (c₀ :: cs) = run reload (fromConfdata c₀.toConfdataManager) cs := by
  rw [run_cons, reload, rebuildFromConfig_empty]
  rfl

def nameOf (md : MetadataTables) (kind : EntryKind) (id : ℕ) : Option String :=
  (md.directory kind).names[id]?.bind md.strResolve

def idOf (md : MetadataTables) (kind : EntryKind) (name : String) : Option ℕ :=
  (md.strings.lookup name).bind (md.directory kind).ids

/-! ## A history of reloads -/

/-- The configurations of a history, one after another. -/
def namesAt (kind : EntryKind) (configs : List Confdata) (i : ℕ) : List String :=
  configs[i]?.elim [] fun c => c.names kind

/-- The tables after the first `i` configurations, starting from empty ones. -/
def tablesAfter (configs : List Confdata) (i : ℕ) : MetadataTables :=
  (run reload {} (configs.take i)).getD {}

lemma run_tablesAfter (configs : List Confdata) (i : ℕ) :
    run reload {} (configs.take i) = some (tablesAfter configs i) ∧
      Kept (tablesAfter configs i) := by
  have hrun : ∃ md, run reload {} (configs.take i) = some md ∧ Kept md := by
    induction i with
    | zero => exact ⟨{}, rfl, kept_empty⟩
    | succ i ih =>
      obtain ⟨md, hmd, hkept⟩ := ih
      rw [take_add_one, run_append, hmd, bind_some]
      cases configs[i]? with
      | none => exact ⟨md, rfl, hkept⟩
      | some c =>
        obtain ⟨md', hmd', hkept', -⟩ := reload_spec hkept c
        refine ⟨md', ?_, hkept'⟩
        show (reload md c).bind _ = _
        rw [reload, hmd']
        rfl
  obtain ⟨md, hmd, hkept⟩ := hrun
  simp only [tablesAfter, hmd, getD_some]
  exact ⟨trivial, hkept⟩

lemma reloaded_tablesAfter {configs : List Confdata} {c : Confdata} (hc : configs[i]? = some c) :
    Reloaded (tablesAfter configs i) c.toConfdataManager (tablesAfter configs (i + 1)) := by
  obtain ⟨hrun, hkept⟩ := run_tablesAfter configs i
  obtain ⟨md', hmd', -, hreloaded⟩ := reload_spec hkept c
  have hnext := (run_tablesAfter configs (i + 1)).1
  rw [take_add_one, run_append, hrun, bind_some, hc] at hnext
  have hstep : run reload (tablesAfter configs i) [c] = some md' := by
    rw [run_cons, reload, hmd']
    rfl
  rw [toList_some, hstep, some.injEq] at hnext
  rw [← hnext]
  exact hreloaded

lemma tablesAfter_extends (configs : List Confdata) {j : ℕ} (hij : i ≤ j)
    (hj : j ≤ configs.length) :
    (tablesAfter configs i).strings.Extends (tablesAfter configs j).strings := by
  induction j, hij using Nat.le_induction with
  | base => exact fun _ _ h => h
  | succ j _ ih =>
    have hc : configs[j]? = some configs[j] := getElem?_eq_getElem (by omega)
    exact (ih (by omega)).trans (reloaded_tablesAfter hc).strings

section History

variable (kind : EntryKind) (configs : List Confdata)

lemma interned_tablesAfter {i : ℕ} (hi : i < configs.length) :
    ∀ s ∈ namesAt kind configs i,
      ((tablesAfter configs (i + 1)).strings.lookup s).isSome = true := by
  have hc : configs[i]? = some configs[i] := getElem?_eq_getElem hi
  intro s hs
  simp only [namesAt, hc, elim_some] at hs
  exact (reloaded_tablesAfter hc).interned kind s hs

/-- The symbols of the names of each configuration, in the table that has them all. -/
def symbolsAt (i : ℕ) : List ℕ :=
  (tablesAfter configs configs.length).strings.symbols (namesAt kind configs i)

/-- A history of reloads of the tables is a history of reloads of each directory. -/
lemma history_tablesAfter :
    Directory.History (fun i => (tablesAfter configs i).directory kind) (symbolsAt kind configs)
      configs.length where
  names_zero := by cases kind <;> rfl
  ids_zero k := by cases kind <;> rfl
  reloads i hi := by
    have hc : configs[i]? = some configs[i] := getElem?_eq_getElem hi
    have hreloads := (reloaded_tablesAfter hc).reloads kind
    have hnames : namesAt kind configs i = configs[i].names kind := by simp [namesAt, hc]
    rw [symbolsAt, symbols_extends (tablesAfter_extends configs (i := i + 1) hi le_rfl)
      (interned_tablesAfter kind configs hi), hnames]
    exact hreloads

/-- Symbols return exactly when names do. -/
lemma noReturn_symbolsAt :
    Directory.NoReturn (symbolsAt kind configs) configs.length ↔
      Directory.NoReturn (namesAt kind configs) configs.length := by
  constructor
  · intro h s i m j him hmj hj hsi hsj
    obtain ⟨y, hy⟩ := isSome_iff_exists.mp (interned_tablesAfter kind configs (by omega) s hsi)
    have hy' := (tablesAfter_extends configs
      (show i + 1 ≤ configs.length by omega) le_rfl).lookup hy
    have hym := h y i m j him hmj hj (mem_symbols.mpr ⟨s, hsi, hy'⟩)
      (mem_symbols.mpr ⟨s, hsj, hy'⟩)
    obtain ⟨s', hs', hsym⟩ := mem_symbols.mp hym
    rw [lookup_inj hy' hsym]
    exact hs'
  · intro h y i m j him hmj hj hyi hyj
    obtain ⟨s, hsi, hsym⟩ := mem_symbols.mp hyi
    obtain ⟨s', hsj, hsym'⟩ := mem_symbols.mp hyj
    obtain rfl := lookup_inj hsym hsym'
    exact mem_symbols.mpr ⟨s, h s i m j him hmj hj hsi hsj, hsym⟩

end History

/-! ## What stays true of ids and symbols -/

/-- Every entry stands at the index it names. -/
structure Numbered (md : MetadataTables) : Prop where
  gws : ∀ i (g : GwMeta), md.gws[i]? = some g → g.gwId = i
  assets : ∀ i (a : AssetMeta), md.assets[i]? = some a → a.assetId = i
  instruments : ∀ i (inst : InstrumentMeta), md.instruments[i]? = some inst → inst.instrumentId = i

/-- The reverse maps only return ids whose entry carries the symbol. -/
structure ReverseMaps (md : MetadataTables) : Prop where
  gwByKey : ∀ sym id, md.gwByKey.lookup sym = some id → ∃ g, md.gws[id]? = some g ∧ g.gwKeySym = sym
  assetBySymbol : ∀ sym id, md.assetBySymbol.lookup sym = some id →
    ∃ a, md.assets[id]? = some a ∧ a.assetSym = sym
  instrumentByCode : ∀ sym id, md.instrumentByCode.lookup sym = some id →
    ∃ inst, md.instruments[id]? = some inst ∧ inst.instrumentCodeSym = sym
  instrumentByGwSymbol : ∀ gwId sym id, md.instrumentByGwSymbol.lookup (gwId, sym) = some id →
    ∃ inst, md.instruments[id]? = some inst ∧ inst.instrumentExchSym = sym

/-- Every symbol that the tables store. -/
def storedSymbols (md : MetadataTables) : List ℕ :=
  md.gws.flatMap (fun g => [g.gwKeySym, g.exchNameSym])
    ++ md.assets.map (·.assetSym)
    ++ md.instruments.flatMap (fun inst =>
        inst.instrumentCodeSym :: inst.instrumentExchSym :: inst.baseAssetSym.toList)
    ++ md.routeByAccount.entries.flatMap (fun e => [e.2.gwKeySym, e.2.exchAccountSym])
    ++ md.gwByKey.keys ++ md.assetBySymbol.keys ++ md.instrumentByCode.keys
    ++ md.instrumentByGwSymbol.keys.map (·.2)

lemma Kept.numbered (h : Kept md) : Numbered md where
  gws i g hi := (h.gws i g hi).gwId
  assets i a hi := (h.assets i a hi).assetId
  instruments i inst hi := (h.instruments i inst hi).instrumentId

lemma Kept.reverseMaps (h : Kept md) : ReverseMaps md where
  gwByKey sym id hid := by
    have hsound := h.sound .gateway sym id hid
    rw [directory, getElem?_map, map_eq_some_iff] at hsound
    exact hsound
  assetBySymbol sym id hid := by
    have hsound := h.sound .asset sym id hid
    rw [directory, getElem?_map, map_eq_some_iff] at hsound
    exact hsound
  instrumentByCode sym id hid := by
    have hsound := h.sound .instrument sym id hid
    rw [directory, getElem?_map, map_eq_some_iff] at hsound
    exact hsound
  instrumentByGwSymbol := h.gwSymbols

lemma Kept.resolves (h : Kept md) {sym : ℕ} (hsym : sym ∈ md.storedSymbols) :
    md.strings.Resolves sym := by
  have hmaps := h.reverseMaps
  simp only [storedSymbols, List.mem_append, List.mem_flatMap, List.mem_map, List.mem_cons,
    List.not_mem_nil, or_false, Option.mem_toList] at hsym
  rcases hsym with ((((((⟨g, hg, hsym⟩ | ⟨a, ha, rfl⟩) | ⟨inst, hinst, hsym⟩) | ⟨e, he, hsym⟩) |
    hsym) | hsym) | hsym) | ⟨⟨gwId, sym'⟩, hkey, rfl⟩
  · obtain ⟨i, hi⟩ := getElem?_of_mem hg
    rcases hsym with rfl | rfl
    · exact (h.gws i g hi).gwKeySym
    · exact (h.gws i g hi).exchNameSym
  · obtain ⟨i, hi⟩ := getElem?_of_mem ha
    exact (h.assets i a hi).assetSym
  · obtain ⟨i, hi⟩ := getElem?_of_mem hinst
    have hgood := h.instruments i inst hi
    rcases hsym with rfl | rfl | hsym
    · exact hgood.instrumentCodeSym
    · exact hgood.instrumentExchSym
    · exact hgood.baseAssetSym sym hsym
  · have hgood := h.routes e.1 e.2 (mem_entries_iff.mp he)
    rcases hsym with rfl | rfl
    · exact hgood.gwKeySym
    · exact hgood.exchAccountSym
  -- the key of a reverse map is the symbol of an entry
  · obtain ⟨id, hid⟩ := mem_iff_lookup.mp hsym
    obtain ⟨g, hg, rfl⟩ := hmaps.gwByKey sym id hid
    exact (h.gws id g hg).gwKeySym
  · obtain ⟨id, hid⟩ := mem_iff_lookup.mp hsym
    obtain ⟨a, ha, rfl⟩ := hmaps.assetBySymbol sym id hid
    exact (h.assets id a ha).assetSym
  · obtain ⟨id, hid⟩ := mem_iff_lookup.mp hsym
    obtain ⟨inst, hinst, rfl⟩ := hmaps.instrumentByCode sym id hid
    exact (h.instruments id inst hinst).instrumentCodeSym
  · obtain ⟨id, hid⟩ := mem_iff_lookup.mp hkey
    obtain ⟨inst, hinst, rfl⟩ := hmaps.instrumentByGwSymbol gwId sym' id hid
    exact (h.instruments id inst hinst).instrumentExchSym

lemma nameOf_tablesAfter (kind : EntryKind) (configs : List Confdata) {j : ℕ} (hij : i ≤ j)
    (hj : j ≤ configs.length) {id : ℕ} {s : String}
    (h : (tablesAfter configs i).nameOf kind id = some s) :
    (tablesAfter configs j).nameOf kind id = some s := by
  rw [nameOf, bind_eq_some_iff] at h
  obtain ⟨sym, hsym, hs⟩ := h
  obtain ⟨app, happ⟩ := (history_tablesAfter kind configs).names_isPrefix hij hj
  have hlisted : ((tablesAfter configs j).directory kind).names[id]? = some sym := by
    rw [← happ, List.getElem?_append_left (List.getElem?_eq_some_iff.mp hsym).1]
    exact hsym
  rw [nameOf, hlisted]
  exact tablesAfter_extends configs hij hj sym s hs

lemma tablesAt_eq (c₀ : Confdata) (cs : List Confdata) (i : ℕ) :
    tablesAt c₀ cs i = some (tablesAfter (c₀ :: cs) (i + 1)) := by
  rw [tablesAt, ← run_reload_empty, ← take_succ_cons]
  exact (run_tablesAfter (c₀ :: cs) (i + 1)).1

/-- **Ids handed out stay meaningful.**  From every configuration, through every sequence of
reloads, none of which panics. -/
theorem ids_meaningful (c₀ : Confdata) (cs : List Confdata) :
    ∃ md, run reload (fromConfdata c₀.toConfdataManager) cs = some md ∧
      md.Numbered ∧
      (∀ i ≤ cs.length, ∀ md₀, tablesAt c₀ cs i = some md₀ →
        ∀ kind id s, md₀.nameOf kind id = some s → md.nameOf kind id = some s) ∧
      md.ReverseMaps ∧
      ∀ sym ∈ md.storedSymbols, ∃ s, md.strResolve sym = some s := by
  have hend := tablesAt_eq c₀ cs cs.length
  rw [tablesAt, take_length] at hend
  have hkept := (run_tablesAfter (c₀ :: cs) (cs.length + 1)).2
  refine ⟨_, hend, hkept.numbered, ?_, hkept.reverseMaps, ?_⟩
  · intro i hi md₀ hmd₀ kind id s hs
    rw [tablesAt_eq] at hmd₀
    cases hmd₀
    refine nameOf_tablesAfter kind _ ?_ ?_ hs
    · omega
    · simp
  · exact fun sym hsym => isSome_iff_exists.mp (hkept.resolves hsym)

/-! ## Whether a name keeps its id -/

/-- A name that is current under `x` at one point of the history and under `y` at a later one is
current under one id. -/
def KeepsIds (kind : EntryKind) (c₀ : Confdata) (cs : List Confdata) : Prop :=
  ∀ i j md md' name x y, i ≤ j → j ≤ cs.length → tablesAt c₀ cs i = some md →
    tablesAt c₀ cs j = some md' → md.idOf kind name = some x → md'.idOf kind name = some y → x = y

/-- No two entries of the vector carry the same symbol. -/
def DistinctSymbols (kind : EntryKind) (c₀ : Confdata) (cs : List Confdata) : Prop :=
  ∀ md, run reload (fromConfdata c₀.toConfdataManager) cs = some md →
    (md.directory kind).names.Nodup

/-- No name is in one configuration and in a later one, but missing from one between them. -/
def NoNameReturns (kind : EntryKind) (configs : List Confdata) : Prop :=
  Directory.NoReturn (namesAt kind configs) configs.length

lemma keepsIds_iff_sameIds (kind : EntryKind) (c₀ : Confdata) (cs : List Confdata) :
    KeepsIds kind c₀ cs ↔
      Directory.SameIds (fun i => (tablesAfter (c₀ :: cs) i).directory kind) (cs.length + 1) := by
  constructor
  · intro h sym i j x y hij hj hx hy
    -- a symbol that is current comes from a name of the configuration
    obtain ⟨r, rfl⟩ : ∃ r, i = r + 1 := by
      cases i with
      | zero =>
        have hnone := (history_tablesAfter kind (c₀ :: cs)).ids_zero sym
        rw [hnone] at hx
        cases hx
      | succ r => exact ⟨r, rfl⟩
    obtain ⟨q, rfl⟩ : ∃ q, j = q + 1 := ⟨j - 1, by omega⟩
    have hr : r < (c₀ :: cs).length := by
      rw [length_cons]
      omega
    have hc : (c₀ :: cs)[r]? = some (c₀ :: cs)[r] := getElem?_eq_getElem hr
    have hmem := (((reloaded_tablesAfter hc).reloads kind).current sym).mp (isSome_of_eq_some hx)
    obtain ⟨s, -, hs⟩ := mem_symbols.mp hmem
    have hs' := (tablesAfter_extends (c₀ :: cs) hij (by simpa using hj)).lookup hs
    refine h r q _ _ s x y (by omega) (by omega) (tablesAt_eq c₀ cs r) (tablesAt_eq c₀ cs q) ?_ ?_
    · rw [idOf, hs]
      exact hx
    · rw [idOf, hs']
      exact hy
  · intro h i j md md' name x y hij hj hmd hmd' hx hy
    rw [tablesAt_eq, some.injEq] at hmd hmd'
    subst hmd hmd'
    rw [idOf, bind_eq_some_iff] at hx hy
    obtain ⟨sym, hsym, hx⟩ := hx
    obtain ⟨sym', hsym', hy⟩ := hy
    have hext := tablesAfter_extends (c₀ :: cs) (show i + 1 ≤ j + 1 by omega)
      (by rw [length_cons]; omega)
    rw [hext.lookup hsym] at hsym'
    cases hsym'
    exact h sym (i + 1) (j + 1) x y (by omega) (by omega) hx hy

/-- **A name keeps its id, and no two entries share a symbol, exactly in histories where no name
returns.** -/
theorem ids_stable_iff (kind : EntryKind) (c₀ : Confdata) (cs : List Confdata) :
    (KeepsIds kind c₀ cs ↔ NoNameReturns kind (c₀ :: cs)) ∧
      (DistinctSymbols kind c₀ cs ↔ NoNameReturns kind (c₀ :: cs)) := by
  have hhist := history_tablesAfter kind (c₀ :: cs)
  have hreturn := noReturn_symbolsAt kind (c₀ :: cs)
  refine ⟨?_, ?_⟩
  · rw [keepsIds_iff_sameIds, NoNameReturns, ← hreturn]
    exact hhist.sameIds_iff
  · rw [NoNameReturns, ← hreturn, ← hhist.nodup_iff, DistinctSymbols]
    have hend := tablesAt_eq c₀ cs cs.length
    rw [tablesAt, take_length] at hend
    rw [hend]
    constructor
    · exact fun h => h _ rfl
    · rintro h md ⟨⟩
      exact h

/-- One account on one gateway. -/
def sampleRouted : Confdata where
  toConfdataManager := .new [1] [{ accountId := 1, gwKey := "gw", exchAccountId := "acc" }]
    [{ gwKey := "gw", exchName := "X" }] [] []
  keyed := keyed_new _ _ _ _ _

/-- Nothing routed. -/
def sampleBare : Confdata where
  toConfdataManager := .new [] [] [] [] []
  keyed := keyed_new _ _ _ _ _

/-- A gateway that is dropped by one reload and returns with the next has id 0 first and id 1 later,
and both entries carry its key. -/
theorem returning_gateway_moves :
    (∃ md₀ md₂, tablesAt sampleRouted [sampleBare, sampleRouted] 0 = some md₀ ∧
      tablesAt sampleRouted [sampleBare, sampleRouted] 2 = some md₂ ∧
      md₀.idOf .gateway "gw" = some 0 ∧ md₂.idOf .gateway "gw" = some 1 ∧
      md₂.nameOf .gateway 0 = some "gw" ∧ md₂.nameOf .gateway 1 = some "gw") ∧
    ¬ KeepsIds .gateway sampleRouted [sampleBare, sampleRouted] := by
  obtain ⟨md₀, h₀, md₂, h₂, hx, hy, hnames⟩ :
      ∃ md₀ ∈ tablesAt sampleRouted [sampleBare, sampleRouted] 0,
      ∃ md₂ ∈ tablesAt sampleRouted [sampleBare, sampleRouted] 2,
        md₀.idOf .gateway "gw" = some 0 ∧ md₂.idOf .gateway "gw" = some 1 ∧
        md₂.nameOf .gateway 0 = some "gw" ∧ md₂.nameOf .gateway 1 = some "gw" := by
    decide +kernel
  refine ⟨⟨md₀, md₂, h₀, h₂, hx, hy, hnames⟩, fun hkeeps => ?_⟩
  have := hkeeps 0 2 md₀ md₂ "gw" 0 1 (by decide) (by decide) h₀ h₂ hx hy
  cases this

end MetadataTables

end Zkbot
