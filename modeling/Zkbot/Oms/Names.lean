import Zkbot.Oms.StableIds
import Zkbot.Oms.TableRuns

/-!
# Names and ids

What is persisted carries names; what the core works with are indices of its tables.  `idOf` reads a
name in the tables and `nameOf` reads an index back.

A symbol table that grows gives no old name a new meaning (`idOf_interned`, `nameOf_interned`), so
names can be read in the tables of the start whatever has been interned since.  In tables that were
loaded once the two are inverse to each other (`idOf_iff_nameOf`).  After a reload they are not: an
instrument that was dropped from the config keeps its index, but its code leads nowhere.
-/

namespace Zkbot

open List Option InternTable OmsEvent

variable {evs : List OmsEvent} {config : ConfdataManager}

namespace MetadataTables

variable {md : MetadataTables} {i : ℕ}

/-! ## Interning -/

section Kept

variable {md md' : MetadataTables} {kind : EntryKind} {name : String} {i sym : ℕ}

lemma Kept.interned (h : Kept md) (hmd : Interned md md') : Kept md' := by
  obtain ⟨t, rfl, ht⟩ := hmd
  refine ⟨h.gws.imp fun _ _ => GwMeta.Good.mono ht, h.assets.imp fun _ _ => AssetMeta.Good.mono ht,
    h.instruments.imp fun _ _ => InstrumentMeta.Good.mono ht, h.routes.mono ht, ?_, h.gwSymbols⟩
  intro kind
  have hsound := h.sound kind
  cases kind
  all_goals exact hsound

lemma Interned.directory (h : Interned md md') (kind : EntryKind) :
    md'.directory kind = md.directory kind := by
  obtain ⟨t, rfl, -⟩ := h
  cases kind
  all_goals rfl

lemma Kept.resolves_name (h : Kept md) (hi : (md.directory kind).names[i]? = some sym) :
    md.strings.Resolves sym := by
  cases kind with
  | gateway =>
    simp only [MetadataTables.directory, getElem?_map, map_eq_some_iff] at hi
    obtain ⟨g, hg, rfl⟩ := hi
    exact (h.gws i g hg).gwKeySym
  | asset =>
    simp only [MetadataTables.directory, getElem?_map, map_eq_some_iff] at hi
    obtain ⟨a, ha, rfl⟩ := hi
    exact (h.assets i a ha).assetSym
  | instrument =>
    simp only [MetadataTables.directory, getElem?_map, map_eq_some_iff] at hi
    obtain ⟨inst, hinst, rfl⟩ := hi
    exact (h.instruments i inst hinst).instrumentCodeSym

lemma Kept.nameOf_of_idOf (h : Kept md) (hid : md.idOf kind name = some i) :
    md.nameOf kind i = some name := by
  simp only [idOf, bind_eq_some_iff] at hid
  obtain ⟨sym, hsym, hid⟩ := hid
  simp only [nameOf, h.sound kind sym i hid, bind_some]
  exact lookup_eq_some.mp hsym

/-- **Interning strings renames no entry.** -/
lemma nameOf_interned (h : Kept md) (hmd : Interned md md') (kind : EntryKind) (i : ℕ) :
    md'.nameOf kind i = md.nameOf kind i := by
  simp only [nameOf, hmd.directory kind]
  cases hi : (md.directory kind).names[i]? with
  | none => rfl
  | some sym =>
    obtain ⟨name, hname⟩ := isSome_iff_exists.mp (h.resolves_name hi)
    simp only [bind_some, strResolve, hname]
    exact hmd.strings sym name hname

/-- **Interning strings gives no name a new meaning.** -/
lemma idOf_interned (h : Kept md) (hmd : Interned md md') (kind : EntryKind) (name : String) :
    md'.idOf kind name = md.idOf kind name := by
  have hback : ∀ i, md'.idOf kind name = some i ↔ md.idOf kind name = some i := by
    intro i
    constructor
    · intro hid
      -- the symbol of the entry stood for a string all along, and for the same one
      have hname := nameOf_interned h hmd kind i ▸ (h.interned hmd).nameOf_of_idOf hid
      simp only [nameOf, bind_eq_some_iff] at hname
      obtain ⟨sym, hi, hsym⟩ := hname
      have hlookup := lookup_eq_some.mpr hsym
      simp only [idOf, hmd.directory kind, hmd.strings.lookup hlookup, bind_some] at hid
      simp only [idOf, hlookup, bind_some]
      exact hid
    · intro hid
      simp only [idOf, bind_eq_some_iff, hmd.directory kind] at hid ⊢
      obtain ⟨sym, hsym, hid⟩ := hid
      exact ⟨sym, hmd.strings.lookup hsym, hid⟩
  exact Option.ext hback

end Kept

/-! ## Tables that were loaded once -/

lemma kept_fromConfdata (config : Confdata) : Kept (fromConfdata config.toConfdataManager) := by
  obtain ⟨md, hmd, hkept, -⟩ := reload_spec kept_empty config
  rw [rebuildFromConfig_empty, some.injEq] at hmd
  rw [hmd]
  exact hkept

/-- The symbol of every entry leads to the entry. -/
lemma ids_fromConfdata (config : Confdata) (kind : EntryKind) {sym : ℕ}
    (h : ((fromConfdata config.toConfdataManager).directory kind).names[i]? = some sym) :
    ((fromConfdata config.toConfdataManager).directory kind).ids sym = some i := by
  obtain ⟨md, hmd, -, hreloaded⟩ := reload_spec kept_empty config
  rw [rebuildFromConfig_empty] at hmd
  cases hmd
  have hreloads := hreloaded.reloads kind
  obtain ⟨app, happ, hnodup, hmem⟩ := hreloads.appended
  have hempty : (directory {} kind).names = [] := by cases kind <;> rfl
  rw [hempty, nil_append] at happ
  rw [happ] at h
  have hcurrent := (hreloads.current sym).mpr (hmem sym (mem_of_getElem? h)).1
  obtain ⟨j, hj⟩ := isSome_iff_exists.mp hcurrent
  have hsound := hreloads.sound sym j hj
  rw [happ] at hsound
  have hij : i = j := by
    obtain ⟨hi', hi⟩ := List.getElem?_eq_some_iff.mp h
    obtain ⟨hj', hj⟩ := List.getElem?_eq_some_iff.mp hsound
    exact (hnodup.getElem_inj_iff).mp (hi.trans hj.symm)
  rw [hij]
  exact hj

/-- **Names and ids of tables that were loaded once are inverse to each other.** -/
theorem idOf_iff_nameOf (config : Confdata) {kind : EntryKind} {name : String} :
    (fromConfdata config.toConfdataManager).idOf kind name = some i ↔
      (fromConfdata config.toConfdataManager).nameOf kind i = some name := by
  constructor
  · exact (kept_fromConfdata config).nameOf_of_idOf
  · intro hname
    simp only [nameOf, bind_eq_some_iff] at hname
    obtain ⟨sym, hi, hsym⟩ := hname
    simp only [idOf, lookup_eq_some.mpr hsym, bind_some]
    exact ids_fromConfdata config kind hi

/-! ## The lookups of the source -/

lemma Kept.resolveInstrument (h : Kept md) (code : String) :
    (md.resolveInstrument code).map (·.instrumentId) = md.idOf .instrument code := by
  simp only [MetadataTables.resolveInstrument, idOf, bind_eq_bind]
  cases md.strings.lookup code with
  | none => rfl
  | some sym =>
    simp only [bind_some, directory]
    cases hid : md.instrumentByCode.lookup sym with
    | none => rfl
    | some i =>
      have hnames := h.sound .instrument sym i hid
      simp only [directory, getElem?_map, map_eq_some_iff] at hnames
      obtain ⟨inst, hinst, -⟩ := hnames
      simp [hinst, (h.instruments i inst hinst).instrumentId]

lemma instrumentCode_of_nameOf {code : String} (h : md.nameOf .instrument i = some code) :
    OmsCoreV2.instrumentCode md i = some code := by
  simp only [nameOf, directory, getElem?_map, bind_eq_some_iff, map_eq_some_iff] at h
  obtain ⟨-, ⟨inst, hinst, rfl⟩, hcode⟩ := h
  simp only [OmsCoreV2.instrumentCode, instrument, hinst]
  exact hcode

lemma Kept.nameOf_instrument (h : Kept md) (hi : (md.instrument i).isSome = true) :
    ∃ code, md.nameOf .instrument i = some code := by
  obtain ⟨inst, hinst⟩ := isSome_iff_exists.mp hi
  obtain ⟨code, hcode⟩ := isSome_iff_exists.mp (h.instruments i inst hinst).instrumentCodeSym
  have hinst' : md.instruments[i]? = some inst := hinst
  refine ⟨code, ?_⟩
  simp only [nameOf, directory, getElem?_map, hinst', map_some, bind_some]
  exact hcode

lemma isSome_instrumentCode (h : Kept md) (i : ℕ) :
    (OmsCoreV2.instrumentCode md i).isSome = true := by
  cases hi : md.instrument i with
  | none => simp [OmsCoreV2.instrumentCode, hi]
  | some inst =>
    obtain ⟨code, hcode⟩ := h.nameOf_instrument (i := i) (by rw [hi]; rfl)
    rw [instrumentCode_of_nameOf hcode]
    rfl

end MetadataTables

/-! ## The config in force -/

/-- The config that is in force after events: that of the last reload. -/
def inForce (config : ConfdataManager) (evs : List OmsEvent) : ConfdataManager :=
  evs.foldl (fun c ev => match ev with
    | .reload newConfig => newConfig
    | .message _ _ => c) config

lemma keyed_inForce (h : config.Keyed) (hkeyed : ∀ c, reload c ∈ evs → c.Keyed) :
    (inForce config evs).Keyed := by
  induction evs generalizing config with
  | nil => exact h
  | cons ev evs ih =>
    have hkeyed' : ∀ c, reload c ∈ evs → c.Keyed :=
      fun c hc => hkeyed c (mem_cons_of_mem ev hc)
    cases ev with
    | message now msg => exact ih h hkeyed'
    | reload newConfig => exact ih (hkeyed newConfig mem_cons_self) hkeyed'

/-- The tables are those of a config: exactly its names lead to entries. -/
structure MetadataTables.Current (config : ConfdataManager) (md : MetadataTables) : Prop where
  kept : MetadataTables.Kept md
  names : ∀ kind name, (md.idOf kind name).isSome = true ↔ name ∈ config.names kind

namespace MetadataTables

variable {md md' : MetadataTables}

lemma Current.interned {config : ConfdataManager} (h : Current config md) (hmd : Interned md md') :
    Current config md' := by
  refine ⟨h.kept.interned hmd, fun kind name => ?_⟩
  rw [idOf_interned h.kept hmd]
  exact h.names kind name

/-- Whatever the tables were, a reload makes them those of its config. -/
lemma Current.reload (h : Kept md) (config : Confdata)
    (hmd : md.rebuildFromConfig config.toConfdataManager = some md') :
    Current config.toConfdataManager md' := by
  obtain ⟨md₁, hmd₁, hkept, hreloaded⟩ := reload_spec h config
  obtain rfl : md₁ = md' := mem_unique hmd₁ hmd
  refine ⟨hkept, fun kind name => ?_⟩
  have hcurrent := (hreloaded.reloads kind).current
  constructor
  · intro hid
    obtain ⟨i, hi⟩ := isSome_iff_exists.mp hid
    simp only [idOf, bind_eq_some_iff] at hi
    obtain ⟨sym, hsym, hi⟩ := hi
    have hmem := (hcurrent sym).mp (by rw [hi]; rfl)
    obtain ⟨name', hname', hsym'⟩ := mem_symbols.mp hmem
    rw [lookup_inj hsym hsym']
    exact hname'
  · intro hname
    obtain ⟨sym, hsym⟩ := isSome_iff_exists.mp (hreloaded.interned kind name hname)
    simp only [idOf, hsym, bind_some]
    exact (hcurrent sym).mpr (mem_symbols.mpr ⟨name, hname, hsym⟩)

lemma current_fromConfdata (config : Confdata) :
    Current config.toConfdataManager (fromConfdata config.toConfdataManager) :=
  Current.reload kept_empty config (rebuildFromConfig_empty _)

end MetadataTables

open MetadataTables (Interned) in
/-- What interning strings keeps and a reload establishes for its config is true of the config in
force, after any messages and reloads. -/
theorem OmsCoreV2.inForce_run {P : ConfdataManager → MetadataTables → Prop}
    (hintern : ∀ c md md', P c md → Interned md md' → P c md')
    (hreload : ∀ c', reload c' ∈ evs → ∀ c md md', P c md →
      md.rebuildFromConfig c' = some md' → P c' md') :
    ∀ {s t : OmsCoreV2} {config : ConfdataManager}, SameKeys s.orders →
      P config s.metadata → run handle s evs = some t → P (inForce config evs) t.metadata := by
  induction evs with
  | nil =>
    intro s t config _ h hr
    cases hr
    exact h
  | cons ev evs ih =>
    intro s t config hk h hr
    obtain ⟨s', hs', hr'⟩ := run_cons_eq_some.mp hr
    have hone : run handle s [ev] = some s' := by
      rw [run_cons, hs']
      rfl
    refine ih (fun c' hc' => hreload c' (mem_cons_of_mem ev hc')) (sameKeys_run hk hone) ?_ hr'
    cases ev with
    | message now msg =>
      have hg : Guarded step (fun _ op => op.isReload = false) s
          ([message now msg].flatMap ops) := by
        rw [flatMap_singleton]
        exact guarded_of_mem isReload_of_message
      refine (events_invariant (I := fun s => SameKeys s.orders ∧ P config s.metadata)
        ?_ ⟨hk, h⟩ hg hone).2
      rintro s op s' ⟨hk, h⟩ hmsg hstep
      exact ⟨sameKeys_step hk hstep, hintern _ _ _ h (interned_step hk hmsg hstep)⟩
    | reload newConfig =>
      simp only [handle, reloadConfig, bind_eq_some] at hs'
      obtain ⟨md, hmd, hs'⟩ := hs'
      cases hs'
      exact hreload newConfig mem_cons_self _ _ _ h hmd

open MetadataTables (Current) in
/-- **The tables are those of the config in force**, after any messages and reloads. -/
theorem OmsCoreV2.current_run (hkeyed : ∀ c, reload c ∈ evs → c.Keyed) {s t : OmsCoreV2}
    (hk : SameKeys s.orders) (h : Current config s.metadata) (hr : run handle s evs = some t) :
    Current (inForce config evs) t.metadata := by
  refine inForce_run (P := Current) (fun _ _ _ h => h.interned) ?_ hk h hr
  intro newConfig hmem _ _ _ h hmd
  exact Current.reload h.kept ⟨newConfig, hkeyed newConfig hmem⟩ hmd

/-- The tables at the start are those of the config, with the strings of the warm orders. -/
lemma OmsCoreV2.kept_start {u : OmsSetup} {config : Confdata}
    (hu : u.config = config.toConfdataManager) : MetadataTables.Kept u.start.metadata := by
  refine (MetadataTables.kept_fromConfdata config).interned ?_
  rw [← hu]
  exact metadata_start u

end Zkbot
