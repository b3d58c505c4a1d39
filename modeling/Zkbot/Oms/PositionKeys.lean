import Zkbot.Oms.Builders
import Zkbot.Oms.Exposure
import Zkbot.Oms.TableRuns

/-!
# Position keys

The position store is keyed by `(account, u32)`, and the integer is filled in two ways: orders use a
*symbol* of the intern table (the base asset of a spot instrument, the code of any other), while
warm start and the exchange sync use the *index* of the instrument in its table.  The code that is
published or persisted with a position is found by reading the integer as an index, whoever wrote
it.

* `OneKey` — all paths use one key for an instrument, the builders give that key the position symbol
  of the order, and no two symbols share a key.
* `KeysAgree` — the condition on the tables: the string interned at the index of an instrument is
  its code, and its position symbol is its code as well.
* `oneKey_iff` — in every state that is reached, `OneKey` holds exactly if the tables agree.
-/

namespace Zkbot

open Option AList InstrumentMeta InternTable PositionStoreV2

open MetadataTables (WellBuilt Grows)

/-- The position symbol of an instrument: the base asset for spot, the instrument code otherwise. -/
def InstrumentMeta.positionSymbol (inst : InstrumentMeta) (md : MetadataTables) : Option String :=
  if inst.instrumentType = .spot then inst.baseAssetSym.bind md.strResolve
  else md.strResolve inst.instrumentCodeSym

namespace OmsCoreV2

variable {inst : InstrumentMeta} {s : OmsCoreV2} {md : MetadataTables} {code : String} {k : ℕ}
  {a : Int}

/-! ## Keys and symbols -/

/-- Orders of the account on an instrument check, freeze and fill under the key `k`. -/
def UsesKey (s : OmsCoreV2) (a : Int) (code : String) (k : ℕ) : Prop :=
  ∃ (req : OrderRequest) (om : ResolvedOrderMeta), req.accountId = a ∧ req.instrumentCode = code ∧
    s.resolveOrderMeta req = .ok om ∧ om.posInstrumentId = some k

/-- The position symbol of the instrument with a code. -/
def symbolOf (s : OmsCoreV2) (code : String) : Option String :=
  (s.metadata.resolveInstrument code).bind (·.positionSymbol s.metadata)

/-- A managed position is stored under the key, and no other is touched. -/
def WritesAt (ps ps' : PositionStoreV2) (key : Int × ℕ) : Prop :=
  key ∈ ps'.managed ∧ ∀ key', key' ≠ key → ps'.managed.lookup key' = ps.managed.lookup key'

/-- Some path stores positions of the symbol `σ` under the key `k`: orders, or warm start and
exchange sync. -/
def KeyFor (s : OmsCoreV2) (a : Int) (k : ℕ) (σ : String) : Prop :=
  ∃ code, s.symbolOf code = some σ ∧ (s.UsesKey a code k ∨
    ∃ inst ∈ s.metadata.resolveInstrument code, inst.instrumentId = k)

/-- **All paths use one position key per instrument.** -/
structure OneKey (s : OmsCoreV2) (a : Int) : Prop where
  /-- warm start stores under the key that orders use -/
  stored : ∀ code k, s.UsesKey a code k → ∀ pos : OmsManagedPosition, pos.accountId = a →
    pos.instrumentCode = code → WritesAt s.positions (s.initPosition pos).positions (a, k)
  /-- and so does the exchange sync -/
  synced : ∀ code k, s.UsesKey a code k → ∀ e,
    positionInstrument s.metadata a e = s.metadata.resolveInstrument code → ∀ ts s' actions,
      applyPositionEntry a ts (s, []) e = some (s', actions) →
        WritesAt s.positions s'.positions (a, k)
  /-- the code that is published and persisted is the position symbol of the order -/
  named : ∀ code k, s.UsesKey a code k → ∀ σ, s.symbolOf code = some σ →
    (∀ p ∈ s.materializePersistPosition a k, p.instrumentCode = σ) ∧
    (∀ r ∈ s.buildPersistPosition a k, ∀ p ∈ r, p.instrumentCode = σ) ∧
    (∀ p, p.instrumentId = k → ∀ snap ∈ s.positionSnapshot p, snap.instrumentCode = σ)
  /-- two symbols never share a key -/
  distinct : ∀ k σ σ', s.KeyFor a k σ → s.KeyFor a k σ' → σ = σ'

/-- The condition on the tables: for every instrument that has a position symbol, the string
interned at its index is that symbol, and so is its code. -/
def KeysAgree (md : MetadataTables) : Prop :=
  ∀ e ∈ md.instrumentByCode.entries, ∀ inst ∈ md.instruments[e.2]?,
    ∀ σ ∈ inst.positionSymbol md,
      md.strResolve e.1 = some σ ∧ md.strResolve inst.instrumentId = some σ
deriving Decidable

lemma resolved (hmd : WellBuilt md) (h : md.resolveInstrument code = some inst) :
    md.instruments[inst.instrumentId]? = some inst ∧
      md.strResolve inst.instrumentCodeSym = some code ∧
      md.instrumentByCode.lookup inst.instrumentCodeSym = some inst.instrumentId := by
  simp only [MetadataTables.resolveInstrument, bind_eq_some] at h
  obtain ⟨sym, hsym, i, hi, hinst⟩ := h
  have hid : inst.instrumentId = i := hmd.indexed.index i inst hinst
  obtain ⟨inst', hinst', hcode⟩ := hmd.coded sym i hi
  obtain rfl := mem_unique hinst hinst'
  rw [hid, hcode]
  exact ⟨hinst, lookup_eq_some.mp hsym, hi⟩

lemma positionSymbol_eq (md : MetadataTables) (inst : InstrumentMeta) :
    inst.positionSymbol md = inst.accountingKeys.2.bind md.strResolve := by
  simp only [positionSymbol, accountingKeys]
  split_ifs <;> rfl

lemma exists_positionSymbol (hmd : WellBuilt md) (hinst : inst ∈ md.instruments)
    (hk : inst.accountingKeys.2 = some k) : ∃ σ, md.strResolve k = some σ := by
  rw [← isSome_iff_exists]
  simp only [accountingKeys] at hk
  split_ifs at hk
  · exact hmd.indexed.base inst hinst k hk
  · cases hk
    exact hmd.indexed.code inst hinst

lemma usesKey_iff :
    s.UsesKey a code k ↔ (s.metadata.route a).isSome = true ∧
      ∃ inst, s.metadata.resolveInstrument code = some inst ∧ inst.accountingKeys.2 = some k := by
  constructor
  · rintro ⟨req, om, rfl, rfl, hom, hk⟩
    simp only [resolveOrderMeta] at hom
    split at hom
    · cases hom
    · rename_i route hroute
      split at hom
      · cases hom
      · rename_i inst hinst
        cases hom
        exact ⟨by rw [hroute]; rfl, inst, hinst, hk⟩
  · rintro ⟨hroute, inst, hinst, hk⟩
    obtain ⟨route, hroute⟩ := isSome_iff_exists.mp hroute
    refine ⟨{ orderId := 0, accountId := a, instrumentCode := code, buySellType := .buy, price := 0,
              qty := 0 }, ?_⟩
    simp only [resolveOrderMeta, hroute, hinst]
    exact ⟨_, trivial, trivial, rfl, hk⟩

/-! ## Where the paths write -/

lemma initPosition_writesAt {pos : OmsManagedPosition}
    (h : s.metadata.resolveInstrument pos.instrumentCode = some inst) :
    WritesAt s.positions (s.initPosition pos).positions (pos.accountId, inst.instrumentId) := by
  simp only [initPosition, h]
  refine ⟨(mem_insert _).mpr (.inl rfl), ?_⟩
  intro key' hne
  exact lookup_insert_ne hne

lemma syncPosition_writesAt (ps : PositionStoreV2) (a : Int) (k : ℕ) (code : String)
    (e : PositionReport) (ts : Int) : WritesAt ps (syncPosition ps a k code e ts) (a, k) := by
  simp only [syncPosition, updateReconcileStatus]
  constructor
  · rw [Dict.mem_modify]
    split_ifs with hseed
    · exact (mem_insert _).mpr (.inl rfl)
    · -- a position that is not seeded is there already
      by_contra hcon
      have hnone : ps.managed.lookup (a, k) = none := lookup_eq_none.mpr hcon
      simp [shouldSeed, getPosition, hnone] at hseed
  · intro key' hne
    rw [Dict.lookup_modify_ne hne]
    split_ifs
    · exact lookup_insert_ne hne
    · rfl

lemma applyPositionEntry_writesAt {s' : OmsCoreV2} {ts : Int} {e : PositionReport}
    {actions : List OmsActionV2} (h : positionInstrument s.metadata a e = some inst)
    (happ : applyPositionEntry a ts (s, []) e = some (s', actions)) :
    WritesAt s.positions s'.positions (a, inst.instrumentId) := by
  simp only [positionInstrument] at h
  simp only [applyPositionEntry, h, bind_eq_some] at happ
  obtain ⟨code, -, happ⟩ := happ
  cases happ
  exact syncPosition_writesAt _ _ _ _ _ _

lemma eq_of_initPosition_writesAt (h : s.metadata.resolveInstrument code = some inst)
    (hw : ∀ pos : OmsManagedPosition, pos.accountId = a → pos.instrumentCode = code →
      WritesAt s.positions (s.initPosition pos).positions (a, k)) : k = inst.instrumentId := by
  by_contra hne
  -- a persisted position that differs from what is stored at the index of the instrument
  have hkey : (a, inst.instrumentId) ≠ (a, k) := by
    intro heq
    exact hne (Prod.mk.inj heq).2.symm
  let qty := ((s.positions.getPosition a inst.instrumentId).map (·.qtyTotal)).getD 0 + 1
  let pos : OmsManagedPosition :=
    { accountId := a, instrumentCode := code, instrumentType := .unspecified, isShort := false,
      qtyTotal := qty }
  have hlook := (hw pos rfl rfl).2 (a, inst.instrumentId) hkey
  simp only [initPosition, pos, h, lookup_insert] at hlook
  have hqty : qty = qty - 1 := by
    have hmap := congrArg (fun o => (Option.map (·.qtyTotal) o).getD 0) hlook
    simp only [qty, getPosition, add_sub_cancel_right]
    exact hmap
  linarith

/-! ## The equivalence -/

section Equivalence

variable {s : OmsCoreV2} {a : Int} {code : String}

lemma instrumentCode_eq {md : MetadataTables} {k : ℕ} (h : md.instruments[k]? = some inst)
    (hc : md.strResolve inst.instrumentCodeSym = some code) : instrumentCode md k = some code := by
  simp [instrumentCode, MetadataTables.instrument, h, hc]

variable (hmd : WellBuilt s.metadata)
include hmd

/-- If the tables agree, the order key of an instrument is its index, and its code is its position
symbol. -/
lemma usesKey_of_keysAgree (hagree : KeysAgree s.metadata) {σ : String}
    (hinst : s.metadata.resolveInstrument code = some inst)
    (hσ : inst.positionSymbol s.metadata = some σ) :
    σ = code ∧ s.metadata.strResolve inst.instrumentId = some code ∧
      ∀ k, s.UsesKey a code k → k = inst.instrumentId := by
  obtain ⟨hat, hcode, hby⟩ := resolved hmd hinst
  have hmem : (⟨inst.instrumentCodeSym, inst.instrumentId⟩ : Sigma fun _ : ℕ => ℕ) ∈
      s.metadata.instrumentByCode.entries := mem_lookup_iff.mp hby
  obtain ⟨hsym, hidx⟩ := hagree _ hmem inst hat σ hσ
  have heq : σ = code := by
    exact Option.mem_unique hsym hcode
  refine ⟨heq, heq ▸ hidx, ?_⟩
  intro k hk
  obtain ⟨-, inst', hinst', hkey⟩ := usesKey_iff.mp hk
  obtain rfl := mem_unique hinst hinst'
  rw [positionSymbol_eq, hkey, bind_some] at hσ
  -- both integers stand for the same string
  have h₁ := lookup_eq_some.mpr hσ
  have h₂ := lookup_eq_some.mpr hidx
  exact Option.mem_unique h₁ h₂

lemma oneKey_of_keysAgree (hagree : KeysAgree s.metadata) : s.OneKey a := by
  -- what a used key is
  have hused : ∀ code k, s.UsesKey a code k → ∃ inst,
      s.metadata.resolveInstrument code = some inst ∧ k = inst.instrumentId ∧
        s.symbolOf code = some code := by
    intro code k hk
    obtain ⟨-, inst, hinst, hkey⟩ := usesKey_iff.mp hk
    obtain ⟨σ, hσ⟩ := exists_positionSymbol hmd (List.mem_of_getElem? (resolved hmd hinst).1) hkey
    have hpos : inst.positionSymbol s.metadata = some σ := by
      rw [positionSymbol_eq, hkey]
      exact hσ
    obtain ⟨rfl, -, hidx⟩ := usesKey_of_keysAgree (a := a) hmd hagree hinst hpos
    refine ⟨inst, hinst, hidx k hk, ?_⟩
    rw [symbolOf, hinst]
    exact hpos
  refine ⟨?_, ?_, ?_, ?_⟩
  · intro code k hk pos hpa hpc
    obtain ⟨inst, hinst, rfl, -⟩ := hused code k hk
    rw [← hpa]
    exact initPosition_writesAt (by rw [hpc]; exact hinst)
  · intro code k hk e he ts s' actions happ
    obtain ⟨inst, hinst, rfl, -⟩ := hused code k hk
    exact applyPositionEntry_writesAt (he.trans hinst) happ
  · intro code k hk σ hσ
    obtain ⟨inst, hinst, rfl, hsym⟩ := hused code k hk
    obtain ⟨hat, hcode, -⟩ := resolved hmd hinst
    obtain rfl := mem_unique hsym hσ
    have hname := instrumentCode_eq hat hcode
    refine ⟨?_, ?_, ?_⟩
    · intro p hp
      simp only [materializePersistPosition, hname] at hp
      cases hp
      rfl
    · intro r hr p hp
      simp only [buildPersistPosition, resolveInstrumentCode, hname] at hr
      cases hr
      obtain ⟨pos, -, rfl⟩ := map_eq_some_iff.mp hp
      rfl
    · intro p hp snap hsnap
      simp only [positionSnapshot, hp, hname] at hsnap
      cases hsnap
      rfl
  · -- a key is an index, and the symbol is the string interned there
    have hkeyfor : ∀ k σ, s.KeyFor a k σ → s.metadata.strResolve k = some σ := by
      rintro k σ ⟨code, hsym, huse⟩
      obtain ⟨inst, hinst, hpos⟩ := bind_eq_some_iff.mp hsym
      obtain ⟨rfl, hidx, hkeys⟩ := usesKey_of_keysAgree (a := a) hmd hagree hinst hpos
      rcases huse with hk | ⟨inst', hinst', rfl⟩
      · rw [hkeys k hk]
        exact hidx
      · rw [mem_def, hinst, some.injEq] at hinst'
        rw [← hinst']
        exact hidx
    intro k σ σ' h h'
    have h₁ := hkeyfor k σ h
    have h₂ := hkeyfor k σ' h'
    exact Option.mem_unique h₁ h₂

lemma keysAgree_of_oneKey (hroute : (s.metadata.route a).isSome = true) (hone : s.OneKey a) :
    KeysAgree s.metadata := by
  intro e he inst hinst σ hσ
  have hby : s.metadata.instrumentByCode.lookup e.1 = some e.2 := mem_lookup_iff.mpr he
  obtain ⟨inst', hinst', hcodesym⟩ := hmd.coded e.1 e.2 hby
  rw [mem_def.mp hinst] at hinst'
  cases hinst'
  have hmem : inst ∈ s.metadata.instruments := List.mem_of_getElem? (mem_def.mp hinst)
  obtain ⟨code, hcode⟩ := isSome_iff_exists.mp (hmd.indexed.code inst hmem)
  have hres : s.metadata.resolveInstrument code = some inst := by
    have hlook := lookup_eq_some.mpr hcode
    simp only [MetadataTables.resolveInstrument, hlook, hcodesym, hby, some_bind]
    exact hinst
  -- the order key, and what the paths make of it
  rw [mem_def, positionSymbol_eq, bind_eq_some_iff] at hσ
  obtain ⟨k, hk, hσ⟩ := hσ
  have huse : s.UsesKey a code k := usesKey_iff.mpr ⟨hroute, inst, hres, hk⟩
  have hkid : k = inst.instrumentId := eq_of_initPosition_writesAt hres (hone.stored code k huse)
  have hsym : s.symbolOf code = some σ := by
    rw [symbolOf, hres, bind_some, positionSymbol_eq, hk]
    exact hσ
  have hname : instrumentCode s.metadata k = some code := by
    rw [hkid]
    exact instrumentCode_eq (resolved hmd hres).1 hcode
  have heq : code = σ := by
    obtain ⟨p, hp, hpc⟩ : ∃ p, s.materializePersistPosition a k = some p ∧
        p.instrumentCode = code := by
      simp only [materializePersistPosition, hname]
      exact ⟨_, rfl, rfl⟩
    rw [← hpc]
    exact (hone.named code k huse σ hsym).1 p hp
  subst heq
  rw [← hcodesym, ← hkid]
  exact ⟨hcode, hσ⟩

lemma oneKey_of_no_route (hroute : (s.metadata.route a).isSome ≠ true) : s.OneKey a := by
  have hnone : ∀ code k, ¬ s.UsesKey a code k := by
    intro code k hk
    exact hroute (usesKey_iff.mp hk).1
  have hkeyfor : ∀ k σ, s.KeyFor a k σ →
      (s.metadata.instruments[k]?).bind (·.positionSymbol s.metadata) = some σ := by
    rintro k σ ⟨code, hsym, huse | ⟨inst, hinst, rfl⟩⟩
    · exact absurd huse (hnone code k)
    · rw [(resolved hmd hinst).1]
      rw [symbolOf, mem_def.mp hinst] at hsym
      exact hsym
  refine ⟨?_, ?_, ?_, ?_⟩
  · intro code k hk
    exact absurd hk (hnone code k)
  · intro code k hk
    exact absurd hk (hnone code k)
  · intro code k hk
    exact absurd hk (hnone code k)
  · intro k σ σ' h h'
    have h₁ := hkeyfor k σ h
    have h₂ := hkeyfor k σ' h'
    exact Option.mem_unique h₁ h₂

end Equivalence

/-- **Position keys.**  In every state the core reaches, all paths use one position key per
instrument of an account if and only if no order can be placed for the account or the tables agree:
the string interned at the index of an instrument is its position symbol, and so is its code. -/
theorem oneKey_iff (u : OmsSetup) (evs : List OmsEvent) (s : OmsCoreV2)
    (hrun : run handle u.start evs = some s) (a : Int) :
    s.OneKey a ↔ ((s.metadata.route a).isSome = true → KeysAgree s.metadata) := by
  have hmd := wellBuilt_run hrun
  constructor
  · intro hone hroute
    exact keysAgree_of_oneKey hmd hroute hone
  · intro hagree
    by_cases hroute : (s.metadata.route a).isSome = true
    · exact oneKey_of_keysAgree hmd (hagree hroute)
    · exact oneKey_of_no_route hmd hroute

open Sample

/-- A gateway that bears the code of the instrument: orders use the key that warm start uses. -/
theorem oneKey_sample :
    ∃ s ∈ run handle namesake.start [place 10 .buy 5], s.OneKey 1 ∧
      (s.orders.live.lookup 10).map (·.accountingFlags.posInstrumentId) = some (some 0) := by
  refine exists_mem_imp (P := fun s => KeysAgree s.metadata ∧
    (s.orders.live.lookup 10).map (·.accountingFlags.posInstrumentId) = some (some 0))
    (by decide +kernel) ?_
  exact fun s hs ⟨hagree, hkey⟩ => ⟨(oneKey_iff _ _ s hs 1).mpr fun _ => hagree, hkey⟩

/-- In general they do not: the order uses the symbol 5 of the code, warm start the index 0, and the
code that is published for key 5 is empty. -/
theorem oneKey_fails :
    ∃ s ∈ run handle (setup true false 4).start [place 10 .buy 5], ¬ s.OneKey 1 ∧
      (s.orders.live.lookup 10).map (·.accountingFlags.posInstrumentId) = some (some 5) ∧
      (s.metadata.resolveInstrument "P").map (·.instrumentId) = some 0 ∧
      (s.materializePersistPosition 1 5).map (·.instrumentCode) = some "" := by
  refine exists_mem_imp (P := fun s => (s.metadata.route 1).isSome = true ∧
    ¬ KeysAgree s.metadata ∧
    (s.orders.live.lookup 10).map (·.accountingFlags.posInstrumentId) = some (some 5) ∧
    (s.metadata.resolveInstrument "P").map (·.instrumentId) = some 0 ∧
    (s.materializePersistPosition 1 5).map (·.instrumentCode) = some "") (by decide +kernel) ?_
  rintro s hs ⟨hroute, hdis, hkeys⟩
  exact ⟨fun hone => hdis (keysAgree_of_oneKey (wellBuilt_run hs) hroute hone), hkeys⟩

end OmsCoreV2

end Zkbot
