import Zkbot.Core.Journal
import Zkbot.Svc.Redis
import Zkbot.Svc.StateWrites

/-!
# Persisted positions and balances reload to the same state

The position and balance keys of Redis are a journal of the core's two dictionaries, and the slot of
a position contains its *side*.  A restart therefore gives the same state back as long as every
position that is written is named by an action, under an integer that is the index of an instrument,
and stays on its side; and as long as every balance carries the name of its asset.

* `Recovers` — what a restart should give back, whatever the order of the scan.
* `Persistable` — an operation of which the store keeps track.
* `Backed` — the invariant: the store backs both dictionaries, but for what the pending actions are
  about to write.
* `state_recovers` — in every run of persistable operations the state can be recovered.
-/

namespace Zkbot

open List Option Dict OmsEvent PersistStore Journal

variable {ps : List PersistedManagedPosition} {bs : List PersistedBalance} {config : Confdata}

open MetadataTables PositionStoreV2 BalanceStoreV2 OmsCoreV2 Sample

variable {st : PersistStore}

open PositionStoreV2 (OwnKeys WritesOnly)
open OmsCoreV2 (SameKeys NamedBalances WellFiled)
open MetadataTables (Interned Kept)

/-! ## The two dictionaries and their slots -/

/-- What should survive of a managed position: side, total, frozen, available. -/
def ManagedPositionV2.holding (p : ManagedPositionV2) : Bool × ℚ × ℚ × ℚ :=
  (p.isShort, p.qtyTotal, p.qtyFrozen, p.qtyAvailable)

/-- What should survive of a balance: total, available. -/
def ExchBalanceSnapshot.amounts (b : ExchBalanceSnapshot) : ℚ × ℚ :=
  (b.balanceState.totalQty, b.balanceState.availQty)

def PositionStoreV2.holdings (ps : PositionStoreV2) (key : Int × ℕ) : Option (Bool × ℚ × ℚ × ℚ) :=
  (ps.managed.lookup key).map (·.holding)

def BalanceStoreV2.amounts (b : BalanceStoreV2) (key : Int × ℕ) : Option (ℚ × ℚ) :=
  (b.exchBalances.lookup key).map (·.amounts)

/-- A position record is loaded under the instrument its code leads to. -/
def positionJournal (md : MetadataTables) :
    Journal (Int × ℕ) PersistedManagedPosition (Bool × ℚ × ℚ × ℚ) where
  key r := (md.idOf .instrument r.instrumentCode).map fun i => (r.accountId, i)
  view r := (r.isShort, r.totalQty, r.frozenQty, r.availQty)

/-- A balance record is loaded under the asset its name leads to. -/
def balanceJournal (md : MetadataTables) : Journal (Int × ℕ) PersistedBalance (ℚ × ℚ) where
  key r := (md.idOf .asset r.asset).map fun i => (r.accountId, i)
  view r := (r.totalQty, r.availQty)

def positionSlot (md : MetadataTables) (ps : PositionStoreV2) (key : Int × ℕ) :
    Option (Int × String × String) :=
  (ps.managed.lookup key).bind fun p =>
    (md.nameOf .instrument key.2).map fun code => (key.1, code, sideName p.isShort)

def balanceSlot (md : MetadataTables) (b : BalanceStoreV2) (key : Int × ℕ) :
    Option (Int × String) :=
  (b.exchBalances.lookup key).bind fun _ =>
    (md.nameOf .asset key.2).map fun name => (key.1, name)

/-- The tables that the configuration is read into. -/
abbrev Confdata.tables (config : Confdata) : MetadataTables :=
  .fromConfdata config.toConfdataManager

section Slots

variable {config : Confdata} {k₁ k₂ : Int × ℕ}

lemma nameOf_inj {kind : EntryKind} {i j : ℕ} {name : String}
    (hi : config.tables.nameOf kind i = some name)
    (hj : config.tables.nameOf kind j = some name) :
    i = j := by
  rw [← idOf_iff_nameOf] at hi hj
  exact mem_unique hi hj

lemma positionSlot_inj {ps : PositionStoreV2} {k' : Int × String × String}
    (h₁ : positionSlot config.tables ps k₁ = some k')
    (h₂ : positionSlot config.tables ps k₂ = some k') : k₁ = k₂ := by
  simp only [positionSlot, bind_eq_some_iff, map_eq_some_iff] at h₁ h₂
  obtain ⟨p₁, -, code₁, hcode₁, rfl⟩ := h₁
  obtain ⟨p₂, -, code₂, hcode₂, heq⟩ := h₂
  simp only [Prod.mk.injEq] at heq
  obtain ⟨hacc, rfl, -⟩ := heq
  exact Prod.ext hacc.symm (nameOf_inj hcode₁ hcode₂)

lemma balanceSlot_inj {b : BalanceStoreV2} {k' : Int × String}
    (h₁ : balanceSlot config.tables b k₁ = some k')
    (h₂ : balanceSlot config.tables b k₂ = some k') : k₁ = k₂ := by
  simp only [balanceSlot, bind_eq_some_iff, map_eq_some_iff] at h₁ h₂
  obtain ⟨b₁, -, name₁, hname₁, rfl⟩ := h₁
  obtain ⟨b₂, -, name₂, hname₂, heq⟩ := h₂
  simp only [Prod.mk.injEq] at heq
  obtain ⟨hacc, rfl⟩ := heq
  exact Prod.ext hacc.symm (nameOf_inj hname₁ hname₂)

end Slots

/-! ## Sides -/

namespace OmsCoreV2

variable {l : LiveOrder} {ps : PositionStoreV2} {s s' : OmsCoreV2} {actions : List OmsActionV2}
  {fills : List ℚ} {p : ManagedPositionV2} {a : Int} {k : ℕ} {r : OrderReport} {d : OrderDetailLog}

/-- Every position on record is still there, on its side. -/
def SidesKept (ps ps' : PositionStoreV2) : Prop :=
  ∀ key p, ps.managed.lookup key = some p →
    ∃ p', ps'.managed.lookup key = some p' ∧ p'.isShort = p.isShort

/-- A total that is not taken below zero by any of the changes. -/
def StaysOnSide : ℚ → List ℚ → Prop
  | _, [] => True
  | total, c :: cs => 0 ≤ total + c ∧ StaysOnSide (total + c) cs

instance StaysOnSide.decidable : (total : ℚ) → (cs : List ℚ) → Decidable (StaysOnSide total cs)
  | _, [] => .isTrue trivial
  | total, c :: cs =>
    have := StaysOnSide.decidable (total + c) cs
    inferInstanceAs (Decidable (_ ∧ _))

/-- Fills that do not take the total below zero leave the side alone. -/
lemma side_applyDeltas {posId : ℕ} {ts : Int} (hp : ps.managed.lookup (l.accountId, posId) = some p)
    (hside : StaysOnSide p.qtyTotal ((fills.map (fillDelta l posId)).map (·.totalChange))) :
    ∃ p', (applyDeltas ps (fills.map (fillDelta l posId)) ts).managed.lookup (l.accountId, posId) =
      some p' ∧ p'.isShort = p.isShort := by
  induction fills generalizing ps p with
  | nil => exact ⟨p, hp, rfl⟩
  | cons q fills ih =>
    obtain ⟨hpos, hside⟩ := hside
    have hdelta : p.applyDelta (fillDelta l posId q) ts =
        { p.applyDelta (fillDelta l posId q) ts with
          isShort := p.isShort, qtyTotal := p.qtyTotal + (fillDelta l posId q).totalChange } := by
      simp [ManagedPositionV2.applyDelta, if_neg (not_lt.mpr hpos)]
    have hfound : (ps.applyDelta (fillDelta l posId q) ts).managed.lookup (l.accountId, posId) =
        some (p.applyDelta (fillDelta l posId q) ts) := by
      have hor := (ps.positionOr_key (a := l.accountId) (k := posId) .unspecified
        (fillDelta l posId q).isShort).1 p hp
      exact (AList.lookup_insert _).trans (congrArg some (by rw [← hor]; rfl))
    obtain ⟨p', hp', hshort⟩ := ih hfound (by rw [hdelta]; exact hside)
    refine ⟨p', hp', ?_⟩
    rw [hshort, hdelta]

lemma sidesKept_closePositions (ps : PositionStoreV2) (l : LiveOrder) :
    SidesKept ps (closePositions ps l) := by
  intro key p hp
  simp only [closePositions]
  split
  · split_ifs
    · exact ⟨p, hp, rfl⟩
    · rename_i posId _ _ _
      by_cases hkey : key = (l.accountId, posId)
      · subst hkey
        refine ⟨p.unfreeze (l.qty - l.filledQty), ?_, rfl⟩
        simp [unfreeze, Dict.lookup_modify_self, hp]
      · exact ⟨p, (Dict.lookup_modify_ne hkey _ _).trans hp, rfl⟩
    · exact ⟨p, hp, rfl⟩
  · exact ⟨p, hp, rfl⟩

/-- An exchange sync moves a position to another side only if it has never been synced. -/
lemma side_syncPosition {e : PositionReport} (code : String) (ts : Int)
    (hp : ps.managed.lookup (a, k) = some p)
    (hside : p.lastExchSyncTs = 0 → p.isShort = decide (e.longShortType = .short)) :
    ∃ p', (syncPosition ps a k code e ts).managed.lookup (a, k) = some p' ∧
      p'.isShort = p.isShort ∧ (p'.lastExchSyncTs = 0 → p.lastExchSyncTs = 0) := by
  have hrec : ∀ (q : ManagedPositionV2) exchQty,
      (q.updateReconcile exchQty ts).isShort = q.isShort ∧
      (q.updateReconcile exchQty ts).lastExchSyncTs = q.lastExchSyncTs := by
    intro q exchQty
    simp only [ManagedPositionV2.updateReconcile]
    split_ifs <;> exact ⟨rfl, rfl⟩
  simp only [syncPosition, updateReconcileStatus, Dict.lookup_modify_self]
  by_cases hseed : p.lastExchSyncTs = 0
  · have hyes : ∀ exch, shouldSeed { ps with exch } a k = true := by
      intro exch
      simp [shouldSeed, getPosition, hp, hseed]
    rw [if_pos (hyes _)]
    simp only [AList.lookup_insert, map_some, some.injEq, exists_eq_left']
    refine ⟨?_, fun _ => hseed⟩
    rw [(hrec _ _).1]
    exact (hside hseed).symm
  · have hno : ∀ exch, ¬ shouldSeed { ps with exch } a k = true := by
      intro exch
      simp [shouldSeed, getPosition, hp, hseed]
    rw [if_neg (hno _)]
    simp only [hp, map_some, some.injEq, exists_eq_left']
    refine ⟨(hrec _ _).1, fun h0 => ?_⟩
    rw [(hrec _ _).2] at h0
    exact h0

/-- The entries of an update are on the side of the positions that they seed. -/
def SeedsInPlace (md : MetadataTables) (accountId : Int) (ps : PositionStoreV2)
    (es : List PositionReport) : Prop :=
  ∀ e ∈ es, ∀ inst ∈ positionInstrument md accountId e,
    ∀ p ∈ ps.managed.lookup (accountId, inst.instrumentId),
      p.lastExchSyncTs = 0 → p.isShort = decide (e.longShortType = .short)
deriving Decidable

lemma sidesKept_storePositions {md : MetadataTables} {accountId ts : Int} {es : List PositionReport}
    {ps' : PositionStoreV2} (hseeds : SeedsInPlace md accountId ps es)
    (h : es.foldlM (storePosition md accountId ts) ps = some ps') : SidesKept ps ps' := by
  intro key p hp
  -- a position that has been synced is not seeded again, and one that has not is where it was
  suffices hrest : ∀ (es : List PositionReport) (ps₁ : PositionStoreV2) (p₁ : ManagedPositionV2),
      (∀ e ∈ es, ∀ inst ∈ positionInstrument md accountId e, (accountId, inst.instrumentId) = key →
        p.lastExchSyncTs = 0 → p.isShort = decide (e.longShortType = .short)) →
      ps₁.managed.lookup key = some p₁ → p₁.isShort = p.isShort →
      (p₁.lastExchSyncTs = 0 → p.lastExchSyncTs = 0) →
      es.foldlM (storePosition md accountId ts) ps₁ = some ps' →
      ∃ p', ps'.managed.lookup key = some p' ∧ p'.isShort = p.isShort by
    refine hrest es ps p (fun e he inst hinst hkey => ?_) hp rfl id h
    exact hseeds e he inst hinst p (by rw [hkey]; exact hp)
  intro es
  induction es with
  | nil =>
    intro ps₁ p₁ _ hp₁ hshort _ hr
    cases hr
    exact ⟨p₁, hp₁, hshort⟩
  | cons e es ih =>
    intro ps₁ p₁ hes hp₁ hshort hsync hr
    rw [foldlM_cons, bind_eq_some] at hr
    obtain ⟨ps₂, hps₂, hr⟩ := hr
    have hes' := (forall_mem_cons.mp hes).2
    simp only [storePosition] at hps₂
    cases hinst : positionInstrument md accountId e with
    | none =>
      rw [hinst] at hps₂
      cases hps₂
      exact ih ps₁ p₁ hes' hp₁ hshort hsync hr
    | some inst =>
      rw [hinst, map_eq_some_iff] at hps₂
      obtain ⟨code, -, rfl⟩ := hps₂
      by_cases hkey : (accountId, inst.instrumentId) = key
      · subst hkey
        obtain ⟨p₂, hp₂, hshort₂, hsync₂⟩ := side_syncPosition code ts hp₁ fun h0 => by
          rw [hshort]
          exact hes e mem_cons_self inst hinst rfl (hsync h0)
        exact ih _ p₂ hes' hp₂ (hshort₂.trans hshort) (fun h0 => hsync (hsync₂ h0)) hr
      · refine ih _ p₁ hes' ?_ hshort hsync hr
        rw [(writesOnly_syncPosition ps₁ accountId inst.instrumentId code e ts).frame key
          (Ne.symm hkey)]
        exact hp₁

/-! ## Operations -/

/-- A fill that lands on the index of an instrument and does not turn a long position short. -/
def FillsInPlace (s : OmsCoreV2) (r : OrderReport) (l : LiveOrder) (posId : ℕ) : Prop :=
  (s.metadata.instrument posId).isSome = true ∧
  ∀ p ∈ s.positions.managed.lookup (l.accountId, posId),
    StaysOnSide p.qtyTotal ((fillDeltas l (reportEffect l r).fills).map (·.totalChange))
deriving Decidable

/-- An operation that leaves every position in its slot, and gives none a slot it cannot have. -/
def InPlace (s : OmsCoreV2) : Op → Prop
  | .report r => ∀ target ∈ s.reportTarget r, ∀ l ∈ s.orders.live.lookup target.2,
      ∀ posId ∈ l.accountingFlags.posInstrumentId,
        (reportEffect l r).fills.any (0 < ·) = true → s.FillsInPlace r l posId
  | .balanceUpdate _ u => ∀ accountId ∈ s.updatedAccount u,
      SeedsInPlace s.metadata accountId s.positions u.nonspot
  | _ => True

instance (s : OmsCoreV2) : (op : Op) → Decidable (s.InPlace op)
  | .report _ | .balanceUpdate .. | .place .. | .cancel .. | .panic _ | .dontPanic _
  | .sendFailed .. | .cancelSendFailed .. | .reload _ => by dsimp only [InPlace]; infer_instance

/-- **An operation of which the store keeps track.** -/
def Persistable (s : OmsCoreV2) (op : Op) : Prop := s.Announced op ∧ s.Named op ∧ s.InPlace op
deriving Decidable

/-- What a fill persists. -/
lemma mem_fillActions :
    .persistPosition a k ∈ fillActions l fills ↔
      l.accountingFlags.posInstrumentId = some k ∧ l.accountId = a ∧ fills.any (0 < ·) = true := by
  simp only [fillActions]
  cases l.accountingFlags.posInstrumentId with
  | none => simp
  | some posId =>
    simp only
    split_ifs with hany
    · simp [hany, eq_comm, and_comm]
    · simp [hany]

/-- A report that persists a position has filled the order of the position. -/
lemma persistPosition_of_report {id : Int} (hput : ReportActions id l r actions)
    (hmem : .persistPosition a k ∈ actions) :
    l.accountingFlags.posInstrumentId = some k ∧ l.accountId = a ∧
      (reportEffect l r).fills.any (0 < ·) = true := by
  rcases hput with ⟨-, rfl⟩ | ⟨-, trade, fee, exec, inferred, rfl⟩
  · cases hmem
  · rw [← mem_fillActions]
    simpa using hmem

/-- Fills in place leave every position on its side. -/
lemma sidesKept_report {id : Int} {gwId : ℕ} {l' : LiveOrder} {d' : OrderDetailLog}
    {os : OrderStoreV2} (spec : ReportSpec s id gwId r l d s' os l' d')
    (hfills : ∀ posId ∈ l.accountingFlags.posInstrumentId,
      (reportEffect l r).fills.any (0 < ·) = true → s.FillsInPlace r l posId) :
    SidesKept s.positions s'.positions := by
  have hdeltas : SidesKept s.positions
      (applyDeltas s.positions (fillDeltas l (reportEffect l r).fills) r.updateTimestamp) := by
    intro key p hp
    cases hpos : l.accountingFlags.posInstrumentId with
    | none =>
      simp only [fillDeltas, hpos]
      exact ⟨p, hp, rfl⟩
    | some posId =>
      cases hany : (reportEffect l r).fills.any (0 < ·) with
      | false =>
        have hno : (reportEffect l r).fills.filter (0 < ·) = [] := by
          rw [filter_eq_nil_iff]
          simpa using hany
        simp only [fillDeltas, hpos, hno, map_nil]
        exact ⟨p, hp, rfl⟩
      | true =>
        have hside := (hfills posId hpos hany).2
        simp only [fillDeltas, hpos] at hside ⊢
        by_cases hkey : key = (l.accountId, posId)
        · subst hkey
          exact side_applyDeltas hp (hside p hp)
        · exact ⟨p, ((writesOnly_applyDeltas _ _ s.positions).frame key hkey).trans hp, rfl⟩
  rw [spec.positions]
  split_ifs
  · intro key p hp
    obtain ⟨p₁, hp₁, hshort₁⟩ := hdeltas key p hp
    obtain ⟨p₂, hp₂, hshort₂⟩ := sidesKept_closePositions _ l' key p₁ hp₁
    exact ⟨p₂, hp₂, hshort₂.trans hshort₁⟩
  · exact hdeltas

/-- **Positions in place stay on their side**, and only indices of instruments are persisted. -/
theorem inPlace_perform {op : Op} (hk : SameKeys s.orders) (hkept : Kept s.metadata)
    (hann : s.Announced op) (hok : s.InPlace op) (h : s.perform op = some (s', actions)) :
    SidesKept s.positions s'.positions ∧
      ∀ a k, .persistPosition a k ∈ actions → (s.metadata.instrument k).isSome = true := by
  -- an operation that persists no position leaves every position alone
  have hquiet : (∀ a k, .persistPosition a k ∉ actions) → SidesKept s.positions s'.positions ∧
      ∀ a k, .persistPosition a k ∈ actions → (s.metadata.instrument k).isSome = true := by
    intro hnone
    refine ⟨fun key p hp => ?_, fun a k hmem => absurd hmem (hnone a k)⟩
    rcases (positions_perform hk hann h).persisted key with hsame | hmem
    · exact ⟨p, hsame.trans hp, rfl⟩
    · exact absurd hmem (hnone key.1 key.2)
  cases op with
  | report r =>
    cases processOrderReport_cases hk h with
    | ignored _ _ hs | buffered gwId _ _ hs => exact hquiet (by simp)
    | applied gwId id l _ _ _ _ ht _ hl _ spec hput =>
      refine ⟨sidesKept_report spec (hok (gwId, id) ht l hl), fun a k hmem => ?_⟩
      obtain ⟨hpos, -, hany⟩ := persistPosition_of_report hput hmem
      exact (hok (gwId, id) ht l hl k hpos hany).1
    | created gwId _ _ _ _ hx _ hput =>
      refine hquiet fun a k hmem => ?_
      -- an external order has no position key
      obtain ⟨hpos, -⟩ := persistPosition_of_report hput hmem
      cases hpos
  | balanceUpdate now u =>
    rcases processBalanceUpdate_spec h with ⟨-, rfl, rfl⟩ | ⟨a, ps, ha, hps, rfl, rfl⟩
    · exact hquiet (by simp)
    · refine ⟨sidesKept_storePositions (hok a ha) hps, fun b k hmem => ?_⟩
      have hinst : ∃ e ∈ u.nonspot, ∃ inst, positionInstrument s.metadata a e = some inst ∧
          inst.instrumentId = k := by
        simp only [balanceActions, spotActions, positionActions, mem_append,
          mem_filterMap, map_eq_some_iff] at hmem
        rcases hmem with (⟨e, -, i, -, hi⟩ | hmem) | (⟨e, he, inst, hinst, heq⟩ | hmem)
        · cases hi
        · split_ifs at hmem <;> simp at hmem
        · cases heq
          exact ⟨e, he, inst, hinst, rfl⟩
        · split_ifs at hmem <;> simp at hmem
      obtain ⟨e, -, inst, hinst, rfl⟩ := hinst
      simp only [positionInstrument, resolveInstrumentByGw, bind_eq_some_iff, bind_eq_some] at hinst
      obtain ⟨route, -, sym, -, i, -, hi⟩ := hinst
      rw [(hkept.instruments i inst hi).instrumentId]
      exact isSome_iff_exists.mpr ⟨inst, hi⟩
  | _ => exact hquiet (not_persistPosition hk rfl h)

/-- The entries of an update write the balances that they persist, and remove none. -/
lemma storeBalances_frame (md : MetadataTables) (accountId ts : Int) (es : List PositionReport)
    (b : BalanceStoreV2) (key : Int × ℕ) :
    let b' := es.foldl (storeBalance md accountId ts) b
    (b'.exchBalances.lookup key = b.exchBalances.lookup key ∨
      .persistBalance key.1 key.2 ∈ spotActions md accountId es) ∧
    ((b.exchBalances.lookup key).isSome = true → (b'.exchBalances.lookup key).isSome = true) := by
  induction es generalizing b with
  | nil => exact ⟨.inl rfl, id⟩
  | cons e es ih =>
    obtain ⟨hframe, hkept⟩ := ih (storeBalance md accountId ts b e)
    have hhead : ((storeBalance md accountId ts b e).exchBalances.lookup key =
          b.exchBalances.lookup key ∨
        .persistBalance key.1 key.2 ∈ spotActions md accountId [e]) ∧
        ((b.exchBalances.lookup key).isSome = true →
          ((storeBalance md accountId ts b e).exchBalances.lookup key).isSome = true) := by
      simp only [storeBalance, spotActions]
      cases hasset : spotAsset md e with
      | none => exact ⟨.inl rfl, id⟩
      | some assetId =>
        simp only [setBalance, removeUnknownBalance, lookup_insert_if]
        split_ifs with hkey
        · subst hkey
          exact ⟨.inr (by simp [hasset]), fun _ => rfl⟩
        · exact ⟨.inl rfl, id⟩
    have happ : spotActions md accountId (e :: es) =
        spotActions md accountId [e] ++ spotActions md accountId es := by
      simp [spotActions, ← filterMap_append]
    refine ⟨?_, fun h => hkept (hhead.2 h)⟩
    rw [happ, mem_append, foldl_cons]
    rcases hframe with hsame | hmem
    · rw [hsame]
      exact hhead.1.imp_right .inl
    · exact .inr (.inr hmem)

/-- **Every balance that an operation writes is named by its actions**, and none is removed. -/
theorem balances_persisted {op : Op} (hk : SameKeys s.orders)
    (h : s.perform op = some (s', actions)) (key : Int × ℕ) :
    (s'.balances.exchBalances.lookup key = s.balances.exchBalances.lookup key ∨
      .persistBalance key.1 key.2 ∈ actions) ∧
    ((s.balances.exchBalances.lookup key).isSome = true →
      (s'.balances.exchBalances.lookup key).isSome = true) := by
  rcases (tables_step hk (step_of_perform h)).2 with hb | ⟨now, u, rfl⟩
  · rw [hb]
    exact ⟨.inl rfl, id⟩
  · rcases processBalanceUpdate_spec h with ⟨-, rfl, -⟩ | ⟨a, ps, -, -, rfl, rfl⟩
    · exact ⟨.inl rfl, id⟩
    · obtain ⟨hframe, hkept⟩ := storeBalances_frame s.metadata a now u.spot s.balances key
      refine ⟨hframe.imp_right fun hmem => ?_, hkept⟩
      simp [balanceActions, hmem]

end OmsCoreV2

/-! ## The invariant -/

/-- The store backs what the core has, but for what the pending actions are about to write. -/
structure Backed (md : MetadataTables) (pending : List OmsActionV2) (s : OmsCoreV2)
    (st : PersistStore) : Prop where
  filed : WellFiled s
  tables : Interned md s.metadata
  known : ∀ a k, .persistPosition a k ∈ pending → (md.instrument k).isSome = true
  positions : (positionJournal md).Backs (positionSlot md s.positions) s.positions.holdings
    (fun key => .persistPosition key.1 key.2 ∈ pending) st.positions
  balances : (balanceJournal md).Backs (balanceSlot md s.balances) s.balances.amounts
    (fun key => .persistBalance key.1 key.2 ∈ pending) st.balances

/-- An operation leaves its actions pending. -/
theorem Backed.perform {md : MetadataTables} {pending actions : List OmsActionV2} {s s' : OmsCoreV2}
    {op : Op} (h : Backed md pending s st) (hmsg : op.isReload = false) (hok : s.Persistable op)
    (hop : s.perform op = some (s', actions)) : Backed md (pending ++ actions) s' st := by
  obtain ⟨hann, hnamed, hplace⟩ := hok
  have hkeys := h.filed.keys
  obtain ⟨hsides, hinst⟩ := inPlace_perform hkeys h.filed.kept hann hplace hop
  have hmd : Interned s.metadata s'.metadata :=
    interned_step hkeys hmsg (step_of_perform hop)
  have htables : ∀ k, md.instrument k = s.metadata.instrument k := by
    obtain ⟨t, ht, -⟩ := h.tables
    intro k
    rw [ht]
    rfl
  refine ⟨h.filed.perform hmsg hnamed hop, h.tables.trans hmd, fun a k hmem => ?_, ?_, ?_⟩
  · rcases mem_append.mp hmem with hmem | hmem
    · exact h.known a k hmem
    · rw [htables k]
      exact hinst a k hmem
  · refine (h.positions.change (fun key k' hslot => ?_) fun key => ?_).mono fun _ => mem_append.mpr
    · simp only [positionSlot, bind_eq_some_iff] at hslot ⊢
      obtain ⟨p, hp, hslot⟩ := hslot
      obtain ⟨p', hp', hshort⟩ := hsides key p hp
      exact ⟨p', hp', by rw [hshort]; exact hslot⟩
    · exact ((positions_perform hkeys hann hop).persisted key).imp_left (congrArg (Option.map _))
  · refine (h.balances.change (fun key k' hslot => ?_) fun key => ?_).mono fun _ => mem_append.mpr
    · simp only [balanceSlot, bind_eq_some_iff] at hslot ⊢
      obtain ⟨b, hb, hslot⟩ := hslot
      have hkept := (balances_persisted hkeys hop key).2 (by rw [hb]; rfl)
      obtain ⟨b', hb'⟩ := isSome_iff_exists.mp hkept
      exact ⟨b', hb', hslot⟩
    · exact (balances_persisted hkeys hop key).1.imp_left (congrArg (Option.map _))

section Writes

variable {config : Confdata} {s : OmsCoreV2} {st st' : PersistStore} {rest : List OmsActionV2}
  {a : Int} {k : ℕ}

/-- What is pending behind an action for another key. -/
lemma mem_of_mem_cons_ne {f : Int → ℕ → OmsActionV2}
    (hinj : ∀ a k b j, f a k = f b j → (a, k) = (b, j)) (key : Int × ℕ)
    (h : f key.1 key.2 ∈ f a k :: rest ∧ key ≠ (a, k)) : f key.1 key.2 ∈ rest := by
  rcases mem_cons.mp h.1 with heq | hmem
  · exact absurd (hinj _ _ _ _ heq) h.2
  · exact hmem

/-- The name of an asset in the table. -/
lemma resolveAssetName_of_nameOf {name : String} (h : s.metadata.nameOf .asset k = some name) :
    s.resolveAssetName k = some name := by
  simp only [nameOf, directory, getElem?_map, bind_eq_some_iff, map_eq_some_iff] at h
  obtain ⟨-, ⟨asset, hasset, rfl⟩, hname⟩ := h
  simp only [OmsCoreV2.resolveAssetName, OmsCoreV2.entryName, MetadataTables.asset, hasset]
  exact hname

lemma Backed.persistPosition
    (h : Backed config.tables (.persistPosition a k :: rest) s st)
    (hw : persist s st (.persistPosition a k) = some st') :
    Backed config.tables rest s st' := by
  have hkept := kept_fromConfdata config
  have hknown := fun a k hmem => h.known a k (mem_cons_of_mem _ hmem)
  have hbalances := h.balances.mono fun key hmem => (mem_cons.mp hmem).resolve_left (by simp)
  obtain ⟨code, hcode⟩ := hkept.nameOf_instrument (h.known a k mem_cons_self)
  have hname : s.resolveInstrumentCode k = some code := by
    refine instrumentCode_of_nameOf ?_
    rw [nameOf_interned hkept h.tables]
    exact hcode
  simp only [persist, buildPersistPosition, hname, some_bind, getPosition] at hw
  cases hp : s.positions.managed.lookup (a, k) with
  | none =>
    rw [hp] at hw
    cases hw
    have hskip := h.positions.skip (k := (a, k)) (by simp [positionSlot, hp])
      (by simp [holdings, hp])
    exact ⟨h.filed, h.tables, hknown,
      hskip.mono (mem_of_mem_cons_ne (f := .persistPosition) (by simp)), hbalances⟩
  | some p =>
    rw [hp] at hw
    cases hw
    have hslot : positionSlot config.tables s.positions (a, k) =
        some (a, code, sideName p.isShort) := by
      simp [positionSlot, hp, hcode]
    have hkey : (positionJournal config.tables).key (.from (p.persisted code)) = some (a, k) := by
      have hacc : p.accountId = a := congrArg Prod.fst (h.filed.own (a, k) p hp)
      show (idOf _ .instrument code).map (fun i => (p.accountId, i)) = _
      rw [(idOf_iff_nameOf config).mpr hcode, hacc]
      rfl
    have hwrite := h.positions.write (fun k₁ k₂ k' => positionSlot_inj) hslot hkey
      (by rw [holdings, hp]; rfl)
    exact ⟨h.filed, h.tables, hknown,
      hwrite.mono (mem_of_mem_cons_ne (f := .persistPosition) (by simp)), hbalances⟩

lemma Backed.persistBalance
    (h : Backed config.tables (.persistBalance a k :: rest) s st)
    (hw : persist s st (.persistBalance a k) = some st') :
    Backed config.tables rest s st' := by
  have hkept := kept_fromConfdata config
  have hknown := fun a k hmem => h.known a k (mem_cons_of_mem _ hmem)
  have hpositions := h.positions.mono fun key hmem => (mem_cons.mp hmem).resolve_left (by simp)
  cases hb : s.balances.exchBalances.lookup (a, k) with
  | none =>
    have hst : st' = st := by
      simp only [persist, buildPersistBalance, bind_eq_bind,
        getBalance, hb, bind_eq_some_iff, map_none] at hw
      obtain ⟨found, ⟨name, -, hfound⟩, hw⟩ := hw
      cases hfound
      exact (some.inj hw).symm
    subst hst
    have hskip := h.balances.skip (k := (a, k)) (by simp [balanceSlot, hb]) (by simp [amounts, hb])
    exact ⟨h.filed, h.tables, hknown, hpositions,
      hskip.mono (mem_of_mem_cons_ne (f := .persistBalance) (by simp))⟩
  | some b =>
    obtain ⟨hacc, hid⟩ := h.filed.named (a, k) b hb
    have hname : s.resolveAssetName k = some b.asset :=
      resolveAssetName_of_nameOf (h.filed.kept.nameOf_of_idOf hid)
    have hid' : idOf config.tables .asset b.asset = some k := by
      rw [← idOf_interned hkept h.tables]
      exact hid
    simp only [persist, buildPersistBalance, hname, some_bind, getBalance, hb, map_some] at hw
    cases hw
    have hslot : balanceSlot config.tables s.balances (a, k) = some (a, b.asset) := by
      simp [balanceSlot, hb, hkept.nameOf_of_idOf hid']
    have hkey : (balanceJournal config.tables).key (.from b) = some (a, k) := by
      show (idOf _ .asset b.asset).map (fun i => (b.accountId, i)) = _
      rw [hid', hacc]
      rfl
    have hwrite := h.balances.write (fun k₁ k₂ k' => balanceSlot_inj) hslot hkey
      (by rw [amounts, hb]; rfl)
    exact ⟨h.filed, h.tables, hknown, hpositions,
      hwrite.mono (mem_of_mem_cons_ne (f := .persistBalance) (by simp))⟩

/-- **Writing what is pending**: every action is carried out on the core as the message left it. -/
theorem Backed.writes {actions : List OmsActionV2}
    (h : Backed config.tables actions s st)
    (hw : actions.foldlM (persist s) st = some st') :
    Backed config.tables [] s st' := by
  induction actions generalizing st with
  | nil =>
    cases hw
    exact h
  | cons action actions ih =>
    rw [foldlM_cons, bind_eq_some] at hw
    obtain ⟨st₁, hst₁, hw⟩ := hw
    refine ih ?_ hw
    cases action with
    | persistPosition a k => exact h.persistPosition hst₁
    | persistBalance a k => exact h.persistBalance hst₁
    | _ =>
      cases hst₁
      refine ⟨h.filed, h.tables, fun a k hmem => h.known a k (mem_cons_of_mem _ hmem),
        h.positions.mono fun key hmem => ?_, h.balances.mono fun key hmem => ?_⟩
      all_goals exact (mem_cons.mp hmem).resolve_left (by simp)

/-- **A message of persistable operations keeps the store up to date.** -/
theorem Backed.message {x x' : OmsCoreV2 × PersistStore} {m : Int × OmsMessage}
    (h : Backed config.tables [] x.1 x.2)
    (hg : Guarded step OmsCoreV2.Persistable x.1 (message m.1 m.2).ops)
    (hstep : persistMessage x m = some x') :
    Backed config.tables [] x'.1 x'.2 := by
  simp only [persistMessage, bind_eq_some] at hstep
  obtain ⟨⟨core, actions⟩, hcore, st', hst', hstep⟩ := hstep
  cases hstep
  rw [processMessage_eq] at hcore
  refine Backed.writes ?_ hst'
  have hmsg := hg.and_mem isReload_of_message
  exact processBatch_invariant
    (I := fun s acts => Backed config.tables acts s x.2)
    (fun s acts op s' new hs hok hop => hs.perform hok.2 hok.1 hop) h hmsg hcore

end Writes

/-! ## Loading -/

def warmPosition (md : MetadataTables) (r : PersistedManagedPosition) : ManagedPositionV2 :=
  { accountId := r.accountId, instrumentId := (md.idOf .instrument r.instrumentCode).getD 0,
    instrumentType := r.instrumentType, isShort := r.isShort, qtyTotal := r.totalQty,
    qtyFrozen := r.frozenQty, qtyAvailable := r.availQty }

namespace OmsCoreV2

variable {md : MetadataTables} {s : OmsCoreV2} (hkept : Kept md) (hmd : Interned md s.metadata)
include hkept hmd

lemma initPosition_loads (r : PersistedManagedPosition) :
    (s.initPosition r.intoOmsManagedPosition).metadata = s.metadata ∧
    (s.initPosition r.intoOmsManagedPosition).positions.managed =
      (positionJournal md).loadRecord (warmPosition md) s.positions.managed r := by
  have hid : md.idOf .instrument r.instrumentCode =
      (s.metadata.resolveInstrument r.instrumentCode).map (·.instrumentId) := by
    rw [(hkept.interned hmd).resolveInstrument, idOf_interned hkept hmd]
  simp only [initPosition, loadRecord, positionJournal,
    PersistedManagedPosition.intoOmsManagedPosition, warmPosition, hid]
  cases s.metadata.resolveInstrument r.instrumentCode with
  | none | some inst => exact ⟨rfl, rfl⟩

lemma foldl_initPosition_loads (rs : List PersistedManagedPosition) :
    let s' := (rs.map (·.intoOmsManagedPosition)).foldl initPosition s
    s'.metadata = s.metadata ∧
    s'.positions.managed =
      rs.foldl ((positionJournal md).loadRecord (warmPosition md)) s.positions.managed := by
  induction rs generalizing s with
  | nil => exact ⟨rfl, rfl⟩
  | cons r rs ih =>
    obtain ⟨hmd', hmanaged⟩ := initPosition_loads hkept hmd r
    obtain ⟨hmd'', hrest⟩ := ih (by rw [hmd']; exact hmd)
    rw [hmanaged] at hrest
    exact ⟨hmd''.trans hmd', hrest⟩

lemma initBalance_loads (r : PersistedBalance) :
    (s.initBalance r.intoExchBalanceSnapshot).metadata = s.metadata ∧
    (s.initBalance r.intoExchBalanceSnapshot).balances.exchBalances =
      (balanceJournal md).loadRecord (·.intoExchBalanceSnapshot) s.balances.exchBalances r := by
  have hid : md.idOf .asset r.asset =
      (s.metadata.strings.lookup r.asset).bind s.metadata.assetBySymbol.lookup :=
    (idOf_interned hkept hmd .asset r.asset).symm
  simp only [initBalance, loadRecord, balanceJournal, PersistedBalance.intoExchBalanceSnapshot, hid]
  cases (s.metadata.strings.lookup r.asset).bind s.metadata.assetBySymbol.lookup with
  | none | some assetId => exact ⟨rfl, rfl⟩

lemma foldl_initBalance_loads (rs : List PersistedBalance) :
    ((rs.map (·.intoExchBalanceSnapshot)).foldl initBalance s).balances.exchBalances =
      rs.foldl ((balanceJournal md).loadRecord (·.intoExchBalanceSnapshot))
        s.balances.exchBalances := by
  induction rs generalizing s with
  | nil => rfl
  | cons r rs ih =>
    obtain ⟨hmd', hbalances⟩ := initBalance_loads hkept hmd r
    have hrest := ih (by rw [hmd']; exact hmd)
    rw [hbalances] at hrest
    exact hrest

end OmsCoreV2

/-- What a restart finds: the records, loaded one after another. -/
lemma restart_loads {u : OmsSetup} {config : Confdata} (hu : u.config = config.toConfdataManager)
    (orders : List OmsOrder) (ps : List PersistedManagedPosition) (bs : List PersistedBalance) :
    (u.restart orders ps bs).start.positions.managed =
      ps.foldl ((positionJournal config.tables).loadRecord (warmPosition config.tables)) ∅ ∧
    (u.restart orders ps bs).start.balances.exchBalances =
      bs.foldl ((balanceJournal config.tables).loadRecord (·.intoExchBalanceSnapshot)) ∅ := by
  have hkept := kept_fromConfdata config
  have hmd : Interned config.tables (orders.foldl initOrder u.blank).metadata := by
    rw [Confdata.tables, ← hu]
    exact metadata_start { u with orders, positions := [], balances := [] }
  have horder : ∀ (s : OmsCoreV2) v1, (s.initOrder v1).balances = s.balances := fun _ _ => rfl
  have hpos := initPosition_preserves (g := (·.balances)) fun _ _ => rfl
  obtain ⟨hmd', hmanaged⟩ := foldl_initPosition_loads hkept hmd ps
  rw [← hmd'] at hmd
  constructor
  · rw [start_positions]
    refine hmanaged.trans ?_
    rw [foldl_preserves initOrder_positions]
    rfl
  · refine (foldl_initBalance_loads hkept hmd bs).trans ?_
    rw [foldl_preserves hpos, foldl_preserves horder]
    rfl

/-! ## Recovery -/

/-- **What a restart should give back**: whatever orders are loaded with them, and in whatever order
the scans return the records, the same holding under every position key and the same amounts under
every balance key. -/
def Recovers (u : OmsSetup) (s : OmsCoreV2) (st : PersistStore) : Prop :=
  ∀ orders ps bs, ps.Perm st.positionRecords → bs.Perm st.balanceRecords →
    (∀ key, (u.restart orders ps bs).start.positions.holdings key = s.positions.holdings key) ∧
    ∀ key, (u.restart orders ps bs).start.balances.amounts key = s.balances.amounts key

/-- With nothing pending, a restart finds what the core has. -/
theorem Backed.recovers {u : OmsSetup} {s : OmsCoreV2} (hu : u.config = config.toConfdataManager)
    (h : Backed config.tables [] s st) : Recovers u s st := by
  intro orders ps bs hps hbs
  obtain ⟨hpositions, hbalances⟩ := restart_loads hu orders ps bs
  refine ⟨fun key => ?_, fun key => ?_⟩
  · exact h.positions.load (by simp) hpositions (fun _ => rfl) (mem_records hps) key
  · exact h.balances.load (by simp) hbalances (fun _ => rfl) (mem_records hbs) key

/-- A store in which every record lies under its own key, with one side for each position. -/
structure PersistStore.Tidy (st : PersistStore) : Prop where
  positions : ∀ key r, st.positions.lookup key = some r →
    key = (r.accountId, r.instrumentCode, sideName r.isShort)
  balances : ∀ key r, st.balances.lookup key = some r → key = (r.accountId, r.asset)
  sides : ∀ key r key' r', st.positions.lookup key = some r → st.positions.lookup key' = some r' →
    r.accountId = r'.accountId → r.instrumentCode = r'.instrumentCode → r.isShort = r'.isShort

/-- Records of one key have one account and one name. -/
lemma idOf_key_inj {kind : EntryKind} {a b : Int} {m n : String} {key : Int × ℕ}
    (hm : (config.tables.idOf kind m).map (fun i => (a, i)) = some key)
    (hn : (config.tables.idOf kind n).map (fun i => (b, i)) = some key) : a = b ∧ m = n := by
  simp only [map_eq_some_iff] at hm hn
  obtain ⟨i, hi, rfl⟩ := hm
  obtain ⟨j, hj, heq⟩ := hn
  cases heq
  rw [idOf_iff_nameOf] at hi hj
  exact ⟨rfl, mem_unique hi hj⟩

lemma PersistStore.Tidy.oneRecord_positions (hst : st.Tidy) (config : Confdata) :
    (positionJournal config.tables).OneRecord st.positions := by
  intro k₁' k₂' r₁ r₂ k h₁ h₂ hk₁ hk₂
  obtain ⟨hacc, hcode⟩ := idOf_key_inj hk₁ hk₂
  have hside := hst.sides k₁' r₁ k₂' r₂ h₁ h₂ hacc hcode
  rw [hst.positions k₁' r₁ h₁, hst.positions k₂' r₂ h₂, hacc, hcode, hside]

lemma PersistStore.Tidy.oneRecord_balances (hst : st.Tidy) (config : Confdata) :
    (balanceJournal config.tables).OneRecord st.balances := by
  intro k₁' k₂' r₁ r₂ k h₁ h₂ hk₁ hk₂
  obtain ⟨hacc, hasset⟩ := idOf_key_inj hk₁ hk₂
  rw [hst.balances k₁' r₁ h₁, hst.balances k₂' r₂ h₂, hacc, hasset]

/-- **A tidy store backs the core that was started from it.** -/
theorem backed_restart {u : OmsSetup} (hu : u.config = config.toConfdataManager) (hst : st.Tidy)
    (orders : List OmsOrder) (hps : ps.Perm st.positionRecords) (hbs : bs.Perm st.balanceRecords) :
    Backed config.tables [] (u.restart orders ps bs).start st := by
  obtain ⟨hpositions, hbalances⟩ := restart_loads hu orders ps bs
  have hrestart : (u.restart orders ps bs).config = config.toConfdataManager := hu
  have htables : Interned config.tables (u.restart orders ps bs).start.metadata := by
    rw [Confdata.tables, ← hu]
    exact metadata_start (u.restart orders ps bs)
  refine ⟨wellFiled_start hrestart, htables, fun a k hmem => ?_, ?_, ?_⟩
  · cases hmem
  · refine Journal.Backs.of_load hpositions (fun _ => rfl) (mem_records hps)
      (hst.oneRecord_positions config) fun k' r k hr hkey hfound => ?_
    simp only [positionJournal, map_eq_some_iff] at hkey
    obtain ⟨i, hi, rfl⟩ := hkey
    rw [positionSlot, hfound, bind_some, (idOf_iff_nameOf config).mp hi, hst.positions k' r hr]
    rfl
  · refine Journal.Backs.of_load hbalances (fun _ => rfl) (mem_records hbs)
      (hst.oneRecord_balances config) fun k' r k hr hkey hfound => ?_
    simp only [balanceJournal, map_eq_some_iff] at hkey
    obtain ⟨i, hi, rfl⟩ := hkey
    rw [balanceSlot, hfound, bind_some, (idOf_iff_nameOf config).mp hi, hst.balances k' r hr]
    rfl

/-- **Persisted positions and balances reload to the same state**, after every message of every run
whose operations are persistable, from any start on a tidy store. -/
theorem state_recovers {u : OmsSetup} {config : Confdata} {st : PersistStore}
    {orders : List OmsOrder} {ps : List PersistedManagedPosition} {bs : List PersistedBalance}
    {ms : List (Int × OmsMessage)} {x : OmsCoreV2 × PersistStore}
    (hu : u.config = config.toConfdataManager) (hst : st.Tidy) (hps : ps.Perm st.positionRecords)
    (hbs : bs.Perm st.balanceRecords)
    (hg : Guarded persistMessage
      (fun x m => Guarded step OmsCoreV2.Persistable x.1 (message m.1 m.2).ops)
      ((u.restart orders ps bs).start, st) ms)
    (hr : run persistMessage ((u.restart orders ps bs).start, st) ms = some x) :
    Recovers u x.1 x.2 := by
  have hend := run_invariant
    (I := fun x => Backed config.tables [] x.1 x.2)
    (fun x m x' hx hok hstep => hx.message hok hstep) (backed_restart hu hst orders hps hbs) hg hr
  exact hend.recovers hu

/-- The venue whose gateway bears the code of its instrument. -/
def Sample.namesakeVenue : Confdata where
  toConfdataManager := .new [1] [{ accountId := 1, exchAccountId := "main", gwKey := "P" }]
    [{ exchName := "X", gwKey := "P" }]
    [{ instrumentId := "P", instrumentIdExchange := "PX", exchangeName := "X",
       instrumentType := .perp, baseAsset := "B", quoteAsset := "Q", settlementAsset := "Q",
       pricePrecision := 0, qtyPrecision := 0 }]
    [{ instrumentCode := "P", bookkeepingBalance := true, balanceCheck := true }]
  keyed := ConfdataManager.keyed_new _ _ _ _ _

/-- What Redis holds before the first trade: some cash. -/
def Sample.cash : PersistedBalance :=
  { accountId := 1, asset := "Q", totalQty := 100, frozenQty := 0, availQty := 100 }

/-- A buy, its fill, and the balance that is left. -/
def Sample.filledBuy (gwKey : String) : List (Int × OmsMessage) :=
  [(0, .placeOrder (request 10 .buy 2)),
    (0, .gatewayOrderReport { orderReport 10 "" [trade 2] with exchange := gwKey }),
    (0, .balanceUpdate (balance "Q" 98))]

/-- On that venue the fill and the balance survive a restart. -/
theorem state_recovers_sample :
    let u : OmsSetup := { config := namesakeVenue.toConfdataManager, maxCachedOrders := 4 }
    let st : PersistStore := { balances := (∅ : Dict _ _).insert (1, "Q") cash }
    ∃ x, run persistMessage ((u.restart [] [] [cash]).start, st) (filledBuy "P") =
        some x ∧ x.1.positions.managed.keys ≠ [] ∧ Recovers u x.1 x.2 := by
  intro u st
  have htidy : st.Tidy := by
    refine ⟨fun key r hr => ?_, fun key r hr => ?_, fun key r key' r' hr => ?_⟩
    · cases hr
    · rw [lookup_insert_if] at hr
      split_ifs at hr with hkey
      · cases hr
        exact hkey
      · cases hr
    · cases hr
  obtain ⟨hg, x, hr, hpos⟩ : Guarded persistMessage
        (fun x m => Guarded step OmsCoreV2.Persistable x.1 (message m.1 m.2).ops)
        ((u.restart [] [] [cash]).start, st) (filledBuy "P") ∧
      ∃ x ∈ run persistMessage ((u.restart [] [] [cash]).start, st) (filledBuy "P"),
        x.1.positions.managed.keys ≠ [] := by
    decide +kernel
  have hu : u.config = namesakeVenue.toConfdataManager := rfl
  exact ⟨x, hr, hpos, state_recovers hu htidy (.refl _) (.refl _) hg hr⟩

/-- A fill is persisted under the name of no instrument, and a restart does not find it. -/
theorem filled_position_lost :
    let u : OmsSetup := { config := (venue true).toConfdataManager, maxCachedOrders := 4 }
    let st : PersistStore := { balances := (∅ : Dict _ _).insert (1, "Q") cash }
    ∃ x, run persistMessage ((u.restart [] [] [cash]).start, st) (filledBuy "gw") =
        some x ∧ ¬ Recovers u x.1 x.2 := by
  intro u st
  obtain ⟨x, hr, key, -, hheld, hlost⟩ :
      ∃ x ∈ run persistMessage ((u.restart [] [] [cash]).start, st) (filledBuy "gw"),
      ∃ key ∈ x.1.positions.managed.keys, (x.1.positions.holdings key).isSome = true ∧
        (u.restart [] x.2.positionRecords x.2.balanceRecords).start.positions.holdings key =
          none := by
    decide +kernel
  refine ⟨x, hr, fun hrec => ?_⟩
  have hsame := (hrec [] _ _ (.refl _) (.refl _)).1 key
  rw [← hsame, hlost] at hheld
  cases hheld

end Zkbot
