import Zkbot.Core.Run
import Zkbot.Oms.State

/-!
# Exchange balances and positions

`process_balance_update` of `oms_core_v2.rs`.  Spot entries go to the balance store.  All others go
to the position store, under the index of the instrument in the instrument table; the first one to
arrive for a position overwrites the managed position with what the exchange says.

`processBalanceUpdate_spec` is the interface of the handler.
-/

namespace Zkbot

open List Option

/-- What the first exchange sync writes into a managed position. -/
def ManagedPositionV2.seed (pos : ManagedPositionV2) (entry : PositionReport) (ts : Int) :
    ManagedPositionV2 :=
  { pos with
    qtyTotal := entry.qty
    qtyAvailable := entry.availQty
    qtyFrozen := entry.qty - entry.availQty
    isShort := decide (entry.longShortType = .short)
    lastExchSyncTs := ts }

namespace OmsCoreV2

/-- The account a balance update is for.  Every route's symbol has been interned, so the
`str_resolve` of the source's fallback search does not panic. -/
def accountOfExchAccount (s : OmsCoreV2) (exchAccountCode : String) : Option Int :=
  ((s.metadata.strings.lookup exchAccountCode).bind s.balances.resolveAccountId).or
    ((s.metadata.routeByAccount.entries.find? fun e =>
      s.metadata.strResolve e.2.exchAccountSym = some exchAccountCode).map (·.1))

def balanceOfEntry (accountId : Int) (entry : PositionReport) (ts : Int) : Balance :=
  { accountId, asset := entry.instrumentCode, totalQty := entry.qty, availQty := entry.availQty,
    frozenQty := entry.qty - entry.availQty, updateTimestamp := entry.updateTimestamp,
    syncTimestamp := ts, isFromExch := true, exchDataRaw := entry.messageRaw }

def applySpotEntry (accountId ts : Int) (acc : OmsCoreV2 × List OmsActionV2)
    (entry : PositionReport) : OmsCoreV2 × List OmsActionV2 :=
  let s := acc.1
  let asset := entry.instrumentCode
  match (s.metadata.strings.lookup asset).bind s.metadata.assetBySymbol.lookup with
  | some assetId =>
    let snap :=
      { s.balances.balanceOr accountId assetId with
        symbolExch := some entry.instrumentCode
        balanceState := balanceOfEntry accountId entry ts
        exchDataRaw := entry.messageRaw
        syncTs := ts }
    ({ s with
       balances := (s.balances.removeUnknownBalance accountId asset).setBalance accountId assetId
         snap },
     acc.2 ++ [.persistBalance accountId assetId])
  | none =>
    let snap : ExchBalanceSnapshot :=
      { accountId, asset, symbolExch := some entry.instrumentCode,
        balanceState := balanceOfEntry accountId entry ts, exchDataRaw := entry.messageRaw,
        syncTs := ts }
    ({ s with balances := s.balances.setUnknownBalance accountId asset snap }, acc.2)

/-- The exchange snapshot after a position entry. -/
def exchSnapshot (positions : PositionStoreV2) (accountId : Int) (instrumentId : ℕ)
    (instrumentCode : String) (entry : PositionReport) (ts : Int) : ExchPositionSnapshot :=
  let old := positions.exch.getD (accountId, instrumentId)
    { accountId, instrumentCode, symbolExch := some entry.instrumentCode, positionState := {},
      exchDataRaw := "", syncTs := 0 }
  { old with
    symbolExch := some entry.instrumentCode
    positionState :=
      { accountId, instrumentCode, totalQty := entry.qty, availQty := entry.availQty,
        frozenQty := entry.qty - entry.availQty, longShortType := entry.longShortType,
        instrumentType := entry.instrumentType, updateTimestamp := entry.updateTimestamp,
        syncTimestamp := ts }
    exchDataRaw := entry.messageRaw
    syncTs := ts }

/-- The managed position is seeded if it is new or has never been synced. -/
def shouldSeed (positions : PositionStoreV2) (accountId : Int) (instrumentId : ℕ) : Bool :=
  ((positions.getPosition accountId instrumentId).map fun p =>
    decide (p.lastExchSyncTs = 0)).getD true

/-- The position store after one entry for a known instrument. -/
def syncPosition (positions : PositionStoreV2) (accountId : Int) (instrumentId : ℕ)
    (instrumentCode : String) (entry : PositionReport) (ts : Int) : PositionStoreV2 :=
  let positions := { positions with
    exch := positions.exch.insert (accountId, instrumentId)
      (exchSnapshot positions accountId instrumentId instrumentCode entry ts) }
  let positions :=
    if shouldSeed positions accountId instrumentId then
      let pos := positions.positionOr accountId instrumentId entry.instrumentType
        (decide (entry.longShortType = .short))
      { positions with
        managed := positions.managed.insert (accountId, instrumentId) (pos.seed entry ts) }
    else positions
  positions.updateReconcileStatus accountId instrumentId ts

def applyPositionEntry (accountId ts : Int) (acc : OmsCoreV2 × List OmsActionV2)
    (entry : PositionReport) : Option (OmsCoreV2 × List OmsActionV2) :=
  let s := acc.1
  match (s.metadata.route accountId).bind fun route =>
      s.metadata.resolveInstrumentByGw route.gwId entry.instrumentCode with
  | none => some acc
  | some inst => do
      let instrumentCode ← s.metadata.strResolve inst.instrumentCodeSym
      some ({ s with
              positions := syncPosition s.positions accountId inst.instrumentId instrumentCode
                entry ts },
        acc.2 ++ [.persistPosition accountId inst.instrumentId])

def processBalanceUpdate (s : OmsCoreV2) (now : Int) (update : BalanceUpdate) :
    Option (OmsCoreV2 × List OmsActionV2) :=
  match update.balances with
  | [] => some (s, [])
  | first :: _ =>
    match s.accountOfExchAccount first.exchAccountCode with
    | none => some (s, [])
    | some accountId => do
        let spot := update.balances.filter fun e => decide (e.instrumentType = .spot)
        let nonspot := update.balances.filter fun e => decide (e.instrumentType ≠ .spot)
        let (s, spotActions) := spot.foldl (applySpotEntry accountId now) (s, [])
        let spotActions :=
          if spot = [] then spotActions else spotActions ++ [.publishBalanceUpdate accountId]
        let (s, actions) ← nonspot.foldlM (applyPositionEntry accountId now) (s, spotActions)
        some (s, if nonspot = [] then actions else actions ++ [.publishPositionUpdate accountId])

end OmsCoreV2

def BalanceUpdate.spot (u : BalanceUpdate) : List PositionReport :=
  u.balances.filter fun e => decide (e.instrumentType = .spot)

def BalanceUpdate.nonspot (u : BalanceUpdate) : List PositionReport :=
  u.balances.filter fun e => decide (e.instrumentType ≠ .spot)

namespace OmsCoreV2

variable {s s' : OmsCoreV2} {actions : List OmsActionV2} {now : Int} {u : BalanceUpdate}

/-! ## What an update does -/

/-- The account a balance update is for. -/
def updatedAccount (s : OmsCoreV2) (u : BalanceUpdate) : Option Int :=
  u.balances.head?.bind fun first => s.accountOfExchAccount first.exchAccountCode

section

variable (md : MetadataTables)

/-- The asset a spot entry is for, if the config knows it. -/
def spotAsset (e : PositionReport) : Option ℕ :=
  (md.strings.lookup e.instrumentCode).bind md.assetBySymbol.lookup

/-- The instrument another entry is for, if the config knows it. -/
def positionInstrument (accountId : Int) (e : PositionReport) : Option InstrumentMeta :=
  (md.route accountId).bind fun route => md.resolveInstrumentByGw route.gwId e.instrumentCode

/-- The actions of the spot entries, and of the others. -/
def spotActions (accountId : Int) (es : List PositionReport) : List OmsActionV2 :=
  es.filterMap fun e => (spotAsset md e).map (.persistBalance accountId)

def positionActions (accountId : Int) (es : List PositionReport) : List OmsActionV2 :=
  es.filterMap fun e =>
    (positionInstrument md accountId e).map fun inst => .persistPosition accountId inst.instrumentId

/-- The balances after a spot entry. -/
def storeBalance (accountId ts : Int) (b : BalanceStoreV2) (e : PositionReport) : BalanceStoreV2 :=
  match spotAsset md e with
  | some assetId =>
    (b.removeUnknownBalance accountId e.instrumentCode).setBalance accountId assetId
      { b.balanceOr accountId assetId with
        symbolExch := some e.instrumentCode
        balanceState := balanceOfEntry accountId e ts
        exchDataRaw := e.messageRaw
        syncTs := ts }
  | none =>
    b.setUnknownBalance accountId e.instrumentCode
      { accountId, asset := e.instrumentCode, symbolExch := some e.instrumentCode,
        balanceState := balanceOfEntry accountId e ts, exchDataRaw := e.messageRaw,
        syncTs := ts }

/-- The positions after another entry. -/
def storePosition (accountId ts : Int) (ps : PositionStoreV2)
    (e : PositionReport) : Option PositionStoreV2 :=
  match positionInstrument md accountId e with
  | none => some ps
  | some inst =>
    (md.strResolve inst.instrumentCodeSym).map fun code =>
      syncPosition ps accountId inst.instrumentId code e ts

end

section

variable (accountId ts : Int)

/-- A spot entry changes the balances only, and persists the balance of a known asset. -/
lemma applySpotEntry_eq (s : OmsCoreV2) (acts : List OmsActionV2) (e : PositionReport) :
    applySpotEntry accountId ts (s, acts) e =
      ({ s with balances := storeBalance s.metadata accountId ts s.balances e },
       acts ++ spotActions s.metadata accountId [e]) := by
  simp only [applySpotEntry, spotActions, storeBalance, spotAsset, filterMap_cons, filterMap_nil]
  cases (s.metadata.strings.lookup e.instrumentCode).bind s.metadata.assetBySymbol.lookup with
  | some assetId => rfl
  | none => rw [map_none, append_nil]

lemma foldl_applySpotEntry_eq (es : List PositionReport) (s : OmsCoreV2) (acts : List OmsActionV2) :
    es.foldl (applySpotEntry accountId ts) (s, acts) =
      ({ s with balances := es.foldl (storeBalance s.metadata accountId ts) s.balances },
       acts ++ spotActions s.metadata accountId es) := by
  induction es generalizing s acts with
  | nil => simp [spotActions]
  | cons e es ih =>
    rw [foldl_cons, applySpotEntry_eq, ih, append_assoc]
    simp [spotActions, ← filterMap_append]

/-- Another entry changes the positions only, and persists the position of a known instrument. -/
lemma applyPositionEntry_eq (s : OmsCoreV2) (acts : List OmsActionV2) (e : PositionReport) :
    applyPositionEntry accountId ts (s, acts) e =
      (storePosition s.metadata accountId ts s.positions e).map fun ps =>
        ({ s with positions := ps }, acts ++ positionActions s.metadata accountId [e]) := by
  simp only [applyPositionEntry, positionActions, storePosition, positionInstrument,
    filterMap_cons, filterMap_nil]
  cases (s.metadata.route accountId).bind fun route =>
      s.metadata.resolveInstrumentByGw route.gwId e.instrumentCode with
  | none => simp
  | some inst =>
    cases hcode : s.metadata.strResolve inst.instrumentCodeSym with
    | none => simp [hcode]
    | some code => simp [hcode]

lemma foldlM_applyPositionEntry_eq (es : List PositionReport) (s : OmsCoreV2)
    (acts : List OmsActionV2) :
    es.foldlM (applyPositionEntry accountId ts) (s, acts) =
      (es.foldlM (storePosition s.metadata accountId ts) s.positions).map fun ps =>
        ({ s with positions := ps }, acts ++ positionActions s.metadata accountId es) := by
  induction es generalizing s acts with
  | nil => simp [positionActions]
  | cons e es ih =>
    rw [foldlM_cons, foldlM_cons, applyPositionEntry_eq]
    cases storePosition s.metadata accountId ts s.positions e with
    | none => rfl
    | some ps =>
      simp only [map_some, some_bind, ih, append_assoc]
      simp [positionActions, ← filterMap_append]

end

/-- The actions of a balance update for an account. -/
def balanceActions (md : MetadataTables) (accountId : Int) (u : BalanceUpdate) : List OmsActionV2 :=
  (spotActions md accountId u.spot ++
    if u.spot = [] then [] else [.publishBalanceUpdate accountId]) ++
  (positionActions md accountId u.nonspot ++
    if u.nonspot = [] then [] else [.publishPositionUpdate accountId])

lemma processBalanceUpdate_eq (s : OmsCoreV2) (now : Int) (u : BalanceUpdate) :
    s.processBalanceUpdate now u = (s.updatedAccount u).elim (some (s, [])) fun accountId =>
      (u.nonspot.foldlM (storePosition s.metadata accountId now) s.positions).map fun ps =>
        ({ s with
           balances := u.spot.foldl (storeBalance s.metadata accountId now) s.balances
           positions := ps },
         balanceActions s.metadata accountId u) := by
  have happ : ∀ (p : Prop) [Decidable p] (as bs : List OmsActionV2),
      (if p then as else as ++ bs) = as ++ if p then [] else bs := by
    intro p _ as bs
    split_ifs
    · rw [append_nil]
    · rfl
  simp only [processBalanceUpdate]
  split
  · rename_i hu
    simp [updatedAccount, hu]
  · rename_i first rest hu
    have hacct : s.updatedAccount u = s.accountOfExchAccount first.exchAccountCode := by
      simp [updatedAccount, hu]
    rw [hacct]
    cases s.accountOfExchAccount first.exchAccountCode with
    | none => rfl
    | some accountId =>
      simp only [foldl_applySpotEntry_eq, foldlM_applyPositionEntry_eq, nil_append, happ,
        balanceActions, BalanceUpdate.spot, BalanceUpdate.nonspot, elim_some]
      cases (u.balances.filter fun e => decide (e.instrumentType ≠ .spot)).foldlM
          (storePosition s.metadata accountId now) s.positions with
      | none => rfl
      | some ps => simp

/-- **What a balance update does**: the spot entries go to the balances and the others to the
positions, every known entry is persisted, and each kind of entry that occurs is published. -/
theorem processBalanceUpdate_spec (h : s.processBalanceUpdate now u = some (s', actions)) :
    s.updatedAccount u = none ∧ s' = s ∧ actions = [] ∨
    ∃ accountId ps, s.updatedAccount u = some accountId ∧
      u.nonspot.foldlM (storePosition s.metadata accountId now) s.positions = some ps ∧
      s' = { s with
        balances := u.spot.foldl (storeBalance s.metadata accountId now) s.balances
        positions := ps } ∧
      actions = balanceActions s.metadata accountId u := by
  rw [processBalanceUpdate_eq] at h
  cases hacct : s.updatedAccount u with
  | none =>
    rw [hacct] at h
    cases h
    exact .inl ⟨rfl, rfl, rfl⟩
  | some accountId =>
    rw [hacct] at h
    obtain ⟨ps, hps, h⟩ := map_eq_some_iff.mp h
    cases h
    exact .inr ⟨accountId, ps, rfl, hps, rfl, rfl⟩

end OmsCoreV2

end Zkbot
