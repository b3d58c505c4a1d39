import Zkbot.Oms.Config
import Zkbot.Oms.Intern

/-!
# Metadata tables

`metadata_v2.rs`: the integer-id lookup tables that `OmsCoreV2` works with, built from the
string-keyed configuration (`fromConfdata`) and rebuilt on a reload (`rebuildFromConfig`).

Three kinds of integer occur side by side and all are plain `u32` in the source: *symbols* (ids of
the intern table), *table indices* (positions in `gws`, `assets`, `instruments`) and, outside this
file, references into the order store's own string table.  Nothing but the name of a field tells
them apart.

An assignment through a vector index can panic; such a step is an `Option` here.
-/

namespace Zkbot

structure InstrumentMeta where
  instrumentId : ℕ
  instrumentCodeSym : ℕ
  instrumentExchSym : ℕ
  instrumentType : InstrumentType
  baseAssetId : Option ℕ
  baseAssetSym : Option ℕ
  quoteAssetId : Option ℕ
  settlementAssetId : Option ℕ
  qtyPrecision : Int
  pricePrecision : Int
  deriving DecidableEq

structure RouteMeta where
  accountId : Int
  gwId : ℕ
  gwKeySym : ℕ
  exchAccountSym : ℕ
  deriving DecidableEq

structure GwMeta where
  gwId : ℕ
  gwKeySym : ℕ
  exchNameSym : ℕ
  cancelRequiredFields : List String
  deriving DecidableEq

structure AssetMeta where
  assetId : ℕ
  assetSym : ℕ
  deriving DecidableEq

structure TradingMeta where
  instrumentId : ℕ
  bookkeepingBalance : Bool
  balanceCheck : Bool
  useMargin : Bool
  marginRatio : ℚ
  maxOrderSize : Option ℚ
  publishBalanceOnTrade : Bool
  publishBalanceOnBook : Bool
  publishBalanceOnCancel : Bool
  deriving DecidableEq

structure MetadataTables where
  strings : InternTable := InternTable.new
  instruments : List InstrumentMeta := []
  instrumentByCode : Dict ℕ ℕ := ∅
  instrumentByGwSymbol : Dict (ℕ × ℕ) ℕ := ∅
  gws : List GwMeta := []
  gwByKey : Dict ℕ ℕ := ∅
  routeByAccount : Dict Int RouteMeta := ∅
  assets : List AssetMeta := []
  assetBySymbol : Dict ℕ ℕ := ∅
  tradingByInstrument : Dict ℕ TradingMeta := ∅

namespace MetadataTables

variable (md : MetadataTables)

/-- Intern a string into the table of config strings. -/
def intern (s : String) : MetadataTables × ℕ :=
  let r := md.strings.intern s
  ({ md with strings := r.1 }, r.2)

/-! ## Building the tables -/

/-- One gateway of step 1. -/
def addGw (gwCfg : GwConfigEntry) : MetadataTables :=
  let gwId := md.gws.length
  let (md, gwKeySym) := md.intern gwCfg.gwKey
  let (md, exchNameSym) := md.intern gwCfg.exchName
  { md with
    gwByKey := md.gwByKey.insert gwKeySym gwId
    gws := md.gws ++ [{ gwId, gwKeySym, exchNameSym,
                        cancelRequiredFields := gwCfg.cancelRequiredFields }] }

/-- One route of step 2.  A route to a gateway outside the config is skipped. -/
def addRoute (accountId : Int) (route : OmsRouteEntry) : MetadataTables :=
  let (md, gwKeySym) := md.intern route.gwKey
  match md.gwByKey.lookup gwKeySym with
  | none => md
  | some gwId =>
    let (md, exchAccountSym) := md.intern route.exchAccountId
    { md with
      routeByAccount := md.routeByAccount.insert accountId
        { accountId, gwId, gwKeySym, exchAccountSym } }

/-- `ensure_asset`: register an asset name once. -/
def ensureAsset (name : String) : MetadataTables :=
  if name = "" then md
  else
    let (md, sym) := md.intern name
    match md.assetBySymbol.lookup sym with
    | some _ => md
    | none =>
      let id := md.assets.length
      { md with
        assetBySymbol := md.assetBySymbol.insert sym id
        assets := md.assets ++ [{ assetId := id, assetSym := sym }] }

/-- The assets of one instrument, step 3. -/
def addAssets (refData : InstrumentRefData) : MetadataTables :=
  ((md.ensureAsset refData.baseAsset).ensureAsset refData.quoteAsset).ensureAsset
    refData.settlementAsset

/-- The symbol and the id of an asset that an instrument names; both absent for an empty name. -/
def assetRef (name : String) : MetadataTables × Option ℕ × Option ℕ :=
  if name = "" then (md, none, none)
  else
    let (md, sym) := md.intern name
    (md, md.assetBySymbol.lookup sym, some sym)

/-- The `(gateway, exchange symbol)` index of one instrument, for every gateway serving its
exchange. -/
def indexGwSymbols (config : ConfdataManager) (exchangeName : String) (exchSym instId : ℕ)
    (md : MetadataTables) : MetadataTables :=
  ((config.exchNameToGwKeys.lookup exchangeName.toUpper).getD []).foldl
    (fun md gwKey =>
      let (md, gkSym) := md.intern gwKey
      match md.gwByKey.lookup gkSym with
      | some gwId =>
        { md with instrumentByGwSymbol := md.instrumentByGwSymbol.insert (gwId, exchSym) instId }
      | none => md)
    md

/-- One instrument of step 4. -/
def addInstrument (config : ConfdataManager) (md : MetadataTables) (refData : InstrumentRefData) :
    MetadataTables :=
  let instId := md.instruments.length
  let (md, codeSym) := md.intern refData.instrumentId
  let (md, exchSym) := md.intern refData.instrumentIdExchange
  let (md, baseAssetId, baseAssetSym) := md.assetRef refData.baseAsset
  let (md, quoteAssetId, _) := md.assetRef refData.quoteAsset
  let (md, settlementAssetId, _) := md.assetRef refData.settlementAsset
  let md := { md with
    instrumentByCode := md.instrumentByCode.insert codeSym instId
    instruments := md.instruments ++
      [{ instrumentId := instId, instrumentCodeSym := codeSym, instrumentExchSym := exchSym,
         instrumentType := refData.instrumentType, baseAssetId, baseAssetSym, quoteAssetId,
         settlementAssetId, qtyPrecision := refData.qtyPrecision,
         pricePrecision := refData.pricePrecision }] }
  indexGwSymbols config refData.exchangeName exchSym instId md

/-- The trading flags of one instrument, step 5.  A config for an unknown instrument is dropped. -/
def addTrading (instrumentCode : String) (tc : InstrumentTradingConfig) : MetadataTables :=
  let (md, codeSym) := md.intern instrumentCode
  match md.instrumentByCode.lookup codeSym with
  | none => md
  | some instId =>
    { md with
      tradingByInstrument := md.tradingByInstrument.insert instId
        { instrumentId := instId, bookkeepingBalance := tc.bookkeepingBalance,
          balanceCheck := tc.balanceCheck, useMargin := tc.useMargin,
          marginRatio := tc.marginRatio, maxOrderSize := tc.maxOrderSize,
          publishBalanceOnTrade := tc.publishBalanceOnTrade,
          publishBalanceOnBook := tc.publishBalanceOnBook,
          publishBalanceOnCancel := tc.publishBalanceOnCancel } }

def fromConfdata (config : ConfdataManager) : MetadataTables :=
  let md := config.gwConfigs.entries.foldl (fun md e => md.addGw e.2) {}
  let md := config.accountRoutes.entries.foldl (fun md e => md.addRoute e.1 e.2) md
  let md := config.refdata.entries.foldl (fun md e => md.addAssets e.2) md
  let md := config.refdata.entries.foldl (fun md e => md.addInstrument config e.2) md
  config.tradingConfigs.entries.foldl (fun md e => md.addTrading e.1 e.2) md

/-! ## Rebuilding on a reload

The vectors and the intern table are kept, the lookup maps are rebuilt.  A key that the *previous*
maps know keeps its index; any other is appended.  The counters `next_gw_id`, `next_asset_id` and
`next_inst_id` of the source always equal the length of their vector. -/

/-- `v[i] = a`. -/
def setIndex {α : Type} (l : List α) (i : ℕ) (a : α) : Option (List α) :=
  if i < l.length then some (l.set i a) else none

/-- One gateway of a rebuild; the accumulator carries the new key map. -/
def rebuildGw (oldByKey : Dict ℕ ℕ) (acc : MetadataTables × Dict ℕ ℕ) (gwCfg : GwConfigEntry) :
    Option (MetadataTables × Dict ℕ ℕ) := do
  let (md, newByKey) := acc
  let (md, gwKeySym) := md.intern gwCfg.gwKey
  let (md, exchNameSym) := md.intern gwCfg.exchName
  let cancelRequiredFields := gwCfg.cancelRequiredFields
  match oldByKey.lookup gwKeySym with
  | some existingId =>
    let gws ← setIndex md.gws existingId
      { gwId := existingId, gwKeySym, exchNameSym, cancelRequiredFields }
    some ({ md with gws }, newByKey.insert gwKeySym existingId)
  | none =>
    let id := md.gws.length
    some ({ md with gws := md.gws ++ [{ gwId := id, gwKeySym, exchNameSym,
                                         cancelRequiredFields }] },
      newByKey.insert gwKeySym id)

def ensureAssetStable (oldMap : Dict ℕ ℕ) (name : String) (acc : MetadataTables × Dict ℕ ℕ) :
    Option (MetadataTables × Dict ℕ ℕ) := do
  let (md, newMap) := acc
  if name = "" then some (md, newMap)
  else
    let (md, sym) := md.intern name
    match newMap.lookup sym, oldMap.lookup sym with
    | some _, _ => some (md, newMap)
    | none, some existingId =>
      let assets ← setIndex md.assets existingId { assetId := existingId, assetSym := sym }
      some ({ md with assets }, newMap.insert sym existingId)
    | none, none =>
      let id := md.assets.length
      some ({ md with assets := md.assets ++ [{ assetId := id, assetSym := sym }] },
        newMap.insert sym id)

def rebuildAssets (oldMap : Dict ℕ ℕ) (acc : MetadataTables × Dict ℕ ℕ)
    (refData : InstrumentRefData) : Option (MetadataTables × Dict ℕ ℕ) := do
  let acc ← ensureAssetStable oldMap refData.baseAsset acc
  let acc ← ensureAssetStable oldMap refData.quoteAsset acc
  ensureAssetStable oldMap refData.settlementAsset acc

/-- One instrument of a rebuild; the accumulator carries the new code map. -/
def rebuildInstrument (config : ConfdataManager) (oldByCode : Dict ℕ ℕ)
    (acc : MetadataTables × Dict ℕ ℕ) (refData : InstrumentRefData) :
    Option (MetadataTables × Dict ℕ ℕ) := do
  let (md, newByCode) := acc
  let (md, codeSym) := md.intern refData.instrumentId
  let (md, exchSym) := md.intern refData.instrumentIdExchange
  let (md, baseAssetId, baseAssetSym) := md.assetRef refData.baseAsset
  let (md, quoteAssetId, _) := md.assetRef refData.quoteAsset
  let (md, settlementAssetId, _) := md.assetRef refData.settlementAsset
  let entry (id : ℕ) : InstrumentMeta :=
    { instrumentId := id, instrumentCodeSym := codeSym, instrumentExchSym := exchSym,
      instrumentType := refData.instrumentType, baseAssetId, baseAssetSym, quoteAssetId,
      settlementAssetId, qtyPrecision := refData.qtyPrecision,
      pricePrecision := refData.pricePrecision }
  match oldByCode.lookup codeSym with
  | some existingId =>
    let instruments ← setIndex md.instruments existingId (entry existingId)
    some (indexGwSymbols config refData.exchangeName exchSym existingId { md with instruments },
      newByCode.insert codeSym existingId)
  | none =>
    let id := md.instruments.length
    some (indexGwSymbols config refData.exchangeName exchSym id
        { md with instruments := md.instruments ++ [entry id] },
      newByCode.insert codeSym id)

def rebuildFromConfig (config : ConfdataManager) : Option MetadataTables := do
  let (md, gwByKey) ← config.gwConfigs.entries.foldlM
    (fun acc e => rebuildGw md.gwByKey acc e.2) (md, ∅)
  let md := { md with gwByKey, routeByAccount := ∅ }
  let md := config.accountRoutes.entries.foldl (fun md e => md.addRoute e.1 e.2) md
  let (md, assetBySymbol) ← config.refdata.entries.foldlM
    (fun acc e => rebuildAssets md.assetBySymbol acc e.2) (md, ∅)
  let md := { md with assetBySymbol, instrumentByGwSymbol := ∅ }
  let (md, instrumentByCode) ← config.refdata.entries.foldlM
    (fun acc e => rebuildInstrument config md.instrumentByCode acc e.2) (md, ∅)
  let md := { md with instrumentByCode, tradingByInstrument := ∅ }
  some (config.tradingConfigs.entries.foldl (fun md e => md.addTrading e.1 e.2) md)

/-! ## Lookups -/

/-- `resolve_instrument`: by OMS instrument code. -/
def resolveInstrument (instrumentCode : String) : Option InstrumentMeta := do
  let codeSym ← md.strings.lookup instrumentCode
  let instId ← md.instrumentByCode.lookup codeSym
  md.instruments[instId]?

/-- `resolve_instrument_by_gw`: by gateway and exchange symbol. -/
def resolveInstrumentByGw (gwId : ℕ) (exchSymbol : String) : Option InstrumentMeta := do
  let sym ← md.strings.lookup exchSymbol
  let instId ← md.instrumentByGwSymbol.lookup (gwId, sym)
  md.instruments[instId]?

def route (accountId : Int) : Option RouteMeta :=
  md.routeByAccount.lookup accountId

def trading (instrumentId : ℕ) : Option TradingMeta :=
  md.tradingByInstrument.lookup instrumentId

def gw (gwId : ℕ) : Option GwMeta := md.gws[gwId]?

def instrument (instrumentId : ℕ) : Option InstrumentMeta :=
  md.instruments[instrumentId]?

def asset (assetId : ℕ) : Option AssetMeta := md.assets[assetId]?

/-- `str_resolve`; it panics where this is `none`. -/
def strResolve (id : ℕ) : Option String := md.strings.resolve id

/-- The gateway a report names, if the config knows it. -/
def gwIdOfKey (gwKey : String) : Option ℕ := do
  let sym ← md.strings.lookup gwKey
  md.gwByKey.lookup sym

end MetadataTables

end Zkbot
