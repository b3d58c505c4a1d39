import Mathlib.Data.Rat.Defs

/-!
# Messages of the OMS

The protobuf messages and enumerations the OMS core reads and writes, from
`protos/zk/{common,exch_gw,gateway,oms,ods}/v1`.  Enumerations are inductive types: a wire value
outside the enumeration decodes to the `unspecified` constructor, which is what every
`try_from(..).unwrap_or(..)` of the source does with it.  Quantities and prices are read as exact
rationals, timestamps and ids as integers.

Fields that no function of the core reads are left out.
-/

namespace Zkbot

/-! ## `zk.common.v1` -/

inductive InstrumentType where
  | unspecified | spot | perp | future | cfd | option | etf | stock
  deriving DecidableEq, Inhabited

inductive BuySellType where
  | unspecified | buy | sell
  deriving DecidableEq, Inhabited

inductive OpenCloseType where
  | unspecified | opening | closing
  deriving DecidableEq, Inhabited

inductive LongShortType where
  | unspecified | long | short
  deriving DecidableEq, Inhabited

inductive BasicOrderType where
  | unspecified | limit | market
  deriving DecidableEq, Inhabited

inductive TimeInForceType where
  | unspecified | ioc | fak | gtc | fok
  deriving DecidableEq, Inhabited

inductive FillType where
  | unspecified | taker | maker | backfill
  deriving DecidableEq, Inhabited

inductive FeeType where
  | unspecified | exch | funding | tax | gas | interest
  deriving DecidableEq, Inhabited

inductive RejectionSource where
  | unspecified | exchReject | exchGwReject | omsReject
  deriving DecidableEq, Inhabited

inductive RejectionReason where
  | unspecified | insufficientFunds | invalidOrderType | omsInternalError | gwInternalError
  | priceOutOfRange | qtyOutOfRange | networkError | omsInvalidState | exchReject
  deriving DecidableEq, Inhabited

structure Rejection where
  source : RejectionSource := .unspecified
  recoverable : Bool := false
  reason : RejectionReason := .unspecified
  errorCode : Int := 0
  errorMessage : String := ""
  deriving DecidableEq, Inhabited

/-- `ExtraData`: a string map carried through to the venue. -/
abbrev ExtraData := List (String × String)

structure InstrumentRefData where
  instrumentId : String
  instrumentIdExchange : String
  exchangeName : String
  instrumentType : InstrumentType
  baseAsset : String
  quoteAsset : String
  settlementAsset : String
  pricePrecision : Int
  qtyPrecision : Int
  disabled : Bool := false
  deriving DecidableEq

/-! ## `zk.ods.v1` -/

structure OmsRouteEntry where
  accountId : Int
  exchAccountId : String
  gwKey : String
  deriving DecidableEq

structure GwConfigEntry where
  exchName : String
  gwKey : String
  cancelRequiredFields : List String := []
  deriving DecidableEq

/-! ## `zk.exch_gw.v1` -/

inductive OrderReportType where
  | unspecified | trade | state | fee | linkage | exec
  deriving DecidableEq, Inhabited

inductive ExchangeOrderStatus where
  | unspecified | booked | partialFilled | filled | cancelled | exchRejected | expired
  deriving DecidableEq, Inhabited

inductive ExchExecType where
  | unspecified | rejected | cancelReject | replaced | restated
  deriving DecidableEq, Inhabited

inductive OrderSourceType where
  | unspecified | tq | nonTq | unknown
  deriving DecidableEq, Inhabited

structure ExchErrorInfo where
  errorCode : Int
  errorMessage : String
  deriving DecidableEq

structure OrderIdLinkageReport where
  exchOrderRef : String
  orderId : Int := 0
  deriving DecidableEq

structure OrderStateReport where
  exchOrderStatus : ExchangeOrderStatus
  filledQty : ℚ
  unfilledQty : ℚ := 0
  avgPrice : ℚ := 0
  deriving DecidableEq

structure TradeReport where
  exchTradeId : String := ""
  filledQty : ℚ
  filledPrice : ℚ
  fillType : FillType := .unspecified
  exchPnl : ℚ := 0
  deriving DecidableEq

structure FeeReport where
  feeQty : ℚ
  feeSymbol : String
  feeType : FeeType := .unspecified
  deriving DecidableEq

structure ExecReport where
  execType : ExchExecType
  execMessage : String := ""
  errorInfo : Option ExchErrorInfo := none
  rejectionInfo : Option Rejection := none
  deriving DecidableEq

/-- The `oneof report` of an entry. -/
inductive Report where
  | tradeReport (t : TradeReport)
  | orderStateReport (s : OrderStateReport)
  | orderIdLinkageReport (l : OrderIdLinkageReport)
  | feeReport (f : FeeReport)
  | execReport (e : ExecReport)
  deriving DecidableEq

/-- One entry of a report.  On the wire the type tag and the payload are independent: the core
acts on an entry only where the two agree, but `inferStateFromTrades` looks at payloads alone. -/
structure OrderReportEntry where
  reportType : OrderReportType
  report : Option Report
  deriving DecidableEq

structure OrderReport where
  exchOrderRef : String
  orderId : Int
  exchange : String
  orderReportEntries : List OrderReportEntry
  accountId : Int := 0
  orderSourceType : OrderSourceType := .unspecified
  updateTimestamp : Int
  deriving DecidableEq

structure PositionReport where
  instrumentCode : String
  instrumentType : InstrumentType
  longShortType : LongShortType
  exchAccountCode : String
  qty : ℚ
  availQty : ℚ
  updateTimestamp : Int
  messageRaw : String := ""
  deriving DecidableEq

/-- `BalanceUpdate`: the balances and positions of one venue account. -/
structure BalanceUpdate where
  balances : List PositionReport
  deriving DecidableEq

/-! ## `zk.gateway.v1` -/

structure SendOrderRequest where
  correlationId : Int
  exchAccountId : String
  instrument : String
  buysellType : BuySellType
  opencloseType : OpenCloseType
  orderType : BasicOrderType
  scaledPrice : ℚ
  scaledQty : ℚ
  timestamp : Int
  exchSpecificParams : Option ExtraData
  timeInforceType : TimeInForceType
  deriving DecidableEq

structure CancelOrderRequest where
  exchOrderRef : String
  orderId : Int
  timestamp : Int
  deriving DecidableEq

/-- `SendOrderRequest::default()`. -/
def SendOrderRequest.empty : SendOrderRequest :=
  { correlationId := 0, exchAccountId := "", instrument := "", buysellType := .unspecified,
    opencloseType := .unspecified, orderType := .unspecified, scaledPrice := 0, scaledQty := 0,
    timestamp := 0, exchSpecificParams := none, timeInforceType := .unspecified }

/-- `CancelOrderRequest::default()`. -/
def CancelOrderRequest.empty : CancelOrderRequest :=
  { exchOrderRef := "", orderId := 0, timestamp := 0 }

/-! ## `zk.oms.v1` -/

inductive OrderStatus where
  | unspecified | pending | booked | partiallyFilled | filled | cancelled | rejected
  deriving DecidableEq, Inhabited

inductive ExecType where
  | unspecified | cancel | placingOrder
  deriving DecidableEq, Inhabited

structure OrderRequest where
  orderId : Int
  accountId : Int
  instrumentCode : String
  buySellType : BuySellType
  openCloseType : OpenCloseType := .unspecified
  orderType : BasicOrderType := .unspecified
  price : ℚ
  qty : ℚ
  sourceId : String := ""
  timestamp : Int := 0
  extraProperties : Option ExtraData := none
  timeInforceType : TimeInForceType := .unspecified
  deriving DecidableEq

structure OrderCancelRequest where
  orderId : Int
  timestamp : Int := 0
  deriving DecidableEq

structure Fee where
  orderId : Int
  feeSymbol : String
  feeAmount : ℚ
  feeType : FeeType
  feeTs : Int
  deriving DecidableEq

structure Trade where
  orderId : Int
  extOrderRef : String := ""
  extTradeId : String
  filledQty : ℚ
  filledPrice : ℚ
  filledTs : Int
  buySellType : BuySellType := .unspecified
  instrument : String := ""
  accountId : Int := 0
  fillType : FillType := .unspecified
  exchPnl : ℚ := 0
  deriving DecidableEq

structure ExecMessage where
  orderId : Int
  timestamp : Int
  execType : ExecType
  execSuccess : Bool
  errorMsg : String
  rejectionInfo : Option Rejection
  deriving DecidableEq

structure Balance where
  accountId : Int := 0
  asset : String := ""
  totalQty : ℚ := 0
  frozenQty : ℚ := 0
  availQty : ℚ := 0
  syncTimestamp : Int := 0
  updateTimestamp : Int := 0
  isFromExch : Bool := false
  exchDataRaw : String := ""
  deriving DecidableEq, Inhabited

structure Position where
  accountId : Int := 0
  instrumentCode : String := ""
  longShortType : LongShortType := .unspecified
  instrumentType : InstrumentType := .unspecified
  totalQty : ℚ := 0
  frozenQty : ℚ := 0
  availQty : ℚ := 0
  syncTimestamp : Int := 0
  updateTimestamp : Int := 0
  deriving DecidableEq, Inhabited

/-- `Order`: the published state of an order. -/
structure Order where
  orderId : Int
  exchOrderRef : String
  snapshotVersion : Nat
  instrument : String
  buySellType : BuySellType
  openCloseType : OpenCloseType
  price : ℚ
  qty : ℚ
  filledQty : ℚ
  filledAvgPrice : ℚ
  errorMsg : String
  sourceId : String
  createdAt : Int
  updatedAt : Int
  orderStatus : OrderStatus
  gwKey : String
  instrumentExch : String
  accountId : Int
  deriving DecidableEq

end Zkbot
