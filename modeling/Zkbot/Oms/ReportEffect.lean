import Zkbot.Oms.StoreFacts

/-!
# The effect of a report on its order

What a report does to an order, without the store around it.  A `ReportEffect` is the part of the
order that reports write (status, cumulative fill, terminal time) together with the fills the
report has produced so far; `ReportEffect.entry` is one entry, `reportEffect` a whole report.

The entry loop of the model refines this: `Tracks` relates the two records of an order to an
effect, `processEntry_tracks` shows that one turn of the loop follows one step of the effect, and
`foldlM_processEntry_tracks` that the loop follows the report.  The later modules argue about
effects and never unfold the loop.
-/

namespace Zkbot

open List AList OmsCoreV2

variable {l₀ l : LiveOrder} {d : OrderDetailLog} {md : MetadataTables} {os : OrderStoreV2}
  {ts : Int}

open OrderStoreV2

variable {d₀ : OrderDetailLog}

open OrderStoreV2 (SameBut promoted)

/-! ## Effects -/

/-- What a report has done to its order so far. -/
structure ReportEffect where
  /-- some entry updated the order -/
  updated : Bool
  status : OrderStatus
  filledQty : ℚ
  /-- quantities of the trades the report's entries added -/
  tradeFills : List ℚ
  /-- quantities of the trades inferred from its state entries -/
  inferredFills : List ℚ
  terminalAt : Option Int

open ReportEffect

def statusAfter (σ : OrderStatus) (x : ExchangeOrderStatus) : OrderStatus :=
  if canUpdateStatus σ (mapOrderStatus x) then mapOrderStatus x else σ

/-- The cumulative fill after a state entry: it never falls, and zero announces nothing. -/
def filledAfter (filled : ℚ) (announced : Option ℚ) : ℚ :=
  (announced.filter (· ≠ 0)).elim filled fun nf => max nf filled

/-- The trades inferred from a fill increment: one, unless the increment is negligible. -/
def inferredFrom (increment : ℚ) : List ℚ :=
  if increment > fillTolerance then [increment] else []

namespace ReportEffect

def start (live : LiveOrder) : ReportEffect :=
  { updated := false, status := live.orderStatus, filledQty := live.filledQty, tradeFills := [],
    inferredFills := [], terminalAt := live.terminalAt }

def entry (qty : ℚ) (ts : Int) (linkageOnly : Bool) (v : ReportEffect) (e : OrderReportEntry) :
    ReportEffect :=
  match e.acted with
  | none => v
  | some (.orderIdLinkageReport _) =>
    if linkageOnly then { v with updated := true, status := promoted v.status } else v
  | some (.orderStateReport r) =>
    { v with
      updated := true
      status := statusAfter v.status r.exchOrderStatus
      filledQty := filledAfter v.filledQty (r.announced qty)
      inferredFills := v.inferredFills ++
        inferredFrom (filledAfter v.filledQty (r.announced qty) - v.filledQty) }
  | some (.tradeReport t) =>
    { v with updated := true, tradeFills := v.tradeFills ++ [t.filledQty] }
  | some (.execReport r) =>
    match omsExecType r.execType with
    | .placingOrder =>
      { v with updated := true, status := .rejected,
               terminalAt := some (v.terminalAt.getD ts) }
    | .cancel => { v with updated := true }
    | .unspecified => v
  | some (.feeReport _) => { v with updated := true }

def fills (v : ReportEffect) : List ℚ := v.tradeFills ++ v.inferredFills

/-- The end of the entry loop: an updated order that is terminal gets its terminal time. -/
def finish (ts : Int) (v : ReportEffect) : ReportEffect :=
  if v.updated && v.status.isTerminal then { v with terminalAt := some (v.terminalAt.getD ts) }
  else v

end ReportEffect

def reportEffect (live : LiveOrder) (report : OrderReport) : ReportEffect :=
  ((loopEntries live report).foldl (entry live.qty report.updateTimestamp (linkageOnly live report))
    (start live)).finish report.updateTimestamp

/-- Whether a report closes its order: some entry updated it, and it ends up terminal. -/
def closes (live : LiveOrder) (report : OrderReport) : Bool :=
  (reportEffect live report).updated && (reportEffect live report).status.isTerminal

namespace ReportEffect

section

variable (qty : ℚ) (ts : Int) (lo : Bool) {v : ReportEffect}

/-- An entry either marks the order as updated or does nothing at all. -/
lemma entry_updated_or_eq (v : ReportEffect) (e : OrderReportEntry) :
    (v.entry qty ts lo e).updated = true ∨ v.entry qty ts lo e = v := by
  simp only [entry]
  split
  · exact .inr rfl
  · split_ifs
    · exact .inl rfl
    · exact .inr rfl
  · exact .inl rfl
  · exact .inl rfl
  · split
    · exact .inl rfl
    · exact .inl rfl
    · exact .inr rfl
  · exact .inl rfl

lemma foldl_entry_updated (es : List OrderReportEntry) (h : v.updated = true) :
    (es.foldl (entry qty ts lo) v).updated = true := by
  induction es generalizing v with
  | nil => exact h
  | cons e es ih =>
    apply ih
    rcases entry_updated_or_eq qty ts lo v e with he | he
    · exact he
    · rw [he]
      exact h

lemma foldl_entry_of_not_updated (es : List OrderReportEntry)
    (h : (es.foldl (entry qty ts lo) v).updated = false) : es.foldl (entry qty ts lo) v = v := by
  induction es generalizing v with
  | nil => rfl
  | cons e es ih =>
    rcases entry_updated_or_eq qty ts lo v e with he | he
    · have := foldl_entry_updated qty ts lo es he
      rw [foldl_cons, this] at h
      cases h
    · rw [foldl_cons, he] at h ⊢
      exact ih h

end

variable (ts : Int) (v : ReportEffect)

@[simp] lemma finish_updated : (v.finish ts).updated = v.updated := by
  simp only [finish]
  split_ifs <;> rfl

@[simp] lemma finish_status : (v.finish ts).status = v.status := by
  simp only [finish]
  split_ifs <;> rfl

@[simp] lemma finish_filledQty : (v.finish ts).filledQty = v.filledQty := by
  simp only [finish]
  split_ifs <;> rfl

@[simp] lemma finish_tradeFills : (v.finish ts).tradeFills = v.tradeFills := by
  simp only [finish]
  split_ifs <;> rfl

@[simp] lemma finish_inferredFills : (v.finish ts).inferredFills = v.inferredFills := by
  simp only [finish]
  split_ifs <;> rfl

end ReportEffect

/-! ## The loop follows the effect -/

/-- The records `l`, `d`, reached from `l₀`, `d₀`, agree with the effect `v`. -/
structure Follows (l₀ : LiveOrder) (d₀ : OrderDetailLog) (v : ReportEffect) (l : LiveOrder)
    (d : OrderDetailLog) : Prop where
  terms : l.terms = l₀.terms
  status : l.orderStatus = v.status
  filledQty : l.filledQty = v.filledQty
  terminalAt : l.terminalAt = v.terminalAt
  accQty : l.accTradesFilledQty = l₀.accTradesFilledQty + v.tradeFills.sum
  trades : d.trades.map (·.filledQty) = d₀.trades.map (·.filledQty) ++ v.tradeFills
  kept : d₀.trades <+: d.trades
  inferred :
    d.inferredTrades.map (·.filledQty) = d₀.inferredTrades.map (·.filledQty) ++ v.inferredFills
  requests : d.lastGwReq = d₀.lastGwReq ∧ d.cancelReq = d₀.cancelReq

variable {v : ReportEffect}

lemma Follows.trades_eq (h : Follows l₀ d₀ v l d) (hno : v.tradeFills = []) :
    d.trades = d₀.trades := by
  have hlen := congrArg List.length h.trades
  rw [hno, append_nil, length_map, length_map] at hlen
  exact (h.kept.eq_of_length hlen.symm).symm

/-- Inside the loop the flags agree with the effect too. -/
structure Tracks (ts : Int) (l₀ : LiveOrder) (d₀ : OrderDetailLog) (v : ReportEffect)
    (l : LiveOrder) (d : OrderDetailLog) (fl : ReportFlags) : Prop extends Follows l₀ d₀ v l d where
  updatedAt : l.updatedAt = ts
  updated : fl.originalOrderUpdated = v.updated
  newTrade : fl.newTrade = !v.tradeFills.isEmpty
  newOmsTrade : fl.newOmsTrade = !v.inferredFills.isEmpty

lemma Tracks.start (ts : Int) (l : LiveOrder) (d : OrderDetailLog) :
    Tracks ts l d (start l) { l with updatedAt := ts } d {} where
  terms := rfl
  status := rfl
  filledQty := rfl
  terminalAt := rfl
  accQty := (add_zero _).symm
  trades := (append_nil _).symm
  kept := prefix_rfl
  inferred := (append_nil _).symm
  requests := ⟨rfl, rfl⟩
  updatedAt := rfl
  updated := rfl
  newTrade := rfl
  newOmsTrade := rfl

/-! ### One lemma for each kind of entry -/

section Entries

variable {ts : Int} {l₀ l : LiveOrder} {d₀ d : OrderDetailLog} {v : ReportEffect} {fl : ReportFlags}

lemma applyStateReport_detail (l : LiveOrder) (d : OrderDetailLog) (a : Option ℚ) (avg : ℚ)
    (x : ExchangeOrderStatus) (ts : Int) :
    ∃ inferred, (applyStateReport l d a avg x ts).2 =
        { d with inferredTrades := d.inferredTrades ++ inferred } ∧
      inferred.map (·.filledQty) = inferredFrom (filledAfter l.filledQty a - l.filledQty) := by
  by_cases h : filledAfter l.filledQty a - l.filledQty > fillTolerance
  · have h' := h
    simp only [filledAfter] at h'
    simp only [applyStateReport, inferredFrom, if_pos h, if_pos h']
    exact ⟨_, rfl, rfl⟩
  · have h' := h
    simp only [filledAfter] at h'
    simp only [applyStateReport, inferredFrom, if_neg h, if_neg h']
    exact ⟨[], by rw [append_nil], rfl⟩

lemma isEmpty_append_inferredFrom (xs : List ℚ) (q : ℚ) (n : ℕ) :
    (!xs.isEmpty || decide (n + (inferredFrom q).length > n)) =
      !(xs ++ inferredFrom q).isEmpty := by
  simp only [inferredFrom]
  split_ifs <;> simp

variable (ht : Tracks ts l₀ d₀ v l d fl)
include ht

lemma Tracks.state (r : OrderStateReport) :
    Tracks ts l₀ d₀
      { v with
        updated := true
        status := statusAfter v.status r.exchOrderStatus
        filledQty := filledAfter v.filledQty (r.announced l₀.qty)
        inferredFills := v.inferredFills ++
          inferredFrom (filledAfter v.filledQty (r.announced l₀.qty) - v.filledQty) }
      (applyStateReport l d (r.announced l.qty) r.avgPrice r.exchOrderStatus ts).1
      (applyStateReport l d (r.announced l.qty) r.avgPrice r.exchOrderStatus ts).2
      { fl with
        originalOrderUpdated := true
        newOmsTrade := fl.newOmsTrade || decide
          ((applyStateReport l d (r.announced l.qty) r.avgPrice r.exchOrderStatus
            ts).2.inferredTrades.length > d.inferredTrades.length) } := by
  obtain ⟨inferred, hd, hinf⟩ := applyStateReport_detail l d (r.announced l.qty) r.avgPrice
    r.exchOrderStatus ts
  -- the number of new inferred trades, through the list of their quantities
  have hlen := congrArg List.length hinf
  rw [length_map] at hlen
  rw [hd, ← LiveOrder.qty_of_terms ht.terms, ← ht.filledQty]
  refine { ht with status := ?_, filledQty := rfl, inferred := ?_, updated := rfl
                   newOmsTrade := ?_ }
  · exact congrArg (statusAfter · r.exchOrderStatus) ht.status
  · rw [map_append, hinf, ht.inferred, append_assoc]
  · rw [length_append, hlen, ht.newOmsTrade]
    exact isEmpty_append_inferredFrom _ _ _

lemma Tracks.trade (t : Trade) :
    Tracks ts l₀ d₀ { v with updated := true, tradeFills := v.tradeFills ++ [t.filledQty] }
      (applyTradeReport l d t).1 (applyTradeReport l d t).2
      { fl with newTrade := true, originalOrderUpdated := true } := by
  refine { ht with accQty := ?_, trades := ?_, kept := ?_, updated := rfl, newTrade := ?_ }
  · show l.accTradesFilledQty + t.filledQty = _
    rw [ht.accQty, sum_append, sum_singleton, add_assoc]
  · show (d.trades ++ [t]).map _ = _
    rw [map_append, ht.trades, append_assoc]
    rfl
  · exact ht.kept.trans (prefix_append _ _)
  · show true = !(v.tradeFills ++ [t.filledQty]).isEmpty
    simp

lemma Tracks.reject (msg : String) (rej : Rejection) :
    Tracks ts l₀ d₀
      { v with updated := true, status := .rejected, terminalAt := some (v.terminalAt.getD ts) }
      (applyOmsError l d msg ts .placingOrder rej).1
      (applyOmsError l d msg ts .placingOrder rej).2
      { fl with newExecMsg := true, originalOrderUpdated := true } := by
  refine { ht with status := rfl, terminalAt := ?_, updatedAt := rfl, updated := rfl }
  show some (l.terminalAt.getD ts) = some (v.terminalAt.getD ts)
  rw [ht.terminalAt]

/-- A cancel that was rejected, and a fee, leave no mark but the update itself. -/
lemma Tracks.touch (d' : OrderDetailLog) (fl' : ReportFlags) (htr : d'.trades = d.trades)
    (hinf : d'.inferredTrades = d.inferredTrades)
    (hreq : d'.lastGwReq = d.lastGwReq ∧ d'.cancelReq = d.cancelReq) (hfl : fl'.originalOrderUpdated = true)
    (hnt : fl'.newTrade = fl.newTrade) (hno : fl'.newOmsTrade = fl.newOmsTrade) :
    Tracks ts l₀ d₀ { v with updated := true } l d' fl' :=
  { ht with
    trades := by rw [htr]; exact ht.trades
    kept := by rw [htr]; exact ht.kept
    inferred := by rw [hinf]; exact ht.inferred
    requests := by rw [hreq.1, hreq.2]; exact ht.requests
    updated := hfl
    newTrade := hnt.trans ht.newTrade
    newOmsTrade := hno.trans ht.newOmsTrade }

end Entries

lemma tradeOf_filledQty {t : TradeReport} {trade : Trade}
    (h : tradeOf md os l t ts = some trade) : trade.filledQty = t.filledQty := by
  simp only [tradeOf, bind_eq_some] at h
  obtain ⟨_, -, _, -, h⟩ := h
  cases h
  rfl

/-- **One turn of the loop follows one step of the effect**, and changes no other order. -/
lemma processEntry_tracks {id : Int} {gwId : ℕ} {lo : Bool} {os' : OrderStoreV2}
    {fl fl' : ReportFlags} {e : OrderReportEntry} (hl : os.live.lookup id = some l)
    (hd : os.detail.lookup id = some d) (ht : Tracks ts l₀ d₀ v l d fl)
    (h : processEntry md id gwId ts lo (os, fl) e = some (os', fl')) :
    ∃ l' d', os'.live.lookup id = some l' ∧ os'.detail.lookup id = some d' ∧
      Tracks ts l₀ d₀ (v.entry l₀.qty ts lo e) l' d' fl' ∧ SameBut id os os' := by
  simp only [processEntry] at h
  cases ha : e.acted with
  | none =>
    rw [ha] at h
    cases h
    exact ⟨l, d, hl, hd, by simpa only [entry, ha] using ht, .refl id os⟩
  | some r =>
    rw [ha] at h
    simp only [entry, ha]
    cases r with
    | orderIdLinkageReport linkage =>
      have hl' := registerExchRef_live hl gwId linkage.exchOrderRef
      have hsame := sameBut_registerExchRef os id gwId linkage.exchOrderRef
      cases lo with
      | false =>
        cases h
        exact ⟨_, d, hl', hd, { ht with }, hsame⟩
      | true =>
        cases h
        refine ⟨_, d, applyLinkagePromotion_live hl', hd, ?_,
          hsame.trans (sameBut_applyLinkagePromotion _ id)⟩
        exact { ht with status := congrArg promoted ht.status, updated := rfl }
    | orderStateReport r =>
      simp only [hd, updateLiveAndDetail_eq hl hd, some_bind, lookup_insert,
        Option.some.injEq, Prod.mk.injEq] at h
      obtain ⟨rfl, rfl⟩ := h
      exact ⟨_, _, lookup_insert _, lookup_insert _, ht.state r, sameBut_setBoth os id _ _⟩
    | tradeReport t =>
      simp only [hl, some_bind, bind_eq_some] at h
      obtain ⟨trade, htrade, os₁, hos₁, h⟩ := h
      rw [updateLiveAndDetail_eq hl hd] at hos₁
      cases hos₁
      cases h
      have ht' := ht.trade trade
      rw [tradeOf_filledQty htrade] at ht'
      exact ⟨_, _, lookup_insert _, lookup_insert _, ht', sameBut_setBoth os id _ _⟩
    | execReport r =>
      cases hx : omsExecType r.execType with
      | unspecified =>
        simp only [hx, ne_eq, not_true_eq_false, if_false] at h ⊢
        cases h
        exact ⟨l, d, hl, hd, ht, .refl id os⟩
      | cancel =>
        simp only [hx, ne_eq, reduceCtorEq, not_false_eq_true, if_true,
          updateLiveAndDetail_eq hl hd, some_bind] at h
        cases h
        simp only [hx]
        exact ⟨l, _, lookup_insert _, lookup_insert _,
          ht.touch _ _ rfl rfl ⟨rfl, rfl⟩ rfl rfl rfl, sameBut_setBoth os id _ _⟩
      | placingOrder =>
        simp only [hx, ne_eq, reduceCtorEq, not_false_eq_true, if_true,
          updateLiveAndDetail_eq hl hd, some_bind] at h
        cases h
        simp only [hx]
        exact ⟨_, _, lookup_insert _, lookup_insert _, ht.reject _ _, sameBut_setBoth os id _ _⟩
    | feeReport f =>
      simp only [hl, hd, some_bind] at h
      cases h
      exact ⟨l, _, hl, lookup_insert _, ht.touch _ _ rfl rfl ⟨rfl, rfl⟩ rfl rfl rfl,
        sameBut_setDetail os id _⟩

lemma foldlM_processEntry_tracks {id : Int} {gwId : ℕ} {lo : Bool} (es : List OrderReportEntry) :
    ∀ {v : ReportEffect} {os os' : OrderStoreV2} {l : LiveOrder} {d : OrderDetailLog}
      {fl fl' : ReportFlags},
      os.live.lookup id = some l → os.detail.lookup id = some d → Tracks ts l₀ d₀ v l d fl →
      es.foldlM (processEntry md id gwId ts lo) (os, fl) = some (os', fl') →
      ∃ l' d', os'.live.lookup id = some l' ∧ os'.detail.lookup id = some d' ∧
        Tracks ts l₀ d₀ (es.foldl (entry l₀.qty ts lo) v) l' d' fl' ∧
        SameBut id os os' := by
  induction es with
  | nil =>
    intro v os os' l d fl fl' hl hd ht h
    cases h
    exact ⟨l, d, hl, hd, ht, .refl id os⟩
  | cons e es ih =>
    intro v os os' l d fl fl' hl hd ht h
    rw [foldlM_cons, bind_eq_some] at h
    obtain ⟨⟨os₁, fl₁⟩, h₁, h₂⟩ := h
    obtain ⟨l₁, d₁, hl₁, hd₁, ht₁, hs₁⟩ := processEntry_tracks hl hd ht h₁
    obtain ⟨l₂, d₂, hl₂, hd₂, ht₂, hs₂⟩ := ih hl₁ hd₁ ht₁ h₂
    exact ⟨l₂, d₂, hl₂, hd₂, ht₂, hs₁.trans hs₂⟩

end Zkbot
