import Zkbot.Oms.Departures
import Zkbot.Oms.Routing

/-!
# Orders that leave the core

An order that is sent to a gateway has passed validation, the panic set, routing, the size check and
the truncation of its quantity.  The writer reads the request that goes out from the store when the
whole message is done, so an order that leaves is judged in the state that `process_message`
returns.

* `Admissible` — what these checks promise of an order that is sent, read against the config in
  force.
* `KeepsSends` — the messages after which it holds of every order that they send.  The quantity of a
  request must not be truncated to zero: validation looks at it before it is truncated, and nothing
  looks at it afterwards.  In a batch a later request can spoil what an earlier one has sent: it can
  record the same id as rejected, or for another gateway, and closing its order can push the other
  one out of the store (`Spoils`).
* `sends_admissible_iff` — these are exactly the messages whose sends are admissible, in every run.
-/

namespace Zkbot

open List Option AList OmsEvent Sample

open MetadataTables (Reflects)

/-! ## What is left of a quantity -/

/-- Truncation leaves something of a quantity of at least one unit of the last place. -/
lemma roundToPrecision_pos_iff (val : ℚ) (precision : Int) :
    0 < roundToPrecision val precision ↔ 1 ≤ val * 10 ^ precision := by
  have hf : (0 : ℚ) < 10 ^ precision := zpow_pos (by norm_num) precision
  show 0 < (⌊val * 10 ^ precision⌋ : ℚ) / 10 ^ precision ↔ _
  rw [div_pos_iff_of_pos_right hf, Int.cast_pos, Int.floor_pos]

namespace OmsCoreV2

variable {s s' : OmsCoreV2} {now : Int} {req : OrderRequest} {om : ResolvedOrderMeta}
  {actions : List OmsActionV2} {config : ConfdataManager} {gwReq : SendOrderRequest} {sym : ℕ}

/-! ## What is promised of an order that is sent -/

/-- An order as it is sent: `l` and `d` are its records, `req` the request it was placed by and
`gwReq` the request that goes to gateway `gwId`. -/
structure Admissible (config : ConfdataManager) (s : OmsCoreV2) (gwId : ℕ) (orderId : Int)
    (l : LiveOrder) (d : OrderDetailLog) (req : OrderRequest) (gwReq : SendOrderRequest) :
    Prop where
  live : s.orders.live.lookup orderId = some l
  detail : s.orders.detail.lookup orderId = some d
  originalReq : d.originalReq = some req
  lastGwReq : d.lastGwReq = some gwReq
  notPanicking : l.accountId ∉ s.panicAccounts
  pending : l.orderStatus = .pending
  positive : 0 < gwReq.scaledQty
  notMore : gwReq.scaledQty ≤ req.qty
  /-- the limit that the config sets for the instrument -/
  limited : s.riskCheckEnabled = true → ∀ tc limit,
    config.tradingConfigs.lookup req.instrumentCode = some tc → tc.maxOrderSize = some limit →
      gwReq.scaledQty ≤ limit
  /-- the gateway of the account's route, which is the one that the config names -/
  routed : ∃ rt, s.metadata.route l.accountId = some rt ∧ rt.gwId = gwId ∧
    ∃ route, config.accountRoutes.lookup l.accountId = some route ∧
      s.metadata.gwIdOfKey route.gwKey = some gwId

/-- An order that leaves for a gateway is as it should be. -/
def Sendable (config : ConfdataManager) (s : OmsCoreV2) (send : ℕ × Int) : Prop :=
  ∃ l d req gwReq, Admissible config s send.1 send.2 l d req gwReq

/-- The actions send the order to the gateway. -/
def Sends (actions : List OmsActionV2) (send : ℕ × Int) : Prop :=
  ∃ ts, .sendOrderToGw send.1 send.2 ts ∈ actions

/-- The request goes through to the gateway, and asks for at least one unit of the last place that
the venue takes. -/
def SendsTo (s : OmsCoreV2) (req : OrderRequest) (gwId : ℕ) : Prop :=
  s.refuses req = false ∧ (s.metadata.route req.accountId).map (·.gwId) = some gwId ∧
    ∀ inst ∈ s.metadata.resolveInstrument req.instrumentCode, 0 < inst.qtyPrecision →
      1 ≤ req.qty * 10 ^ inst.qtyPrecision
deriving Decidable

/-- The request pushes the order out of the store, or records its id other than as a good send to
that gateway. -/
def Spoils (s : OmsCoreV2) (now : Int) (req : OrderRequest) (send : ℕ × Int) : Prop :=
  s.evicts (.place now req) = some send.2 ∨
    s.admits req ∧ req.orderId = send.2 ∧ ¬ s.SendsTo req send.1
deriving Decidable

/-- What has been sent after one more request. -/
def sentBy (s : OmsCoreV2) (sent : List (ℕ × Int)) (req : OrderRequest) : List (ℕ × Int) :=
  if s.admits req ∧ s.refuses req = false then
    ((s.metadata.route req.accountId).map fun route => (route.gwId, req.orderId)).toList ++ sent
  else sent

/-- A batch of placements in which no request spoils what the batch has sent so far, its own order
included, unless a later request records the order again. -/
def StaysSent (now : Int) (s : OmsCoreV2) (sent : List (ℕ × Int)) : List OrderRequest → Prop
  | [] => True
  | req :: reqs =>
    (∀ send ∈ s.sentBy sent req, s.Spoils now req send → s.Places reqs send.2) ∧
      ∀ s' ∈ s.step (.place now req), StaysSent now s' (s.sentBy sent req) reqs

instance decidableStaysSent (now : Int) (s : OmsCoreV2) (sent : List (ℕ × Int)) :
    (reqs : List OrderRequest) → Decidable (StaysSent now s sent reqs)
  | [] => .isTrue trivial
  | req :: reqs =>
    have : ∀ s' sent', Decidable (StaysSent now s' sent' reqs) :=
      fun s' sent' => decidableStaysSent now s' sent' reqs
    inferInstanceAs (Decidable (_ ∧ ∀ s' ∈ s.step (.place now req), _))

/-- The messages after which every order that they send is as it should be. -/
def KeepsSends (s : OmsCoreV2) (now : Int) : OmsMessage → Prop
  | .placeOrder req => StaysSent now s [] [req]
  | .batchPlaceOrders reqs => StaysSent now s [] reqs
  | _ => True

/-! ## One request -/

/-- Something is left of the quantity of a valid request if it asks for enough. -/
lemma scaledQty_pos_iff (hqty : 0 < req.qty) :
    0 < scaledQty req om ↔ (0 < om.qtyPrecision → 1 ≤ req.qty * 10 ^ om.qtyPrecision) := by
  rw [scaledQty]
  split_ifs with hp
  · rw [roundToPrecision_pos_iff]
    exact ⟨fun h _ => h, fun h => h hp⟩
  · exact ⟨fun _ h => absurd h hp, fun _ => hqty⟩

lemma qty_le_limit (hrefl : Reflects config s.metadata) (hom : s.resolveOrderMeta req = .ok om)
    (hrisk : s.riskCheck req om = .ok ()) (hon : s.riskCheckEnabled = true)
    {tc : InstrumentTradingConfig} {limit : ℚ}
    (htc : config.tradingConfigs.lookup req.instrumentCode = some tc)
    (hlimit : tc.maxOrderSize = some limit) : req.qty ≤ limit := by
  obtain ⟨route, inst, hres⟩ := resolveOrderMeta_ok hom
  have hinst := hres.instrument
  have hmax := hres.maxOrderSize
  obtain ⟨sym, hsym, hlim⟩ := hrefl.limits _ _ htc
  simp only [MetadataTables.resolveInstrument, hsym, some_bind, bind_eq_some] at hinst
  obtain ⟨i, hi, hinst⟩ := hinst
  obtain ⟨tm, htm, heq⟩ := hlim i hi
  rw [hrefl.wellBuilt.indexed.index i inst hinst, htm, getD_some, heq, hlimit] at hmax
  simp only [riskCheck, hmax, hon, Bool.true_and, decide_eq_true_eq] at hrisk
  split_ifs at hrisk with hgt
  exact not_lt.mp hgt

/-- **Whatever is sent is as promised, if there is anything left of its quantity.** -/
lemma admissible_of_accepted (hrefl : Reflects config s.metadata) (hadm : s.admits req)
    (hmd : MetadataTables.Interned s.metadata s'.metadata)
    (h : s.Accepted now req om sym gwReq s') (hpos : 0 < gwReq.scaledQty) :
    ∃ l, Admissible config s' om.gwId req.orderId l (sentDetail req gwReq) req gwReq := by
  have hle : gwReq.scaledQty ≤ req.qty := by
    rw [h.scaledQty]
    exact scaledQty_le om
  refine ⟨_, by rw [h.records]; exact lookup_insert _, by rw [h.records]; exact lookup_insert _,
    rfl, rfl, ?_, rfl, hpos, hle, ?_, ?_⟩
  · rw [h.state]
    exact hadm.2
  · intro hon tc limit htc hlimit
    rw [h.state] at hon
    exact hle.trans (qty_le_limit hrefl h.resolved h.risk hon htc hlimit)
  · obtain ⟨route, inst, hres⟩ := resolveOrderMeta_ok h.resolved
    obtain ⟨r, hr, hkey⟩ := hrefl.routed _ _ hres.route
    have hkeeps := MetadataTables.KeepsRouting.of_interned hmd
    refine ⟨route, ?_, hres.gwId.symm, r, hr, ?_⟩
    · rw [MetadataTables.route, hkeeps.routeByAccount]
      exact hres.route
    · rw [hres.gwId]
      exact hkeeps.gwIdOfKey hkey

variable {send : ℕ × Int} {sent : List (ℕ × Int)} {reqs : List OrderRequest} {t : OmsCoreV2}

/-- An order that is accepted can leave for a gateway exactly if the request sends it there. -/
lemma sendable_accepted_iff (hrefl : Reflects config s.metadata) (hadm : s.admits req)
    (hacc : s.refuses req = false) (hmd : MetadataTables.Interned s.metadata s'.metadata)
    (h : s.Accepted now req om sym gwReq s') (gwId : ℕ) :
    Sendable config s' (gwId, req.orderId) ↔ s.SendsTo req gwId := by
  obtain ⟨route, inst, hres⟩ := resolveOrderMeta_ok h.resolved
  have hpos : 0 < gwReq.scaledQty ↔ (0 < inst.qtyPrecision →
      1 ≤ req.qty * 10 ^ inst.qtyPrecision) := by
    rw [h.scaledQty, scaledQty_pos_iff (validateOrderRequest_ok hadm.1).2.2, hres.qtyPrecision]
  have hto : s.SendsTo req gwId ↔ om.gwId = gwId ∧ 0 < gwReq.scaledQty := by
    simp [SendsTo, hacc, hres.route, hres.instrument, hres.gwId, hpos]
  rw [hto]
  constructor
  · rintro ⟨l, d, req', gwReq', hsend⟩
    have hl := hsend.live
    have hd := hsend.detail
    rw [h.records] at hl hd
    obtain rfl := some.inj ((lookup_insert _).symm.trans hl)
    obtain rfl := some.inj ((lookup_insert _).symm.trans hd)
    obtain ⟨rt, hrt, rfl, -⟩ := hsend.routed
    have hroute : s.metadata.route req.accountId = some rt := by
      rw [MetadataTables.route, ← (MetadataTables.KeepsRouting.of_interned hmd).routeByAccount]
      exact hrt
    rw [hres.route] at hroute
    cases hroute
    have hgw : gwReq = gwReq' := some.inj hsend.lastGwReq
    exact ⟨hres.gwId, hgw ▸ hsend.positive⟩
  · rintro ⟨rfl, hq⟩
    obtain ⟨l, hl⟩ := admissible_of_accepted hrefl hadm hmd h hq
    exact ⟨l, _, req, gwReq, hl⟩

/-- Whether an order can leave is a matter of its records, of the panicking accounts and of the
routes. -/
lemma Sendable.congr (hrefl : Reflects config s'.metadata)
    (hlive : s'.orders.live.lookup send.2 = s.orders.live.lookup send.2)
    (hdetail : s'.orders.detail.lookup send.2 = s.orders.detail.lookup send.2)
    (hpanic : s'.panicAccounts = s.panicAccounts)
    (hrisk : s'.riskCheckEnabled = s.riskCheckEnabled)
    (hroutes : s'.metadata.routeByAccount = s.metadata.routeByAccount)
    (h : Sendable config s send) : Sendable config s' send := by
  obtain ⟨l, d, req, gwReq, hsend⟩ := h
  obtain ⟨rt, hrt, hgw, -⟩ := hsend.routed
  have hrt' : s'.metadata.route l.accountId = some rt := by
    rw [MetadataTables.route, hroutes]
    exact hrt
  exact ⟨l, d, req, gwReq, { hsend with
    live := hlive.trans hsend.live
    detail := hdetail.trans hsend.detail
    notPanicking := hpanic ▸ hsend.notPanicking
    limited := hrisk ▸ hsend.limited
    routed := ⟨rt, hrt', hgw, hgw ▸ hrefl.routed _ _ hrt'⟩ }⟩

/-- **What one request does to an order that is to leave.**  It can leave afterwards if it could
before or is recorded now, and is not spoilt. -/
lemma sendable_place (hk : SameKeys s.orders) (hrefl : Reflects config s.metadata)
    (h : s.processOrder now req = some (s', actions)) :
    Sendable config s' send ↔
      (Sendable config s send ∨ s.admits req ∧ req.orderId = send.2) ∧
        ¬ s.Spoils now req send := by
  obtain ⟨gwId, id⟩ := send
  have hstep : s.step (.place now req) = some s' := step_of_perform h
  have hmd : MetadataTables.Interned s.metadata s'.metadata := interned_step hk rfl hstep
  have hroutes := (MetadataTables.KeepsRouting.of_interned hmd).routeByAccount
  -- an order that the request leaves alone
  have hframe (hlive : s'.orders.live.lookup id = s.orders.live.lookup id)
      (hdetail : s'.orders.detail.lookup id = s.orders.detail.lookup id)
      (hpanic : s'.panicAccounts = s.panicAccounts)
      (hrisk : s'.riskCheckEnabled = s.riskCheckEnabled) :
      Sendable config s' (gwId, id) ↔ Sendable config s (gwId, id) :=
    ⟨.congr hrefl hlive.symm hdetail.symm hpanic.symm hrisk.symm hroutes.symm,
      .congr (hrefl.interned hmd) hlive hdetail hpanic hrisk hroutes⟩
  cases processOrder_cases h with
  | dropped hadm hs =>
    subst hs
    simp [Spoils, evicts, closing, hadm]
  | accepted hadm hrefuse om sym gwReq hA =>
    have hevict : s.evicts (.place now req) = none := by simp [evicts, closing, hrefuse]
    by_cases hid : req.orderId = id
    · subst hid
      simp [sendable_accepted_iff hrefl hadm hrefuse hmd hA, Spoils, hevict, hadm]
    · rw [hframe (by rw [hA.records]; exact lookup_insert_ne (Ne.symm hid))
        (by rw [hA.records]; exact lookup_insert_ne (Ne.symm hid)) (by rw [hA.state])
        (by rw [hA.state])]
      simp [Spoils, hevict, hid]
  | rejected hadm hrefuse f hR =>
    have hevict : s.evicts (.place now req) = s.orders.evicted req.orderId := by
      simp [evicts, closing, hadm, hrefuse]
    have hev : ∀ l d, (s.orders.enter req.orderId l d).evicted req.orderId =
      s.orders.evicted req.orderId := fun _ _ => rfl
    by_cases hid : req.orderId = id
    · subst hid
      refine iff_of_false ?_ fun hc => hc.2 (.inr ⟨hadm, rfl, by simp [SendsTo, hrefuse]⟩)
      rintro ⟨l, d, req', gwReq', hsend⟩
      have hl := hsend.live
      rw [hR.state] at hl
      have hlive := OrderStoreV2.live_of_markClosed hl
      rw [OrderStoreV2.enter_live_self] at hlive
      cases hlive
      cases hsend.pending
    · have hspoils : s.Spoils now req (gwId, id) ↔ s.orders.evicted req.orderId = some id := by
        simp [Spoils, hevict, hid]
      by_cases hout : s.orders.evicted req.orderId = some id
      · refine iff_of_false ?_ fun hc => hc.2 (hspoils.mpr hout)
        rintro ⟨l, d, req', gwReq', hsend⟩
        have hl := hsend.live
        rw [hR.state, OrderStoreV2.markClosed_live, hev, if_pos hout] at hl
        cases hl
      · rw [hframe ?_ ?_ (by rw [hR.state]) (by rw [hR.state]), hspoils]
        · simp [hid, hout]
        · rw [hR.state, OrderStoreV2.markClosed_live, hev, if_neg hout]
          exact lookup_insert_ne (Ne.symm hid)
        · rw [hR.state, OrderStoreV2.markClosed_detail, hev, if_neg hout]
          exact lookup_insert_ne (Ne.symm hid)

lemma mem_sentBy : send ∈ s.sentBy sent req ↔ send ∈ sent ∨ send ∈ s.sentBy [] req := by
  rw [sentBy, sentBy]
  split_ifs
  · simp [or_comm]
  · simp

lemma sends_place (h : s.processOrder now req = some (s', actions)) :
    Sends actions send ↔ send ∈ s.sentBy [] req := by
  obtain ⟨gwId, id⟩ := send
  cases processOrder_cases h with
  | dropped hadm => simp [Sends, sentBy, hadm]
  | rejected hadm hrefuse => simp [Sends, sentBy, hrefuse]
  | accepted hadm hrefuse om sym gwReq hA =>
    obtain ⟨route, inst, hres⟩ := resolveOrderMeta_ok hA.resolved
    simp [Sends, sentBy, hadm, hrefuse, hres.route, hres.gwId]

/-! ## Whole messages -/

/-- A batch of placements, after orders `sent` have been sent before. -/
theorem sendable_batch_iff (sent : List (ℕ × Int)) (hk : SameKeys s.orders)
    (hrefl : Reflects config s.metadata)
    (h : processBatch perform s (reqs.map (.place now)) = some (t, actions)) :
    (∀ send, send ∈ sent ∨ Sends actions send → Sendable config t send) ↔
      (∀ send ∈ sent, Sendable config s send ∨ s.Places reqs send.2) ∧
        StaysSent now s sent reqs := by
  induction reqs generalizing s actions sent with
  | nil =>
    cases h
    simp [Sends, Places, StaysSent]
  | cons req reqs ih =>
    obtain ⟨s₁, new, rest, hop, hrest, rfl⟩ := processBatch_cons_eq_some h
    have hstep : s.step (.place now req) = some s₁ := step_of_perform hop
    have hsends : ∀ send, (send ∈ sent ∨ Sends (new ++ rest) send) ↔
        (send ∈ s.sentBy sent req ∨ Sends rest send) := by
      intro send
      rw [mem_sentBy, ← sends_place hop]
      simp only [Sends, mem_append, exists_or]
      tauto
    have htail : (∀ s' ∈ s.step (.place now req), StaysSent now s' (s.sentBy sent req) reqs) ↔
        StaysSent now s₁ (s.sentBy sent req) reqs := by
      rw [hstep]
      simp
    have hone : (∀ send ∈ s.sentBy sent req, Sendable config s₁ send ∨ s₁.Places reqs send.2) ↔
        (∀ send ∈ sent, Sendable config s send ∨ s.Places (req :: reqs) send.2) ∧
          ∀ send ∈ s.sentBy sent req, s.Spoils now req send → s.Places reqs send.2 := by
      simp only [places_of_place hstep]
      refine kept_iff (fun send => s.admits req ∧ req.orderId = send.2)
        (fun send => sendable_place hk hrefl hop) (fun send => places_cons)
        (fun send hsend => mem_sentBy.mpr (.inl hsend)) fun send hsend => ?_
      refine (mem_sentBy.mp hsend).imp_right fun hnew => ?_
      rw [sentBy] at hnew
      split_ifs at hnew with hgo
      · obtain ⟨route, -, rfl⟩ : ∃ route, s.metadata.route req.accountId = some route ∧
            (route.gwId, req.orderId) = send := by simpa using hnew
        exact ⟨hgo.1, rfl⟩
      · cases hnew
    rw [forall_congr' fun send => imp_congr_left (hsends send), ih _ (sameKeys_step hk hstep)
      (hrefl.interned (interned_step hk rfl hstep)) hrest, hone, StaysSent, htail, and_assoc]

/-- Only placements send orders. -/
lemma not_sends {ops : List Op} (hops : ∀ op ∈ ops, ∀ now req, op ≠ .place now req)
    (hk : SameKeys s.orders) (h : processBatch perform s ops = some (t, actions)) :
    ¬ Sends actions send := by
  obtain ⟨gwId, id⟩ := send
  induction ops generalizing s actions with
  | nil =>
    cases h
    simp [Sends]
  | cons op ops ih =>
    obtain ⟨s₁, new, rest, hop, hrest, rfl⟩ := processBatch_cons_eq_some h
    rintro ⟨ts, hmem⟩
    rcases mem_append.mp hmem with hmem | hmem
    · cases actionOf_perform hk hop _ hmem with
      | state hnone => cases hnone
      | sendOrder => exact hops _ mem_cons_self _ _ rfl
    · exact ih (forall_mem_cons.mp hops).2 (sameKeys_step hk (step_of_perform hop)) hrest
        ⟨ts, hmem⟩

/-- **Only admissible orders leave the core**, in every run, exactly with the messages that spoil
nothing they send: each order that leaves is, in the state the message returns, as it should be. -/
theorem sends_admissible_iff (u : OmsSetup) (evs : List OmsEvent) (s : OmsCoreV2)
    (hr : run handle u.start evs = some s) (now : Int) (msg : OmsMessage) (t : OmsCoreV2)
    (actions : List OmsActionV2) (h : s.processMessage now msg = some (t, actions)) :
    (∀ gwId orderId ts, .sendOrderToGw gwId orderId ts ∈ actions →
      ∃ l d req gwReq, Admissible (inForce u.config evs) t gwId orderId l d req gwReq) ↔
      s.KeepsSends now msg := by
  have hk : SameKeys s.orders := sameKeys_run (sameKeys_start u) hr
  have hall : (∀ gwId orderId ts, .sendOrderToGw gwId orderId ts ∈ actions →
      ∃ l d req gwReq, Admissible (inForce u.config evs) t gwId orderId l d req gwReq) ↔
      ∀ send, Sends actions send → Sendable (inForce u.config evs) t send :=
    ⟨fun hall send ⟨ts, hmem⟩ => hall _ _ ts hmem,
      fun hall gwId orderId ts hmem => hall (gwId, orderId) ⟨ts, hmem⟩⟩
  rw [processMessage_eq] at h
  rw [hall]
  have hbatch : ∀ reqs : List OrderRequest,
      processBatch perform s (reqs.map (.place now)) = some (t, actions) →
      ((∀ send, Sends actions send → Sendable (inForce u.config evs) t send) ↔
        StaysSent now s [] reqs) := by
    intro reqs h
    have hiff := sendable_batch_iff [] hk (reflects_run hr) h
    simpa using hiff
  cases msg with
  | placeOrder req => exact hbatch [req] h
  | batchPlaceOrders reqs => exact hbatch reqs h
  | _ =>
    refine iff_of_true (fun send hsend => absurd hsend (not_sends ?_ hk h)) trivial
    simp [OmsEvent.ops]

end OmsCoreV2

/-- The small venue with the risk check on, which takes two decimal places and at most ten
contracts. -/
def Sample.cents : OmsSetup :=
  { setup false false 4 with
    riskCheckEnabled := true
    config := { config false with
      refdata := (∅ : Dict String InstrumentRefData).insert "P"
        { instrumentId := "P", instrumentIdExchange := "PX", exchangeName := "X",
          instrumentType := .perp, baseAsset := "B", quoteAsset := "Q", settlementAsset := "Q",
          pricePrecision := 0, qtyPrecision := 2 }
      tradingConfigs := (∅ : Dict String InstrumentTradingConfig).insert "P"
        { instrumentCode := "P", maxOrderSize := some 10 } } }

/-- A batch of an order that fits, one that is too large and one that is truncated. -/
theorem OmsCoreV2.sends_admissible_batch :
    let batch := OmsMessage.batchPlaceOrders
      [request 10 .buy 5, request 11 .buy 11, request 12 .sell (1239 / 1000)]
    ∃ r ∈ cents.start.processMessage 0 batch,
      r.2.filterMap (·.order) = [10, 10, 11, 12, 12] ∧
      ∀ gwId orderId ts, .sendOrderToGw gwId orderId ts ∈ r.2 →
        ∃ l d req gwReq, Admissible (inForce cents.config []) r.1 gwId orderId l d req gwReq := by
  intro batch
  refine exists_mem_imp (P := fun r => r.2.filterMap (·.order) = [10, 10, 11, 12, 12])
    (by decide +kernel) fun r hr horders => ⟨horders, ?_⟩
  exact (sends_admissible_iff cents [] cents.start rfl 0 batch r.1 r.2 hr).mpr
    (show StaysSent 0 cents.start [] _ by decide +kernel)

/-- A request for a tenth of the last place is sent with quantity zero.  And of a batch with two
requests under one id the first one is sent, while the order is recorded as rejected and has no
request to send. -/
theorem OmsCoreV2.quantity_truncated_to_zero :
    (∃ r ∈ cents.start.processMessage 0 (.placeOrder (request 10 .buy (1 / 1000))),
      .sendOrderToGw 0 10 0 ∈ r.2 ∧
      ((r.1.orders.detail.lookup 10).bind (·.lastGwReq)).map (·.scaledQty) = some 0) ∧
    ∃ r ∈ cents.start.processMessage 0
        (.batchPlaceOrders [request 10 .buy 5, request 10 .buy 11]),
      .sendOrderToGw 0 10 0 ∈ r.2 ∧
      (r.1.orders.live.lookup 10).map (·.orderStatus) = some .rejected ∧
      (r.1.orders.detail.lookup 10).map (·.lastGwReq) = some none := by
  decide +kernel

end Zkbot
