import Zkbot.Oms.Actions

/-!
# Placing an order twice

The service expects the core to refuse an order id it already knows.  `process_order` never looks
the id up: it records the order of the second request over the first one.

* `OmsMessage.requests` — the placements a message asks for, and `processMessage_turn`: each has its
  *turn*, in which it is handled alone.
* `Untouched` — what placing an order again should leave behind.
* `placing_again_iff` — a repeated placement leaves the order alone exactly when it is dropped
  unseen, or refused in the very words of the refusal already on record.
-/

namespace Zkbot

open OrderStoreV2 Sample AList

/-- The placements a message asks for, in the order they are handled. -/
def OmsMessage.requests : OmsMessage → List OrderRequest
  | .placeOrder req => [req]
  | .batchPlaceOrders reqs => reqs
  | _ => []

namespace OmsCoreV2

variable {s s' : OmsCoreV2} {now : Int} {actions : List OmsActionV2} {req : OrderRequest}

/-! ## Turns of a batch -/

/-- Every request of a batch is handled alone, between those before and those after it. -/
lemma processBatch_turn {α : Type} {f : OmsCoreV2 → α → Option (OmsCoreV2 × List OmsActionV2)}
    {pre post : List α} {a : α}
    (h : processBatch f s (pre ++ a :: post) = some (s', actions)) :
    ∃ t t' A acts B, processBatch f s pre = some (t, A) ∧ f t a = some (t', acts) ∧
      processBatch f t' post = some (s', B) ∧ actions = A ++ (acts ++ B) := by
  induction pre generalizing s actions with
  | nil =>
    obtain ⟨t', acts, B, ha, hpost, rfl⟩ := processBatch_cons_eq_some h
    exact ⟨s, t', [], acts, B, rfl, ha, hpost, rfl⟩
  | cons b bs ih =>
    obtain ⟨s₁, acts₁, rest, hb, hrest, rfl⟩ := processBatch_cons_eq_some h
    obtain ⟨t, t', A, acts, B, hpre, ha, hpost, rfl⟩ := ih hrest
    refine ⟨t, t', acts₁ ++ A, acts, B, ?_, ha, hpost, by simp⟩
    rw [processBatch_cons, hb, Option.bind_some, hpre]
    rfl

/-- Every placement of a message has its turn: the placements before it have been handled, those
after it have not, and what its turn puts out is a part of what the message puts out. -/
lemma processMessage_turn {msg : OmsMessage} (h : s.processMessage now msg = some (s', actions))
    {pre post : List OrderRequest} (hreq : msg.requests = pre ++ req :: post) :
    ∃ t t' acts, run step s (pre.map (.place now)) = some t ∧
      t.processOrder now req = some (t', acts) ∧
      run step t' (post.map (.place now)) = some s' ∧ acts <:+: actions := by
  have hbatch : processBatch (fun s req => s.processOrder now req) s (pre ++ req :: post) =
      some (s', actions) := by
    cases msg with
    | placeOrder r =>
      rw [← hreq]
      show processBatch _ s [r] = _
      have h' : s.processOrder now r = some (s', actions) := h
      simp [h', processBatch]
    | batchPlaceOrders reqs =>
      rw [← hreq]
      exact h
    | _ => simp [OmsMessage.requests] at hreq
  obtain ⟨t, t', A, acts, B, hpre, hturn, hpost, rfl⟩ := processBatch_turn hbatch
  refine ⟨t, t', acts, ?_, hturn, ?_, ⟨A, B, by simp⟩⟩
  · rw [← processBatch_fst (fun s req => s.processOrder now req) _ (fun _ _ => rfl), hpre]
    rfl
  · rw [← processBatch_fst (fun s req => s.processOrder now req) _ (fun _ _ => rfl), hpost]
    rfl

/-! ## What a repeated placement does -/

/-- Placing an order again leaves no trace: nothing is sent for it, and its record, its history, its
reservation and every position are as they were. -/
structure Untouched (s : OmsCoreV2) (req : OrderRequest) (s' : OmsCoreV2)
    (actions : List OmsActionV2) : Prop where
  noSend : ∀ gwId ts, .sendOrderToGw gwId req.orderId ts ∉ actions
  live : s'.orders.live.lookup req.orderId = s.orders.live.lookup req.orderId
  detail : s'.orders.detail.lookup req.orderId = s.orders.detail.lookup req.orderId
  reservation : s'.reservations.reservations.lookup req.orderId =
    s.reservations.reservations.lookup req.orderId
  positions : s'.positions = s.positions

/-- The order is on record as refused for `f`, at this very time, and recording it once more would
not push it out of the cache of closed orders. -/
def RefusedFor (s : OmsCoreV2) (now : Int) (req : OrderRequest) (f : Refusal) : Prop :=
  s.orders.live.lookup req.orderId = some (refusedLive req f
    (if s.orders.useTimeEmulation then req.timestamp else now) (s.timeOf req.timestamp now)) ∧
  s.orders.detail.lookup req.orderId = some (refusedDetail req f (s.timeOf req.timestamp now)) ∧
  s.orders.evicted req.orderId ≠ some req.orderId
deriving Decidable

/-- A refusal leaves the order alone exactly when it repeats the one on record. -/
lemma untouched_rejected {f : Refusal} (h : s.Rejected now req f s')
    (hlive : req.orderId ∈ s.orders.live) :
    s.Untouched req s' [.publishOrderUpdate req.orderId false false true false] ↔
      s.RefusedFor now req f := by
  rw [h.state]
  obtain ⟨l, hl⟩ := Dict.mem_iff_lookup.mp hlive
  have hev : ∀ l d, (s.orders.enter req.orderId l d).evicted req.orderId =
      s.orders.evicted req.orderId := fun _ _ => rfl
  constructor
  · intro hu
    have hlive := hu.live
    have hdetail := hu.detail
    simp only [markClosed_live, markClosed_detail, hev, enter_live_self] at hlive hdetail
    by_cases he : s.orders.evicted req.orderId = some req.orderId
    · -- the order would be pushed out of the cache by its own refusal
      rw [if_pos he, hl] at hlive
      cases hlive
    · rw [if_neg he] at hlive hdetail
      refine ⟨hlive.symm, ?_, he⟩
      rw [← hdetail]
      exact lookup_insert _
  · rintro ⟨hlive, hdetail, he⟩
    refine ⟨by simp, ?_, ?_, rfl, rfl⟩
    · rw [markClosed_live, hev, if_neg he, hlive]
      exact enter_live_self _ _ _ _
    · rw [markClosed_detail, hev, if_neg he, hdetail]
      exact lookup_insert _

/-- **Placing an order again.**  Every placement of a message has its turn; if its id is in `live`
when its turn comes, the order is left alone exactly when the request is dropped unseen, or refused
in the words of the refusal that is on record already. -/
theorem placing_again_iff (s s' : OmsCoreV2) (now : Int) (msg : OmsMessage)
    (actions : List OmsActionV2) (h : s.processMessage now msg = some (s', actions))
    (pre post : List OrderRequest) (req : OrderRequest)
    (hreq : msg.requests = pre ++ req :: post) :
    ∃ t t' acts, run step s (pre.map (.place now)) = some t ∧
      t.processOrder now req = some (t', acts) ∧
      run step t' (post.map (.place now)) = some s' ∧ acts <:+: actions ∧
      (req.orderId ∈ t.orders.live →
        (t.Untouched req t' acts ↔
          ¬ t.admits req ∨ ∃ f, t.refusalOf req = some f ∧ t.RefusedFor now req f)) := by
  obtain ⟨t, t', acts, hpre, hturn, hpost, hacts⟩ := processMessage_turn h hreq
  refine ⟨t, t', acts, hpre, hturn, hpost, hacts, fun hlive => ?_⟩
  cases processOrder_cases hturn with
  | dropped hadm hs =>
    subst hs
    simp only [hadm, not_false_eq_true, true_or, iff_true]
    exact ⟨by simp, rfl, rfl, rfl, rfl⟩
  | rejected hadm _ f h =>
    rw [untouched_rejected h hlive, h.refusal]
    simp [hadm]
  | accepted hadm hrefuse om sym gwReq h =>
    -- the order is sent a second time
    refine iff_of_false (fun hu => hu.noSend _ _ (.tail _ (.head _))) ?_
    rintro (hnot | ⟨f, hf, -⟩)
    · exact hnot hadm
    · simp [refuses, hf] at hrefuse

open Sample

/-- A batch that places the same unroutable order twice: the second refusal repeats the first. -/
theorem placing_again_sample :
    ∃ s', ∃ t t' acts, (setup false false 4).start.processMessage 0
        (.batchPlaceOrders [stray, stray]) = some s' ∧
      run step (setup false false 4).start [.place 0 stray] = some t ∧
      t.processOrder 0 stray = some (t', acts) ∧ 10 ∈ t.orders.live ∧
      t.Untouched stray t' acts := by
  obtain ⟨⟨s', actions⟩, hs, hf⟩ : ∃ r ∈ (setup false false 4).start.processMessage 0
      (.batchPlaceOrders [stray, stray]),
      ∀ t ∈ run step (setup false false 4).start [.place 0 stray],
        10 ∈ t.orders.live ∧ ∃ f ∈ t.refusalOf stray, t.RefusedFor 0 stray f := by
    decide +kernel
  obtain ⟨t, t', acts, ht, hturn, -, -, hiff⟩ := placing_again_iff _ s' 0
    (.batchPlaceOrders [stray, stray]) actions hs [stray] [] stray rfl
  obtain ⟨hlive, f, hrefusal, hrec⟩ := hf t ht
  exact ⟨_, t, t', acts, hs, ht, hturn, hlive, (hiff hlive).mpr (.inr ⟨f, hrefusal, hrec⟩)⟩

/-- Placing a partly filled order again sends it a second time and forgets its fill. -/
theorem placing_again_resends :
    ∃ s ∈ run handle (setup false false 4).start [place 10 .buy 2, report 10 [trade 1]],
      ∃ r ∈ s.processMessage 0 (.placeOrder (request 10 .buy 2)),
        (s.orders.live.lookup 10).map (·.filledQty) = some 1 ∧
        (r.1.orders.live.lookup 10).map (·.filledQty) = some 0 ∧
        .sendOrderToGw 0 10 0 ∈ r.2 ∧ ¬ s.Untouched (request 10 .buy 2) r.1 r.2 := by
  refine exists_mem_imp (P := fun s =>
    ∃ r ∈ s.processMessage 0 (.placeOrder (request 10 .buy 2)),
      (s.orders.live.lookup 10).map (·.filledQty) = some 1 ∧
      (r.1.orders.live.lookup 10).map (·.filledQty) = some 0 ∧
      .sendOrderToGw 0 10 0 ∈ r.2) (by decide +kernel) ?_
  rintro s - ⟨r, hr, hbefore, hafter, hsend⟩
  exact ⟨r, hr, hbefore, hafter, hsend, fun hu => hu.noSend 0 0 hsend⟩

end OmsCoreV2

end Zkbot
