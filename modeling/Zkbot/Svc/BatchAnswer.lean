import Zkbot.Oms.Admission
import Zkbot.Svc.CommandOrder

/-!
# The answer to a batch of sends

`place_order` and `batch_place_orders` of the gateway.  The requests of a batch are validated and
handed to the execution queues one by one; the first invalid one ends the call with an error, but
those before it stay in the queues, and their workers pass them to the venue.  The OMS takes the
error for the whole batch and marks every order of it as failed.

`SendCall.handle` is the handler as a function of the call and of the queues it meets;
`handleRequest_eq` says that it is made of the steps of `GatewayPath`.  `refused_unsent_iff` says
when an error means that nothing has been handed on.
-/

namespace Zkbot

open GwRequest

/-- A call that sends orders. -/
inductive SendCall where
  | placeOrder (req : SendOrderRequest)
  | batchPlaceOrders (reqs : List SendOrderRequest)

namespace SendCall

variable {req : SendOrderRequest}

def requests : SendCall → List SendOrderRequest
  | .placeOrder req => [req]
  | .batchPlaceOrders reqs => reqs

/-- One request: the error of its validation, or what is put into the execution queue.  A full queue
takes nothing, and the gateway publishes a rejection instead. -/
def handleOne (full : Bool) (req : SendOrderRequest) : Except String (List SendOrderRequest) :=
  (validateSendOrderRequest req).map fun _ => if full then [] else [req]

/-- The loop of `batch_place_orders`: the answer, and what has been put into the execution queues.
`full k` says whether the queue for the `k`-th request is full when its turn comes. -/
def handleAll (full : ℕ → Bool) : List SendOrderRequest → Except String Unit × List SendOrderRequest
  | [] => (.ok (), [])
  | req :: reqs =>
    match handleOne (full 0) req with
    | .error msg => (.error msg, [])
    | .ok queued =>
      let rest := handleAll (fun k => full (k + 1)) reqs
      (rest.1, queued ++ rest.2)

/-- The handler of a call. -/
def handle (full : ℕ → Bool) : SendCall → Except String Unit × List SendOrderRequest
  | .placeOrder req =>
    match handleOne (full 0) req with
    | .error msg => (.error msg, [])
    | .ok queued => (.ok (), queued)
  | .batchPlaceOrders reqs => handleAll full reqs

lemma handle_eq (full : ℕ → Bool) (call : SendCall) :
    call.handle full = handleAll full call.requests := by
  cases call with
  | placeOrder req =>
    simp only [handle, requests, handleAll]
    cases handleOne (full 0) req with
    | error msg => rfl
    | ok queued => simp
  | batchPlaceOrders reqs => rfl

/-! ## What an error means -/

/-- The requests before the first invalid one. -/
def validPart (reqs : List SendOrderRequest) : List SendOrderRequest :=
  reqs.takeWhile fun req => validateSendOrderRequest req = .ok ()

lemma handleOne_of_valid {full : Bool} (h : validateSendOrderRequest req = .ok ()) :
    handleOne full req = .ok (if full then [] else [req]) := by
  rw [handleOne, h]
  rfl

lemma handleOne_of_invalid (full : Bool) (h : validateSendOrderRequest req ≠ .ok ()) :
    ∃ msg, handleOne full req = .error msg := by
  rw [handleOne]
  cases hval : validateSendOrderRequest req with
  | error msg => exact ⟨msg, rfl⟩
  | ok u => exact absurd hval h

section

variable (full : ℕ → Bool) (reqs : List SendOrderRequest)

lemma answer_ok_iff :
    (handleAll full reqs).1 = .ok () ↔ ∀ req ∈ reqs, validateSendOrderRequest req = .ok () := by
  induction reqs generalizing full with
  | nil => simp [handleAll]
  | cons req reqs ih =>
    rw [List.forall_mem_cons]
    by_cases hval : validateSendOrderRequest req = .ok ()
    · simp only [handleAll, handleOne_of_valid hval, hval, true_and]
      exact ih _
    · obtain ⟨msg, hmsg⟩ := handleOne_of_invalid (full 0) hval
      simp [handleAll, hmsg, hval]

/-- Nothing is queued if every request before the first invalid one meets a full queue. -/
lemma queued_eq_nil_iff : (handleAll full reqs).2 = [] ↔ ∀ k < (validPart reqs).length, full k := by
  induction reqs generalizing full with
  | nil => simp [handleAll, validPart]
  | cons req reqs ih =>
    by_cases hval : validateSendOrderRequest req = .ok ()
    · have hpart : validPart (req :: reqs) = req :: validPart reqs := by
        simp [validPart, hval]
      simp only [handleAll, handleOne_of_valid hval, List.append_eq_nil_iff, ih, hpart,
        List.length_cons, Nat.forall_lt_succ_left]
      cases full 0 <;> simp
    · obtain ⟨msg, hmsg⟩ := handleOne_of_invalid (full 0) hval
      simp [handleAll, hmsg, validPart, hval]

end

/-- **An error means that nothing was handed on** exactly if every request is valid, so that there
is no error, or every request before the first invalid one meets a full queue. -/
theorem refused_unsent_iff (full : ℕ → Bool) (call : SendCall) :
    ((call.handle full).1 ≠ .ok () → (call.handle full).2 = []) ↔
      (∀ req ∈ call.requests, validateSendOrderRequest req = .ok ()) ∨
        ∀ k < (validPart call.requests).length, full k := by
  rw [handle_eq, ne_eq, answer_ok_iff, queued_eq_nil_iff]
  exact (or_iff_not_imp_left).symm

end SendCall

/-! ## In the run of the services -/

namespace GatewayPath

variable {G : Type} [DecidableEq G]

/-- A step of the gateway is one turn of the handler. -/
lemma handleRequest_eq (cfg : PathConfig G) (x : GatewayPath G) (i : ℕ) (g : G) (a : GwAction)
    (req : SendOrderRequest) (n : ℕ) (rest : List (GwRequest × ℕ)) (hn : cfg.execShards g ≠ 0) :
    x.handleRequest cfg i g a (.place req, n) rest =
      match SendCall.handleOne (cfg.execCapacity g ≤
          (x.exec g (shardOf (cfg.execShards g) req.correlationId)).length) req with
      | .error msg => some { x with
          workers := Function.update x.workers i
            (.reporting a.kind a.gwId a.orderIds (cfg.statusText msg)) }
      | .ok queued => some { x with
          workers := Function.update x.workers i (.calling g a rest)
          exec := queued.foldl (fun exec req => Function.update exec g (Shards.push (exec g)
            (shardOf (cfg.execShards g) req.correlationId) (.place req, n))) x.exec } := by
  cases hval : validateSendOrderRequest req with
  | error msg =>
    simp only [handleRequest, validate, SendCall.handleOne, hval]
    rfl
  | ok u =>
    rw [SendCall.handleOne_of_valid hval]
    by_cases hroom : (x.exec g (shardOf (cfg.execShards g) req.correlationId)).length
        < cfg.execCapacity g
    · simp [handleRequest, validate, command, hval, hn, hroom, not_le.mpr hroom]
    · simp [handleRequest, validate, command, hval, hn, hroom, not_lt.mp hroom]

end GatewayPath

open Sample

def Sample.sendRequest (id : Int) (scaledQty : ℚ) : SendOrderRequest :=
  { correlationId := id, exchAccountId := "main", instrument := "PX", buysellType := .buy,
    opencloseType := default, orderType := default, scaledPrice := 1, scaledQty, timestamp := 0,
    exchSpecificParams := none, timeInforceType := default }

/-- The second order is too small for the precision of its instrument. -/
def Sample.halfRefused : List (PathEvent Unit) :=
  [.connect 0 (), .submit (.batchPlaceOrders [request 10 .buy 1, request 12 .buy (1 / 1000)]),
   .command 0 [.batch .place 0 [(10, 0), (12, 1)]], .dispatch 0, .take 0, .handle 0, .handle 0,
   .report 0, .command 0 [], .call () 1]

open GatewayPath in
/-- The gateway answers with an error and keeps the first order.  In a run of both services the OMS
has rejected that order before the adapter is called for it. -/
theorem refused_batch_reaches_venue :
    (SendCall.batchPlaceOrders [sendRequest 10 1, sendRequest 12 0]).handle
      (fun _ => false) =
      (.error "place_order: scaled_qty must be finite and > 0", [sendRequest 10 1]) ∧
    ∃ x ∈ run (step (path 4)) (start cents) halfRefused,
      x.failed = [0] ∧ (x.core.orders.live.lookup 10).map (·.orderStatus) = some .rejected ∧
      x.callsFor () 10 = [(⟨.place, 10⟩, 0)] := by
  refine ⟨?_, ?_⟩ <;> decide +kernel

end Zkbot
