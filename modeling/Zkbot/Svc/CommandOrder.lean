import Mathlib.Data.List.Flatten
import Zkbot.Svc.GatewayPath

/-!
# Commands for one order arrive in order

The calls that an adapter gets for an order are a subsequence of the commands the core has issued
for it.  Calls may be missing, since queues run full and calls break off, but none overtakes
another or is made twice.

The argument is one invariant.  At any moment the commands for an order lie one behind the other: in
the calls that were made, in the queue of the gateway, in the call of the OMS worker, in the queue
of the OMS, and in what the writer has yet to dispatch.  `onTheWay` is that line; every step moves a
command to the next station or drops it.  That it is one line needs three facts, which are kept
beside it: the request that is read for a command names the order of the command, the parts of a
batch go to the shard of all their orders, and a request in a queue belongs to the shard of the
queue.
-/

namespace Zkbot

open List Option Function GwTask Shards GwRequest GwWorker

variable {o : Int}

/-! ## The stations of an order -/

/-- What a request contributes to the line of an order: nothing if the gateway will turn it down. -/
def GwRequest.lane (o : Int) (r : GwRequest × ℕ) : List (GwCommand × ℕ) :=
  if r.1.validate = .ok () ∧ r.1.command.orderId = o then [(r.1.command, r.2)] else []

def GwTask.lane (o : Int) (t : GwTask) : List (GwCommand × ℕ) :=
  t.commands.filter fun c => c.1.orderId = o

def GwAction.lane (o : Int) (a : GwAction) : List (GwCommand × ℕ) :=
  a.requests.flatMap (GwRequest.lane o)

/-- The requests that a gateway has yet to look at. -/
def GwWorker.rest {G : Type} : GwWorker G → List (GwRequest × ℕ)
  | .calling _ _ rest => rest
  | _ => []

/-- Those that are on the way to a gateway. -/
def GwWorker.lane {G : Type} [DecidableEq G] (g : G) (o : Int) : GwWorker G → List (GwCommand × ℕ)
  | .calling g' _ rest => if g' = g then rest.flatMap (GwRequest.lane o) else []
  | _ => []

lemma GwRequest.lane_ne_nil {r : GwRequest × ℕ} (h : lane o r ≠ []) :
    r.1.validate = .ok () ∧ r.1.command.orderId = o := by
  by_contra hne
  exact h (if_neg hne)

lemma GwAction.lane_ne_nil {a : GwAction} (h : a.lane o ≠ []) :
    ∃ r ∈ a.requests, r.1.validate = .ok () ∧ r.1.command.orderId = o := by
  by_contra hne
  refine h (flatMap_eq_nil_iff.mpr fun r hr => ?_)
  by_contra hlane
  exact hne ⟨r, hr, GwRequest.lane_ne_nil hlane⟩

lemma GwWorker.lane_calling {G : Type} [DecidableEq G] {g g' : G} {a : GwAction}
    {rest : List (GwRequest × ℕ)} :
    (calling g' a rest).lane g o = if g' = g then rest.flatMap (GwRequest.lane o) else [] := rfl

/-! ## Batches -/

namespace GwTask

variable {n : ℕ} {t : GwTask} {orders : List (Int × ℕ)}

lemma commands_singles (t : GwTask) : t.singles.flatMap commands = t.commands := by
  cases t with
  | single gwId c => rfl
  | batch kind gwId orders =>
    simp only [singles, commands, flatMap_map]
    exact flatMap_singleton' (orders.map _) ▸ by rw [flatMap_map]

lemma mem_split_batch {kind : CommandKind} {gwId : ℕ} :
    t ∈ (batch kind gwId orders).split n ↔
      ∃ part ∈ parts n orders, part ≠ [] ∧ t = .batch kind gwId part := by
  rw [split, mem_filterMap]
  refine exists_congr fun part => and_congr_right fun _ => ?_
  split_ifs with hpart
  · simp [hpart]
  · simp [hpart, eq_comm]

lemma mem_parts (hn : n ≠ 0) {part : List (Int × ℕ)} :
    part ∈ parts n orders ↔ ∃ i < n, orders.filter (fun o => shardOf n o.1 = i) = part := by
  simp [parts, hn]

/-- An action that is dispatched goes to the shard of all its orders. -/
def Routed (n : ℕ) (t : GwTask) : Prop :=
  n ≠ 0 → ∀ id ∈ t.routeId, ∀ c ∈ t.commands, shardOf n c.1.orderId = shardOf n id

lemma routed_of_mem_split {t' : GwTask} (h : t' ∈ t.split n) : t'.Routed n := by
  intro hn
  cases t with
  | single gwId c =>
    rw [mem_singleton.mp h]
    intro id hid c' hc'
    cases hid
    rw [mem_singleton.mp hc']
  | batch kind gwId orders =>
    obtain ⟨part, hpart, -, rfl⟩ := mem_split_batch.mp h
    obtain ⟨i, -, rfl⟩ := (mem_parts hn).mp hpart
    have hshard : ∀ o ∈ orders.filter (fun o => shardOf n o.1 = i), shardOf n o.1 = i :=
      fun o ho => by simpa using (mem_filter.mp ho).2
    intro id hid c hc
    obtain ⟨first, hfirst, rfl⟩ := map_eq_some_iff.mp hid
    obtain ⟨o, ho, rfl⟩ := mem_map.mp hc
    rw [hshard o ho, hshard first (mem_of_mem_head? hfirst)]

/-- What is said of the parts of a batch one by one: an empty part is not dispatched. -/
lemma flatMap_split {β : Type} {f : GwTask → List β} {kind : CommandKind} {gwId : ℕ}
    (hf : f (.batch kind gwId []) = []) (orders : List (Int × ℕ)) :
    ((batch kind gwId orders).split n).flatMap f =
      (parts n orders).flatMap fun part => f (.batch kind gwId part) := by
  rw [split]
  induction parts n orders with
  | nil => rfl
  | cons part ps ih =>
    by_cases hpart : part = []
    · subst hpart
      simpa [hf] using ih
    · simp [hpart, ih]

lemma perm_parts (n : ℕ) (orders : List (Int × ℕ)) : (parts n orders).flatten.Perm orders := by
  rw [parts]
  split_ifs with hn
  · simp
  · have hall : ∀ o ∈ orders, shardOf n o.1 < n := fun o _ =>
      Nat.mod_lt _ (Nat.pos_of_ne_zero hn)
    rw [← flatMap_def]
    refine (partition_perm (fun o : Int × ℕ => shardOf n o.1) orders n).trans (.of_eq ?_)
    exact filter_eq_self.mpr fun o ho => decide_eq_true (hall o ho)

/-- **Splitting an action by shard neither loses a command nor doubles one.** -/
lemma perm_split (n : ℕ) (t : GwTask) : ((t.split n).flatMap commands).Perm t.commands := by
  cases t with
  | single gwId c => simp [split]
  | batch kind gwId orders =>
    rw [flatMap_split rfl]
    simp only [commands, ← map_flatten, flatMap_def]
    exact (perm_parts n orders).map _

lemma mem_commands_split {c : GwCommand × ℕ} :
    (∃ t' ∈ t.split n, c ∈ t'.commands) ↔ c ∈ t.commands := by
  rw [← mem_flatMap, (perm_split n t).mem_iff]

/-- The parts of a batch keep the orders of one id together. -/
lemma lane_parts (orders : List (Int × ℕ)) (o : Int) :
    ((parts n orders).flatMap fun part => part.filter fun b => b.1 = o).Sublist
      (orders.filter fun b => b.1 = o) := by
  rw [parts]
  split_ifs
  · rw [flatMap_singleton]
  · rw [flatMap_map]
    exact lane_partition (fun b : Int × ℕ => shardOf n b.1)
      (fun b hb => congrArg (shardOf n) hb) nodup_range orders

lemma lane_split (t : GwTask) (o : Int) : ((t.split n).flatMap (lane o)).Sublist (t.lane o) := by
  cases t with
  | single gwId c => simp [split]
  | batch kind gwId orders =>
    have hlane : ∀ l : List (Int × ℕ), lane o (.batch kind gwId l)
        = (l.filter fun b => b.1 = o).map fun b => (⟨kind, b.1⟩, b.2) := by
      intro l
      rw [lane, commands, List.filter_map]
      rfl
    rw [flatMap_split rfl, hlane]
    simp only [hlane, ← map_flatMap]
    exact (lane_parts orders o).map _

end GwTask

/-- The commands of the actions, with their positions. -/
lemma commands_gwTasks (k : ℕ) (actions : List OmsActionV2) :
    (gwTasks k actions).flatMap GwTask.commands = (commands actions).zipIdx k := by
  have hcommand : OmsActionV2.command = fun a => a.gwCommand.map (·.2) := by
    funext a
    cases a <;> rfl
  rw [commands, hcommand, ← map_filterMap, zipIdx_map, gwTasks, flatMap_map]
  exact flatMap_pure_eq_map _ _

/-! ## Requests that are read from the store -/

namespace OrderStoreV2

variable {os : OrderStoreV2} {c : GwCommand} {t : GwTask}

/-- A stored request is one for its command. -/
lemma command_storedRequest (h : os.Own c) {r : GwRequest} (hr : os.storedRequest c = some r) :
    r.command = c := by
  obtain ⟨d, hd, hr⟩ := bind_eq_some_iff.mp hr
  have hown := h d hd
  obtain ⟨kind, id⟩ := c
  cases kind with
  | place =>
    obtain ⟨req, hreq, rfl⟩ := map_eq_some_iff.mp hr
    have hid : req.correlationId = id := hown req hreq
    rw [command, hid]
  | cancel =>
    obtain ⟨req, hreq, rfl⟩ := map_eq_some_iff.mp hr
    have hid : req.orderId = id := hown req hreq
    rw [command, hid]

lemma validate_missing (kind : CommandKind) : (missing kind).validate ≠ .ok () := by
  intro h
  cases kind <;> exact absurd (pos_of_validate h) (lt_irrefl _)

lemma mem_materialize (hown : ∀ c ∈ t.commands, os.Own c.1) {r : GwRequest × ℕ}
    (hr : r ∈ (os.materialize t).requests) (hval : r.1.validate = .ok ()) :
    (r.1.command, r.2) ∈ t.commands := by
  cases t with
  | single gwId c =>
    rw [mem_singleton.mp hr] at hval ⊢
    cases hreq : os.storedRequest c.1 with
    | none =>
      rw [hreq] at hval
      exact absurd hval (validate_missing _)
    | some req =>
      rw [getD_some, command_storedRequest (hown c (mem_singleton_self c)) hreq]
      exact mem_singleton_self c
  | batch kind gwId orders =>
    obtain ⟨o, ho, hmap⟩ := mem_filterMap.mp hr
    obtain ⟨req, hreq, rfl⟩ := map_eq_some_iff.mp hmap
    have hc := mem_map_of_mem (f := fun o : Int × ℕ => ((⟨kind, o.1⟩ : GwCommand), o.2)) ho
    rw [command_storedRequest (hown _ hc) hreq]
    exact hc

/-- The requests of an action are for its commands, in their order. -/
lemma lane_materialize (hown : ∀ c ∈ t.commands, os.Own c.1) (o : Int) :
    ((os.materialize t).lane o).Sublist (t.lane o) := by
  have hone : ∀ (c : GwCommand) (n : ℕ) (r : GwRequest), os.Own c → os.storedRequest c = some r →
      (lane o (r, n)).Sublist ([(c, n)].filter fun c => c.1.orderId = o) := by
    intro c n r hc hr
    rw [GwRequest.lane]
    split_ifs with hval
    · rw [command_storedRequest hc hr] at hval ⊢
      simp [hval.2]
    · exact nil_sublist _
  cases t with
  | single gwId c =>
    rw [GwAction.lane, materialize, flatMap_singleton, GwTask.lane, GwTask.commands]
    cases hreq : os.storedRequest c.1 with
    | none =>
      rw [getD_none, GwRequest.lane, if_neg fun h => validate_missing _ h.1]
      exact nil_sublist _
    | some req => exact hone c.1 c.2 req (hown c (mem_singleton_self c)) hreq
  | batch kind gwId orders =>
    simp only [GwAction.lane, materialize, GwTask.lane, GwTask.commands] at hown ⊢
    induction orders with
    | nil => exact nil_sublist _
    | cons b orders ih =>
      have hrest := ih (forall_mem_cons.mp hown).2
      rw [map_cons, filterMap_cons]
      cases hreq : os.storedRequest ⟨kind, b.1⟩ with
      | none => exact hrest.trans ((sublist_cons_self _ _).filter _)
      | some req =>
        have hcons := (hone _ b.2 req (hown _ mem_cons_self) hreq).append hrest
        rw [← filter_append] at hcons
        exact hcons

end OrderStoreV2

/-! ## The line of an order -/

namespace GatewayPath

variable {core : OmsCoreV2} {a : GwAction} {r : GwRequest × ℕ} {rest : List (GwRequest × ℕ)}
  {todo : List GwTask} {now : Int}

open OmsCoreV2 (SameKeys sameKeys_start sameKeys_step sameKeys_message own_message)

variable {G : Type} [DecidableEq G]

/-- The calls of an adapter for an order: what they asked for, and which command they carried
out. -/
def callsFor (x : GatewayPath G) (g : G) (o : Int) : List (GwCommand × ℕ) :=
  (x.calls.filter fun c => c.1 = g ∧ c.2.1.command.orderId = o).map fun c => (c.2.1.command, c.2.2)

/-- The commands for an order, with their positions among all commands. -/
def issuedFor (x : GatewayPath G) (o : Int) : List (GwCommand × ℕ) :=
  x.issued.zipIdx.filter fun c => c.1.orderId = o

/-- The commands for an order that have reached a gateway or can still reach it. -/
def onTheWay (cfg : PathConfig G) (x : GatewayPath G) (g : G) (o : Int) : List (GwCommand × ℕ) :=
  x.callsFor g o ++ ((x.exec g (shardOf (cfg.execShards g) o)).flatMap (GwRequest.lane o) ++
    ((x.workers (shardOf cfg.shardCount o)).lane g o ++
      ((x.shards (shardOf cfg.shardCount o)).flatMap (GwAction.lane o) ++
        x.todo.flatMap (GwTask.lane o))))

/-- What keeps the commands in line. -/
structure InLine (cfg : PathConfig G) (x : GatewayPath G) : Prop where
  keys : SameKeys x.core.orders
  own : ∀ t ∈ x.todo, ∀ c ∈ t.commands, x.core.orders.Own c.1
  routed : ∀ t ∈ x.todo, t.Routed cfg.shardCount
  queued : Shards.Placed (fun a i => ∀ r ∈ a.requests, r.1.validate = .ok () →
    shardOf cfg.shardCount r.1.command.orderId = i) x.shards
  opened : ∀ i, ∀ r ∈ (x.workers i).rest, r.1.validate = .ok () →
    shardOf cfg.shardCount r.1.command.orderId = i
  accepted : ∀ g, Shards.Placed (fun r j => r.1.validate = .ok () ∧
    shardOf (cfg.execShards g) r.1.command.orderId = j) (x.exec g)
  line : ∀ g o, (x.onTheWay cfg g o).Sublist (x.issuedFor o)

variable {cfg : PathConfig G} {x y : GatewayPath G}

lemma inLine_start (u : OmsSetup) : InLine cfg (start u) where
  keys := sameKeys_start u
  own := fun t ht => by cases ht
  routed := fun t ht => by cases ht
  queued := fun i a ha => by cases ha
  opened := fun i r hr => by cases hr
  accepted := fun g i r hr => by cases hr
  line := fun g o => nil_sublist _

lemma InLine.unwatched (h : InLine cfg x) (inbox : List (OmsCommand × Option ℕ))
    (clients : Dict ℕ G) (sent : List (GwRequest × ℕ)) (failed : List ℕ) :
    InLine cfg { x with inbox, clients, sent, failed } :=
  { h with }

/-- A message changes the core and nothing else, as long as no action is waiting. -/
lemma InLine.ofCore (h : InLine cfg x) (htodo : x.todo = []) (hk : SameKeys core.orders) :
    InLine cfg { x with core } :=
  { h with
    keys := hk
    own := fun t ht => by rw [show x.todo = [] from htodo] at ht; cases ht }

/-! ## Steps of the workers -/

section

variable (h : InLine cfg x) {i : ℕ}

include h

lemma InLine.opened_update (i : ℕ) {w : GwWorker G}
    (hw : ∀ r ∈ w.rest, r.1.validate = .ok () → shardOf cfg.shardCount r.1.command.orderId = i) :
    ∀ k, ∀ r ∈ (update x.workers i w k).rest, r.1.validate = .ok () →
      shardOf cfg.shardCount r.1.command.orderId = k := by
  intro k r hr
  by_cases hk : k = i
  · subst hk
    rw [update_self] at hr
    exact hw r hr
  · rw [update_of_ne hk] at hr
    exact h.opened k r hr

lemma InLine.release (i : ℕ) {w : GwWorker G} (hrest : ∀ r ∈ w.rest, r ∈ (x.workers i).rest)
    (hlane : ∀ g o, (w.lane g o).Sublist ((x.workers i).lane g o)) :
    InLine cfg { x with workers := update x.workers i w } := by
  refine { h with
    opened := h.opened_update i fun r hr => h.opened i r (hrest r hr)
    line := fun g o => List.Sublist.trans ?_ (h.line g o) }
  refine (List.Sublist.refl _).append ((List.Sublist.refl _).append (.append ?_ (.refl _)))
  by_cases hk : shardOf cfg.shardCount o = i
  · simp only [hk, update_self]
    exact hlane g o
  · simp only [update_of_ne hk]
    exact .refl _

/-- A worker that takes an action, and opens a call or reports a failure. -/
lemma InLine.take {rest : List GwAction} {w : GwWorker G} (hshard : x.shards i = a :: rest)
    (hrest : ∀ r ∈ w.rest, r ∈ a.requests)
    (hlane : ∀ g o, (w.lane g o).Sublist (a.lane o)) :
    InLine cfg { x with
      shards := update x.shards i rest
      workers := update x.workers i w } := by
  obtain ⟨hhead, hqueued⟩ := h.queued.pop hshard
  refine { h with
    queued := hqueued
    opened := h.opened_update i fun r hr => hhead r (hrest r hr)
    line := fun g o => List.Sublist.trans ?_ (h.line g o) }
  have hpop := Shards.lane_pop (k := shardOf cfg.shardCount o) (GwAction.lane o) hshard
      fun hne => by
    obtain ⟨r, hr, hval, rfl⟩ := GwAction.lane_ne_nil hne
    exact (hhead r hr hval).symm
  refine (List.Sublist.refl _).append ((List.Sublist.refl _).append ?_)
  rw [hpop, ← append_assoc, ← append_assoc, ← append_assoc]
  refine List.Sublist.append (List.Sublist.append ?_ (.refl _)) (.refl _)
  by_cases hk : shardOf cfg.shardCount o = i
  · simp only [hk, update_self]
    exact (hlane g o).trans (sublist_append_right _ _)
  · simp only [update_of_ne hk]
    exact sublist_append_left _ _

lemma InLine.drop {g : G} (hw : x.workers i = .calling g a (r :: rest)) :
    InLine cfg { x with workers := update x.workers i (.calling g a rest) } := by
  refine h.release i (fun r' hr' => ?_) (fun g' o => ?_)
  · rw [hw]
    exact mem_cons_of_mem _ hr'
  · rw [hw, lane_calling, lane_calling]
    split_ifs
    · exact sublist_append_right _ _
    · exact .refl _

lemma InLine.accept {g : G} (hw : x.workers i = .calling g a (r :: rest))
    (hval : r.1.validate = .ok ()) :
    InLine cfg { x with
      workers := update x.workers i (.calling g a rest)
      exec := update x.exec g
        (push (x.exec g) (shardOf (cfg.execShards g) r.1.command.orderId) r) } := by
  have hopened : ∀ r' ∈ r :: rest, r'.1.validate = .ok () →
      shardOf cfg.shardCount r'.1.command.orderId = i := by
    intro r' hr'
    refine h.opened i r' ?_
    rw [hw]
    exact hr'
  refine { h with
    opened := (h.drop hw).opened, accepted := fun g' => ?_, line := fun g' o => ?_ }
  · by_cases hg : g' = g
    · subst hg
      simp only [update_self]
      exact (h.accepted g').push ⟨hval, rfl⟩
    · simp only [update_of_ne hg]
      exact h.accepted g'
  · refine List.Sublist.trans ?_ (h.line g' o)
    refine (List.Sublist.refl _).append ?_
    simp only [← append_assoc]
    refine List.Sublist.append (List.Sublist.append ?_ (.refl _)) (.refl _)
    by_cases hg : g = g'
    · subst hg
      have hpush := lane_push (q := x.exec g) (k := shardOf (cfg.execShards g) o)
        (i := shardOf (cfg.execShards g) r.1.command.orderId) (a := r) (lane o)
        fun hne => congrArg _ (lane_ne_nil hne).2
      rw [update_self, hpush, append_assoc]
      refine (List.Sublist.refl _).append ?_
      by_cases hk : shardOf cfg.shardCount o = i
      · rw [hk, update_self, hw, lane_calling, lane_calling, if_pos rfl, if_pos rfl, flatMap_cons]
      · have hnil : lane o r = [] := by
          by_contra hne
          obtain ⟨-, rfl⟩ := lane_ne_nil hne
          exact hk (hopened r mem_cons_self hval)
        rw [update_of_ne hk, hnil, nil_append]
    · rw [update_of_ne (Ne.symm hg)]
      refine (List.Sublist.refl _).append ?_
      by_cases hk : shardOf cfg.shardCount o = i
      · rw [hk, update_self, lane_calling, if_neg hg]
        exact nil_sublist _
      · rw [update_of_ne hk]

lemma InLine.call {g : G} {j : ℕ} (hexec : x.exec g j = r :: rest) :
    InLine cfg { x with
      exec := update x.exec g (update (x.exec g) j rest)
      calls := x.calls ++ [(g, r)] } := by
  obtain ⟨⟨hval, hj⟩, hpop⟩ := (h.accepted g).pop hexec
  refine ⟨h.keys, h.own, h.routed, h.queued, h.opened, fun g' => ?_, fun g' o => ?_⟩
  · by_cases hg : g' = g
    · subst hg
      simp only [update_self]
      exact hpop
    · simp only [update_of_ne hg]
      exact h.accepted g'
  · refine List.Sublist.trans ?_ (h.line g' o)
    simp only [onTheWay, ← append_assoc]
    refine .append (.append (.append ?_ (.refl _)) (.refl _)) (.refl _)
    rw [callsFor, filter_append, map_append, append_assoc]
    refine (List.Sublist.refl _).append ?_
    by_cases hg : g = g'
    · subst hg
      rw [update_self, Shards.lane_pop (k := shardOf (cfg.execShards g) o) (GwRequest.lane o) hexec
        fun hne => hj.symm.trans (congrArg _ (lane_ne_nil hne).2)]
      by_cases ho : r.1.command.orderId = o
      · simp [GwRequest.lane, hval, ho]
      · simp [GwRequest.lane, ho]
    · rw [update_of_ne (Ne.symm hg)]
      simp [hg]

end

/-! ## Steps of the writer -/

lemma InLine.enqueue (h : InLine cfg x) {t : GwTask} {id : Int} (htodo : x.todo = t :: todo)
    (hid : t.routeId = some id) (hn : cfg.shardCount ≠ 0) :
    InLine cfg { x with
      todo
      shards := push x.shards (shardOf cfg.shardCount id)
        (x.core.orders.materialize t) } := by
  have ht : t ∈ x.todo := htodo ▸ mem_cons_self
  have hsub : ∀ t' ∈ todo, t' ∈ x.todo := fun t' ht' => htodo ▸ mem_cons_of_mem _ ht'
  have hhome : ∀ r ∈ (x.core.orders.materialize t).requests, r.1.validate = .ok () →
      shardOf cfg.shardCount r.1.command.orderId = shardOf cfg.shardCount id := by
    intro r hr hval
    exact h.routed t ht hn id hid _ (OrderStoreV2.mem_materialize (h.own t ht) hr hval)
  refine ⟨h.keys, fun t' ht' => h.own t' (hsub t' ht'), fun t' ht' => h.routed t' (hsub t' ht'),
    h.queued.push hhome, h.opened, h.accepted, fun g o => ?_⟩
  have hpush := lane_push (q := x.shards) (k := shardOf cfg.shardCount o)
    (i := shardOf cfg.shardCount id) (a := x.core.orders.materialize t) (GwAction.lane o)
    fun hne => by
      obtain ⟨r, hr, hval, rfl⟩ := GwAction.lane_ne_nil hne
      exact (hhome r hr hval).symm
  refine List.Sublist.trans ?_ (h.line g o)
  refine (List.Sublist.refl _).append
    ((List.Sublist.refl _).append ((List.Sublist.refl _).append ?_))
  rw [hpush, htodo, flatMap_cons, append_assoc]
  refine (List.Sublist.refl _).append (.append ?_ (.refl _))
  exact OrderStoreV2.lane_materialize (h.own t ht) o

/-- The failures that the writer handles itself leave the requests of the other actions alone. -/
lemma failInline_spec {core' : OmsCoreV2} (hk : SameKeys core.orders)
    (h : failInline core now a = some core') :
    SameKeys core'.orders ∧ ∀ c, core.orders.Own c → core'.orders.Own c := by
  refine foldlM_invariant
    (I := fun s : OmsCoreV2 => SameKeys s.orders ∧ ∀ c, core.orders.Own c → s.orders.Own c)
    ?_ ⟨hk, fun _ hc => hc⟩ h
  rintro s o s' ⟨hks, hown⟩ hfail
  obtain ⟨⟨s₁, actions⟩, hmsg, rfl⟩ := map_eq_some_iff.mp hfail
  exact ⟨sameKeys_message hks hmsg, fun c hc => own_message hks (.inl (hown c hc)) hmsg⟩

lemma InLine.refuse (h : InLine cfg x) {t : GwTask} (htodo : x.todo = t :: todo)
    (hcore : failInline x.core now (x.core.orders.materialize t) = some core) :
    InLine cfg { x with todo, core } := by
  have hsub : ∀ t' ∈ todo, t' ∈ x.todo := fun t' ht' => htodo ▸ mem_cons_of_mem _ ht'
  obtain ⟨hkeys, hown⟩ := failInline_spec h.keys hcore
  refine ⟨hkeys, fun t' ht' c hc => hown _ (h.own t' (hsub t' ht') c hc),
    fun t' ht' => h.routed t' (hsub t' ht'), h.queued, h.opened, h.accepted, fun g o => ?_⟩
  refine List.Sublist.trans ?_ (h.line g o)
  refine (List.Sublist.refl _).append ((List.Sublist.refl _).append
    ((List.Sublist.refl _).append ((List.Sublist.refl _).append ?_)))
  rw [htodo, flatMap_cons]
  exact sublist_append_right _ _

lemma InLine.issue (h : InLine cfg x) {tasks : List GwTask} {msg : OmsMessage}
    {actions : List OmsActionV2} (htodo : x.todo = [])
    (hcore : x.core.processMessage now msg = some (core, actions))
    (htasks : tasks.flatMap singles = gwTasks x.issued.length actions) :
    InLine cfg { x with
      core
      todo := tasks.flatMap (GwTask.split cfg.shardCount)
      issued := x.issued ++ commands actions } := by
  have hcommands : tasks.flatMap GwTask.commands = (commands actions).zipIdx x.issued.length := by
    rw [← commands_gwTasks, ← htasks, flatMap_assoc]
    simp [commands_singles]
  refine ⟨sameKeys_message h.keys hcore, fun t ht c hc => ?_, fun t ht => ?_, h.queued, h.opened,
    h.accepted, fun g o => ?_⟩
  · obtain ⟨task, htask, ht⟩ := mem_flatMap.mp ht
    have hmem : c ∈ tasks.flatMap GwTask.commands :=
      mem_flatMap.mpr ⟨task, htask, GwTask.mem_commands_split.mp ⟨t, ht, hc⟩⟩
    rw [hcommands] at hmem
    exact own_message h.keys (.inr (fst_mem_of_mem_zipIdx hmem)) hcore
  · obtain ⟨task, -, ht⟩ := mem_flatMap.mp ht
    exact routed_of_mem_split ht
  · have hline := h.line g o
    have hsplit : ((tasks.flatMap (GwTask.split cfg.shardCount)).flatMap (GwTask.lane o)).Sublist
        (((commands actions).zipIdx x.issued.length).filter fun c => c.1.orderId = o) := by
      rw [← hcommands, filter_flatMap, flatMap_assoc]
      exact List.Sublist.flatMap_right _ fun t _ => lane_split t o
    simp only [onTheWay, issuedFor, htodo, flatMap_nil, append_nil, zipIdx_append,
      filter_append, Nat.zero_add, ← append_assoc] at hline ⊢
    exact hline.append hsplit

/-! ## Runs -/

/-- **Every step keeps the commands in line.** -/
theorem inLine_step {e : PathEvent G} (h : InLine cfg x) (hstep : x.step cfg e = some y) :
    InLine cfg y := by
  cases step_cases hstep with
  | submitted | skipped | connected | disconnected => exact h.unwatched ..
  | @reloaded _ _ config _ _ core htodo _ hcore =>
    have hreload : x.core.step (.reload config.toConfdataManager) = some core := hcore
    have hkeys := sameKeys_step h.keys hreload
    exact (h.ofCore htodo hkeys).unwatched ..
  | commanded htodo hinbox hmsg hcore htasks => exact (h.issue htodo hcore htasks).unwatched ..
  | answered htodo hans hcore => exact h.ofCore htodo (sameKeys_message h.keys hcore)
  | enqueued htodo hid hn hroom => exact h.enqueue htodo hid hn
  | refused htodo hcore => exact (h.refuse htodo hcore).unwatched ..
  | unconnected hshard =>
    exact h.take hshard (fun r hr => by cases hr) (fun _ _ => nil_sublist _)
  | opened g hshard =>
    refine h.take hshard (fun r hr => hr) (fun g' o => ?_)
    rw [lane_calling]
    split_ifs
    · exact .refl _
    · exact nil_sublist _
  | invalid hw hval | broke hw | rested hw =>
    exact h.release _ (fun r hr => by cases hr) (fun _ _ => nil_sublist _)
  | passed hw hval => exact h.accept hw hval
  | dropped hw hval => exact h.drop hw
  | @replied i g a hw =>
    have hidle : InLine cfg { x with workers := update x.workers i .idle } :=
      h.release i (fun r hr => by cases hr) (fun _ _ => nil_sublist _)
    exact hidle.unwatched ..
  | @reported i kind gwId o rest msg hw =>
    have hnext : InLine cfg
        { x with workers := update x.workers i (.reporting kind gwId rest msg) } :=
      h.release i (fun r hr => by cases hr) (fun _ _ => nil_sublist _)
    exact hnext.unwatched ..
  | called hexec => exact h.call hexec

lemma inLine_run {u : OmsSetup} {evs : List (PathEvent G)}
    (h : run (step cfg) (start u) evs = some x) : InLine cfg x := by
  have hg : Guarded (step cfg) (fun _ _ => True) (start u) evs :=
    guarded_of_forall (fun _ _ => trivial) _ _
  exact run_invariant (fun _ _ _ hx _ hstep => inLine_step hx hstep) (inLine_start u) hg h

/-- **The calls of an adapter for an order are a subsequence of the commands for it.** -/
theorem calls_in_order (cfg : PathConfig G) (u : OmsSetup) (evs : List (PathEvent G))
    (x : GatewayPath G) (h : run (step cfg) (start u) evs = some x) (g : G) (o : Int) :
    (x.callsFor g o).Sublist (x.issuedFor o) :=
  (sublist_append_left _ _).trans ((inLine_run h).line g o)

end GatewayPath

open Sample

/-- Pools of two workers in the OMS and of three in the gateway. -/
def Sample.path {G : Type} (cmdCapacity : ℕ) : PathConfig G where
  shardCount := 2
  queueCapacity := 4
  cmdCapacity := cmdCapacity
  execShards := fun _ => 3
  execCapacity := fun _ => 4
  statusText := id

/-- Two orders are sent as a batch; one is cancelled while its place is still in the queue. -/
def Sample.cancelledInQueue : List (PathEvent Unit) :=
  [.connect 0 (), .submit (.batchPlaceOrders [request 10 .buy 1, request 11 .buy 1]),
   .command 0 [.batch .place 0 [(10, 0), (11, 1)]], .dispatch 0, .dispatch 0,
   .submit (.cancelOrder { orderId := 10 }), .command 0 [.single 0 (⟨.cancel, 10⟩, 2)],
   .dispatch 0, .take 0, .handle 0, .reply 0, .take 0, .handle 0, .take 1, .handle 1,
   .call () 2, .call () 1, .call () 1]

open GatewayPath in
/-- The cancel of that run arrives behind the place. -/
theorem calls_in_order_cancelled : ∃ x,
    run (step (path 4)) (start (setup false false 4)) cancelledInQueue = some x ∧
    x.callsFor () 10 = [(⟨.place, 10⟩, 0), (⟨.cancel, 10⟩, 2)] ∧
    (x.callsFor () 10).Sublist (x.issuedFor 10) := by
  obtain ⟨x, hx, hcalls⟩ := map_eq_some_iff.mp (show
    (run (step (path 4)) (start (setup false false 4)) cancelledInQueue).map
      (fun x => x.callsFor () 10) = some [(⟨.place, 10⟩, 0), (⟨.cancel, 10⟩, 2)] by decide +kernel)
  exact ⟨x, hx, hcalls, calls_in_order _ _ _ x hx () 10⟩

/-- An order is sent to a gateway.  While it waits there, its account moves to a second one, which
gets the cancel. -/
def Sample.movedGateway : List (PathEvent Bool) :=
  [.connect 0 false, .submit (.placeOrder (request 10 .buy 1)),
   .command 0 [.single 0 (⟨.place, 10⟩, 0)], .dispatch 0, .take 0, .handle 0, .reply 0,
   .disconnect 0, .connect 0 true, .submit (.cancelOrder { orderId := 10 }),
   .command 0 [.single 0 (⟨.cancel, 10⟩, 1)], .dispatch 0, .take 0, .handle 0, .reply 0,
   .call true 1, .call false 1]

open GatewayPath in
/-- The adapter of the second gateway is called for the cancel before that of the first one is
called for the place. -/
theorem cancel_overtakes_place :
    ∃ x ∈ run (step (path 4)) (start (setup false false 4)) movedGateway,
    x.calls.map (fun c => (c.1, c.2.1.command)) = [(true, ⟨.cancel, 10⟩), (false, ⟨.place, 10⟩)] ∧
      x.issued = [⟨.place, 10⟩, ⟨.cancel, 10⟩] := by
  decide +kernel

end Zkbot
