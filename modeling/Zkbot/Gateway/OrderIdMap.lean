import Zkbot.Core.Dict
import Zkbot.Core.Run

/-!
# The id map of the IBKR gateway

`id_map.py` keeps the entries of the orders under their client ids, and two further indexes that
lead from an IB order id and from a permanent id to a client id.  Both are edited without a look at
who holds an id: an order that is registered twice stays in the index under its first IB order id,
and `remove` takes an IB order id out of the index that a later order was given.

* `Indexes` — an index has the ids that the entries carry, and no others.
* `agrees_of_fresh` — the three indexes agree for as long as no id in use is given out again.
-/

namespace Zkbot.Ibkr

open Option Dict

/-- `OrderIdEntry`. -/
structure IdEntry where
  clientOrderId : Int
  ibOrderId : Option Int := none
  permId : Option Int := none
  instrument : String := ""
  deriving DecidableEq

structure OrderIdMap where
  byClientId : Dict Int IdEntry := ∅
  byIbOrderId : Dict Int Int := ∅
  byPermId : Dict Int Int := ∅

inductive IdMapCall where
  | register (clientOrderId ibOrderId : Int) (instrument : String := "")
  | bindPermId (ibOrderId permId : Int)
  | remove (clientOrderId : Int)

/-- The id spaces that an order can be looked up in. -/
inductive IdSpace where
  | client | ibOrder | perm
  deriving DecidableEq

/-- The id of an entry in a space. -/
def IdEntry.ident (e : IdEntry) : IdSpace → Option Int
  | .client => some e.clientOrderId
  | .ibOrder => e.ibOrderId
  | .perm => e.permId

namespace OrderIdMap

/-- `pop(id, None)`, where there is an id. -/
def pop (index : Dict Int Int) (id : Option Int) : Dict Int Int := id.elim index index.erase

section

variable (m : OrderIdMap)

def register (clientOrderId ibOrderId : Int) (instrument : String) : OrderIdMap :=
  { m with
    byClientId := m.byClientId.insert clientOrderId
      { clientOrderId, ibOrderId := some ibOrderId, instrument }
    byIbOrderId := m.byIbOrderId.insert ibOrderId clientOrderId }

/-- `bind_perm_id`; an index that leads to no entry raises a `KeyError`. -/
def bindPermId (ibOrderId permId : Int) : Option OrderIdMap :=
  match m.byIbOrderId.lookup ibOrderId with
  | none => some m
  | some clientId => (m.byClientId.lookup clientId).map fun entry =>
    { m with
      byClientId := m.byClientId.insert clientId { entry with permId := some permId }
      byPermId := (pop m.byPermId (entry.permId.filter (· ≠ permId))).insert permId clientId }

def remove (clientOrderId : Int) : OrderIdMap :=
  match m.byClientId.lookup clientOrderId with
  | none => m
  | some entry =>
    { byClientId := m.byClientId.erase clientOrderId
      byIbOrderId := pop m.byIbOrderId entry.ibOrderId
      byPermId := pop m.byPermId entry.permId }

/-- `lookup_by_client_id`, `lookup_by_ib_order_id` and `lookup_by_perm_id`. -/
def lookupBy (id : Int) : IdSpace → Option IdEntry
  | .client => m.byClientId.lookup id
  | .ibOrder => (m.byIbOrderId.lookup id).bind m.byClientId.lookup
  | .perm => (m.byPermId.lookup id).bind m.byClientId.lookup

def step : IdMapCall → Option OrderIdMap
  | .register c ib inst => some (m.register c ib inst)
  | .bindPermId ib perm => m.bindPermId ib perm
  | .remove c => some (m.remove c)

/-- The three indexes agree: what a lookup returns carries the id, an order is found by each of its
ids, and removing an order takes only its own entry out of the lookups. -/
structure Agrees : Prop where
  carries : ∀ space id e, m.lookupBy id space = some e → e.ident space = some id
  found : ∀ c e, m.lookupBy c .client = some e →
    ∀ space id, e.ident space = some id → m.lookupBy id space = some e
  removed : ∀ c space id,
    (m.remove c).lookupBy id space = (m.lookupBy id space).filter (·.clientOrderId ≠ c)

/-- No id that is in use is given to another order. -/
def Fresh : IdMapCall → Prop
  | .register c ib _ => m.lookupBy c .client = none ∧ m.lookupBy ib .ibOrder = none
  | .bindPermId ib perm => ∀ e ∈ m.lookupBy perm .perm, e.ibOrderId = some ib
  | .remove _ => True

instance : DecidablePred m.Fresh
  | .register .. => inferInstanceAs (Decidable (_ ∧ _))
  | .bindPermId .. => inferInstanceAs (Decidable (∀ e ∈ _, _))
  | .remove _ => .isTrue trivial

end

/-! ## Exact indexes -/

/-- The index is the inverse of the field: it has the ids that the entries carry, and no others. -/
def Indexes (field : IdEntry → Option Int) (entries : Dict Int IdEntry) (index : Dict Int Int) :
    Prop :=
  ∀ id c, index.lookup id = some c ↔ (entries.lookup c).bind field = some id

lemma lookup_pop (index : Dict Int Int) (id : Option Int) (id' : Int) :
    (pop index id).lookup id' = if id = some id' then none else index.lookup id' := by
  cases id with
  | none => rfl
  | some id => simp [pop, lookup_erase_if, eq_comm]

namespace Indexes

variable {field : IdEntry → Option Int} {entries : Dict Int IdEntry} {index : Dict Int Int}
  {c id : Int} {e : IdEntry}

/-- An entry is put in place: the id it carried leaves the index, the id it carries enters it. -/
lemma put (h : Indexes field entries index) (hid : field e = some id)
    (hfree : ∀ c', index.lookup id = some c' → c' = c) :
    Indexes field (entries.insert c e)
      ((pop index (((entries.lookup c).bind field).filter (· ≠ id))).insert id c) := by
  intro id' c'
  have hold := h id' c
  simp only [lookup_insert_if, lookup_pop, Option.filter_eq_some_iff]
  have hother := h id' c'
  have hnew := hfree c'
  grind

/-- An entry that carries the same id as the one it replaces leaves the index as it is. -/
lemma keep (h : Indexes field entries index) (hsame : field e = (entries.lookup c).bind field) :
    Indexes field (entries.insert c e) index := by
  intro id' c'
  rw [h id' c', lookup_insert_if]
  grind

lemma erase (h : Indexes field entries index) (he : entries.lookup c = some e) :
    Indexes field (entries.erase c) (pop index (field e)) := by
  intro id' c'
  have hold := h id' c
  have hother := h id' c'
  rw [lookup_erase_if, lookup_pop]
  grind

end Indexes

/-- The invariant of the map. -/
structure Exact (m : OrderIdMap) : Prop where
  own : ∀ c e, m.byClientId.lookup c = some e → e.clientOrderId = c
  ibOrder : Indexes (·.ibOrderId) m.byClientId m.byIbOrderId
  perm : Indexes (·.permId) m.byClientId m.byPermId

namespace Exact

variable {m m' : OrderIdMap}

lemma lookupBy_eq_some (h : m.Exact) {space : IdSpace} {id : Int} {e : IdEntry} :
    m.lookupBy id space = some e ↔
      m.byClientId.lookup e.clientOrderId = some e ∧ e.ident space = some id := by
  have hib := h.ibOrder id
  have hperm := h.perm id
  cases space <;> simp only [lookupBy, IdEntry.ident, bind_eq_some_iff, hib, hperm] <;>
    grind [h.own]

lemma remove (h : m.Exact) (c : Int) : (m.remove c).Exact := by
  simp only [OrderIdMap.remove]
  cases he : m.byClientId.lookup c with
  | none => exact h
  | some e => exact ⟨by grind [lookup_erase_if, h.own], h.ibOrder.erase he, h.perm.erase he⟩

lemma step (h : m.Exact) {call : IdMapCall} (hfresh : m.Fresh call) :
    ∃ m', m.step call = some m' ∧ m'.Exact := by
  cases call with
  | register c ib inst =>
    obtain ⟨hc, hib⟩ := hfresh
    have hnone : m.byClientId.lookup c = none := hc
    refine ⟨_, rfl, by grind [register, lookup_insert_if, h.own], ?_, h.perm.keep (by simp [hnone])⟩
    have hput := h.ibOrder.put (c := c) (e := ⟨c, some ib, none, inst⟩) rfl fun c' hc' => by
      obtain ⟨e, he, -⟩ := bind_eq_some_iff.mp ((h.ibOrder ib c').mp hc')
      simp [lookupBy, hc', he] at hib
    simpa [hnone, pop, register] using hput
  | bindPermId ib perm =>
    rw [OrderIdMap.step, bindPermId]
    cases hc : m.byIbOrderId.lookup ib with
    | none => exact ⟨m, rfl, h⟩
    | some c =>
      obtain ⟨e, he, -⟩ := bind_eq_some_iff.mp ((h.ibOrder ib c).mp hc)
      simp only [he, map_some, some.injEq, exists_eq_left']
      refine ⟨by grind [lookup_insert_if, h.own], h.ibOrder.keep (by simp [he]), ?_⟩
      have hput := h.perm.put (c := c) (e := { e with permId := some perm }) rfl fun c' hc' => by
        obtain ⟨e', he', -⟩ := bind_eq_some_iff.mp ((h.perm perm c').mp hc')
        -- the holder of the permanent id has the IB order id that it is bound to
        have hib := hfresh e' (by simp [lookupBy, hc', he'])
        have hc'' := (h.ibOrder ib c').mpr (by simp [he', hib])
        exact some.inj (hc''.symm.trans hc)
      simpa [he] using hput
  | remove c => exact ⟨_, rfl, h.remove c⟩

lemma run (h : m.Exact) {calls : List IdMapCall} (hfresh : Guarded OrderIdMap.step Fresh m calls) :
    ∃ m', Zkbot.run OrderIdMap.step m calls = some m' ∧ m'.Exact := by
  induction calls generalizing m with
  | nil => exact ⟨m, rfl, h⟩
  | cons call calls ih =>
    obtain ⟨m', hm', h'⟩ := h.step hfresh.1
    rw [run_cons, hm', bind_some]
    exact ih h' (hfresh.2 m' hm')

lemma agrees (h : m.Exact) : m.Agrees := by
  refine ⟨fun space id e he => (h.lookupBy_eq_some.mp he).2, ?_, fun c space id => ?_⟩
  · intro c e he space id hid
    exact h.lookupBy_eq_some.mpr ⟨(h.lookupBy_eq_some.mp he).1, hid⟩
  · have hrest : ∀ c', (m.remove c).byClientId.lookup c' =
        if c' = c then none else m.byClientId.lookup c' := by
      grind [OrderIdMap.remove, lookup_erase_if]
    ext e
    simp only [(h.remove c).lookupBy_eq_some, Option.filter_eq_some_iff, h.lookupBy_eq_some, hrest]
    grind

end Exact

/-- **The three indexes agree after every run of calls in which no id in use is given to another
order**, and none of the calls raises. -/
theorem agrees_of_fresh {calls : List IdMapCall} (h : Guarded step Fresh {} calls) :
    ∃ m, run step {} calls = some m ∧ m.Agrees := by
  have hempty : Exact {} := ⟨nofun, by simp [Indexes], by simp [Indexes]⟩
  obtain ⟨m, hm, hexact⟩ := hempty.run h
  exact ⟨m, hm, hexact.agrees⟩

theorem agrees_of_fresh_rebound :
    ∃ m, run step {} [.register 1 100, .bindPermId 100 7, .remove 1, .register 2 100,
      .bindPermId 100 7, .bindPermId 100 8] = some m ∧ m.Agrees :=
  agrees_of_fresh (by decide)

/-- An order that is registered again is returned for an IB order id that it does not carry; and
where a second order is given the IB order id of a first, removing the first loses the second. -/
theorem indexes_disagree :
    ((run step {} [.register 1 100, .register 1 200]).bind (·.lookupBy 100 .ibOrder)) =
        some { clientOrderId := 1, ibOrderId := some 200 } ∧
      ((run step {} [.register 1 100, .register 2 100]).bind (·.lookupBy 100 .ibOrder)) =
        some { clientOrderId := 2, ibOrderId := some 100 } ∧
      (run step {} [.register 1 100, .register 2 100, .remove 1]).map (·.lookupBy 100 .ibOrder) =
        some none := by
  decide

end OrderIdMap

end Zkbot.Ibkr
