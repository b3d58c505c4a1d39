import Zkbot.Oms.Actions
import Zkbot.Oms.Names
import Zkbot.Oms.ReportStatus
import Zkbot.Svc.Snapshot

/-!
# Which positions and balances an operation writes

Fills, freezes and exchange syncs each write the position at one key.  A position keeps the key it
was created with (`ownKeys_step`), so what is filed by the fields of a position is filed under its
key.  The service learns of a written position by a `PersistPosition` action, and readers by a
`PublishPositionUpdate`.  Freezing inventory for a sell and giving it back come with neither.  An
operation is `Announced` if it does not do that, and `positions_perform` says that every position it
writes is then named by an action.

Balances are written by balance updates only, under the id of an asset, but they are filed again by
the name they carry.  A balance that an update creates carries no name.  An operation is `Named` if
it creates none and forgets no asset that a balance is held in, and then every balance is found
under its name (`namedBalances_perform`).
-/

namespace Zkbot

open List Option BalanceStoreV2 Dict LiveOrder ManagedPositionV2 MetadataTables

namespace PositionStoreV2

variable {ps : PositionStoreV2} {a : Int} {k : ℕ}

def OwnKeys (ps : PositionStoreV2) : Prop :=
  ∀ key p, ps.managed.lookup key = some p → (p.accountId, p.instrumentId) = key

/-- At most the position at one key was written, and it has kept the key it carries. -/
structure WritesOnly (key : Int × ℕ) (ps ps' : PositionStoreV2) : Prop where
  frame : ∀ j, j ≠ key → ps'.managed.lookup j = ps.managed.lookup j
  own : ∀ p', ps'.managed.lookup key = some p' → (p'.accountId, p'.instrumentId) = key ∨
    ∃ p, ps.managed.lookup key = some p ∧
      (p'.accountId, p'.instrumentId) = (p.accountId, p.instrumentId)

namespace WritesOnly

variable {key : Int × ℕ} {ps ps' ps'' : PositionStoreV2}

lemma refl (key : Int × ℕ) (ps : PositionStoreV2) : WritesOnly key ps ps where
  frame _ _ := rfl
  own p' hp' := .inr ⟨p', hp', rfl⟩

lemma trans (h : WritesOnly key ps ps') (h' : WritesOnly key ps' ps'') :
    WritesOnly key ps ps'' where
  frame j hj := (h'.frame j hj).trans (h.frame j hj)
  own p'' hp'' := by
    rcases h'.own p'' hp'' with hkey | ⟨p', hp', heq⟩
    · exact .inl hkey
    · rcases h.own p' hp' with hkey | ⟨p, hp, heq'⟩
      · exact .inl (heq.trans hkey)
      · exact .inr ⟨p, hp, heq.trans heq'⟩

lemma ownKeys (h : WritesOnly key ps ps') (hown : OwnKeys ps) : OwnKeys ps' := by
  intro j p' hp'
  by_cases hj : j = key
  · subst hj
    rcases h.own p' hp' with hkey | ⟨p, hp, heq⟩
    · exact hkey
    · exact heq.trans (hown j p hp)
  · rw [h.frame j hj] at hp'
    exact hown j p' hp'

/-- An operation on the position at a key, or on a new one. -/
lemma insert {p : ManagedPositionV2}
    (hp : ∀ q, ps.managed.lookup key = some q →
      (p.accountId, p.instrumentId) = (q.accountId, q.instrumentId))
    (hnew : ps.managed.lookup key = none → (p.accountId, p.instrumentId) = key) :
    WritesOnly key ps { ps with managed := ps.managed.insert key p } where
  frame j hj := AList.lookup_insert_ne hj
  own p' hp' := by
    rw [AList.lookup_insert] at hp'
    cases hp'
    cases hq : ps.managed.lookup key with
    | none => exact .inl (hnew hq)
    | some q => exact .inr ⟨q, rfl, hp q hq⟩

lemma modify {f : ManagedPositionV2 → ManagedPositionV2}
    (hf : ∀ p, ((f p).accountId, (f p).instrumentId) = (p.accountId, p.instrumentId)) :
    WritesOnly key ps { ps with managed := ps.managed.modify key f } where
  frame j hj := lookup_modify_ne hj _ _
  own p' hp' := by
    simp only [Dict.lookup_modify_self, map_eq_some_iff] at hp'
    obtain ⟨p, hp, rfl⟩ := hp'
    exact .inr ⟨p, hp, hf p⟩

end WritesOnly

lemma positionOr_key (t : InstrumentType) (b : Bool) :
    (∀ q, ps.managed.lookup (a, k) = some q → ps.positionOr a k t b = q) ∧
    (ps.managed.lookup (a, k) = none → ps.positionOr a k t b = new a k t b) := by
  constructor
  · intro q hq
    rw [positionOr, Dict.getD, hq]
    rfl
  · intro hnone
    rw [positionOr, Dict.getD, hnone]
    rfl

lemma writesOnly_positionOr {t : InstrumentType} {b : Bool}
    {f : ManagedPositionV2 → ManagedPositionV2}
    (hf : ∀ p, ((f p).accountId, (f p).instrumentId) = (p.accountId, p.instrumentId)) :
    WritesOnly (a, k) ps
      { ps with managed := ps.managed.insert (a, k) (f (ps.positionOr a k t b)) } := by
  obtain ⟨hfound, hnew⟩ := ps.positionOr_key (a := a) (k := k) t b
  refine .insert (fun q hq => ?_) fun hnone => ?_
  · rw [hf, hfound q hq]
  · rw [hf, hnew hnone]
    rfl

lemma writesOnly_applyDelta (ps : PositionStoreV2) (δ : PositionDeltaV2) (ts : Int) :
    WritesOnly (δ.accountId, δ.instrumentId) ps (ps.applyDelta δ ts) := by
  refine writesOnly_positionOr (f := fun p => p.applyDelta δ ts) fun p => ?_
  simp only [ManagedPositionV2.applyDelta]
  split_ifs <;> rfl

lemma writesOnly_unfreeze (ps : PositionStoreV2) (a : Int) (k : ℕ) (q : ℚ) :
    WritesOnly (a, k) ps (ps.unfreeze a k q) :=
  .modify fun _ => rfl

lemma writesOnly_checkAndFreeze {ps' : PositionStoreV2} {q : ℚ} {sh : Bool}
    (h : ps.checkAndFreeze a k q sh = .ok ps') : WritesOnly (a, k) ps ps' := by
  simp only [checkAndFreeze] at h
  split_ifs at h
  cases h
  exact writesOnly_positionOr (f := fun p => p.freeze q) fun _ => rfl

end PositionStoreV2

open PositionStoreV2

open PositionStoreV2 (OwnKeys WritesOnly)

namespace OmsCoreV2

variable {md : MetadataTables} {accountId : Int} {ps ps' : PositionStoreV2}
  {es : List PositionReport} {l : LiveOrder} {actions : List OmsActionV2} {s s' : OmsCoreV2}
  {op : Op} {ts : Int} {e : PositionReport} {b : BalanceStoreV2} {config : Confdata}

/-! ## Exchange syncs -/

lemma writesOnly_syncPosition (ps : PositionStoreV2) (a : Int) (k : ℕ) (code : String)
    (e : PositionReport) (ts : Int) : WritesOnly (a, k) ps (syncPosition ps a k code e ts) := by
  have hstatus : ∀ ps' : PositionStoreV2,
      WritesOnly (a, k) ps' (ps'.updateReconcileStatus a k ts) := by
    intro ps'
    refine .modify fun p => ?_
    simp only [updateReconcile]
    split_ifs <;> rfl
  refine .trans ?_ (hstatus _)
  -- the exchange snapshots play no part
  have hexch : ∀ exch, WritesOnly (a, k) ps { ps with exch } :=
    fun _ => ⟨fun _ _ => rfl, fun p' hp' => .inr ⟨p', hp', rfl⟩⟩
  split_ifs
  · exact (hexch _).trans (writesOnly_positionOr (f := fun p => p.seed e ts) fun _ => rfl)
  · exact hexch _

lemma storePosition_writes (h : storePosition md accountId ts ps e = some ps') :
    ps' = ps ∨ ∃ inst, positionInstrument md accountId e = some inst ∧
      WritesOnly (accountId, inst.instrumentId) ps ps' := by
  simp only [storePosition] at h
  cases hinst : positionInstrument md accountId e with
  | none =>
    rw [hinst] at h
    cases h
    exact .inl rfl
  | some inst =>
    rw [hinst, map_eq_some_iff] at h
    obtain ⟨code, -, rfl⟩ := h
    exact .inr ⟨inst, rfl, writesOnly_syncPosition ps accountId inst.instrumentId code e ts⟩

lemma ownKeys_storePositions (hown : OwnKeys ps)
    (h : es.foldlM (storePosition md accountId ts) ps = some ps') : OwnKeys ps' := by
  refine foldlM_invariant (I := OwnKeys) (fun ps e ps' hps he => ?_) hown h
  rcases storePosition_writes he with rfl | ⟨inst, -, hw⟩
  · exact hps
  · exact hw.ownKeys hps

lemma storePositions_frame (h : es.foldlM (storePosition md accountId ts) ps = some ps')
    {key : Int × ℕ}
    (hkey : OmsActionV2.persistPosition key.1 key.2 ∉ positionActions md accountId es) :
    ps'.managed.lookup key = ps.managed.lookup key := by
  induction es generalizing ps with
  | nil =>
    cases h
    rfl
  | cons e es ih =>
    rw [foldlM_cons, bind_eq_some] at h
    obtain ⟨ps₁, h₁, h⟩ := h
    simp only [positionActions, mem_filterMap, mem_cons, not_exists, not_and] at hkey
    rw [ih h (by
      simp only [positionActions, mem_filterMap, not_exists, not_and]
      exact fun e' he' => hkey e' (.inr he'))]
    rcases storePosition_writes h₁ with rfl | ⟨inst, hinst, hw⟩
    · rfl
    · refine hw.frame key ?_
      rintro rfl
      exact hkey e (.inl rfl) (by rw [hinst]; rfl)

/-! ## Fills and closing -/

lemma writesOnly_applyDeltas {posId : ℕ} (fills : List ℚ) (ts : Int) (ps : PositionStoreV2) :
    WritesOnly (l.accountId, posId) ps (applyDeltas ps (fills.map (fillDelta l posId)) ts) := by
  induction fills generalizing ps with
  | nil => exact .refl _ _
  | cons q fills ih =>
    exact .trans (ps.writesOnly_applyDelta (fillDelta l posId q) ts) (ih _)

/-- Closing an order that still has to give inventory back. -/
def Releases (ps : PositionStoreV2) (l : LiveOrder) (remaining : ℚ) : Prop :=
  ∃ posId ∈ l.accountingFlags.posInstrumentId, l.accountingFlags.isBuy = false ∧ 0 < remaining ∧
    ps.frozenAt l.accountId posId ≠ 0
deriving Decidable

/-- Giving back where nothing is frozen changes nothing. -/
lemma lookup_unfreeze_of_empty {a : Int} {k : ℕ} {q : ℚ} (hq : 0 < q) (h0 : ps.frozenAt a k = 0)
    (key : Int × ℕ) : (ps.unfreeze a k q).managed.lookup key = ps.managed.lookup key := by
  by_cases hkey : key = (a, k)
  · subst hkey
    simp only [PositionStoreV2.unfreeze, Dict.lookup_modify_self]
    cases hp : ps.managed.lookup (a, k) with
    | none => rfl
    | some p =>
      rw [frozenAt_of_lookup hp] at h0
      have hmin : min q p.qtyFrozen = 0 := by rw [h0]; exact min_eq_right hq.le
      simp [ManagedPositionV2.unfreeze, hmin]
  · exact lookup_modify_ne hkey _ _

lemma lookup_closePositions (h : ¬ Releases ps l (l.qty - l.filledQty)) (key : Int × ℕ) :
    (closePositions ps l).managed.lookup key = ps.managed.lookup key := by
  simp only [closePositions]
  cases hpos : l.accountingFlags.posInstrumentId with
  | none => rfl
  | some posId =>
    simp only
    split_ifs with hbuy hrem
    · rfl
    · refine lookup_unfreeze_of_empty hrem ?_ key
      by_contra hfrozen
      exact h ⟨posId, hpos, by simpa using hbuy, hrem, hfrozen⟩
    · rfl

lemma writesOnly_closePositions {posId : ℕ}
    (hpos : l.accountingFlags.posInstrumentId = some posId) :
    WritesOnly (l.accountId, posId) ps (closePositions ps l) := by
  simp only [closePositions, hpos]
  split_ifs
  · exact .refl _ _
  · exact ps.writesOnly_unfreeze _ _ _
  · exact .refl _ _

section Report

variable {s s' : OmsCoreV2} {id : Int} {gwId : ℕ} {r : OrderReport} {l l' : LiveOrder}
  {d d' : OrderDetailLog} {os : OrderStoreV2} (spec : ReportSpec s id gwId r l d s' os l' d')
include spec

/-- A report on an order without a position key writes no position. -/
lemma ReportSpec.positions_of_none (hpos : l.accountingFlags.posInstrumentId = none) :
    s'.positions = s.positions := by
  have hclose : ∀ ps, closePositions ps l' = ps := by
    intro ps
    simp [closePositions, flags_of_terms spec.follows.terms, hpos]
  rw [spec.positions]
  simp only [fillDeltas, hpos, hclose, ite_self]
  rfl

/-- A report writes the position of its order. -/
lemma ReportSpec.positions_writes {posId : ℕ}
    (hpos : l.accountingFlags.posInstrumentId = some posId) :
    WritesOnly (l.accountId, posId) s.positions s'.positions := by
  have hfills : WritesOnly (l.accountId, posId) s.positions
      (applyDeltas s.positions (fillDeltas l (reportEffect l r).fills) r.updateTimestamp) := by
    simp only [fillDeltas, hpos]
    exact writesOnly_applyDeltas _ _ s.positions
  rw [spec.positions]
  split_ifs
  · refine hfills.trans ?_
    rw [← accountId_of_terms spec.follows.terms]
    refine writesOnly_closePositions ?_
    rw [flags_of_terms spec.follows.terms, hpos]
  · exact hfills

/-- A report without a fill that has nothing to give back leaves the positions alone. -/
lemma ReportSpec.lookup_positions (hfills : (reportEffect l r).fills.any (0 < ·) = false)
    (hrel : closes l r = true →
      ¬ Releases s.positions l (l.qty - (reportEffect l r).filledQty)) (key : Int × ℕ) :
    s'.positions.managed.lookup key = s.positions.managed.lookup key := by
  have hno : fillDeltas l (reportEffect l r).fills = [] := by
    have hfilter : (reportEffect l r).fills.filter (0 < ·) = [] := by
      rw [filter_eq_nil_iff]
      simpa using hfills
    simp only [fillDeltas, hfilter, map_nil]
    cases l.accountingFlags.posInstrumentId <;> rfl
  rw [spec.positions, hno]
  split_ifs with hclose
  · refine lookup_closePositions ?_ key
    rintro ⟨posId, hpos, hbuy, hrem, hfrozen⟩
    rw [flags_of_terms spec.follows.terms] at hpos hbuy
    rw [qty_of_terms spec.follows.terms, spec.follows.filledQty] at hrem
    rw [accountId_of_terms spec.follows.terms] at hfrozen
    exact hrel hclose ⟨posId, hpos, hbuy, hrem, hfrozen⟩
  · rfl

end Report

/-! ## Operations -/

instance (req : OrderRequest) (om : ResolvedOrderMeta) (posId : ℕ) :
    Decidable (booksInventory req om posId) :=
  inferInstanceAs (Decidable (_ ∧ _ ∧ _ ∧ _))

/-- An operation that moves no inventory behind the service's back.  An order that is accepted
freezes nothing; an order that is closed has nothing to give back, or a fill in the same report. -/
def Announced (s : OmsCoreV2) : Op → Prop
  | .place _ req => s.admits req → s.refuses req = false →
      ∀ om ∈ (s.resolveOrderMeta req).toOption, ∀ posId ∈ om.posInstrumentId,
        ¬ booksInventory req om posId
  | .report r => ∀ target ∈ s.reportTarget r, ∀ l ∈ s.orders.live.lookup target.2,
      closes l r = true → Releases s.positions l (l.qty - (reportEffect l r).filledQty) →
        (reportEffect l r).fills.any (0 < ·) = true
  | .sendFailed _ id _ => ∀ l ∈ s.orders.live.lookup id, l.isInTerminalState = false →
      ¬ Releases s.positions l (l.qty - l.filledQty)
  | _ => True

instance (s : OmsCoreV2) : (op : Op) → Decidable (s.Announced op)
  | .place .. | .report _ | .sendFailed .. | .cancel .. | .balanceUpdate .. | .panic _
  | .dontPanic _ | .cancelSendFailed .. | .reload _ => by dsimp only [Announced]; infer_instance

/-- The positions that were written are named by the actions, and readers are told. -/
structure Announces (ps ps' : PositionStoreV2) (actions : List OmsActionV2) : Prop where
  persisted : ∀ key, ps'.managed.lookup key = ps.managed.lookup key ∨
    .persistPosition key.1 key.2 ∈ actions
  published : (∃ a k, .persistPosition a k ∈ actions) → ∃ a, .publishPositionUpdate a ∈ actions

lemma Announces.of_same (h : ∀ key, ps'.managed.lookup key = ps.managed.lookup key)
    (hact : ∀ a k, .persistPosition a k ∉ actions) : Announces ps ps' actions where
  persisted key := .inl (h key)
  published := by
    rintro ⟨a, k, hmem⟩
    exact absurd hmem (hact a k)

lemma announces_report {id : Int} {gwId : ℕ} {r : OrderReport} {d d' : OrderDetailLog}
    {os : OrderStoreV2} {l' : LiveOrder} (spec : ReportSpec s id gwId r l d s' os l' d')
    (hput : ReportActions id l r actions)
    (hrel : closes l r = true → Releases s.positions l (l.qty - (reportEffect l r).filledQty) →
      (reportEffect l r).fills.any (0 < ·) = true) :
    Announces s.positions s'.positions actions := by
  have hactions : ∀ a k, .persistPosition a k ∈ actions →
      .persistPosition a k ∈ fillActions l (reportEffect l r).fills := by
    intro a k hmem
    rcases hput with ⟨-, rfl⟩ | ⟨-, trade, fee, exec, inferred, rfl⟩
    · cases hmem
    · simpa using hmem
  cases hany : (reportEffect l r).fills.any (0 < ·) with
  | false =>
    refine .of_same (spec.lookup_positions hany fun hclose hr => ?_) fun a k hmem => ?_
    · rw [hrel hclose hr] at hany
      cases hany
    · have hmem' := hactions a k hmem
      simp only [fillActions, hany] at hmem'
      split at hmem' <;> simp at hmem'
  | true =>
    rcases hput with ⟨hno, -⟩ | ⟨-, trade, fee, exec, inferred, rfl⟩
    · rw [reportEffect_of_not_updated hno] at hany
      simp [ReportEffect.start, ReportEffect.fills] at hany
    cases hpos : l.accountingFlags.posInstrumentId with
    | none =>
      refine .of_same (fun key => by rw [spec.positions_of_none hpos]) fun a k hmem => ?_
      have hmem' := hactions a k hmem
      simp only [fillActions, hpos] at hmem'
      cases hmem'
    | some posId =>
      refine ⟨fun key => ?_, fun _ => ⟨l.accountId, by simp [fillActions, hpos, hany]⟩⟩
      by_cases hkey : key = (l.accountId, posId)
      · subst hkey
        exact .inr (by simp [fillActions, hpos, hany])
      · exact .inl ((spec.positions_writes hpos).frame key hkey)

/-- Only reports and balance updates persist positions. -/
lemma not_persistPosition (hk : SameKeys s.orders) (hop : writesState op = false)
    (h : s.perform op = some (s', actions)) (a : Int) (k : ℕ) :
    .persistPosition a k ∉ actions := by
  intro hmem
  cases actionOf_perform hk h _ hmem with
  | state _ hwrites =>
    rw [hop] at hwrites
    cases hwrites

/-- An announced operation of another kind leaves the positions alone. -/
lemma lookup_positions_of_other (hk : SameKeys s.orders) (hok : s.Announced op)
    (hop : writesState op = false) (h : s.step op = some s') (key : Int × ℕ) :
    s'.positions.managed.lookup key = s.positions.managed.lookup key := by
  cases step_cases hk h with
  | quiet _ _ hpos =>
    rcases hpos with hpos | ⟨now, u, rfl, -⟩
    · rw [hpos]
    · cases hop
  | rejected _ _ l d _ _ _ _ hpos => rw [hpos]
  | accepted hadm hrefuse om hom l d hbook =>
    generalize s'.positions = ps, s'.reservations = rs at hbook ⊢
    cases hbook with
    | nothing => rfl
    | cash => rfl
    | inventory posId hinv =>
      exact absurd hinv (hok hadm hrefuse om (by rw [hom]; rfl) posId hinv.2.2.2)
  | sendFailed l _ _ hfail =>
    rw [hfail.positions]
    split_ifs
    · rfl
    · exact lookup_closePositions (hok l hfail.found hfail.working) key
  | report => cases hop
  | external => cases hop

/-- **Every position that an announced operation writes is named by its actions.** -/
theorem positions_perform (hk : SameKeys s.orders) (hok : s.Announced op)
    (h : s.perform op = some (s', actions)) : Announces s.positions s'.positions actions := by
  cases op with
  | report r =>
    cases processOrderReport_cases hk h with
    | ignored _ _ hs | buffered gwId _ _ hs =>
      subst hs
      exact .of_same (fun _ => rfl) (by simp)
    | applied gwId id l _ _ _ _ ht _ hl _ spec hput =>
      exact announces_report spec hput (hok (gwId, id) ht l hl)
    | created gwId _ _ _ _ hx spec hput =>
      refine announces_report (s := s.addExternalOrder gwId r) spec hput ?_
      -- an external order has no position key
      rintro - ⟨posId, hpos, -⟩
      cases hpos
  | balanceUpdate now u =>
    rcases processBalanceUpdate_spec h with ⟨-, rfl, rfl⟩ | ⟨a, ps, -, hps, rfl, rfl⟩
    · exact .of_same (fun _ => rfl) (by simp)
    · refine ⟨fun key => ?_, fun hsome => ?_⟩
      · by_cases hmem : .persistPosition key.1 key.2 ∈ positionActions s.metadata a u.nonspot
        · exact .inr (by simp [balanceActions, hmem])
        · exact .inl (storePositions_frame hps hmem)
      · obtain ⟨b, k, hmem⟩ := hsome
        have hne : u.nonspot ≠ [] := by
          intro hnil
          simp [balanceActions, spotActions, positionActions, hnil] at hmem
        exact ⟨a, by simp [balanceActions, hne]⟩
  | place | cancel | panic | dontPanic | sendFailed | cancelSendFailed | reload =>
    exact .of_same (lookup_positions_of_other hk hok rfl (step_of_perform h))
      (not_persistPosition hk rfl h)

/-! ## Positions under their own keys -/

/-- **No operation files a position under another key.** -/
theorem ownKeys_step (hk : SameKeys s.orders) (hown : OwnKeys s.positions)
    (h : s.step op = some s') : OwnKeys s'.positions := by
  cases step_cases hk h with
  | quiet _ _ hpos =>
    rcases hpos with hpos | ⟨now, u, rfl, -⟩
    · rw [hpos]
      exact hown
    · obtain ⟨actions, h₁⟩ := exists_actions h
      rcases processBalanceUpdate_spec h₁ with ⟨-, rfl, -⟩ | ⟨a, ps, -, hps, rfl, -⟩
      · exact hown
      · exact ownKeys_storePositions hown hps
  | rejected _ _ l d _ _ _ _ hpos =>
    rw [hpos]
    exact hown
  | accepted _ _ om _ l d hbook =>
    generalize s'.positions = ps, s'.reservations = rs at hbook ⊢
    cases hbook with
    | nothing => exact hown
    | cash => exact hown
    | inventory posId _ ps hps =>
      exact (writesOnly_checkAndFreeze hps).ownKeys hown
  | sendFailed l l' os hfail =>
    rw [hfail.positions]
    split_ifs
    · exact hown
    · cases hposId : l.accountingFlags.posInstrumentId with
      | none =>
        simp only [closePositions, hposId]
        exact hown
      | some posId => exact (writesOnly_closePositions hposId).ownKeys hown
  | report _ _ _ l _ _ _ _ _ _ _ spec =>
    cases hposId : l.accountingFlags.posInstrumentId with
    | none =>
      rw [spec.positions_of_none hposId]
      exact hown
    | some posId => exact (spec.positions_writes hposId).ownKeys hown
  | external _ _ _ _ _ _ spec =>
    rw [positions_of_external spec]
    exact hown

lemma initOrder_positions (s : OmsCoreV2) (v1 : OmsOrder) :
    (s.initOrder v1).positions = s.positions := by
  simp [initOrder, convertV1Order]

lemma initBalance_positions (s : OmsCoreV2) (b : ExchBalanceSnapshot) :
    (s.initBalance b).positions = s.positions := by
  simp only [initBalance]
  split <;> rfl

lemma start_positions (u : OmsSetup) :
    u.start.positions =
      (u.positions.foldl initPosition (u.orders.foldl initOrder u.blank)).positions := by
  rw [OmsSetup.start, initState, foldl_preserves initBalance_positions]

lemma ownKeys_start (u : OmsSetup) : OwnKeys u.start.positions := by
  rw [start_positions]
  have hblank : OwnKeys (u.orders.foldl initOrder u.blank).positions := by
    rw [foldl_preserves initOrder_positions]
    intro key p hp
    cases hp
  generalize u.orders.foldl initOrder u.blank = s at hblank
  induction u.positions generalizing s with
  | nil => exact hblank
  | cons p ps ih =>
    refine ih (s.initPosition p) ?_
    simp only [initPosition]
    split
    · exact hblank
    · intro key q hq
      rw [lookup_insert_if] at hq
      split_ifs at hq with hkey
      · cases hq
        exact hkey.symm
      · exact hblank key q hq

/-! ## Balances under their names -/

/-- Every balance is filed under its account and the asset it names. -/
def NamedBalances (md : MetadataTables) (b : BalanceStoreV2) : Prop :=
  ∀ key snap, b.exchBalances.lookup key = some snap →
    snap.accountId = key.1 ∧ md.assetIdOfName snap.asset = some key.2

/-- Interning strings forgets no asset. -/
lemma NamedBalances.interned {md' : MetadataTables} (h : NamedBalances md b)
    (hmd : MetadataTables.Interned md md') : NamedBalances md' b := by
  obtain ⟨t, rfl, ht⟩ := hmd
  intro key snap hsnap
  obtain ⟨hacc, hname⟩ := h key snap hsnap
  refine ⟨hacc, ?_⟩
  simp only [assetIdOfName, bind_eq_some_iff] at hname ⊢
  obtain ⟨sym, hsym, hid⟩ := hname
  exact ⟨sym, ht.lookup hsym, hid⟩

/-- Every spot entry for a known asset is for a balance on record. -/
def KnownBalances (s : OmsCoreV2) (accountId : Int) (u : BalanceUpdate) : Prop :=
  ∀ e ∈ u.spot, ∀ assetId ∈ spotAsset s.metadata e,
    (s.balances.exchBalances.lookup (accountId, assetId)).isSome = true
deriving Decidable

/-- The entries of an update keep the names, and what was on record stays on record. -/
lemma namedBalances_storeBalance (ts : Int) (h : NamedBalances md b)
    (hknown : ∀ assetId ∈ spotAsset md e,
      (b.exchBalances.lookup (accountId, assetId)).isSome = true) :
    NamedBalances md (storeBalance md accountId ts b e) ∧
      ∀ key, (b.exchBalances.lookup key).isSome = true →
        ((storeBalance md accountId ts b e).exchBalances.lookup key).isSome = true := by
  simp only [storeBalance]
  cases hasset : spotAsset md e with
  | none => exact ⟨h, fun key hkey => hkey⟩
  | some assetId =>
    obtain ⟨old, hold⟩ := isSome_iff_exists.mp (hknown assetId hasset)
    constructor
    · intro key snap hsnap
      simp only [setBalance, removeUnknownBalance, lookup_insert_if] at hsnap
      split_ifs at hsnap with hkey
      · subst hkey
        cases hsnap
        simp only [BalanceStoreV2.balanceOr, Dict.getD, hold, getD_some]
        exact h _ old hold
      · exact h key snap hsnap
    · intro key hkey
      simp only [setBalance, removeUnknownBalance, lookup_insert_if]
      split_ifs
      · rfl
      · exact hkey

lemma namedBalances_storeBalances (h : NamedBalances md b)
    (hknown : ∀ e ∈ es, ∀ assetId ∈ spotAsset md e,
      (b.exchBalances.lookup (accountId, assetId)).isSome = true) :
    NamedBalances md (es.foldl (storeBalance md accountId ts) b) := by
  induction es generalizing b with
  | nil => exact h
  | cons e es ih =>
    obtain ⟨hnamed, hkept⟩ := namedBalances_storeBalance ts h (hknown e mem_cons_self)
    refine ih hnamed fun e' he' assetId hasset => hkept _ ?_
    exact hknown e' (mem_cons_of_mem _ he') assetId hasset

/-- An operation after which every balance can still be found under its name. -/
def Named (s : OmsCoreV2) : Op → Prop
  | .balanceUpdate _ u => ∀ accountId ∈ s.updatedAccount u, s.KnownBalances accountId u
  | .reload newConfig =>
    ∀ e ∈ s.balances.exchBalances.entries, e.2.asset ∈ newConfig.names .asset
  | _ => True

instance (s : OmsCoreV2) : (op : Op) → Decidable (s.Named op)
  | .balanceUpdate .. | .reload _ | .place .. | .cancel .. | .report _ | .panic _ | .dontPanic _
  | .sendFailed .. | .cancelSendFailed .. => by dsimp only [Named]; infer_instance

/-- **Every balance is found under its name** after an operation of a message. -/
theorem namedBalances_perform (hk : SameKeys s.orders) (hmsg : op.isReload = false)
    (h : NamedBalances s.metadata s.balances) (hok : s.Named op)
    (hop : s.perform op = some (s', actions)) : NamedBalances s'.metadata s'.balances := by
  have hstep := step_of_perform hop
  have hmd : MetadataTables.Interned s.metadata s'.metadata := interned_step hk hmsg hstep
  refine NamedBalances.interned ?_ hmd
  rcases (tables_step hk hstep).2 with hb | ⟨now, u, rfl⟩
  · rw [hb]
    exact h
  · rcases processBalanceUpdate_spec hop with ⟨-, rfl, -⟩ | ⟨a, ps, ha, -, rfl, -⟩
    · exact h
    · exact namedBalances_storeBalances h (hok a ha)

/-- Balances stay named after a reload, if no asset on record was dropped. -/
theorem namedBalances_reload (hkept : MetadataTables.Kept s.metadata)
    (h : NamedBalances s.metadata s.balances) (hok : s.Named (.reload config.toConfdataManager))
    (hr : s.reloadConfig config.toConfdataManager = some s') :
    MetadataTables.Kept s'.metadata ∧ NamedBalances s'.metadata s'.balances := by
  obtain ⟨md, hmd, hkept', hreloaded⟩ := reload_spec hkept config
  simp only [reloadConfig, hmd, some_bind] at hr
  cases hr
  refine ⟨hkept', fun key snap hsnap => ?_⟩
  obtain ⟨hacc, hname⟩ := h key snap hsnap
  refine ⟨hacc, ?_⟩
  simp only [assetIdOfName, bind_eq_some_iff] at hname ⊢
  obtain ⟨sym, hsym, hid⟩ := hname
  have hsym' := hreloaded.strings.lookup hsym
  have hmem : sym ∈ md.strings.symbols (config.names .asset) :=
    InternTable.mem_symbols.mpr ⟨snap.asset, hok ⟨key, snap⟩ (mem_entries_iff.mpr hsnap), hsym'⟩
  exact ⟨sym, hsym', (hreloaded.reloads .asset).kept sym key.2 hmem hid⟩

lemma namedBalances_start (u : OmsSetup) : NamedBalances u.start.metadata u.start.balances := by
  have hpos := initPosition_preserves (g := (·.balances)) fun _ _ => rfl
  have horder : ∀ (s : OmsCoreV2) v1, (s.initOrder v1).balances = s.balances := fun _ _ => rfl
  rw [OmsSetup.start, initState]
  generalize hs : u.positions.foldl initPosition (u.orders.foldl initOrder u.blank) = s
  have hempty : s.balances.exchBalances = ∅ := by
    rw [← hs, foldl_preserves hpos, foldl_preserves horder]
    rfl
  have hstart : NamedBalances s.metadata s.balances := by
    intro key snap hsnap
    rw [hempty] at hsnap
    cases hsnap
  clear hs hempty
  induction u.balances generalizing s with
  | nil => exact hstart
  | cons b bs ih =>
    refine ih (s.initBalance b) ?_
    simp only [initBalance]
    split
    · rename_i assetId hasset
      intro key snap hsnap
      simp only [setBalance, lookup_insert_if] at hsnap
      split_ifs at hsnap with hkey
      · cases hsnap
        rw [hkey]
        exact ⟨rfl, hasset⟩
      · exact hstart key snap hsnap
    · exact hstart

/-! ## Both -/

/-- What is always true of the core: positions and balances are filed where they say. -/
structure WellFiled (core : OmsCoreV2) : Prop where
  keys : SameKeys core.orders
  own : OwnKeys core.positions
  named : NamedBalances core.metadata core.balances
  kept : MetadataTables.Kept core.metadata

lemma WellFiled.perform {core core' : OmsCoreV2} (h : WellFiled core) (hmsg : op.isReload = false)
    (hok : core.Named op) (hop : core.perform op = some (core', actions)) : WellFiled core' := by
  have hstep := step_of_perform hop
  exact ⟨sameKeys_step h.keys hstep, ownKeys_step h.keys h.own hstep,
    namedBalances_perform h.keys hmsg h.named hok hop,
    h.kept.interned (interned_step h.keys hmsg hstep)⟩

lemma wellFiled_start {u : OmsSetup} (hu : u.config = config.toConfdataManager) :
    WellFiled u.start :=
  ⟨sameKeys_start u, ownKeys_start u, namedBalances_start u, kept_start hu⟩

end OmsCoreV2

end Zkbot
