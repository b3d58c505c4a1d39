import Zkbot.Oms.Fills

/-!
# Net exposure

A managed position is a magnitude and a direction; its net exposure is the signed quantity the two
stand for.  Fills hand `apply_delta` changes that are signed as if the position were long: for a
long position the exposure moves with the fill, through the sign flip and all, and for a short one
it moves the other way.  A sell that finds no position creates a short one and is booked as a buy.

* `exposure_applyDelta` — what a delta does to the exposure, for either direction.
* `ExposureFollows` — after a run the exposure has moved by the signed fills.
* `KeepsExposure` — the operations for which it does: every fill on the position finds it long, and
  no exchange sync overwrites it.
* `exposure_follows_fills` — one fill moves the exposure by the right amount exactly if the position
  it finds is long; and so does a whole run of such fills.
-/

namespace Zkbot

open List AList ManagedPositionV2 OmsEvent PositionStoreV2

open OrderStoreV2 (SameBut)

/-! ## The exposure of a position -/

def ManagedPositionV2.exposure (p : ManagedPositionV2) : ℚ :=
  if p.isShort then -p.qtyTotal else p.qtyTotal

/-- **A delta moves the exposure of a long position by itself, and that of a short one by its
opposite**, whether the direction flips or not. -/
lemma ManagedPositionV2.exposure_applyDelta (p : ManagedPositionV2) (δ : PositionDeltaV2)
    (ts : Int) :
    (p.applyDelta δ ts).exposure =
      p.exposure + if p.isShort then -δ.totalChange else δ.totalChange := by
  simp only [applyDelta]
  by_cases hneg : p.qtyTotal + δ.totalChange < 0
  · -- the magnitude turns negative, and the direction flips with it
    rw [if_pos hneg]
    simp only [exposure, abs_of_neg hneg]
    cases p.isShort with
    | true =>
      simp only [Bool.not_true, Bool.false_eq_true, if_false, if_true]
      ring
    | false =>
      simp only [Bool.not_false, Bool.false_eq_true, if_false, if_true]
      ring
  · rw [if_neg hneg]
    simp only [exposure]
    cases p.isShort with
    | true =>
      simp only [if_true]
      ring
    | false => simp

namespace PositionStoreV2

variable {ps : PositionStoreV2}

def exposureAt (ps : PositionStoreV2) (accountId : Int) (instrumentId : ℕ) : ℚ :=
  ((ps.getPosition accountId instrumentId).map (·.exposure)).getD 0

/-- The position that a delta finds: the one in the store, or the one it creates. -/
def found (ps : PositionStoreV2) (δ : PositionDeltaV2) : ManagedPositionV2 :=
  ps.positionOr δ.accountId δ.instrumentId .unspecified δ.isShort

lemma exposureAt_of_lookup {a : Int} {k : ℕ} {p : ManagedPositionV2}
    (h : ps.managed.lookup (a, k) = some p) : ps.exposureAt a k = p.exposure := by
  simp [exposureAt, getPosition, h]

lemma exposure_positionOr (ps : PositionStoreV2) (a : Int) (k : ℕ) (t : InstrumentType) (b : Bool) :
    (ps.positionOr a k t b).exposure = ps.exposureAt a k := by
  cases h : ps.managed.lookup (a, k) with
  | none =>
    simp [positionOr, Dict.getD, exposureAt, getPosition, h, ManagedPositionV2.new,
      ManagedPositionV2.exposure]
  | some p => simp [positionOr, Dict.getD, exposureAt, getPosition, h]

lemma exposureAt_applyDelta (ps : PositionStoreV2) (δ : PositionDeltaV2) (ts : Int) (a : Int)
    (k : ℕ) :
    (ps.applyDelta δ ts).exposureAt a k =
      if (a, k) = (δ.accountId, δ.instrumentId) then
        ps.exposureAt a k + if (ps.found δ).isShort then -δ.totalChange else δ.totalChange
      else ps.exposureAt a k := by
  split_ifs with hkey hshort
  · obtain ⟨rfl, rfl⟩ := Prod.mk.inj hkey
    rw [exposureAt_of_lookup (lookup_insert _), exposure_applyDelta, exposure_positionOr]
    exact congrArg _ (if_pos hshort)
  · obtain ⟨rfl, rfl⟩ := Prod.mk.inj hkey
    rw [exposureAt_of_lookup (lookup_insert _), exposure_applyDelta, exposure_positionOr]
    exact congrArg _ (if_neg hshort)
  · simp [exposureAt, getPosition, applyDelta, lookup_insert_ne hkey]

lemma exposureAt_unfreeze (ps : PositionStoreV2) (b : Int) (j : ℕ) (q : ℚ) (a : Int) (k : ℕ) :
    (ps.unfreeze b j q).exposureAt a k = ps.exposureAt a k := by
  by_cases hkey : (a, k) = (b, j)
  · obtain ⟨rfl, rfl⟩ := Prod.mk.inj hkey
    simp only [exposureAt, getPosition, unfreeze, Dict.lookup_modify_self, Option.map_map]
    rfl
  · simp [exposureAt, getPosition, unfreeze, Dict.lookup_modify_ne hkey]

lemma exposureAt_checkAndFreeze {ps' : PositionStoreV2} {b : Int} {j : ℕ} {q : ℚ} {sh : Bool}
    (h : ps.checkAndFreeze b j q sh = .ok ps') (a : Int) (k : ℕ) :
    ps'.exposureAt a k = ps.exposureAt a k := by
  simp only [checkAndFreeze] at h
  split_ifs at h
  cases h
  by_cases hkey : (a, k) = (b, j)
  · obtain ⟨rfl, rfl⟩ := Prod.mk.inj hkey
    rw [exposureAt_of_lookup (lookup_insert _)]
    exact ps.exposure_positionOr a k .unspecified sh
  · simp [exposureAt, getPosition, lookup_insert_ne hkey]

end PositionStoreV2

/-! ## Exchange syncs -/

namespace OmsCoreV2

variable {ps : PositionStoreV2} {accountId a : Int} {k : ℕ} {s : OmsCoreV2}

/-- A balance update that overwrites the managed position at a key: it has a position entry for that
key, and the position has not been synced before. -/
def seeds (s : OmsCoreV2) (u : BalanceUpdate) (a : Int) (k : ℕ) : Bool :=
  shouldSeed s.positions a k &&
    (decide (u.balances.head?.bind (fun e => s.accountOfExchAccount e.exchAccountCode) = some a) &&
      u.balances.any fun e => decide (e.instrumentType ≠ .spot) &&
        (positionInstrument s.metadata a e).any fun inst => decide (inst.instrumentId = k))

lemma syncPosition_at {inst : ℕ} (code : String) (e : PositionReport) (ts : Int)
    (h : (a, k) ≠ (accountId, inst) ∨ shouldSeed ps a k = false) :
    (syncPosition ps accountId inst code e ts).exposureAt a k = ps.exposureAt a k ∧
      shouldSeed (syncPosition ps accountId inst code e ts) a k = shouldSeed ps a k := by
  by_cases hkey : (a, k) = (accountId, inst)
  · -- the position is there and has been synced, so only its reconcile state changes
    obtain ⟨rfl, rfl⟩ := Prod.mk.inj hkey
    have hseed : shouldSeed ps a k = false := h.resolve_left fun hne => hne rfl
    have hseed' : ∀ m, shouldSeed { ps with exch := m } a k = false := fun _ => hseed
    simp only [syncPosition, hseed', Bool.false_eq_true, if_false, updateReconcileStatus]
    have hexp : ∀ (p : ManagedPositionV2) x t, (p.updateReconcile x t).exposure = p.exposure := by
      intro p x t
      simp only [updateReconcile]
      split_ifs <;> rfl
    have hsync : ∀ (p : ManagedPositionV2) x t,
        (p.updateReconcile x t).lastExchSyncTs = p.lastExchSyncTs := by
      intro p x t
      simp only [updateReconcile]
      split_ifs <;> rfl
    simp only [exposureAt, shouldSeed, getPosition,
      Dict.lookup_modify_self, Option.map_map, Function.comp_def, hexp, hsync]
    exact ⟨trivial, hseed⟩
  · have hlook : (syncPosition ps accountId inst code e ts).managed.lookup (a, k) =
        ps.managed.lookup (a, k) := by
      simp only [syncPosition, updateReconcileStatus, Dict.lookup_modify_ne hkey]
      split_ifs
      · exact lookup_insert_ne hkey
      · rfl
    simp [exposureAt, shouldSeed, getPosition, hlook]

lemma exposureAt_foldlM_storePosition {md : MetadataTables} {ts : Int} {ps' : PositionStoreV2}
    {es : List PositionReport} (h : es.foldlM (storePosition md accountId ts) ps = some ps')
    (hno : shouldSeed ps a k = true → a = accountId → ∀ e ∈ es,
      (positionInstrument md a e).any (fun inst => decide (inst.instrumentId = k)) = false) :
    ps'.exposureAt a k = ps.exposureAt a k := by
  induction es generalizing ps with
  | nil =>
    cases h
    rfl
  | cons e es ih =>
    obtain ⟨ps₁, h₁, h₂⟩ := bind_eq_some.mp h
    simp only [storePosition] at h₁
    split at h₁
    · cases h₁
      exact ih h₂ fun hs ha => (forall_mem_cons.mp (hno hs ha)).2
    · rename_i inst hinst
      obtain ⟨code, -, rfl⟩ := Option.map_eq_some_iff.mp h₁
      have hat : (a, k) ≠ (accountId, inst.instrumentId) ∨ shouldSeed ps a k = false := by
        by_contra hcon
        rw [not_or, not_not, Bool.not_eq_false] at hcon
        obtain ⟨ha, hk⟩ := Prod.mk.inj hcon.1
        have hany := hno hcon.2 ha e mem_cons_self
        rw [ha, hinst, hk] at hany
        simp at hany
      obtain ⟨hexp, hseed⟩ := syncPosition_at code e ts hat
      rw [ih h₂ fun hs ha => (forall_mem_cons.mp (hno (hseed ▸ hs) ha)).2]
      exact hexp

/-- **An exchange sync moves the exposure at a key only by seeding it.** -/
lemma exposureAt_processBalanceUpdate {s' : OmsCoreV2} {now : Int} {u : BalanceUpdate}
    {actions : List OmsActionV2} (h : s.processBalanceUpdate now u = some (s', actions))
    (hno : s.seeds u a k = false) : s'.positions.exposureAt a k = s.positions.exposureAt a k := by
  rcases processBalanceUpdate_spec h with ⟨-, rfl, -⟩ | ⟨accountId, ps, hacct, hps, rfl, -⟩
  · rfl
  · refine exposureAt_foldlM_storePosition hps ?_
    rintro hseed rfl e he
    obtain ⟨hmem, hspot⟩ := mem_filter.mp he
    simp only [updatedAccount] at hacct
    simp only [seeds, hseed, hacct, decide_true, Bool.true_and, List.any_eq_false] at hno
    have := hno e hmem
    rw [hspot, Bool.true_and] at this
    simpa using this

/-! ## Fills along a run -/

/-- The deltas that an operation hands to `apply_delta`. -/
def deltasOf (s : OmsCoreV2) : Op → List PositionDeltaV2
  | .report r => ((s.reportTarget r).bind fun t => (s.fillLoop t.2 t.1 r).map (·.2)).getD []
  | _ => []

def atKey (a : Int) (k : ℕ) (δ : PositionDeltaV2) : Bool :=
  decide ((a, k) = (δ.accountId, δ.instrumentId))

/-- **The exposure follows the fills**: after the events `evs` it has moved by what the fills on the
position add up to, with the sign of their orders. -/
def ExposureFollows (s : OmsCoreV2) (a : Int) (k : ℕ) (evs : List OmsEvent) : Prop :=
  ∀ t ∈ run handle s evs, t.positions.exposureAt a k = s.positions.exposureAt a k +
    totalChange ((trace step deltasOf s (evs.flatMap ops)).filter (atKey a k))

/-- One delta after another finds the position at the key long. -/
def FillsLong (a : Int) (k : ℕ) (ts : Int) : PositionStoreV2 → List PositionDeltaV2 → Prop
  | _, [] => True
  | ps, δ :: δs => (atKey a k δ = true → (ps.found δ).isShort = false) ∧
      FillsLong a k ts (ps.applyDelta δ ts) δs

instance FillsLong.decidable (a : Int) (k : ℕ) (ts : Int) :
    (ps : PositionStoreV2) → (δs : List PositionDeltaV2) → Decidable (FillsLong a k ts ps δs)
  | _, [] => .isTrue trivial
  | ps, δ :: δs =>
    have := FillsLong.decidable a k ts (ps.applyDelta δ ts) δs
    inferInstanceAs (Decidable (_ ∧ _))

/-- The operations that keep the exposure in step with the fills: every fill on the position finds
it long, and no exchange sync overwrites it. -/
def KeepsExposure (a : Int) (k : ℕ) (s : OmsCoreV2) : Op → Prop
  | .report r => FillsLong a k r.updateTimestamp s.positions (s.deltasOf (.report r))
  | .balanceUpdate _ u => s.seeds u a k = false
  | _ => True

instance (a : Int) (k : ℕ) (s : OmsCoreV2) : (op : Op) → Decidable (s.KeepsExposure a k op)
  | .report _ | .balanceUpdate .. | .place .. | .cancel .. | .panic _ | .dontPanic _
  | .sendFailed .. | .cancelSendFailed .. | .reload _ => by
    dsimp only [KeepsExposure]; infer_instance

lemma exposureAt_applyDeltas {ts : Int} {δs : List PositionDeltaV2} (h : FillsLong a k ts ps δs) :
    (applyDeltas ps δs ts).exposureAt a k =
      ps.exposureAt a k + totalChange (δs.filter (atKey a k)) := by
  induction δs generalizing ps with
  | nil => simp [applyDeltas, totalChange]
  | cons δ δs ih =>
    have hcons : applyDeltas ps (δ :: δs) ts = applyDeltas (ps.applyDelta δ ts) δs ts := rfl
    rw [hcons, ih h.2, exposureAt_applyDelta, filter_cons]
    by_cases hkey : (a, k) = (δ.accountId, δ.instrumentId)
    · have hat : atKey a k δ = true := by simpa [atKey] using hkey
      rw [if_pos hkey, if_pos hat, h.1 hat, if_neg (by simp), totalChange, totalChange,
        map_cons, sum_cons, add_assoc]
    · have hat : atKey a k δ = false := by simpa [atKey] using hkey
      rw [if_neg hkey, hat, if_neg (by simp)]

lemma exposureAt_closePositions (ps : PositionStoreV2) (l : LiveOrder) (a : Int) (k : ℕ) :
    (closePositions ps l).exposureAt a k = ps.exposureAt a k := by
  simp only [closePositions]
  cases l.accountingFlags.posInstrumentId with
  | none => rfl
  | some posId =>
    split_ifs
    · rfl
    · exact ps.exposureAt_unfreeze _ _ _ a k
    · rfl

lemma deltasOf_of_idle {op : Op} (h : s.Idle op) : s.deltasOf op = [] := by
  cases op with
  | report r =>
    cases ht : s.reportTarget r with
    | none => simp [deltasOf, ht]
    | some t =>
      have hnone := h.2 t.1 t.2 ht
      simp [deltasOf, ht, fillLoop, hnone]
  | _ => rfl

/-- **One operation moves the exposure by its fills.** -/
theorem exposure_step {s' : OmsCoreV2} {op : Op} (hk : SameKeys s.orders)
    (hok : s.KeepsExposure a k op) (h : s.step op = some s') :
    s'.positions.exposureAt a k =
      s.positions.exposureAt a k + totalChange ((s.deltasOf op).filter (atKey a k)) := by
  have hnil : totalChange (filter (atKey a k) []) = 0 := rfl
  cases step_cases hk h with
  | quiet _ _ hpos hidle =>
    rw [deltasOf_of_idle hidle, hnil, add_zero]
    rcases hpos with hpos | ⟨now, u, rfl, -⟩
    · rw [hpos]
    · obtain ⟨actions, h₁⟩ := exists_actions h
      exact exposureAt_processBalanceUpdate h₁ hok
  | rejected _ _ _ _ _ _ _ _ hpos =>
    rw [hpos]
    exact (add_zero _).symm
  | accepted _ _ _ _ _ _ hbook =>
    show _ = _ + totalChange (filter (atKey a k) [])
    rw [hnil, add_zero]
    generalize s'.positions = ps at hbook
    generalize s'.reservations = rs at hbook
    cases hbook with
    | nothing => rfl
    | cash => rfl
    | inventory j hinv ps hps => exact exposureAt_checkAndFreeze hps a k
  | sendFailed _ _ _ hfail =>
    show _ = _ + totalChange (filter (atKey a k) [])
    rw [hnil, add_zero, hfail.positions]
    split_ifs
    · rfl
    · exact exposureAt_closePositions _ _ a k
  | report r _ _ l _ _ _ _ ht hl hd spec =>
    obtain ⟨os₁, fl, l₁, hloop, -⟩ := spec.refs
    obtain ⟨live, hlive, -⟩ := fillLoop_eq hl hd hloop
    have hdeltas : s.deltasOf (.report r) = fillDeltas l (reportEffect l r).fills := by
      simp [deltasOf, ht, hlive]
    have hlong : FillsLong a k r.updateTimestamp s.positions (s.deltasOf (.report r)) := hok
    rw [hdeltas] at hlong ⊢
    rw [← exposureAt_applyDeltas hlong, spec.positions]
    split_ifs
    · exact exposureAt_closePositions _ _ a k
    · rfl
  | external r _ _ _ _ hx spec =>
    have hdeltas : s.deltasOf (.report r) = [] := by
      simp [deltasOf, reportTarget_of_createsExternal hx]
    rw [hdeltas, hnil, add_zero, positions_of_external spec]

/-- **Net exposure and fills.**  A fill moves the exposure of the position by its quantity, up for a
buy and down for a sell, if and only if the position it finds is long; and after any run whose fills
on the position all find it long, and in which no exchange sync overwrites it, the exposure is what
it was plus the signed fills. -/
theorem exposure_follows_fills (u : OmsSetup) (before : List OmsEvent) (s : OmsCoreV2)
    (hreach : run handle u.start before = some s) (a : Int) (k : ℕ) :
    (∀ (ps : PositionStoreV2) (l : LiveOrder) (q : ℚ) (ts : Int), l.accountId = a → 0 < q →
      ((ps.applyDelta (fillDelta l k q) ts).exposureAt a k =
        ps.exposureAt a k + signedFill l q ↔ (ps.found (fillDelta l k q)).isShort = false)) ∧
    ∀ evs : List OmsEvent, Guarded step (KeepsExposure a k) s (evs.flatMap ops) →
      ExposureFollows s a k evs := by
  constructor
  · rintro ps l q ts rfl hq
    have hchange : (fillDelta l k q).totalChange = signedFill l q := by
      simp [fillDelta, signedFill]
    have hne : signedFill l q ≠ 0 := by
      rw [signedFill]
      split_ifs
      · exact hq.ne'
      · exact neg_ne_zero.mpr hq.ne'
    have hkey : (l.accountId, k) = ((fillDelta l k q).accountId, (fillDelta l k q).instrumentId) :=
      rfl
    rw [exposureAt_applyDelta, if_pos hkey, hchange, add_right_inj]
    cases (ps.found (fillDelta l k q)).isShort with
    | true =>
      rw [if_pos rfl]
      refine iff_of_false (fun heq => hne ?_) (by simp)
      linarith
    | false => simp
  · intro evs hok t ht
    have hk := sameKeys_run (sameKeys_start u) hreach
    have hr : run step s (evs.flatMap ops) = some t := by
      rw [← run_handle]
      exact ht
    have h : SameKeys t.orders ∧ t.positions.exposureAt a k = s.positions.exposureAt a k +
        totalChange (([] ++ trace step deltasOf s (evs.flatMap ops)).filter (atKey a k)) := by
      refine run_trace_invariant (I := fun t h => SameKeys t.orders ∧ t.positions.exposureAt a k =
        s.positions.exposureAt a k + totalChange (h.filter (atKey a k))) (h := []) ?_
        ⟨hk, (add_zero _).symm⟩ hok hr
      rintro s₁ h op s₂ ⟨hk₁, hexp⟩ hop hstep
      refine ⟨sameKeys_step hk₁ hstep, ?_⟩
      rw [exposure_step hk₁ hop hstep, hexp, filter_append, totalChange, totalChange,
        totalChange, map_append, sum_append, add_assoc]
    exact h.2

open Sample

/-- A position that is bought, sold past zero and left short: the flip is right. -/
theorem exposure_follows_sample :
    ExposureFollows (setup false false 4).start 1 5
      [place 10 .buy 3, place 11 .sell 5, report 10 [state .filled 3],
        report 11 [state .filled 5]] ∧
    ∃ t ∈ run handle (setup false false 4).start
      [place 10 .buy 3, place 11 .sell 5, report 10 [state .filled 3],
        report 11 [state .filled 5]], t.positions.exposureAt 1 5 = -2 :=
  ⟨(exposure_follows_fills (setup false false 4) [] _ rfl 1 5).2 _ (by decide +kernel),
    by decide +kernel⟩

/-- A sell of 5 that finds no position leaves an exposure of 5, not of −5. -/
theorem exposure_moves_wrong_way :
    ¬ ExposureFollows (setup false false 4).start 1 5
      [place 10 .sell 5, report 10 [state .filled 5]] ∧
    ∃ t ∈ run handle (setup false false 4).start
      [place 10 .sell 5, report 10 [state .filled 5]],
      t.positions.exposureAt 1 5 = 5 := by
  have hwrong : ∀ evs, (∃ t ∈ run handle (setup false false 4).start evs,
      t.positions.exposureAt 1 5 = 5 ∧ (setup false false 4).start.positions.exposureAt 1 5 +
        totalChange ((trace step deltasOf (setup false false 4).start (evs.flatMap ops)).filter
          (atKey 1 5)) = -5) → ¬ ExposureFollows (setup false false 4).start 1 5 evs := by
    rintro evs ⟨t, ht, hexp, hfills⟩ h
    have heq := h t ht
    rw [hexp, hfills] at heq
    norm_num at heq
  exact ⟨hwrong _ (by decide +kernel), by decide +kernel⟩

end OmsCoreV2

end Zkbot
