import Zkbot.Oms.StepCases

/-!
# The tables and the balances along a run

An operation other than a reload can only intern strings: the source of an order that is placed, the
name of an external order's source.  `metadata_step` says so, and what is true of the tables in
every run follows from it and from what is known of a reload.  Balances only change by balance
updates (`tables_step`).
-/

namespace Zkbot

open MetadataTables (WellBuilt Grows)

namespace MetadataTables

/-- Strings were interned, and nothing else was done. -/
def Interned (md md' : MetadataTables) : Prop :=
  ∃ t, md' = { md with strings := t } ∧ md.strings.Extends t

namespace Interned

variable {md' md : MetadataTables}

lemma refl (md : MetadataTables) : Interned md md := ⟨md.strings, rfl, fun _ _ h => h⟩

lemma intern (md : MetadataTables) (s : String) : Interned md (md.intern s).1 :=
  ⟨_, rfl, md.strings.extends_intern s⟩

lemma trans {md'' : MetadataTables} (h : Interned md md') (h' : Interned md' md'') :
    Interned md md'' := by
  obtain ⟨t, rfl, ht⟩ := h
  obtain ⟨t', rfl, ht'⟩ := h'
  exact ⟨t', rfl, fun i s hi => ht' i s (ht i s hi)⟩

lemma strings (h : Interned md md') : md.strings.Extends md'.strings := by
  obtain ⟨t, rfl, ht⟩ := h
  exact ht

lemma grows (h : Interned md md') : Grows md md' := by
  obtain ⟨t, rfl, ht⟩ := h
  exact ⟨rfl, rfl, ht⟩

end Interned

end MetadataTables

open MetadataTables (Interned)

namespace OmsCoreV2

variable {s s' : OmsCoreV2} {actions : List OmsActionV2} {now : Int} {req : OrderRequest} {op : Op}

/-! ## Starting -/

lemma interned_initOrder (s : OmsCoreV2) (v1 : OmsOrder) :
    Interned s.metadata (s.initOrder v1).metadata := by
  simp only [initOrder, convertV1Order]
  split_ifs
  · exact .refl _
  · exact .intern _ _

lemma initState_metadata (s : OmsCoreV2) (warm : List OmsOrder) (pos : List OmsManagedPosition)
    (bal : List ExchBalanceSnapshot) :
    (s.initState warm pos bal).metadata = (warm.foldl initOrder s).metadata :=
  initState_preserves s warm pos bal (·.metadata) (fun _ _ => rfl) fun _ _ => rfl

lemma interned_foldl_initOrder (warm : List OmsOrder) (s : OmsCoreV2) :
    Interned s.metadata (warm.foldl initOrder s).metadata := by
  induction warm generalizing s with
  | nil => exact .refl _
  | cons v1 warm ih => exact (interned_initOrder s v1).trans (ih (s.initOrder v1))

lemma metadata_start (u : OmsSetup) :
    Interned (MetadataTables.fromConfdata u.config) u.start.metadata := by
  rw [OmsSetup.start, initState_metadata]
  exact interned_foldl_initOrder u.orders u.blank

/-! ## One operation -/

lemma interned_internSource (s : OmsCoreV2) (req : OrderRequest) :
    Interned s.metadata (s.internSource req).metadata := by
  simp only [internSource]
  split_ifs
  · exact .refl _
  · exact .intern _ _

/-- What an operation does to the tables. -/
inductive TableCase (s s' : OmsCoreV2) : Op → Prop where
  | kept {op : Op} (hmd : s'.metadata = s.metadata) : TableCase s s' op
  | source {now : Int} {req : OrderRequest} (hadm : s.admits req)
      (hmd : s'.metadata = (s.internSource req).metadata) : TableCase s s' (.place now req)
  | external {r : OrderReport} {gwId : ℕ} (hx : s.createsExternal r = some gwId)
      (hmd : s'.metadata = (s.addExternalOrder gwId r).metadata) : TableCase s s' (.report r)
  | rebuilt {c : ConfdataManager} (hmd : s.metadata.rebuildFromConfig c = some s'.metadata) :
      TableCase s s' (.reload c)

/-- **The tables and the balances after an operation.**  Only a balance update changes balances. -/
theorem tables_step (hk : SameKeys s.orders) (h : s.step op = some s') :
    TableCase s s' op ∧ (s'.balances = s.balances ∨ ∃ now u, op = .balanceUpdate now u) := by
  cases op with
  | place now req =>
    obtain ⟨actions, h₁⟩ := exists_actions h
    cases processOrder_cases h₁ with
    | dropped _ hs =>
      rw [hs]
      exact ⟨.kept rfl, .inl rfl⟩
    | rejected hadm _ f h =>
      rw [h.state]
      refine ⟨?_, .inl rfl⟩
      cases hom : s.resolveOrderMeta req with
      | error _ => exact .kept (by simp [placedTables, hom])
      | ok om => exact .source hadm (by simp [placedTables, hom])
    | accepted hadm _ om sym gwReq h =>
      rw [h.state]
      exact ⟨.source hadm (by simp [placedTables, h.resolved]), .inl rfl⟩
  | cancel now req =>
    obtain ⟨actions, h₁⟩ := exists_actions h
    rw [(processCancel_quiet h₁).1.2]
    exact ⟨.kept rfl, .inl rfl⟩
  | report r =>
    obtain ⟨actions, h₁⟩ := exists_actions h
    cases processOrderReport_cases hk h₁ with
    | ignored _ _ hs | buffered gwId _ _ hs =>
      rw [hs]
      exact ⟨.kept rfl, .inl rfl⟩
    | applied _ _ _ _ _ _ _ _ _ _ _ spec _ =>
      rw [spec.rest]
      exact ⟨.kept rfl, .inl rfl⟩
    | created _ _ _ _ _ hx spec _ =>
      rw [spec.rest]
      exact ⟨.external hx rfl, .inl rfl⟩
  | balanceUpdate now u =>
    obtain ⟨actions, h₁⟩ := exists_actions h
    obtain ⟨b, ps, rfl, -⟩ := processBalanceUpdate_rest h₁
    exact ⟨.kept rfl, .inr ⟨now, u, rfl⟩⟩
  | panic a | dontPanic a =>
    cases h
    exact ⟨.kept rfl, .inl rfl⟩
  | sendFailed =>
    obtain ⟨actions, h₁⟩ := exists_actions h
    cases processGatewaySendFailed_cases h₁ with
    | ignored _ hs =>
      rw [hs]
      exact ⟨.kept rfl, .inl rfl⟩
    | rejected _ _ _ hfail =>
      rw [hfail.state]
      exact ⟨.kept rfl, .inl rfl⟩
  | cancelSendFailed =>
    obtain ⟨actions, h₁⟩ := exists_actions h
    rw [(processGatewayCancelSendFailed_quiet h₁).1.2]
    exact ⟨.kept rfl, .inl rfl⟩
  | reload cfg =>
    simp only [step, reloadConfig, bind_eq_some] at h
    obtain ⟨md, hmd, h⟩ := h
    cases h
    exact ⟨.rebuilt hmd, .inl rfl⟩

/-- **What an operation does to the tables**: it interns strings, or it is a reload. -/
theorem metadata_step (hk : SameKeys s.orders) (h : s.step op = some s') :
    Interned s.metadata s'.metadata ∨
      ∃ c, op = .reload c ∧ s.metadata.rebuildFromConfig c = some s'.metadata := by
  cases (tables_step hk h).1 with
  | kept hmd => exact .inl (hmd ▸ .refl _)
  | source _ hmd => exact .inl (hmd ▸ interned_internSource ..)
  | external _ hmd => exact .inl (hmd ▸ .intern _ _)
  | rebuilt hmd => exact .inr ⟨_, rfl, hmd⟩

lemma interned_step (hk : SameKeys s.orders) (hmsg : op.isReload = false)
    (h : s.step op = some s') : Interned s.metadata s'.metadata := by
  rcases metadata_step hk h with hmd | ⟨c, rfl, -⟩
  · exact hmd
  · cases hmsg

/-! ## Well-built tables -/

lemma wellBuilt_start (u : OmsSetup) : WellBuilt u.start.metadata :=
  (MetadataTables.wellBuilt_fromConfdata u.config).grows (metadata_start u).grows

/-- **No operation spoils the tables.** -/
theorem wellBuilt_step (hk : SameKeys s.orders) (hmd : WellBuilt s.metadata)
    (h : s.step op = some s') : WellBuilt s'.metadata := by
  rcases metadata_step hk h with hint | ⟨c, -, hreload⟩
  · exact hmd.grows hint.grows
  · exact MetadataTables.wellBuilt_rebuildFromConfig hmd hreload

lemma wellBuilt_run {u : OmsSetup} {evs : List OmsEvent} (h : run handle u.start evs = some s) :
    WellBuilt s.metadata :=
  (reached_invariant (fun _ _ _ => wellBuilt_step) (sameKeys_start u) (wellBuilt_start u) h).2

end OmsCoreV2

end Zkbot
