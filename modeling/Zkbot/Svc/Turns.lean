import Zkbot.Svc.Actor

/-!
# A command in small steps

While a command is handled, the core performs operations and the writer carries out their actions.
The two are interleaved: a full gateway queue makes the core perform an operation in the middle of
the loop over the actions.  A `Turn` is a moment in between, with the actions that are still
`pending`, and `Turn.Step` is what happens next: the core performs an operation, whose actions join
the end of the queue, or the first pending action is carried out.

`processMessageCommand_turns` says that a command is a sequence of such steps, at the end of which
nothing is pending.  What every step preserves therefore holds when the snapshot is published
(`Turn.Step.invariant`), and the interleaving is dealt with once.
-/

namespace Zkbot

open List Option OmsEvent OmsCoreV2

open Relation (ReflTransGen)

namespace OmsService

variable {full : ℕ → Option Int} {a : OmsActionV2 × ℕ}

/-- A moment in the handling of a command. -/
structure Turn where
  core : OmsCoreV2
  writer : OmsSnapshotWriterV2
  balancesDirty : Bool := false
  positionsDirty : Bool := false
  pending : List OmsActionV2 := []

/-- What can happen next; `ok` is a condition on the operations. -/
inductive Turn.Step (ok : OmsCoreV2 → Op → Prop) (t : Turn) : Turn → Prop where
  | perform (op : Op) (core : OmsCoreV2) (actions : List OmsActionV2)
      (hmsg : op.isReload = false) (hok : ok t.core op)
      (h : t.core.perform op = some (core, actions)) :
      Turn.Step ok t { t with core, pending := t.pending ++ actions }
  | persistOrder (orderId : Int) (setExpire setClosed : Bool) (rest : List OmsActionV2)
      (hp : t.pending = .persistOrder orderId setExpire setClosed :: rest)
      (writer : OmsSnapshotWriterV2)
      (hw : persistOrder t.core t.writer orderId setClosed = some writer) :
      Turn.Step ok t { t with writer, pending := rest }
  | publishBalances (accountId : Int) (rest : List OmsActionV2)
      (hp : t.pending = .publishBalanceUpdate accountId :: rest) :
      Turn.Step ok t { t with balancesDirty := true, pending := rest }
  | publishPositions (accountId : Int) (rest : List OmsActionV2)
      (hp : t.pending = .publishPositionUpdate accountId :: rest) :
      Turn.Step ok t { t with positionsDirty := true, pending := rest }
  /-- any other action leaves no mark -/
  | skip (a : OmsActionV2) (rest : List OmsActionV2) (hp : t.pending = a :: rest)
      (hpersist : ∀ orderId setExpire setClosed, a ≠ .persistOrder orderId setExpire setClosed)
      (hbal : ∀ accountId, a ≠ .publishBalanceUpdate accountId)
      (hpos : ∀ accountId, a ≠ .publishPositionUpdate accountId) :
      Turn.Step ok t { t with pending := rest }

/-- What every step preserves holds at the end. -/
theorem Turn.Step.invariant {ok : OmsCoreV2 → Op → Prop} {I : Turn → Prop}
    (hstep : ∀ t t', I t → Turn.Step ok t t' → I t') {t t' : Turn} (h0 : I t)
    (h : ReflTransGen (Turn.Step ok) t t') : I t' := by
  induction h with
  | refl => exact h0
  | tail _ hlast ih => exact hstep _ _ ih hlast

/-! ## The operations of a command -/

/-- The operations that a command makes the core perform: those of its message, and the failures of
requests that the queue does not take. -/
def operations (x : OmsService) (d : Delivery) : List Op :=
  match d.command with
  | .reloadConfig newConfig => [.reload newConfig.toConfdataManager]
  | command =>
    command.message.elim [] fun msg =>
      (message d.now msg).ops ++
        (x.core.processMessage d.now msg).elim [] fun r =>
          r.2.zipIdx.filterMap (failureOp d.queueFull)

/-- An action that a failed request can cause. -/
def IsFailureAction (a : OmsActionV2) : Prop :=
  match a with
  | .persistOrder .. | .publishOrderUpdate .. => True
  | _ => False

lemma isReload_of_failureOp {op : Op} (hop : failureOp full a = some op) : op.isReload = false := by
  simp only [failureOp] at hop
  split at hop
  · obtain ⟨now, -, rfl⟩ := map_eq_some_iff.mp hop
    rfl
  · obtain ⟨now, -, rfl⟩ := map_eq_some_iff.mp hop
    rfl
  · cases hop

lemma isFailureAction_of_perform {s s' : OmsCoreV2} {op : Op} {actions : List OmsActionV2}
    (hop : failureOp full a = some op) (h : s.perform op = some (s', actions)) :
    ∀ b ∈ actions, IsFailureAction b := by
  have hcase : (∃ now id msg, op = .sendFailed now id msg) ∨
      ∃ now id msg, op = .cancelSendFailed now id msg := by
    simp only [failureOp] at hop
    split at hop
    · obtain ⟨now, -, rfl⟩ := map_eq_some_iff.mp hop
      exact .inl ⟨now, _, _, rfl⟩
    · obtain ⟨now, -, rfl⟩ := map_eq_some_iff.mp hop
      exact .inr ⟨now, _, _, rfl⟩
    · cases hop
  rcases hcase with ⟨now, id, msg, rfl⟩ | ⟨now, id, msg, rfl⟩
  · cases processGatewaySendFailed_cases h <;> simp [IsFailureAction]
  · rcases (processGatewayCancelSendFailed_quiet h).2 with rfl | ⟨l, -, -, rfl⟩
    · simp
    · simp [IsFailureAction]

section Turns

variable {ok : OmsCoreV2 → Op → Prop} {full : ℕ → Option Int} {y : Dispatch} {core : OmsCoreV2}
  {actions : List OmsActionV2} {a : OmsActionV2 × ℕ} {x' : OmsService}

lemma turns_perform {ops : List Op} {t : Turn} (hmsg : ∀ op ∈ ops, op.isReload = false)
    (hg : Guarded step ok t.core ops)
    (h : processBatch perform t.core ops = some (core, actions)) :
    ReflTransGen (Turn.Step ok) t { t with core, pending := t.pending ++ actions } := by
  induction ops generalizing t core actions with
  | nil =>
    cases h
    rw [append_nil]
  | cons op ops ih =>
    obtain ⟨s₁, new, rest, hop, hrest, rfl⟩ := processBatch_cons_eq_some h
    have htail := ih (t := { t with core := s₁, pending := t.pending ++ new })
      (forall_mem_cons.mp hmsg).2
      (hg.2 s₁ (step_of_perform hop)) hrest
    rw [append_assoc] at htail
    exact .head (.perform op s₁ new (hmsg op mem_cons_self) hg.1 hop) htail

/-- The turn that a state of the loop stands for, with the actions it has yet to look at. -/
def Dispatch.turn (y : Dispatch) (rest : List OmsActionV2) : Turn :=
  { core := y.core, writer := y.writer, balancesDirty := y.balancesDirty,
    positionsDirty := y.positionsDirty, pending := rest }

/-- A request that the queue does not take: the core handles the failure. -/
lemma dispatchAction_of_failure {y' : Dispatch} {op : Op} (hop : failureOp full a = some op)
    (h : dispatchAction full y a = some y') :
    ∃ core actions, y.core.perform op = some (core, actions) ∧
      y' = { y with core, failureActions := y.failureActions ++ actions } ∧
      ∀ rest, Turn.Step ok (y.turn (a.1 :: rest)) (y.turn rest) := by
  obtain ⟨a, i⟩ := a
  cases a with
  | sendOrderToGw _ _ _ | sendCancelToGw _ _ =>
    obtain ⟨now, hfull, rfl⟩ := map_eq_some_iff.mp hop
    simp only [dispatchAction, hfull, bind_eq_some] at h
    obtain ⟨⟨core, actions⟩, hcore, h⟩ := h
    cases h
    exact ⟨core, actions, hcore, rfl, fun rest => .skip _ rest rfl (by simp) (by simp) (by simp)⟩
  | _ => cases hop

/-- Any other action is carried out, and the core is left alone. -/
lemma dispatchAction_of_taken {y' : Dispatch} (hop : failureOp full a = none)
    (h : dispatchAction full y a = some y') (rest : List OmsActionV2) :
    Turn.Step ok (y.turn (a.1 :: rest)) (y'.turn rest) ∧ y'.core = y.core ∧
      y'.failureActions = y.failureActions := by
  obtain ⟨a, i⟩ := a
  cases a with
  | persistOrder orderId setExpire setClosed =>
    simp only [dispatchAction, bind_eq_some] at h
    obtain ⟨writer, hw, h⟩ := h
    cases h
    exact ⟨.persistOrder orderId setExpire setClosed rest rfl writer hw, rfl, rfl⟩
  | publishBalanceUpdate accountId =>
    cases h
    exact ⟨.publishBalances accountId rest rfl, rfl, rfl⟩
  | publishPositionUpdate accountId =>
    cases h
    exact ⟨.publishPositions accountId rest rfl, rfl, rfl⟩
  | sendOrderToGw _ _ _ | sendCancelToGw _ _ =>
    have hfull : full i = none := by simpa [failureOp] using hop
    simp only [dispatchAction, hfull] at h
    cases h
    exact ⟨.skip _ rest rfl (by simp) (by simp) (by simp), rfl, rfl⟩
  | publishOrderUpdate _ _ _ _ _ | persistBalance _ _ | persistPosition _ _ =>
    cases h
    exact ⟨.skip _ rest rfl (by simp) (by simp) (by simp), rfl, rfl⟩

/-- The loop over the actions.  What inline failures ask for is pending when it is over. -/
lemma turns_dispatch {as : List (OmsActionV2 × ℕ)} {z : Dispatch}
    (hg : Guarded step ok y.core (as.filterMap (failureOp full)))
    (hf : ∀ b ∈ y.failureActions, IsFailureAction b)
    (h : as.foldlM (dispatchAction full) y = some z) :
    ReflTransGen (Turn.Step ok) (y.turn (as.map (·.1) ++ y.failureActions))
      (z.turn z.failureActions) ∧ ∀ b ∈ z.failureActions, IsFailureAction b := by
  induction as generalizing y with
  | nil =>
    cases h
    exact ⟨.refl, hf⟩
  | cons a as ih =>
    rw [foldlM_cons, bind_eq_some] at h
    obtain ⟨y', hy', h⟩ := h
    cases hop : failureOp full a with
    | none =>
      obtain ⟨hstep, hcore, hfail⟩ := dispatchAction_of_taken hop hy'
        (as.map (·.1) ++ y.failureActions)
      rw [filterMap_cons_none hop, ← hcore] at hg
      rw [← hfail] at hf
      obtain ⟨hrest, hend⟩ := ih hg hf h
      rw [hfail] at hrest
      exact ⟨.head hstep hrest, hend⟩
    | some op =>
      rw [filterMap_cons_some hop] at hg
      obtain ⟨core, actions, hperform, rfl, hskip⟩ := dispatchAction_of_failure hop hy'
      have hf' : ∀ b ∈ y.failureActions ++ actions, IsFailureAction b := by
        intro b hb
        rcases mem_append.mp hb with hb | hb
        · exact hf b hb
        · exact isFailureAction_of_perform hop hperform b hb
      obtain ⟨hrest, hend⟩ := ih (hg.2 core (step_of_perform hperform)) hf' h
      have hfailed : Turn.Step ok (y.turn (as.map (·.1) ++ y.failureActions))
          { y.turn (as.map (·.1) ++ y.failureActions) with
            core, pending := (as.map (·.1) ++ y.failureActions) ++ actions } :=
        .perform op core actions (isReload_of_failureOp hop) hg.1 hperform
      rw [append_assoc] at hfailed
      exact ⟨.head (hskip _) (.head hfailed hrest), hend⟩

/-- The loop over the actions of inline failures. -/
lemma turns_dispatchFailure {as : List OmsActionV2} {z : Dispatch}
    (hf : ∀ b ∈ as, IsFailureAction b) (h : as.foldlM dispatchFailureAction y = some z) :
    ReflTransGen (Turn.Step ok) (y.turn as) (z.turn []) := by
  induction as generalizing y with
  | nil =>
    cases h
    exact .refl
  | cons a as ih =>
    rw [foldlM_cons, bind_eq_some] at h
    obtain ⟨y', hy', h⟩ := h
    refine .head ?_ (ih (forall_mem_cons.mp hf).2 h)
    cases a with
    | persistOrder orderId setExpire setClosed =>
      simp only [dispatchFailureAction, bind_eq_some] at hy'
      obtain ⟨writer, hw, hy'⟩ := hy'
      cases hy'
      exact .persistOrder orderId setExpire setClosed as rfl writer hw
    | publishOrderUpdate _ _ _ _ _ =>
      cases hy'
      exact .skip _ as rfl (by simp) (by simp) (by simp)
    | _ => exact (hf _ mem_cons_self).elim

/-- **A command is a sequence of small steps**, and nothing is pending at its end. -/
theorem processMessageCommand_turns {x : OmsService} {d : Delivery} {msg : OmsMessage}
    (hcore : x.core.processMessage d.now msg = some (core, actions))
    (hg : Guarded step ok x.core ((message d.now msg).ops ++
      actions.zipIdx.filterMap (failureOp d.queueFull)))
    (h : x.processMessageCommand d msg = some x') :
    ∃ z : Dispatch, ReflTransGen (Turn.Step ok)
        { core := x.core, writer := panicUpdate x.writer d.command } (z.turn []) ∧
      x' = x.published z d.publishedAt := by
  simp only [processMessageCommand, hcore, some_bind, bind_eq_some] at h
  obtain ⟨y, hy, z, hz, h⟩ := h
  have hrun : run step x.core (message d.now msg).ops = some core := by
    rw [← handle_eq_run, handle, hcore]
    rfl
  have hops := hcore
  rw [processMessage_eq] at hops
  have hperform := turns_perform
    (t := { core := x.core, writer := panicUpdate x.writer d.command }) isReload_of_message hg.left
    hops
  obtain ⟨hloop, hf⟩ := turns_dispatch (hg.right hrun) (fun b hb => by cases hb) hy
  have hfailures : ReflTransGen (Turn.Step ok) (y.turn y.failureActions) (z.turn []) :=
    turns_dispatchFailure hf hz
  refine ⟨z, ?_, (some.inj h).symm⟩
  rw [zipIdx_map_fst, append_nil] at hloop
  exact hperform.trans (hloop.trans hfailures)

/-- The ways a command can be handled. -/
inductive CommandCase (ok : OmsCoreV2 → Op → Prop) (x : OmsService) (d : Delivery)
    (x' : OmsService) : Prop where
  /-- it is not for `process_command` -/
  | other (hs : x' = x)
  /-- a reload, with new name tables and everything rebuilt -/
  | reload (config : Confdata) (core : OmsCoreV2) (names : SnapshotMetadata)
      (hok : ok x.core (.reload config.toConfdataManager))
      (hcore : x.core.reloadConfig config.toConfdataManager = some core)
      (hnames : core.buildSnapshotMetadata = some names)
      (hs : x' = x.published
        { core, writer := x.writer.updateMetadata names, balancesDirty := true,
          positionsDirty := true } d.publishedAt)
  /-- a message for the core, in small steps -/
  | message (z : Dispatch)
      (hturns : ReflTransGen (Turn.Step ok)
        { core := x.core, writer := panicUpdate x.writer d.command } (z.turn []))
      (hs : x' = x.published z d.publishedAt)

theorem processCommand_cases {x : OmsService} {d : Delivery}
    (hg : Guarded step ok x.core (x.operations d)) (h : x.processCommand d = some x') :
    CommandCase ok x d x' := by
  -- a command that is a message
  have hmsg : ∀ msg, x.processMessageCommand d msg = some x' →
      Guarded step ok x.core ((message d.now msg).ops ++
        (x.core.processMessage d.now msg).elim [] fun r =>
          r.2.zipIdx.filterMap (failureOp d.queueFull)) → CommandCase ok x d x' := by
    intro msg h hg
    cases hcore : x.core.processMessage d.now msg with
    | none => simp [processMessageCommand, hcore] at h
    | some r =>
      rw [hcore, elim_some] at hg
      obtain ⟨z, hturns, hs⟩ := processMessageCommand_turns hcore hg h
      exact .message z hturns hs
  obtain ⟨command, now, full, publishedAt⟩ := d
  cases command with
  | reloadConfig config =>
    simp only [processCommand, bind_eq_some] at h
    obtain ⟨core, hcore, names, hnames, h⟩ := h
    exact .reload config core names hg.1 hcore hnames (some.inj h).symm
  | orderReconcile | gatewayDiscovered | gatewayRemoved => exact .other (some.inj h).symm
  | _ =>
    refine hmsg _ ?_ hg
    exact h

end Turns

end OmsService

end Zkbot
