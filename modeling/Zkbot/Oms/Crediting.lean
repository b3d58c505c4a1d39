import Zkbot.Oms.Routing

/-!
# Whom a balance update is credited to

`process_balance_update` finds one account, from the exchange account of the *first* entry, and
stores every entry of the message under it.  It looks the account up in a reverse map that
`OmsCoreV2::new` builds from the routes and that no reload touches; the current routes are searched
only if the map has nothing.

* `positionResponseToBalanceUpdateForOms` — how the service turns a gateway's positions, of all the
  accounts it serves, into one balance update.
* `credits` — the entries an update stores, each with its account; `processBalanceUpdate_credits`
  says that storing them is all the update does.
* `credited_iff` — every entry goes to its own account exactly if the account that the first entry's
  exchange account belonged to when the core was built is still routed to the exchange account of
  every entry that is stored.
-/

namespace Zkbot

open List Option InternTable MetadataTables

/-! ## Balance updates from a gateway -/

/-- `PositionResponse`: the positions of all accounts a gateway serves. -/
structure PositionResponse where
  positions : List Position

namespace ConfdataManager

/-- `exch_account_code_for_gw`: the exchange account of some account routed to the gateway. -/
def exchAccountCodeForGw (config : ConfdataManager) (gwKey : String) : Option String :=
  ((config.gwKeyToAccountIds.lookup gwKey).bind fun accountIds =>
    accountIds.findSome? fun a => config.accountRoutes.lookup a).map (·.exchAccountId)

def inferGatewayInstrumentType (instrumentCode : String) : InstrumentType :=
  let code := instrumentCode.toList
  if "SWAP".toList <:+: code then .perp
  else if "FUTURES".toList <:+: code ∨ '-' ∈ code ∧ 2 ≤ code.count '-' then .future
  else if '_' ∈ code then .cfd
  else .spot

def positionResponseToBalanceUpdateForOms (config : ConfdataManager) (gwKey : String)
    (response : PositionResponse) : BalanceUpdate where
  balances := response.positions.map fun p =>
    { instrumentCode := p.instrumentCode
      instrumentType := if p.instrumentType ≠ .unspecified then p.instrumentType
        else inferGatewayInstrumentType p.instrumentCode
      longShortType := p.longShortType
      qty := p.totalQty
      availQty := p.availQty
      exchAccountCode := ((config.accountRoutes.lookup p.accountId).map (·.exchAccountId)).getD
        ((config.exchAccountCodeForGw gwKey).getD "")
      updateTimestamp := 0 }

end ConfdataManager

namespace OmsCoreV2

/-! ## What an update stores -/

/-- Whether an entry is stored once the account is known: spot entries always are, the others if the
account's gateway knows the instrument. -/
def stores (s : OmsCoreV2) (accountId : Int) (e : PositionReport) : Bool :=
  decide (e.instrumentType = .spot) ||
    ((s.metadata.route accountId).bind fun route =>
      s.metadata.resolveInstrumentByGw route.gwId e.instrumentCode).isSome

/-- The entries an update stores, each with the account it is stored under. -/
def credits (s : OmsCoreV2) (update : BalanceUpdate) : List (Int × PositionReport) :=
  match update.balances.head?.bind fun first => s.accountOfExchAccount first.exchAccountCode with
  | none => []
  | some accountId =>
    (update.balances.filter (fun e => decide (e.instrumentType = .spot)) ++
      (update.balances.filter fun e => decide (e.instrumentType ≠ .spot)).filter
        (s.stores accountId)).map (accountId, ·)

/-- Store one entry under an account. -/
def storeEntry (now : Int) (s : OmsCoreV2) (c : Int × PositionReport) : Option OmsCoreV2 :=
  if c.2.instrumentType = .spot then some (applySpotEntry c.1 now (s, []) c.2).1
  else (applyPositionEntry c.1 now (s, []) c.2).map (·.1)

section

variable {accountId now : Int} {es : List PositionReport}

lemma foldlM_storeEntry_spot (hes : ∀ e ∈ es, e.instrumentType = .spot) (s : OmsCoreV2) :
    (es.map (accountId, ·)).foldlM (storeEntry now) s =
      some { s with balances := es.foldl (storeBalance s.metadata accountId now) s.balances } := by
  induction es generalizing s with
  | nil => rfl
  | cons e es ih =>
    obtain ⟨he, hes⟩ := forall_mem_cons.mp hes
    rw [map_cons, foldlM_cons, storeEntry, if_pos he, applySpotEntry_eq, some_bind, ih hes]
    rfl

lemma foldlM_storeEntry_position (hes : ∀ e ∈ es, e.instrumentType ≠ .spot) {s : OmsCoreV2}
    {ps : PositionStoreV2}
    (h : es.foldlM (storePosition s.metadata accountId now) s.positions = some ps) :
    ((es.filter (s.stores accountId)).map (accountId, ·)).foldlM (storeEntry now) s =
      some { s with positions := ps } := by
  induction es generalizing s with
  | nil =>
    cases h
    rfl
  | cons e es ih =>
    obtain ⟨he, hes⟩ := forall_mem_cons.mp hes
    obtain ⟨ps₁, h₁, h₂⟩ := bind_eq_some.mp h
    have hrest := ih hes (s := { s with positions := ps₁ }) h₂
    by_cases hst : s.stores accountId e = true
    · rw [filter_cons_of_pos hst, map_cons, foldlM_cons, storeEntry, if_neg he,
        applyPositionEntry_eq, h₁]
      exact hrest
    · rw [filter_cons_of_neg hst]
      have hnone : positionInstrument s.metadata accountId e = none := by
        simpa [stores, he, positionInstrument] using hst
      rw [storePosition, hnone] at h₁
      cases h₁
      exact hrest

end

/-- **All that a balance update does to the core is to store its credits.** -/
theorem processBalanceUpdate_credits {s s' : OmsCoreV2} {now : Int} {update : BalanceUpdate}
    {actions : List OmsActionV2} (h : s.processBalanceUpdate now update = some (s', actions)) :
    (s.credits update).foldlM (storeEntry now) s = some s' := by
  rcases processBalanceUpdate_spec h with ⟨hacct, rfl, -⟩ | ⟨accountId, ps, hacct, hps, rfl, -⟩
  · simp only [updatedAccount] at hacct
    simp [credits, hacct]
  · simp only [updatedAccount] at hacct
    simp only [credits, hacct]
    rw [map_append, foldlM_append, foldlM_storeEntry_spot (by simp)]
    exact foldlM_storeEntry_position (by simp) hps

/-! ## Who owns an exchange account -/

def exchAccountOf (s : OmsCoreV2) (accountId : Int) : Option String :=
  (s.metadata.route accountId).bind fun route => s.metadata.strResolve route.exchAccountSym

def currentOwner (s : OmsCoreV2) (exchAccountCode : String) : Option Int :=
  (s.metadata.routeByAccount.entries.find? fun e =>
    s.metadata.strResolve e.2.exchAccountSym = some exchAccountCode).map (·.1)

end OmsCoreV2

/-- The account that was routed to an exchange account when the core was built; the last one, if
there were several. -/
def OmsSetup.firstOwner (u : OmsSetup) (exchAccountCode : String) : Option Int :=
  let md := fromConfdata u.config
  (md.routeByAccount.entries.reverse.find? fun e =>
    md.strResolve e.2.exchAccountSym = some exchAccountCode).map (·.1)

namespace OmsCoreV2

variable {u : OmsSetup} {s : OmsCoreV2}

lemma lookup_reverseMap (u : OmsSetup) (code : String) :
    ((fromConfdata u.config).strings.lookup code).bind
      u.blank.balances.resolveAccountId = u.firstOwner code := by
  have hmap : ∀ sym, u.blank.balances.resolveAccountId sym =
      (((fromConfdata u.config).routeByAccount.entries.reverse.find? fun e =>
        decide (e.2.exchAccountSym = sym)).map (·.1)).or none :=
    fun sym => Dict.lookup_foldl_insert
      (fun e : Sigma fun _ : Int => RouteMeta => e.2.exchAccountSym) (·.1) _ ∅ sym
  rw [OmsSetup.firstOwner]
  generalize fromConfdata u.config = md at hmap
  cases hcode : md.strings.lookup code with
  | none =>
    -- a string that is not interned is no route's exchange account
    rw [bind_none, eq_comm, map_eq_none_iff, find?_eq_none]
    intro e _ he
    rw [decide_eq_true_iff] at he
    rw [lookup_eq_some.mpr he] at hcode
    cases hcode
  | some sym =>
    rw [bind_some, hmap, or_none]
    congr 2
    funext e
    refine decide_eq_decide.mpr ?_
    constructor
    · rintro rfl
      exact lookup_eq_some.mp hcode
    · intro he
      rw [strResolve, ← lookup_eq_some, hcode] at he
      exact (some.inj he).symm

lemma resolve_of_resolveAccountId {sym : ℕ} {a : Int}
    (h : u.blank.balances.resolveAccountId sym = some a) :
    ∃ code, (fromConfdata u.config).strings.resolve sym = some code := by
  have hlast := Dict.lookup_foldl_insert
    (fun e : Sigma fun _ : Int => RouteMeta => e.2.exchAccountSym) (·.1)
    (fromConfdata u.config).routeByAccount.entries ∅ sym
  have hsome : (((fromConfdata u.config).routeByAccount.entries.reverse.find?
      fun e => decide (e.2.exchAccountSym = sym)).map (·.1)).or none = some a := hlast.symm.trans h
  rw [or_none, map_eq_some_iff] at hsome
  obtain ⟨e, he, -⟩ := hsome
  have hmem := mem_reverse.mp (mem_of_find?_eq_some he)
  have hsym : e.2.exchAccountSym = sym := by simpa using find?_some he
  have hgood := goodRoutes_fromConfdata u.config e.1 e.2
    (Dict.mem_entries_iff.mp hmem)
  exact isSome_iff_exists.mp (hsym ▸ hgood.exchAccountSym)

/-- What a run leaves alone: the reverse map, and the strings there were. -/
structure KeepsReverseMap (u : OmsSetup) (s : OmsCoreV2) : Prop where
  reverseMap : s.balances.accountIdByExchAccountSym = u.blank.balances.accountIdByExchAccountSym
  strings : (fromConfdata u.config).strings.Extends s.metadata.strings

lemma processBalanceUpdate_reverseMap {s' : OmsCoreV2} {now : Int} {update : BalanceUpdate}
    {actions : List OmsActionV2} (h : s.processBalanceUpdate now update = some (s', actions)) :
    s'.balances.accountIdByExchAccountSym = s.balances.accountIdByExchAccountSym := by
  rcases processBalanceUpdate_spec h with ⟨-, rfl, -⟩ | ⟨accountId, ps, -, -, rfl, -⟩
  · rfl
  · have hone : ∀ b e, (storeBalance s.metadata accountId now b e).accountIdByExchAccountSym =
        b.accountIdByExchAccountSym := by
      intro b e
      simp only [storeBalance]
      split <;> rfl
    exact foldl_preserves hone _ _

lemma keepsReverseMap_start (u : OmsSetup) : KeepsReverseMap u u.start where
  reverseMap := by
    have hord : ∀ (s : OmsCoreV2) o, (s.initOrder o).balances.accountIdByExchAccountSym =
        s.balances.accountIdByExchAccountSym := fun _ _ => rfl
    have hpos := initPosition_preserves (g := (·.balances.accountIdByExchAccountSym)) fun _ _ => rfl
    have hbal : ∀ (s : OmsCoreV2) b, (s.initBalance b).balances.accountIdByExchAccountSym =
        s.balances.accountIdByExchAccountSym := by
      intro s b
      simp only [initBalance]
      split <;> rfl
    refine (foldl_preserves (g := fun s : OmsCoreV2 => s.balances.accountIdByExchAccountSym) hbal
      _ _).trans ?_
    refine (foldl_preserves (g := fun s : OmsCoreV2 => s.balances.accountIdByExchAccountSym) hpos
      _ _).trans ?_
    exact foldl_preserves (g := fun s : OmsCoreV2 => s.balances.accountIdByExchAccountSym) hord _ _
  strings := (metadata_start u).strings

theorem keepsReverseMap_step {s' : OmsCoreV2} {op : Op} (hk : SameKeys s.orders)
    (hs : KeepsReverseMap u s) (h : s.step op = some s') : KeepsReverseMap u s' where
  reverseMap := by
    rcases (tables_step hk h).2 with hbal | ⟨now, upd, rfl⟩
    · rw [hbal]
      exact hs.reverseMap
    · obtain ⟨actions, h₁⟩ := exists_actions h
      rw [processBalanceUpdate_reverseMap h₁]
      exact hs.reverseMap
  strings := by
    intro i str hi
    rcases metadata_step hk h with hint | ⟨c, -, hreload⟩
    · exact hint.strings i str (hs.strings i str hi)
    · exact extends_rebuildFromConfig hreload i str (hs.strings i str hi)

lemma keepsReverseMap_run {evs : List OmsEvent} (h : run handle u.start evs = some s) :
    KeepsReverseMap u s :=
  (reached_invariant (fun _ _ _ => keepsReverseMap_step) (sameKeys_start u)
    (keepsReverseMap_start u) h).2

/-- **The account of an update**, in every state that is reached: whoever owned the exchange account
when the core was built, and whoever owns it now only if nobody did. -/
lemma accountOfExchAccount_eq (h : KeepsReverseMap u s) (code : String) :
    s.accountOfExchAccount code = (u.firstOwner code).or (s.currentOwner code) := by
  have hmap : (s.metadata.strings.lookup code).bind s.balances.resolveAccountId =
      u.firstOwner code := by
    rw [← lookup_reverseMap]
    have hres : s.balances.resolveAccountId = u.blank.balances.resolveAccountId := by
      funext sym
      rw [BalanceStoreV2.resolveAccountId, h.reverseMap]
      rfl
    rw [hres]
    cases hfirst : (fromConfdata u.config).strings.lookup code with
    | some sym =>
      rw [h.strings.lookup hfirst]
    | none =>
      -- a string interned later has a symbol that no route had
      rw [bind_none, bind_eq_none_iff]
      intro sym hsym
      by_contra hne
      obtain ⟨a, ha⟩ := ne_none_iff_exists'.mp hne
      obtain ⟨code', hcode'⟩ := resolve_of_resolveAccountId ha
      have hsame := lookup_inj (h.strings.lookup
        (lookup_eq_some.mpr hcode')) hsym
      rw [← hsame, lookup_eq_some.mpr hcode'] at hfirst
      cases hfirst
  rw [accountOfExchAccount, hmap]
  rfl

/-! ## Every entry to its own account -/

/-- The account an entry is stored under is routed to the exchange account the entry names. -/
def CreditedToOwn (s : OmsCoreV2) (c : Int × PositionReport) : Prop :=
  s.exchAccountOf c.1 = some c.2.exchAccountCode
deriving Decidable

/-- **Crediting.**  In every state the core reaches, storing its credits is all that a balance
update does; and every entry is stored under its own account if and only if the account that the
first entry's exchange account belonged to when the core was built (or, if it belonged to none,
belongs to now) is routed to the exchange account of every entry that is stored. -/
theorem credited_iff (u : OmsSetup) (evs : List OmsEvent) (s : OmsCoreV2)
    (hreach : run handle u.start evs = some s) (update : BalanceUpdate) :
    (∀ now s' actions, s.processBalanceUpdate now update = some (s', actions) →
      (s.credits update).foldlM (storeEntry now) s = some s') ∧
    ((∀ c ∈ s.credits update, s.CreditedToOwn c) ↔
      ∀ first ∈ update.balances.head?,
        ∀ a ∈ (u.firstOwner first.exchAccountCode).or (s.currentOwner first.exchAccountCode),
          ∀ e ∈ update.balances, s.stores a e = true →
            s.exchAccountOf a = some e.exchAccountCode) := by
  refine ⟨fun now s' actions h => processBalanceUpdate_credits h, ?_⟩
  have hacc := accountOfExchAccount_eq (keepsReverseMap_run hreach)
  cases hhead : update.balances.head? with
  | none => simp [credits, hhead]
  | some first =>
    cases hown : (u.firstOwner first.exchAccountCode).or (s.currentOwner first.exchAccountCode) with
    | none =>
      simp only [credits, hhead, bind_some, hacc, mem_def, some.injEq, forall_eq', hown]
      simp
    | some a =>
      simp only [credits, hhead, bind_some, hacc, hown, List.mem_map, List.mem_append,
        List.mem_filter, decide_eq_true_eq, mem_def, some.injEq, forall_eq']
      constructor
      · intro h e he hst
        by_cases hspot : e.instrumentType = .spot
        · exact h (a, e) ⟨e, .inl ⟨he, hspot⟩, rfl⟩
        · exact h (a, e) ⟨e, .inr ⟨⟨he, hspot⟩, hst⟩, rfl⟩
      · rintro h c ⟨e, ⟨he, hspot⟩ | ⟨⟨he, -⟩, hst⟩, rfl⟩
        · exact h e he (by simp [stores, hspot])
        · exact h e he hst

/-- Two accounts on one gateway. -/
def sampleTwoAccounts : ConfdataManager :=
  .new [1, 2] [{ accountId := 1, exchAccountId := "main", gwKey := "gw" },
      { accountId := 2, exchAccountId := "sub", gwKey := "gw" }]
    [{ exchName := "X", gwKey := "gw" }]
    [{ instrumentId := "P", instrumentIdExchange := "PX", exchangeName := "X",
       instrumentType := .perp, baseAsset := "B", quoteAsset := "Q", settlementAsset := "Q",
       pricePrecision := 0, qtyPrecision := 0 }] []

/-- What the gateway of `sampleTwoAccounts` answers: cash of both accounts. -/
def samplePositions : PositionResponse where
  positions := [
    { accountId := 1, instrumentCode := "B", instrumentType := .spot, totalQty := 5,
      availQty := 5 },
    { accountId := 2, instrumentCode := "Q", instrumentType := .spot, totalQty := 7,
      availQty := 7 }]

def sampleBoth : OmsSetup := { config := sampleTwoAccounts, maxCachedOrders := 4 }

/-- The cash of the first account alone is credited to it. -/
theorem credited_sample :
    ∃ s ∈ run handle sampleBoth.start [],
      s.credits (sampleTwoAccounts.positionResponseToBalanceUpdateForOms "gw"
        { positions := samplePositions.positions.take 1 }) ≠ [] ∧
      ∀ c ∈ s.credits (sampleTwoAccounts.positionResponseToBalanceUpdateForOms "gw"
        { positions := samplePositions.positions.take 1 }), s.CreditedToOwn c := by
  refine ⟨sampleBoth.start, rfl, by decide +kernel, ?_⟩
  exact (credited_iff sampleBoth [] _ rfl _).2.mpr (by decide +kernel)

/-- The cash of the second account is credited to the first. -/
theorem credited_to_first_account :
    ∃ s ∈ run handle sampleBoth.start [.message 0 (.balanceUpdate
        (sampleTwoAccounts.positionResponseToBalanceUpdateForOms "gw" samplePositions))],
      (s.metadata.strings.lookup "Q").bind s.metadata.assetBySymbol.lookup = some 1 ∧
      (s.balances.getBalance 1 1).map (·.balanceState.totalQty) = some 7 ∧
      s.balances.getBalance 2 1 = none ∧
      ¬ ∀ c ∈ sampleBoth.start.credits
        (sampleTwoAccounts.positionResponseToBalanceUpdateForOms "gw" samplePositions),
        sampleBoth.start.CreditedToOwn c := by
  decide +kernel

end OmsCoreV2

end Zkbot
