import BalanceKit.Webhook.Reconciliation

/-! One pass of the reconciliation over the addresses that a webhook is subscribed to. The
default address is known in every letter case, a snapshot only as it is subscribed. -/
namespace BalanceKit.ActiveAddresses
open Reconciliation (stale)

def isDefault (address : String) : Bool :=
  Text.toLowerCase address == Text.toLowerCase MonitoringFlag.defaultMonitoredAddress

/-- An unexpired snapshot of the address, if there is one. The order by creation time only
decides which. -/
def latestSnapshot (snapshots : List PortfolioSnapshot) (chain : ChainName) (now : Nat)
    (address : String) : Option PortfolioSnapshot :=
  snapshots.find? fun d => d.chain == chain && d.address == address && decide (now < d.expiresAt)

/-- One iteration over the subscribed addresses. -/
def inspect (snapshots : List PortfolioSnapshot) (chain : ChainName) (now : Nat)
    (addressesToRemove : List String) (address : String) : List String :=
  if isDefault address then addressesToRemove
  else
    match latestSnapshot snapshots chain now address with
    | none => addressesToRemove ++ [address]
    | some _ => addressesToRemove

/-- What is passed to `updateWebhookAddresses`, whose answer is `success`, and the
snapshots afterwards. -/
def reconcileChainAddresses (snapshots : List PortfolioSnapshot) (chain : ChainName) (now : Nat)
    (addresses : List String) (success : Bool) : ChainUpdate.Result :=
  if addresses = [] then ⟨none, snapshots⟩
  else
    let addressesToRemove := addresses.foldl (inspect snapshots chain now) []
    if addressesToRemove = [] then ⟨none, snapshots⟩
    else if success then
      ⟨some ([], addressesToRemove),
        ChainUpdate.unmarkExpiredAddresses snapshots chain addressesToRemove⟩
    else ⟨some ([], addressesToRemove), snapshots⟩

/-- Some spelling of the address has an unexpired snapshot on the chain. -/
def ActiveUpToCase (snapshots : List PortfolioSnapshot) (chain : ChainName) (now : Nat)
    (address : String) : Prop :=
  ∃ d ∈ snapshots, d.chain = chain ∧ Text.toLowerCase d.address = Text.toLowerCase address ∧
    now < d.expiresAt

/-- The address may be unsubscribed. -/
def Removable (snapshots : List PortfolioSnapshot) (chain : ChainName) (now : Nat)
    (address : String) : Prop :=
  ¬ ActiveUpToCase snapshots chain now address ∧ isDefault address = false

/-- Only removable addresses are passed, and only their snapshots lose the flag. -/
structure KeepsActive (snapshots : List PortfolioSnapshot) (chain : ChainName) (now : Nat)
    (result : ChainUpdate.Result) : Prop where
  passed : ∀ lists ∈ result.passed, ∀ address ∈ lists.1 ++ lists.2,
    Removable snapshots chain now address
  unset : List.Forall₂ (fun before after => after = before ∨
    after = { before with webhookMonitored := false } ∧ before.chain = chain ∧
      Removable snapshots chain now before.address) snapshots result.docs

section Loop
variable {snapshots : List PortfolioSnapshot} {chain : ChainName} {now : Nat}

theorem latestSnapshot_eq_none_iff {address : String} :
    latestSnapshot snapshots chain now address = none ↔
      ¬ ChainUpdate.Active snapshots chain now address := by
  simp only [latestSnapshot, List.find?_eq_none, ChainUpdate.Active, Bool.and_eq_true, beq_iff_eq,
    decide_eq_true_eq, and_assoc]
  constructor
  · rintro h ⟨d, hMem, hChain, hAddress, hLive⟩
    exact h d hMem ⟨hChain, hAddress, hLive⟩
  · intro h d hMem hFound
    exact h ⟨d, hMem, hFound⟩

theorem stale_iff {address : String} :
    stale snapshots now chain address = true ↔
      isDefault address = false ∧ ¬ ChainUpdate.Active snapshots chain now address := by
  rw [← latestSnapshot_eq_none_iff, latestSnapshot, List.find?_eq_none, stale, isDefault]
  simp

theorem inspect_eq (addressesToRemove : List String) (address : String) :
    inspect snapshots chain now addressesToRemove address =
      addressesToRemove ++ [address].filter (stale snapshots now chain) := by
  by_cases hStale : stale snapshots now chain address = true
  · obtain ⟨hDefault, hInactive⟩ := stale_iff.mp hStale
    rw [inspect, if_neg (by simp [hDefault]), latestSnapshot_eq_none_iff.mpr hInactive]
    simp [hStale]
  · have hNone : [address].filter (stale snapshots now chain) = [] := by simp [hStale]
    rw [hNone, List.append_nil, inspect]
    by_cases hDefault : isDefault address = true
    · rw [if_pos hDefault]
    · have hActive : latestSnapshot snapshots chain now address ≠ none := fun hNone =>
        hStale (stale_iff.mpr ⟨by simpa using hDefault, latestSnapshot_eq_none_iff.mp hNone⟩)
      obtain ⟨d, hFound⟩ := Option.ne_none_iff_exists'.mp hActive
      rw [if_neg hDefault, hFound]

/-- The loop collects the stale addresses in their order. An address is inspected on its own, so the
order of the others has no influence. -/
theorem foldl_inspect (addresses addressesToRemove : List String) :
    addresses.foldl (inspect snapshots chain now) addressesToRemove =
      addressesToRemove ++ addresses.filter (stale snapshots now chain) := by
  induction addresses generalizing addressesToRemove with
  | nil => simp
  | cons address rest ih =>
      rw [List.foldl_cons, ih, inspect_eq, List.append_assoc, ← List.filter_append,
        List.singleton_append]

/-- What is passed and what is left, in terms of the stale addresses. The call for the removal and
the marking of the snapshots use one list. -/
theorem reconcileChainAddresses_eq (addresses : List String) (success : Bool) :
    reconcileChainAddresses snapshots chain now addresses success =
      if addresses.filter (stale snapshots now chain) = [] then ⟨none, snapshots⟩
      else ⟨some ([], addresses.filter (stale snapshots now chain)),
        if success then
          ChainUpdate.unmarkExpiredAddresses snapshots chain
            (addresses.filter (stale snapshots now chain))
        else snapshots⟩ := by
  unfold reconcileChainAddresses
  rw [foldl_inspect, List.nil_append]
  by_cases hNone : addresses = []
  · subst hNone
    rfl
  · rw [if_neg hNone]
    by_cases hKept : addresses.filter (stale snapshots now chain) = []
    · rw [if_pos hKept, if_pos hKept]
    · rw [if_neg hKept, if_neg hKept]
      cases success with
      | true => rfl
      | false => rfl

end Loop

/-- The pass of the daily reconciliation, with all its calls succeeding, is this one. -/
theorem reconcile_snapshots (env : Reconciliation.Environment) (s : Reconciliation.State)
    (c : ChainName) (webhookId : String) :
    (Reconciliation.reconcileChainAddresses env s c webhookId).snapshots =
      (reconcileChainAddresses s.snapshots c (env.inspectedAt webhookId)
        (Reconciliation.getWebhookDetails env s.team webhookId) true).docs := by
  rw [reconcileChainAddresses_eq, Reconciliation.reconcileChainAddresses]
  by_cases hNone : (Reconciliation.getWebhookDetails env s.team webhookId).filter
      (stale s.snapshots (env.inspectedAt webhookId) c) = []
  · rw [if_pos hNone, if_pos hNone]
  · rw [if_neg hNone, if_neg hNone]
    rfl

/-- Unsetting the flag of a list of removable addresses. The flags of all other snapshots stay as
they are. -/
theorem forall₂_unmark {snapshots : List PortfolioSnapshot} {chain : ChainName} {now : Nat}
    {addresses : List String} (hAll : ∀ address ∈ addresses, Removable snapshots chain now address)
    (docs : List PortfolioSnapshot) :
    List.Forall₂ (fun before after => after = before ∨
      after = { before with webhookMonitored := false } ∧ before.chain = chain ∧
        Removable snapshots chain now before.address) docs
      (ChainUpdate.unmarkExpiredAddresses docs chain addresses) := by
  induction docs with
  | nil => exact List.Forall₂.nil
  | cons d rest ih =>
      refine List.Forall₂.cons ?_ ih
      unfold ChainUpdate.setMonitored
      by_cases hSelected : d.chain = chain ∧ d.address ∈ addresses
      · rw [if_pos hSelected]
        exact .inr ⟨rfl, hSelected.1, hAll d.address hSelected.2⟩
      · rw [if_neg hSelected]
        exact .inl rfl

/-- No active address is unsubscribed just where each address that is active in some
spelling is active as it is subscribed. -/
theorem unsubscribes_no_active_iff (snapshots : List PortfolioSnapshot) (chain : ChainName) (now : Nat)
    (addresses : List String) (success : Bool) :
    KeepsActive snapshots chain now
        (reconcileChainAddresses snapshots chain now addresses success) ↔
      ∀ address ∈ addresses, isDefault address = false →
        ActiveUpToCase snapshots chain now address →
          ChainUpdate.Active snapshots chain now address := by
  rw [reconcileChainAddresses_eq]
  constructor
  · intro hKeeps address hAddress hDefault hActive
    by_contra hInactive
    have hRemoved : address ∈ addresses.filter (stale snapshots now chain) :=
      List.mem_filter.mpr ⟨hAddress, stale_iff.mpr ⟨hDefault, hInactive⟩⟩
    rw [if_neg (List.ne_nil_of_mem hRemoved)] at hKeeps
    exact (hKeeps.passed _ rfl address (List.mem_append_right _ hRemoved)).1 hActive
  · intro hExact
    have hAll : ∀ address ∈ addresses.filter (stale snapshots now chain),
        Removable snapshots chain now address := by
      intro address hAddress
      obtain ⟨hListed, hStale⟩ := List.mem_filter.mp hAddress
      obtain ⟨hDefault, hInactive⟩ := stale_iff.mp hStale
      exact ⟨fun hActive => hInactive (hExact address hListed hDefault hActive), hDefault⟩
    have hSame : List.Forall₂ (fun before after => after = before ∨
        after = { before with webhookMonitored := false } ∧ before.chain = chain ∧
          Removable snapshots chain now before.address) snapshots snapshots :=
      List.forall₂_same.mpr fun d _ => .inl rfl
    by_cases hNone : addresses.filter (stale snapshots now chain) = []
    · rw [if_pos hNone]
      exact ⟨fun lists hPassed => (by cases hPassed), hSame⟩
    · rw [if_neg hNone]
      constructor
      · rintro lists hPassed address hAddress
        cases hPassed
        exact hAll address hAddress
      · cases success with
        | true => exact forall₂_unmark hAll snapshots
        | false => exact hSame

/-- A snapshot stored under the spelling of the user, with an upper-case `A`. -/
def typedSnapshot : PortfolioSnapshot :=
  ⟨.ethereum, 1, "0xd8dA6bf26964af9d7eed9e03e53415d37aa96045", none, .obj [], true, 1800000⟩

/-- The address is subscribed in lower case and removed before the snapshot expires. -/
theorem not_keepsActive_typed : ¬ KeepsActive [typedSnapshot] .ethereum 0
    (reconcileChainAddresses [typedSnapshot] .ethereum 0
      ["0xd8da6bf26964af9d7eed9e03e53415d37aa96045"] true) := by
  intro hKeeps
  have hPassed : (reconcileChainAddresses [typedSnapshot] .ethereum 0
      ["0xd8da6bf26964af9d7eed9e03e53415d37aa96045"] true).passed =
      some ([], ["0xd8da6bf26964af9d7eed9e03e53415d37aa96045"]) := by decide +kernel
  have hRemovable := hKeeps.passed _ hPassed _ (List.mem_append_right _ (List.mem_singleton_self _))
  exact hRemovable.1 ⟨typedSnapshot, List.mem_singleton_self _, rfl, by decide +kernel, by decide⟩

end BalanceKit.ActiveAddresses
