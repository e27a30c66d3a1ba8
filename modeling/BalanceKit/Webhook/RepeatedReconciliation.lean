import BalanceKit.Webhook.Reconciliation

/-! The reconciliation day after day, on webhooks whose addresses fit on one page of the
listing. What a run does is given in closed form, and a later run does all that the runs before
it have done. -/
namespace BalanceKit.Reconciliation
open Authentication WebhookManagementService ChainAgreement
open scoped Classical

/-- A webhook with stale addresses. -/
def HasStale (env : Environment) (team : Team) (snapshots : List PortfolioSnapshot) (c : ChainName)
    (webhook : AlchemyWebhookResponse) : Prop :=
  ∃ address ∈ team.addresses webhook.id,
    stale snapshots (env.inspectedAt webhook.id) c address = true

/-- One page holds the addresses of each webhook. -/
def Fits (env : Environment) (team : Team) (items : List (ChainKey × AlchemyWebhookResponse)) :
    Prop :=
  ∀ c webhook, (.named c, webhook) ∈ items →
    (team.addresses webhook.id).length ≤ env.listing.limit

/-- The address is stale on the webhook, which is among those to be processed. -/
def dropped (env : Environment) (snapshots : List PortfolioSnapshot)
    (items : List (ChainKey × AlchemyWebhookResponse)) (webhookId address : String) : Prop :=
  ∃ c webhook, (.named c, webhook) ∈ items ∧ webhook.id = webhookId ∧
    stale snapshots (env.inspectedAt webhookId) c address = true

/-- The snapshot is of an address that is stale on a webhook of its chain. -/
def unmarked (env : Environment) (s : State) (items : List (ChainKey × AlchemyWebhookResponse))
    (d : PortfolioSnapshot) : Prop :=
  ∃ webhook, (.named d.chain, webhook) ∈ items ∧ d.address ∈ s.team.addresses webhook.id ∧
    stale s.snapshots (env.inspectedAt webhook.id) d.chain d.address = true

/-- Take the flag off the snapshot in this case. -/
noncomputable def unmarkIf (condition : Prop) (d : PortfolioSnapshot) : PortfolioSnapshot :=
  if condition then { d with webhookMonitored := false } else d

/-- What the loop leaves. -/
structure Cleaned (env : Environment) (items : List (ChainKey × AlchemyWebhookResponse))
    (s t : State) : Prop where
  webhooks : t.team.webhooks = s.team.webhooks
  addresses : ∀ id, t.team.addresses id =
    (s.team.addresses id).filter fun address => ¬ dropped env s.snapshots items id address
  snapshots : t.snapshots = s.snapshots.map fun d => unmarkIf (unmarked env s items d) d

section Step
variable {env : Environment} {s t : State}

/-- A list that fits is listed whole. -/
theorem Fits.getWebhookDetails {team : Team} {c : ChainName} {webhook : AlchemyWebhookResponse}
    {items : List (ChainKey × AlchemyWebhookResponse)} (h : Fits env team items)
    (hItem : (.named c, webhook) ∈ items) :
    Reconciliation.getWebhookDetails env team webhook.id = team.addresses webhook.id :=
  env.listing.whole _ _ (h c webhook hItem)

/-- On such a webhook all that is stale is found. -/
theorem Fits.found_iff {team : Team} {snapshots : List PortfolioSnapshot} {c : ChainName}
    {webhook : AlchemyWebhookResponse} {items : List (ChainKey × AlchemyWebhookResponse)}
    (h : Fits env team items) (hItem : (.named c, webhook) ∈ items) :
    (∃ address, Found env team snapshots c webhook address) ↔
      HasStale env team snapshots c webhook := by
  simp only [Found, HasStale, h.getWebhookDetails hItem]

/-- Two unmarkings one after the other clear the flag if either of them would. -/
theorem unmarkIf_unmarkIf (first second : Prop) (d : PortfolioSnapshot) :
    unmarkIf second (unmarkIf first d) = unmarkIf (first ∨ second) d := by
  by_cases hFirst : first <;> by_cases hSecond : second <;> simp [unmarkIf, hFirst, hSecond]

theorem unmarkIf_chain (condition : Prop) (d : PortfolioSnapshot) :
    (unmarkIf condition d).chain = d.chain := by
  unfold unmarkIf
  split <;> rfl

theorem unmarkIf_address (condition : Prop) (d : PortfolioSnapshot) :
    (unmarkIf condition d).address = d.address := by
  unfold unmarkIf
  split <;> rfl

theorem unmarkIf_expiresAt (condition : Prop) (d : PortfolioSnapshot) :
    (unmarkIf condition d).expiresAt = d.expiresAt := by
  unfold unmarkIf
  split <;> rfl

/-- The flags take no part in what is stale. -/
theorem stale_map_unmarkIf (condition : PortfolioSnapshot → Prop)
    (snapshots : List PortfolioSnapshot) :
    stale (snapshots.map fun d => unmarkIf (condition d) d) = stale snapshots := by
  funext now c address
  simp [stale, List.any_map, Function.comp_def, unmarkIf_chain, unmarkIf_address,
    unmarkIf_expiresAt]

/-- A run changes flags and webhooks only. Which addresses are stale does not depend on them. -/
theorem Cleaned.stale {items : List (ChainKey × AlchemyWebhookResponse)}
    (h : Cleaned env items s t) :
    Reconciliation.stale t.snapshots = Reconciliation.stale s.snapshots := by
  rw [h.snapshots]
  exact stale_map_unmarkIf _ _

/-- Nothing is stale, and nothing changes. -/
theorem cleaned_of_none {items : List (ChainKey × AlchemyWebhookResponse)}
    (hNone : ∀ c webhook, (.named c, webhook) ∈ items → ¬ HasStale env s.team s.snapshots c webhook) :
    Cleaned env items s s := by
  refine ⟨rfl, fun id => ?_, ?_⟩
  · refine (List.filter_eq_self.mpr fun address hAddress => ?_).symm
    rw [decide_eq_true_eq]
    rintro ⟨c, webhook, hItem, rfl, hStale⟩
    exact hNone c webhook hItem ⟨address, hAddress, hStale⟩
  · conv_lhs => rw [← List.map_id s.snapshots]
    apply List.map_congr_left
    intro d _
    refine (if_neg ?_).symm
    rintro ⟨webhook, hItem, hAddress, hStale⟩
    exact hNone d.chain webhook hItem ⟨d.address, hAddress, hStale⟩

/-- One webhook after its pass. Where its stale addresses all fit on the page that is read, they
are all removed. -/
theorem cleaned_reconcile {item : ChainKey × AlchemyWebhookResponse}
    (h : Resolved env s [item]) (hFits : Fits env s.team [item]) :
    Cleaned env [item] s (reconcile env s item) := by
  obtain ⟨chain, webhook⟩ := item
  cases chain with
  | member name =>
      apply cleaned_of_none
      intro c other hItem
      rw [List.mem_singleton] at hItem
      cases hItem
  | named c =>
      have hItem : (ChainKey.named c, webhook) ∈ [(ChainKey.named c, webhook)] :=
        List.mem_singleton_self _
      by_cases hStale : HasStale env s.team s.snapshots c webhook
      · have hFound := (hFits.found_iff hItem).mpr hStale
        have hResolve : getWebhookIdForChain env s.team c = (s.team, webhook.id) := by
          rw [getWebhookIdForChain, existingWebhook_eq_some.mpr (h c webhook hItem hFound)]
        rw [reconcile_of_found hFound, hFits.getWebhookDetails hItem, removeAddresses, hResolve]
        refine ⟨rfl, fun id => ?_, ?_⟩
        · by_cases hId : id = webhook.id
          · subst hId
            refine (if_pos rfl).trans (List.filter_congr fun address hAddress => ?_)
            simp [dropped, hAddress]
          · refine (if_neg hId).trans (List.filter_eq_self.mpr fun address _ => ?_).symm
            rw [decide_eq_true_eq]
            rintro ⟨chain, other, hItem, rfl, -⟩
            cases List.mem_singleton.mp hItem
            exact hId rfl
        · apply List.map_congr_left
          intro d _
          unfold ChainUpdate.setMonitored unmarkIf
          refine if_congr ?_ rfl rfl
          rw [List.mem_filter]
          constructor
          · rintro ⟨rfl, hAddress, hStale⟩
            exact ⟨webhook, List.mem_singleton_self _, hAddress, hStale⟩
          · rintro ⟨other, hItem, hAddress, hStale⟩
            cases List.mem_singleton.mp hItem
            exact ⟨rfl, hAddress, hStale⟩
      · rw [reconcile_of_not_found (mt (hFits.found_iff hItem).mp hStale)]
        apply cleaned_of_none
        intro d other hItem
        cases List.mem_singleton.mp hItem
        exact hStale

end Step

section Loop
variable {env : Environment} {s t u : State} {items rest : List (ChainKey × AlchemyWebhookResponse)}

/-- An address is dropped by a list of webhooks if one of them drops it. -/
theorem dropped_cons {item : ChainKey × AlchemyWebhookResponse}
    {snapshots : List PortfolioSnapshot} {id address : String} :
    dropped env snapshots (item :: rest) id address ↔
      dropped env snapshots [item] id address ∨ dropped env snapshots rest id address := by
  constructor
  · rintro ⟨c, webhook, hItem, hId, hStale⟩
    rcases List.mem_cons.mp hItem with hHead | hRest
    · exact .inl ⟨c, webhook, List.mem_singleton.mpr hHead, hId, hStale⟩
    · exact .inr ⟨c, webhook, hRest, hId, hStale⟩
  · rintro (⟨c, webhook, hItem, hId, hStale⟩ | ⟨c, webhook, hItem, hId, hStale⟩)
    · exact ⟨c, webhook, List.mem_cons.mpr (.inl (List.mem_singleton.mp hItem)), hId, hStale⟩
    · exact ⟨c, webhook, List.mem_cons_of_mem _ hItem, hId, hStale⟩

/-- The webhooks of the iterations are different, so each finds its addresses as they were. -/
theorem Cleaned.cons {item : ChainKey × AlchemyWebhookResponse}
    (hNodup : ((item :: rest).map fun i => i.2.id).Nodup) (hHead : Cleaned env [item] s t)
    (hRest : Cleaned env rest t u) : Cleaned env (item :: rest) s u := by
  refine ⟨hRest.webhooks.trans hHead.webhooks, fun id => ?_, ?_⟩
  · rw [hRest.addresses, hHead.addresses, List.filter_filter]
    refine List.filter_congr fun address _ => ?_
    have hStale : dropped env t.snapshots rest id address ↔ dropped env s.snapshots rest id address := by
      unfold dropped
      rw [hHead.stale]
    have hCons := @dropped_cons env rest item s.snapshots id address
    rw [← Bool.decide_and, decide_eq_decide, hStale, hCons, not_or]
    exact and_comm
  · rw [hRest.snapshots, hHead.snapshots, List.map_map]
    apply List.map_congr_left
    intro d _
    have hSame : ∀ other webhook, (other, webhook) ∈ rest →
        t.team.addresses webhook.id = s.team.addresses webhook.id := by
      intro other webhook hItem
      rw [hHead.addresses]
      refine List.filter_eq_self.mpr fun address _ => ?_
      rw [decide_eq_true_eq]
      rintro ⟨c, first, hFirst, hId, -⟩
      cases List.mem_singleton.mp hFirst
      exact (List.nodup_cons.mp hNodup).1 (List.mem_map.mpr ⟨_, hItem, hId.symm⟩)
    show unmarkIf (unmarked env t rest (unmarkIf (unmarked env s [item] d) d))
        (unmarkIf (unmarked env s [item] d) d) = _
    rw [unmarkIf_unmarkIf]
    congr 1
    rw [eq_iff_iff]
    unfold unmarked
    rw [unmarkIf_chain, unmarkIf_address, hHead.stale]
    constructor
    · rintro (⟨webhook, hItem, hAddress, hStale⟩ | ⟨webhook, hItem, hAddress, hStale⟩)
      · exact ⟨webhook, List.mem_cons.mpr (.inl (List.mem_singleton.mp hItem)), hAddress, hStale⟩
      · rw [hSame _ _ hItem] at hAddress
        exact ⟨webhook, List.mem_cons_of_mem _ hItem, hAddress, hStale⟩
    · rintro ⟨webhook, hItem, hAddress, hStale⟩
      rcases List.mem_cons.mp hItem with hFirst | hLater
      · exact .inl ⟨webhook, List.mem_singleton.mpr hFirst, hAddress, hStale⟩
      · rw [← hSame _ _ hLater] at hAddress
        exact .inr ⟨webhook, hLater, hAddress, hStale⟩

/-- Lists only get shorter, so those that fit still do. -/
theorem Fits.of_cleaned {others : List (ChainKey × AlchemyWebhookResponse)}
    (h : Fits env s.team items) (hCleaned : Cleaned env others s t) : Fits env t.team items := by
  intro c webhook hItem
  rw [hCleaned.addresses]
  exact (List.length_filter_le _ _).trans (h c webhook hItem)

/-- The loop takes every stale address off its webhook, and the flag off its snapshots. -/
theorem cleaned_foldl (hNodup : (items.map fun item => item.2.id).Nodup)
    (h : Resolved env s items) (hFits : Fits env s.team items) :
    Cleaned env items s (items.foldl (reconcile env) s) := by
  induction items generalizing s with
  | nil =>
      apply cleaned_of_none
      intro c webhook hItem
      cases hItem
  | cons item rest ih =>
      obtain ⟨hHead, -⟩ := resolved_cons.mp h
      have hFirst := cleaned_reconcile hHead fun c webhook hItem =>
        hFits c webhook (List.mem_singleton.mp hItem ▸ List.mem_cons_self)
      have hLater : Fits env s.team rest := fun c webhook hItem =>
        hFits c webhook (List.mem_cons_of_mem _ hItem)
      exact hFirst.cons hNodup
        (ih (List.nodup_cons.mp hNodup).2 (h.next hNodup).2 (hLater.of_cleaned hFirst))

end Loop

section Runs
variable {env earlier : Environment} {s t u v : State}
  {items : List (ChainKey × AlchemyWebhookResponse)}

/-- What is stale stays stale, as long as nothing is saved. -/
theorem stale_mono {snapshots : List PortfolioSnapshot} {now later : Nat} {c : ChainName}
    {address : String} (hTime : now ≤ later) (h : stale snapshots now c address = true) :
    stale snapshots later c address = true := by
  simp only [stale, Bool.and_eq_true, Bool.not_eq_true', List.any_eq_false, not_and,
    decide_eq_true_eq] at h ⊢
  refine ⟨h.1, fun d hd hSame hLive => ?_⟩
  exact h.2 d hd hSame (by omega)

/-- A run after an earlier one leaves what it would have left without it. -/
theorem Cleaned.absorb (hNodup : (items.map fun item => item.2.id).Nodup)
    (hTimes : ∀ id, earlier.inspectedAt id ≤ env.inspectedAt id)
    (hEarlier : Cleaned earlier items s t) (hLater : Cleaned env items t u)
    (hAlone : Cleaned env items s v) :
    u.team.addresses = v.team.addresses ∧ u.snapshots = v.snapshots := by
  constructor
  · funext id
    rw [hLater.addresses, hEarlier.addresses, hAlone.addresses, List.filter_filter]
    refine List.filter_congr fun address _ => ?_
    have hStale : dropped env t.snapshots items id address ↔
        dropped env s.snapshots items id address := by
      unfold dropped
      rw [hEarlier.stale]
    have hMono : dropped earlier s.snapshots items id address →
        dropped env s.snapshots items id address := by
      rintro ⟨c, webhook, hItem, hId, hGone⟩
      exact ⟨c, webhook, hItem, hId, stale_mono (hTimes id) hGone⟩
    rw [← Bool.decide_and, decide_eq_decide, hStale]
    constructor
    · exact fun h => h.1
    · exact fun h => ⟨h, mt hMono h⟩
  · rw [hLater.snapshots, hEarlier.snapshots, hAlone.snapshots, List.map_map]
    apply List.map_congr_left
    intro d _
    show unmarkIf (unmarked env t items (unmarkIf (unmarked earlier s items d) d))
        (unmarkIf (unmarked earlier s items d) d) = _
    rw [unmarkIf_unmarkIf]
    congr 1
    rw [eq_iff_iff]
    unfold unmarked
    rw [unmarkIf_chain, unmarkIf_address, hEarlier.stale]
    constructor
    · rintro (⟨webhook, hItem, hAddress, hStale⟩ | ⟨webhook, hItem, hAddress, hStale⟩)
      · exact ⟨webhook, hItem, hAddress, stale_mono (hTimes _) hStale⟩
      · rw [hEarlier.addresses] at hAddress
        exact ⟨webhook, hItem, (List.mem_filter.mp hAddress).1, hStale⟩
    · rintro ⟨webhook, hItem, hAddress, hStale⟩
      -- an earlier run took the address off, or the later one finds it there
      by_cases hDropped : dropped earlier s.snapshots items webhook.id d.address
      · obtain ⟨c, other, hOther, hId, hGone⟩ := hDropped
        have hSame := List.inj_on_of_nodup_map hNodup hOther hItem hId
        obtain ⟨⟨rfl⟩, rfl⟩ := Prod.mk.inj hSame
        exact .inl ⟨other, hItem, hAddress, hGone⟩
      · refine .inr ⟨webhook, hItem, ?_, hStale⟩
        rw [hEarlier.addresses, List.mem_filter]
        exact ⟨hAddress, decide_eq_true hDropped⟩

/-- The webhooks with stale addresses are the ones that their chains are resolved to, and none
has more addresses than a page of the listing holds. -/
structure Clear (env : Environment) (team : Team) (snapshots : List PortfolioSnapshot) : Prop where
  foremost : ∀ c webhook, Processed env team c webhook → HasStale env team snapshots c webhook →
    Foremost env team.webhooks c webhook
  fits : ∀ c webhook, Processed env team c webhook →
    (team.addresses webhook.id).length ≤ env.listing.limit

/-- What a whole run leaves, where nothing stands in its way: the webhooks without the stale
addresses, and the flags of these cleared. -/
theorem cleaned_run {team : Team} {snapshots : List PortfolioSnapshot}
    (h : Clear env team snapshots) :
    Cleaned env (ChainAgreement.reconcileWebhookAddresses env.webhookUrl team.webhooks)
      ⟨team, snapshots, []⟩ (reconcileWebhookAddresses env team snapshots) := by
  have hFits : Fits env team
      (ChainAgreement.reconcileWebhookAddresses env.webhookUrl team.webhooks) := h.fits
  refine cleaned_foldl (nodup_processed env team) ?_ hFits
  intro c webhook hItem hFound
  exact h.foremost c webhook hItem ((hFits.found_iff hItem).mp hFound)

/-- The run on what an earlier one has left. -/
def rerun (left : Team × List PortfolioSnapshot) (env : Environment) :
    Team × List PortfolioSnapshot :=
  ((reconcileWebhookAddresses env left.1 left.2).team,
    (reconcileWebhookAddresses env left.1 left.2).snapshots)

theorem team_ext {a b : Team} (hWebhooks : a.webhooks = b.webhooks)
    (hAddresses : a.addresses = b.addresses) : a = b := by
  cases a
  cases b
  cases hWebhooks
  cases hAddresses
  rfl

/-- An earlier run of the same deployment, with pages of at least the same size. -/
structure Before (earlier env : Environment) : Prop where
  webhookUrl : earlier.webhookUrl = env.webhookUrl
  limit : env.listing.limit ≤ earlier.listing.limit
  times : ∀ id, earlier.inspectedAt id ≤ env.inspectedAt id

theorem Before.processed_iff (h : Before earlier env) {team : Team} {c : ChainName}
    {webhook : AlchemyWebhookResponse} :
    Processed earlier team c webhook ↔ Processed env team c webhook := by
  rw [Processed, Processed, h.webhookUrl]

/-- Where the later run is clear the earlier one is. Fewer addresses are stale for it, and its
pages are no larger. -/
theorem Clear.before {team : Team} {snapshots : List PortfolioSnapshot} (h : Clear env team snapshots)
    (hBefore : Before earlier env) : Clear earlier team snapshots := by
  constructor
  · intro c webhook hProcessed hStale
    obtain ⟨address, hAddress, hGone⟩ := hStale
    have hLater : HasStale env team snapshots c webhook :=
      ⟨address, hAddress, stale_mono (hBefore.times webhook.id) hGone⟩
    rw [Foremost, hBefore.webhookUrl]
    exact h.foremost c webhook (hBefore.processed_iff.mp hProcessed) hLater
  · intro c webhook hProcessed
    exact (h.fits c webhook (hBefore.processed_iff.mp hProcessed)).trans hBefore.limit

/-- A run leaves the webhooks to be told apart as before. -/
theorem Clear.rerun {left : Team × List PortfolioSnapshot} (h : Clear env left.1 left.2)
    (hBefore : Before earlier env) :
    Clear env (Reconciliation.rerun left earlier).1 (Reconciliation.rerun left earlier).2 := by
  have hCleaned := cleaned_run (h.before hBefore)
  have hWebhooks : (Reconciliation.rerun left earlier).1.webhooks = left.1.webhooks :=
    hCleaned.webhooks
  have hOld : ∀ c webhook, Processed env (Reconciliation.rerun left earlier).1 c webhook →
      Processed env left.1 c webhook := by
    intro c webhook hProcessed
    rwa [Processed, hWebhooks] at hProcessed
  constructor
  · rintro c webhook hProcessed ⟨address, hAddress, hGone⟩
    have hStale : HasStale env left.1 left.2 c webhook := by
      refine ⟨address, ?_, ?_⟩
      · have hFiltered := hCleaned.addresses webhook.id
        exact (List.mem_filter.mp (hFiltered ▸ hAddress)).1
      · have hSame := hCleaned.stale
        exact (congrFun (congrFun (congrFun hSame _) c) address).symm.trans hGone
    have hForemost := h.foremost c webhook (hOld c webhook hProcessed) hStale
    rwa [← hCleaned.webhooks] at hForemost
  · intro c webhook hProcessed
    have hShorter : ((Reconciliation.rerun left earlier).1.addresses webhook.id).length ≤
        (left.1.addresses webhook.id).length := by
      rw [Reconciliation.rerun, hCleaned.addresses]
      exact List.length_filter_le _ _
    exact hShorter.trans (h.fits c webhook (hOld c webhook hProcessed))

/-- The later run undoes nothing and adds what the earlier one could not see yet, so the earlier
one might as well not have taken place. -/
theorem rerun_rerun {left : Team × List PortfolioSnapshot} (h : Clear env left.1 left.2)
    (hBefore : Before earlier env) :
    rerun (rerun left earlier) env = rerun left env := by
  have hFirst := cleaned_run (h.before hBefore)
  have hSecond := cleaned_run (h.rerun hBefore)
  have hAlone := cleaned_run h
  rw [hBefore.webhookUrl] at hFirst
  have hItems : (rerun left earlier).1.webhooks = left.1.webhooks := hFirst.webhooks
  rw [hItems] at hSecond
  obtain ⟨hAddresses, hSnapshots⟩ := Cleaned.absorb (nodup_processed env left.1) hBefore.times
    (t := ⟨(rerun left earlier).1, (rerun left earlier).2, []⟩)
    ⟨hFirst.webhooks, hFirst.addresses, hFirst.snapshots⟩ hSecond hAlone
  refine Prod.ext (team_ext ?_ hAddresses) hSnapshots
  exact hSecond.webhooks.trans (hItems.trans hAlone.webhooks.symm)

/-- Where nothing is found to be stale the loop makes no call. -/
theorem foldl_of_none {items : List (ChainKey × AlchemyWebhookResponse)}
    (hNone : ∀ c webhook, (.named c, webhook) ∈ items →
      ¬ ∃ address, Found env s.team s.snapshots c webhook address) :
    items.foldl (reconcile env) s = s := by
  induction items with
  | nil => rfl
  | cons item rest ih =>
      have hHead : reconcile env s item = s := by
        obtain ⟨chain, webhook⟩ := item
        cases chain with
        | named c => exact reconcile_of_not_found (hNone c webhook List.mem_cons_self)
        | member name => rfl
      rw [List.foldl_cons, hHead]
      exact ih fun c webhook hItem => hNone c webhook (List.mem_cons_of_mem _ hItem)

/-- The daily runs need no memory: after a run it does not matter which of the runs before it
took place, and the same run once more would make no call. The addresses of a webhook have to
fit on a page: of a longer list each run sees the first page only, so that it matters what the
runs before it took from there. -/
theorem last_run_counts {team : Team} {snapshots : List PortfolioSnapshot}
    (h : Clear env team snapshots) (runs : List Environment)
    (hRuns : ∀ earlier ∈ runs, Before earlier env) :
    rerun (runs.foldl rerun (team, snapshots)) env = rerun (team, snapshots) env ∧
      (reconcileWebhookAddresses env (rerun (team, snapshots) env).1
        (rerun (team, snapshots) env).2).removals = [] := by
  constructor
  · have hLeft : ∀ left : Team × List PortfolioSnapshot, Clear env left.1 left.2 →
        rerun (runs.foldl rerun left) env = rerun left env := by
      induction runs with
      | nil => exact fun left _ => rfl
      | cons first rest ih =>
          intro left hClear
          have hFirst := hRuns first List.mem_cons_self
          rw [List.foldl_cons, ih (fun e he => hRuns e (List.mem_cons_of_mem _ he)) _
            (hClear.rerun hFirst), rerun_rerun hClear hFirst]
    exact hLeft (team, snapshots) h
  · have hCleaned := cleaned_run h
    have hNone : ∀ c webhook, Processed env (rerun (team, snapshots) env).1 c webhook →
        ¬ ∃ address, Found env (rerun (team, snapshots) env).1 (rerun (team, snapshots) env).2
          c webhook address := by
      rintro c webhook hProcessed ⟨address, hFound⟩
      obtain ⟨hAddress, hStale⟩ : address ∈ (rerun (team, snapshots) env).1.addresses webhook.id ∧
        stale _ _ c address = true := ⟨hFound.mem, hFound.2⟩
      have hWebhooks : (rerun (team, snapshots) env).1.webhooks = team.webhooks := hCleaned.webhooks
      rw [Processed, hWebhooks] at hProcessed
      have hKept := (hCleaned.addresses webhook.id) ▸ hAddress
      refine of_decide_eq_true (List.mem_filter.mp hKept).2 ⟨c, webhook, hProcessed, rfl, ?_⟩
      exact (congrFun (congrFun (congrFun hCleaned.stale _) c) address).symm.trans hStale
    exact congrArg State.removals (@foldl_of_none env ⟨_, _, []⟩ _ hNone)

end Runs

/-- One webhook, with an address that has no snapshot. -/
def oneWebhook : Team where
  webhooks := [kitWebhook "ETH_MAINNET" "wh_1"]
  unique := by decide
  addresses := fun id => if id = "wh_1" then ["0xab"] else []

theorem clear_oneWebhook (snapshots : List PortfolioSnapshot) :
    Clear kitEnvironment oneWebhook snapshots := by
  have hItems : ChainAgreement.reconcileWebhookAddresses kitEnvironment.webhookUrl
      oneWebhook.webhooks = [(.named .ethereum, kitWebhook "ETH_MAINNET" "wh_1")] := by
    decide +kernel
  constructor
  · intro c webhook hProcessed _
    rw [Processed, hItems, List.mem_singleton] at hProcessed
    cases hProcessed
    exact ⟨[], [], rfl, by decide +kernel, fun v hv => (List.not_mem_nil hv).elim⟩
  · intro c webhook hProcessed
    rw [Processed, hItems, List.mem_singleton] at hProcessed
    cases hProcessed
    decide

/-- The address of the webhook has no snapshot, so the first run removes it and the others find
nothing. -/
theorem last_run_counts_oneWebhook :
    rerun (rerun (rerun (oneWebhook, []) kitEnvironment) kitEnvironment) kitEnvironment =
        rerun (oneWebhook, []) kitEnvironment ∧
      (reconcileWebhookAddresses kitEnvironment (rerun (oneWebhook, []) kitEnvironment).1
        (rerun (oneWebhook, []) kitEnvironment).2).removals = [] := by
  have hSame : Before kitEnvironment kitEnvironment := ⟨rfl, Nat.le_refl _, fun _ => Nat.le_refl _⟩
  refine last_run_counts (clear_oneWebhook []) [kitEnvironment, kitEnvironment] ?_
  intro earlier hEarlier
  simp only [List.mem_cons, List.not_mem_nil, or_false, or_self] at hEarlier
  exact hEarlier ▸ hSame

end BalanceKit.Reconciliation
