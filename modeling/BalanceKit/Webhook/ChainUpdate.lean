import BalanceKit.Core.DbService
import Mathlib.Data.List.Nodup

/-! The chain-level webhook update: two queries over the snapshots of a chain, one
call of `updateWebhookAddresses`, then the mark and unmark steps. The queries
decide per document, the update and the flags are per address. -/
namespace BalanceKit.ChainUpdate

def processInterval : Nat := 5 * 60 * 1000

def onChain (chain : ChainName) (d : PortfolioSnapshot) : Bool := d.chain == chain

/-- An unexpired snapshot of the chain that is not flagged. -/
def toActivate (chain : ChainName) (now : Nat) (d : PortfolioSnapshot) : Bool :=
  onChain chain d && decide (now < d.expiresAt) && !d.webhookMonitored

/-- An expired snapshot of the chain that is flagged. -/
def toRetire (chain : ChainName) (now : Nat) (d : PortfolioSnapshot) : Bool :=
  onChain chain d && decide (d.expiresAt ≤ now) && d.webhookMonitored

def getActiveAddresses (docs : List PortfolioSnapshot) (chain : ChainName) (now : Nat) :
    List String :=
  (docs.filter (toActivate chain now)).map PortfolioSnapshot.address

def getExpiredAddresses (docs : List PortfolioSnapshot) (chain : ChainName) (now : Nat) :
    List String :=
  (docs.filter (toRetire chain now)).map PortfolioSnapshot.address

/-- Set the flag of every snapshot of the addresses on the chain. -/
def setMonitored (chain : ChainName) (addresses : List String) (flag : Bool)
    (d : PortfolioSnapshot) : PortfolioSnapshot :=
  if d.chain = chain ∧ d.address ∈ addresses then { d with webhookMonitored := flag } else d

def markAddressesAsMonitored (docs : List PortfolioSnapshot) (chain : ChainName)
    (addresses : List String) : List PortfolioSnapshot :=
  docs.map (setMonitored chain addresses true)

def unmarkExpiredAddresses (docs : List PortfolioSnapshot) (chain : ChainName)
    (addresses : List String) : List PortfolioSnapshot :=
  docs.map (setMonitored chain addresses false)

/-- What a run of the handler passes to `updateWebhookAddresses`, if it gets that
far, and the snapshots that it leaves. -/
structure Result where
  passed : Option (List String × List String)
  docs : List PortfolioSnapshot

/-- `lastProcessTime` is the entry of the throttle map and `success` the answer
of `updateWebhookAddresses`. -/
def handlePortfolioRedisUpdate (docs : List PortfolioSnapshot) (chain : ChainName) (now : Nat)
    (lastProcessTime : Option Nat) (success : Bool) : Result :=
  match Text.nonzero lastProcessTime with
  | some last =>
      if now - last < processInterval then ⟨none, docs⟩
      else update docs chain now success
  | none => update docs chain now success
where
  update (docs : List PortfolioSnapshot) (chain : ChainName) (now : Nat) (success : Bool) :
      Result :=
    let activeAddresses := getActiveAddresses docs chain now
    let expiredAddresses := getExpiredAddresses docs chain now
    if activeAddresses = [] ∧ expiredAddresses = [] then ⟨none, docs⟩
    else if success then
      ⟨some (activeAddresses, expiredAddresses),
        unmarkExpiredAddresses (markAddressesAsMonitored docs chain activeAddresses) chain
          expiredAddresses⟩
    else ⟨some (activeAddresses, expiredAddresses), docs⟩

/-- The address has an unexpired snapshot on the chain. -/
def Active (docs : List PortfolioSnapshot) (chain : ChainName) (now : Nat) (address : String) :
    Prop :=
  ∃ d ∈ docs, d.chain = chain ∧ d.address = address ∧ now < d.expiresAt

/-- The lists are duplicate-free and disjoint, no active address is removed, and
every active address ends up flagged on all its snapshots. -/
def KeepsActive (docs : List PortfolioSnapshot) (chain : ChainName) (now : Nat)
    (result : Result) : Prop :=
  (∀ lists ∈ result.passed, lists.1.Nodup ∧ lists.2.Nodup ∧ lists.1.Disjoint lists.2 ∧
    ∀ address ∈ lists.2, ¬ Active docs chain now address) ∧
  ∀ address, Active result.docs chain now address → ∀ d ∈ result.docs, d.chain = chain →
    d.address = address → d.webhookMonitored = true

/-- No address occurs in two snapshots that the same query selects. -/
def SingleSelections (docs : List PortfolioSnapshot) (chain : ChainName) (now : Nat) : Prop :=
  ∀ address, docs.countP (fun d => d.address == address && toActivate chain now d) ≤ 1 ∧
    docs.countP (fun d => d.address == address && toRetire chain now d) ≤ 1

/-- No flagged snapshot expires while another one of its address is unexpired. -/
def NoMixedExpiry (docs : List PortfolioSnapshot) (chain : ChainName) (now : Nat) : Prop :=
  ∀ d ∈ docs, toRetire chain now d = true → ¬ Active docs chain now d.address

/-- An active address has an unexpired snapshot without the flag, or has the flag
on all its snapshots. -/
def NoHiddenUnflagged (docs : List PortfolioSnapshot) (chain : ChainName) (now : Nat) : Prop :=
  ∀ address, Active docs chain now address →
    (∃ d ∈ docs, d.address = address ∧ toActivate chain now d = true) ∨
    ∀ d ∈ docs, d.chain = chain → d.address = address → d.webhookMonitored = true

section Queries
variable {docs : List PortfolioSnapshot} {chain : ChainName} {now : Nat} {address : String}

/-- The snapshots that the first query selects: of the chain, unexpired and not flagged. -/
theorem toActivate_iff {d : PortfolioSnapshot} :
    toActivate chain now d = true ↔
      d.chain = chain ∧ now < d.expiresAt ∧ d.webhookMonitored = false := by
  simp [toActivate, onChain, and_assoc]

theorem mem_getActiveAddresses :
    address ∈ getActiveAddresses docs chain now ↔
      ∃ d ∈ docs, d.address = address ∧ toActivate chain now d = true := by
  simp only [getActiveAddresses, List.mem_map, List.mem_filter]
  exact exists_congr fun d => and_assoc.trans (and_congr_right fun _ => and_comm)

/-- The query for the addresses to remove lists those of the expired and flagged snapshots. -/
theorem mem_getExpiredAddresses :
    address ∈ getExpiredAddresses docs chain now ↔
      ∃ d ∈ docs, d.address = address ∧ toRetire chain now d = true := by
  simp only [getExpiredAddresses, List.mem_map, List.mem_filter]
  exact exists_congr fun d => and_assoc.trans (and_congr_right fun _ => and_comm)

/-- A query selects an address as often as it has selected documents. -/
theorem nodup_addresses_iff {select : PortfolioSnapshot → Bool} :
    ((docs.filter select).map PortfolioSnapshot.address).Nodup ↔
      ∀ address, docs.countP (fun d => d.address == address && select d) ≤ 1 := by
  rw [List.nodup_iff_count_le_one]
  simp [List.count, List.countP_map, List.countP_filter, Function.comp_def]

/-- An address is selected twice when it has two such snapshots, one for each provider. The list
that is sent to the webhook would then name it twice. -/
theorem singleSelections_iff :
    SingleSelections docs chain now ↔
      (getActiveAddresses docs chain now).Nodup ∧ (getExpiredAddresses docs chain now).Nodup := by
  rw [getActiveAddresses, getExpiredAddresses, nodup_addresses_iff, nodup_addresses_iff]
  exact forall_and

/-- An address is both expired and active when its snapshots expire at different times. It is then
subscribed by one list and removed by the other. -/
theorem noMixedExpiry_iff :
    NoMixedExpiry docs chain now ↔
      ∀ a ∈ getExpiredAddresses docs chain now, ¬ Active docs chain now a := by
  constructor
  · intro h a ha
    obtain ⟨d, hd, rfl, hRetire⟩ := mem_getExpiredAddresses.mp ha
    exact h d hd hRetire
  · intro h d hd hRetire
    exact h d.address (mem_getExpiredAddresses.mpr ⟨d, hd, rfl, hRetire⟩)

theorem active_of_mem_getActiveAddresses (h : address ∈ getActiveAddresses docs chain now) :
    Active docs chain now address := by
  obtain ⟨d, hd, hAddress, hActivate⟩ := mem_getActiveAddresses.mp h
  obtain ⟨hChain, hLive, -⟩ := toActivate_iff.mp hActivate
  exact ⟨d, hd, hChain, hAddress, hLive⟩

end Queries

section Flags
variable {docs : List PortfolioSnapshot} {chain : ChainName} {now : Nat} {address : String}
  {activeAddresses expiredAddresses : List String}

@[simp] theorem setMonitored_chain (addresses : List String) (flag : Bool)
    (d : PortfolioSnapshot) : (setMonitored chain addresses flag d).chain = d.chain := by
  unfold setMonitored
  split <;> rfl

@[simp] theorem setMonitored_address (addresses : List String) (flag : Bool)
    (d : PortfolioSnapshot) : (setMonitored chain addresses flag d).address = d.address := by
  unfold setMonitored
  split <;> rfl

@[simp] theorem setMonitored_expiresAt (addresses : List String) (flag : Bool)
    (d : PortfolioSnapshot) : (setMonitored chain addresses flag d).expiresAt = d.expiresAt := by
  unfold setMonitored
  split <;> rfl

/-- Setting the flag reaches the snapshots of the chain that have one of the addresses, whoever
their provider is. -/
theorem setMonitored_webhookMonitored (addresses : List String) (flag : Bool)
    (d : PortfolioSnapshot) : (setMonitored chain addresses flag d).webhookMonitored =
      if d.chain = chain ∧ d.address ∈ addresses then flag else d.webhookMonitored := by
  unfold setMonitored
  split <;> rfl

/-- The snapshots after marking one list and unmarking another. A snapshot in both lists is left
unmarked, since the unmarking comes last. -/
theorem mem_flagged {d : PortfolioSnapshot} :
    d ∈ unmarkExpiredAddresses (markAddressesAsMonitored docs chain activeAddresses) chain
        expiredAddresses ↔
      ∃ e ∈ docs, setMonitored chain expiredAddresses false
        (setMonitored chain activeAddresses true e) = d := by
  simp [unmarkExpiredAddresses, markAddressesAsMonitored]

theorem active_flagged_iff :
    Active (unmarkExpiredAddresses (markAddressesAsMonitored docs chain activeAddresses) chain
      expiredAddresses) chain now address ↔ Active docs chain now address := by
  constructor
  · rintro ⟨d, hd, hChain, hAddress, hLive⟩
    obtain ⟨e, he, rfl⟩ := mem_flagged.mp hd
    exact ⟨e, he, by simpa using hChain, by simpa using hAddress, by simpa using hLive⟩
  · rintro ⟨e, he, hChain, hAddress, hLive⟩
    exact ⟨_, mem_flagged.mpr ⟨e, he, rfl⟩, by simpa using hChain, by simpa using hAddress,
      by simpa using hLive⟩

/-- All snapshots of an address end up flagged exactly when it is not unmarked
and is marked or was flagged throughout. -/
theorem all_flagged_iff (hSome : ∃ d ∈ docs, d.chain = chain ∧ d.address = address) :
    (∀ d ∈ unmarkExpiredAddresses (markAddressesAsMonitored docs chain activeAddresses) chain
        expiredAddresses, d.chain = chain → d.address = address → d.webhookMonitored = true) ↔
      address ∉ expiredAddresses ∧ (address ∈ activeAddresses ∨
        ∀ d ∈ docs, d.chain = chain → d.address = address → d.webhookMonitored = true) := by
  have hFlag : ∀ e : PortfolioSnapshot, e.chain = chain → e.address = address →
      (setMonitored chain expiredAddresses false
        (setMonitored chain activeAddresses true e)).webhookMonitored =
      if address ∈ expiredAddresses then false
      else if address ∈ activeAddresses then true else e.webhookMonitored := by
    intro e hChain hAddress
    simp [setMonitored_webhookMonitored, hChain, hAddress]
  constructor
  · intro h
    have hAll : ∀ e ∈ docs, e.chain = chain → e.address = address →
        (if address ∈ expiredAddresses then false
          else if address ∈ activeAddresses then true else e.webhookMonitored) = true := by
      intro e he hChain hAddress
      rw [← hFlag e hChain hAddress]
      exact h _ (mem_flagged.mpr ⟨e, he, rfl⟩) (by simpa using hChain) (by simpa using hAddress)
    obtain ⟨d, hd, hChain, hAddress⟩ := hSome
    have hKept : address ∉ expiredAddresses := by
      intro hMem
      have hD := hAll d hd hChain hAddress
      rw [if_pos hMem] at hD
      cases hD
    refine ⟨hKept, ?_⟩
    by_cases hMarked : address ∈ activeAddresses
    · exact .inl hMarked
    · refine .inr fun e he hChain hAddress => ?_
      simpa [hKept, hMarked] using hAll e he hChain hAddress
  · rintro ⟨hKept, hReason⟩ d hd hChain hAddress
    obtain ⟨e, he, rfl⟩ := mem_flagged.mp hd
    rw [setMonitored_chain, setMonitored_chain] at hChain
    rw [setMonitored_address, setMonitored_address] at hAddress
    rw [hFlag e hChain hAddress, if_neg hKept]
    split
    · rfl
    · rename_i hUnmarked
      exact (hReason.resolve_left hUnmarked) e he hChain hAddress

end Flags

section Handler
variable {docs : List PortfolioSnapshot} {chain : ChainName} {now : Nat}

/-- Without anything to change the handler leaves the snapshots alone. What is active and flagged is
then decided by the snapshots as they were. -/
theorem keepsActive_idle_iff (hActive : getActiveAddresses docs chain now = [])
    (hExpired : getExpiredAddresses docs chain now = []) :
    KeepsActive docs chain now ⟨none, docs⟩ ↔
      SingleSelections docs chain now ∧ NoMixedExpiry docs chain now ∧
        NoHiddenUnflagged docs chain now := by
  have hNoneToActivate : ∀ address, ¬ ∃ d ∈ docs, d.address = address ∧
      toActivate chain now d = true := by
    intro address h
    have := mem_getActiveAddresses.mpr h
    rw [hActive] at this
    cases this
  constructor
  · rintro ⟨-, hFlags⟩
    refine ⟨?_, ?_, fun address h => .inr (hFlags address h)⟩
    · rw [singleSelections_iff, hActive, hExpired]
      exact ⟨List.nodup_nil, List.nodup_nil⟩
    · rw [noMixedExpiry_iff, hExpired]
      exact fun a ha => by cases ha
  · rintro ⟨-, -, hHidden⟩
    refine ⟨fun lists h => (by cases h), fun address h => ?_⟩
    exact (hHidden address h).resolve_left (hNoneToActivate address)

/-- When all calls pass, active addresses are kept exactly if no address is selected twice, none
is selected both ways, and no unflagged snapshot of an active address is overlooked. -/
theorem keepsActive_passed_iff :
    KeepsActive docs chain now
        ⟨some (getActiveAddresses docs chain now, getExpiredAddresses docs chain now),
          unmarkExpiredAddresses
            (markAddressesAsMonitored docs chain (getActiveAddresses docs chain now)) chain
            (getExpiredAddresses docs chain now)⟩ ↔
      SingleSelections docs chain now ∧ NoMixedExpiry docs chain now ∧
        NoHiddenUnflagged docs chain now := by
  rw [singleSelections_iff, noMixedExpiry_iff]
  constructor
  · rintro ⟨hLists, hFlags⟩
    obtain ⟨hActive, hExpired, -, hKept⟩ := hLists _ rfl
    refine ⟨⟨hActive, hExpired⟩, hKept, fun address h => ?_⟩
    have hSome : ∃ d ∈ docs, d.chain = chain ∧ d.address = address := by
      obtain ⟨d, hd, hChain, hAddress, -⟩ := h
      exact ⟨d, hd, hChain, hAddress⟩
    have hAll := (all_flagged_iff hSome).mp (hFlags address (active_flagged_iff.mpr h))
    exact hAll.2.imp_left mem_getActiveAddresses.mp
  · rintro ⟨⟨hActive, hExpired⟩, hKept, hHidden⟩
    refine ⟨?_, ?_⟩
    · rintro lists hLists
      cases hLists
      refine ⟨hActive, hExpired, ?_, hKept⟩
      intro address hAdd hRemove
      exact hKept address hRemove (active_of_mem_getActiveAddresses hAdd)
    · intro address h
      have hBefore := active_flagged_iff.mp h
      have hSome : ∃ d ∈ docs, d.chain = chain ∧ d.address = address := by
        obtain ⟨d, hd, hChain, hAddress, -⟩ := hBefore
        exact ⟨d, hd, hChain, hAddress⟩
      refine (all_flagged_iff hSome).mpr ⟨fun hRemove => hKept address hRemove hBefore, ?_⟩
      exact (hHidden address hBefore).imp_left mem_getActiveAddresses.mpr

/-- A run that is not throttled keeps the active addresses exactly when the
snapshots of each address agree on their expiry and flag as far as stated. -/
theorem keepsActive_iff {lastProcessTime : Option Nat}
    (hDue : ∀ last ∈ Text.nonzero lastProcessTime, processInterval ≤ now - last) :
    KeepsActive docs chain now (handlePortfolioRedisUpdate docs chain now lastProcessTime true) ↔
      SingleSelections docs chain now ∧ NoMixedExpiry docs chain now ∧
        NoHiddenUnflagged docs chain now := by
  have hUpdate : handlePortfolioRedisUpdate docs chain now lastProcessTime true =
      handlePortfolioRedisUpdate.update docs chain now true := by
    unfold handlePortfolioRedisUpdate
    split
    · rename_i last hLast
      rw [if_neg (Nat.not_lt.mpr (hDue last hLast))]
    · rfl
  rw [hUpdate, handlePortfolioRedisUpdate.update]
  split
  · rename_i hEmpty
    exact keepsActive_idle_iff hEmpty.1 hEmpty.2
  · exact keepsActive_passed_iff

end Handler

/-- One address with a snapshot for each of two providers. -/
def twoProviders (first second : Nat × Bool) : List PortfolioSnapshot :=
  [⟨.ethereum, 1, "0xab", some "alchemy", .undefined, first.2, first.1⟩,
    ⟨.ethereum, 1, "0xab", some "quicknode", .undefined, second.2, second.1⟩]

/-- Both snapshots of the address are unexpired. The one without the flag is selected, and the
marking reaches both. -/
theorem keepsActive_twoProviders :
    KeepsActive (twoProviders (2000, true) (3000, false)) .ethereum 1000
      (handlePortfolioRedisUpdate (twoProviders (2000, true) (3000, false)) .ethereum 1000 none
        true) := by
  refine (keepsActive_iff (fun _ h => by cases h)).mpr ⟨?_, ?_, ?_⟩
  · rw [singleSelections_iff]
    decide
  · rw [noMixedExpiry_iff]
    intro a ha
    cases ha
  · intro address hActive
    obtain ⟨d, hd, -, hAddress, -⟩ := hActive
    refine .inl ⟨_, List.mem_cons_of_mem _ (List.mem_singleton.mpr rfl), ?_, by decide⟩
    rcases List.mem_cons.mp hd with rfl | hd
    · exact hAddress
    · rw [List.mem_singleton.mp hd] at hAddress
      exact hAddress

/-- The flagged snapshot of one provider has expired while the other provider's
is live: the address is added and removed in one request. -/
theorem not_keepsActive_twoProviders :
    ¬ KeepsActive (twoProviders (500, true) (3000, false)) .ethereum 1000
      (handlePortfolioRedisUpdate (twoProviders (500, true) (3000, false)) .ethereum 1000 none
        true) := by
  rintro ⟨hLists, -⟩
  obtain ⟨-, -, hDisjoint, -⟩ := hLists (["0xab"], ["0xab"]) rfl
  exact hDisjoint (List.mem_singleton.mpr rfl) (List.mem_singleton.mpr rfl)

end BalanceKit.ChainUpdate
