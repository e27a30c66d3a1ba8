import BalanceKit.Core.InvalidationScope
import BalanceKit.Core.PatternDeletion
import BalanceKit.Sse.FilterAgreement

/-! The way of an address activity to the filtered clients: the key that one service
joins is split again by the filters of another. -/
namespace BalanceKit.Sse

/-- The publication of `handleAddressCacheInvalidated`, with the metadata that it adds. -/
def handleAddressCacheInvalidated (now : Nat) (uuid : String)
    (event : AddressCacheInvalidatedEvent) : Publication where
  key := event.cacheKey
  pattern := some event.cachePattern
  metadata := some ⟨some event.chain.value, some event.chainId, some event.address⟩
  timestamp := now
  uuid := uuid

/-- What is published for an activity. -/
def publications (now : Nat) (uuid : String) (event : AddressActivityEvent)
    (mongoResult redisResult : Settled) : List Publication :=
  (CacheMongoService.notifications now event mongoResult redisResult).map
    (handleAddressCacheInvalidated now uuid)

/-- An activity on a chain, with the id of that chain. -/
def activity (chain : ChainName) (address : String) (action : Option String) :
    AddressActivityEvent :=
  ⟨chain, (chainInfo chain).id, address, action⟩

/-- `portfolio:{chain}:{chainId}:{address}` -/
def activityKey (chain : ChainName) (address : String) : String :=
  "portfolio:" ++ chain.value ++ ":" ++ toString (chainInfo chain).id ++ ":" ++ address

/-- The conditions of a filtered client. -/
structure ClientFilter where
  chain : Option ChainName
  chainId : Option Int
  address : Option String
  pattern : Option String

def ClientFilter.subscription (f : ClientFilter) : AddressSubscription :=
  ⟨f.chain.map ChainName.value, f.chainId, f.address, f.pattern⟩

/-- Every condition that is given is met. -/
def ClientFilter.Given (f : ClientFilter) (chain : ChainName) (address : String) : Prop :=
  (∀ c ∈ f.chain, c = chain) ∧ (∀ id ∈ f.chainId, id = (chainInfo chain).id) ∧
    (∀ a ∈ f.address, a = address) ∧
    ∀ part ∈ f.pattern, Text.includes (activityKey chain address) part = true

/-- A zero chain id and an empty address are no conditions. -/
def ClientFilter.Wants (f : ClientFilter) (chain : ChainName) (address : String) : Prop :=
  (∀ c ∈ f.chain, c = chain) ∧ (∀ id ∈ f.chainId, id ≠ 0 → id = (chainInfo chain).id) ∧
    (∀ a ∈ f.address, a ≠ "" → a = address) ∧
    ∀ part ∈ f.pattern, Text.includes (activityKey chain address) part = true

/-- The notification passes both filters of a client exactly if the client wants it. -/
def Passes (wants : ClientFilter → Prop) (p : Publication) : Prop :=
  ∀ f : ClientFilter,
    (matchesSubscriptionMessage (formatCacheEvent p.event).data f.subscription = true ↔ wants f) ∧
      (matchesSubscription p.event f.subscription = true ↔ wants f)

section Conditions

theorem meetsText_iff {condition : Option String} {value : String} :
    meetsText condition (some value) = true ↔ ∀ c ∈ condition, c ≠ "" → c = value := by
  cases condition with
  | none => simp [meetsText, Text.present]
  | some c =>
      by_cases hEmpty : c = ""
      · simp [meetsText, Text.present, hEmpty]
      · rw [meetsText, Text.present_some hEmpty]
        constructor
        · rintro h d hd -
          obtain rfl : c = d := Option.some.inj hd
          exact (Option.some.inj (eq_of_beq h)).symm
        · intro h
          rw [h c rfl hEmpty]
          exact beq_self_eq_true _

theorem meetsNumber_iff {condition : Option Int} {value : Int} :
    meetsNumber condition (some value) = true ↔ ∀ n ∈ condition, n ≠ 0 → n = value := by
  cases condition with
  | none => simp [meetsNumber]
  | some n =>
      by_cases hZero : n = 0
      · subst hZero
        refine iff_of_true rfl fun m hm hNonzero => ?_
        exact absurd (Option.some.inj hm).symm hNonzero
      · have hFilter : (some n).filter (· ≠ 0) = some n := by simp [hZero]
        rw [meetsNumber, hFilter]
        constructor
        · rintro h m hm -
          obtain rfl : n = m := Option.some.inj hm
          exact (Option.some.inj (eq_of_beq h)).symm
        · intro h
          rw [h n rfl hZero]
          exact beq_self_eq_true _

/-- The empty text is part of every key. -/
theorem meetsPattern_iff {condition : Option String} {key : String} :
    meetsPattern condition key = true ↔ ∀ part ∈ condition, Text.includes key part = true := by
  cases condition with
  | none => simp [meetsPattern, Text.present]
  | some part =>
      by_cases hEmpty : part = ""
      · simp [meetsPattern, Text.present, hEmpty, Text.includes]
      · rw [meetsPattern, Text.present_some hEmpty]
        simp

end Conditions

theorem parseInt_chainId (chain : ChainName) :
    Text.parseInt (toString (chainInfo chain).id) = some ((chainInfo chain).id : Int) := by
  cases chain <;> decide +kernel

/-- The parts that were joined are found again. Neither the chain nor an accepted address has the
delimiter in it. -/
theorem keyMetadata_activityKey (chain : ChainName) {address : String}
    (hAddress : ':' ∉ address.toList) :
    keyMetadata (activityKey chain address) =
      some ⟨some chain.value, some (chainInfo chain).id, some address⟩ := by
  have hJoined : activityKey chain address = (String.singleton ':').intercalate
      ["portfolio", chain.value, toString (chainInfo chain).id, address] := by
    have hDelimiter : String.singleton ':' = ":" := rfl
    have hHead : "portfolio:" = "portfolio" ++ ":" := rfl
    simp only [activityKey, hHead, hDelimiter, String.intercalate_cons_cons,
      String.intercalate_singleton, String.append_assoc]
  have hParts : Text.split (activityKey chain address) ':' =
      ["portfolio", chain.value, toString (chainInfo chain).id, address] := by
    rw [hJoined]
    apply Text.split_intercalate (by simp)
    intro part hPart
    simp only [List.mem_cons, List.not_mem_nil, or_false] at hPart
    rcases hPart with rfl | rfl | rfl | rfl
    · decide
    · exact ChainName.colon_not_mem_value chain
    · exact fun h => (InvalidationScope.plain_toString _ _ h).2 rfl
    · exact hAddress
  rw [keyMetadata, hParts]
  simp only [parseInt_chainId]

/-- Metadata and key of the notification say the same, so both filters decide by it. It does not
matter whether a client hears of it live or by a replay. -/
theorem passes_handleAddressCacheInvalidated (now : Nat) (uuid : String) (chain : ChainName)
    {address : String} (hAddress : ':' ∉ address.toList) :
    Passes (fun f => f.Wants chain address)
      (handleAddressCacheInvalidated now uuid
        (NotificationService.emitAddressCacheInvalidated now chain (chainInfo chain).id address)) := by
  intro f
  have hKey := keyMetadata_activityKey chain hAddress
  have hNonempty : (activityKey chain address != "") = true := by
    rw [bne_iff_ne]
    intro hEmpty
    rw [hEmpty] at hKey
    cases hKey
  have hWants : ((⟨some chain.value, some (chainInfo chain).id, some address⟩ :
      EventMetadata).meets f.subscription && meetsPattern f.pattern (activityKey chain address)) =
        true ↔ f.Wants chain address := by
    have hChain : (∀ c ∈ f.chain.map ChainName.value, c ≠ "" → c = chain.value) ↔
        ∀ c ∈ f.chain, c = chain := by
      constructor
      · intro h c hc
        have hValue : c.value ≠ "" := by
          cases c <;> decide
        exact ChainName.value_injective (h c.value (Option.mem_map_of_mem _ hc) hValue)
      · intro h c hc _
        obtain ⟨d, hd, rfl⟩ := Option.map_eq_some_iff.mp hc
        rw [h d hd]
    simp only [EventMetadata.meets, Bool.and_eq_true, meetsText_iff, meetsNumber_iff,
      meetsPattern_iff, ClientFilter.subscription, hChain, ClientFilter.Wants, and_assoc]
  have hLive : matchesKey (activityKey chain address) f.subscription =
      ((⟨some chain.value, some (chainInfo chain).id, some address⟩ : EventMetadata).meets
        f.subscription && meetsPattern f.pattern (activityKey chain address)) := by
    rw [matchesKey_eq, hKey]
    rfl
  constructor
  · show (activityKey chain address != "" &&
        matchesKey (activityKey chain address) f.subscription) = true ↔ f.Wants chain address
    rw [hNonempty, Bool.true_and, hLive]
    exact hWants
  · exact hWants

/-- An activity is announced once, to the clients that want it, however the invalidations
ended; one that reports an invalidation is not announced. -/
theorem publications_exact (chain : ChainName) {address : String}
    (hAddress : ':' ∉ address.toList) (action : Option String) (now : Nat) (uuid : String)
    (mongoResult redisResult : Settled) :
    (action ≠ some "cache_invalidated" →
      ∃ p, publications now uuid (activity chain address action) mongoResult redisResult = [p] ∧
        Passes (fun f => f.Wants chain address) p) ∧
    (action = some "cache_invalidated" →
      publications now uuid (activity chain address action) mongoResult redisResult = []) := by
  constructor
  · intro hAction
    refine ⟨_, ?_, passes_handleAddressCacheInvalidated now uuid chain hAddress⟩
    rw [publications, CacheMongoService.notifications, if_neg (by exact hAction)]
    rfl
  · intro hAction
    rw [publications, CacheMongoService.notifications, if_pos (by exact hAction)]
    rfl

theorem publications_exact_wallet :
    ∃ p, publications 0 "1" (activity .ethereum "0xab" none) .rejected (.fulfilled 0) = [p] ∧
      Passes (fun f => f.Wants .ethereum "0xab") p :=
  (publications_exact .ethereum (by decide) none 0 "1" .rejected (.fulfilled 0)).1 (by simp)

/-- A client that gives an empty address is notified of any address. An empty condition restricts
nothing, in both filters. -/
theorem not_given_empty_address :
    publications 0 "1" (activity .ethereum "0xab" none) (.fulfilled 1) (.fulfilled 1) =
        [handleAddressCacheInvalidated 0 "1"
          (NotificationService.emitAddressCacheInvalidated 0 .ethereum 1 "0xab")] ∧
      ¬ Passes (fun f => f.Given .ethereum "0xab")
        (handleAddressCacheInvalidated 0 "1"
          (NotificationService.emitAddressCacheInvalidated 0 .ethereum 1 "0xab")) := by
  refine ⟨rfl, fun h => ?_⟩
  have hLive := (h ⟨none, none, some "", none⟩).1.mp (by decide +kernel)
  exact absurd (hLive.2.2.1 "" rfl) (by decide)

end BalanceKit.Sse
