import BalanceKit.Sse.Events

/-! Where the replay filter and the live filter agree. The first reads the metadata of
an event and the second its key, and each has a fallback of its own. -/
namespace BalanceKit.Sse

/-- What the filters read off a key `portfolio:{chain}:{chainId}:{address}:...`. -/
def keyMetadata (key : String) : Option EventMetadata :=
  match Text.split key ':' with
  | "portfolio" :: chain :: chainIdStr :: address :: _ =>
      some ⟨some chain, Text.parseInt chainIdStr, some address⟩
  | _ => none

/-- The conditions on chain, chain id and address. -/
def EventMetadata.meets (metadata : EventMetadata) (subscription : AddressSubscription) : Bool :=
  meetsText subscription.chain metadata.chain &&
    meetsNumber subscription.chainId metadata.chainId &&
    meetsText subscription.address metadata.address

/-- The part of the metadata that a condition can tell: an empty text or a zero is no
condition. -/
def EventMetadata.visible (metadata : EventMetadata) : EventMetadata :=
  ⟨Text.present metadata.chain, metadata.chainId.filter (· ≠ 0), Text.present metadata.address⟩

theorem keyMetadata_eq_none {key : String}
    (h : ∀ chain chainIdStr address rest,
      Text.split key ':' ≠ "portfolio" :: chain :: chainIdStr :: address :: rest) :
    keyMetadata key = none := by
  unfold keyMetadata
  split
  · rename_i hForm
    exact absurd hForm (h _ _ _ _)
  · rfl

/-- The live filter reads the metadata off the key and compares it with the subscription. Where
the key tells nothing it lets pass only what is subscribed to without restriction. -/
theorem matchesKey_eq (key : String) (subscription : AddressSubscription) :
    matchesKey key subscription =
      match keyMetadata key with
      | some parts => parts.meets subscription && meetsPattern subscription.pattern key
      | none => unrestricted subscription := by
  unfold matchesKey
  split
  · rename_i chain chainIdStr address rest hForm
    have hParts : keyMetadata key =
        some ⟨some chain, Text.parseInt chainIdStr, some address⟩ := by
      rw [keyMetadata, hForm]
      rfl
    rw [hParts]
    rfl
  · rename_i hOther
    rw [keyMetadata_eq_none hOther]

/-- The filter of the replay compares the metadata of the event, if there is any, and looks at the
key for the pattern. Without metadata it is the live filter. -/
theorem matchesSubscription_eq (e : CacheInvalidateEvent) (subscription : AddressSubscription) :
    matchesSubscription e subscription =
      match e.metadata with
      | none => matchesKey e.key subscription
      | some metadata => metadata.meets subscription && meetsPattern subscription.pattern e.key := rfl

/-- A reconnecting client is replayed the event exactly if it would have got it live. -/
def FiltersAgree (p : Publication) (subscription : AddressSubscription) : Prop :=
  matchesSubscription p.event subscription =
    matchesSubscriptionMessage (formatCacheEvent p.event).data subscription

/-- The key has the subscription decided like the metadata. A key of another form is
for the subscriptions without conditions, whatever their pattern. -/
def Decided (p : Publication) (subscription : AddressSubscription) : Prop :=
  match p.metadata, keyMetadata p.key with
  | none, _ => True
  | some metadata, some parts =>
      meetsPattern subscription.pattern p.key = true →
        metadata.meets subscription = parts.meets subscription
  | some metadata, none =>
      if unrestricted subscription then meetsPattern subscription.pattern p.key = true
      else ¬ (metadata.meets subscription = true ∧ meetsPattern subscription.pattern p.key = true)

/-- The metadata is absent, or the key of a portfolio says the same. -/
def Consistent (p : Publication) : Prop :=
  ∀ metadata, p.metadata = some metadata →
    ∃ parts, keyMetadata p.key = some parts ∧ metadata.visible = parts.visible

section Conditions

theorem meetsText_self (value : Option String) : meetsText value value = true := by
  unfold meetsText
  split
  · rename_i c hPresent
    rw [Text.eq_some_of_present hPresent]
    exact beq_self_eq_true _
  · rfl

theorem meetsText_present (condition value : Option String) :
    meetsText condition (Text.present value) = meetsText condition value := by
  unfold meetsText
  split
  · rename_i c hPresent
    have hNonempty : c ≠ "" := by
      rintro rfl
      rw [Text.eq_some_of_present hPresent] at hPresent
      cases hPresent
    cases value with
    | none => rfl
    | some text =>
        by_cases hText : text = ""
        · simp [Text.present, hText, Ne.symm hNonempty]
        · rw [Text.present_some hText]
  · rfl

theorem present_of_meetsText {a b : Option String} {c : String} (h : meetsText a b = true)
    (hPresent : Text.present a = some c) : Text.present b = some c := by
  rw [meetsText, hPresent] at h
  rw [eq_of_beq h]
  rwa [Text.eq_some_of_present hPresent] at hPresent

/-- Two texts that meet each other are the same for every condition. Two empty ones need not be
equal, but no condition tells them apart. -/
theorem present_eq_of_meetsText {a b : Option String} (hLeft : meetsText a b = true)
    (hRight : meetsText b a = true) : Text.present a = Text.present b := by
  cases hA : Text.present a with
  | some c => exact (present_of_meetsText hLeft hA).symm
  | none =>
      cases hB : Text.present b with
      | some c => rw [present_of_meetsText hRight hB] at hA; cases hA
      | none => rfl

theorem meetsNumber_self (value : Option Int) : meetsNumber value value = true := by
  unfold meetsNumber
  split
  · rename_i c hNonzero
    rw [(Option.filter_eq_some_iff.mp hNonzero).1]
    exact beq_self_eq_true _
  · rfl

theorem meetsNumber_filter (condition value : Option Int) :
    meetsNumber condition (value.filter (· ≠ 0)) = meetsNumber condition value := by
  unfold meetsNumber
  split
  · rename_i c hNonzero
    have hCondition : c ≠ 0 := by simpa using (Option.filter_eq_some_iff.mp hNonzero).2
    cases value with
    | none => rfl
    | some n =>
        by_cases hZero : n = 0
        · simp [hZero, Ne.symm hCondition]
        · simp [hCondition]
  · rfl

theorem filter_of_meetsNumber {a b : Option Int} {c : Int} (h : meetsNumber a b = true)
    (hNonzero : a.filter (· ≠ 0) = some c) : b.filter (· ≠ 0) = some c := by
  rw [meetsNumber, hNonzero] at h
  rw [eq_of_beq h]
  rwa [(Option.filter_eq_some_iff.mp hNonzero).1] at hNonzero

/-- Two numbers that meet each other are equal, or both of them stand for no number. -/
theorem filter_eq_of_meetsNumber {a b : Option Int} (hLeft : meetsNumber a b = true)
    (hRight : meetsNumber b a = true) : a.filter (· ≠ 0) = b.filter (· ≠ 0) := by
  cases hA : a.filter (· ≠ 0) with
  | some c => exact (filter_of_meetsNumber hLeft hA).symm
  | none =>
      cases hB : b.filter (· ≠ 0) with
      | some c => rw [filter_of_meetsNumber hRight hB] at hA; cases hA
      | none => rfl

end Conditions

/-- Conditions see no more than the visible part. The metadata has further fields, and these are
never asked about. -/
theorem meets_visible (metadata : EventMetadata) (subscription : AddressSubscription) :
    metadata.visible.meets subscription = metadata.meets subscription := by
  simp only [EventMetadata.meets, EventMetadata.visible, meetsText_present, meetsNumber_filter]

/-- The subscription to what the metadata says. -/
def EventMetadata.subscription (metadata : EventMetadata) : AddressSubscription :=
  ⟨metadata.chain, metadata.chainId, metadata.address, none⟩

theorem meets_subscription_self (metadata : EventMetadata) :
    metadata.meets metadata.subscription = true := by
  simp only [EventMetadata.meets, EventMetadata.subscription, meetsText_self, meetsNumber_self,
    Bool.and_self]

/-- Two pieces of metadata that meet each other's subscription look the same. This makes the visible
part the right notion of equality for it. -/
theorem visible_eq {a b : EventMetadata} (hLeft : b.meets a.subscription = true)
    (hRight : a.meets b.subscription = true) : a.visible = b.visible := by
  simp only [EventMetadata.meets, EventMetadata.subscription, Bool.and_eq_true] at hLeft hRight
  obtain ⟨⟨hChain, hChainId⟩, hAddress⟩ := hLeft
  obtain ⟨⟨hChain', hChainId'⟩, hAddress'⟩ := hRight
  unfold EventMetadata.visible
  rw [present_eq_of_meetsText hChain hChain', filter_eq_of_meetsNumber hChainId hChainId',
    present_eq_of_meetsText hAddress hAddress']

/-- No key contains a longer text. -/
theorem meetsPattern_longer (key : String) : meetsPattern (some (key ++ "*")) key = false := by
  have hNonempty : key ++ "*" ≠ "" := by
    simp [String.append_eq_empty_iff]
  rw [meetsPattern, Text.present_some hNonempty]
  apply decide_eq_false
  intro hInfix
  have hLength := hInfix.length_le
  rw [String.toList_append, List.length_append] at hLength
  have hOne : "*".toList.length = 1 := rfl
  omega

section Agreement
variable {p : Publication} (hKey : p.key ≠ "")
include hKey

/-- The filters agree on an event and a subscription exactly where the key has it decided like the
metadata. Without metadata both read the key. -/
theorem filtersAgree_iff_decided (subscription : AddressSubscription) :
    FiltersAgree p subscription ↔ Decided p subscription := by
  have hLive : matchesSubscriptionMessage (formatCacheEvent p.event).data subscription =
      matchesKey p.key subscription := by
    have hTrue : (p.key != "") = true := bne_iff_ne.mpr hKey
    show (p.key != "" && matchesKey p.key subscription) = _
    rw [hTrue, Bool.true_and]
  have hReplay := matchesSubscription_eq p.event subscription
  simp only [Publication.event] at hReplay
  rw [FiltersAgree, hLive, Decided, Publication.event, hReplay, matchesKey_eq]
  cases p.metadata with
  | none => simp
  | some metadata =>
      cases keyMetadata p.key with
      | some parts =>
          cases meetsPattern subscription.pattern p.key <;> simp
      | none =>
          cases hRestricted : unrestricted subscription with
          | true =>
              have hMeets : metadata.meets subscription = true := by
                simp only [unrestricted, Bool.and_eq_true, Option.isNone_iff_eq_none] at hRestricted
                obtain ⟨⟨hChain, hChainId⟩, hAddress⟩ := hRestricted
                simp only [EventMetadata.meets, meetsText, meetsNumber, hChain, hChainId, hAddress,
                  Bool.and_self]
              simp [hMeets]
          | false => simp

/-- The filters agree on a subscription when metadata and key decide it alike. They agree
on every subscription exactly when an event with metadata has a portfolio key that says
the same. -/
theorem filtersAgree_iff :
    (∀ subscription, FiltersAgree p subscription ↔ Decided p subscription) ∧
      ((∀ subscription, FiltersAgree p subscription) ↔ Consistent p) := by
  refine ⟨filtersAgree_iff_decided hKey, ?_⟩
  simp only [filtersAgree_iff_decided hKey]
  constructor
  · intro h metadata hMetadata
    cases hParts : keyMetadata p.key with
    | none =>
        have hForeign := h ⟨none, none, none, some (p.key ++ "*")⟩
        simp only [Decided, hMetadata, hParts, meetsPattern_longer] at hForeign
        cases hForeign
    | some parts =>
        have hSame : ∀ subscription, subscription.pattern = none →
            metadata.meets subscription = parts.meets subscription := by
          intro subscription hPattern
          have hDecided := h subscription
          simp only [Decided, hMetadata, hParts, hPattern] at hDecided
          exact hDecided rfl
        refine ⟨parts, rfl, visible_eq ?_ ?_⟩
        · rw [← hSame _ rfl]
          exact meets_subscription_self metadata
        · rw [hSame _ rfl]
          exact meets_subscription_self parts
  · intro h subscription
    unfold Decided
    cases hMetadata : p.metadata with
    | none => trivial
    | some metadata =>
        obtain ⟨parts, hParts, hVisible⟩ := h metadata hMetadata
        rw [hParts]
        intro _
        rw [← meets_visible metadata, ← meets_visible parts, hVisible]

end Agreement

/-- An event that says twice what it is about. -/
def consistentPublication : Publication :=
  ⟨"portfolio:ethereum:1:0xab", none, some ⟨some "ethereum", some 1, some "0xab"⟩, 1000, "1"⟩

/-- The metadata of this event says what its key tells, so both filters drop it. -/
theorem filtersAgree_consistentPublication :
    FiltersAgree consistentPublication ⟨some "ethereum", none, some "0xcd", none⟩ := by
  refine (filtersAgree_iff (by decide)).2.mpr ?_ _
  intro metadata hMetadata
  obtain rfl := Option.some.inj hMetadata
  exact ⟨_, by decide +kernel, rfl⟩

/-- The key of a token, with metadata. -/
def nftPublication : Publication :=
  ⟨"nft:ethereum:1:0xab", none, some ⟨some "ethereum", some 1, some "0xab"⟩, 1000, "1"⟩

/-- A client of the chain is replayed the event but would not have got it live. Its key begins with
another prefix, so the live filter cannot read the chain from it. -/
theorem not_filtersAgree_nftPublication :
    nftPublication.key ≠ "" ∧
      matchesSubscription nftPublication.event ⟨some "ethereum", none, none, none⟩ = true ∧
      ¬ FiltersAgree nftPublication ⟨some "ethereum", none, none, none⟩ := by
  unfold FiltersAgree
  decide +kernel

end BalanceKit.Sse
