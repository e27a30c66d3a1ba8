import BalanceKit.Core.CacheMongo
import BalanceKit.Webhook.Events

/-! From an address-activity payload to the stores: which cached spellings of an
address are gone once every handler has run. Keys, patterns and filters compare
strings exactly, so only the spellings that the payload itself uses are reached. -/
namespace BalanceKit.AddressInvalidation
open CacheKeyService WebhookService

def isHexDigit (c : Char) : Bool :=
  c.isDigit || decide ('a' ≤ c ∧ c ≤ 'f') || decide ('A' ≤ c ∧ c ≤ 'F')

/-- `0x` and forty hexadecimal digits of any case. -/
def isHexAddress (address : String) : Bool :=
  match address.toList with
  | '0' :: 'x' :: digits => digits.length == 40 && digits.all isHexDigit
  | _ => false

/-- The handlers that the emissions of a payload start. -/
def activityEvents (outcome : Outcome) : List AddressActivityEvent :=
  outcome.emitted.filterMap fun
    | .addressActivity chain chainId address metadata =>
        some ⟨chain, chainId, address, metadata.action⟩
    | _ => none

/-- The stores after the payload was saved and processed and every handler that
it started has completed, each at its own time. -/
def processed (clock : AddressActivityEvent → Nat) (payload : WebhookEventDto) (s : Stores) :
    Stores :=
  (activityEvents (processWebhookEvent (fun _ => false) true payload)).foldl
    (fun s event => CacheMongoService.handleAddressActivity s (clock event) event) s

def payloadAddresses (payload : WebhookEventDto) : List String :=
  payload.event.activity.flatMap activityAddresses

/-- Some key or unexpired snapshot at time `t` holds a portfolio of the address. -/
def Held (t : Nat) (chain : ChainName) (address : String) (s : Stores) : Prop :=
  (∃ provider, ∃ e ∈ s.redis, e.key = createPortfolioKey chain address provider ∧
    t < e.expiresAt) ∨
  ∃ d ∈ s.snapshots, d.chainId = (chainInfo chain).id ∧ d.address = address ∧ t < d.expiresAt

/-- No spelling of the address is held. -/
def Cleared (t : Nat) (chain : ChainName) (address : String) (s : Stores) : Prop :=
  ∀ spelling, Text.toLowerCase spelling = Text.toLowerCase address → ¬ Held t chain spelling s

theorem plain_of_isHexDigit {c : Char} (h : isHexDigit c = true) : Glob.Plain c := by
  refine ⟨?_, ?_, ?_, ?_⟩ <;> rintro rfl <;> exact absurd h (by decide)

theorem isHexAddress_iff {address : String} :
    isHexAddress address = true ↔ ∃ digits, address.toList = '0' :: 'x' :: digits ∧
      digits.length = 40 ∧ ∀ c ∈ digits, isHexDigit c = true := by
  unfold isHexAddress
  split
  · rename_i digits hDigits
    simp [hDigits]
  · rename_i hNone
    constructor
    · intro h
      cases h
    · rintro ⟨digits, hDigits, -⟩
      exact absurd hDigits (hNone digits)

theorem length_of_isHexAddress {address : String} (h : isHexAddress address = true) :
    address.toList.length = 42 := by
  obtain ⟨digits, hDigits, hLength, -⟩ := isHexAddress_iff.mp h
  simp [hDigits, hLength]

theorem plain_of_isHexAddress {address : String} (h : isHexAddress address = true) :
    ∀ c ∈ address.toList, Glob.Plain c := by
  obtain ⟨digits, hDigits, -, hHex⟩ := isHexAddress_iff.mp h
  intro c hc
  rw [hDigits] at hc
  rcases List.mem_cons.mp hc with rfl | hc
  · decide
  rcases List.mem_cons.mp hc with rfl | hc
  · decide
  · exact plain_of_isHexDigit (hHex c hc)

theorem plain_chainStem (chain : ChainName) : ∀ c ∈ (chainStem chain).toList, Glob.Plain c := by
  have hAll : ((chainStem chain).toList.all fun c => decide (Glob.Plain c)) = true := by
    cases chain <;> decide
  simpa using hAll

/-- The stems of different chains are not prefixes of one another. Each of them ends in the
delimiter behind the chain id. -/
theorem chain_eq_of_comparable_stems {c d : ChainName}
    (h : (chainStem c).toList <+: (chainStem d).toList) : c = d := by
  cases c <;> cases d <;> first | rfl | exact absurd h (by decide)

/-- The pattern of one address matches exactly the keys of that address. -/
theorem matches_createPortfolioKey_iff {c d : ChainName} {address spelling : String}
    (hAddress : isHexAddress address = true) (hSpelling : spelling.toList.length = 42)
    (provider : Option String) :
    Glob.matchesPattern (chainAddressPattern c (chainInfo c).id address)
        (createPortfolioKey d spelling provider) = true ↔ c = d ∧ address = spelling := by
  have hNonempty : spelling ≠ "" := by
    rintro rfl
    simp at hSpelling
  have hLength := length_of_isHexAddress hAddress
  have hPlain : ∀ ch ∈ (chainStem c ++ address).toList, Glob.Plain ch := by
    intro ch hch
    rw [String.toList_append] at hch
    rcases List.mem_append.mp hch with hStem | hRest
    · exact plain_chainStem c ch hStem
    · exact plain_of_isHexAddress hAddress ch hRest
  rw [chainAddressPattern_eq, Glob.matchesPattern_star hPlain, createPortfolioKey_eq d hNonempty]
  simp only [String.toList_append, List.append_assoc]
  constructor
  · intro h
    have hStems : c = d := by
      have hLeft : (chainStem c).toList <+:
          (chainStem d).toList ++ (spelling.toList ++ (providerSuffix provider).toList) :=
        (List.prefix_append _ _).trans h
      rcases List.prefix_or_prefix_of_prefix hLeft (List.prefix_append _ _) with hCd | hDc
      · exact chain_eq_of_comparable_stems hCd
      · exact (chain_eq_of_comparable_stems hDc).symm
    subst hStems
    have hRest := (List.prefix_append_right_inj _).mp h
    have hSame : address.toList <+: spelling.toList :=
      List.prefix_of_prefix_length_le hRest (List.prefix_append _ _) (by omega)
    exact ⟨rfl, String.toList_inj.mp (hSame.eq_of_length (by omega))⟩
  · rintro ⟨rfl, rfl⟩
    rw [← List.append_assoc]
    exact List.prefix_append _ _

/-- One handler removes the address it is about and nothing else. The pattern is built from the
address of the activity, as it is spelt in the payload. -/
theorem held_handleAddressActivity_iff {s : Stores} (hIds : s.ChainIdsAgree) {t now : Nat}
    (hNow : now ≤ t) {chain c : ChainName} {spelling address : String}
    (hAddress : isHexAddress address = true) (hSpelling : spelling.toList.length = 42) :
    Held t chain spelling (CacheMongoService.handleAddressActivity s now
        ⟨c, (chainInfo c).id, address, none⟩) ↔
      Held t chain spelling s ∧ ¬ (c = chain ∧ address = spelling) := by
  have hRedis : ∀ provider,
      (∃ e ∈ (invalidateChainAddressCache s.redis c (chainInfo c).id address).1,
        e.key = createPortfolioKey chain spelling provider ∧ t < e.expiresAt) ↔
      (∃ e ∈ s.redis, e.key = createPortfolioKey chain spelling provider ∧ t < e.expiresAt) ∧
        ¬ (c = chain ∧ address = spelling) := by
    intro provider
    have hMatch := @matches_createPortfolioKey_iff c chain address spelling hAddress hSpelling
      provider
    constructor
    · rintro ⟨e, he, hKey, hLive⟩
      obtain ⟨hMem, hNoMatch⟩ := CacheService.mem_deleteByPattern.mp he
      refine ⟨⟨e, hMem, hKey, hLive⟩, fun hSame => ?_⟩
      rw [hKey, hMatch.mpr hSame] at hNoMatch
      cases hNoMatch
    · rintro ⟨⟨e, hMem, hKey, hLive⟩, hDifferent⟩
      refine ⟨e, CacheService.mem_deleteByPattern.mpr ⟨hMem, ?_⟩, hKey, hLive⟩
      rw [hKey]
      exact Bool.eq_false_iff.mpr fun h => hDifferent (hMatch.mp h)
  have hSnapshots :
      (∃ d ∈ DbService.invalidateAddressSnapshot s.snapshots now c (chainInfo c).id address,
        d.chainId = (chainInfo chain).id ∧ d.address = spelling ∧ t < d.expiresAt) ↔
      (∃ d ∈ s.snapshots,
        d.chainId = (chainInfo chain).id ∧ d.address = spelling ∧ t < d.expiresAt) ∧
        ¬ (c = chain ∧ address = spelling) := by
    constructor
    · rintro ⟨d, hd, hId, hAddr, hLive⟩
      obtain ⟨old, hOld, hNew⟩ := DbService.mem_invalidateAddressSnapshot.mp hd
      split at hNew
      · subst hNew
        exact absurd hLive (by simp only; omega)
      · rename_i hOther
        subst hNew
        refine ⟨⟨old, hOld, hId, hAddr, hLive⟩, ?_⟩
        rintro ⟨rfl, rfl⟩
        have hChain := chainInfo_id_injective ((hIds old hOld).symm.trans hId)
        exact hOther ⟨hChain, hId, hAddr⟩
    · rintro ⟨⟨d, hMem, hId, hAddr, hLive⟩, hDifferent⟩
      refine ⟨d, DbService.mem_invalidateAddressSnapshot.mpr ⟨d, hMem, if_neg ?_⟩, hId, hAddr,
        hLive⟩
      rintro ⟨-, hSameId, hSameAddress⟩
      exact hDifferent ⟨chainInfo_id_injective (hSameId.symm.trans hId),
        hSameAddress.symm.trans hAddr⟩
  simp only [Held, CacheMongoService.handleAddressActivity, reduceCtorEq, if_false, hRedis,
    hSnapshots, exists_and_right, or_and_right]

/-- What a run of handlers leaves of an address. The handlers may run in any order and any number of
times. -/
theorem held_foldl_iff {clock : AddressActivityEvent → Nat} {t : Nat} (hClock : ∀ e, clock e ≤ t)
    {c chain : ChainName} {spelling : String} (hSpelling : spelling.toList.length = 42)
    {addresses : List String} (hAddresses : ∀ a ∈ addresses, isHexAddress a = true)
    {s : Stores} (hIds : s.ChainIdsAgree) :
    Held t chain spelling ((addresses.map fun a => ⟨c, (chainInfo c).id, a, none⟩).foldl
        (fun s e => CacheMongoService.handleAddressActivity s (clock e) e) s) ↔
      Held t chain spelling s ∧ ¬ (c = chain ∧ spelling ∈ addresses) := by
  induction addresses generalizing s with
  | nil => simp
  | cons a rest ih =>
      have hFirst : isHexAddress a = true := hAddresses a (by simp)
      have hRest : ∀ b ∈ rest, isHexAddress b = true := fun b hb => hAddresses b (by simp [hb])
      have hIdsNext : (CacheMongoService.handleAddressActivity s
          (clock ⟨c, (chainInfo c).id, a, none⟩) ⟨c, (chainInfo c).id, a, none⟩).ChainIdsAgree :=
        chainIdsAgree_apply hIds (.handleAddressActivity _ _)
      rw [List.map_cons, List.foldl_cons, ih hRest hIdsNext,
        held_handleAddressActivity_iff hIds (hClock _) hFirst hSpelling, and_assoc]
      refine and_congr_right fun _ => ?_
      rw [List.mem_cons, ← not_or, ← and_or_left, @eq_comm _ a spelling]

/-- The handlers of an address-activity payload: one for each address that it
names, if its network is the identifier of a chain. -/
theorem activityEvents_addressActivity {payload : WebhookEventDto}
    (hType : WebhookEventType.ofString payload.type = some .addressActivity) :
    activityEvents (processWebhookEvent (fun _ => false) true payload) =
      match getChainNameFromNetworkId (networkKey payload.event) with
      | .own c => (payloadAddresses payload).map fun a => ⟨c, (chainInfo c).id, a, none⟩
      | _ => [] := by
  have hHandler : processWebhookEvent (fun _ => false) true payload =
      handleAddressActivity payload := by
    simp [processWebhookEvent, hType]
  rw [hHandler, handleAddressActivity, withChain]
  cases hChain : resolveChain payload.event with
  | ok pair =>
      obtain ⟨c, chainId⟩ := pair
      obtain ⟨hOwn, rfl⟩ := resolveChain_ok.mp hChain
      simp only [hOwn, activityEvents, payloadAddresses]
      induction payload.event.activity with
      | nil => rfl
      | cons item rest ih =>
          simp only [List.flatMap_cons, List.filterMap_append, List.map_append, ih]
          simp
  | error threw =>
      cases hName : getChainNameFromNetworkId (networkKey payload.event) with
      | own c =>
          have hOk := resolveChain_ok.mpr ⟨hName, rfl⟩
          rw [hChain] at hOk
          cases hOk
      | inherited => rfl
      | missing => rfl

/-- After the payload a spelling of an address is still held exactly if it was held before and no
address of the payload is spelt so. -/
theorem held_processed_iff {payload : WebhookEventDto}
    (hType : WebhookEventType.ofString payload.type = some .addressActivity)
    (hPayload : ∀ p ∈ payloadAddresses payload, isHexAddress p = true)
    {clock : AddressActivityEvent → Nat} {t : Nat} (hClock : ∀ e, clock e ≤ t)
    {chain : ChainName} {spelling : String} (hSpelling : spelling.toList.length = 42)
    {s : Stores} (hIds : s.ChainIdsAgree) :
    Held t chain spelling (processed clock payload s) ↔
      Held t chain spelling s ∧
        ¬ (getChainNameFromNetworkId (networkKey payload.event) = .own chain ∧
          spelling ∈ payloadAddresses payload) := by
  rw [processed, activityEvents_addressActivity hType]
  cases getChainNameFromNetworkId (networkKey payload.event) with
  | own c =>
      simp only [held_foldl_iff hClock hSpelling hPayload hIds, Text.Lookup.own.injEq]
  | inherited => simp
  | missing => simp

/-- The characters of an address are among those that have a lower case of one
character, which is neither `i` nor `k`. -/
theorem lowerCase_of_isHexAddress {address : String} (h : isHexAddress address = true) :
    ∀ c ∈ (Text.toLowerCase address).toList, c ≠ 'i' ∧ c ≠ 'k' := by
  obtain ⟨digits, hDigits, -, hHex⟩ := isHexAddress_iff.mp h
  have hDigit : ∀ c : Char, isHexDigit c = true → c ≠ '\u0130' ∧ c ≠ '\u212a' ∧
      c.toLower ≠ 'i' ∧ c.toLower ≠ 'k' := by
    intro c hc
    have hNot : ∀ d : Char, isHexDigit d = false → c ≠ d := by
      rintro d hd rfl
      rw [hc] at hd
      cases hd
    have hMoved : ∀ d : Char, isHexDigit d = false → isHexDigit (Char.ofNat (d.toNat - 32)) = false →
        c.toLower ≠ d := by
      rintro d hd hUpper rfl
      rcases Text.toLower_cases c with hSame | ⟨hMoved, -⟩
      · exact hNot _ hd hSame.symm
      · rw [hMoved, Nat.add_sub_cancel, Char.ofNat_toNat, hc] at hUpper
        cases hUpper
    exact ⟨hNot _ (by decide), hNot _ (by decide), hMoved _ (by decide) (by decide),
      hMoved _ (by decide) (by decide)⟩
  intro c hc
  rw [Text.toLowerCase, String.toList_ofList, List.mem_flatMap, hDigits] at hc
  obtain ⟨d, hd, hLower⟩ := hc
  rcases List.mem_cons.mp hd with rfl | hd
  · obtain rfl : c = '0' := by simpa [Text.lowerCase] using hLower
    decide
  rcases List.mem_cons.mp hd with rfl | hd
  · obtain rfl : c = 'x' := by simpa [Text.lowerCase] using hLower
    decide
  · obtain ⟨hDotted, hKelvin, hLetters⟩ := hDigit d (hHex d hd)
    rw [Text.lowerCase_of_ne hDotted hKelvin] at hLower
    rw [List.mem_singleton.mp hLower]
    exact hLetters

theorem length_of_spelling {address spelling : String} (hAddress : isHexAddress address = true)
    (h : Text.toLowerCase spelling = Text.toLowerCase address) : spelling.toList.length = 42 := by
  have hLower := lowerCase_of_isHexAddress hAddress
  have hLength := congrArg (fun text => text.toList.length) h
  rw [Text.toLowerCase_eq_map hLower, Text.toLowerCase_eq_map (h ▸ hLower)] at hLength
  simpa [length_of_isHexAddress hAddress] using hLength

/-- An address is cleared exactly when its network identifier is the one of the
chain table and every spelling under which it is cached occurs in the payload. -/
theorem cleared_processed_iff {history : List CacheStep} {payload : WebhookEventDto}
    (hType : WebhookEventType.ofString payload.type = some .addressActivity)
    (hPayload : ∀ p ∈ payloadAddresses payload, isHexAddress p = true)
    {clock : AddressActivityEvent → Nat} {t : Nat} (hClock : ∀ e, clock e ≤ t)
    {chain : ChainName} {address : String} (hAddress : isHexAddress address = true) :
    Cleared t chain address (processed clock payload (Stores.after history)) ↔
      ∀ spelling, Text.toLowerCase spelling = Text.toLowerCase address →
        Held t chain spelling (Stores.after history) →
          getChainNameFromNetworkId (networkKey payload.event) = .own chain ∧
            spelling ∈ payloadAddresses payload := by
  refine forall_congr' fun spelling => forall_congr' fun hSame => ?_
  rw [held_processed_iff hType hPayload hClock (length_of_spelling hAddress hSame)
    (chainIdsAgree_after history), not_and_not_right]

def lowerCaseAddress : String := "0xabcdefabcdefabcdefabcdefabcdefabcdefabcd"

/-- The address without lower-case letters, which needs no checksum. -/
def upperCaseAddress : String := "0xABCDEFABCDEFABCDEFABCDEFABCDEFABCDEFABCD"

def transferPayload (network : String) : WebhookEventDto :=
  ⟨"wh_1", "whevt_1", "ADDRESS_ACTIVITY", ⟨some network,
    [⟨some lowerCaseAddress, some "0x1111111111111111111111111111111111111111", some "0x2",
      none, none, none⟩], none, none, none⟩⟩

/-- Here the payload spells the address as it was cached, in lower case. -/
theorem cleared_lowerCase :
    Cleared 1000 .ethereum lowerCaseAddress
      (processed (fun _ => 500) (transferPayload "ETH_MAINNET")
        (Stores.after [.emitPortfolioUpdate 0 .ethereum lowerCaseAddress (.obj [])
          (some "alchemy")])) := by
  refine (cleared_processed_iff rfl (by decide) (fun _ => by decide) (by decide)).mpr ?_
  intro spelling hSame hHeld
  refine ⟨by decide, ?_⟩
  suffices lowerCaseAddress = spelling by
    subst this
    decide
  have hLength := length_of_spelling (by decide) hSame
  rcases hHeld with ⟨provider, e, he, hKey, -⟩ | ⟨d, hd, -, hAddress, -⟩
  · obtain rfl := List.mem_singleton.mp he
    refine ((@matches_createPortfolioKey_iff .ethereum .ethereum _ spelling (by decide) hLength
      provider).mp ?_).2
    rw [← hKey]
    decide
  · obtain rfl := List.mem_singleton.mp hd
    exact hAddress

/-- The portfolio was cached under the upper-case spelling and Alchemy reports
the lower-case one. -/
theorem not_cleared_upperCase :
    ¬ Cleared 1000 .ethereum lowerCaseAddress
      (processed (fun _ => 500) (transferPayload "ETH_MAINNET")
        (Stores.after [.emitPortfolioUpdate 0 .ethereum upperCaseAddress (.obj []) none])) := by
  intro hCleared
  refine hCleared upperCaseAddress (by decide) ?_
  rw [held_processed_iff rfl (by decide) (fun _ => by decide) (by decide)
    (chainIdsAgree_after _)]
  refine ⟨.inl ⟨none, _, List.mem_singleton.mpr rfl, rfl, by decide⟩, by decide⟩

end BalanceKit.AddressInvalidation
