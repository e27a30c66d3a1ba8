import BalanceKit.Webhook.SigningKey

/-! Clearing a part of the signing-key cache. An entry belongs to an address and a chain,
joined to one text, and a part of the cache is found again by tests on that text. -/
namespace BalanceKit.KeyCacheClearing
open Authentication

/-- A call of `getSigningKeyByUrl`, with the clock at its lookup, what the list request
answers, and the clock after it. -/
structure Call where
  webhookUrl : String
  chain : ChainName
  forceRefresh : Bool
  now : Nat
  webhooks : Option (List AlchemyWebhookResponse)
  receivedAt : Nat

/-- The key that the call fetches, if it is not answered from the cache. -/
def Call.fetched (call : Call) (cached : Option String) : Option SigningKeyCache :=
  match (if call.forceRefresh then none else cached) with
  | some _ => none
  | none =>
      match call.webhooks.bind (findWebhook call.webhookUrl (.named call.chain)) with
      | none => none
      | some webhook =>
          (Text.present (some webhook.signingKey)).map fun signingKey =>
            ⟨signingKey, call.receivedAt + cacheTTL⟩

/-- The cache after a call. -/
def getSigningKeyByUrl (cache : List (String × SigningKeyCache)) (call : Call) :
    List (String × SigningKeyCache) :=
  let key := cacheKey call.webhookUrl (.named call.chain)
  match call.fetched (cachedSigningKey cache key call.now) with
  | none => cache
  | some entry => setSigningKey cache key entry

/-- The content that a sequence of calls builds. -/
def content (calls : List Call) : List (String × SigningKeyCache) :=
  calls.foldl getSigningKeyByUrl []

/-- The entries under what they belong to. -/
abbrev Entries := List ((String × ChainName) × SigningKeyCache)

namespace Entries

def encode (entries : Entries) : List (String × SigningKeyCache) :=
  entries.map fun e => (cacheKey e.1.1 (.named e.1.2), e.2)

/-- A call, on a cache that keeps addresses and chains apart. -/
def record (entries : Entries) (call : Call) : Entries :=
  let cached := (entries.lookup (call.webhookUrl, call.chain)).bind fun entry =>
    if entry.expiresAt > call.now then some entry.key else none
  match call.fetched cached with
  | none => entries
  | some entry => ((call.webhookUrl, call.chain), entry) ::
      entries.filter fun e => e.1 != (call.webhookUrl, call.chain)

end Entries

def entries (calls : List Call) : Entries := calls.foldl Entries.record []

/-- The part of the cache that is to be cleared. -/
inductive Scope where
  | entry (webhookUrl : String) (c : ChainName)
  | ofUrl (webhookUrl : String)
  | ofChain (c : ChainName)

namespace Scope

def clear (cache : List (String × SigningKeyCache)) : Scope → List (String × SigningKeyCache)
  | entry webhookUrl c => clearSigningKeyCache (some webhookUrl) (some (.named c)) cache
  | ofUrl webhookUrl => clearSigningKeyCache (some webhookUrl) none cache
  | ofChain c => clearSigningKeyCache none (some (.named c)) cache

def covers : Scope → String × ChainName → Bool
  | entry webhookUrl c, pair => pair == (webhookUrl, c)
  | ofUrl webhookUrl, pair => pair.1 == webhookUrl
  | ofChain c, pair => pair.2 == c

/-- The name of the chain begins the name of the pair's chain, or is in its address after
a colon. -/
def NamesChain (c : ChainName) (pair : String × ChainName) : Prop :=
  ':' :: c.value.toList <:+: pair.1.toList ∨ c.value.toList <+: pair.2.value.toList

/-- The pair is outside the scope, and its key is taken for one inside. An empty address
counts as none. -/
def Mistakes : Scope → String × ChainName → Prop
  | entry webhookUrl c, pair => pair ≠ (webhookUrl, c) ∧ webhookUrl = "" ∧ NamesChain c pair
  | ofUrl webhookUrl, pair => pair.1 ≠ webhookUrl ∧
      (webhookUrl = "" ∨ webhookUrl.toList ++ [':'] <+: pair.1.toList ∨
        webhookUrl = cacheKey pair.1 (.named pair.2))
  | ofChain c, pair => pair.2 ≠ c ∧ NamesChain c pair

end Scope

/-- The entries in the scope are removed, and the others stay as they are. -/
def Exact (scope : Scope) (calls : List Call) : Prop :=
  scope.clear (content calls) = Entries.encode ((entries calls).filter fun e => !scope.covers e.1)

section Keys
variable {pair other : String × ChainName}

/-- The key of a pair. -/
def keyOf (pair : String × ChainName) : String := cacheKey pair.1 (.named pair.2)

/-- A key of the cache is the address of the webhook and the chain, with a colon between them. -/
theorem toList_keyOf (pair : String × ChainName) :
    (keyOf pair).toList = pair.1.toList ++ ':' :: pair.2.value.toList := by
  simp [keyOf, cacheKey, ChainKey.text]

/-- The chain is what follows the last colon. The address may have colons of its own, and the chain
has none. -/
theorem keyOf_injective : Function.Injective keyOf := by
  intro pair other hKeys
  have hReversed := congrArg (fun text : String => text.toList.reverse) hKeys
  simp only [toList_keyOf, List.reverse_append, List.reverse_cons, List.append_assoc,
    List.singleton_append] at hReversed
  obtain ⟨hChain, hUrl⟩ := Text.append_delimiter_inj
    (fun h => ChainName.colon_not_mem_value pair.2 (List.mem_reverse.mp h))
    (fun h => ChainName.colon_not_mem_value other.2 (List.mem_reverse.mp h)) hReversed
  apply Prod.ext
  · exact String.toList_inj.mp (List.reverse_injective hUrl)
  · exact ChainName.value_injective (String.toList_inj.mp (List.reverse_injective hChain))

/-- The key holds the name of the chain behind a colon. It may go on behind that name, and the
address may hold it too. -/
theorem includes_keyOf_iff (c : ChainName) (pair : String × ChainName) :
    Text.includes (keyOf pair) (":" ++ c.value) = true ↔ Scope.NamesChain c pair := by
  rw [Text.includes, decide_eq_true_iff, String.toList_append, toList_keyOf]
  exact Text.delimiter_infix_iff (ChainName.colon_not_mem_value c)
    (ChainName.colon_not_mem_value pair.2)

/-- The key begins with the address of the webhook and a colon, as the key of a longer address
with a port or a path may do as well. -/
theorem isPrefixOf_keyOf_iff (webhookUrl : String) (pair : String × ChainName) :
    (webhookUrl ++ ":").toList.isPrefixOf (keyOf pair).toList = true ↔
      pair.1 = webhookUrl ∨ webhookUrl.toList ++ [':'] <+: pair.1.toList := by
  rw [List.isPrefixOf_iff_prefix, String.toList_append, toList_keyOf]
  have hIff := @Text.append_delimiter_prefix_iff _ ':' webhookUrl.toList pair.1.toList _
    (ChainName.colon_not_mem_value pair.2)
  rw [String.toList_inj, eq_comm] at hIff
  exact hIff

end Keys

section Encoding

theorem lookup_encode (entries : Entries) (pair : String × ChainName) :
    entries.encode.lookup (keyOf pair) = entries.lookup pair := by
  induction entries with
  | nil => rfl
  | cons e rest ih =>
      obtain ⟨other, entry⟩ := e
      show List.lookup (keyOf pair) ((keyOf other, entry) :: Entries.encode rest) = _
      rw [List.lookup_cons, List.lookup_cons, ih]
      by_cases hSame : pair = other
      · rw [hSame, beq_self_eq_true, beq_self_eq_true]
      · have hKeys : keyOf pair ≠ keyOf other := fun h => hSame (keyOf_injective h)
        rw [beq_eq_false_iff_ne.mpr hSame, beq_eq_false_iff_ne.mpr hKeys]

/-- A test of the keys is a test of the pairs. -/
theorem filter_encode (test : String → Bool) (entries : Entries) :
    (entries.encode.filter fun cached => test cached.1) =
      Entries.encode (entries.filter fun e => test (keyOf e.1)) := by
  rw [Entries.encode, List.filter_map]
  rfl

theorem encode_injective : Function.Injective Entries.encode := by
  apply List.map_injective_iff.mpr
  intro e f hEntries
  obtain ⟨hKey, hEntry⟩ := Prod.mk.inj hEntries
  exact Prod.ext (keyOf_injective hKey) hEntry

theorem getSigningKeyByUrl_encode (entries : Entries) (call : Call) :
    getSigningKeyByUrl entries.encode call = (entries.record call).encode := by
  have hCached : cachedSigningKey entries.encode
      (cacheKey call.webhookUrl (.named call.chain)) call.now =
      (entries.lookup (call.webhookUrl, call.chain)).bind fun entry =>
        if entry.expiresAt > call.now then some entry.key else none := by
    rw [← lookup_encode]
    rfl
  simp only [getSigningKeyByUrl, Entries.record, hCached]
  cases call.fetched _ with
  | none => rfl
  | some entry =>
      have hOthers : (entries.encode.filter fun cached =>
            cached.1 != keyOf (call.webhookUrl, call.chain)) =
          Entries.encode (entries.filter fun e => e.1 != (call.webhookUrl, call.chain)) := by
        rw [filter_encode fun key => key != keyOf (call.webhookUrl, call.chain)]
        congr 1
        apply List.filter_congr
        intro e _
        rw [Bool.eq_iff_iff, bne_iff_ne, bne_iff_ne, keyOf_injective.ne_iff]
      exact congrArg (List.cons (keyOf (call.webhookUrl, call.chain), entry)) hOthers

/-- The cache keeps addresses and chains apart, as long as nothing is cleared. An entry is replaced
only by one for the same address and chain. -/
theorem content_eq (calls : List Call) : content calls = (entries calls).encode := by
  have hRun : ∀ entries : Entries, calls.foldl getSigningKeyByUrl entries.encode =
      (calls.foldl Entries.record entries).encode := by
    induction calls with
    | nil => exact fun _ => rfl
    | cons call rest ih =>
        intro entries
        rw [List.foldl_cons, List.foldl_cons, getSigningKeyByUrl_encode, ih]
  exact hRun []

end Encoding

section Clearing
variable {scope : Scope} {pair : String × ChainName}

/-- The test by which an entry is removed. -/
def Scope.removes : Scope → String → Bool
  | entry webhookUrl c, key =>
      if webhookUrl = "" then Text.includes key (":" ++ c.value) else key == keyOf (webhookUrl, c)
  | ofUrl webhookUrl, key =>
      decide (webhookUrl = "") || (key == webhookUrl || (webhookUrl ++ ":").toList.isPrefixOf key.toList)
  | ofChain c, key => Text.includes key (":" ++ c.value)

theorem clear_eq_filter (scope : Scope) (cache : List (String × SigningKeyCache)) :
    scope.clear cache = cache.filter fun cached => !scope.removes cached.1 := by
  cases scope with
  | entry webhookUrl c =>
      by_cases hEmpty : webhookUrl = ""
      · simp [Scope.clear, clearSigningKeyCache, Scope.removes, Text.present, hEmpty, ChainKey.text]
      · simp only [Scope.clear, clearSigningKeyCache, Scope.removes, Text.present_some hEmpty,
          if_neg hEmpty]
        rfl
  | ofUrl webhookUrl =>
      by_cases hEmpty : webhookUrl = ""
      · simp [Scope.clear, clearSigningKeyCache, Scope.removes, Text.present, hEmpty]
      · simp [Scope.clear, clearSigningKeyCache, Scope.removes, Text.present_some hEmpty, hEmpty]
  | ofChain c => rfl

/-- An entry is removed if it is in the scope or taken for one that is. -/
theorem removes_keyOf_iff (scope : Scope) (pair : String × ChainName) :
    scope.removes (keyOf pair) = true ↔ scope.covers pair = true ∨ scope.Mistakes pair := by
  have hOwn : Scope.NamesChain pair.2 pair := .inr List.prefix_rfl
  cases scope with
  | entry webhookUrl c =>
      by_cases hEmpty : webhookUrl = ""
      · subst hEmpty
        rw [Scope.removes, if_pos rfl, includes_keyOf_iff, Scope.covers, beq_iff_eq, Scope.Mistakes]
        constructor
        · intro hNames
          by_cases hPair : pair = ("", c)
          · exact .inl hPair
          · exact .inr ⟨hPair, rfl, hNames⟩
        · rintro (rfl | ⟨-, -, hNames⟩)
          · exact hOwn
          · exact hNames
      · rw [Scope.removes, if_neg hEmpty, beq_iff_eq, keyOf_injective.eq_iff]
        simp [Scope.covers, Scope.Mistakes, hEmpty]
  | ofUrl webhookUrl =>
      simp only [Scope.removes, Bool.or_eq_true, decide_eq_true_iff, isPrefixOf_keyOf_iff,
        beq_iff_eq, Scope.covers,
        Scope.Mistakes]
      rw [@eq_comm _ (keyOf pair)]
      by_cases hUrl : pair.1 = webhookUrl
      · simp [hUrl]
      · simp only [hUrl, false_or, ne_eq, not_false_eq_true, true_and]
        exact or_congr_right or_comm
  | ofChain c =>
      rw [Scope.removes, includes_keyOf_iff, Scope.covers, beq_iff_eq, Scope.Mistakes]
      constructor
      · intro hNames
        by_cases hChain : pair.2 = c
        · exact .inl hChain
        · exact .inr ⟨hChain, hNames⟩
      · rintro (rfl | ⟨-, hNames⟩)
        · exact hOwn
        · exact hNames

theorem not_mistakes_of_covers (h : scope.covers pair = true) : ¬ scope.Mistakes pair := by
  cases scope with
  | entry webhookUrl c => exact fun hMistake => hMistake.1 (beq_iff_eq.mp h)
  | ofUrl webhookUrl => exact fun hMistake => hMistake.1 (beq_iff_eq.mp h)
  | ofChain c => exact fun hMistake => hMistake.1 (beq_iff_eq.mp h)

/-- Clearing is exact just where no cached entry outside the scope is taken for one inside. -/
theorem exact_clear_iff (scope : Scope) (calls : List Call) :
    Exact scope calls ↔ ∀ e ∈ entries calls, ¬ scope.Mistakes e.1 := by
  rw [Exact, content_eq, clear_eq_filter, filter_encode fun key => !scope.removes key,
    encode_injective.eq_iff]
  constructor
  · intro hSame e hMember hMistake
    have hKept : e ∈ (entries calls).filter fun e => !scope.covers e.1 := by
      refine List.mem_filter.mpr ⟨hMember, ?_⟩
      simpa using fun hCovers => not_mistakes_of_covers hCovers hMistake
    rw [← hSame] at hKept
    have hRemoved := (removes_keyOf_iff scope e.1).mpr (.inr hMistake)
    simpa [hRemoved] using (List.mem_filter.mp hKept).2
  · intro hNone
    apply List.filter_congr
    intro e hMember
    congr 1
    rw [Bool.eq_iff_iff, removes_keyOf_iff]
    exact or_iff_left (hNone e hMember)

end Clearing

def kitWebhook (network : String) : AlchemyWebhookResponse :=
  ⟨"wh_1", network, "ADDRESS_ACTIVITY", "https://kit.example/webhook", true, "whsec_kit"⟩

def twoChains : List Call :=
  [⟨"https://kit.example/webhook", .ethereum, false, 0, some [kitWebhook "ETH_MAINNET"], 0⟩,
    ⟨"https://kit.example/webhook", .ethereumSepolia, false, 0, some [kitWebhook "ETH_SEPOLIA"], 0⟩]

/-- Clearing the keys of Ethereum removes the key of Sepolia. The name of the one begins with the
name of the other. -/
theorem not_exact_twoChains : ¬ Exact (.ofChain .ethereum) twoChains := by
  intro hExact
  have hSizes := congrArg List.length hExact
  exact absurd hSizes (by decide +kernel)

end BalanceKit.KeyCacheClearing
