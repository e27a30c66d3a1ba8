import BalanceKit.Balances.TokenPipeline
import BalanceKit.Library.Number

/-! Computations that call others. A call gives an answer or fails, and the rules below say
what remains of a computation when more of its calls fail. -/
namespace Calls
universe u v w
variable {Call : Type u} {Answer : Call → Type v}

/-- What every call gives: nothing where it fails. -/
abbrev Answers (Answer : Call → Type v) : Type (max u v) := (call : Call) → Option (Answer call)

/-- The same calls with these ones failing as well. -/
def failing (faults : Call → Bool) (answers : Answers Answer) : Answers Answer :=
  fun call => if faults call then none else answers call

section Failing
variable {faults : Call → Bool} {answers : Answers Answer} {call : Call}

theorem failing_of_fault (h : faults call = true) : failing faults answers call = none := if_pos h

theorem failing_of_sound (h : faults call = false) :
    failing faults answers call = answers call := by
  unfold failing
  rw [h]
  rfl

end Failing

/-- Calls that are all needed fail together with any one of them. None of the calls has a fallback
of its own. -/
theorem mapM_failing {Item : Type u} {Result : Type v} (faulty : Item → Bool)
    (ask : Item → Option Result) (items : List Item) :
    (items.mapM fun item => if faulty item then none else ask item) =
      if items.any faulty then none else items.mapM ask := by
  induction items with
  | nil => rfl
  | cons item rest ih =>
      rw [List.mapM_cons, List.mapM_cons, ih, List.any_cons]
      cases hFaulty : faulty item with
      | true => rfl
      | false =>
          cases hRest : rest.any faulty with
          | true => cases ask item <;> rfl
          | false => rfl

end Calls

/-! The balances of a provider with all the calls that it makes for them. Each strategy has
its own way with a call that fails: it gives up, or leaves out a list, or leaves out a name. -/
namespace BalanceKit

/-- An NFT of `getNftsForOwner`; `name` and `image` are those of `raw.metadata`. -/
structure EvmAlchemyStrategy.OwnedNft where
  contractAddress : String
  contractName : Option String
  tokenId : String
  name : Option String
  image : Option String

def EvmBalanceAdapter.toNft (nft : EvmAlchemyStrategy.OwnedNft) : NftBalance where
  mint := nft.contractAddress
  tokenId := some nft.tokenId
  tokenMetadata := some
    { collectionName := some (orText nft.contractName "Unknown Collection")
      name := some (orText nft.name (orText nft.contractName "Unknown NFT"))
      image := some (orText nft.image "") }

/-- The argument of `toBalancesResponse`. -/
structure EvmBalanceAdapter.RawData where
  nativeBalance : String
  tokenBalances : List Token
  ownedNfts : List EvmAlchemyStrategy.OwnedNft

def EvmBalanceAdapter.toBalancesResponse (rawData : RawData) : BalancesResponse where
  nativeBalance := rawData.nativeBalance
  tokens := rawData.tokenBalances.map toToken
  nfts := rawData.ownedNfts.map toNft

/-- An asset of `qn_fetchNFTs`. -/
structure EvmQuickNodeStrategy.RawNft where
  collectionAddress : String
  tokenId : String
  name : Option String
  collectionName : Option String
  imageUrl : Option String

/-- An entry of `nfts`, in the form that the adapter reads; `image` is in its `metadata`. -/
structure EvmQuickNodeAdapter.Nft where
  contractAddress : String
  tokenId : String
  name : String
  symbol : String
  image : String

def EvmQuickNodeStrategy.toNft (nft : RawNft) : EvmQuickNodeAdapter.Nft where
  contractAddress := nft.collectionAddress
  tokenId := nft.tokenId
  name := orText nft.name ""
  symbol := orText nft.collectionName ""
  image := orText nft.imageUrl ""

def EvmQuickNodeAdapter.toNft (nft : Nft) : NftBalance where
  mint := nft.contractAddress
  tokenId := some nft.tokenId
  tokenMetadata := some
    { collectionName := some (orText (some nft.symbol) "Unknown Collection")
      name := some (orText (some nft.name) "Unknown NFT")
      image := some (orText (some nft.image) "") }

structure EvmQuickNodeAdapter.RawData where
  nativeBalance : String
  tokens : List Token
  nfts : List Nft

def EvmQuickNodeAdapter.toBalancesResponse (rawData : RawData) : BalancesResponse where
  nativeBalance := rawData.nativeBalance
  tokens := rawData.tokens.map toToken
  nfts := rawData.nfts.map toNft

/-- An NFT of the portfolio call: its contract, its `id.tokenId`, `image.originalUrl` and
`collection.name`. -/
structure SolanaAlchemyStrategy.OwnedNft where
  contractAddress : String
  tokenId : String
  name : Option String
  image : Option String
  collectionName : Option String

structure SolanaBalanceAdapter.Nft where
  mint : String
  name : Option String
  image : Option String
  collectionName : Option String

/-- The token id is not handed on. -/
def SolanaAlchemyStrategy.toNft (nft : OwnedNft) : SolanaBalanceAdapter.Nft :=
  ⟨nft.contractAddress, nft.name, nft.image, nft.collectionName⟩

/-- The mint is the token id as well. -/
def SolanaBalanceAdapter.toNft (nft : Nft) : NftBalance where
  mint := nft.mint
  tokenId := some nft.mint
  tokenMetadata := some
    { collectionName := some (orText nft.collectionName "Unknown Collection")
      name := some (orText nft.name "Unknown NFT")
      image := some (orText nft.image "") }

structure SolanaBalanceAdapter.RawData where
  solBalance : String
  tokenAccounts : List Token
  nfts : List Nft

def SolanaBalanceAdapter.toBalancesResponse (rawData : RawData) : BalancesResponse where
  nativeBalance := rawData.solBalance
  tokens := rawData.tokenAccounts.map toToken
  nfts := rawData.nfts.map toNft

namespace ProviderAnswers
open Calls

namespace EvmAlchemyStrategy

/-- The metadata is asked for at the position of each token. -/
inductive Call where
  | getBalance
  | getTokenBalances
  | getTokenMetadata (position : Nat) (contractAddress : String)
  | getNftsForOwner

structure ListedToken where
  contractAddress : String
  tokenBalance : Option String

abbrev Answer : Call → Type
  | .getBalance => Nat
  | .getTokenBalances => List ListedToken
  | .getTokenMetadata .. => Option TokenMetadata
  | .getNftsForOwner => List EvmAlchemyStrategy.OwnedNft

variable (answers : Answers Answer)

/-- The call for the metadata of a token. -/
def metadataCall (token : ListedToken × Nat) : Call :=
  .getTokenMetadata token.2 token.1.contractAddress

def tokenMetadataResults (tokenBalances : List ListedToken) :
    Option (List (Option TokenMetadata)) :=
  tokenBalances.zipIdx.mapM fun token => answers (metadataCall token)

def getRawBalances : Option EvmBalanceAdapter.RawData := do
  let nativeBalance : Nat ← answers .getBalance
  let tokenBalances : List ListedToken ← answers .getTokenBalances
  let metadataResults ← tokenMetadataResults answers tokenBalances
  let ownedNfts : List EvmAlchemyStrategy.OwnedNft ← answers .getNftsForOwner
  return {
    nativeBalance := toString nativeBalance
    tokenBalances := (tokenBalances.zip metadataResults).map fun (token, metadata) =>
      EvmAlchemyStrategy.toTokenBalance ⟨token.contractAddress, token.tokenBalance, metadata⟩
    ownedNfts := ownedNfts }

def getBalances : Option BalancesResponse :=
  (getRawBalances answers).map EvmBalanceAdapter.toBalancesResponse

/-- The calls that are made, if none of them fails. -/
def calls : List Call :=
  [.getBalance, .getTokenBalances, .getNftsForOwner] ++
    ((answers .getTokenBalances).getD [] : List ListedToken).zipIdx.map metadataCall

variable {answers} {faults : Call → Bool}

/-- The metadata of the listed tokens is there for all of them or for none. The calls are awaited
together, so one that fails takes the others with it. -/
theorem tokenMetadataResults_failing (tokens : List ListedToken) :
    tokenMetadataResults (failing faults answers) tokens =
      if (tokens.zipIdx.map metadataCall).any faults then none
      else tokenMetadataResults answers tokens := by
  rw [List.any_map]
  exact mapM_failing (faults ∘ metadataCall) (fun token => answers (metadataCall token)) _

/-- The calls that the Alchemy strategy makes: three at once, and one for the metadata of each
listed token. -/
theorem mem_calls {call : Call} :
    call ∈ calls answers ↔ call = .getBalance ∨ call = .getTokenBalances ∨
      call = .getNftsForOwner ∨ ∃ tokens : List ListedToken,
        answers .getTokenBalances = some tokens ∧ call ∈ tokens.zipIdx.map metadataCall := by
  cases hListed : answers .getTokenBalances with
  | none => simp [calls, hListed]
  | some tokens => simp [calls, hListed]

theorem getRawBalances_of_fault {call : Call} (hCall : call ∈ calls answers)
    (hFault : faults call = true) : getRawBalances (failing faults answers) = none := by
  unfold getRawBalances
  rcases mem_calls.mp hCall with rfl | rfl | rfl | ⟨tokens, hListed, hMetadata⟩
  · rw [failing_of_fault hFault]
    rfl
  · rw [failing_of_fault hFault]
    cases failing faults answers .getBalance <;> rfl
  · rw [failing_of_fault hFault]
    cases failing faults answers .getBalance with
    | none => rfl
    | some nativeBalance =>
        cases failing faults answers .getTokenBalances with
        | none => rfl
        | some tokens =>
            show (tokenMetadataResults (failing faults answers) tokens).bind _ = none
            cases tokenMetadataResults (failing faults answers) tokens <;> rfl
  · have hAny : (tokens.zipIdx.map metadataCall).any faults = true :=
      List.any_eq_true.mpr ⟨call, hMetadata, hFault⟩
    have hResults := @tokenMetadataResults_failing answers faults tokens
    rw [if_pos hAny] at hResults
    cases failing faults answers .getBalance with
    | none => rfl
    | some nativeBalance =>
        cases hTokens : faults .getTokenBalances with
        | true =>
            rw [failing_of_fault hTokens]
            rfl
        | false =>
            rw [failing_of_sound hTokens, hListed]
            show (tokenMetadataResults (failing faults answers) tokens).bind _ = none
            rw [hResults]
            rfl

theorem getRawBalances_of_sound (h : ∀ call ∈ calls answers, faults call = false) :
    getRawBalances (failing faults answers) = getRawBalances answers := by
  unfold getRawBalances
  rw [failing_of_sound (h _ (mem_calls.mpr (.inl rfl))),
    failing_of_sound (h _ (mem_calls.mpr (.inr (.inl rfl)))),
    failing_of_sound (h _ (mem_calls.mpr (.inr (.inr (.inl rfl)))))]
  cases answers .getBalance with
  | none => rfl
  | some nativeBalance =>
      cases hListed : answers .getTokenBalances with
      | none => rfl
      | some tokens =>
          have hNone : ¬ (tokens.zipIdx.map metadataCall).any faults = true := by
            intro hAny
            obtain ⟨call, hMetadata, hFault⟩ := List.any_eq_true.mp hAny
            have hSound := h call (mem_calls.mpr (.inr (.inr (.inr ⟨tokens, hListed, hMetadata⟩))))
            rw [hSound] at hFault
            cases hFault
          have hResults := @tokenMetadataResults_failing answers faults tokens
          rw [if_neg hNone] at hResults
          show (tokenMetadataResults (failing faults answers) tokens).bind _ =
            (tokenMetadataResults answers tokens).bind _
          rw [hResults]

/-- Every call is needed. -/
theorem getBalances_failing :
    getBalances (failing faults answers) =
      if (calls answers).any faults then none else getBalances answers := by
  unfold getBalances
  cases hAny : (calls answers).any faults with
  | true =>
      obtain ⟨call, hCall, hFault⟩ := List.any_eq_true.mp hAny
      rw [getRawBalances_of_fault hCall hFault]
      rfl
  | false =>
      rw [getRawBalances_of_sound fun call hCall => by
        simpa using List.any_eq_false.mp hAny call hCall]
      rfl

end EvmAlchemyStrategy

namespace EvmQuickNodeStrategy

inductive Call where
  | getBalance
  | qnFetchTokenBalances
  | qnFetchNFTs
  deriving DecidableEq

/-- A list call may be answered with something that has no such list. -/
abbrev Answer : Call → Type
  | .getBalance => Nat
  | .qnFetchTokenBalances => Option (List EvmQuickNodeStrategy.RawToken)
  | .qnFetchNFTs => Option (List EvmQuickNodeStrategy.RawNft)

-- which functions the client has, and what its calls give
variable (offers : Call → Bool) (answers : Answers Answer)

/-- What the call for the tokens leaves in `tokens`, with none for an error. -/
def fetchTokens : Option (List EvmQuickNodeAdapter.Token) :=
  if offers .qnFetchTokenBalances then do
    let tokens : Option (List EvmQuickNodeStrategy.RawToken) ← answers .qnFetchTokenBalances
    return (tokens.getD []).map EvmQuickNodeStrategy.toToken
  else some []

def fetchNfts : Option (List EvmQuickNodeAdapter.Nft) :=
  if offers .qnFetchNFTs then do
    let assets : Option (List EvmQuickNodeStrategy.RawNft) ← answers .qnFetchNFTs
    return (assets.getD []).map EvmQuickNodeStrategy.toNft
  else some []

/-- Both list calls are in one `try` block, so an error in the first skips the second. -/
def getRawBalances : Option EvmQuickNodeAdapter.RawData := do
  let nativeBalance : Nat ← answers .getBalance
  match fetchTokens offers answers with
  | none => return ⟨toString nativeBalance, [], []⟩
  | some tokens =>
      return ⟨toString nativeBalance, tokens, (fetchNfts offers answers).getD []⟩

def getBalances : Option BalancesResponse :=
  (getRawBalances offers answers).map EvmQuickNodeAdapter.toBalancesResponse

/-- The response without the lists that were not fetched. -/
def without (faults : Call → Bool) (response : BalancesResponse) : BalancesResponse :=
  let noTokens := offers .qnFetchTokenBalances && faults .qnFetchTokenBalances
  let noNfts := offers .qnFetchNFTs && faults .qnFetchNFTs
  { response with
    tokens := if noTokens then [] else response.tokens
    nfts := if noTokens || noNfts then [] else response.nfts }

variable {offers answers} {faults : Call → Bool}

theorem fetchTokens_failing :
    fetchTokens offers (failing faults answers) =
      if offers .qnFetchTokenBalances && faults .qnFetchTokenBalances then none
      else fetchTokens offers answers := by
  unfold fetchTokens
  cases hOffers : offers .qnFetchTokenBalances with
  | false => rfl
  | true =>
      cases hFault : faults .qnFetchTokenBalances with
      | true => rw [failing_of_fault hFault]; rfl
      | false => rw [failing_of_sound hFault]; rfl

theorem fetchNfts_failing :
    fetchNfts offers (failing faults answers) =
      if offers .qnFetchNFTs && faults .qnFetchNFTs then none else fetchNfts offers answers := by
  unfold fetchNfts
  cases hOffers : offers .qnFetchNFTs with
  | false => rfl
  | true =>
      cases hFault : faults .qnFetchNFTs with
      | true => rw [failing_of_fault hFault]; rfl
      | false => rw [failing_of_sound hFault]; rfl

/-- Only the native balance is needed. -/
theorem getBalances_failing :
    getBalances offers (failing faults answers) =
      if faults .getBalance then none
      else (getBalances offers answers).map (without offers faults) := by
  unfold getBalances getRawBalances
  cases hBalance : faults .getBalance with
  | true => rw [failing_of_fault hBalance]; rfl
  | false =>
      rw [failing_of_sound hBalance, fetchTokens_failing, fetchNfts_failing]
      cases hNative : answers .getBalance with
      | none => rfl
      | some nativeBalance =>
          cases hNoTokens : offers .qnFetchTokenBalances && faults .qnFetchTokenBalances with
          | true =>
              cases fetchTokens offers answers <;> simp [without, hNoTokens,
                EvmQuickNodeAdapter.toBalancesResponse]
          | false =>
              cases fetchTokens offers answers with
              | none => simp [without, EvmQuickNodeAdapter.toBalancesResponse]
              | some tokens =>
                  cases hNoNfts : offers .qnFetchNFTs && faults .qnFetchNFTs <;>
                    simp [without, hNoTokens, hNoNfts, EvmQuickNodeAdapter.toBalancesResponse]

end EvmQuickNodeStrategy

namespace SolanaAlchemyStrategy

/-- The two calls for the name of a token are made at the position of its account. -/
inductive Call where
  | getBalance
  | getTokenAccountsByOwner
  | getProgramAccounts (position : Nat) (mint : String)
  | metadataFile (position : Nat) (metadataUri : String)
  | getNFTs

/-- `account.data.parsed.info` of a token account. -/
structure ParsedInfo where
  mint : Option String
  amount : Option String
  decimals : Option Nat

structure Metadata where
  symbol : Option String
  name : Option String

/-- A metadata account is answered with the `uri` in it, if there is one. -/
abbrev Answer : Call → Type
  | .getBalance => Rat
  | .getTokenAccountsByOwner => List ParsedInfo
  | .getProgramAccounts .. => Option String
  | .metadataFile .. => Metadata
  | .getNFTs => List SolanaAlchemyStrategy.OwnedNft

variable (answers : Answers Answer)

/-- An error in the call is caught. -/
def getMintMetadataUri (position : Nat) (mint : String) : Option String :=
  match (answers (.getProgramAccounts position mint) : Option (Option String)) with
  | none => none
  | some uri => Text.present uri

/-- The symbol and the name of a token; an error leaves both out. -/
def metadataOf (position : Nat) (mint : String) : Metadata :=
  match getMintMetadataUri answers position mint with
  | none => ⟨none, none⟩
  | some metadataUri =>
      (answers (.metadataFile position metadataUri) : Option Metadata).getD ⟨none, none⟩

def accountOf (account : ParsedInfo × Nat) : SolanaBalanceAdapter.Token :=
  let metadata := metadataOf answers account.2 (orText account.1.mint "")
  SolanaAlchemyStrategy.toTokenAccount
    ⟨account.1.mint, account.1.amount, account.1.decimals, metadata.symbol, metadata.name⟩

def getRawBalances : Option SolanaBalanceAdapter.RawData := do
  let solBalance : Rat ← answers .getBalance
  let accounts : List ParsedInfo ← answers .getTokenAccountsByOwner
  let ownedNfts : List SolanaAlchemyStrategy.OwnedNft ← answers .getNFTs
  return {
    solBalance := Number.toText (.finite solBalance)
    tokenAccounts := accounts.zipIdx.map (accountOf answers)
    nfts := ownedNfts.map SolanaAlchemyStrategy.toNft }

def getBalances : Option BalancesResponse :=
  (getRawBalances answers).map SolanaBalanceAdapter.toBalancesResponse

/-- The calls without which there is no response. -/
def needed : List Call := [.getBalance, .getTokenAccountsByOwner, .getNFTs]

/-- The name of the token is not found because of the faults. -/
def nameLost (faults : Call → Bool) (position : Nat) (mint : String) : Bool :=
  faults (.getProgramAccounts position mint) ||
    match getMintMetadataUri answers position mint with
    | none => false
    | some metadataUri => faults (.metadataFile position metadataUri)

/-- The token as the adapter leaves one that has no name. -/
def withoutName (token : TokenBalance) : TokenBalance :=
  { token with tokenMetadata := token.tokenMetadata.map fun metadata =>
      { metadata with symbol := some "UNKNOWN", name := some "Unknown Token" } }

/-- The response without the names that were not found. -/
def without (faults : Call → Bool) (response : BalancesResponse) : BalancesResponse :=
  let leave (token : TokenBalance × Nat) : TokenBalance :=
    if nameLost answers faults token.2 token.1.mint then withoutName token.1 else token.1
  { response with tokens := response.tokens.zipIdx.map leave }

variable {answers} {faults : Call → Bool}

theorem getMintMetadataUri_failing (position : Nat) (mint : String) :
    getMintMetadataUri (failing faults answers) position mint =
      if faults (.getProgramAccounts position mint) then none
      else getMintMetadataUri answers position mint := by
  unfold getMintMetadataUri
  cases hFault : faults (.getProgramAccounts position mint) with
  | true => rw [failing_of_fault hFault]; rfl
  | false => rw [failing_of_sound hFault]; rfl

/-- A failing call on the way to the name of a token leaves the token without one. The failure is
caught there, and nothing else is lost. -/
theorem metadataOf_failing (position : Nat) (mint : String) :
    metadataOf (failing faults answers) position mint =
      if nameLost answers faults position mint then ⟨none, none⟩
      else metadataOf answers position mint := by
  unfold metadataOf nameLost
  rw [getMintMetadataUri_failing]
  cases hAccount : faults (.getProgramAccounts position mint) with
  | true => rfl
  | false =>
      cases hUri : getMintMetadataUri answers position mint with
      | none => rfl
      | some metadataUri =>
          cases hFile : faults (.metadataFile position metadataUri) with
          | true => simp [failing_of_fault hFile, hFile]
          | false => simp [failing_of_sound hFile, hFile]

/-- The adapter does not tell a token whose name was lost from one that has none. Both are shown
with the defaults of the adapter. -/
theorem toToken_accountOf_failing (account : ParsedInfo × Nat) :
    SolanaBalanceAdapter.toToken (accountOf (failing faults answers) account) =
      if nameLost answers faults account.2 (orText account.1.mint "") then
        withoutName (SolanaBalanceAdapter.toToken (accountOf answers account))
      else SolanaBalanceAdapter.toToken (accountOf answers account) := by
  unfold accountOf
  rw [metadataOf_failing]
  cases nameLost answers faults account.2 (orText account.1.mint "") <;> rfl

/-- Numbering the results of a numbered list gives the numbers of the list. -/
theorem zipIdx_map_zipIdx {α β : Type} (f : α × Nat → β) (items : List α) :
    (items.zipIdx.map f).zipIdx = items.zipIdx.map fun item => (f item, item.2) := by
  apply List.ext_getElem
  · simp
  · intro position hLeft hRight
    simp

/-- A name that is not found is left out, and nothing else depends on it. -/
theorem getBalances_failing :
    getBalances (failing faults answers) =
      if needed.any faults then none else (getBalances answers).map (without answers faults) := by
  unfold getBalances getRawBalances
  cases hAny : needed.any faults with
  | true =>
      obtain ⟨call, hCall, hFault⟩ := List.any_eq_true.mp hAny
      rw [if_pos rfl]
      simp only [needed, List.mem_cons, List.not_mem_nil, or_false] at hCall
      rcases hCall with rfl | rfl | rfl
      · rw [failing_of_fault hFault]
        rfl
      · rw [failing_of_fault hFault]
        cases failing faults answers .getBalance <;> rfl
      · rw [failing_of_fault hFault]
        cases failing faults answers .getBalance with
        | none => rfl
        | some solBalance => cases failing faults answers .getTokenAccountsByOwner <;> rfl
  | false =>
      have hSound : ∀ call ∈ needed, faults call = false := fun call hCall => by
        simpa using List.any_eq_false.mp hAny call hCall
      rw [failing_of_sound (hSound .getBalance (by simp [needed])),
        failing_of_sound (hSound .getTokenAccountsByOwner (by simp [needed])),
        failing_of_sound (hSound .getNFTs (by simp [needed]))]
      cases answers .getBalance with
      | none => rfl
      | some solBalance =>
          cases answers .getTokenAccountsByOwner with
          | none => rfl
          | some accounts =>
              cases answers .getNFTs with
              | none => rfl
              | some ownedNfts =>
                  have hTokens : (accounts.zipIdx.map (accountOf (failing faults answers))).map
                        SolanaBalanceAdapter.toToken =
                      (accounts.zipIdx.map fun account =>
                        (SolanaBalanceAdapter.toToken (accountOf answers account), account.2)).map
                          fun token => if nameLost answers faults token.2 token.1.mint then
                            withoutName token.1 else token.1 := by
                    rw [List.map_map, List.map_map]
                    exact List.map_congr_left fun account _ => toToken_accountOf_failing account
                  simp [SolanaBalanceAdapter.toBalancesResponse, without, hTokens, zipIdx_map_zipIdx]

end SolanaAlchemyStrategy

/-- What a failing call takes away: from Alchemy everything; from QuickNode everything if it is
the native balance, both lists if it is the token list, and otherwise the NFTs; from Solana
everything if it is one of three calls, and otherwise the name of one token. -/
theorem response_of_failing :
    (∀ answers faults,
      EvmAlchemyStrategy.getBalances (failing faults answers) =
        if (EvmAlchemyStrategy.calls answers).any faults then none
        else EvmAlchemyStrategy.getBalances answers) ∧
    (∀ offers answers faults,
      EvmQuickNodeStrategy.getBalances offers (failing faults answers) =
        if faults .getBalance then none
        else (EvmQuickNodeStrategy.getBalances offers answers).map
          (EvmQuickNodeStrategy.without offers faults)) ∧
    ∀ answers faults,
      SolanaAlchemyStrategy.getBalances (failing faults answers) =
        if SolanaAlchemyStrategy.needed.any faults then none
        else (SolanaAlchemyStrategy.getBalances answers).map
          (SolanaAlchemyStrategy.without answers faults) := by
  refine ⟨?_, ?_, ?_⟩
  · intro answers faults
    exact EvmAlchemyStrategy.getBalances_failing
  · intro offers answers faults
    exact EvmQuickNodeStrategy.getBalances_failing
  · intro answers faults
    exact SolanaAlchemyStrategy.getBalances_failing

end ProviderAnswers

end BalanceKit
