import BalanceKit.Balances.Portfolio
import Mathlib.Data.List.Forall2
import Mathlib.Data.Rat.Floor

/-! The token list from the answers of a provider to the response of a chain service. The
strategy, the adapter and the service map every token again, each with its own defaults. -/
namespace BalanceKit

/-- `text || fallback`. -/
def orText (text : Option String) (fallback : String) : String :=
  (Text.present text).getD fallback

/-- `decimals || fallback`. -/
def orDecimals (decimals : Option Nat) (fallback : Nat) : Nat :=
  (Text.nonzero decimals).getD fallback

/-- An entry of `tokenBalances`, in the form that the adapter reads. -/
structure EvmBalanceAdapter.Token where
  contractAddress : String
  tokenBalance : String
  tokenMetadata : Option TokenMetadata

def EvmBalanceAdapter.toToken (token : Token) : TokenBalance where
  mint := token.contractAddress
  tokenMetadata := some
    ⟨some (orText (token.tokenMetadata.bind TokenMetadata.symbol) "UNKNOWN"),
      some (orDecimals (token.tokenMetadata.bind TokenMetadata.decimals) 18),
      some (orText (token.tokenMetadata.bind TokenMetadata.name) "Unknown Token")⟩
  balance := orText (some token.tokenBalance) "0"

/-- An entry of `getTokenBalances`, with the answer of `getTokenMetadata` for it. -/
structure EvmAlchemyStrategy.RawToken where
  contractAddress : String
  tokenBalance : Option String
  metadata : Option TokenMetadata

def EvmAlchemyStrategy.toTokenBalance (token : RawToken) : EvmBalanceAdapter.Token where
  contractAddress := token.contractAddress
  tokenBalance := orText token.tokenBalance "0"
  tokenMetadata := some
    ⟨some (orText (token.metadata.bind TokenMetadata.symbol) "UNKNOWN"),
      some (orDecimals (token.metadata.bind TokenMetadata.decimals) 18),
      some (orText (token.metadata.bind TokenMetadata.name) "Unknown Token")⟩

/-- An entry of `tokens`, in the form that the adapter reads. -/
structure EvmQuickNodeAdapter.Token where
  contractAddress : String
  symbol : String
  name : String
  balance : String
  decimals : Nat

def EvmQuickNodeAdapter.toToken (token : Token) : TokenBalance where
  mint := token.contractAddress
  tokenMetadata := some ⟨some (orText (some token.symbol) "UNKNOWN"),
    some (orDecimals (some token.decimals) 18), some (orText (some token.name) "Unknown Token")⟩
  balance := orText (some token.balance) "0"

/-- A token of `qn_fetchTokenBalances`. -/
structure EvmQuickNodeStrategy.RawToken where
  address : String
  symbol : Option String
  name : Option String
  amount : Option String
  decimals : Option Nat

def EvmQuickNodeStrategy.toToken (token : RawToken) : EvmQuickNodeAdapter.Token where
  contractAddress := token.address
  symbol := orText token.symbol ""
  name := orText token.name (orText token.symbol "")
  balance := orText token.amount "0"
  decimals := orDecimals token.decimals 18

/-- An entry of `tokenAccounts`, in the form that the adapter reads. -/
structure SolanaBalanceAdapter.Token where
  mint : String
  amount : String
  decimals : Nat
  symbol : String
  name : String

def SolanaBalanceAdapter.toToken (token : Token) : TokenBalance where
  mint := token.mint
  tokenMetadata := some ⟨some (orText (some token.symbol) "UNKNOWN"),
    some (orDecimals (some token.decimals) 9), some (orText (some token.name) "Unknown Token")⟩
  balance := orText (some token.amount) "0"

/-- The parsed data of a token account, with the names in the metadata file of its mint, if
the file is found. -/
structure SolanaAlchemyStrategy.RawAccount where
  mint : Option String
  amount : Option String
  decimals : Option Nat
  symbol : Option String
  name : Option String

def SolanaAlchemyStrategy.toTokenAccount (account : RawAccount) : SolanaBalanceAdapter.Token where
  mint := orText account.mint ""
  amount := orText account.amount "0"
  decimals := orDecimals account.decimals 0
  symbol := orText account.symbol ""
  name := orText account.name ""

namespace TokenPipeline

/-- The token list of a provider's answers. -/
inductive RawTokens where
  | alchemy (tokens : List EvmAlchemyStrategy.RawToken)
  | quickNode (tokens : List EvmQuickNodeStrategy.RawToken)
  | solana (accounts : List SolanaAlchemyStrategy.RawAccount)

/-- What a source says about a token. -/
structure Reported where
  mint : String
  amount : Option String
  decimals : Option Nat

/-- What the response of the chain service says about it. -/
structure Served where
  mint : Js
  balance : Js
  decimals : Js

/-- The rest of a response. -/
structure Surroundings where
  chainId : Nat
  symbol : String
  decimals : Option Nat
  cluster : String
  nativeBalance : String
  nfts : List NftBalance
  seconds : Nat

namespace RawTokens

def reported : RawTokens → List Reported
  | alchemy tokens => tokens.map fun token =>
      ⟨token.contractAddress, token.tokenBalance, token.metadata.bind TokenMetadata.decimals⟩
  | quickNode tokens => tokens.map fun token => ⟨token.address, token.amount, token.decimals⟩
  | solana accounts => accounts.map fun account =>
      ⟨account.mint.getD "", account.amount, account.decimals⟩

/-- The tokens after the strategy and the adapter. -/
def adapted : RawTokens → List TokenBalance
  | alchemy tokens =>
      (tokens.map EvmAlchemyStrategy.toTokenBalance).map EvmBalanceAdapter.toToken
  | quickNode tokens => (tokens.map EvmQuickNodeStrategy.toToken).map EvmQuickNodeAdapter.toToken
  | solana accounts =>
      (accounts.map SolanaAlchemyStrategy.toTokenAccount).map SolanaBalanceAdapter.toToken

def evmResponse (rest : Surroundings) (tokens : List TokenBalance) : Js :=
  AbstractEvmChainService.Response.toJs
    ⟨rest.chainId, rest.symbol, rest.decimals, ⟨rest.nativeBalance, tokens, rest.nfts⟩⟩ rest.seconds

def solanaResponse (rest : Surroundings) (tokens : List TokenBalance) : Js :=
  SolanaService.toResponse rest.cluster ⟨rest.nativeBalance, tokens, rest.nfts⟩ rest.seconds

/-- The tokens of the response, where its readers find them. -/
def served (rest : Surroundings) (raw : RawTokens) : List Served :=
  match raw with
  | alchemy _ | quickNode _ =>
      ((evmResponse rest raw.adapted).get "fungibles").items.map fun token =>
        ⟨token.get "mint", token.get "balance", token.get "decimals"⟩
  | solana _ =>
      ((solanaResponse rest raw.adapted).get "tokens").items.map fun token =>
        ⟨token.get "mint", token.get "balance", (token.get "tokenMetadata").get "decimals"⟩

/-- The decimals of a token that the source reports none for. -/
def fallback : RawTokens → Nat
  | alchemy _ | quickNode _ => 18
  | solana _ => 9

end RawTokens

/-- The response says what the source says, and has a default only where it says nothing. -/
structure Preserved (fallback : Nat) (token : Reported) (served : Served) : Prop where
  mint : served.mint = .str token.mint
  amount : ∀ amount, token.amount = some amount → served.balance = .str amount
  decimals : served.decimals = .num (token.decimals.getD fallback : Nat)

/-- Every token is preserved, in its place. -/
def Survives (rest : Surroundings) (raw : RawTokens) : Prop :=
  List.Forall₂ (Preserved raw.fallback) raw.reported (raw.served rest)

section Defaults
variable {text : Option String} {decimals : Option Nat}

/-- A second default finds a text that needs none. -/
theorem orText_orText {fallback other : String} (h : fallback ≠ "") :
    orText (some (orText text fallback)) other = orText text fallback := by
  have hText : orText text fallback ≠ "" := by
    cases hPresent : Text.present text with
    | none => simpa [orText, hPresent] using h
    | some found =>
        obtain rfl := Text.eq_some_of_present hPresent
        intro hEmpty
        have hFound : found = "" := by simpa [orText, hPresent] using hEmpty
        simp [Text.present, hFound] at hPresent
  conv_lhs => rw [orText, Text.present_some hText]
  rfl

theorem orText_empty : orText text "" = text.getD "" := by
  cases text with
  | none => rfl
  | some found =>
      by_cases hEmpty : found = ""
      · simp [orText, Text.present, hEmpty]
      · simp [orText, Text.present_some hEmpty]

theorem orDecimals_orDecimals {fallback : Nat} (h : fallback ≠ 0) (other : Nat) :
    orDecimals (some (orDecimals decimals fallback)) other = orDecimals decimals fallback := by
  match decimals, fallback with
  | none, n + 1 => rfl
  | some 0, n + 1 => rfl
  | some (d + 1), n + 1 => rfl

/-- Zero decimals stay zero only until the next stage. It takes them for absent and puts its own
default there. -/
theorem orDecimals_zero (fallback : Nat) :
    orDecimals (some (orDecimals decimals 0)) fallback = orDecimals decimals fallback := by
  match decimals with
  | none => rfl
  | some 0 => rfl
  | some (d + 1) => rfl

theorem orText_eq_iff {amount : String} : orText (some amount) "0" = amount ↔ amount ≠ "" := by
  by_cases hEmpty : amount = ""
  · simp [orText, Text.present, hEmpty]
  · simp [orText, Text.present_some hEmpty, hEmpty]

theorem orDecimals_eq_iff {fallback : Nat} (h : fallback ≠ 0) :
    orDecimals decimals fallback = decimals.getD fallback ↔ decimals ≠ some 0 := by
  match decimals with
  | none => simp [orDecimals, Text.nonzero]
  | some 0 => simpa [orDecimals, Text.nonzero] using h
  | some (d + 1) => simp [orDecimals, Text.nonzero]

end Defaults

/-- What becomes of a token on the way. -/
def pass (fallback : Nat) (token : Reported) : Served where
  mint := .str token.mint
  balance := .str (orText token.amount "0")
  decimals := .num (orDecimals token.decimals fallback : Nat)

/-- The three stages together give every token the defaults of the last one. The earlier defaults
are kept or replaced, so only the last one has to be known. -/
theorem served_eq (rest : Surroundings) (raw : RawTokens) :
    raw.served rest = raw.reported.map (pass raw.fallback) := by
  cases raw with
  | alchemy tokens =>
      show List.map _ (List.map _ (List.map _ (List.map _ tokens))) = List.map _ (List.map _ tokens)
      simp only [List.map_map]
      refine List.map_congr_left fun token _ => ?_
      have hBalance := @orText_orText token.tokenBalance "0" "0" (by decide)
      have hDecimals :=
        @orDecimals_orDecimals (token.metadata.bind TokenMetadata.decimals) 18 (by decide) 18
      show Served.mk _ (.str (orText (some (orText token.tokenBalance "0")) "0"))
        (.num (orDecimals (some (orDecimals (some (orDecimals
          (token.metadata.bind TokenMetadata.decimals) 18)) 18)) 18 : Nat)) = _
      rw [hBalance, hDecimals, hDecimals]
      rfl
  | quickNode tokens =>
      show List.map _ (List.map _ (List.map _ (List.map _ tokens))) = List.map _ (List.map _ tokens)
      simp only [List.map_map]
      refine List.map_congr_left fun token _ => ?_
      have hBalance := @orText_orText token.amount "0" "0" (by decide)
      have hDecimals := @orDecimals_orDecimals token.decimals 18 (by decide) 18
      show Served.mk _ (.str (orText (some (orText token.amount "0")) "0"))
        (.num (orDecimals (some (orDecimals (some (orDecimals token.decimals 18)) 18)) 18 : Nat)) = _
      rw [hBalance, hDecimals, hDecimals]
      rfl
  | solana accounts =>
      show List.map _ (List.map _ (List.map _ (List.map _ accounts))) =
        List.map _ (List.map _ accounts)
      simp only [List.map_map]
      refine List.map_congr_left fun account _ => ?_
      show Served.mk (.str (orText account.mint ""))
        (.str (orText (some (orText account.amount "0")) "0"))
        (.num (orDecimals (some (orDecimals (some (orDecimals account.decimals 0)) 9)) 9 : Nat)) = _
      rw [orText_empty, orText_orText (by decide), orDecimals_zero,
        orDecimals_orDecimals (by decide)]
      rfl

theorem fallback_ne_zero (raw : RawTokens) : raw.fallback ≠ 0 := by
  cases raw with
  | alchemy tokens => exact Nat.succ_ne_zero 17
  | quickNode tokens => exact Nat.succ_ne_zero 17
  | solana accounts => exact Nat.succ_ne_zero 8

/-- A token survives the adapter unchanged unless it reports zero decimals or an empty amount. Both
count as absent in JavaScript, and `||` replaces them. -/
theorem preserved_pass_iff {fallback : Nat} (h : fallback ≠ 0) (token : Reported) :
    Preserved fallback token (pass fallback token) ↔
      token.decimals ≠ some 0 ∧ token.amount ≠ some "" := by
  constructor
  · intro hPreserved
    constructor
    · refine (orDecimals_eq_iff h).mp ?_
      exact Nat.cast_injective (Js.num.inj hPreserved.decimals)
    · intro hEmpty
      have hAmount := Js.str.inj (hPreserved.amount "" hEmpty)
      rw [hEmpty] at hAmount
      exact absurd rfl (orText_eq_iff.mp hAmount)
  · rintro ⟨hDecimals, hAmount⟩
    refine ⟨rfl, ?_, ?_⟩
    · intro amount hReported
      have hNonempty : amount ≠ "" := fun hEmpty => hAmount (hEmpty ▸ hReported)
      rw [pass, hReported, orText_eq_iff.mpr hNonempty]
    · rw [pass, (orDecimals_eq_iff h).mpr hDecimals]

/-- A token list survives just where no token has decimals 0 or an empty amount. Every other token
passes all stages with its amount and its decimals. -/
theorem survives_iff (rest : Surroundings) (raw : RawTokens) :
    Survives rest raw ↔
      ∀ token ∈ raw.reported, token.decimals ≠ some 0 ∧ token.amount ≠ some "" := by
  rw [Survives, served_eq, List.forall₂_map_right_iff, List.forall₂_same]
  exact forall₂_congr fun token _ => preserved_pass_iff (fallback_ne_zero raw) token

def mainnet : Surroundings := ⟨1, "ETH", some 18, "mainnet-beta", "0", [], 0⟩

/-- A token without decimals, such as a ticket, is served with eighteen. -/
theorem not_survives_ticket : ¬ Survives mainnet (.alchemy
    [⟨"0x1f9840a85d5af5bf1d1762f925bdaddc4201f984", some "0x05",
      some ⟨some "TCKT", some 0, some "Ticket"⟩⟩]) := by
  intro hSurvives
  obtain ⟨hPreserved, -⟩ := List.forall₂_cons.mp hSurvives
  have hDecimals := Js.num.inj hPreserved.decimals
  exact absurd hDecimals (by decide +kernel)

end TokenPipeline

end BalanceKit
