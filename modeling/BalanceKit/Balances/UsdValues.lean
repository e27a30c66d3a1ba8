import BalanceKit.Balances.TokenPipeline
import BalanceKit.Library.Number
import BalanceKit.Providers.NetworkRouting

/-! The values that a quoting chain service puts into a response. They are computed from the
texts of the amounts, which the layers below pass on as the provider wrote them. -/
namespace BalanceKit

namespace PriceableEvmChainService

/-- The address under which the native coin is quoted. -/
def nativeToken : String := "0x0000000000000000000000000000000000000000"

def textOf : Js → String
  | .str text => text
  | _ => ""

def naturalOf : Js → Nat
  | .num q => q.num.toNat
  | _ => 0

/-- `price * parseFloat(balance) / 10 ** decimals`, with `none` for `NaN`. -/
def usdOf (price : Rat) (entry : Js) : Option Rat :=
  (Number.parseFloat (textOf (entry.get "balance"))).map fun amount =>
    price * amount / 10 ^ naturalOf (entry.get "decimals")

/-- A number field; `NaN` is printed as null. -/
def numberField : Option Rat → Js
  | some q => .num q
  | none => .null

/-- `prices.get(address) || 0`. -/
def priceOf (prices : String → Option Rat) (address : String) : Rat := (prices address).getD 0

def quoteFungible (prices : String → Option Rat) (fungible : Js) : Js :=
  let price := priceOf prices (Text.toLowerCase (textOf (fungible.get "mint")))
  fungible.set "usd" (numberField (usdOf price fungible))

/-- `getBalances`, after the response of the class above and the lookup of the prices. -/
def getBalancesQuoted (prices : String → Option Rat) (chainId : Nat) (balances : Js) : Js :=
  if isTestnetChainId chainId then balances
  else
    let nativeBalance := balances.get "nativeBalance"
    let quoted := balances.set "nativeBalance"
      (nativeBalance.set "usd" (numberField (usdOf (priceOf prices nativeToken) nativeBalance)))
    quoted.set "fungibles"
      (.arr ((balances.get "fungibles").items.map (quoteFungible prices)))

end PriceableEvmChainService

namespace UsdValues
open PriceableEvmChainService TokenPipeline

inductive Encoding where
  | decimal | hexadecimal
  deriving DecidableEq

/-- The text writes the number: in digits, or in hexadecimal ones after `0x`. -/
def Encoding.Spells : Encoding → String → Nat → Prop
  | decimal, text, n => text ≠ "" ∧ (∀ c ∈ text.toList, c.isDigit = true) ∧
      Number.natural 10 text.toList = some n
  | hexadecimal, text, n => ∃ digits, text.toList = '0' :: 'x' :: digits ∧
      Number.natural 16 digits = some n

/-- An integer amount as a provider reports it. -/
structure Amount where
  value : Nat
  text : String
  encoding : Encoding
  spells : encoding.Spells text value

structure Token where
  mint : String
  metadata : Option TokenMetadata
  amount : Amount

/-- The decimals that the source reports, or else the default. -/
def Token.decimals (token : Token) : Nat := (token.metadata.bind TokenMetadata.decimals).getD 18

inductive Provider where
  | alchemy | quickNode
  deriving DecidableEq

def Provider.rawTokens (tokens : List Token) : Provider → RawTokens
  | alchemy => .alchemy (tokens.map fun token => ⟨token.mint, some token.amount.text, token.metadata⟩)
  | quickNode => .quickNode (tokens.map fun token =>
      ⟨token.mint, token.metadata.bind TokenMetadata.symbol, token.metadata.bind TokenMetadata.name,
        some token.amount.text, token.metadata.bind TokenMetadata.decimals⟩)

/-- A request on a mainnet and what the provider answers. The native amount is decimal. -/
structure Wallet where
  evmChain : ChainName
  chainId : Nat
  isMainnet : isTestnetChainId chainId = false
  provider : Provider
  native : Amount
  nativeDecimal : native.encoding = .decimal
  tokens : List Token
  symbol : String
  nfts : List NftBalance
  seconds : Nat

namespace Wallet
variable (prices : String → Option Rat) (wallet : Wallet)

/-- The decimals of the chain's coin. -/
def metaDecimals : Option Nat := (evmChainInfo wallet.evmChain).map EvmChainInfo.decimals

def surroundings : Surroundings :=
  ⟨wallet.chainId, wallet.symbol, wallet.metaDecimals, "", wallet.native.text, wallet.nfts,
    wallet.seconds⟩

def response : Js :=
  getBalancesQuoted prices wallet.chainId
    (RawTokens.evmResponse wallet.surroundings (wallet.provider.rawTokens wallet.tokens).adapted)

end Wallet

/-- The entry of the token has its price times its amount. -/
def Valued (prices : String → Option Rat) (token : Token) (entry : Js) : Prop :=
  entry.get "mint" = .str token.mint ∧
    entry.get "usd" = .num
      (priceOf prices (Text.toLowerCase token.mint) * token.amount.value / 10 ^ token.decimals)

/-- The coin and every token, in its place, have the value of their amount. -/
def Exact (prices : String → Option Rat) (wallet : Wallet) : Prop :=
  ((wallet.response prices).get "nativeBalance").get "usd" = .num
      (priceOf prices nativeToken * wallet.native.value / 10 ^ wallet.metaDecimals.getD 18) ∧
    List.Forall₂ (Valued prices) wallet.tokens ((wallet.response prices).get "fungibles").items

section Amounts
variable {price : Rat} {amount : Amount} {entry : Js} {decimals : Nat}

/-- `parseFloat` reads a decimal amount exactly, and a hexadecimal one as the zero before its x. -/
theorem parseFloat_spelled (amount : Amount) : Number.parseFloat amount.text =
    some (if amount.encoding = .decimal then (amount.value : Rat) else 0) := by
  obtain ⟨value, text, encoding, hSpells⟩ := amount
  cases encoding with
  | decimal =>
      obtain ⟨hNonempty, hDigits, hValue⟩ := hSpells
      rw [Number.natural_of_isDigit hDigits] at hValue
      rw [if_pos rfl, Number.parseFloat_of_isDigit hNonempty hDigits, Option.some.inj hValue]
  | hexadecimal =>
      obtain ⟨digits, hText, -⟩ := hSpells
      rw [Number.parseFloat_hexLiteral hText]
      rfl

theorem text_ne_empty (amount : Amount) : amount.text ≠ "" := by
  obtain ⟨value, text, encoding, hSpells⟩ := amount
  cases encoding with
  | decimal => exact hSpells.1
  | hexadecimal =>
      obtain ⟨digits, hText, -⟩ := hSpells
      rintro rfl
      cases hText

/-- A hexadecimal amount counts as nothing. `parseFloat` stops at the `x` and reads the zero in
front of it. -/
theorem usdOf_spelled (hBalance : entry.get "balance" = .str amount.text)
    (hDecimals : entry.get "decimals" = .num (decimals : Rat)) :
    usdOf price entry = some (if amount.encoding = .decimal then
      price * amount.value / 10 ^ decimals else 0) := by
  have hText : textOf (entry.get "balance") = amount.text := by rw [hBalance]; rfl
  have hNatural : naturalOf (entry.get "decimals") = decimals := by
    rw [hDecimals]
    simp [naturalOf]
  rw [usdOf, hText, hNatural, parseFloat_spelled]
  by_cases hDecimal : amount.encoding = .decimal
  · simp [hDecimal]
  · simp [hDecimal]

/-- The value is that of the amount, unless the amount or its decimals are misread and the
value is not zero. -/
theorem value_eq_iff (reported : Option Nat) :
    (if amount.encoding = .decimal then price * amount.value / 10 ^ orDecimals reported 18 else 0) =
        price * amount.value / 10 ^ reported.getD 18 ↔
      price * amount.value = 0 ∨ amount.encoding = .decimal ∧ reported ≠ some 0 := by
  by_cases hZero : price * (amount.value : Rat) = 0
  · simp [hZero]
  · rw [or_iff_right hZero]
    by_cases hDecimal : amount.encoding = .decimal
    · rw [if_pos hDecimal, and_iff_right hDecimal]
      match reported with
      | none => simp [orDecimals, Text.nonzero]
      | some 0 =>
          have hScaled : price * (amount.value : Rat) / 10 ^ 18 ≠ price * amount.value / 10 ^ 0 := by
            intro hSame
            rw [pow_zero, div_one, div_eq_iff (by norm_num)] at hSame
            exact hZero (by linarith)
          simpa [orDecimals, Text.nonzero] using hScaled
      | some (d + 1) => simp [orDecimals, Text.nonzero]
    · have hValue : price * (amount.value : Rat) / 10 ^ reported.getD 18 ≠ 0 :=
        div_ne_zero hZero (pow_ne_zero _ (by norm_num))
      rw [if_neg hDecimal]
      exact iff_of_false hValue.symm fun h => hDecimal h.1

end Amounts

section Entries
variable {prices : String → Option Rat} {tokens : List Token}

/-- The fields of an entry that its value is computed from. -/
def readServed (entry : Js) : Served := ⟨entry.get "mint", entry.get "balance", entry.get "decimals"⟩

/-- A token on its way to the response. -/
def passed (token : Token) : Served :=
  ⟨.str token.mint, .str token.amount.text,
    .num (orDecimals (token.metadata.bind TokenMetadata.decimals) 18 : Nat)⟩

theorem readServed_adapted (rest : Surroundings) (provider : Provider) (tokens : List Token) :
    ((provider.rawTokens tokens).adapted.map AbstractEvmChainService.toFungible).map readServed =
      tokens.map passed := by
  have hText : ∀ token : Token, orText (some token.amount.text) "0" = token.amount.text :=
    fun token => orText_eq_iff.mpr (text_ne_empty token.amount)
  have hServed := served_eq rest (provider.rawTokens tokens)
  cases provider with
  | alchemy =>
      refine hServed.trans ?_
      simp [Provider.rawTokens, RawTokens.reported, TokenPipeline.pass, hText, Function.comp_def,
        passed, RawTokens.fallback]
  | quickNode =>
      refine hServed.trans ?_
      simp [Provider.rawTokens, RawTokens.reported, TokenPipeline.pass, hText, Function.comp_def,
        passed, RawTokens.fallback]

/-- A token has its exact value if its price or amount is zero, or if the amount is spelt in
decimal and the decimals are those of the token. -/
theorem valued_quoteFungible_iff {token : Token} {fungible : TokenBalance}
    (h : readServed (AbstractEvmChainService.toFungible fungible) = passed token) :
    Valued prices token (quoteFungible prices (AbstractEvmChainService.toFungible fungible)) ↔
      priceOf prices (Text.toLowerCase token.mint) * token.amount.value = 0 ∨
        token.amount.encoding = .decimal ∧ token.metadata.bind TokenMetadata.decimals ≠ some 0 := by
  obtain ⟨hMint, hBalance, hDecimals⟩ := Served.mk.inj h
  have hPrice : textOf ((AbstractEvmChainService.toFungible fungible).get "mint") = token.mint := by
    rw [hMint]
    rfl
  have hQuoted : quoteFungible prices (AbstractEvmChainService.toFungible fungible) =
      (AbstractEvmChainService.toFungible fungible).set "usd" (.num
        (if token.amount.encoding = .decimal then
          priceOf prices (Text.toLowerCase token.mint) * token.amount.value /
            10 ^ orDecimals (token.metadata.bind TokenMetadata.decimals) 18
        else 0)) := by
    rw [quoteFungible, hPrice, usdOf_spelled hBalance hDecimals]
    rfl
  have hFields : ∀ key, (quoteFungible prices (AbstractEvmChainService.toFungible fungible)).get key =
      if key = "usd" then .num
        (if token.amount.encoding = .decimal then
          priceOf prices (Text.toLowerCase token.mint) * token.amount.value /
            10 ^ orDecimals (token.metadata.bind TokenMetadata.decimals) 18
        else 0)
      else (AbstractEvmChainService.toFungible fungible).get key := by
    intro key
    rw [hQuoted]
    exact Js.get_set_obj _ _ _ _
  rw [Valued, hFields, hFields, if_neg (by decide), if_pos rfl, hMint, and_iff_right rfl,
    Js.num.injEq, Token.decimals, value_eq_iff]

end Entries

section Responses
variable {prices : String → Option Rat} {chainId : Nat}

/-- The values of a quoted response are those of one quote, where none of them is `NaN`. With `NaN`
among them there is no such quote. -/
theorem getBalancesQuoted_eq_quoted {quote : Quote} {balances : Js}
    (hMainnet : isTestnetChainId chainId = false)
    (hNative : usdOf (priceOf prices nativeToken) (balances.get "nativeBalance") = some quote.native)
    (hFungible : ∀ fungible ∈ (balances.get "fungibles").items,
      usdOf (priceOf prices (Text.toLowerCase (textOf (fungible.get "mint")))) fungible =
        some (quote.fungible fungible)) :
    getBalancesQuoted prices chainId balances = quoted (some quote) balances := by
  have hItems : (balances.get "fungibles").items.map (quoteFungible prices) =
      (balances.get "fungibles").items.map fun f => f.set "usd" (.num (quote.fungible f)) := by
    refine List.map_congr_left fun fungible hMember => ?_
    rw [quoteFungible, hFungible fungible hMember]
    rfl
  rw [getBalancesQuoted, hMainnet, if_neg Bool.false_ne_true]
  simp only [hNative, hItems]
  rfl

/-- The parts of a quoted response. -/
theorem getBalancesQuoted_parts (hMainnet : isTestnetChainId chainId = false)
    (rest : Surroundings) (tokens : List TokenBalance) :
    let balances := RawTokens.evmResponse rest tokens
    ((getBalancesQuoted prices chainId balances).get "nativeBalance").get "usd" =
        numberField (usdOf (priceOf prices nativeToken) (balances.get "nativeBalance")) ∧
      ((getBalancesQuoted prices chainId balances).get "fungibles").items =
        (tokens.map AbstractEvmChainService.toFungible).map (quoteFungible prices) := by
  intro balances
  rw [getBalancesQuoted, hMainnet, if_neg Bool.false_ne_true]
  constructor
  · show ((Js.set (.obj _) "fungibles" _).get "nativeBalance").get "usd" = _
    rw [Js.get_set_obj, if_neg (by decide)]
    show ((Js.set (.obj _) "nativeBalance" _).get "nativeBalance").get "usd" = _
    rw [Js.get_set_obj, if_pos rfl]
    show (Js.set (.obj _) "usd" _).get "usd" = _
    rw [Js.get_set_obj, if_pos rfl]
  · show ((Js.set (.obj _) "fungibles" _).get "fungibles").items = _
    rw [Js.get_set_obj, if_pos rfl]
    rfl

end Responses

/-- Pointwise conditions decide a relation between lists that agree. It is used with the condition
of one token and the amount that is shown for it. -/
theorem forall₂_iff_of_agree {α β : Type*} {Agree Related : α → β → Prop} {Holds : α → Prop}
    (hEach : ∀ a b, Agree a b → (Related a b ↔ Holds a)) {as : List α} {bs : List β}
    (hAgree : List.Forall₂ Agree as bs) : List.Forall₂ Related as bs ↔ ∀ a ∈ as, Holds a := by
  induction hAgree with
  | nil => simp
  | cons hHead _ ih => rw [List.forall₂_cons, List.forall_mem_cons, hEach _ _ hHead, ih]

theorem metaDecimals_ne_zero (wallet : Wallet) : wallet.metaDecimals ≠ some 0 := by
  unfold Wallet.metaDecimals
  cases wallet.evmChain <;> decide

/-- Every value is price times amount just where each token of any value has a decimal
amount, and decimals that are not reported as 0. -/
theorem usd_exact_iff (prices : String → Option Rat) (wallet : Wallet) :
    Exact prices wallet ↔ ∀ token ∈ wallet.tokens,
      priceOf prices (Text.toLowerCase token.mint) * token.amount.value = 0 ∨
        token.amount.encoding = .decimal ∧
          token.metadata.bind TokenMetadata.decimals ≠ some 0 := by
  obtain ⟨hNative, hFungibles⟩ := @getBalancesQuoted_parts prices wallet.chainId wallet.isMainnet
    wallet.surroundings (wallet.provider.rawTokens wallet.tokens).adapted
  have hNativeUsd : ((wallet.response prices).get "nativeBalance").get "usd" = .num
      (priceOf prices nativeToken * wallet.native.value / 10 ^ wallet.metaDecimals.getD 18) := by
    rw [Wallet.response, hNative]
    have hValue := (@value_eq_iff (priceOf prices nativeToken) wallet.native
      wallet.metaDecimals).mpr (.inr ⟨wallet.nativeDecimal, metaDecimals_ne_zero wallet⟩)
    rw [usdOf_spelled rfl rfl, ← hValue]
    rfl
  have hAgree : List.Forall₂
      (fun token fungible => readServed (AbstractEvmChainService.toFungible fungible) = passed token)
      wallet.tokens (wallet.provider.rawTokens wallet.tokens).adapted := by
    have hServed := readServed_adapted wallet.surroundings wallet.provider wallet.tokens
    rw [List.map_map, ← List.forall₂_eq_eq_eq, List.forall₂_map_left_iff,
      List.forall₂_map_right_iff] at hServed
    exact hServed.flip
  rw [Exact, and_iff_right hNativeUsd, Wallet.response, hFungibles, List.forall₂_map_right_iff,
    List.forall₂_map_right_iff]
  exact @forall₂_iff_of_agree _ _ _ _ _
    (fun token fungible h => @valued_quoteFungible_iff prices token fungible h) _ _ hAgree

/-- Five of a token with two decimals, as Alchemy writes them. -/
def fiveTokens : Token where
  mint := "0x1f9840a85d5aF5bf1D1762F925BDADdC4201F984"
  metadata := some ⟨some "UNI", some 2, some "Uniswap"⟩
  amount := ⟨500, "0x01f4", .hexadecimal, ['0', '1', 'f', '4'], rfl, by decide⟩

def alchemyWallet : Wallet where
  evmChain := .ethereum
  chainId := 1
  isMainnet := by decide +kernel
  provider := .alchemy
  native := ⟨0, "0", .decimal, by decide, by simp, by decide⟩
  nativeDecimal := rfl
  tokens := [fiveTokens]
  symbol := "ETH"
  nfts := []
  seconds := 0

def tokenPrices (address : String) : Option Rat :=
  if address = "0x1f9840a85d5af5bf1d1762f925bdaddc4201f984" then some 7 else none

/-- They are worth 35, and reported to be worth nothing. -/
theorem not_exact_alchemyWallet : ¬ Exact tokenPrices alchemyWallet := by
  rintro ⟨-, hFungibles⟩
  obtain ⟨⟨-, hUsd⟩, -⟩ := List.forall₂_cons.mp hFungibles
  have hValue := Js.num.inj hUsd
  revert hValue
  decide +kernel

end UsdValues

end BalanceKit
