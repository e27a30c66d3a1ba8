import BalanceKit.Library.Number
import BalanceKit.Providers.Registry

/-! The balance of a token at the QuickNode provider, which falls back on a call of the
token's contract. The call names the account by the digits of the address. -/
namespace BalanceKit

/-- The direct form of ICAP: two check digits, and the account in base 36. -/
def isIcap (address : String) : Bool :=
  match address.toList with
  | 'X' :: 'E' :: first :: second :: code =>
      first.isDigit && second.isDigit && (code.length == 30 || code.length == 31) &&
        code.all Char.isAlphanum
  | _ => false

/-- The two forms in which an EVM address is accepted. -/
def AddressLibraries.AddressForms (libraries : AddressLibraries) : Prop :=
  ∀ text, libraries.isAddress text = true → isEvmHex text = true ∨ isIcap text = true

def base36Digit (c : Char) : Nat := if c.isDigit then c.toNat - 48 else c.toLower.toNat - 87

def base36Value (code : List Char) : Nat := code.foldl (fun n c => 36 * n + base36Digit c) 0

/-- The twenty bytes of the account that an accepted address stands for. -/
def accountOf (address : String) : List UInt8 :=
  match address.toList with
  | '0' :: 'x' :: digits => Hex.decode digits
  | 'X' :: 'E' :: _ :: _ :: code =>
      (List.range 20).map fun i => UInt8.ofNat (base36Value code / 256 ^ (19 - i))
  | digits => Hex.decode digits

namespace EthereumQuickNodeProvider

/-- The parameters of `client.call`. -/
structure CallRequest where
  toAddress : String
  data : String
  deriving DecidableEq

/-- The call that is made, if any, and the balance, if the function returns. -/
structure Erc20Balance where
  call : Option CallRequest
  balance : Option Js

def padStart (text : List Char) (length : Nat) (fill : Char) : List Char :=
  List.replicate (length - text.length) fill ++ text

def balanceOfSelector : String := "0x70a08231"

def balanceOfData (address : String) : String :=
  balanceOfSelector ++ String.ofList (padStart (address.toList.drop 2) 64 '0')

/-- `BigInt(text)` for a text that begins with `0x`. -/
def bigIntOfHex (text : String) : Option Nat :=
  match (Text.trim text).toList with
  | '0' :: 'x' :: digits => if digits = [] then none else Number.natural 16 digits
  | _ => none

/-- The balance that the answer to the call is read as. -/
def readBalance : Js → Js
  | .str balanceStr =>
      if "0x".toList.isPrefixOf balanceStr.toList then
        match bigIntOfHex balanceStr with
        | some n => .str (toString n)
        | none => .str "0"
      else .str "0"
  | _ => .str "0"

variable (outside : Outside)

/-- The amount of the first token of the token API. An error is logged. -/
def fetchTokenBalance (client : NetworkType) (address contractAddress : String) : Option Js :=
  if outside.offers "qn_fetchTokenBalances" then
    let params := Js.obj [("wallet", .str address), ("contracts", .arr [.str contractAddress])]
    match outside.ask (.quickNode client) "qn_fetchTokenBalances" params with
    | some response =>
        match (response.get "tokens").items with
        | token :: _ => some ((token.get "amount").orElse (.str "0"))
        | [] => none
    | none => none
  else none

def getErc20Balance (address contractAddress : String) (networkType : NetworkType) :
    Erc20Balance :=
  if !(outside.libraries.isAddress address && outside.libraries.isAddress contractAddress) then
    ⟨none, none⟩
  else
    match getClient outside networkType with
    | none => ⟨none, none⟩
    | some client =>
        match fetchTokenBalance outside client address contractAddress with
        | some amount => ⟨none, some amount⟩
        | none =>
            let request : CallRequest := ⟨ensureHexAddress contractAddress, balanceOfData address⟩
            let params := Js.obj [("to", .str request.toAddress), ("data", .str request.data)]
            ⟨some request, (outside.ask (.quickNode client) "call" params).map readBalance⟩

/-- `0x` and the digits of the bytes, in any case. -/
def Encodes (text : String) (bytes : List UInt8) : Prop :=
  ∃ digits, text.toList = '0' :: 'x' :: digits ∧ digits.length = 2 * bytes.length ∧
    Hex.decode digits = bytes

/-- The data asks for the balance of the account of the address, which is the account that
`ensureHexAddress` writes out. -/
def AsksForAccount (address data : String) : Prop :=
  (accountOf address).length = 20 ∧
    Encodes data ([0x70, 0xa0, 0x82, 0x31] ++ List.replicate 12 0 ++ accountOf address) ∧
    Encodes (ensureHexAddress address) (accountOf address)

section Digits
variable {address : String} {digits : List Char}

theorem isHexText_iff : isHexText digits = true ↔
    digits.length = 40 ∧ ∀ c ∈ digits, (Hex.value c).isSome = true := by
  simp [isHexText]

theorem length_decode_isHexText (h : isHexText digits = true) : (Hex.decode digits).length = 20 := by
  obtain ⟨hLength, hEach⟩ := isHexText_iff.mp h
  have hWhole := Hex.decode_whole_iff.mpr ⟨by omega, hEach⟩
  have hEncoded := congrArg List.length (Hex.encode_decode hWhole)
  rw [Hex.length_encode, List.length_map] at hEncoded
  omega

theorem not_mem_isHexText (h : isHexText digits = true) : 'x' ∉ digits := fun hMember =>
  absurd ((isHexText_iff.mp h).2 'x' hMember) (by decide)

theorem toLowerCase_of_hexDigits {before : List Char} (hBefore : before = [] ∨ before = ['0', 'x'])
    (h : isHexText digits = true) (hAddress : address.toList = before ++ digits) :
    Text.toLowerCase address = String.ofList (before ++ digits.map Char.toLower) := by
  have hPlain : ∀ c ∈ address.toList, c ≠ '\u0130' ∧ c ≠ '\u212a' := by
    intro c hc
    rw [hAddress, List.mem_append] at hc
    rcases hc with hc | hc
    · rcases hBefore with rfl | rfl
      · cases hc
      · simp only [List.mem_cons, List.not_mem_nil, or_false] at hc
        rcases hc with rfl | rfl <;> decide
    · constructor <;>
        · rintro rfl
          exact absurd ((isHexText_iff.mp h).2 _ hc) (by decide)
  rw [Text.toLowerCase_of_ne hPlain, hAddress, List.map_append]
  rcases hBefore with rfl | rfl <;> rfl

/-- A hexadecimal address is written out in lower case, with `0x` before it. -/
theorem encodes_ensureHexAddress {before : List Char}
    (hBefore : before = [] ∨ before = ['0', 'x']) (h : isHexText digits = true)
    (hAddress : address.toList = before ++ digits) :
    Encodes (ensureHexAddress address) (Hex.decode digits) := by
  refine ⟨digits.map Char.toLower, ?_, ?_, Hex.decode_map_toLower digits⟩
  · have hNonempty : address ≠ "" := by
      rintro rfl
      have hLength := congrArg List.length hAddress
      simp [length_isHexText h] at hLength
    have hLower := toLowerCase_of_hexDigits hBefore h hAddress
    rw [ensureHexAddress, if_neg hNonempty, hLower]
    rcases hBefore with rfl | rfl
    · have hNoMark : ¬ "0x".toList.isPrefixOf
          (String.ofList ([] ++ digits.map Char.toLower)).toList = true := by
        intro hMark
        have hMember : 'x' ∈ (String.ofList ([] ++ digits.map Char.toLower)).toList :=
          (List.isPrefixOf_iff_prefix.mp hMark).subset (by decide)
        rw [String.toList_ofList, List.nil_append] at hMember
        obtain ⟨c, hc, hLowerX⟩ := List.mem_map.mp hMember
        have hDigit := (isHexText_iff.mp h).2 c hc
        rw [← Hex.value_toLower, hLowerX] at hDigit
        exact absurd hDigit (by decide)
      rw [if_neg hNoMark]
      simp
    · rw [if_pos (by simp)]
      simp
  · rw [List.length_map, length_isHexText h, length_decode_isHexText h]

/-- An ICAP address is written out with a letter that is no digit, so the data of the call is no
hexadecimal text. -/
theorem not_encodes_ensureHexAddress_icap (h : isIcap address = true) {bytes : List UInt8}
    (hBytes : bytes ≠ []) : ¬ Encodes (ensureHexAddress address) bytes := by
  rintro ⟨digits, hDigits, -, rfl⟩
  have hText : ∃ code, address.toList = 'X' :: 'E' :: code := by
    unfold isIcap at h
    split at h
    · rename_i first second code hAddress
      exact ⟨first :: second :: code, hAddress⟩
    · cases h
  obtain ⟨code, hAddress⟩ := hText
  have hLower : (Text.toLowerCase address).toList = 'x' :: 'e' :: code.flatMap Text.lowerCase := by
    rw [Text.toLowerCase, String.toList_ofList, hAddress, List.flatMap_cons, List.flatMap_cons]
    rfl
  have hNonempty : address ≠ "" := by
    rintro rfl
    cases hAddress
  have hNoMark : ¬ "0x".toList.isPrefixOf (Text.toLowerCase address).toList = true := by
    rw [hLower]
    simp [List.isPrefixOf]
  rw [ensureHexAddress, if_neg hNonempty, if_neg hNoMark, String.toList_append, hLower] at hDigits
  obtain rfl : 'x' :: 'e' :: code.flatMap Text.lowerCase = digits := by simpa using hDigits
  refine hBytes (Hex.decode_of_no_pair fun x y hHigh _ => ?_)
  have hNone : Hex.value 'x' = none := by decide
  rw [hNone] at hHigh
  cases hHigh

end Digits

section Data
variable {address : String} {digits : List Char}

theorem eq_zero_of_value {c : Char} (h : Hex.value c = some 0) : c = '0' := by
  have hLower : '0' = c.toLower := (Hex.value_spec h).2
  rcases Text.toLower_cases c with hSame | ⟨hMoved, hLow, -⟩
  · rw [← hSame, ← hLower]
  · rw [← hLower] at hMoved
    have hZero : '0'.toNat = 48 := rfl
    omega

/-- The call data in characters: the selector, and the address without its first two characters,
filled up with zeros from the left. -/
theorem toList_balanceOfData (address : String) :
    (balanceOfData address).toList = '0' :: 'x' :: ("70a08231".toList ++
      (List.replicate (64 - (address.toList.drop 2).length) '0' ++ address.toList.drop 2)) := by
  simp [balanceOfData, balanceOfSelector, padStart]

/-- The digits of the data are the selector, zeros, and what is left of the address. The contract
reads the account from the last twenty bytes of the argument. -/
theorem decode_balanceOfData {rest : List Char} (n : Nat) :
    Hex.decode ("70a08231".toList ++ (List.replicate (2 * n) '0' ++ rest)) =
      [0x70, 0xa0, 0x82, 0x31] ++ (List.replicate n 0 ++ Hex.decode rest) := by
  have hZeros : ∀ c ∈ List.replicate (2 * n) '0', (Hex.value c).isSome = true := by
    intro c hc
    rw [List.eq_of_mem_replicate hc]
    decide
  have hSelector : ∀ c ∈ "70a08231".toList, (Hex.value c).isSome = true :=
    List.all_eq_true.mp (by decide)
  rw [Hex.decode_append (by decide) hSelector, Hex.decode_append (by simp) hZeros,
    Hex.decode_zeros]
  rfl

/-- The data encodes the call with this account exactly if what is left of the address, filled up,
is the account filled up. -/
theorem encodes_balanceOfData_iff {rest : List Char} {bytes : List UInt8} {n : Nat}
    (hDrop : address.toList.drop 2 = rest) (hPad : 64 - rest.length = 2 * n)
    (hRest : rest.length ≤ 64) (hBytes : bytes.length = 20) :
    Encodes (balanceOfData address) ([0x70, 0xa0, 0x82, 0x31] ++ List.replicate 12 0 ++ bytes) ↔
      List.replicate n 0 ++ Hex.decode rest = List.replicate 12 0 ++ bytes := by
  rw [Encodes, toList_balanceOfData, hDrop, hPad, List.append_assoc]
  constructor
  · rintro ⟨digits, hDigits, -, hDecode⟩
    obtain ⟨-, hTail⟩ := List.cons.inj hDigits
    obtain ⟨-, rfl⟩ := List.cons.inj hTail
    rw [decode_balanceOfData] at hDecode
    exact List.append_cancel_left hDecode
  · intro hSame
    refine ⟨_, rfl, ?_, ?_⟩
    · simp [hBytes]
      omega
    · rw [decode_balanceOfData, hSame]

end Data

/-- An address with `0x` is asked for as it is. -/
theorem asksForAccount_prefixed {address : String} {digits : List Char}
    (h : isHexText digits = true) (hAddress : address.toList = '0' :: 'x' :: digits) :
    AsksForAccount address (balanceOfData address) := by
  have hLength := length_isHexText h
  have hAccount : accountOf address = Hex.decode digits := by
    simp only [accountOf, hAddress]
  have hDrop : address.toList.drop 2 = digits := by rw [hAddress]; rfl
  rw [AsksForAccount, hAccount]
  refine ⟨length_decode_isHexText h, ?_, encodes_ensureHexAddress (.inr rfl) h hAddress⟩
  exact (@encodes_balanceOfData_iff _ _ _ 12 hDrop (by omega) (by omega)
    (length_decode_isHexText h)).mpr rfl

/-- Without it, the first byte of the account is dropped and read as zero. It is right for those
accounts only whose first byte is zero. -/
theorem asksForAccount_bare_iff {address : String} (h : isHexText address.toList = true) :
    AsksForAccount address (balanceOfData address) ↔ ['0', '0'] <+: address.toList := by
  obtain ⟨hLength, hEach⟩ := isHexText_iff.mp h
  obtain ⟨high, low, rest, hAddress⟩ : ∃ high low rest, address.toList = high :: low :: rest := by
    match address.toList, hLength with
    | high :: low :: rest, _ => exact ⟨high, low, rest, rfl⟩
  obtain ⟨x, hHigh⟩ := Option.isSome_iff_exists.mp (hEach high (by simp [hAddress]))
  obtain ⟨y, hLow⟩ := Option.isSome_iff_exists.mp (hEach low (by simp [hAddress]))
  have hDecode : Hex.decode address.toList = UInt8.ofNat (16 * x + y) :: Hex.decode rest := by
    rw [hAddress, Hex.decode, hHigh, hLow]
  have hAccount : accountOf address = Hex.decode address.toList := by
    unfold accountOf
    split
    · rename_i digits hDigits
      exact absurd (hDigits ▸ List.mem_cons_of_mem _ List.mem_cons_self) (not_mem_isHexText h)
    · rename_i first second code hCode
      have hDigit := hEach 'X' (by simp [hCode])
      exact absurd hDigit (by decide)
    · rfl
  have hDrop : address.toList.drop 2 = rest := by rw [hAddress]; rfl
  have hRest : rest.length = 38 := by simpa [hAddress] using hLength
  have hBytes := length_decode_isHexText h
  rw [AsksForAccount, hAccount, and_iff_right hBytes,
    and_iff_left (encodes_ensureHexAddress (.inl rfl) h rfl),
    @encodes_balanceOfData_iff _ _ _ 13 hDrop (by omega) (by omega) hBytes, hDecode, hAddress]
  have hX := (Hex.value_spec hHigh).1
  have hY := (Hex.value_spec hLow).1
  constructor
  · intro hSame
    have hByte : (0 : UInt8) = UInt8.ofNat (16 * x + y) := by
      rw [List.replicate_succ', List.append_assoc] at hSame
      exact (List.cons.inj (List.append_cancel_left hSame)).1
    have hZero : 16 * x + y = 0 := by
      have hNat := congrArg UInt8.toNat hByte
      rw [UInt8.toNat_ofNat', UInt8.toNat_zero] at hNat
      omega
    obtain ⟨rfl, rfl⟩ : x = 0 ∧ y = 0 := by omega
    rw [eq_zero_of_value hHigh, eq_zero_of_value hLow]
    exact ⟨rest, rfl⟩
  · intro hZeros
    obtain ⟨rfl, hSecond⟩ := List.cons_prefix_cons.mp hZeros
    obtain ⟨rfl, -⟩ := List.cons_prefix_cons.mp hSecond
    have hNibble : Hex.value '0' = some 0 := by decide
    rw [hNibble] at hHigh hLow
    cases hHigh
    cases hLow
    rfl

/-- A call is made for valid addresses only, and with the data of the address. An address that the
check refuses makes no call at all. -/
theorem data_of_call {outside : Outside} {address contractAddress : String}
    {networkType : NetworkType} {request : CallRequest}
    (h : (getErc20Balance outside address contractAddress networkType).call = some request) :
    outside.libraries.isAddress address = true ∧ request.data = balanceOfData address := by
  unfold getErc20Balance at h
  split at h
  · cases h
  · rename_i hValid
    have hAccepted : outside.libraries.isAddress address = true := by
      cases hAddress : outside.libraries.isAddress address with
      | true => rfl
      | false => simp [hAddress] at hValid
    split at h
    · cases h
    · split at h
      · cases h
      · cases h
        exact ⟨hAccepted, rfl⟩

/-- The contract is asked for the account of the address just where the address begins with
`0x`, or is hexadecimal and begins with two zeros. -/
theorem asksForAccount_iff {outside : Outside} (hForms : outside.libraries.AddressForms)
    {address contractAddress : String} {networkType : NetworkType} {request : CallRequest}
    (hCall : (getErc20Balance outside address contractAddress networkType).call = some request) :
    AsksForAccount address request.data ↔
      ['0', 'x'] <+: address.toList ∨
        isEvmHex address = true ∧ ['0', '0'] <+: address.toList := by
  obtain ⟨hAccepted, hData⟩ := data_of_call hCall
  rw [hData]
  rcases hForms address hAccepted with hHex | hIcap
  · obtain ⟨digits, hDigits, hPrefixed | hBare⟩ := isEvmHex_cases hHex
    · refine iff_of_true (asksForAccount_prefixed hDigits hPrefixed) (.inl ?_)
      exact ⟨digits, hPrefixed.symm⟩
    · subst hBare
      have hNoMark : ¬ ['0', 'x'] <+: address.toList := fun hMark =>
        not_mem_isHexText hDigits (hMark.subset (by decide))
      rw [asksForAccount_bare_iff hDigits, or_iff_right hNoMark, and_iff_right hHex]
  · have hFirst : ∃ code, address.toList = 'X' :: code := by
      unfold isIcap at hIcap
      split at hIcap
      · rename_i first second code hAddress
        exact ⟨_, hAddress⟩
      · cases hIcap
    obtain ⟨code, hAddress⟩ := hFirst
    refine iff_of_false ?_ ?_
    · rintro ⟨hLength, -, hEncodes⟩
      have hNonempty : accountOf address ≠ [] := by
        rintro hNone
        rw [hNone] at hLength
        cases hLength
      exact not_encodes_ensureHexAddress_icap hIcap hNonempty hEncodes
    · rw [hAddress]
      rintro (hMark | ⟨-, hMark⟩) <;>
        exact absurd (List.cons_prefix_cons.mp hMark).1 (by decide)

/-- A check of the hexadecimal form accepts addresses of this form only. -/
theorem addressForms_uncheckedLibraries : uncheckedLibraries.AddressForms := fun _ h => .inl h

/-- A client for mainnet, without the token API. -/
def deployment : Outside where
  libraries := uncheckedLibraries
  config key :=
    if key = "QUICKNODE_ETH_MAINNET_URL" then some "https://kit.quiknode.pro" else none
  ask _ _ _ := some (.str "0x00")
  offers _ := false
  prices _ _ := true

def tokenContract : String := "0xdac17f958d2ee523a2206206994597c13d831ec7"

def walletRequest : CallRequest := ⟨tokenContract,
  "0x70a08231000000000000000000000000d8da6bf26964af9d7eed9e03e53415d37aa96045"⟩

theorem asksForAccount_wallet :
    AsksForAccount "0xd8da6bf26964af9d7eed9e03e53415d37aa96045" walletRequest.data :=
  (@asksForAccount_iff deployment addressForms_uncheckedLibraries _ tokenContract .mainnet
    walletRequest (by decide +kernel)).mpr (.inl (by decide +kernel))

def bareRequest : CallRequest := ⟨tokenContract,
  "0x70a0823100000000000000000000000000da6bf26964af9d7eed9e03e53415d37aa96045"⟩

/-- Without `0x` the contract is asked for an account whose first byte is zero. -/
theorem not_asksForAccount_bare :
    (getErc20Balance deployment "d8da6bf26964af9d7eed9e03e53415d37aa96045" tokenContract
        .mainnet).call = some bareRequest ∧
      ¬ AsksForAccount "d8da6bf26964af9d7eed9e03e53415d37aa96045" bareRequest.data := by
  have hCall : (getErc20Balance deployment "d8da6bf26964af9d7eed9e03e53415d37aa96045" tokenContract
      .mainnet).call = some bareRequest := by decide +kernel
  refine ⟨hCall, ?_⟩
  rw [(data_of_call hCall).2, asksForAccount_bare_iff (by decide +kernel)]
  decide +kernel

end EthereumQuickNodeProvider

end BalanceKit
