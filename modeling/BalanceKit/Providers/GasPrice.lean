import BalanceKit.Library.Conversion
import BalanceKit.Providers.Registry

/-! The gas price at the QuickNode provider: from the client through strategy, adapter and
provider, where any answer may be missing or malformed. -/
namespace BalanceKit.GasPrice

/-- A value that a client answers with: data, or an integer of any size. -/
inductive ClientValue where
  | data (value : Js)
  | bigint (value : Int)

namespace ClientValue

def truthy : ClientValue → Bool
  | data value => value.truthy
  | bigint value => decide (value ≠ 0)

/-- `value.toString()`, with `none` for a `TypeError`. -/
def toText : ClientValue → Option String
  | data .undefined | data .null => none
  | data value => value.text
  | bigint value => some (toString value)

/-- `BigInt(value)`, with `none` for an exception. -/
def toBigInt : ClientValue → Option Int
  | data .undefined | data .null => none
  | data (.bool b) => some (if b then 1 else 0)
  | data (.num q) => if q.den = 1 then some q.num else none
  | data value => value.text.bind BigInt.ofText
  | bigint value => some value

end ClientValue

/-- What `getGasPrice` and, if there is such a function, `send` with
`eth_maxPriorityFeePerGas` answer, with `none` for an exception. -/
structure Client where
  getGasPrice : Option ClientValue
  send : Option (Option ClientValue)

structure RawGasPrice where
  gasPrice : String
  maxFeePerGas : String
  maxPriorityFeePerGas : String
  deriving DecidableEq

namespace EvmQuickNodeStrategy

/-- The clients of a strategy. -/
structure Clients where
  mainnetClient : Option Client
  testnetClient : Option Client

def getClient (clients : Clients) : NetworkType → Option Client
  | .testnet => clients.testnetClient <|> clients.mainnetClient
  | .mainnet => clients.mainnetClient

/-- The inner `try`: `maxFeePerGas` and `maxPriorityFeePerGas`, or `none` if its `catch` throws
as well. -/
def getFees (client : Client) (gasPrice : ClientValue) : Option (String × String) :=
  let caught (maxPriorityFeePerGas : String) :=
    gasPrice.toText.map fun text => (text, maxPriorityFeePerGas)
  match client.send with
  | none => some ("0", "0")
  | some none => caught "0"
  | some (some priorityFeeResult) =>
      if priorityFeeResult.truthy then
        match priorityFeeResult.toBigInt with
        | none => caught "0"
        | some tip =>
            let maxPriorityFeePerGas := toString tip
            match gasPrice.toText.bind BigInt.ofText, BigInt.ofText maxPriorityFeePerGas with
            | some price, some fee => some (toString (price + fee), maxPriorityFeePerGas)
            | _, _ => caught maxPriorityFeePerGas
      else caught "0"

/-- The outer `try`. -/
def tryGasPrice (client : Client) : Option RawGasPrice := do
  let gasPrice ← client.getGasPrice
  let (maxFeePerGas, maxPriorityFeePerGas) ← getFees client gasPrice
  let text ← gasPrice.toText
  return ⟨text, maxFeePerGas, maxPriorityFeePerGas⟩

/-- Without a price the defaults are returned. -/
def getRawGasPrice (clients : Clients) (networkType : NetworkType) : Option RawGasPrice :=
  (getClient clients networkType).map fun client => (tryGasPrice client).getD ⟨"0", "0", "0"⟩

end EvmQuickNodeStrategy

def EvmQuickNodeAdapter.toGasPrice (rawData : RawGasPrice) : String :=
  ((Text.present (some rawData.maxFeePerGas)).or
    (Text.present (some rawData.gasPrice))).getD "0"

namespace EthereumQuickNodeProvider

/-- The strategies by network. -/
abbrev Strategies := NetworkType → Option EvmQuickNodeStrategy.Clients

/-- `(Number(num) / 1e9).toFixed(2)`, as doubles. -/
def formatGasToGwei (value : String) : String :=
  match BigInt.ofText value with
  | none => "0 Gwei"
  | some num =>
      let gwei :=
        match Number.ofRat num with
        | .finite q => Number.ofRat (q / 10 ^ 9)
        | other => other
      Number.toFixed 2 gwei ++ " Gwei"

structure DetailedGasPrice where
  raw : RawGasPrice
  formatted : RawGasPrice
  deriving DecidableEq

variable (strategies : Strategies) (networkType : NetworkType)

def getGasPrice : Option String := do
  let strategy ← strategies networkType
  let rawGasData ← EvmQuickNodeStrategy.getRawGasPrice strategy networkType
  return EvmQuickNodeAdapter.toGasPrice rawGasData

def getDetailedGasPrice : Option DetailedGasPrice := do
  let strategy ← strategies networkType
  let rawGasData ← EvmQuickNodeStrategy.getRawGasPrice strategy networkType
  let gasPrice := (Text.present (some rawGasData.gasPrice)).getD "0"
  let maxFeePerGas := (Text.present (some rawGasData.maxFeePerGas)).getD gasPrice
  let maxPriorityFeePerGas := (Text.present (some rawGasData.maxPriorityFeePerGas)).getD "0"
  return ⟨⟨gasPrice, maxFeePerGas, maxPriorityFeePerGas⟩,
    ⟨formatGasToGwei gasPrice, formatGasToGwei maxFeePerGas,
      formatGasToGwei maxPriorityFeePerGas⟩⟩

end EthereumQuickNodeProvider

section Prices
variable {client : Client} {price : Int} {strategies : EthereumQuickNodeProvider.Strategies}
  {networkType : NetworkType}

/-- The client that a call of the provider asks. -/
def clientOf (strategies : EthereumQuickNodeProvider.Strategies) (networkType : NetworkType) :
    Option Client :=
  (strategies networkType).bind fun clients => EvmQuickNodeStrategy.getClient clients networkType

/-- The node answers with this price, as a number or as a text of one. -/
def Client.Supplies (client : Client) (price : Int) : Prop :=
  ∃ gasPrice text, client.getGasPrice = some gasPrice ∧ gasPrice.toText = some text ∧
    BigInt.ofText text = some price

/-- The node answers with an exception, or with nothing. -/
def Client.Unavailable (client : Client) : Prop :=
  client.getGasPrice.bind ClientValue.toText = none

/-- The tip that is obtained: an answer that is truthy and can be read. -/
def Client.tip (client : Client) : Option Int :=
  match client.send with
  | some (some answer) => if answer.truthy then answer.toBigInt else none
  | _ => none

/-- What is expected of the gas price of a client, where `reported` says what a node without
a price leads to. -/
structure KeepsGasPrice (reported : Option String)
    (strategies : EthereumQuickNodeProvider.Strategies) (networkType : NetworkType)
    (client : Client) : Prop where
  price : ∀ price, 0 < price → client.Supplies price →
    ∃ text, EthereumQuickNodeProvider.getGasPrice strategies networkType = some text ∧
      BigInt.ofText text = some (price + client.tip.getD 0)
  -- a tip is an amount; a text such as "-5" can be read but is none
  detailed : ∀ price, 0 < price → client.Supplies price → 0 ≤ client.tip.getD 0 →
    ∃ d maxFee, EthereumQuickNodeProvider.getDetailedGasPrice strategies networkType = some d ∧
      BigInt.ofText d.raw.gasPrice = some price ∧
      BigInt.ofText d.raw.maxFeePerGas = some maxFee ∧ price ≤ maxFee
  failure : client.Unavailable →
    EthereumQuickNodeProvider.getGasPrice strategies networkType = reported ∧
    (EthereumQuickNodeProvider.getDetailedGasPrice strategies networkType).map (fun d => d.raw) =
      reported.map fun text => ⟨text, text, text⟩

/-- The calls of the provider, from what the client is read as. -/
theorem calls_of_client (hClient : clientOf strategies networkType = some client) :
    let raw := (EvmQuickNodeStrategy.tryGasPrice client).getD ⟨"0", "0", "0"⟩
    EthereumQuickNodeProvider.getGasPrice strategies networkType =
        some (EvmQuickNodeAdapter.toGasPrice raw) ∧
      (EthereumQuickNodeProvider.getDetailedGasPrice strategies networkType).map (fun d => d.raw) =
        some ⟨(Text.present (some raw.gasPrice)).getD "0",
          (Text.present (some raw.maxFeePerGas)).getD
            ((Text.present (some raw.gasPrice)).getD "0"),
          (Text.present (some raw.maxPriorityFeePerGas)).getD "0"⟩ := by
  obtain ⟨clients, hClients, hClient⟩ := Option.bind_eq_some_iff.mp hClient
  have hRaw : EvmQuickNodeStrategy.getRawGasPrice clients networkType =
      some ((EvmQuickNodeStrategy.tryGasPrice client).getD ⟨"0", "0", "0"⟩) := by
    rw [EvmQuickNodeStrategy.getRawGasPrice, hClient]
    rfl
  refine ⟨?_, ?_⟩
  · rw [EthereumQuickNodeProvider.getGasPrice, hClients, Option.bind_eq_bind, Option.bind_some,
      hRaw]
    rfl
  · rw [EthereumQuickNodeProvider.getDetailedGasPrice, hClients, Option.bind_eq_bind,
      Option.bind_some, hRaw]
    rfl

/-- Only zero is read from the empty text. -/
theorem ne_empty_of_ofText {text : String} (hRead : BigInt.ofText text = some price)
    (hPrice : price ≠ 0) : text ≠ "" := by
  rintro rfl
  have hZero : BigInt.ofText "" = some 0 := by decide
  rw [hZero] at hRead
  exact hPrice (Option.some.inj hRead).symm

theorem toString_ne_empty (z : Int) : toString z ≠ "" := by
  by_cases hz : z = 0
  · rw [hz]
    decide
  · exact ne_empty_of_ofText (BigInt.ofText_toString z) hz

section Fees
variable {gasPrice : ClientValue} {text : String}

/-- Whatever keeps the tip away, the fee is the price. An answer for the tip that cannot be used
counts as none. -/
theorem getFees_of_no_tip (hSend : client.send.isSome = true) (hText : gasPrice.toText = some text)
    (hTip : client.tip = none) :
    EvmQuickNodeStrategy.getFees client gasPrice = some (text, "0") := by
  obtain ⟨answer, hAnswer⟩ := Option.isSome_iff_exists.mp hSend
  cases answer with
  | none => simp [EvmQuickNodeStrategy.getFees, hAnswer, hText]
  | some answer =>
      simp only [Client.tip, hAnswer] at hTip
      cases hTruthy : answer.truthy with
      | false => simp [EvmQuickNodeStrategy.getFees, hAnswer, hTruthy, hText]
      | true =>
          rw [hTruthy, if_pos rfl] at hTip
          simp [EvmQuickNodeStrategy.getFees, hAnswer, hTruthy, hTip, hText]

/-- With a tip the fee is the price and the tip together, in exact arithmetic. Both are read as
integers of any size before they are added. -/
theorem getFees_of_tip {tip : Int} (hText : gasPrice.toText = some text)
    (hRead : BigInt.ofText text = some price) (hTip : client.tip = some tip) :
    EvmQuickNodeStrategy.getFees client gasPrice =
      some (toString (price + tip), toString tip) := by
  unfold Client.tip at hTip
  split at hTip
  · rename_i answer hAnswer
    split at hTip
    · rename_i hTruthy
      simp only [EvmQuickNodeStrategy.getFees, hAnswer, hTruthy, if_true, hTip, hText,
        Option.bind_some, hRead, BigInt.ofText_toString]
    · cases hTip
  · cases hTip

/-- With a `send` function the fee is the price and the tip, or the price alone. The tip is asked
for by a raw call, which not every client has. -/
theorem getFees_of_send (hSend : client.send.isSome = true) (hText : gasPrice.toText = some text)
    (hRead : BigInt.ofText text = some price) (hPrice : 0 < price) :
    ∃ fees, EvmQuickNodeStrategy.getFees client gasPrice = some fees ∧
      BigInt.ofText fees.1 = some (price + client.tip.getD 0) ∧ fees.1 ≠ "" := by
  cases hTip : client.tip with
  | none =>
      refine ⟨_, getFees_of_no_tip hSend hText hTip, ?_, ne_empty_of_ofText hRead hPrice.ne'⟩
      rw [Option.getD_none, Int.add_zero, hRead]
  | some tip =>
      exact ⟨_, getFees_of_tip hText hRead hTip, BigInt.ofText_toString _, toString_ne_empty _⟩

end Fees

/-- A client that supplies a price is read exactly, in whatever form it gives it. The price is
turned into a text before anything is added to it. -/
theorem tryGasPrice_of_supplies (hSend : client.send.isSome = true)
    (hSupplies : client.Supplies price) (hPrice : 0 < price) :
    ∃ raw, EvmQuickNodeStrategy.tryGasPrice client = some raw ∧
      BigInt.ofText raw.gasPrice = some price ∧
      BigInt.ofText raw.maxFeePerGas = some (price + client.tip.getD 0) ∧
      raw.maxFeePerGas ≠ "" := by
  obtain ⟨gasPrice, text, hAnswer, hText, hRead⟩ := hSupplies
  obtain ⟨fees, hFees, hMaxFee⟩ := getFees_of_send hSend hText hRead hPrice
  refine ⟨⟨text, fees.1, fees.2⟩, ?_, hRead, hMaxFee⟩
  simp [EvmQuickNodeStrategy.tryGasPrice, hAnswer, hFees, hText]

theorem tryGasPrice_of_unavailable (hFails : client.Unavailable) :
    EvmQuickNodeStrategy.tryGasPrice client = none := by
  rw [EvmQuickNodeStrategy.tryGasPrice]
  cases hAnswer : client.getGasPrice with
  | none => rfl
  | some gasPrice =>
      have hText : gasPrice.toText = none := by simpa [Client.Unavailable, hAnswer] using hFails
      rw [Option.bind_eq_bind, Option.bind_some, hText]
      exact Option.bind_eq_none_iff.mpr fun _ _ => rfl

/-- The gas price of a client with a `send` function is kept; without a price from the node
both calls report "0". -/
theorem keepsGasPrice_of_send (hClient : clientOf strategies networkType = some client)
    (hSend : client.send.isSome = true) :
    KeepsGasPrice (some "0") strategies networkType client where
  price price hPrice hSupplies := by
    obtain ⟨raw, hRaw, -, hMaxFee, hPresent⟩ :=
      tryGasPrice_of_supplies hSend hSupplies hPrice
    have hCall := (calls_of_client hClient).1
    rw [hRaw, Option.getD_some] at hCall
    refine ⟨raw.maxFeePerGas, ?_, hMaxFee⟩
    rw [hCall, EvmQuickNodeAdapter.toGasPrice, Text.present_some hPresent]
    rfl
  detailed price hPrice hSupplies hTip := by
    obtain ⟨raw, hRaw, hGasPrice, hMaxFee, hPresent⟩ :=
      tryGasPrice_of_supplies hSend hSupplies hPrice
    have hCall := (calls_of_client hClient).2
    rw [hRaw, Option.getD_some] at hCall
    obtain ⟨d, hDetailed, hd⟩ := Option.map_eq_some_iff.mp hCall
    refine ⟨d, price + client.tip.getD 0, hDetailed, ?_, ?_, by omega⟩
    · rw [hd, Text.present_some (ne_empty_of_ofText hGasPrice hPrice.ne')]
      exact hGasPrice
    · rw [hd, Text.present_some hPresent]
      exact hMaxFee
  failure hFails := by
    obtain ⟨hPrice, hDetailed⟩ := calls_of_client hClient
    rw [tryGasPrice_of_unavailable hFails] at hPrice hDetailed
    exact ⟨hPrice, hDetailed⟩

/-- The provider of a single mainnet client. -/
def providerOf (client : Client) : EthereumQuickNodeProvider.Strategies :=
  fun _ => some ⟨some client, none⟩

/-- A node at 8 gwei that asks for a tip of one more. -/
def hexTipClient : Client :=
  ⟨some (.bigint 8000000000), some (some (.data (.str "0x3b9aca00")))⟩

/-- The tip of this client is a hexadecimal quantity, which BigInt reads. -/
theorem keepsGasPrice_of_send_hexTip :
    hexTipClient.Supplies 8000000000 ∧ hexTipClient.tip = some 1000000000 ∧
      KeepsGasPrice (some "0") (providerOf hexTipClient) .mainnet hexTipClient :=
  ⟨⟨.bigint 8000000000, "8000000000", rfl, by decide, by decide⟩, by decide,
    keepsGasPrice_of_send rfl rfl⟩

/-- The same node when it does not answer. -/
def failingClient : Client := { hexTipClient with getGasPrice := none }

theorem not_keepsGasPrice_failingClient :
    ¬ KeepsGasPrice none (providerOf failingClient) .mainnet failingClient := by
  intro hKeeps
  have hFailed : EthereumQuickNodeProvider.getGasPrice (providerOf failingClient) .mainnet =
      none := (hKeeps.failure rfl).1
  exact absurd hFailed (by decide)

/-- Without a `send` function the fee stays "0", a text that counts as present. -/
theorem getGasPrice_of_no_send (hClient : clientOf strategies networkType = some client)
    (hSend : client.send = none) :
    EthereumQuickNodeProvider.getGasPrice strategies networkType = some "0" := by
  have hFee : ((EvmQuickNodeStrategy.tryGasPrice client).getD ⟨"0", "0", "0"⟩).maxFeePerGas =
      "0" := by
    cases hRaw : EvmQuickNodeStrategy.tryGasPrice client with
    | none => rfl
    | some raw =>
        rw [EvmQuickNodeStrategy.tryGasPrice] at hRaw
        obtain ⟨gasPrice, -, hRaw⟩ := Option.bind_eq_some_iff.mp hRaw
        simp only [EvmQuickNodeStrategy.getFees, hSend, Option.bind_eq_bind,
          Option.bind_some] at hRaw
        obtain ⟨text, -, hRaw⟩ := Option.bind_eq_some_iff.mp hRaw
        rw [← Option.some.inj hRaw]
        rfl
  rw [(calls_of_client hClient).1, EvmQuickNodeAdapter.toGasPrice, hFee]
  rfl

/-- A client without a `send` function loses every price that it supplies, because the fee that is
reported stays zero. -/
theorem not_keepsGasPrice_of_no_send (hClient : clientOf strategies networkType = some client)
    (hSend : client.send = none) (hPrice : 0 < price) (hSupplies : client.Supplies price)
    (reported : Option String) : ¬ KeepsGasPrice reported strategies networkType client := by
  intro hKeeps
  obtain ⟨text, hText, hRead⟩ := hKeeps.price price hPrice hSupplies
  rw [getGasPrice_of_no_send hClient hSend] at hText
  obtain rfl := Option.some.inj hText
  have hTip : client.tip = none := by simp only [Client.tip, hSend]
  have hZero : BigInt.ofText "0" = some 0 := by decide
  rw [hZero, hTip, Option.getD_none, Int.add_zero] at hRead
  exact hPrice.ne (Option.some.inj hRead)

end Prices

end BalanceKit.GasPrice
