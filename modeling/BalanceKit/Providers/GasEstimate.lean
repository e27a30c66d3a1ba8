import BalanceKit.Library.Quantity
import BalanceKit.Providers.GasPrice

/-! Gas estimates at the QuickNode provider. A transaction is put to the node either as a raw
call, with its amount as a quantity, or through the function of the SDK, with an integer. -/
namespace BalanceKit.GasEstimate
open GasPrice (ClientValue)

/-- The fields that an estimate reads. -/
structure EthereumTransactionRequest where
  «from» : String
  «to» : Option String
  data : Option String
  value : Option String

/-- The parameter of `eth_estimateGas`; `to` is null rather than absent. -/
structure Params where
  «from» : String
  «to» : Option String
  data : Option String
  value : Option String

/-- The argument of `estimateGas`, which names no sender. -/
structure SdkRequest where
  «to» : Option String
  data : Option String
  value : Option Int

/-- What the calls of a client give, with `none` for an exception. A client may lack `send`. -/
structure Client where
  send : Option (Params → Option ClientValue)
  estimateGas : SdkRequest → Option ClientValue

namespace EvmQuickNodeStrategy

/-- The clients of a strategy. -/
structure Clients where
  mainnetClient : Option Client
  testnetClient : Option Client

def getClient (clients : Clients) : NetworkType → Option Client
  | .testnet => clients.testnetClient <|> clients.mainnetClient
  | .mainnet => clients.mainnetClient

def isHex (value : String) : Bool := "0x".toList.isPrefixOf value.toList

/-- The amount of the raw call. A text that begins with `0x` is passed on as it is. -/
def valueParam (txData : EthereumTransactionRequest) : Option (Option String) :=
  match Text.present txData.value with
  | none => some none
  | some value =>
      if isHex value then some (some value)
      else (BigInt.ofText value).map fun amount => some ("0x" ++ BigInt.toHex amount)

/-- The recipient of either call. -/
def toParam (txData : EthereumTransactionRequest) : Option String :=
  (Text.present txData.«to»).map ensureHexAddress

def params (txData : EthereumTransactionRequest) : Option Params :=
  (valueParam txData).map fun value =>
    ⟨ensureHexAddress txData.«from», toParam txData, Text.present txData.data, value⟩

def sdkRequest (txData : EthereumTransactionRequest) : Option SdkRequest :=
  match Text.present txData.value with
  | none => some ⟨toParam txData, txData.data, none⟩
  | some value => (BigInt.ofText value).map fun amount => ⟨toParam txData, txData.data, some amount⟩

/-- The answer of the raw call is converted to an integer, and either one to a text. -/
def ask (client : Client) (txData : EthereumTransactionRequest) : Option String :=
  match client.send with
  | some send => do
      let request ← params txData
      let gasEstimate ← send request
      let gas ← gasEstimate.toBigInt
      return toString gas
  | none => do
      let request ← sdkRequest txData
      let gasEstimate ← client.estimateGas request
      gasEstimate.toText

def getRawEstimateGas (clients : Clients) (txData : EthereumTransactionRequest)
    (networkType : NetworkType) : Option String :=
  (getClient clients networkType).bind fun client => ask client txData

end EvmQuickNodeStrategy

def EvmQuickNodeAdapter.toEstimateGas (rawData : String) : String := rawData

namespace EthereumQuickNodeProvider

/-- The strategies by network. -/
abbrev Strategies := NetworkType → Option EvmQuickNodeStrategy.Clients

def estimateGas (strategies : Strategies) (txData : EthereumTransactionRequest)
    (networkType : NetworkType) : Option String := do
  let strategy ← strategies networkType
  let rawEstimateGas ← EvmQuickNodeStrategy.getRawEstimateGas strategy txData networkType
  return EvmQuickNodeAdapter.toEstimateGas rawEstimateGas

/-- The client that a call of the provider asks. -/
def clientOf (strategies : Strategies) (networkType : NetworkType) : Option Client :=
  (strategies networkType).bind fun clients => EvmQuickNodeStrategy.getClient clients networkType

end EthereumQuickNodeProvider

/-- A call as a node estimates it. -/
structure CallRequest where
  sender : Option String
  recipient : Option String
  data : Option String
  amount : Nat

/-- The gas that the call takes, with `none` for an error. -/
abbrev Node := CallRequest → Option Nat

/-- The amount of an integer that is none below zero. -/
def natural (value : Int) : Option Nat := if 0 ≤ value then some value.toNat else none

/-- Both functions of a client ask one node. Amounts and estimates of the raw call are
quantities, and the SDK refuses an amount below zero. -/
structure Client.Serves (client : Client) (node : Node) : Prop where
  send : ∀ call, client.send = some call → ∀ request : Params, call request =
    (((request.value.map Quantity.decode).getD (some 0)).bind fun amount =>
      node ⟨some request.«from», request.«to», request.data, amount⟩).map fun gas =>
        .data (.str (Quantity.encode gas))
  estimateGas : ∀ request, client.estimateGas request =
    (((request.value.map natural).getD (some 0)).bind fun amount =>
      node ⟨none, request.«to», request.data, amount⟩).map fun gas : Nat => .bigint gas

/-- The amount of a transaction. -/
def amountOf (txData : EthereumTransactionRequest) : Option Nat :=
  match Text.present txData.value with
  | none => some 0
  | some value => (BigInt.ofText value).bind natural

/-- A value that the raw call passes on is a quantity. -/
def Passable (txData : EthereumTransactionRequest) : Prop :=
  ∀ value, Text.present txData.value = some value → EvmQuickNodeStrategy.isHex value →
    (Quantity.decode value).isSome

/-- The transaction, as the client puts it. -/
def asked (client : Client) (txData : EthereumTransactionRequest) (amount : Nat) : CallRequest where
  sender := client.send.map fun _ => ensureHexAddress txData.«from»
  recipient := EvmQuickNodeStrategy.toParam txData
  data := if client.send.isSome then Text.present txData.data else txData.data
  amount := amount

section Amounts
open GasEstimate.EvmQuickNodeStrategy
variable {txData : EthereumTransactionRequest} {client : Client} {node : Node}

theorem natural_natCast (n : Nat) : natural n = some n := by
  rw [natural, if_pos (Int.natCast_nonneg n), Int.toNat_natCast]

/-- An amount that is written as a quantity is read back, and one below zero by nobody. -/
theorem decode_toHex (value : Int) :
    Quantity.decode ("0x" ++ BigInt.toHex value) = natural value := by
  cases value with
  | ofNat n => exact (Quantity.decode_encode n).trans (natural_natCast n).symm
  | negSucc n =>
      rw [Quantity.decode_negSucc, natural, if_neg (by omega)]

/-- What the node reads from the raw call is the amount, or nothing. An amount that is left out is
read as zero. -/
theorem decode_valueParam {amount : Nat} :
    ((valueParam txData).bind fun value => (value.map Quantity.decode).getD (some 0)) =
        some amount ↔ amountOf txData = some amount ∧ Passable txData := by
  unfold valueParam amountOf Passable
  cases hPresent : Text.present txData.value with
  | none => simp
  | some value =>
      cases hHex : isHex value with
      | true =>
          simp only [hHex, if_true, Option.bind_some, Option.map_some, Option.getD_some,
            Option.some.injEq]
          constructor
          · intro hDecoded
            rw [Quantity.ofText_of_decode hDecoded]
            refine ⟨natural_natCast amount, ?_⟩
            rintro _ rfl -
            rw [hDecoded]
            rfl
          · rintro ⟨hAmount, hPassable⟩
            obtain ⟨read, hDecoded⟩ := Option.isSome_iff_exists.mp (hPassable value rfl hHex)
            rw [Quantity.ofText_of_decode hDecoded, Option.bind_some, natural_natCast] at hAmount
            rw [hDecoded, hAmount]
      | false =>
          have hPassable : ∀ text, some value = some text → isHex text = true →
              (Quantity.decode text).isSome := by
            intro text hText hTextHex
            rw [← Option.some.inj hText, hHex] at hTextHex
            cases hTextHex
          simp only [hHex, Bool.false_eq_true, if_false, and_iff_left hPassable]
          cases hRead : BigInt.ofText value with
          | none => simp
          | some read => simp [decode_toHex]

/-- The raw call, from what the node reads. The quantity that it answers is turned into decimal
digits. -/
theorem ask_send {call : Params → Option ClientValue} (hSend : client.send = some call)
    (hServes : client.Serves node) :
    ask client txData =
      (((valueParam txData).bind fun value => (value.map Quantity.decode).getD (some 0)).bind
        fun amount => node (asked client txData amount)).map toString := by
  have hSame : ∀ amount, asked client txData amount =
      ⟨some (ensureHexAddress txData.«from»), toParam txData, Text.present txData.data, amount⟩ := by
    simp [asked, hSend]
  have hAnswer : ∀ estimate : Option Nat,
      ((estimate.map fun gas => ClientValue.data (.str (Quantity.encode gas))).bind
        fun gasEstimate => gasEstimate.toBigInt.bind fun gas => some (toString gas)) =
          estimate.map toString := by
    intro estimate
    cases estimate with
    | none => rfl
    | some gas =>
        have hRead : (ClientValue.data (.str (Quantity.encode gas))).toBigInt = some (gas : Int) := by
          simp only [ClientValue.toBigInt, Js.text_str, Option.bind_some]
          exact Quantity.ofText_of_decode (Quantity.decode_encode gas)
        rw [Option.map_some, Option.bind_some, hRead]
        rfl
  simp only [ask, params, hSend, Option.bind_eq_bind, Option.pure_def]
  cases valueParam txData with
  | none => rfl
  | some value =>
      rw [Option.map_some, Option.bind_some, hServes.send call hSend, hAnswer, Option.bind_some]
      simp only [hSame]

/-- The call of the SDK, from the amount. -/
theorem ask_sdk (hSend : client.send = none) (hServes : client.Serves node) :
    ask client txData =
      ((amountOf txData).bind fun amount => node (asked client txData amount)).map toString := by
  have hSame : ∀ amount, asked client txData amount = ⟨none, toParam txData, txData.data, amount⟩ := by
    simp [asked, hSend]
  have hAnswer : ∀ estimate : Option Nat,
      (estimate.map fun gas : Nat => ClientValue.bigint gas).bind ClientValue.toText =
        estimate.map toString := by
    intro estimate
    cases estimate <;> rfl
  unfold ask sdkRequest amountOf
  rw [hSend]
  cases Text.present txData.value with
  | none =>
      show (client.estimateGas _).bind _ = _
      rw [hServes.estimateGas, hAnswer]
      simp [hSame]
  | some value =>
      cases hRead : BigInt.ofText value with
      | none => simp [hRead]
      | some read =>
          simp only [hRead]
          show (client.estimateGas _).bind _ = _
          rw [hServes.estimateGas, hAnswer]
          simp [hSame]

end Amounts

/-- An estimate is that of the transaction with its own amount, however the client puts it to
the node; there is none exactly if the value is no amount, if the node gives none, or if a value
that begins with `0x` and is passed on is no quantity. -/
theorem estimateGas_exact {strategies : EthereumQuickNodeProvider.Strategies}
    {networkType : NetworkType} {client : Client} {node : Node}
    (hClient : EthereumQuickNodeProvider.clientOf strategies networkType = some client)
    (hServes : client.Serves node) (txData : EthereumTransactionRequest) (text : String) :
    EthereumQuickNodeProvider.estimateGas strategies txData networkType = some text ↔
      ∃ amount gas, amountOf txData = some amount ∧ (client.send.isSome → Passable txData) ∧
        node (asked client txData amount) = some gas ∧ text = toString gas := by
  have hAsk : EthereumQuickNodeProvider.estimateGas strategies txData networkType =
      EvmQuickNodeStrategy.ask client txData := by
    obtain ⟨clients, hClients, hClient⟩ := Option.bind_eq_some_iff.mp hClient
    simp [EthereumQuickNodeProvider.estimateGas, EvmQuickNodeStrategy.getRawEstimateGas, hClients,
      hClient, EvmQuickNodeAdapter.toEstimateGas]
  rw [hAsk]
  cases hSend : client.send with
  | some call =>
      rw [ask_send hSend hServes, Option.map_eq_some_iff]
      constructor
      · rintro ⟨gas, hGas, rfl⟩
        obtain ⟨amount, hValue, hNode⟩ := Option.bind_eq_some_iff.mp hGas
        obtain ⟨hAmount, hPassable⟩ := decode_valueParam.mp hValue
        exact ⟨amount, gas, hAmount, fun _ => hPassable, hNode, rfl⟩
      · rintro ⟨amount, gas, hAmount, hPassable, hNode, rfl⟩
        have hValue := decode_valueParam.mpr ⟨hAmount, hPassable rfl⟩
        exact ⟨gas, Option.bind_eq_some_iff.mpr ⟨amount, hValue, hNode⟩, rfl⟩
  | none =>
      rw [ask_sdk hSend hServes, Option.map_eq_some_iff]
      constructor
      · rintro ⟨gas, hGas, rfl⟩
        obtain ⟨amount, hAmount, hNode⟩ := Option.bind_eq_some_iff.mp hGas
        exact ⟨amount, gas, hAmount, fun hSome => (nomatch hSome), hNode, rfl⟩
      · rintro ⟨amount, gas, hAmount, -, hNode, rfl⟩
        exact ⟨gas, Option.bind_eq_some_iff.mpr ⟨amount, hAmount, hNode⟩, rfl⟩

/-- A client of a node, with or without `send`. -/
def clientOfNode (sends : Bool) (node : Node) : Client where
  send :=
    if sends then
      some fun request => (((request.value.map Quantity.decode).getD (some 0)).bind fun amount =>
        node ⟨some request.«from», request.«to», request.data, amount⟩).map fun gas =>
          .data (.str (Quantity.encode gas))
    else none
  estimateGas := fun request => (((request.value.map natural).getD (some 0)).bind fun amount =>
    node ⟨none, request.«to», request.data, amount⟩).map fun gas : Nat => .bigint gas

theorem serves_clientOfNode (sends : Bool) (node : Node) : (clientOfNode sends node).Serves node := by
  refine ⟨?_, fun request => rfl⟩
  intro call hSend request
  cases sends with
  | false => cases hSend
  | true =>
      obtain rfl := Option.some.inj hSend
      rfl

/-- One coin for a recipient who is no contract. -/
def transfer : EthereumTransactionRequest where
  «from» := "0x742d35Cc6634C0532925a3b844Bc454e4438f44e"
  «to» := some "0x1111111111111111111111111111111111111111"
  data := none
  value := some "1000000000000000000"

theorem estimateGas_exact_transfer :
    EthereumQuickNodeProvider.estimateGas
        (fun _ => some ⟨some (clientOfNode true fun _ => some 21000), none⟩) transfer .testnet =
      some "21000" := by
  refine (estimateGas_exact rfl (serves_clientOfNode true _) transfer "21000").mpr
    ⟨10 ^ 18, 21000, by decide +kernel, fun _ value hValue hHex => ?_, rfl, by decide +kernel⟩
  obtain rfl := Option.some.inj hValue
  exact absurd hHex (by decide)

end BalanceKit.GasEstimate
