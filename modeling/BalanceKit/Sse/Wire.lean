import BalanceKit.Library.Json
import BalanceKit.Sse.Resumption

/-! Messages as the text that is sent. The live filter of a subscription parses that text
again, and so does a client. -/
namespace BalanceKit.Sse.Wire
open TransitionSystem Delivery Resumption

/-- A field that may be missing. -/
def optional {α : Type} (write : α → Js) : Option α → Js
  | some value => write value
  | none => .undefined

def metadataFields (metadata : EventMetadata) : List (String × Js) :=
  [("chain", optional .str metadata.chain),
    ("chainId", optional (fun n : Int => .num n) metadata.chainId),
    ("address", optional .str metadata.address)]

/-- The object that `formatCacheEvent` stringifies. -/
def dataFields (data : EventData) : List (String × Js) :=
  [("key", .str data.key), ("pattern", optional .str data.pattern),
    ("timestamp", .num data.timestamp),
    ("metadata", optional (fun metadata => .obj (metadataFields metadata)) data.metadata)]

def dataText (data : EventData) : String := String.ofList (Json.text (.obj (dataFields data)))

/-- `matchesSubscriptionMessage` on a parsed text. A key that is no string has no parts,
and the exception is caught. -/
def matchesParsed (eventData : Js) (subscription : AddressSubscription) : Bool :=
  match eventData.get "key" with
  | .str key => key != "" && matchesKey key subscription
  | _ => false

/-- The filter on the live source. A text that begins with a colon is a comment. -/
def acceptsText (data : String) (subscription : AddressSubscription) : Bool :=
  if data = "" ∨ data.toList.head? = some ':' then false
  else
    match Json.parse data with
    | some eventData => matchesParsed eventData subscription
    | none => false

section Reading

def readText : Js → Option String
  | .str s => some s
  | _ => none

def readInteger : Js → Option Int
  | .num q => some q.num
  | _ => none

/-- What a client reads off the metadata. -/
def readMetadata : Js → Option EventMetadata
  | .obj fields =>
      some ⟨readText ((Js.obj fields).get "chain"), readInteger ((Js.obj fields).get "chainId"),
        readText ((Js.obj fields).get "address")⟩
  | _ => none

/-- What a client reads off a message. -/
def readData (data : String) : Option EventData := do
  let parsed ← Json.parse data
  let key ← readText (parsed.get "key")
  let timestamp ← readInteger (parsed.get "timestamp")
  return ⟨key, readText (parsed.get "pattern"), timestamp.toNat,
    readMetadata (parsed.get "metadata")⟩

end Reading

/-- The numbers are exact integers, as clocks and chain ids are. -/
def Exact (data : EventData) : Prop :=
  data.timestamp < 2 ^ 53 ∧
    ∀ metadata ∈ data.metadata, ∀ chainId ∈ metadata.chainId, chainId.natAbs < 2 ^ 53

instance (data : EventData) : Decidable (Exact data) := inferInstanceAs (Decidable (_ ∧ _))

section RoundTrip
variable {data : EventData} {metadata : EventMetadata}

/-- An optional field is plain when its value is, and when it is absent. -/
theorem plain_optional {α : Type} {write : α → Js} {field : Option α}
    (h : ∀ value ∈ field, Json.Plain (write value)) : Json.Plain (optional write field) := by
  cases field with
  | none => trivial
  | some value => exact h value rfl

theorem keys_metadataFields (metadata : EventMetadata) :
    ((metadataFields metadata).map Prod.fst).Nodup := by
  simp [metadataFields]

theorem keys_dataFields (data : EventData) : ((dataFields data).map Prod.fst).Nodup := by
  simp [dataFields]

/-- The metadata of an event is plain if its chain id is an exact integer. -/
theorem plain_metadata (hExact : ∀ chainId ∈ metadata.chainId, chainId.natAbs < 2 ^ 53) :
    Json.Plain (.obj (metadataFields metadata)) :=
  ⟨keys_metadataFields metadata, plain_optional fun _ _ => trivial,
    plain_optional fun chainId hMember => ⟨chainId, rfl, hExact chainId hMember⟩,
    plain_optional fun _ _ => trivial, trivial⟩

/-- The whole data is plain if the clock is one as well. Texts are always plain. -/
theorem plain_data (hExact : Exact data) : Json.Plain (.obj (dataFields data)) :=
  ⟨keys_dataFields data, trivial, plain_optional fun _ _ => trivial,
    ⟨data.timestamp, by simp, by simpa using hExact.1⟩,
    plain_optional fun metadata hMember => plain_metadata (hExact.2 metadata hMember), trivial⟩

/-- The text of the data is parsed to its fields, without those that are absent. The order of the
fields is that in which they were written. -/
theorem parse_dataText (hExact : Exact data) :
    Json.parse (dataText data) = some (Json.clean (.obj (dataFields data))) :=
  Json.parse_stringify (plain_data hExact) rfl

section Fields
variable {fields : List (String × Js)} {key : String}

theorem readText_get (hKeys : (fields.map Prod.fst).Nodup) {field : Option String}
    (h : (Js.obj fields).get key = optional .str field) :
    readText ((Json.clean (.obj fields)).get key) = field := by
  rw [Json.get_clean hKeys, h]
  cases field <;> rfl

theorem readInteger_get (hKeys : (fields.map Prod.fst).Nodup) {field : Option Int}
    (h : (Js.obj fields).get key = optional (fun n : Int => .num n) field) :
    readInteger ((Json.clean (.obj fields)).get key) = field := by
  rw [Json.get_clean hKeys, h]
  cases field with
  | none => rfl
  | some n => exact congrArg some (Rat.num_intCast n)

theorem readMetadata_get (hKeys : (fields.map Prod.fst).Nodup) {field : Option EventMetadata}
    (h : (Js.obj fields).get key =
      optional (fun metadata => .obj (metadataFields metadata)) field) :
    readMetadata ((Json.clean (.obj fields)).get key) = field := by
  rw [Json.get_clean hKeys, h]
  cases field with
  | none => rfl
  | some metadata =>
      have hNames := keys_metadataFields metadata
      have hChain := @readText_get _ "chain" hNames metadata.chain rfl
      have hChainId := @readInteger_get _ "chainId" hNames metadata.chainId rfl
      have hAddress := @readText_get _ "address" hNames metadata.address rfl
      show readMetadata (Json.clean (.obj (metadataFields metadata))) = some metadata
      rw [Json.clean] at hChain hChainId hAddress ⊢
      rw [readMetadata, hChain, hChainId, hAddress]

end Fields

/-- A client reads the fields that were written. An absent field is read as an absent one. -/
theorem readData_dataText (hExact : Exact data) : readData (dataText data) = some data := by
  have hNames := keys_dataFields data
  have hKey := @readText_get _ "key" hNames (some data.key) rfl
  have hPattern := @readText_get _ "pattern" hNames data.pattern rfl
  have hTimestamp := @readInteger_get _ "timestamp" hNames (some (data.timestamp : Int)) (by
    simp [dataFields, Js.get, optional, List.lookup_cons])
  have hMetadata := @readMetadata_get _ "metadata" hNames data.metadata rfl
  rw [readData, parse_dataText hExact]
  simp [hKey, hPattern, hTimestamp, hMetadata]

/-- Every message is one line of text that a client reads as the fields of its event, and
different fields are different texts. -/
theorem data_roundTrip (hExact : Exact data) :
    readData (dataText data) = some data ∧ (∀ c ∈ (dataText data).toList, 32 ≤ c.toNat) ∧
      ∀ other, Exact other → dataText other = dataText data → other = data := by
  refine ⟨readData_dataText hExact, ?_, ?_⟩
  · rw [dataText, String.toList_ofList]
    exact Json.printable_text _ (plain_data hExact)
  · intro other hOther hSame
    have hRead := readData_dataText hOther
    rw [hSame, readData_dataText hExact] at hRead
    exact (Option.some.inj hRead).symm

def announcedData : EventData :=
  ⟨"portfolio:ethereum:1:0xab", some "portfolio:ethereum:1:0xab*", 1700000000000,
    some ⟨some "ethereum", some 1, some "0xab"⟩⟩

theorem data_roundTrip_announcedData :
    readData (dataText announcedData) = some announcedData ∧
      (∀ c ∈ (dataText announcedData).toList, 32 ≤ c.toNat) ∧
        ∀ other, Exact other → dataText other = dataText announcedData → other = announcedData :=
  data_roundTrip (by decide)

/-- The live filter sees what was written. A filter that reads the text and one that reads the data
agree about every event. -/
theorem acceptsText_dataText (hExact : Exact data) (subscription : AddressSubscription) :
    acceptsText (dataText data) subscription = matchesSubscriptionMessage data subscription := by
  have hBegins : ¬ (dataText data = "" ∨ (dataText data).toList.head? = some ':') := by
    rw [dataText, Json.text, String.toList_ofList, List.head?_cons, ← String.toList_eq_nil_iff,
      String.toList_ofList]
    simp
  have hGet : (Json.clean (.obj (dataFields data))).get "key" = .str data.key :=
    Json.get_clean (keys_dataFields data) "key"
  rw [acceptsText, if_neg hBegins, parse_dataText hExact]
  simp only [matchesParsed, hGet, matchesSubscriptionMessage]

end RoundTrip

/-- A message as it is sent. -/
structure SentEvent where
  id : String
  data : String
  deriving DecidableEq

def sent (m : MessageEvent) : SentEvent := ⟨m.id, dataText m.data⟩

/-- The filter of a stream, on the text. -/
def acceptsSent (stream : Stream) (m : SentEvent) : Bool :=
  match stream.subscription with
  | some subscription => acceptsText m.data subscription
  | none => true

/-- The filter on the texts decides about a message as the filter on the data does, because it
reads the same key. -/
theorem acceptsSent_sent (stream : Stream) {m : MessageEvent} (hExact : Exact m.data) :
    acceptsSent stream (sent m) = stream.accepts m := by
  unfold acceptsSent Stream.accepts
  cases stream.subscription with
  | none => rfl
  | some subscription => exact acceptsText_dataText hExact subscription

/-- So filtering the texts of a stretch of events is sending the texts of the filtered stretch. -/
theorem sent_heard (stream : Stream) {events : List CacheInvalidateEvent}
    (hExact : ∀ e ∈ events, Exact (formatCacheEvent e).data) :
    (heard stream events).map sent =
      (events.map fun e => sent (formatCacheEvent e)).filter (acceptsSent stream) := by
  induction events with
  | nil => rfl
  | cons e rest ih =>
      have hRest := ih fun d hd => hExact d (List.mem_cons_of_mem e hd)
      have hFirst := acceptsSent_sent stream (hExact e List.mem_cons_self)
      rw [heard, List.map_cons, List.filter_cons, List.map_cons, List.filter_cons, hFirst, ← hRest]
      split <;> rfl

/-- What a stream sends is its replay, and then those texts of one stretch of the
publications that pass its filter when they are parsed. -/
theorem follows_texts {before rest : List Action} {s u t : State} {i : Nat}
    (hBefore : run step State.init before = some s) (hSubscribe : step s (.subscribe i) = some u)
    (hRun : run step u rest = some t)
    (hExact : ∀ e ∈ t.published, Exact (formatCacheEvent e).data) :
    ∃ stream later first last, s.streams[i]? = some stream ∧ t.streams[i]? = some later ∧
      later.subscription = stream.subscription ∧
      (first = s.published.length ∨ s.shared.isSome ∧ first + 1 = s.published.length) ∧
      (later.phase = .connected → last = t.published.length) ∧
      later.emitted.map sent = stream.replayEvents.map sent ++
        ((stretch t.published first last).map fun e => sent (formatCacheEvent e)).filter
          (acceptsSent later) := by
  obtain ⟨stream, later, first, last, hStream, hLater, hStays, hFollows, -, hFirst⟩ :=
    follows_since_subscribe hBefore hSubscribe hRun
  have hStretch : ∀ e ∈ stretch t.published first last, Exact (formatCacheEvent e).data :=
    fun e he => hExact e (List.mem_of_mem_take (List.mem_of_mem_drop he))
  refine ⟨stream, later, first, last, hStream, hLater, hStays.2.1, hFirst, hFollows.current, ?_⟩
  rw [hFollows.emitted, List.map_append, sent_heard later hStretch]

/-- A client that follows one address, and events about two. -/
def filteredRun : List Action :=
  [.publishCacheInvalidation (publication "0xab" "1"),
    .publishCacheInvalidation (publication "0xcd" "2")]

/-- A client subscribes to one address, and is sent the text of the one event that concerns it. -/
theorem follows_texts_filteredRun : ∃ s u t stream later first last,
    run step State.init [.openStream "0" (some ⟨none, none, some "0xab", none⟩) none] = some s ∧
      step s (.subscribe 0) = some u ∧ run step u filteredRun = some t ∧
        s.streams[0]? = some stream ∧ t.streams[0]? = some later ∧
          later.subscription = stream.subscription ∧
          (first = s.published.length ∨ s.shared.isSome ∧ first + 1 = s.published.length) ∧
          (later.phase = .connected → last = t.published.length) ∧
          later.emitted.map sent = stream.replayEvents.map sent ++
            ((stretch t.published first last).map fun e => sent (formatCacheEvent e)).filter
              (acceptsSent later) := by
  obtain ⟨stream, later, first, last, hFollows⟩ :=
    @follows_texts [.openStream "0" (some ⟨none, none, some "0xab", none⟩) none] filteredRun
      _ _ _ 0 rfl rfl rfl (by decide)
  exact ⟨_, _, _, stream, later, first, last, rfl, rfl, rfl, hFollows⟩

end BalanceKit.Sse.Wire
