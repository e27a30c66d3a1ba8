import BalanceKit.Library.Throttle
import BalanceKit.Webhook.ChainUpdate

/-! The two listeners of `PORTFOLIO_REDIS_UPDATED`, with every call that may fail. Both record
the time of an update before its first call, so what they skip is decided by the order in which
the events get there. -/
namespace BalanceKit.ThrottledUpdates

/-- `PortfolioMongoListener` of `core/cache` and of `core/portfolio`. -/
inductive Listener where
  | cache | portfolio
  deriving DecidableEq

/-- An event, the snapshots that its queries read, and how the calls end: the save, the two
queries, `updateWebhookAddresses` with `none` for an exception, and the two mark steps. -/
structure Event where
  chain : ChainName
  address : String
  now : Nat
  docs : List PortfolioSnapshot
  saved : Bool
  firstAnswers : Bool
  secondAnswers : Bool
  success : Option Bool
  marks : Bool
  unmarks : Bool

section Updates
variable (e : Event)

def isAddressActive : Bool :=
  e.docs.any fun d => ChainUpdate.onChain e.chain d && d.address == e.address &&
    decide (e.now < d.expiresAt)

def isAddressMonitored : Bool :=
  e.docs.any fun d => ChainUpdate.onChain e.chain d && d.address == e.address && d.webhookMonitored

/-- A query that fails is answered with no addresses. -/
def getActiveAddresses : List String :=
  if e.firstAnswers then ChainUpdate.getActiveAddresses e.docs e.chain e.now else []

def getExpiredAddresses : List String :=
  if e.secondAnswers then ChainUpdate.getExpiredAddresses e.docs e.chain e.now else []

/-- A mark step that fails is logged. -/
def markAddressesAsMonitored (addresses : List String) (docs : List PortfolioSnapshot) :
    List PortfolioSnapshot :=
  if e.marks then ChainUpdate.markAddressesAsMonitored docs e.chain addresses else docs

def unmarkExpiredAddresses (addresses : List String) (docs : List PortfolioSnapshot) :
    List PortfolioSnapshot :=
  if e.unmarks then ChainUpdate.unmarkExpiredAddresses docs e.chain addresses else docs

/-- The update of a whole chain, which is the same in both listeners. -/
def updateChain : ChainUpdate.Result :=
  let activeAddresses := getActiveAddresses e
  let expiredAddresses := getExpiredAddresses e
  if activeAddresses = [] ∧ expiredAddresses = [] then ⟨none, e.docs⟩
  else if e.success = some true then
    let marked :=
      if activeAddresses = [] then e.docs else markAddressesAsMonitored e activeAddresses e.docs
    ⟨some (activeAddresses, expiredAddresses),
      if expiredAddresses = [] then marked else unmarkExpiredAddresses e expiredAddresses marked⟩
  else ⟨some (activeAddresses, expiredAddresses), e.docs⟩

/-- The update of one address. A query that fails ends it. -/
def updateAddress : ChainUpdate.Result :=
  if !(e.firstAnswers && e.secondAnswers) then ⟨none, e.docs⟩
  else if isAddressActive e && !isAddressMonitored e then
    ⟨some ([e.address], []),
      if e.success = some true then markAddressesAsMonitored e [e.address] e.docs else e.docs⟩
  else if !isAddressActive e && isAddressMonitored e then
    ⟨some ([], [e.address]),
      if e.success = some true then unmarkExpiredAddresses e [e.address] e.docs else e.docs⟩
  else ⟨none, e.docs⟩

end Updates

namespace Listener
variable (listener : Listener) (e : Event)

def processKey : String :=
  match listener with
  | cache => e.chain.value
  | portfolio => if e.address = "" then e.chain.value else e.chain.value ++ ":" ++ e.address

/-- One listener saves the portfolio before it looks at the times. -/
def reaches : Bool :=
  match listener with
  | cache => true
  | portfolio => e.saved

def update : ChainUpdate.Result :=
  match listener with
  | cache => updateChain e
  | portfolio => if e.address = "" then updateChain e else updateAddress e

/-- What became of an event. -/
structure Handled where
  attempted : Bool
  result : ChainUpdate.Result

/-- `processed` is the map from keys to the times of their last updates. -/
def handle (processed : String → Option Nat) : Handled × (String → Option Nat) :=
  if !listener.reaches e then (⟨false, none, e.docs⟩, processed)
  else
    let key := listener.processKey e
    match Text.nonzero (processed key) with
    | some lastProcessTime =>
        if e.now - lastProcessTime < ChainUpdate.processInterval then
          (⟨false, none, e.docs⟩, processed)
        else (⟨true, listener.update e⟩, Function.update processed key (some e.now))
    | none => (⟨true, listener.update e⟩, Function.update processed key (some e.now))

def run (processed : String → Option Nat) : List Event → List (Event × Handled)
  | [] => []
  | e :: rest => (e, (listener.handle e processed).1) :: run (listener.handle e processed).2 rest

/-- The time of the last update for the key. -/
def lastAttempt (key : String) (initial : Option Nat) : List (Event × Handled) → Option Nat
  | [] => initial
  | (e, handled) :: rest =>
      lastAttempt key
        (if handled.attempted && decide (listener.processKey e = key) then some e.now else initial)
        rest

end Listener

/-- The address of the event has an unexpired snapshot, and is not flagged. -/
def Ready (e : Event) : Prop :=
  ChainUpdate.Active e.docs e.chain e.now e.address ∧
    ∀ d ∈ e.docs, d.chain = e.chain → d.address = e.address → d.webhookMonitored = false

/-- A subscription of the address of the event is attempted. -/
def Subscribes (record : Event × Listener.Handled) : Prop :=
  ∃ lists, record.2.result.passed = some lists ∧ record.1.address ∈ lists.1

/-- All the calls for an event end well. -/
def EndsWell (e : Event) : Prop :=
  e.saved = true ∧ e.firstAnswers = true ∧ e.secondAnswers = true ∧ e.success = some true

/-- An event whose address is ready leads to a subscription if the last update for its key was
called and did not succeed. -/
def RetriesFailures (listener : Listener) (events : List Event) : Prop :=
  ∀ before failed between record rest,
    listener.run (fun _ => none) events = before ++ failed :: between ++ record :: rest →
      failed.2.result.passed ≠ none → failed.1.success ≠ some true →
        listener.processKey failed.1 = listener.processKey record.1 →
          (∀ other ∈ between, other.2.attempted = true →
            listener.processKey other.1 ≠ listener.processKey record.1) →
            Ready record.1 → EndsWell record.1 → Subscribes record

/-- Updates are throttled by key, whatever became of the earlier ones. -/
structure Throttled (listener : Listener) (events : List Event) : Prop where
  /-- An event leads to an update if the last one for its key was long enough ago. -/
  attempted : ∀ before e handled rest,
    listener.run (fun _ => none) events = before ++ (e, handled) :: rest →
      (handled.attempted = true ↔ listener.reaches e = true ∧
        ∀ t, listener.lastAttempt (listener.processKey e) none before = some t →
          t = 0 ∨ ChainUpdate.processInterval ≤ e.now - t)
  /-- An update for a ready address tries to subscribe it, if the queries are answered. -/
  subscribes : ∀ record ∈ listener.run (fun _ => none) events, record.2.attempted = true →
    record.1.firstAnswers = true → (listener = .portfolio → record.1.secondAnswers = true) →
      Ready record.1 → Subscribes record
  /-- Without an update nothing is called. -/
  skips : ∀ record ∈ listener.run (fun _ => none) events, record.2.attempted = false →
    record.2.result = ⟨none, record.1.docs⟩
  /-- The snapshots, and how the calls end, make no difference to which events lead to one. -/
  whatever : ∀ other, events.map (fun e => (listener.reaches e, listener.processKey e, e.now)) =
      other.map (fun e => (listener.reaches e, listener.processKey e, e.now)) →
    (listener.run (fun _ => none) events).map (fun record => record.2.attempted) =
      (listener.run (fun _ => none) other).map fun record => record.2.attempted

section Updates
variable {e : Event}

/-- The listener of one address asks what the queries of the chain ask, for that address. -/
theorem isAddressActive_iff :
    isAddressActive e = true ↔ ChainUpdate.Active e.docs e.chain e.now e.address := by
  simp [isAddressActive, ChainUpdate.Active, ChainUpdate.onChain, and_assoc]

theorem isAddressMonitored_iff :
    isAddressMonitored e = true ↔
      ∃ d ∈ e.docs, d.chain = e.chain ∧ d.address = e.address ∧ d.webhookMonitored = true := by
  simp [isAddressMonitored, ChainUpdate.onChain, and_assoc]

/-- When all the calls end well, the update is the one that was modelled before. -/
theorem updateChain_of_endsWell (h : EndsWell e) (hMarks : e.marks = true)
    (hUnmarks : e.unmarks = true) :
    updateChain e =
      ChainUpdate.handlePortfolioRedisUpdate.update e.docs e.chain e.now true := by
  obtain ⟨-, hFirst, hSecond, hSuccess⟩ := h
  have hNone : ∀ docs : List PortfolioSnapshot,
      ChainUpdate.unmarkExpiredAddresses docs e.chain [] = docs ∧
        ChainUpdate.markAddressesAsMonitored docs e.chain [] = docs := by
    intro docs
    have hSame : ∀ flag, docs.map (ChainUpdate.setMonitored e.chain [] flag) = docs := by
      intro flag
      have hEach : ∀ d ∈ docs, ChainUpdate.setMonitored e.chain [] flag d = id d := by
        simp [ChainUpdate.setMonitored]
      rw [List.map_congr_left hEach, List.map_id]
    exact ⟨hSame false, hSame true⟩
  simp only [updateChain, getActiveAddresses, getExpiredAddresses, hFirst, hSecond, if_true,
    hSuccess, markAddressesAsMonitored, unmarkExpiredAddresses, hMarks, hUnmarks,
    ChainUpdate.handlePortfolioRedisUpdate.update]
  by_cases hIdle : ChainUpdate.getActiveAddresses e.docs e.chain e.now = [] ∧
      ChainUpdate.getExpiredAddresses e.docs e.chain e.now = []
  · rw [if_pos hIdle, if_pos hIdle]
  · rw [if_neg hIdle, if_neg hIdle]
    by_cases hActive : ChainUpdate.getActiveAddresses e.docs e.chain e.now = []
    · by_cases hExpired : ChainUpdate.getExpiredAddresses e.docs e.chain e.now = []
      · exact absurd ⟨hActive, hExpired⟩ hIdle
      · simp [hActive, hExpired, hNone]
    · by_cases hExpired : ChainUpdate.getExpiredAddresses e.docs e.chain e.now = []
      · simp [hActive, hExpired, hNone]
      · simp [hActive, hExpired]

/-- A ready address is among those that a chain update adds. -/
theorem updateChain_subscribes (hReady : Ready e) (hFirst : e.firstAnswers = true) :
    ∃ lists, (updateChain e).passed = some lists ∧ e.address ∈ lists.1 := by
  obtain ⟨⟨d, hd, hChain, hAddress, hLive⟩, hUnflagged⟩ := hReady
  have hMember : e.address ∈ getActiveAddresses e := by
    rw [getActiveAddresses, if_pos hFirst, ChainUpdate.mem_getActiveAddresses]
    exact ⟨d, hd, hAddress, ChainUpdate.toActivate_iff.mpr
      ⟨hChain, hLive, hUnflagged d hd hChain hAddress⟩⟩
  refine ⟨(getActiveAddresses e, getExpiredAddresses e), ?_, hMember⟩
  have hSome : ¬ (getActiveAddresses e = [] ∧ getExpiredAddresses e = []) := by
    rintro ⟨hNone, -⟩
    rw [hNone] at hMember
    cases hMember
  unfold updateChain
  rw [if_neg hSome]
  by_cases hSuccess : e.success = some true
  · rw [if_pos hSuccess]
  · rw [if_neg hSuccess]

/-- An address that is active and not flagged is subscribed, if the calls are answered. -/
theorem updateAddress_subscribes (hReady : Ready e) (hFirst : e.firstAnswers = true)
    (hSecond : e.secondAnswers = true) :
    ∃ lists, (updateAddress e).passed = some lists ∧ e.address ∈ lists.1 := by
  obtain ⟨hActive, hUnflagged⟩ := hReady
  have hMonitored : isAddressMonitored e = false := by
    rw [← Bool.not_eq_true, isAddressMonitored_iff]
    rintro ⟨d, hd, hChain, hAddress, hFlag⟩
    rw [hUnflagged d hd hChain hAddress] at hFlag
    cases hFlag
  refine ⟨([e.address], []), ?_, List.mem_singleton.mpr rfl⟩
  simp [updateAddress, hFirst, hSecond, isAddressActive_iff.mpr hActive, hMonitored]

end Updates

namespace Listener
variable {listener : Listener} {processed : String → Option Nat} {e : Event}

/-- The listener as a user of a throttle. -/
def policy (listener : Listener) : Throttle.Policy Event String where
  interval := ChainUpdate.processInterval
  reaches := listener.reaches
  key := listener.processKey
  time := Event.now

/-- The keys of two events are equal where the listener works for the same thing. -/
theorem processKey_eq_iff {a b : Event} : listener.processKey a = listener.processKey b ↔
    a.chain = b.chain ∧ (listener = .portfolio → a.address = b.address) := by
  have hName : ∀ c d : ChainName, c.value = d.value ↔ c = d := fun c d =>
    ⟨ChainName.value_injective, congrArg ChainName.value⟩
  have hLonger : ∀ (c d : ChainName) (address : String), c.value ≠ d.value ++ ":" ++ address := by
    intro c d address hEqual
    apply c.colon_not_mem_value
    rw [hEqual]
    simp
  cases listener with
  | cache => simp [processKey, hName]
  | portfolio =>
      rw [forall_prop_of_true rfl]
      unfold processKey
      by_cases hA : a.address = ""
      · by_cases hB : b.address = ""
        · simp [hA, hB, hName]
        · simp [hA, hB, hLonger, Ne.symm hB]
      · by_cases hB : b.address = ""
        · simp [hA, hB, (hLonger _ _ _).symm]
        · rw [if_neg hA, if_neg hB]
          constructor
          · intro hEqual
            have hTexts := congrArg String.toList hEqual
            simp only [String.toList_append, List.append_assoc] at hTexts
            obtain ⟨hChains, hAddresses⟩ := Text.append_delimiter_inj a.chain.colon_not_mem_value
              b.chain.colon_not_mem_value hTexts
            exact ⟨(hName _ _).mp (String.toList_inj.mp hChains), String.toList_inj.mp hAddresses⟩
          · rintro ⟨hChain, hAddress⟩
            rw [hChain, hAddress]

/-- The listener in terms of its throttle: what it decides, and what it does after that. -/
theorem handle_eq (listener : Listener) (e : Event) (processed : String → Option Nat) :
    listener.handle e processed =
      let decided := Throttle.step listener.policy processed e
      (⟨decided.1, if decided.1 then listener.update e else ⟨none, e.docs⟩⟩, decided.2) := by
  unfold handle Throttle.step Throttle.due
  cases hReaches : listener.reaches e with
  | false => simp [policy, hReaches]
  | true =>
      simp only [policy, hReaches, Bool.not_true, Bool.false_eq_true, if_false, Bool.true_and]
      cases Text.nonzero (processed (listener.processKey e)) with
      | none => rfl
      | some lastProcessTime =>
          by_cases hRecent : e.now - lastProcessTime < ChainUpdate.processInterval
          · simp [hRecent]
          · simp [hRecent]

theorem run_eq_attempts (listener : Listener) (processed : String → Option Nat)
    (events : List Event) :
    (listener.run processed events).map (fun record => (record.1, record.2.attempted)) =
      Throttle.attempts listener.policy processed events := by
  induction events generalizing processed with
  | nil => rfl
  | cons e rest ih =>
      rw [run, List.map_cons, ih, handle_eq]
      rfl

/-- The time that it keeps for a key is that of the last attempt for it. -/
theorem lastAttempt_eq (key : String) (initial : Option Nat) (records : List (Event × Handled)) :
    listener.lastAttempt key initial records =
      Throttle.lastAttempt listener.policy key initial
        (records.map fun record => (record.1, record.2.attempted)) := by
  induction records generalizing initial with
  | nil => rfl
  | cons record rest ih => exact ih _

/-- Every record is that of one event. -/
theorem result_of_mem_run {events : List Event} {record : Event × Handled}
    (h : record ∈ listener.run processed events) :
    record.2.result =
      if record.2.attempted then listener.update record.1 else ⟨none, record.1.docs⟩ := by
  induction events generalizing processed with
  | nil => cases h
  | cons e rest ih =>
      rcases List.mem_cons.mp h with rfl | hRest
      · rw [handle_eq]
      · exact ih hRest

end Listener

/-- Both listeners throttle the updates that they begin, and not only those that succeed. -/
theorem updates_throttled (listener : Listener) (events : List Event) :
    Throttled listener events := by
  constructor
  case attempted =>
    intro before e handled rest hRun
    have hAttempts := listener.run_eq_attempts (fun _ => none) events
    rw [hRun, List.map_append, List.map_cons] at hAttempts
    rw [Throttle.attempted_iff hAttempts.symm, Throttle.due_iff, Listener.lastAttempt_eq]
    rfl
  case subscribes =>
    intro record hRecord hAttempted hFirst hSecond hReady
    unfold Subscribes
    rw [Listener.result_of_mem_run hRecord, hAttempted, if_pos rfl]
    cases listener with
    | cache => exact updateChain_subscribes hReady hFirst
    | portfolio =>
        rw [Listener.update]
        by_cases hAddress : record.1.address = ""
        · rw [if_pos hAddress]
          exact updateChain_subscribes hReady hFirst
        · rw [if_neg hAddress]
          exact updateAddress_subscribes hReady hFirst (hSecond rfl)
  case skips =>
    intro record hRecord hSkipped
    rw [Listener.result_of_mem_run hRecord, hSkipped]
    rfl
  case whatever =>
    intro other hSame
    have hDecided :=
      @Throttle.attempts_congr _ _ _ listener.policy (fun _ => none) other events hSame
    rw [← Listener.run_eq_attempts, ← Listener.run_eq_attempts, List.map_map, List.map_map]
      at hDecided
    exact hDecided

/-- An unflagged snapshot, whose update ends as given. -/
def walletEvent (now : Nat) (success : Option Bool) : Event where
  chain := .ethereum
  address := "0xab"
  now := now
  docs := [⟨.ethereum, 1, "0xab", some "alchemy", .undefined, false, 2000000000⟩]
  saved := true
  firstAnswers := true
  secondAnswers := true
  success := success
  marks := true
  unmarks := true

/-- A second event right after an update that failed. -/
def secondAfterFailure : List Event :=
  [walletEvent 1000000000 (some false), walletEvent 1000001000 (some true)]

/-- Neither listener tries again one second after a failure. -/
theorem not_retriesFailures_second :
    ¬ RetriesFailures .cache secondAfterFailure ∧
      ¬ RetriesFailures .portfolio secondAfterFailure := by
  have hReady : Ready (walletEvent 1000001000 (some true)) := by
    refine ⟨⟨_, List.mem_singleton.mpr rfl, rfl, rfl, by decide⟩, ?_⟩
    intro d hd _ _
    rw [List.mem_singleton.mp hd]
  have hWell : EndsWell (walletEvent 1000001000 (some true)) := ⟨rfl, rfl, rfl, rfl⟩
  constructor
  · intro hRetries
    obtain ⟨lists, hPassed, -⟩ :=
      hRetries [] _ [] _ [] rfl nofun (by decide) rfl (by simp) hReady hWell
    cases hPassed
  · intro hRetries
    obtain ⟨lists, hPassed, -⟩ :=
      hRetries [] _ [] _ [] rfl nofun (by decide) rfl (by simp) hReady hWell
    cases hPassed

end BalanceKit.ThrottledUpdates
