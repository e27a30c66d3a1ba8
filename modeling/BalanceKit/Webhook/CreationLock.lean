import BalanceKit.Library.Runs
import BalanceKit.Webhook.Events

/-! Concurrent runs of `createNewWebhook` for one chain. The lock is read, then
written with an expiry, and deleted at the end by whoever gets there. -/
namespace BalanceKit.CreationLock
open TransitionSystem WebhookManagementService

/-- The configuration that the processes share. -/
structure Service where
  chain : ChainName
  alchemyApiKey : String
  webhookUrl : String
  hasClient : Bool
  deriving DecidableEq

def Service.configured (svc : Service) : Bool :=
  svc.alchemyApiKey != "" && svc.webhookUrl != "" && svc.hasClient

/-- A remote call takes effect and answers, takes effect and fails, or only fails. -/
inductive Outcome where
  | answered | lost | failed
  deriving DecidableEq

def Outcome.applied : Outcome → Bool
  | .answered => true
  | .lost => true
  | .failed => false

/-- The await at which a run is. `deleting` is the `finally` block and `releasing`
the outer `catch`. -/
inductive Run where
  | getting | setting | listing | creating
  | deleting (result : Option String)
  | releasing
  | finished (result : Option String)
  deriving DecidableEq

/-- Between writing the lock and deleting it. -/
def Run.holding : Run → Bool
  | .listing => true
  | .creating => true
  | .deleting _ => true
  | _ => false

structure Lock where
  owner : Nat
  expiresAt : Nat

/-- The clock is in milliseconds. `stolen` pairs a run that deleted a live lock
with another run that held it. -/
structure State where
  clock : Nat
  lock : Option Lock
  webhooks : List AlchemyWebhookResponse
  runs : List Run
  stolen : List (Nat × Nat)

def State.init (webhooks : List AlchemyWebhookResponse) : State := ⟨0, none, webhooks, [], []⟩

def lockTtl : Nat := 30000

namespace State
variable (s : State)

def liveLock : Option Lock := s.lock.filter fun lock => decide (s.clock < lock.expiresAt)

def holds (i : Nat) : Bool := s.runs[i]?.any Run.holding

def move (i : Nat) (r : Run) : State := { s with runs := s.runs.set i r }

def spawn : State := { s with runs := s.runs ++ [.getting] }

def setLock (i : Nat) (outcome : Outcome) : State :=
  if outcome.applied then { s with lock := some ⟨i, s.clock + lockTtl⟩ } else s

/-- The deletion is unconditional. -/
def deleteLock (i : Nat) (outcome : Outcome) : State :=
  if outcome.applied then
    { s with
      lock := none
      stolen := s.stolen ++ (s.liveLock.toList.filter fun lock =>
        lock.owner != i && s.holds lock.owner).map fun lock => (i, lock.owner) }
  else s

def addWebhook (webhook : AlchemyWebhookResponse) (outcome : Outcome) : State :=
  if outcome.applied then { s with webhooks := s.webhooks ++ [webhook] } else s

end State

inductive Action where
  | tick (elapsed : Nat)
  | createNewWebhook
  | get (i : Nat) (answered : Bool)
  | set (i : Nat) (outcome : Outcome)
  | list (i : Nat)
  | createWebhook (i : Nat) (webhook : AlchemyWebhookResponse) (outcome : Outcome)
  | delete (i : Nat) (outcome : Outcome)
  | release (i : Nat) (outcome : Outcome)

variable (svc : Service)

/-- A listing sees every completed creation, and Alchemy gives each webhook an id. -/
def step (s : State) : Action → Option State
  | .tick elapsed => some { s with clock := s.clock + elapsed }
  | .createNewWebhook => some s.spawn
  | .get i answered =>
      match s.runs[i]? with
      | some .getting =>
          if answered then
            some (s.move i (if s.liveLock.isSome then .finished none else .setting))
          else some (s.move i .releasing)
      | _ => none
  | .set i outcome =>
      match s.runs[i]? with
      | some .setting =>
          some ((s.setLock i outcome).move i
            (if outcome = .answered then
              if svc.configured then .listing else .deleting none
            else .releasing))
      | _ => none
  | .list i =>
      match s.runs[i]? with
      | some .listing =>
          match Text.present (getExistingWebhookIdForChain svc.webhookUrl svc.chain s.webhooks) with
          | some existingId => some (s.move i (.deleting (some existingId)))
          | none => some (s.move i .creating)
      | _ => none
  | .createWebhook i webhook outcome =>
      match s.runs[i]? with
      | some .creating =>
          if webhook.id = "" then none
          else some ((s.addWebhook webhook outcome).move i
            (.deleting (if outcome = .answered then some webhook.id else none)))
      | _ => none
  | .delete i outcome =>
      match s.runs[i]? with
      | some (.deleting result) =>
          some ((s.deleteLock i outcome).move i
            (if outcome = .answered then .finished result else .releasing))
      | _ => none
  | .release i outcome =>
      match s.runs[i]? with
      | some .releasing => some ((s.deleteLock i outcome).move i (.finished none))
      | _ => none

/-- The webhooks that serve the chain at the configured address. -/
def State.matching (s : State) : List AlchemyWebhookResponse :=
  s.webhooks.filter (matchesChain svc.webhookUrl svc.chain)

/-- At most one webhook, and no lock deleted under its holder. -/
def Safe (s : State) : Prop := (s.matching svc).length ≤ 1 ∧ s.stolen = []

/-- No other run is between writing the lock and deleting it. -/
def Alone (s : State) (i : Nat) : Prop := ∀ j < s.runs.length, j ≠ i → s.holds j = false

/-- The lock is written, and deleted after an error, only when no other run holds
it. -/
def stepOk (s : State) : Action → Prop
  | .set i outcome => outcome.applied → Alone s i
  | .release i outcome => outcome.applied → Alone s i
  | _ => True

instance (s : State) (i : Nat) : Decidable (Alone s i) :=
  inferInstanceAs (Decidable (∀ j < s.runs.length, j ≠ i → s.holds j = false))

instance (s : State) (a : Action) : Decidable (stepOk s a) :=
  match a with
  | .set i outcome => inferInstanceAs (Decidable (outcome.applied → Alone s i))
  | .release i outcome => inferInstanceAs (Decidable (outcome.applied → Alone s i))
  | .tick _ | .createNewWebhook | .get _ _ | .list _ | .createWebhook _ _ _ | .delete _ _ =>
      .isTrue trivial

instance (s : State) : Decidable (Safe svc s) := inferInstanceAs (Decidable (_ ∧ _))

/-- One holder at a time; it creates only where nothing matches. -/
structure Inv (s : State) : Prop where
  exclusive : ∀ i j, s.holds i → s.holds j → i = j
  needed : .creating ∈ s.runs → s.matching svc = []
  named : ∀ webhook ∈ s.matching svc, webhook.id ≠ ""
  safe : Safe svc s

variable {svc}

/-- Where no webhook matches at first, none needs a name and nothing is held. -/
theorem Inv.init {webhooks : List AlchemyWebhookResponse}
    (hNone : webhooks.filter (matchesChain svc.webhookUrl svc.chain) = []) :
    Inv svc (State.init webhooks) := by
  have hMatching : (State.init webhooks).matching svc = [] := hNone
  refine ⟨by simp [State.init, State.holds], fun _ => hMatching, ?_, ?_, rfl⟩
  · simp [hMatching]
  · simp [hMatching]

section Holders
variable {s : State} {i j : Nat} {r : Run}

theorem holds_iff : s.holds i ↔ ∃ r, s.runs[i]? = some r ∧ r.holding := by
  unfold State.holds
  cases s.runs[i]? <;> simp

theorem lt_of_holds (h : s.holds j) : j < s.runs.length := by
  obtain ⟨r, hRun, -⟩ := holds_iff.mp h
  exact (List.getElem?_eq_some_iff.mp hRun).1

theorem holds_move (h : (s.move i r).holds j) : j = i ∧ r.holding ∨ j ≠ i ∧ s.holds j := by
  obtain ⟨q, hRun, hHolding⟩ := holds_iff.mp h
  rcases ProcessTable.getElem?_set_cases hRun with ⟨hSame, rfl⟩ | ⟨hOther, hOld⟩
  · exact .inl ⟨hSame, hHolding⟩
  · exact .inr ⟨hOther, holds_iff.mpr ⟨q, hOld, hHolding⟩⟩

theorem holds_of_spawn (h : s.spawn.holds j) : s.holds j := by
  obtain ⟨q, hRun, hHolding⟩ := holds_iff.mp h
  rcases ProcessTable.getElem?_spawn_cases hRun with ⟨-, rfl⟩ | hOld
  · cases hHolding
  · exact holds_iff.mpr ⟨q, hOld, hHolding⟩

theorem Alone.setLock {outcome : Outcome} (h : Alone s i) : Alone (s.setLock i outcome) i := by
  unfold State.setLock
  split
  · exact h
  · exact h

/-- The holder is still the only one after a move by the holder, by a run that
does not hold the lock afterwards, or by one that is alone. -/
theorem exclusive_move (hExclusive : ∀ i j, s.holds i → s.holds j → i = j)
    (hMove : r.holding → s.holds i ∨ Alone s i) (j k : Nat) (hj : (s.move i r).holds j)
    (hk : (s.move i r).holds k) : j = k := by
  have hOther : ∀ j, s.holds j → r.holding → j = i := by
    intro j hHolds hHolding
    by_contra hNot
    rcases hMove hHolding with hOwn | hAlone
    · exact hNot (hExclusive j i hHolds hOwn)
    · simp [hAlone j (lt_of_holds hHolds) hNot] at hHolds
  rcases holds_move hj with ⟨hSame, hHolding⟩ | ⟨-, hj⟩
  · rcases holds_move hk with ⟨hSame', -⟩ | ⟨-, hk⟩
    · exact hSame.trans hSame'.symm
    · exact hSame.trans (hOther k hk hHolding).symm
  · rcases holds_move hk with ⟨hSame, hHolding⟩ | ⟨-, hk⟩
    · exact (hOther j hj hHolding).trans hSame.symm
    · exact hExclusive j k hj hk

end Holders

section Steps
variable {s : State} {i : Nat} {outcome : Outcome}

/-- Moving one run changes neither the webhooks nor what was deleted. -/
theorem Inv.move (hInv : Inv svc s) {r : Run} (hMove : r.holding → s.holds i ∨ Alone s i)
    (hNeeded : r = .creating → s.matching svc = []) : Inv svc (s.move i r) := by
  refine ⟨exclusive_move hInv.exclusive hMove, fun hCreating => ?_, hInv.named, hInv.safe⟩
  rcases List.mem_or_eq_of_mem_set hCreating with hOld | hNew
  · exact hInv.needed hOld
  · exact hNeeded hNew.symm

theorem Inv.setLock (hInv : Inv svc s) : Inv svc (s.setLock i outcome) := by
  unfold State.setLock
  split
  · exact ⟨hInv.exclusive, hInv.needed, hInv.named, hInv.safe⟩
  · exact hInv

/-- Nothing is stolen by the holder or by a run that is alone. -/
theorem Inv.deleteLock (hInv : Inv svc s) (hMine : outcome.applied → s.holds i ∨ Alone s i) :
    Inv svc (s.deleteLock i outcome) := by
  unfold State.deleteLock
  split
  · rename_i hApplied
    refine ⟨hInv.exclusive, hInv.needed, hInv.named, hInv.safe.1, ?_⟩
    have hNone : (s.liveLock.toList.filter fun lock =>
        lock.owner != i && s.holds lock.owner) = [] := by
      refine List.filter_eq_nil_iff.mpr fun lock _ hStolen => ?_
      simp only [Bool.and_eq_true, bne_iff_ne] at hStolen
      rcases hMine hApplied with hHolds | hAlone
      · exact hStolen.1 (hInv.exclusive _ _ hStolen.2 hHolds)
      · simp [hAlone _ (lt_of_holds hStolen.2) hStolen.1] at hStolen
    simp only [hNone, hInv.safe.2, List.map_nil, List.append_nil]
  · exact hInv

/-- A creation by the holder, which saw that nothing matches. After it something matches, so no
later run creates another one. -/
theorem Inv.create (hInv : Inv svc s) (hCreating : s.runs[i]? = some .creating)
    {webhook : AlchemyWebhookResponse} (hNamed : webhook.id ≠ "") {result : Option String} :
    Inv svc ((s.addWebhook webhook outcome).move i (.deleting result)) := by
  have hNone := hInv.needed (List.mem_of_getElem? hCreating)
  have hHolds : s.holds i := holds_iff.mpr ⟨_, hCreating, rfl⟩
  have hOthers : .creating ∉ s.runs.set i (.deleting result) := by
    intro hStill
    obtain ⟨j, hj⟩ := List.mem_iff_getElem?.mp hStill
    rcases ProcessTable.getElem?_set_cases hj with ⟨-, hNew⟩ | ⟨hOther, hOld⟩
    · cases hNew
    · exact hOther (hInv.exclusive j i (holds_iff.mpr ⟨_, hOld, rfl⟩) hHolds)
  have hMoved := @exclusive_move s i (.deleting result) hInv.exclusive fun _ => .inl hHolds
  unfold State.addWebhook
  split
  · have hMatching : (s.webhooks ++ [webhook]).filter (matchesChain svc.webhookUrl svc.chain) =
        [webhook].filter (matchesChain svc.webhookUrl svc.chain) := by
      rw [List.filter_append, show s.webhooks.filter _ = [] from hNone, List.nil_append]
    refine ⟨hMoved, fun h => absurd h hOthers, fun created hCreated => ?_, ?_, hInv.safe.2⟩
    · rw [State.matching, State.move, hMatching] at hCreated
      rw [List.mem_singleton.mp (List.mem_of_mem_filter hCreated)]
      exact hNamed
    · rw [State.matching, State.move, hMatching]
      exact List.length_filter_le _ _
  · exact ⟨hMoved, fun h => absurd h hOthers, hInv.named, hInv.safe⟩

/-- A listing that shows no id shows no webhook. -/
theorem matching_of_listed (hInv : Inv svc s)
    (hListed : Text.present
      (getExistingWebhookIdForChain svc.webhookUrl svc.chain s.webhooks) = none) :
    s.matching svc = [] := by
  unfold getExistingWebhookIdForChain at hListed
  cases hFind : s.webhooks.find? (matchesChain svc.webhookUrl svc.chain) with
  | none => exact List.filter_eq_nil_iff.mpr (List.find?_eq_none.mp hFind)
  | some webhook =>
      rw [hFind, Option.map_some] at hListed
      have hMatching : webhook ∈ s.matching svc :=
        List.mem_filter.mpr ⟨List.mem_of_find?_eq_some hFind, List.find?_some hFind⟩
      rw [Text.present_some (hInv.named webhook hMatching)] at hListed
      cases hListed

/-- A run that has just started holds nothing. It first has to read the lock. -/
theorem Inv.spawn (hInv : Inv svc s) : Inv svc s.spawn := by
  refine ⟨fun j k hj hk => ?_, fun hCreating => ?_, hInv.named, hInv.safe⟩
  · exact hInv.exclusive j k (holds_of_spawn hj) (holds_of_spawn hk)
  · rcases List.mem_append.mp hCreating with hOld | hNew
    · exact hInv.needed hOld
    · cases List.mem_singleton.mp hNew

variable {t : State}

/-- Reading the lock gives no run a hold on it. -/
theorem inv_get (hInv : Inv svc s) {answered : Bool}
    (hStep : step svc s (.get i answered) = some t) : Inv svc t := by
  simp only [step] at hStep
  split at hStep
  · split at hStep
    · cases hStep
      refine hInv.move ?_ ?_ <;> split <;> simp [Run.holding]
    · cases hStep
      exact hInv.move (by simp [Run.holding]) (by simp)
  · cases hStep

/-- The run that goes on after writing the lock is the only one to hold it. Without another run in
between, nobody else can have written the lock after the read. -/
theorem inv_set (hInv : Inv svc s) (hOk : stepOk s (.set i outcome))
    (hStep : step svc s (.set i outcome) = some t) : Inv svc t := by
  simp only [step] at hStep
  split at hStep
  · cases hStep
    refine hInv.setLock.move (fun hHolding => .inr ?_) ?_
    · have hAnswered : outcome = .answered := by
        by_contra hNot
        simp [hNot, Run.holding] at hHolding
      exact (hOk (by rw [hAnswered]; rfl)).setLock
    · split
      · split <;> simp
      · simp
  · cases hStep

/-- The holder goes on to create a webhook only where the listing shows none. -/
theorem inv_list (hInv : Inv svc s) (hStep : step svc s (.list i) = some t) : Inv svc t := by
  simp only [step] at hStep
  split at hStep
  · rename_i hListing
    have hHolds : s.holds i := holds_iff.mpr ⟨_, hListing, rfl⟩
    split at hStep
    · cases hStep
      exact hInv.move (fun _ => .inl hHolds) (by simp)
    · rename_i hListed
      cases hStep
      exact hInv.move (fun _ => .inl hHolds) fun _ => matching_of_listed hInv hListed
  · cases hStep

theorem inv_createWebhook (hInv : Inv svc s) {webhook : AlchemyWebhookResponse}
    (hStep : step svc s (.createWebhook i webhook outcome) = some t) : Inv svc t := by
  simp only [step] at hStep
  split at hStep
  · rename_i hCreating
    split at hStep
    · cases hStep
    · rename_i hNamed
      cases hStep
      exact hInv.create hCreating hNamed
  · cases hStep

/-- In the `finally` block the run still holds the lock that it deletes. It is the owner, so it
deletes no lock of another run. -/
theorem inv_delete (hInv : Inv svc s) (hStep : step svc s (.delete i outcome) = some t) :
    Inv svc t := by
  simp only [step] at hStep
  split at hStep
  · rename_i hDeleting
    have hHolds : s.holds i := holds_iff.mpr ⟨_, hDeleting, rfl⟩
    cases hStep
    refine (hInv.deleteLock fun _ => .inl hHolds).move ?_ ?_ <;> split <;> simp [Run.holding]
  · cases hStep

/-- After an error the run deletes the lock without holding it, so it must be alone. This is the
step at which the lock of another run could be deleted. -/
theorem inv_release (hInv : Inv svc s) (hOk : stepOk s (.release i outcome))
    (hStep : step svc s (.release i outcome) = some t) : Inv svc t := by
  simp only [step] at hStep
  split at hStep
  · cases hStep
    exact (hInv.deleteLock fun hApplied => .inr (hOk hApplied)).move (by simp [Run.holding])
      (by simp)
  · cases hStep

/-- One step keeps the invariant. Writing the lock, and deleting it after an error, need the
condition. -/
theorem inv_step {a : Action} (hInv : Inv svc s) (hOk : stepOk s a)
    (hStep : step svc s a = some t) : Inv svc t := by
  cases a with
  | tick elapsed =>
      cases hStep
      exact ⟨hInv.exclusive, hInv.needed, hInv.named, hInv.safe⟩
  | createNewWebhook =>
      cases hStep
      exact hInv.spawn
  | get i answered => exact inv_get hInv hStep
  | set i outcome => exact inv_set hInv hOk hStep
  | list i => exact inv_list hInv hStep
  | createWebhook i webhook outcome => exact inv_createWebhook hInv hStep
  | delete i outcome => exact inv_delete hInv hStep
  | release i outcome => exact inv_release hInv hOk hStep

end Steps

/-- In every run whose locks are written, and deleted after an error, while no
other run holds one, at most one webhook is created and no lock is stolen. -/
theorem safe_of_alone {webhooks : List AlchemyWebhookResponse} {actions : List Action} {s : State}
    (hNone : webhooks.filter (matchesChain svc.webhookUrl svc.chain) = [])
    (hRun : run (step svc) (State.init webhooks) actions = some s)
    (hAlone : Meets (step svc) stepOk (State.init webhooks) actions) : Safe svc s :=
  (run_invariant_of_meets (fun _ _ _ => inv_step) hRun hAlone (Inv.init hNone)).safe

def ethereumService : Service := ⟨.ethereum, "key", "https://kit.example/webhook", true⟩

def createdWebhook (id : String) : AlchemyWebhookResponse :=
  ⟨id, "ETH_MAINNET", "ADDRESS_ACTIVITY", "https://kit.example/webhook", true, "secret"⟩

/-- The second run starts after the first one and finds its webhook. -/
def sequentialRun : List Action :=
  [.createNewWebhook, .get 0 true, .set 0 .answered, .list 0,
    .createWebhook 0 (createdWebhook "wh_1") .answered, .delete 0 .answered,
    .createNewWebhook, .get 1 true, .set 1 .answered, .list 1, .delete 1 .answered]

/-- The second run begins when the first one has ended, so it is alone when it writes the lock. -/
theorem safe_sequentialRun :
    ∃ s, run (step ethereumService) (State.init []) sequentialRun = some s ∧
      Safe ethereumService s :=
  ⟨_, rfl, @safe_of_alone ethereumService [] sequentialRun _ rfl rfl (by decide)⟩

/-- The lock of the first run expires while it waits for Alchemy. -/
def expiringRun : List Action :=
  [.createNewWebhook, .createNewWebhook, .get 0 true, .set 0 .answered, .list 0, .tick 30000,
    .get 1 true, .set 1 .answered, .list 1,
    .createWebhook 0 (createdWebhook "wh_1") .answered, .delete 0 .answered,
    .createWebhook 1 (createdWebhook "wh_2") .answered]

/-- Both runs create a webhook, and the first one deletes the lock of the second. -/
theorem expiringRun_not_safe :
    ∃ s, run (step ethereumService) (State.init []) expiringRun = some s ∧
      (s.matching ethereumService).length = 2 ∧ s.stolen = [(0, 1)] :=
  ⟨_, rfl, rfl, rfl⟩

end BalanceKit.CreationLock
