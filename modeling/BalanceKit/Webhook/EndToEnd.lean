import BalanceKit.Webhook.Authentication
import BalanceKit.Webhook.Propagation

/-! The endpoint and what stands behind it as one system: a request that passes the check
starts the handlers of its activities, whose announcements reach the clients. -/
namespace BalanceKit.EndToEnd
open TransitionSystem Sse
open Propagation (activityEvent announcement content messageContent pendingEvents)
open Authentication (Handling Authentic)

structure State where
  endpoint : Authentication.State
  inside : Propagation.State

def State.init (stores : Stores) : State := ⟨Authentication.State.init, Propagation.State.init stores⟩

inductive Action where
  | endpoint (a : Authentication.Action)
  | processWebhookEvent (i : Nat) (saved : Bool) (throws : Emission → Bool)
  | inside (a : Propagation.Action)

/-- The two sides meet where a checked request is processed, and nowhere else. -/
def isProcess : Authentication.Action → Bool
  | .process _ _ _ => true
  | _ => false

def isPayload : Propagation.Action → Bool
  | .processWebhookEvent _ _ _ => true
  | _ => false

variable (webhookUrl : String) (hmac : String → List UInt8 → Signature.Digest)

def step (s : State) : Action → Option State
  | .endpoint a =>
      if isProcess a then none
      else (Authentication.step webhookUrl hmac s.endpoint a).map fun next =>
        { s with endpoint := next }
  | .processWebhookEvent i saved throws =>
      match s.endpoint.handlings[i]? with
      | some handling =>
          match Authentication.step webhookUrl hmac s.endpoint (.process i saved throws),
            Propagation.step s.inside
              (.processWebhookEvent (fun _ => throws) saved handling.request.payload) with
          | some endpoint, some inside => some ⟨endpoint, inside⟩
          | _, _ => none
      | none => none
  | .inside a =>
      if isPayload a then none
      else (Propagation.step s.inside a).map fun next => { s with inside := next }

/-- The activities that a request has caused. -/
def caused (h : Handling) : List AddressActivityEvent :=
  (h.emitted.filterMap activityEvent).filter fun event => event.action ≠ some "cache_invalidated"

/-- Handlers run for the activities that requests have caused, and for no others. -/
structure Inv (s : State) : Prop where
  endpoint : Authentication.Inv webhookUrl hmac s.endpoint
  inside : Propagation.Inv s.inside
  silent : ∀ h ∈ s.endpoint.handlings, h.emitted ≠ [] → ∃ reply, h.phase = .answered reply
  accounted : (s.inside.handlers.map Propagation.ActivityHandler.event).Perm
    (s.endpoint.handlings.flatMap caused)

variable {webhookUrl hmac}

theorem Inv.init (stores : Stores) : Inv webhookUrl hmac (State.init stores) :=
  ⟨Authentication.Inv.init, Propagation.Inv.init stores,
    by simp [State.init, Authentication.State.init],
    by simp [State.init, Authentication.State.init, Propagation.State.init]⟩

/-- What the endpoint does with its requests before one is processed: nothing, take in a new
one, or move one that is not answered yet. -/
theorem endpoint_cases {s t : Authentication.State} {a : Authentication.Action}
    (hProcess : isProcess a = false) (hStep : Authentication.step webhookUrl hmac s a = some t) :
    t.handlings = s.handlings ∨
    (∃ new, t.handlings = s.handlings ++ [new] ∧ new.emitted = []) ∨
    ∃ i h phase, s.handlings[i]? = some h ∧ (∀ reply, h.phase ≠ .answered reply) ∧
      t.handlings = s.handlings.set i (h.setPhase phase) := by
  cases a with
  | handleWebhook request now =>
      cases hStep
      exact .inr (.inl ⟨_, rfl, rfl⟩)
  | receive i answer now =>
      simp only [Authentication.step] at hStep
      split at hStep
      · rename_i h hHandling
        split at hStep
        · rename_i hPhase
          cases hStep
          exact .inr (.inr ⟨i, h, _, hHandling, by simp [hPhase], rfl⟩)
        · rename_i chain webhooks hPhase
          cases hStep
          refine .inr (.inr ⟨i, h, ?_⟩)
          unfold Authentication.receiveListing
          cases Authentication.findWebhook webhookUrl chain webhooks with
          | none => exact ⟨_, hHandling, by simp [hPhase], rfl⟩
          | some webhook =>
              by_cases hKey : webhook.signingKey = ""
              · exact ⟨_, hHandling, by simp [hPhase], by simp only [hKey, if_true]; rfl⟩
              · exact ⟨_, hHandling, by simp [hPhase], by simp only [hKey, if_false]; rfl⟩
        · cases hStep
      · cases hStep
  | verify i =>
      simp only [Authentication.step] at hStep
      split at hStep
      · rename_i h hHandling
        split at hStep
        · rename_i signingKey hPhase
          cases hStep
          refine .inr (.inr ⟨i, h, ?_⟩)
          unfold Authentication.verifyRequest
          split
          · exact ⟨_, hHandling, by simp [hPhase], rfl⟩
          · split
            · exact ⟨_, hHandling, by simp [hPhase], rfl⟩
            · exact ⟨_, hHandling, by simp [hPhase], rfl⟩
            · exact ⟨_, hHandling, by simp [hPhase], rfl⟩
        · cases hStep
      · cases hStep
  | process i saved throws => cases hProcess
  | clearSigningKeyCache url chain =>
      cases hStep
      exact .inl rfl

theorem caused_setPhase (h : Handling) (phase : Authentication.Phase) :
    caused (h.setPhase phase) = caused h := rfl

/-- The payload starts handlers for what its request is recorded to have emitted. Controller and
handlers read the payload in the same way. -/
theorem activities_eq (throws : Emission → Bool) (saved : Bool) (payload : WebhookEventDto) :
    Propagation.activities (fun _ => throws) saved payload =
      (((WebhookService.processWebhookEvent throws saved payload).emitted).filterMap
        activityEvent).filter fun event => event.action ≠ some "cache_invalidated" := by
  rw [Propagation.activities, FanOut.start_processWebhookEvent_eq]
  rfl

section Steps
variable {s t : State}

/-- Requests may be received, verified and answered without anything happening inside. The two sides
share nothing but the processed payloads. -/
theorem Inv.endpointStep (hInv : Inv webhookUrl hmac s) {a : Authentication.Action}
    {next : Authentication.State} (hProcess : isProcess a = false)
    (hStep : Authentication.step webhookUrl hmac s.endpoint a = some next) :
    Inv webhookUrl hmac { s with endpoint := next } := by
  refine ⟨Authentication.inv_step hInv.endpoint hStep, hInv.inside, ?_, ?_⟩
  · rcases endpoint_cases hProcess hStep with hSame | ⟨new, hSpawn, hNew⟩ |
      ⟨i, h, phase, hHandling, hPhase, hMoved⟩
    · rw [hSame]
      exact hInv.silent
    · rw [hSpawn]
      intro h hMember hEmitted
      rcases List.mem_append.mp hMember with hOld | hLast
      · exact hInv.silent h hOld hEmitted
      · rw [List.mem_singleton.mp hLast] at hEmitted
        exact absurd hNew hEmitted
    · rw [hMoved]
      refine ProcessTable.forall_mem_set hInv.silent fun hEmitted => ?_
      obtain ⟨reply, hReply⟩ := hInv.silent h (List.mem_of_getElem? hHandling) hEmitted
      exact absurd hReply (hPhase reply)
  · refine hInv.accounted.trans (.of_eq ?_)
    rcases endpoint_cases hProcess hStep with hSame | ⟨new, hSpawn, hNew⟩ |
      ⟨i, h, phase, hHandling, -, hMoved⟩
    · rw [hSame]
    · simp [hSpawn, caused, hNew]
    · rw [hMoved, List.flatMap_def, List.flatMap_def]
      exact congrArg List.flatten
        (ProcessTable.map_set_of_eq hHandling (caused_setPhase h phase)).symm

theorem Inv.insideStep (hInv : Inv webhookUrl hmac s) {a : Propagation.Action}
    {next : Propagation.State} (hPayload : isPayload a = false)
    (hStep : Propagation.step s.inside a = some next) :
    Inv webhookUrl hmac { s with inside := next } := by
  have hStarted : a.started = [] := by
    cases a with
    | processWebhookEvent fails saved payload => cases hPayload
    | _ => rfl
  refine ⟨hInv.endpoint, Propagation.inv_step hInv.inside hStep, hInv.silent, ?_⟩
  rw [Propagation.events_step hStep, hStarted, List.append_nil]
  exact hInv.accounted

/-- A request that is processed had emitted nothing before. -/
theorem Inv.processStep (hInv : Inv webhookUrl hmac s) {i : Nat} {saved : Bool}
    {throws : Emission → Bool} {handling : Handling} {endpoint : Authentication.State}
    {inside : Propagation.State} (hHandling : s.endpoint.handlings[i]? = some handling)
    (hEndpoint : Authentication.step webhookUrl hmac s.endpoint (.process i saved throws) =
      some endpoint)
    (hInside : Propagation.step s.inside
      (.processWebhookEvent (fun _ => throws) saved handling.request.payload) = some inside) :
    Inv webhookUrl hmac ⟨endpoint, inside⟩ := by
  have hInvEndpoint := Authentication.inv_step hInv.endpoint hEndpoint
  simp only [Authentication.step, hHandling] at hEndpoint
  split at hEndpoint
  · rename_i hPhase
    have hSilent : handling.emitted = [] := by
      by_contra hEmitted
      obtain ⟨reply, hReply⟩ :=
        hInv.silent handling (List.mem_of_getElem? hHandling) hEmitted
      rw [hPhase] at hReply
      cases hReply
    cases hEndpoint
    refine ⟨hInvEndpoint, Propagation.inv_step hInv.inside hInside,
      ProcessTable.forall_mem_set hInv.silent fun _ => ⟨_, rfl⟩, ?_⟩
    have hBefore : caused handling = [] := by simp [caused, hSilent]
    rw [Propagation.events_step hInside, Propagation.Action.started, activities_eq]
    refine (hInv.accounted.append_right _).trans ?_
    let outcome := WebhookService.processWebhookEvent throws saved handling.request.payload
    let moved : Handling := { handling with
      phase := .answered (if outcome.threw then .crashed else .success)
      emitted := outcome.emitted }
    exact (@ProcessTable.flatMap_set_perm _ _ caused _ _ _ moved hHandling hBefore).symm
  · cases hEndpoint

/-- Only the processing of a checked request connects the two: it starts the handlers of its
activities, and no others. -/
theorem inv_step {a : Action} (hInv : Inv webhookUrl hmac s)
    (hStep : step webhookUrl hmac s a = some t) : Inv webhookUrl hmac t := by
  cases a with
  | endpoint a =>
      simp only [step] at hStep
      split at hStep
      · cases hStep
      · rename_i hProcess
        obtain ⟨next, hNext, rfl⟩ := Option.map_eq_some_iff.mp hStep
        exact hInv.endpointStep (by simpa using hProcess) hNext
  | processWebhookEvent i saved throws =>
      simp only [step] at hStep
      split at hStep
      · rename_i handling hHandling
        split at hStep
        · rename_i endpoint inside hEndpoint hInside
          cases hStep
          exact hInv.processStep hHandling hEndpoint hInside
        · cases hStep
      · cases hStep
  | inside a =>
      simp only [step] at hStep
      split at hStep
      · cases hStep
      · rename_i hPayload
        obtain ⟨next, hNext, rfl⟩ := Option.map_eq_some_iff.mp hStep
        exact hInv.insideStep (by simpa using hPayload) hNext

end Steps

/-- A client is connected while a signed request comes in, and one of its handlers ends. -/
def signedRun : List Action :=
  [.inside (.client (.openStream "0" none none)), .inside (.client (.subscribe 0)),
    .endpoint (.handleWebhook Authentication.signedRequest 0),
    .endpoint (.receive 0 (some Authentication.teamWebhooks) 5), .endpoint (.verify 0),
    .processWebhookEvent 0 true fun _ => false, .inside (.mongoSettles 1 .lost),
    .inside (.redisSettles 1 true ⟨[], false⟩ fun _ => .answered),
    .inside (.emitAddressCacheInvalidated 1 "1")]

end BalanceKit.EndToEnd
