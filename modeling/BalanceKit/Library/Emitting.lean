import Mathlib.Data.List.Infix

/-! Programs that emit events one after the other, where the listeners of an event may make
its emission throw. The log keeps what was emitted when the program is left by an exception. -/
namespace Emitting
variable {Event Item : Type}

abbrev Emitter (Event : Type) := ExceptT Unit (StateM (List Event))

/-- How a program ends, and the log that it leaves. -/
abbrev Result (Event : Type) := Except Unit Unit × List Event

/-- Run a program on a log. -/
def start (p : Emitter Event Unit) (log : List Event) : Result Event := (p.run.run log).run

variable (fails : List Event → Event → Bool)

/-- Whether an emission throws may depend on everything emitted before. -/
def emit (e : Event) : Emitter Event Unit := do
  let log ← get
  set (log ++ [e])
  if fails log e then throw ()

/-- `try { .. } catch { }` -/
def attempt (p : Emitter Event Unit) : Emitter Event Unit := tryCatch p fun _ => pure ()

/-- A list of events, up to the first whose emission throws. -/
def deliver : List Event → List Event → Result Event
  | log, [] => (.ok (), log)
  | log, e :: rest =>
      if fails log e then (.error (), log ++ [e]) else deliver (log ++ [e]) rest

section Deliver
variable {fails} {log events more : List Event}

/-- Delivering two lists goes on with the second one if no event of the first one throws. If one
does, the second list is never reached. -/
theorem deliver_append : deliver fails log (events ++ more) =
    match deliver fails log events with
    | (.ok _, later) => deliver fails later more
    | failed => failed := by
  induction events generalizing log with
  | nil => rfl
  | cons e rest ih =>
      rw [List.cons_append, deliver, deliver]
      split
      · rfl
      · exact ih

theorem deliver_of_never (h : ∀ log e, fails log e = false) :
    deliver fails log events = (.ok (), log ++ events) := by
  induction events generalizing log with
  | nil => simp [deliver]
  | cons e rest ih => rw [deliver, h, if_neg Bool.false_ne_true, ih, List.append_assoc]; rfl

/-- What is delivered without an exception is delivered completely. -/
theorem deliver_of_ok (h : (deliver fails log events).1 = .ok ()) :
    (deliver fails log events).2 = log ++ events := by
  induction events generalizing log with
  | nil => simp [deliver]
  | cons e rest ih =>
      rw [deliver] at h ⊢
      split at h
      · cases h
      · rename_i hFails
        rw [if_neg hFails, ih h, List.append_assoc]
        rfl

/-- An exception comes from the emission of the last event that was delivered. The events before it
have all been delivered. -/
theorem exists_of_error (h : (deliver fails log events).1 = .error ()) :
    ∃ before e, (deliver fails log events).2 = before ++ [e] ∧ fails before e = true := by
  induction events generalizing log with
  | nil => cases h
  | cons e rest ih =>
      rw [deliver] at h ⊢
      split at h
      · rename_i hFails
        exact ⟨log, e, by rw [if_pos hFails], hFails⟩
      · rename_i hFails
        rw [if_neg hFails]
        exact ih h

/-- Nothing is delivered out of turn. -/
theorem exists_deliver_eq_append : ∃ delivered, delivered <+: events ∧
    (deliver fails log events).2 = log ++ delivered := by
  induction events generalizing log with
  | nil => exact ⟨[], List.nil_prefix, by simp [deliver]⟩
  | cons e rest ih =>
      rw [deliver]
      split
      · exact ⟨[e], by simp, rfl⟩
      · obtain ⟨delivered, hPrefix, hLog⟩ := @ih (log ++ [e])
        exact ⟨e :: delivered, (List.prefix_cons_inj e).mpr hPrefix, by simp [hLog]⟩

end Deliver

/-- The program delivers the events to every log. -/
def Delivers (p : Emitter Event Unit) (events : List Event) : Prop :=
  ∀ log, start p log = deliver fails log events

section Rules
variable {fails} {p q : Emitter Event Unit} {events more : List Event}

theorem delivers_pure : Delivers fails (pure ()) [] := fun _ => rfl

theorem start_emit (e : Event) (log : List Event) : start (emit fails e) log =
    (if fails log e then .error () else .ok (), log ++ [e]) := by
  show start (if fails log e then throw () else pure ()) (log ++ [e]) = _
  cases fails log e <;> rfl

theorem start_attempt (log : List Event) :
    start (attempt p) log = (.ok (), (start p log).2) := by
  simp only [start, attempt, ExceptT.run_tryCatch, StateT.run_bind, Id.run_bind]
  rcases (p.run.run log).run with ⟨outcome, later⟩
  cases outcome <;> rfl

theorem delivers_emit (e : Event) : Delivers fails (emit fails e) [e] := by
  intro log
  rw [start_emit, deliver]
  cases fails log e <;> rfl

/-- An emission that is caught is as good as one that does not throw. The program goes on behind it
with the event in the log. -/
theorem delivers_attempt_emit (e : Event) :
    Delivers (fun _ _ => false) (attempt (emit fails e)) [e] := by
  intro log
  rw [start_attempt, start_emit]
  rfl

theorem start_seq (log : List Event) : start (do p; q) log =
    match start p log with
    | (.ok _, later) => start q later
    | failed => failed := by
  simp only [start, ExceptT.run_bind, StateT.run_bind, Id.run_bind]
  rcases (p.run.run log).run with ⟨outcome, later⟩
  cases outcome <;> rfl

theorem delivers_seq (hp : Delivers fails p events) (hq : Delivers fails q more) :
    Delivers fails (do p; q) (events ++ more) := by
  intro log
  rw [start_seq, deliver_append, hp log]
  cases deliver fails log events with
  | mk outcome later =>
    cases outcome with
    | ok _ => exact hq later
    | error _ => rfl

/-- A loop delivers the events of its rounds, by induction on the items. -/
theorem delivers_forM {body : Item → Emitter Event Unit} {eventsOf : Item → List Event}
    {items : List Item} (h : ∀ item ∈ items, Delivers fails (body item) (eventsOf item)) :
    Delivers fails (items.forM body) (items.flatMap eventsOf) := by
  induction items with
  | nil => exact delivers_pure
  | cons item rest ih =>
      have hRest := ih fun other hOther => h other (List.mem_cons_of_mem _ hOther)
      exact delivers_seq (h item List.mem_cons_self) hRest

end Rules

end Emitting
