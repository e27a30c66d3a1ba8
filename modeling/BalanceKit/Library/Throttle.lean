import BalanceKit.Library.Text
import Mathlib.Logic.Function.Basic

/-! Work that is not begun again for a key until an interval has passed. What the table of
last times decides is stated without the table, by the attempts that were made. -/
namespace Throttle
universe u v
variable {Event : Type u} {Key : Type v}

/-- What is asked of an event: whether it gets as far as the table, its key and its time. -/
structure Policy (Event : Type u) (Key : Type v) where
  interval : Nat
  reaches : Event → Bool
  key : Event → Key
  time : Event → Nat

/-- Nothing is recorded, or the interval has passed. A time of zero counts as none. -/
def due (interval : Nat) (last : Option Nat) (now : Nat) : Bool :=
  match Text.nonzero last with
  | some last => !decide (now - last < interval)
  | none => true

variable [DecidableEq Key] (p : Policy Event Key)

/-- Whether the work is begun, and the table after it. -/
def step (table : Key → Option Nat) (e : Event) : Bool × (Key → Option Nat) :=
  if p.reaches e && due p.interval (table (p.key e)) (p.time e) then
    (true, Function.update table (p.key e) (some (p.time e)))
  else (false, table)

def attempts (table : Key → Option Nat) : List Event → List (Event × Bool)
  | [] => []
  | e :: rest => (e, (step p table e).1) :: attempts (step p table e).2 rest

/-- The time of the last attempt with the key. -/
def lastAttempt (key : Key) (initial : Option Nat) : List (Event × Bool) → Option Nat
  | [] => initial
  | (e, attempted) :: rest =>
      lastAttempt key
        (if attempted && decide (p.key e = key) then some (p.time e) else initial) rest

variable {p} {table : Key → Option Nat}

theorem due_iff {interval now : Nat} {last : Option Nat} :
    due interval last now = true ↔ ∀ t, last = some t → t = 0 ∨ interval ≤ now - t := by
  match last with
  | none => simp [due, Text.nonzero]
  | some 0 => simp [due, Text.nonzero]
  | some (t + 1) => simp [due, Text.nonzero]

theorem step_table (e : Event) (key : Key) :
    (step p table e).2 key =
      if (step p table e).1 && decide (p.key e = key) then some (p.time e) else table key := by
  unfold step
  by_cases hDue : (p.reaches e && due p.interval (table (p.key e)) (p.time e)) = true
  · rw [if_pos hDue]
    by_cases hKey : p.key e = key
    · subst hKey
      simp
    · simp [hKey, Function.update_of_ne (Ne.symm hKey)]
  · rw [if_neg hDue]
    simp

/-- An event is an attempt if it gets as far as the table, and the last attempt with its key
is due. -/
theorem attempted_iff {events : List Event} {before rest : List (Event × Bool)} {e : Event}
    {attempted : Bool} (h : attempts p table events = before ++ (e, attempted) :: rest) :
    attempted = true ↔ p.reaches e = true ∧
      due p.interval (lastAttempt p (p.key e) (table (p.key e)) before) (p.time e) = true := by
  induction before generalizing table events with
  | nil =>
      cases events with
      | nil => cases h
      | cons first others =>
          obtain ⟨hHead, -⟩ := List.cons_eq_cons.mp h
          obtain ⟨rfl, rfl⟩ := Prod.mk.inj hHead
          rw [lastAttempt, ← Bool.and_eq_true, step]
          cases hDue : p.reaches first && due p.interval (table (p.key first)) (p.time first) with
          | true => exact iff_of_true rfl rfl
          | false => exact iff_of_false Bool.false_ne_true Bool.false_ne_true
  | cons d ds ih =>
      cases events with
      | nil => cases h
      | cons first others =>
          obtain ⟨rfl, hRest⟩ := List.cons_eq_cons.mp h
          rw [ih hRest, step_table]
          rfl

/-- Nothing but the times, the keys, and how far the events get decides. Programs that differ in
what they do later attempt the same events. -/
theorem attempts_congr {other : List Event} {events : List Event}
    (h : events.map (fun e => (p.reaches e, p.key e, p.time e)) =
      other.map (fun e => (p.reaches e, p.key e, p.time e))) :
    (attempts p table events).map Prod.snd = (attempts p table other).map Prod.snd := by
  induction events generalizing other table with
  | nil =>
      cases other with
      | nil => rfl
      | cons first others => cases h
  | cons e rest ih =>
      cases other with
      | nil => cases h
      | cons first others =>
          obtain ⟨hHead, hRest⟩ := List.cons_eq_cons.mp h
          simp only [Prod.mk.injEq] at hHead
          obtain ⟨hReaches, hKey, hTime⟩ := hHead
          have hStep : step p table e = step p table first := by
            simp only [step, hReaches, hKey, hTime]
          simp only [attempts, List.map_cons, hStep, ih hRest]

end Throttle
