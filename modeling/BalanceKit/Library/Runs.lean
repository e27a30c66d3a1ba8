import Mathlib.Data.List.Basic

/-! Finite runs of a guarded transition system. An action that is not enabled
makes the whole run undefined, so a defined run is one interleaving of enabled
steps. The rules below turn what one step preserves into what a run preserves. -/
namespace TransitionSystem
universe u v
variable {State : Type u} {Action : Type v}

/-- Execute the actions in order. -/
def run (step : State → Action → Option State) : State → List Action → Option State
  | s, [] => some s
  | s, a :: rest => (step s a).bind fun next => run step next rest

/-- Every action of the run meets `ok` in the state in which it is taken. -/
def Meets (step : State → Action → Option State) (ok : State → Action → Prop) :
    State → List Action → Prop
  | _, [] => True
  | s, a :: rest => ok s a ∧
      match step s a with
      | some next => Meets step ok next rest
      | none => True

instance decidableMeets (step : State → Action → Option State) (ok : State → Action → Prop)
    [∀ s a, Decidable (ok s a)] : ∀ s actions, Decidable (Meets step ok s actions)
  | _, [] => .isTrue trivial
  | s, a :: rest =>
      have : Decidable (match step s a with
          | some next => Meets step ok next rest
          | none => True) :=
        match step s a with
        | some next => decidableMeets step ok next rest
        | none => .isTrue trivial
      inferInstanceAs (Decidable (ok s a ∧ _))

variable {step : State → Action → Option State} {ok : State → Action → Prop}
  {Inv Bad : State → Prop}

theorem run_cons {s t : State} {a : Action} {rest : List Action} :
    run step s (a :: rest) = some t ↔ ∃ next, step s a = some next ∧ run step next rest = some t := by
  simp [run, Option.bind_eq_some_iff]

theorem run_append (s : State) (first rest : List Action) :
    run step s (first ++ rest) = (run step s first).bind fun t => run step t rest := by
  induction first generalizing s with
  | nil => rfl
  | cons a more ih =>
      rw [List.cons_append, run, run, Option.bind_assoc]
      congr 1
      funext next
      exact ih next

/-- Where each step is a run of a part, the run is one of the part. What is known of the runs of the
part can then be used for the whole. -/
theorem run_project {State' : Type*} {Action' : Type*} {step' : State' → Action' → Option State'}
    (part : State → State')
    (hStep : ∀ s a t, step s a = some t → ∃ more, run step' (part s) more = some (part t))
    {s t : State} {actions : List Action} (hRun : run step s actions = some t) :
    ∃ more, run step' (part s) more = some (part t) := by
  induction actions generalizing s with
  | nil =>
      cases hRun
      exact ⟨[], rfl⟩
  | cons a rest ih =>
      obtain ⟨next, hNext, hRest⟩ := run_cons.mp hRun
      obtain ⟨first, hFirst⟩ := hStep s a next hNext
      obtain ⟨more, hMore⟩ := ih hRest
      refine ⟨first ++ more, ?_⟩
      rw [run_append, hFirst]
      exact hMore

/-- A property preserved by every step that meets the condition holds at the
end of every run whose steps all meet it. -/
theorem run_invariant_of_meets
    (hStep : ∀ s a t, Inv s → ok s a → step s a = some t → Inv t)
    {s t : State} {actions : List Action} (hRun : run step s actions = some t)
    (hMeets : Meets step ok s actions) (hStart : Inv s) : Inv t := by
  induction actions generalizing s with
  | nil =>
      cases hRun
      exact hStart
  | cons a rest ih =>
      obtain ⟨next, hNext, hRest⟩ := run_cons.mp hRun
      obtain ⟨hOk, hMeetsRest⟩ := hMeets
      rw [hNext] at hMeetsRest
      exact ih hRest hMeetsRest (hStep s a next hStart hOk hNext)

/-- Along a run whose steps all meet the condition, each of them meets what the
condition and the invariant imply together. -/
theorem meets_of_meets {good : State → Action → Prop}
    (hStep : ∀ s a t, Inv s → ok s a → step s a = some t → Inv t)
    (hGood : ∀ s a, Inv s → ok s a → good s a) {s : State} {actions : List Action}
    (hStart : Inv s) (hMeets : Meets step ok s actions) : Meets step good s actions := by
  induction actions generalizing s with
  | nil => trivial
  | cons a rest ih =>
      obtain ⟨hOk, hRest⟩ := hMeets
      refine ⟨hGood s a hStart hOk, ?_⟩
      cases hNext : step s a with
      | none => trivial
      | some next =>
          rw [hNext] at hRest
          exact ih (hStep s a next hStart hOk hNext) hRest

/-- Conditions that agree on every step are met by the same runs. This lets a condition be replaced
by a simpler one. -/
theorem meets_congr {good : State → Action → Prop} (h : ∀ s a, ok s a ↔ good s a) (s : State)
    (actions : List Action) : Meets step ok s actions ↔ Meets step good s actions := by
  obtain rfl : ok = good := by
    funext s a
    exact propext (h s a)
  exact Iff.rfl

/-- A condition that the actions meet in every state is met along the run. The states in between
need not be known for such a condition. -/
theorem meets_of_forall {actions : List Action} (h : ∀ a ∈ actions, ∀ s, ok s a) (s : State) :
    Meets step ok s actions := by
  induction actions generalizing s with
  | nil => trivial
  | cons a rest ih =>
      refine ⟨h a List.mem_cons_self s, ?_⟩
      cases step s a with
      | none => trivial
      | some next => exact ih (fun b hb => h b (List.mem_cons_of_mem a hb)) next

/-- An invariant that every step keeps holds after a run. This is the rule without a condition on
the steps. -/
theorem run_invariant (hStep : ∀ s a t, Inv s → step s a = some t → Inv t)
    {s t : State} {actions : List Action} (hRun : run step s actions = some t)
    (hStart : Inv s) : Inv t := by
  induction actions generalizing s with
  | nil =>
      cases hRun
      exact hStart
  | cons a rest ih =>
      obtain ⟨next, hNext, hRest⟩ := run_cons.mp hRun
      exact ih hRest (hStep s a next hStart hNext)

/-- If every action is enabled wherever the invariant holds, every run is defined. It is how a run
is shown to exist before anything is said about where it ends. -/
theorem run_total (hStep : ∀ s a, Inv s → ∃ t, step s a = some t ∧ Inv t) {s : State}
    (actions : List Action) (hStart : Inv s) : ∃ t, run step s actions = some t ∧ Inv t := by
  induction actions generalizing s with
  | nil => exact ⟨s, rfl, hStart⟩
  | cons a rest ih =>
      obtain ⟨next, hNext, hInv⟩ := hStep s a hStart
      obtain ⟨t, hRest, hEnd⟩ := ih hInv
      exact ⟨t, run_cons.mpr ⟨next, hNext, hRest⟩, hEnd⟩

/-- A loop is a run whose actions are the items. The rules about runs then apply to the loops of the
program. -/
theorem foldlM_eq_run (items : List Action) (s : State) :
    items.foldlM step s = run step s items := by
  induction items generalizing s with
  | nil => rfl
  | cons item rest ih =>
      rw [List.foldlM_cons, run]
      congr 1
      funext next
      exact ih next

/-- If one step outside the condition leads to a defect that no later step
repairs, a run that ends without the defect met the condition throughout. -/
theorem meets_of_persistent
    (hInv : ∀ s a t, Inv s → step s a = some t → Inv t)
    (hBad : ∀ s a t, Inv s → step s a = some t → ¬ ok s a → Bad t)
    (hKeep : ∀ s a t, Inv s → Bad s → step s a = some t → Bad t)
    {s t : State} {actions : List Action} (hRun : run step s actions = some t)
    (hStart : Inv s) (hGood : ¬ Bad t) : Meets step ok s actions := by
  induction actions generalizing s with
  | nil => trivial
  | cons a rest ih =>
      obtain ⟨next, hNext, hRest⟩ := run_cons.mp hRun
      have hNextInv := hInv s a next hStart hNext
      refine ⟨?_, ?_⟩
      · by_contra hNot
        have hStill : ∀ s a t, Inv s ∧ Bad s → step s a = some t → Inv t ∧ Bad t :=
          fun s a t h hStep => ⟨hInv s a t h.1 hStep, hKeep s a t h.1 h.2 hStep⟩
        exact hGood (run_invariant hStill hRest ⟨hNextInv, hBad s a next hStart hNext hNot⟩).2
      · rw [hNext]
        exact ih hRest hNextInv

end TransitionSystem

/-! Tables of processes. A process keeps its index for the whole run: a new one
is appended and a step replaces the entry of the process that moved. -/
namespace ProcessTable
universe u
variable {Process : Type u}

/-- After a step the entry is the moved process or an untouched one. The case split of every
invariant about a table of processes. -/
theorem getElem?_set_cases {table : List Process} {i j : Nat} {moved p : Process}
    (h : (table.set i moved)[j]? = some p) :
    (j = i ∧ p = moved) ∨ (j ≠ i ∧ table[j]? = some p) := by
  by_cases hj : i = j
  · subst hj
    by_cases hi : i < table.length
    · simp [hi] at h
      exact .inl ⟨rfl, h.symm⟩
    · simp [hi] at h
  · rw [List.getElem?_set_ne hj] at h
    exact .inr ⟨fun h' => hj h'.symm, h⟩

/-- After a spawn the entry is the new process or an old one. Its index is the number of processes
so far. -/
theorem getElem?_spawn_cases {table : List Process} {j : Nat} {new p : Process}
    (h : (table ++ [new])[j]? = some p) :
    (j = table.length ∧ p = new) ∨ table[j]? = some p := by
  rcases Nat.lt_trichotomy j table.length with hj | hj | hj
  · rw [List.getElem?_append_left hj] at h
    exact .inr h
  · subst hj
    simp at h
    exact .inl ⟨rfl, h.symm⟩
  · rw [List.getElem?_eq_none (by simp; omega)] at h
    cases h

/-- A property of every entry survives a step that establishes it for the
process that moved. -/
theorem forall_mem_set {P : Process → Prop} {table : List Process} {i : Nat} {moved : Process}
    (hTable : ∀ p ∈ table, P p) (hMoved : P moved) : ∀ p ∈ table.set i moved, P p := by
  intro p hp
  rcases List.mem_or_eq_of_mem_set hp with hp | rfl
  · exact hTable p hp
  · exact hMoved

/-- A move of a process that is not done before or after does not show among the done ones. -/
theorem filter_set_of_not_done {done : Process → Bool} {table : List Process} {i : Nat}
    {p moved : Process} (h : table[i]? = some p) (hBefore : done p = false)
    (hAfter : done moved = false) : (table.set i moved).filter done = table.filter done := by
  induction table generalizing i with
  | nil => rfl
  | cons q rest ih =>
      cases i with
      | zero =>
          obtain rfl : q = p := by simpa using h
          simp [hBefore, hAfter]
      | succ i => simp [List.filter_cons, ih (by simpa using h)]

/-- A process that gets done joins the done ones. The order in which the processes get done is
another one than that in which they began. -/
theorem filter_set_perm {done : Process → Bool} {table : List Process} {i : Nat}
    {p moved : Process} (h : table[i]? = some p) (hBefore : done p = false)
    (hAfter : done moved = true) :
    ((table.set i moved).filter done).Perm (table.filter done ++ [moved]) := by
  induction table generalizing i with
  | nil => simp at h
  | cons q rest ih =>
      cases i with
      | zero =>
          obtain rfl : q = p := by simpa using h
          simpa [hBefore, hAfter] using (List.perm_append_singleton moved (rest.filter done)).symm
      | succ i =>
          have hRest := ih (by simpa using h)
          by_cases hq : done q = true
          · simpa [hq] using hRest.cons q
          · simpa [hq] using hRest

/-- What a process yields when it had yielded nothing joins what the others yielded. What was
yielded is not lost, only its order is not kept. -/
theorem flatMap_set_perm {Yield : Type*} {yield : Process → List Yield} {table : List Process}
    {i : Nat} {p moved : Process} (h : table[i]? = some p) (hBefore : yield p = []) :
    ((table.set i moved).flatMap yield).Perm (table.flatMap yield ++ yield moved) := by
  induction table generalizing i with
  | nil => simp at h
  | cons q rest ih =>
      cases i with
      | zero =>
          obtain rfl : q = p := by simpa using h
          simpa [hBefore] using List.perm_append_comm
      | succ i =>
          have hRest := ih (by simpa using h)
          simpa [List.append_assoc] using hRest.append_left (yield q)

theorem set_of_getElem? {table : List Process} {i : Nat} {p : Process} (h : table[i]? = some p) :
    table.set i p = table := by
  induction table generalizing i with
  | nil => rfl
  | cons q rest ih =>
      cases i with
      | zero =>
          obtain rfl : q = p := by simpa using h
          rfl
      | succ i => simpa using ih (by simpa using h)

/-- What a move keeps of the moved process it keeps of the table. -/
theorem map_set_of_eq {Subject : Type*} {subject : Process → Subject} {table : List Process}
    {i : Nat} {p moved : Process} (h : table[i]? = some p) (hSame : subject moved = subject p) :
    (table.set i moved).map subject = table.map subject := by
  rw [List.map_set, hSame]
  refine set_of_getElem? ?_
  rw [List.getElem?_map, h]
  rfl

/-- A process that comes to have a property adds itself to those that have it. -/
theorem any_set_of_false {has : Process → Bool} {table : List Process} {i : Nat}
    {p moved : Process} (h : table[i]? = some p) (hBefore : has p = false) :
    (table.set i moved).any has = (table.any has || has moved) := by
  induction table generalizing i with
  | nil => simp at h
  | cons q rest ih =>
      cases i with
      | zero =>
          obtain rfl : q = p := by simpa using h
          simp [hBefore, Bool.or_comm]
      | succ i => simp [ih (by simpa using h), Bool.or_assoc]

theorem any_set_of_eq {has : Process → Bool} {table : List Process} {i : Nat} {p moved : Process}
    (h : table[i]? = some p) (hSame : has moved = has p) :
    (table.set i moved).any has = table.any has := by
  have hMap := map_set_of_eq h hSame
  have hAny : ∀ processes : List Process, processes.any has = (processes.map has).any id := by
    simp [List.any_map]
  rw [hAny, hAny, hMap]

/-- An entry after a move is an untouched process or the moved one. This form is for tables that are
read by membership and not by index. -/
theorem mem_modify_cases {table : List Process} {i : Nat} {move : Process → Process} {p : Process}
    (h : p ∈ table.modify i move) : p ∈ table ∨ ∃ q, table[i]? = some q ∧ p = move q := by
  obtain ⟨j, hj⟩ := List.mem_iff_getElem?.mp h
  rw [List.getElem?_modify] at hj
  obtain ⟨q, hq, rfl⟩ := Option.map_eq_some_iff.mp hj
  by_cases hij : i = j
  · subst hij
    exact .inr ⟨q, hq, by simp⟩
  · rw [if_neg hij]
    exact .inl (List.mem_of_getElem? hq)

/-- A process is still there after a move, or it is the one that moved. -/
theorem mem_modify_of_mem {table : List Process} {i : Nat} {move : Process → Process} {p : Process}
    (h : p ∈ table) : p ∈ table.modify i move ∨
      table[i]? = some p ∧ move p ∈ table.modify i move := by
  obtain ⟨j, hj⟩ := List.mem_iff_getElem?.mp h
  by_cases hij : i = j
  · subst hij
    exact .inr ⟨hj, List.mem_iff_getElem?.mpr ⟨i, by simp [hj]⟩⟩
  · exact .inl (List.mem_iff_getElem?.mpr ⟨j, by simp [hj, hij]⟩)

/-- A move that ends what the predicate counts takes one away. -/
theorem countP_modify {counts : Process → Bool} {table : List Process} {i : Nat}
    {move : Process → Process} {p : Process} (h : table[i]? = some p) (hBefore : counts p = true)
    (hAfter : counts (move p) = false) :
    (table.modify i move).countP counts + 1 = table.countP counts := by
  induction table generalizing i with
  | nil => simp at h
  | cons q rest ih =>
      cases i with
      | zero =>
          obtain rfl : q = p := by simpa using h
          simp [hBefore, hAfter]
      | succ i =>
          have hRest := ih (by simpa using h)
          simp only [List.modify_succ_cons, List.countP_cons]
          omega

end ProcessTable
