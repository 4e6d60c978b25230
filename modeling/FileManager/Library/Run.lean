import Mathlib.Data.List.Basic

/-!
**Deterministic labelled transition systems and their runs.**

A step is a partial function `step : State → Label → Option State`. The label carries every
choice the environment makes (which party moves, what its awaited call returned, what the clock
read), so the system is deterministic given its labels, a run is a fold of `step` over a list of
labels, and a concrete run can be evaluated.

* `run step s labels` — the state the labels lead to from `s`, if every step is enabled.
* `Reachable step init s` — some run from `init` ends in `s`; `Reachable.run` — and so does every
  run that goes on from there.
* `run_invariant` — an invariant kept by every allowed step holds after every run of allowed
  steps; `reachable_invariant` is the case of the reachable states.
* `run_simulation` — a relation that every step of one side can match step for step on the
  other side relates the ends of matching runs.
* `run_rel` — a preorder every step moves along relates the ends of a run; `run_countP_le` — a
  potential that no step raises and every counted step lowers bounds the counted steps.
* `drain` — a measure that some allowed step lowers in every busy state bounds a run of allowed
  steps that ends in a state that is not busy.
* `drawsAlong` and **`run_invariant_fresh`** — a step may *draw* a value (a clock reading, a
  generated name). When all the draws of a run are pairwise distinct, an invariant indexed by the
  draws made so far may assume, at each step, that the new draw is fresh.
-/

namespace Transition

variable {State Label Draw : Type}

/-! ### Runs -/

/-- The state a list of labels leads to from `s`, or `none` if one of the steps is not
enabled. -/
def run (step : State → Label → Option State) (s : State) : List Label → Option State
  | [] => some s
  | label :: rest => (step s label).bind fun next => run step next rest

section Runs

variable {step : State → Label → Option State}

@[simp] theorem run_nil (s : State) : run step s [] = some s := rfl

@[simp] theorem run_cons (s : State) (label : Label) (rest : List Label) :
    run step s (label :: rest) = (step s label).bind fun next => run step next rest := rfl

/-- A run of a concatenation is the second run started where the first one ends. -/
theorem run_append (s : State) (first second : List Label) :
    run step s (first ++ second) = (run step s first).bind fun mid => run step mid second := by
  induction first generalizing s with
  | nil => rfl
  | cons label rest ih =>
    simp only [List.cons_append, run_cons]
    cases step s label with
    | none => rfl
    | some next => exact ih next

/-- A successful run is a successful first step followed by a successful run. -/
theorem run_cons_eq_some {s final : State} {label : Label} {rest : List Label}
    (ran : run step s (label :: rest) = some final) :
    ∃ next, step s label = some next ∧ run step next rest = some final := by
  rw [run_cons, Option.bind_eq_some_iff] at ran
  exact ran

/-- The states reachable from `init`. -/
def Reachable (step : State → Label → Option State) (init s : State) : Prop :=
  ∃ labels, run step init labels = some s

/-- A run from a reachable state ends in a reachable state. -/
theorem Reachable.run {init s final : State} {labels : List Label} (reachable : Reachable step init s)
    (ran : run step s labels = some final) : Reachable step init final := by
  obtain ⟨before, ranBefore⟩ := reachable
  exact ⟨before ++ labels, by rw [run_append, ranBefore]; exact ran⟩

/-- **An invariant kept by every allowed step holds after every run of allowed steps.** -/
theorem run_invariant (allowed : Label → Prop) (inv : State → Prop)
    (keep : ∀ s label s', allowed label → inv s → step s label = some s' → inv s') :
    ∀ (labels : List Label) (s final : State), (∀ label ∈ labels, allowed label) → inv s →
      run step s labels = some final → inv final := by
  intro labels
  induction labels with
  | nil =>
    intro s final _ holds ran
    cases ran
    exact holds
  | cons label rest ih =>
    intro s final allowedAll holds ran
    obtain ⟨next, stepped, rest_ran⟩ := run_cons_eq_some ran
    have allowedHead : allowed label := allowedAll label List.mem_cons_self
    exact ih next final (fun l member => allowedAll l (List.mem_cons_of_mem _ member))
      (keep s label next allowedHead holds stepped) rest_ran

/-- **Every reachable state satisfies an invariant that holds initially and is kept by every
step.** -/
theorem reachable_invariant (inv : State → Prop) {init : State} (initial : inv init)
    (keep : ∀ s label s', inv s → step s label = some s' → inv s') {s : State}
    (reachable : Reachable step init s) : inv s := by
  obtain ⟨labels, ran⟩ := reachable
  exact run_invariant (fun _ => True) inv (fun s label s' _ => keep s label s') labels init s
    (fun _ _ => trivial) initial ran

/-- **Lock-step simulation.** If from related states every step has a matching step, with a
matching label, to related states, then every run has a matching run to related states. -/
theorem run_simulation (related : State → State → Prop) (matching : Label → Label → Prop)
    (simulate : ∀ s t label label' s', related s t → matching label label' →
      step s label = some s' → ∃ t', step t label' = some t' ∧ related s' t') :
    ∀ (labels labels' : List Label) (s t final : State), List.Forall₂ matching labels labels' →
      related s t → run step s labels = some final →
      ∃ final', run step t labels' = some final' ∧ related final final' := by
  intro labels labels' s t final matched
  induction matched generalizing s t with
  | nil =>
    intro holds ran
    cases ran
    exact ⟨t, rfl, holds⟩
  | cons headMatch _ ih =>
    intro holds ran
    obtain ⟨next, stepped, rest_ran⟩ := run_cons_eq_some ran
    obtain ⟨next', stepped', related'⟩ := simulate _ _ _ _ _ holds headMatch stepped
    obtain ⟨final', ran', relatedFinal⟩ := ih next next' related' rest_ran
    exact ⟨final', by rw [run_cons, stepped']; exact ran', relatedFinal⟩

/-- **A reflexive, transitive relation that every step moves along holds between the ends of a
run.** -/
theorem run_rel (inv : State → Prop) (R : State → State → Prop) (refl : ∀ s, R s s)
    (trans : ∀ s s' s'', R s s' → R s' s'' → R s s'')
    (keep : ∀ s label s', inv s → step s label = some s' → inv s')
    (move : ∀ s label s', inv s → step s label = some s' → R s s') :
    ∀ (labels : List Label) (s final : State), inv s → run step s labels = some final → R s final := by
  intro labels
  induction labels with
  | nil =>
    intro s final _ ran
    cases ran
    exact refl s
  | cons label rest ih =>
    intro s final holds ran
    obtain ⟨next, stepped, restRan⟩ := run_cons_eq_some ran
    exact trans s next final (move s label next holds stepped)
      (ih next final (keep s label next holds stepped) restRan)

/-- **A potential bounds the counted steps.** If no step raises the potential and every counted
step lowers it, a run takes at most as many counted steps as the potential it starts from. -/
theorem run_countP_le (inv : State → Prop) (potential : State → Nat) (counted : Label → Bool)
    (keep : ∀ s label s', inv s → step s label = some s' → inv s')
    (lower : ∀ s label s', inv s → step s label = some s' →
      potential s' + (if counted label then 1 else 0) ≤ potential s) :
    ∀ (labels : List Label) (s final : State), inv s → run step s labels = some final →
      labels.countP counted + potential final ≤ potential s := by
  intro labels
  induction labels with
  | nil =>
    intro s final _ ran
    cases ran
    simp
  | cons label rest ih =>
    intro s final holds ran
    obtain ⟨next, stepped, restRan⟩ := run_cons_eq_some ran
    have rest_bound := ih next final (keep s label next holds stepped) restRan
    have head_bound := lower s label next holds stepped
    rw [List.countP_cons]
    omega

/-- **A measure that every busy state can lower drains the system.** If from every busy state
that satisfies `inv` some allowed step lowers the measure, and allowed steps keep `inv`, then from
every state that satisfies `inv` a run of allowed steps, no longer than the measure, ends in a
state that satisfies `inv` and is not busy. -/
theorem drain (allowed : Label → Prop) (inv busy : State → Prop) (measure : State → Nat)
    (keep : ∀ s label s', allowed label → inv s → step s label = some s' → inv s')
    (lower : ∀ s, inv s → busy s →
      ∃ label s', allowed label ∧ step s label = some s' ∧ measure s' < measure s) :
    ∀ s, inv s → ∃ labels final, (∀ label ∈ labels, allowed label) ∧
      labels.length ≤ measure s ∧ run step s labels = some final ∧ inv final ∧ ¬ busy final := by
  intro s holds
  obtain ⟨left, counted⟩ : ∃ left, measure s = left := ⟨_, rfl⟩
  -- by strong induction on the measure: each step taken from a busy state lowers it
  induction left using Nat.strongRecOn generalizing s with
  | ind left ih =>
    by_cases busyNow : busy s
    · obtain ⟨label, next, allowedHead, stepped, fewer⟩ := lower s holds busyNow
      obtain ⟨labels, final, allowedRest, bounded, ran, holdsFinal, idle⟩ :=
        ih _ (counted ▸ fewer) next (keep s label next allowedHead holds stepped) rfl
      refine ⟨label :: labels, final, ?_, ?_, ?_, holdsFinal, idle⟩
      · intro l member
        rcases List.mem_cons.mp member with rfl | later
        · exact allowedHead
        · exact allowedRest l later
      · simp only [List.length_cons]
        omega
      · rw [run_cons, stepped, Option.bind_some]
        exact ran
    · exact ⟨[], s, fun _ member => absurd member List.not_mem_nil, Nat.zero_le _, rfl, holds,
        busyNow⟩

end Runs

/-! ### Draws along a run -/

section Draws

variable (step : State → Label → Option State) (draw : State → Label → Option Draw)

/-- The values drawn along a run, in order: `draw s label` is what the step of `label` from `s`
draws, if anything. A run that stops early draws nothing after the step that is not enabled. -/
def drawsAlong (s : State) : List Label → List Draw
  | [] => []
  | label :: rest =>
    (draw s label).toList ++
      match step s label with
      | some next => drawsAlong next rest
      | none => []

@[simp] theorem drawsAlong_nil (s : State) : drawsAlong step draw s [] = [] := rfl

theorem drawsAlong_cons_of_step {s next : State} {label : Label} (rest : List Label)
    (stepped : step s label = some next) :
    drawsAlong step draw s (label :: rest) = (draw s label).toList ++ drawsAlong step draw next rest := by
  simp only [drawsAlong, stepped]

/-- **Fresh-draw induction.** Let `inv past s` say that `s` is well formed given the values
`past` drawn so far. If every allowed step keeps it whenever its own draw avoids `past`, then a
run of allowed steps whose draws are pairwise distinct (together with `past`) keeps it. -/
theorem run_invariant_fresh (allowed : Label → Prop) (inv : List Draw → State → Prop)
    (keep : ∀ past s label s', allowed label → inv past s → step s label = some s' →
      (∀ d ∈ (draw s label).toList, d ∉ past) → inv (past ++ (draw s label).toList) s') :
    ∀ (labels : List Label) (past : List Draw) (s final : State),
      (∀ label ∈ labels, allowed label) → inv past s → run step s labels = some final →
      (past ++ drawsAlong step draw s labels).Nodup →
      inv (past ++ drawsAlong step draw s labels) final := by
  intro labels
  induction labels with
  | nil =>
    intro past s final _ holds ran _
    cases ran
    simpa using holds
  | cons label rest ih =>
    intro past s final allowedAll holds ran distinct
    obtain ⟨next, stepped, rest_ran⟩ := run_cons_eq_some ran
    rw [drawsAlong_cons_of_step step draw rest stepped, ← List.append_assoc] at distinct ⊢
    -- the draw of this step is fresh because the whole list of draws has no duplicate
    have fresh : ∀ d ∈ (draw s label).toList, d ∉ past := by
      intro d member before
      have headDistinct := (List.nodup_append.mp distinct).1
      exact (List.nodup_append.mp headDistinct).2.2 d before d member rfl
    exact ih (past ++ (draw s label).toList) next final
      (fun l member => allowedAll l (List.mem_cons_of_mem _ member))
      (keep past s label next (allowedAll label List.mem_cons_self) holds stepped fresh)
      rest_ran distinct

end Draws

end Transition
