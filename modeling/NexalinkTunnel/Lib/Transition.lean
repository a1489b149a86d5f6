import Mathlib.Data.List.Infix

/-!
Contract: machines that take one atomic step after another, and what holds in
every state they reach.

Owns runs with their history, the invariant rule, restricting a machine by a
further guard, when such a guard is exact, and the temporal relation "happened
since". Nothing here names a particular system.
-/

namespace NexalinkTunnel.Lib

variable {State Action : Type}

/-- A machine whose steps are total functions. `Enabled` says which actions the
environment may take after a history, in the state that history led to. -/
structure Machine (State Action : Type) where
  start : State
  Enabled : List Action → State → Action → Prop
  step : State → Action → State

namespace Machine

/-- `machine.Reaches history state`: the actions of `history`, oldest first, were
enabled one after another and led to `state`. -/
inductive Reaches (machine : Machine State Action) : List Action → State → Prop where
  | start : Reaches machine [] machine.start
  | step {history : List Action} {state : State} {action : Action} :
      Reaches machine history state → machine.Enabled history state action →
        Reaches machine (history ++ [action]) (machine.step state action)

variable {machine : Machine State Action} {history : List Action} {state : State}

/-- The invariant rule. The step premise may use that its source was reached. -/
theorem Reaches.invariant (reached : machine.Reaches history state)
    (Holds : List Action → State → Prop) (base : Holds [] machine.start)
    (preserved : ∀ history state action, machine.Reaches history state →
      machine.Enabled history state action → Holds history state →
        Holds (history ++ [action]) (machine.step state action)) :
    Holds history state := by
  induction reached with
  | start => exact base
  | step before enabled inductionHypothesis =>
      exact preserved _ _ _ before enabled inductionHypothesis

/-- Every action of a run was enabled when it was taken. -/
theorem Reaches.enabled_at (reached : machine.Reaches history state) {before after : List Action}
    {action : Action} (split : history = before ++ action :: after) :
    ∃ earlier, machine.Reaches before earlier ∧ machine.Enabled before earlier action := by
  induction reached generalizing before after with
  | start => simp at split
  | @step history state last reached enabled inductionHypothesis =>
      obtain rfl | ⟨middle, final, rfl⟩ := List.eq_nil_or_concat after
      · obtain ⟨rfl, same⟩ := List.append_inj' split rfl
        cases same
        exact ⟨state, reached, enabled⟩
      · have split' : history ++ [last] = (before ++ action :: middle) ++ [final] := by
          simpa using split
        exact inductionHypothesis (List.append_inj' split' rfl).1

/-- The same machine in an environment that also respects `guard`. -/
def restrict (machine : Machine State Action) (guard : List Action → State → Action → Prop) :
    Machine State Action :=
  { machine with
    Enabled := fun history state action =>
      machine.Enabled history state action ∧ guard history state action }

instance {guard : List Action → State → Action → Prop} (history : List Action) (state : State)
    (action : Action) [Decidable (machine.Enabled history state action)]
    [Decidable (guard history state action)] :
    Decidable ((machine.restrict guard).Enabled history state action) :=
  inferInstanceAs (Decidable (_ ∧ _))

theorem Reaches.of_restrict {guard : List Action → State → Action → Prop}
    (reached : (machine.restrict guard).Reaches history state) :
    machine.Reaches history state :=
  reached.invariant machine.Reaches .start fun _ _ _ _ enabled before => .step before enabled.1

/-- When each step keeps `Holds` exactly if it respects `guard`, a run ends in
`Holds` exactly if it respected `guard` throughout. -/
theorem Reaches.iff_restrict (reached : machine.Reaches history state)
    {guard : List Action → State → Action → Prop} (Holds : List Action → State → Prop)
    (base : Holds [] machine.start)
    (exact : ∀ history state action, machine.Reaches history state →
      machine.Enabled history state action →
        (Holds (history ++ [action]) (machine.step state action) ↔
          Holds history state ∧ guard history state action)) :
    Holds history state ↔ (machine.restrict guard).Reaches history state := by
  constructor
  · intro holds
    induction reached with
    | start => exact .start
    | step before enabled inductionHypothesis =>
        have split := (exact _ _ _ before enabled).mp holds
        exact .step (inductionHypothesis split.1) ⟨enabled, split.2⟩
  · intro restricted
    apply restricted.invariant Holds base
    intro history state action before enabled holds
    exact (exact _ _ _ before.of_restrict enabled.1).mpr ⟨holds, enabled.2⟩

/-- The machine that takes an action wherever `next` has a result for it. -/
def ofNext (start : State) (next : State → Action → Option State) : Machine State Action where
  start := start
  Enabled _ state action := (next state action).isSome
  step state action := (next state action).getD state

instance {start : State} {next : State → Action → Option State} (history : List Action)
    (state : State) (action : Action) :
    Decidable ((ofNext start next).Enabled history state action) :=
  inferInstanceAs (Decidable (_ = true))

theorem exists_next_of_enabled {start : State} {next : State → Action → Option State}
    {action : Action} (enabled : (ofNext start next).Enabled history state action) :
    ∃ after, next state action = some after ∧ (ofNext start next).step state action = after := by
  obtain ⟨after, found⟩ := Option.isSome_iff_exists.mp enabled
  exact ⟨after, found, by simp [ofNext, found]⟩

/-- The invariant rule, with the result of the step. -/
theorem Reaches.invariant_next {start : State} {next : State → Action → Option State}
    (reached : (ofNext start next).Reaches history state)
    (Holds : List Action → State → Prop) (base : Holds [] start)
    (preserved : ∀ history state action after, next state action = some after →
      Holds history state → Holds (history ++ [action]) after) :
    Holds history state := by
  apply reached.invariant Holds base
  intro history state action _ enabled holds
  obtain ⟨after, found, same⟩ := exists_next_of_enabled enabled
  rw [same]
  exact preserved history state action after found holds

theorem Reaches.next {start : State} {next : State → Action → Option State} {action : Action}
    {after : State} (reached : (ofNext start next).Reaches history state)
    (moved : next state action = some after) :
    (ofNext start next).Reaches (history ++ [action]) after := by
  have enabled : (ofNext start next).Enabled history state action := by simp [ofNext, moved]
  have stepped := Reaches.step reached enabled
  rwa [show (ofNext start next).step state action = after by simp [ofNext, moved]] at stepped

/-- What some action always brings closer is within reach. -/
theorem Reaches.exists_done {start : State} {next : State → Action → Option State}
    (reached : (ofNext start next).Reaches history state)
    (Done : List Action → State → Prop) (distance : List Action → State → Nat)
    (closer : ∀ history state, (ofNext start next).Reaches history state → ¬ Done history state →
      ∃ action after, next state action = some after ∧
        (Done (history ++ [action]) after ∨
          distance (history ++ [action]) after < distance history state)) :
    ∃ rest after, (ofNext start next).Reaches (history ++ rest) after ∧
      Done (history ++ rest) after := by
  generalize measure : distance history state = limit
  induction limit using Nat.strongRecOn generalizing history state with
  | ind limit inductionHypothesis =>
      by_cases done : Done history state
      · exact ⟨[], state, by simpa using reached, by simpa using done⟩
      · obtain ⟨action, after, moved, here | lower⟩ := closer history state reached done
        · exact ⟨[action], after, reached.next moved, here⟩
        · obtain ⟨rest, last, finished, there⟩ :=
            inductionHypothesis _ (measure ▸ lower) (reached.next moved) rfl
          rw [List.append_assoc] at finished there
          exact ⟨action :: rest, last, finished, there⟩

def runFrom (machine : Machine State Action) (state : State) (actions : List Action) : State :=
  actions.foldl machine.step state

def EnabledFrom (machine : Machine State Action) (history : List Action) (state : State) :
    List Action → Prop
  | [] => True
  | action :: actions =>
      machine.Enabled history state action ∧
        machine.EnabledFrom (history ++ [action]) (machine.step state action) actions

instance [∀ history state action, Decidable (machine.Enabled history state action)] :
    (history : List Action) → (state : State) → (actions : List Action) →
      Decidable (machine.EnabledFrom history state actions)
  | _, _, [] => .isTrue trivial
  | history, state, action :: actions =>
      have : Decidable (machine.EnabledFrom (history ++ [action]) (machine.step state action)
        actions) := instDecidableEnabledFromOfEnabled _ _ actions
      inferInstanceAs (Decidable (_ ∧ _))

theorem Reaches.extend (reached : machine.Reaches history state) {actions : List Action}
    (enabled : machine.EnabledFrom history state actions) :
    machine.Reaches (history ++ actions) (machine.runFrom state actions) := by
  induction actions generalizing history state with
  | nil => simpa [runFrom] using reached
  | cons action actions inductionHypothesis =>
      have next := inductionHypothesis (.step reached enabled.1) enabled.2
      simpa [runFrom] using next

theorem reaches_runFrom {actions : List Action}
    (enabled : machine.EnabledFrom [] machine.start actions) :
    machine.Reaches actions (machine.runFrom machine.start actions) :=
  Reaches.extend .start enabled

theorem Reaches.eq_runFrom (reached : machine.Reaches history state) :
    state = machine.runFrom machine.start history := by
  induction reached with
  | start => rfl
  | step before enabled inductionHypothesis => simp [runFrom, inductionHypothesis]

/-- The invariant rule from a state that a run has passed. -/
theorem Reaches.invariant_from {before rest : List Action} {earlier : State}
    (reached : machine.Reaches (before ++ rest) state) (passed : machine.Reaches before earlier)
    (Holds : State → Prop) (base : Holds earlier)
    (preserved : ∀ history state action, machine.Reaches history state →
      machine.Enabled history state action → Holds state → Holds (machine.step state action)) :
    Holds state := by
  generalize whole : before ++ rest = history at reached
  induction reached generalizing rest with
  | start =>
      obtain ⟨rfl, -⟩ := List.append_eq_nil_iff.mp whole
      rw [passed.eq_runFrom] at base
      exact base
  | @step history state action reached enabled inductionHypothesis =>
      obtain rfl | ⟨middle, last, rfl⟩ := List.eq_nil_or_concat rest
      · rw [List.append_nil] at whole
        subst whole
        rw [(Reaches.step reached enabled).eq_runFrom, ← passed.eq_runFrom]
        exact base
      · rw [List.concat_eq_append, ← List.append_assoc] at whole
        obtain ⟨split, -⟩ := List.append_inj' whole rfl
        exact preserved _ _ _ reached enabled (inductionHypothesis split)

/-- Every state that `history` passes through satisfies `Good`. -/
def Throughout (machine : Machine State Action) (Good : State → Prop) (history : List Action) :
    Prop :=
  ∀ before, before <+: history → Good (machine.runFrom machine.start before)

instance {Good : State → Prop} [DecidablePred Good] :
    Decidable (machine.Throughout Good history) :=
  decidable_of_iff (∀ before ∈ history.inits, Good (machine.runFrom machine.start before))
    (by simp [Throughout, List.mem_inits])

theorem throughout_append_singleton {Good : State → Prop} {action : Action} :
    machine.Throughout Good (history ++ [action]) ↔
      machine.Throughout Good history ∧
        Good (machine.runFrom machine.start (history ++ [action])) := by
  constructor
  · intro always
    exact ⟨fun before inside => always before (inside.trans (List.prefix_append _ _)),
      always _ (List.prefix_refl _)⟩
  · intro split before inside
    rcases List.prefix_concat_iff.mp inside with same | inside
    · exact same ▸ split.2
    · exact split.1 before inside

theorem Throughout.last {Good : State → Prop} (always : machine.Throughout Good history)
    (reached : machine.Reaches history state) : Good state :=
  reached.eq_runFrom ▸ always history (List.prefix_refl _)

/-- When a step from a good state leads to a good state exactly if it respects
`guard`, a run stays in good states exactly if it respects `guard`. -/
theorem Reaches.throughout_iff_restrict (reached : machine.Reaches history state)
    {guard : List Action → State → Action → Prop} (Good : State → Prop)
    (base : Good machine.start)
    (exact : ∀ history state action, machine.Reaches history state →
      machine.Enabled history state action → Good state →
        (Good (machine.step state action) ↔ guard history state action)) :
    machine.Throughout Good history ↔ (machine.restrict guard).Reaches history state := by
  apply reached.iff_restrict fun history _ => machine.Throughout Good history
  · intro before inside
    rw [List.prefix_nil.mp inside]
    exact base
  · intro history state action before enabled
    rw [throughout_append_singleton, ← (Reaches.step before enabled).eq_runFrom]
    exact and_congr_right fun always => exact _ _ _ before enabled (always.last before)

/-- The same for a machine given by a partial step. -/
theorem Reaches.throughout_iff_restrict_next {start : State}
    {next : State → Action → Option State} (reached : (ofNext start next).Reaches history state)
    {guard : List Action → State → Action → Prop} (Good : State → Prop) (base : Good start)
    (exact : ∀ history state action after, (ofNext start next).Reaches history state →
      next state action = some after → Good state →
        (Good after ↔ guard history state action)) :
    (ofNext start next).Throughout Good history ↔
      ((ofNext start next).restrict guard).Reaches history state := by
  apply reached.throughout_iff_restrict Good base
  intro history state action before enabled good
  obtain ⟨after, found, same⟩ := exists_next_of_enabled enabled
  rw [same]
  exact exact history state action after before found good

/-- When good states are reached from strong ones as strong ones only, a run that
stays in good states stays in strong ones. -/
theorem Reaches.throughout_congr (reached : machine.Reaches history state)
    {Good Strong : State → Prop} (base : Strong machine.start)
    (weaken : ∀ state, Strong state → Good state)
    (strengthen : ∀ state action, Strong state → Good (machine.step state action) →
      Strong (machine.step state action)) :
    machine.Throughout Good history ↔ machine.Throughout Strong history := by
  constructor
  · intro always
    induction reached with
    | start =>
        intro before inside
        rw [List.prefix_nil.mp inside]
        exact base
    | step before enabled inductionHypothesis =>
        have split := throughout_append_singleton.mp always
        have strong := inductionHypothesis split.1
        rw [throughout_append_singleton, ← (Reaches.step before enabled).eq_runFrom] at *
        exact ⟨strong, strengthen _ _ (strong.last before) split.2⟩
  · exact fun always before inside => weaken _ (always before inside)

end Machine

/-- Some action `happened`, and no action after it did `reset`. Both are
predicates of an action and of the history before it. -/
def Since (happened reset : List Action → Action → Prop) (history : List Action) : Prop :=
  ∃ before action after, history = before ++ action :: after ∧ happened before action ∧
    ∀ middle later rest, after = middle ++ later :: rest →
      ¬ reset (before ++ action :: middle) later

variable {happened reset : List Action → Action → Prop} {history : List Action}

@[simp] theorem not_since_nil : ¬ Since happened reset [] := by
  rintro ⟨before, action, after, split, -⟩
  simp at split

/-- One more action: it happened just now, or it had happened and stays so. -/
theorem since_append_singleton {action : Action} :
    Since happened reset (history ++ [action]) ↔
      happened history action ∨ (Since happened reset history ∧ ¬ reset history action) := by
  constructor
  · rintro ⟨before, earlier, after, split, occurred, kept⟩
    obtain rfl | ⟨middle, last, rfl⟩ := List.eq_nil_or_concat after
    · obtain ⟨rfl, same⟩ := List.append_inj' split rfl
      cases same
      exact .inl occurred
    · rw [List.concat_eq_append] at split kept
      have split' : history ++ [action] = (before ++ earlier :: middle) ++ [last] := by
        simpa using split
      obtain ⟨rfl, same⟩ := List.append_inj' split' rfl
      cases same
      refine .inr ⟨⟨before, earlier, middle, rfl, occurred, ?_⟩, kept middle action [] rfl⟩
      intro inner later rest inside
      refine kept inner later (rest ++ [action]) ?_
      rw [inside]
      simp
  · rintro (occurred | ⟨⟨before, earlier, after, rfl, occurred, kept⟩, unreset⟩)
    · exact ⟨history, action, [], rfl, occurred, fun middle later rest inside => by simp at inside⟩
    · refine ⟨before, earlier, after ++ [action], by simp, occurred, ?_⟩
      intro middle later rest inside
      obtain rfl | ⟨front, last, rfl⟩ := List.eq_nil_or_concat rest
      · obtain ⟨rfl, same⟩ := List.append_inj' inside rfl
        cases same
        exact unreset
      · rw [List.concat_eq_append] at inside
        have inside' : after ++ [action] = (middle ++ later :: front) ++ [last] := by
          simpa using inside
        obtain ⟨rfl, -⟩ := List.append_inj' inside' rfl
        exact kept middle later front rfl

/-- Whether some action happened since, read from the front: `so` answers for the
actions before. -/
def sinceFrom [∀ history action, Decidable (happened history action)]
    [∀ history action, Decidable (reset history action)] (before : List Action) (so : Bool) :
    List Action → Bool
  | [] => so
  | action :: rest =>
      sinceFrom (before ++ [action])
        (decide (happened before action) || (so && !decide (reset before action))) rest

private theorem sinceFrom_iff [∀ history action, Decidable (happened history action)]
    [∀ history action, Decidable (reset history action)] {before rest : List Action} {so : Bool}
    (right : so = true ↔ Since happened reset before) :
    @sinceFrom _ happened reset _ _ before so rest = true ↔
      Since happened reset (before ++ rest) := by
  induction rest generalizing before so with
  | nil => simpa [sinceFrom] using right
  | cons action rest inductionHypothesis =>
      rw [sinceFrom, inductionHypothesis, List.append_assoc, List.singleton_append]
      rw [since_append_singleton, ← right]
      simp

instance [∀ history action, Decidable (happened history action)]
    [∀ history action, Decidable (reset history action)] :
    Decidable (Since happened reset history) :=
  decidable_of_iff (@sinceFrom _ happened reset _ _ [] false history = true)
    (sinceFrom_iff (by simp))

end NexalinkTunnel.Lib
