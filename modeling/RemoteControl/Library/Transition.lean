/-
This file develops labelled transition systems whose actions carry every
outcome of the environment, so that an action determines the next state. Runs
are lists of actions; an invariant is proved once per action and holds of every
reachable state.
-/

import Mathlib.Data.List.Induction

namespace Transition

/-- A transition system: where runs start, which actions the environment may take in a state,
and what an action does. -/
structure System (State Action : Type*) where
  initial : State → Prop
  allowed : State → Action → Prop
  next : State → Action → State

variable {State Action : Type*} (system : System State Action)

/-- The states some run leads to. -/
inductive System.Reachable : State → Prop where
  | start {state : State} (initial : system.initial state) : Reachable state
  | step {state : State} {action : Action} (reachable : Reachable state)
      (allowed : system.allowed state action) : Reachable (system.next state action)

/-- The state behind a list of actions. -/
def System.run (state : State) (actions : List Action) : State := actions.foldl system.next state

/-- Every action of the list is allowed when its turn comes. -/
def System.Allows : State → List Action → Prop
  | _, [] => True
  | state, action :: rest => system.allowed state action ∧ Allows (system.next state action) rest

instance System.decidableAllows [∀ state action, Decidable (system.allowed state action)] :
    ∀ state actions, Decidable (system.Allows state actions)
  | _, [] => isTrue trivial
  | state, action :: rest =>
    have := decidableAllows (system.next state action) rest
    inferInstanceAs (Decidable (system.allowed state action ∧ _))

variable {system}

theorem System.run_cons (state : State) (action : Action) (rest : List Action) :
    system.run state (action :: rest) = system.run (system.next state action) rest := rfl

theorem System.run_append (state : State) (first second : List Action) :
    system.run state (first ++ second) = system.run (system.run state first) second :=
  List.foldl_append

theorem System.allows_append {state : State} {first second : List Action} :
    system.Allows state (first ++ second) ↔
      system.Allows state first ∧ system.Allows (system.run state first) second := by
  induction first generalizing state with
  | nil => exact ⟨fun allows => ⟨trivial, allows⟩, fun allows => allows.2⟩
  | cons action rest inductionHypothesis =>
    rw [List.cons_append, System.Allows, System.Allows, inductionHypothesis, and_assoc]
    rfl

/-- Allowed actions lead from one state to another. -/
def System.Leads (system : System State Action) (before after : State) : Prop :=
  ∃ actions, system.Allows before actions ∧ system.run before actions = after

theorem System.Leads.refl (state : State) : system.Leads state state := ⟨[], trivial, rfl⟩

theorem System.Leads.trans {first second third : State} (left : system.Leads first second)
    (right : system.Leads second third) : system.Leads first third := by
  obtain ⟨before, allowsBefore, rfl⟩ := left
  obtain ⟨after, allowsAfter, rfl⟩ := right
  exact ⟨before ++ after, System.allows_append.mpr ⟨allowsBefore, allowsAfter⟩,
    System.run_append _ _ _⟩

theorem System.Leads.single {state : State} {action : Action}
    (allowed : system.allowed state action) : system.Leads state (system.next state action) :=
  ⟨[action], ⟨allowed, trivial⟩, rfl⟩

/-- What every allowed step does to a state, all of them together do. -/
theorem System.Leads.relates {related : State → State → Prop}
    (refl : ∀ state, related state state)
    (trans : ∀ {first second third}, related first second → related second third →
      related first third)
    (steps : ∀ state action, system.allowed state action → related state (system.next state action))
    {before after : State} (leads : system.Leads before after) : related before after := by
  obtain ⟨actions, allows, rfl⟩ := leads
  induction actions generalizing before with
  | nil => exact refl before
  | cons action rest inductionHypothesis =>
    exact trans (steps before action allows.1) (inductionHypothesis allows.2)

/-- A step by a given action. -/
theorem System.Reachable.take {state : State} (reachable : system.Reachable state)
    (action : Action) (allowed : system.allowed state action) :
    system.Reachable (system.next state action) := reachable.step allowed

/-- A run from a reachable state ends in a reachable state. -/
theorem System.Reachable.run {state : State} {actions : List Action}
    (reachable : system.Reachable state) (allows : system.Allows state actions) :
    system.Reachable (system.run state actions) := by
  induction actions generalizing state with
  | nil => exact reachable
  | cons action rest inductionHypothesis =>
    exact inductionHypothesis (reachable.step allows.1) allows.2

theorem System.Reachable.leads {before after : State} (reachable : system.Reachable before)
    (leads : system.Leads before after) : system.Reachable after := by
  obtain ⟨actions, allows, rfl⟩ := leads
  exact reachable.run allows

/-- An invariant of every allowed action, taken in reachable states, holds wherever a run
leads. -/
theorem System.Reachable.invariant {holds : State → Prop}
    (initially : ∀ state, system.initial state → holds state)
    (preserved : ∀ state action, system.Reachable state → holds state →
      system.allowed state action → holds (system.next state action))
    {state : State} (reachable : system.Reachable state) : holds state := by
  induction reachable with
  | start initial => exact initially _ initial
  | step reachable allowed inductionHypothesis =>
    exact preserved _ _ reachable inductionHypothesis allowed

/-! ### Runs whose steps meet a condition -/

/-- The system with a further condition on its steps. -/
def System.restrict (system : System State Action) (meets : State → Action → Prop) :
    System State Action :=
  { system with allowed := fun state action => system.allowed state action ∧ meets state action }

instance (meets : State → Action → Prop) [∀ state action, Decidable (system.allowed state action)]
    [∀ state action, Decidable (meets state action)] (state : State) (action : Action) :
    Decidable ((system.restrict meets).allowed state action) :=
  inferInstanceAs (Decidable (system.allowed state action ∧ meets state action))

/-- A run whose steps meet the condition leads the restricted system to the same state. -/
theorem System.Reachable.run_restrict {meets : State → Action → Prop} {state : State}
    {actions : List Action} (reachable : (system.restrict meets).Reachable state)
    (allows : (system.restrict meets).Allows state actions) :
    (system.restrict meets).Reachable (system.run state actions) := reachable.run allows

theorem System.Reachable.of_restrict {meets : State → Action → Prop} {state : State}
    (reachable : (system.restrict meets).Reachable state) : system.Reachable state := by
  induction reachable with
  | start initial => exact .start initial
  | step _ allowed inductionHypothesis => exact inductionHypothesis.step allowed.1

/-- A condition that every allowed step meets restricts nothing. -/
theorem System.Reachable.restrict {meets : State → Action → Prop}
    (always : ∀ state action, system.allowed state action → meets state action) {state : State}
    (reachable : system.Reachable state) : (system.restrict meets).Reachable state := by
  induction reachable with
  | start initial => exact .start initial
  | step _ allowed inductionHypothesis =>
    exact inductionHypothesis.step ⟨allowed, always _ _ allowed⟩

/-! ### Bounded progress -/

/-- Every step keeps a condition and does not raise a rank, and steps of a kind lower it. Then a
run keeps the condition, and takes at most as many steps of the kind as the rank. -/
theorem System.Allows.progress {holds : State → Prop} {kind : Action → Bool} {rank : State → Nat}
    (steps : ∀ state action, holds state → system.allowed state action →
      holds (system.next state action) ∧
        (kind action = true → rank (system.next state action) < rank state) ∧
        (kind action = false → rank (system.next state action) ≤ rank state))
    {state : State} (start : holds state) {actions : List Action}
    (allows : system.Allows state actions) :
    holds (system.run state actions) ∧
      actions.countP kind + rank (system.run state actions) ≤ rank state := by
  induction actions generalizing state with
  | nil => exact ⟨start, by simp [System.run]⟩
  | cons action rest inductionHypothesis =>
    obtain ⟨kept, lowers, keeps⟩ := steps state action start allows.1
    obtain ⟨holdsAfter, later⟩ := inductionHypothesis kept allows.2
    rw [System.run_cons]
    refine ⟨holdsAfter, ?_⟩
    cases counted : kind action with
    | true =>
      have lower := lowers counted
      rw [List.countP_cons_of_pos counted]
      omega
    | false =>
      have notHigher := keeps counted
      rw [List.countP_cons_of_neg (by simp [counted])]
      omega

/-! ### What has held since a step -/

/-- The state behind a step and what follows it, in the system with a condition. -/
theorem System.run_restrict_after (meets : State → Action → Prop) (state : State)
    (before : List Action) (action : Action) (after : List Action) :
    (system.restrict meets).run (system.run state (before ++ [action])) after =
      system.run state (before ++ action :: after) := by
  rw [List.append_cons before action after, System.run_append state (before ++ [action]) after]
  rfl

/-- A property that some steps begin and others end holds behind a run exactly when a step of the
run has begun it and none has ended it since. -/
theorem System.holds_iff_since {holds : State → Prop} {begins ends : State → Action → Prop}
    (changes : ∀ state action, holds (system.next state action) ↔
      begins state action ∨ holds state ∧ ¬ ends state action)
    {state : State} (initially : ¬ holds state) {actions : List Action}
    (allows : system.Allows state actions) :
    holds (system.run state actions) ↔
      ∃ before action after, actions = before ++ action :: after ∧
        begins (system.run state before) action ∧
        (system.restrict fun state action => ¬ ends state action).Allows
          (system.run state (before ++ [action])) after := by
  induction actions using List.reverseRecOn with
  | nil =>
    refine iff_of_false initially ?_
    rintro ⟨before, action, after, whole, -⟩
    simp at whole
  | append_singleton actions last inductionHypothesis =>
    obtain ⟨earlier, allowed, -⟩ := System.allows_append.mp allows
    rw [System.run_append]
    refine (changes (system.run state actions) last).trans ⟨?_, ?_⟩
    · rintro (begun | ⟨held, lasting⟩)
      · exact ⟨actions, last, [], rfl, begun, trivial⟩
      · obtain ⟨before, action, after, rfl, begun, lasts⟩ := (inductionHypothesis earlier).mp held
        refine ⟨before, action, after ++ [last], by simp, begun, ?_⟩
        rw [System.allows_append, System.run_restrict_after]
        exact ⟨lasts, ⟨allowed, lasting⟩, trivial⟩
    · rintro ⟨before, action, after, whole, begun, lasts⟩
      rcases after.eq_nil_or_concat with rfl | ⟨between, final, rfl⟩
      · obtain ⟨rfl, same⟩ := List.append_inj' whole rfl
        cases same
        exact .inl begun
      · obtain ⟨rfl, same⟩ : actions = before ++ action :: between ∧ [last] = [final] :=
          List.append_inj' (whole.trans (by simp)) rfl
        cases same
        rw [List.concat_eq_append, System.allows_append, System.run_restrict_after] at lasts
        obtain ⟨lastsBetween, ⟨-, lasting⟩, -⟩ := lasts
        exact .inr ⟨(inductionHypothesis earlier).mpr
          ⟨before, action, between, rfl, begun, lastsBetween⟩, lasting⟩

end Transition
