/-
Module: DnsProxyServer.Lib.Interleaving
Purpose: Calls that share a state, each of them a sequence of atomic steps, interleaved
  with one another and with what others do to the state; and what a call may rely on
  between two of its steps.
Trusted boundary: none
Main exports: Interleaving.Calls, Interleaving.State, Interleaving.Event,
  Interleaving.Calls.step, Interleaving.Calls.alone, Interleaving.Calls.Spares,
  Interleaving.relied_of_run, Interleaving.stage_of_final, Interleaving.exists_own_step
-/
import DnsProxyServer.Lib.Runs
import Mathlib.Logic.Function.Basic

namespace Interleaving

variable {S ρ α ε ι : Type*} [DecidableEq ι]

/-- The next step of a call in a stage, on an input from elsewhere, and the effects of
others on the shared state. -/
structure Calls (S ρ α ε : Type*) where
  own : ρ → α → S → Option (ρ × S)
  outside : ε → S → S

structure State (S ρ ι : Type*) where
  shared : S
  stage : ι → ρ

inductive Event (ι α ε : Type*) where
  | own (i : ι) (input : α)
  | outside (e : ε)

namespace Calls

variable (calls : Calls S ρ α ε)

/-- One atomic step of one call, or of another party. -/
def step (s : State S ρ ι) : Event ι α ε → Option (State S ρ ι)
  | .own i input =>
      (calls.own (s.stage i) input s.shared).map fun next =>
        { shared := next.2, stage := Function.update s.stage i next.1 }
  | .outside e => some { s with shared := calls.outside e s.shared }

variable {calls}

theorem step_own {s s' : State S ρ ι} {i : ι} {input : α} :
    calls.step s (.own i input) = some s' ↔
      ∃ stage shared, calls.own (s.stage i) input s.shared = some (stage, shared) ∧
        s' = { shared := shared, stage := Function.update s.stage i stage } := by
  rw [step, Option.map_eq_some_iff]
  constructor
  · rintro ⟨⟨stage, shared⟩, taken, rfl⟩
    exact ⟨stage, shared, taken, rfl⟩
  · rintro ⟨stage, shared, taken, rfl⟩
    exact ⟨⟨stage, shared⟩, taken, rfl⟩

/-- A call that no other step comes between. -/
def alone (calls : Calls S ρ α ε) (start : ρ × S) (inputs : List α) : Option (ρ × S) :=
  Runs.run (fun now input => calls.own now.1 input now.2) start inputs

/-- The event leaves to the calls that do not take it what they rely on. -/
def Spares (calls : Calls S ρ α ε) (relies : ρ → S → Prop) (s : State S ρ ι) :
    Event ι α ε → Prop
  | .own i input => ∀ stage shared,
      calls.own (s.stage i) input s.shared = some (stage, shared) →
        ∀ j, j ≠ i → relies (s.stage j) s.shared → relies (s.stage j) shared
  | .outside e => ∀ j, relies (s.stage j) s.shared → relies (s.stage j) (calls.outside e s.shared)

end Calls

variable {calls : Calls S ρ α ε} {relies : ρ → S → Prop}

/-- Each call has what it relies on. -/
def State.Relied (relies : ρ → S → Prop) (s : State S ρ ι) : Prop :=
  ∀ i, relies (s.stage i) s.shared

/-- A call whose own steps establish what it relies on next keeps having it as long as it
is spared. -/
theorem relied_step
    (own : ∀ stage input shared stage' shared',
      calls.own stage input shared = some (stage', shared') → relies stage shared →
        relies stage' shared')
    {s s' : State S ρ ι} {e : Event ι α ε} (spares : calls.Spares relies s e)
    (taken : calls.step s e = some s') (relied : s.Relied relies) : s'.Relied relies := by
  cases e with
  | own i input =>
      obtain ⟨stage, shared, next, rfl⟩ := Calls.step_own.mp taken
      intro j
      by_cases same : j = i
      · subst same
        simp only [Function.update_self]
        exact own _ _ _ _ _ next (relied j)
      · simp only [Function.update_of_ne same]
        exact spares stage shared next j same (relied j)
  | outside e =>
      cases taken
      exact fun j => spares j (relied j)

/-- The rule for runs. -/
theorem relied_of_run {P : State S ρ ι → Event ι α ε → Prop}
    (own : ∀ stage input shared stage' shared',
      calls.own stage input shared = some (stage', shared') → relies stage shared →
        relies stage' shared')
    (spares : ∀ s e, P s e → calls.Spares relies s e)
    {s s' : State S ρ ι} {events : List (Event ι α ε)}
    (meets : Runs.AllSteps calls.step P s events) (ran : Runs.run calls.step s events = some s')
    (start : s.Relied relies) : s'.Relied relies :=
  Runs.invariant_of_allSteps
    (fun t e _ meets taken => relied_step own (spares t e meets) taken)
    meets ran start

/-- A call that has ended stays as it is. -/
theorem stage_of_final {i : ι} {stage : ρ}
    (final : ∀ input shared, calls.own stage input shared = none) {s s' : State S ρ ι}
    {events : List (Event ι α ε)} (ran : Runs.run calls.step s events = some s')
    (here : s.stage i = stage) : s'.stage i = stage := by
  refine Runs.invariant (I := fun s => s.stage i = stage) (fun s e s' taken here => ?_) ran here
  cases e with
  | own j input =>
      obtain ⟨stage', shared, next, rfl⟩ := Calls.step_own.mp taken
      have other : i ≠ j := by
        rintro rfl
        rw [here, final] at next
        cases next
      exact (Function.update_of_ne other stage' s.stage).trans here
  | outside e =>
      cases taken
      exact here

/-- A call that has come to a stage with a property took a step to one. -/
theorem exists_own_step {Q : ρ → Prop} {i : ι} {events : List (Event ι α ε)} :
    ∀ {s s' : State S ρ ι}, Runs.run calls.step s events = some s' →
      ¬ Q (s.stage i) → Q (s'.stage i) →
      ∃ earlier input later t stage shared, events = earlier ++ .own i input :: later ∧
        Runs.run calls.step s earlier = some t ∧
        calls.own (t.stage i) input t.shared = some (stage, shared) ∧
        ¬ Q (t.stage i) ∧ Q stage := by
  induction events with
  | nil =>
      intro s s' ran before after
      cases ran
      exact absurd after before
  | cons e events inductionHypothesis =>
      intro s s' ran before after
      obtain ⟨t, taken, later⟩ := Runs.run_cons.mp ran
      by_cases here : Q (t.stage i)
      · cases e with
        | outside e =>
            cases taken
            exact absurd here before
        | own j input =>
            obtain ⟨stage, shared, next, rfl⟩ := Calls.step_own.mp taken
            by_cases same : i = j
            · subst same
              simp only [Function.update_self] at here
              exact ⟨[], input, events, s, stage, shared, rfl, rfl, next, before, here⟩
            · simp only [Function.update_of_ne same] at here
              exact absurd here before
      · obtain ⟨earlier, input, rest, u, stage, shared, rfl, ranEarlier, next, notYet, now⟩ :=
          inductionHypothesis later here after
        exact ⟨e :: earlier, input, rest, u, stage, shared, rfl,
          Runs.run_cons.mpr ⟨t, taken, ranEarlier⟩, next, notYet, now⟩

end Interleaving
