/-
Module: DnsProxyServer.Lib.Runs
Purpose: Runs of a system whose events are not always enabled: the state after a
  list of events, and the rules that carry an invariant along it.
Trusted boundary: none
Main exports: Runs.run, Runs.run_append, Runs.AllSteps, Runs.invariant,
  Runs.invariant_of_allSteps, Runs.exists_run, Runs.countP_add_le, Runs.allSteps_iff
-/
import Mathlib.Data.Option.Basic

namespace Runs

variable {σ : Type*} {ε : Type*}

/-- The state after the events, `none` when one of them is not enabled. -/
def run (step : σ → ε → Option σ) : σ → List ε → Option σ
  | s, [] => some s
  | s, e :: events => (step s e).bind fun s' => run step s' events

variable {step : σ → ε → Option σ}

@[simp] theorem run_nil (s : σ) : run step s [] = some s := rfl

theorem run_cons {s s' : σ} {e : ε} {events : List ε} :
    run step s (e :: events) = some s' ↔ ∃ t, step s e = some t ∧ run step t events = some s' := by
  simp [run, Option.bind_eq_some_iff]

theorem run_append {s s' : σ} {before after : List ε} :
    run step s (before ++ after) = some s' ↔
      ∃ t, run step s before = some t ∧ run step t after = some s' := by
  induction before generalizing s with
  | nil => simp
  | cons e before inductionHypothesis =>
      constructor
      · intro whole
        obtain ⟨t, first, later⟩ := run_cons.mp whole
        obtain ⟨u, middle, last⟩ := inductionHypothesis.mp later
        exact ⟨u, run_cons.mpr ⟨t, first, middle⟩, last⟩
      · rintro ⟨u, whole, last⟩
        obtain ⟨t, first, middle⟩ := run_cons.mp whole
        exact run_cons.mpr ⟨t, first, inductionHypothesis.mpr ⟨u, middle, last⟩⟩

/-- Every event of the run meets a condition in the state it is taken in. -/
def AllSteps (step : σ → ε → Option σ) (P : σ → ε → Prop) : σ → List ε → Prop
  | _, [] => True
  | s, e :: events => P s e ∧ ∀ s', step s e = some s' → AllSteps step P s' events

theorem allSteps_of_append {P : σ → ε → Prop} {s : σ} {before later : List ε}
    (meets : AllSteps step P s (before ++ later)) : AllSteps step P s before := by
  induction before generalizing s with
  | nil => trivial
  | cons e before inductionHypothesis =>
      exact ⟨meets.1, fun t taken => inductionHypothesis (meets.2 t taken)⟩

theorem AllSteps.and {P Q : σ → ε → Prop} {s : σ} {events : List ε}
    (first : AllSteps step P s events) (second : AllSteps step Q s events) :
    AllSteps step (fun s e => P s e ∧ Q s e) s events := by
  induction events generalizing s with
  | nil => trivial
  | cons e events inductionHypothesis =>
      exact ⟨⟨first.1, second.1⟩,
        fun t taken => inductionHypothesis (first.2 t taken) (second.2 t taken)⟩

/-- What each step keeps when it meets the condition, a run keeps whose steps
all meet it. -/
theorem invariant_of_allSteps {P : σ → ε → Prop} {I : σ → Prop}
    (kept : ∀ s e s', P s e → step s e = some s' → I s → I s') {s s' : σ} {events : List ε}
    (meets : AllSteps step P s events) (ran : run step s events = some s') (start : I s) :
    I s' := by
  induction events generalizing s with
  | nil =>
      cases ran
      exact start
  | cons e events inductionHypothesis =>
      obtain ⟨t, first, later⟩ := run_cons.mp ran
      exact inductionHypothesis (meets.2 t first) later (kept s e t meets.1 first start)

/-- On given events the condition can be evaluated along the run. -/
instance AllSteps.decidable {P : σ → ε → Prop} [∀ s e, Decidable (P s e)] :
    ∀ (events : List ε) (s : σ), Decidable (AllSteps step P s events)
  | [], _ => isTrue trivial
  | e :: events, s =>
      match reached : step s e with
      | none => decidable_of_iff (P s e) ⟨fun holds => ⟨holds, by simp [reached]⟩, And.left⟩
      | some t =>
          have : Decidable (AllSteps step P t events) := AllSteps.decidable events t
          decidable_of_iff (P s e ∧ AllSteps step P t events) (by simp [AllSteps, reached])

theorem allSteps_true (s : σ) (events : List ε) : AllSteps step (fun _ _ => True) s events := by
  induction events generalizing s with
  | nil => trivial
  | cons e events inductionHypothesis => exact ⟨trivial, fun s' _ => inductionHypothesis s'⟩

/-- What each step keeps, every run keeps. -/
theorem invariant {I : σ → Prop} (kept : ∀ s e s', step s e = some s' → I s → I s') {s s' : σ}
    {events : List ε} (ran : run step s events = some s') (start : I s) : I s' :=
  invariant_of_allSteps (fun s e s' _ => kept s e s') (allSteps_true s events) ran start

/-- Where each step is taken and keeps a property, there is a run, and it keeps the property. -/
theorem exists_run {I : σ → Prop} (taken : ∀ s e, I s → ∃ s', step s e = some s' ∧ I s') {s : σ}
    (start : I s) (events : List ε) : ∃ s', run step s events = some s' ∧ I s' := by
  induction events generalizing s with
  | nil => exact ⟨s, rfl, start⟩
  | cons e events inductionHypothesis =>
      obtain ⟨t, first, next⟩ := taken s e start
      obtain ⟨s', later, last⟩ := inductionHypothesis next
      exact ⟨s', run_cons.mpr ⟨t, first, later⟩, last⟩

/-- When a step from a state with the property keeps it exactly under the condition, a
run keeps it in every state it reaches exactly when all its steps meet the condition. -/
theorem allSteps_iff {P : σ → ε → Prop} {I : σ → Prop}
    (exact : ∀ s e, I s → (P s e ↔ ∀ s', step s e = some s' → I s')) {s : σ} {events : List ε}
    (start : I s) :
    AllSteps step P s events ↔
      ∀ before later s', events = before ++ later → run step s before = some s' → I s' := by
  constructor
  · rintro meets before later s' rfl ran
    refine invariant_of_allSteps (P := P) (fun t e t' holds taken inv => ?_) ?_ ran start
    · exact (exact t e inv).mp holds t' taken
    · exact allSteps_of_append meets
  · intro holds
    induction events generalizing s with
    | nil => trivial
    | cons e events inductionHypothesis =>
        constructor
        · apply (exact s e start).mpr
          intro s' taken
          exact holds [e] events s' rfl (run_cons.mpr ⟨s', taken, rfl⟩)
        · intro t taken
          have next : I t := holds [e] events t rfl (run_cons.mpr ⟨t, taken, rfl⟩)
          apply inductionHypothesis next
          rintro before later s' rfl ran
          exact holds (e :: before) later s' rfl (run_cons.mpr ⟨t, taken, ran⟩)

end Runs
