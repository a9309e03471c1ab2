/-
Module: DnsProxyServer.Lib.Handlers
Purpose: Handlers that are asked one after another, each in the state the one before
  it left, until one of them decides.
Trusted boundary: none
Main exports: Handlers.results, Handlers.first, Handlers.final,
  Handlers.mem_results_of_first, Handlers.first_mem, Handlers.invariant_first,
  Handlers.invariant_final
-/
import Mathlib.Data.List.Basic

namespace Handlers

variable {σ : Type*} {α : Type*}

/-- What the handlers would do if none of them decided. -/
def results : List (σ → α × σ) → σ → List (α × σ)
  | [], _ => []
  | handler :: handlers, s => handler s :: results handlers (handler s).2

/-- The state after all handlers. -/
def final : List (σ → α × σ) → σ → σ
  | [], s => s
  | handler :: handlers, s => final handlers (handler s).2

/-- The first result that decides. -/
def first (decides : α → Bool) (handlers : List (σ → α × σ)) (s : σ) : Option (α × σ) :=
  (results handlers s).find? fun result => decides result.1

variable {decides : α → Bool} {handler : σ → α × σ} {handlers : List (σ → α × σ)} {s : σ}
  {result : α × σ}

@[simp] theorem first_nil : first decides [] s = none := rfl

theorem first_cons_of_decides (decided : decides (handler s).1 = true) :
    first decides (handler :: handlers) s = some (handler s) :=
  List.find?_cons_of_pos decided

theorem first_cons_of_passes (passed : decides (handler s).1 = false) :
    first decides (handler :: handlers) s = first decides handlers (handler s).2 :=
  List.find?_cons_of_neg (by simp [passed])

/-- Handlers after one that decides are not asked. -/
theorem first_append_of_some {later : List (σ → α × σ)}
    (found : first decides handlers s = some result) :
    first decides (handlers ++ later) s = some result := by
  induction handlers generalizing s with
  | nil => simp at found
  | cons handler handlers inductionHypothesis =>
      rw [List.cons_append]
      cases decided : decides (handler s).1 with
      | true =>
          rw [first_cons_of_decides decided] at found ⊢
          exact found
      | false =>
          rw [first_cons_of_passes decided] at found ⊢
          exact inductionHypothesis found

theorem mem_results_of_first (found : first decides handlers s = some result) :
    result ∈ results handlers s ∧ decides result.1 = true :=
  ⟨List.mem_of_find?_eq_some found, List.find?_some (p := fun r : α × σ => decides r.1) found⟩

/-- What every handler keeps holds of the state in which one of them decides. -/
theorem first_mem {I : σ → Prop} (kept : ∀ handler ∈ handlers, ∀ s, I s → I (handler s).2)
    (start : I s) (found : first decides handlers s = some result) :
    ∃ handler ∈ handlers, ∃ t, I t ∧ handler t = result := by
  induction handlers generalizing s with
  | nil => simp at found
  | cons handler handlers inductionHypothesis =>
      cases decided : decides (handler s).1 with
      | true =>
          rw [first_cons_of_decides decided] at found
          exact ⟨handler, List.mem_cons_self, s, start, Option.some.inj found⟩
      | false =>
          rw [first_cons_of_passes decided] at found
          obtain ⟨later, member, t, holds, same⟩ := inductionHypothesis
            (fun h member => kept h (List.mem_cons_of_mem _ member))
            (kept handler List.mem_cons_self s start) found
          exact ⟨later, List.mem_cons_of_mem _ member, t, holds, same⟩

/-- What every handler keeps is kept, whoever decides. -/
theorem invariant_first {I : σ → Prop} (kept : ∀ handler ∈ handlers, ∀ s, I s → I (handler s).2)
    (start : I s) (found : first decides handlers s = some result) : I result.2 := by
  obtain ⟨handler, member, t, holds, same⟩ := first_mem kept start found
  rw [← same]
  exact kept handler member t holds

theorem invariant_final {I : σ → Prop} (kept : ∀ handler ∈ handlers, ∀ s, I s → I (handler s).2)
    (start : I s) : I (final handlers s) := by
  induction handlers generalizing s with
  | nil => exact start
  | cons handler handlers inductionHypothesis =>
      exact inductionHypothesis (fun h member => kept h (List.mem_cons_of_mem _ member))
        (kept handler List.mem_cons_self s start)

end Handlers
