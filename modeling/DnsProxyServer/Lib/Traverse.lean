/-
Module: DnsProxyServer.Lib.Traverse
Purpose: A list read element by element by a function that can fail.
Trusted boundary: none
Main exports: Traverse.mapM_eq_ok_iff, Traverse.mapM_ok_of_forall,
  Traverse.exists_getElem?_of_forall₂, Traverse.exists_mapM_ok,
  Traverse.exists_mapM_eq_ok_iff, Traverse.exists_mapM_ok_map,
  Traverse.exists_of_mem_mapM, Traverse.exists_of_mapM_error
-/
import Mathlib.Data.List.Forall2

namespace Traverse

variable {α β ε : Type} {f : α → Except ε β} {l : List α}

/-- Reading a list succeeds exactly when each element is read. -/
theorem mapM_eq_ok_iff : ∀ {l : List α} {ys : List β},
    l.mapM f = .ok ys ↔ List.Forall₂ (fun x y => f x = .ok y) l ys := by
  intro l
  induction l with
  | nil =>
      intro ys
      rw [List.mapM_nil, List.forall₂_nil_left_iff]
      constructor
      · intro read
        cases read
        rfl
      · rintro rfl
        rfl
  | cons x rest inductionHypothesis =>
      intro ys
      rw [List.mapM_cons, List.forall₂_cons_left_iff]
      simp only [← inductionHypothesis]
      cases first : f x with
      | error failure => simp [bind, Except.bind]
      | ok y =>
          cases later : rest.mapM f with
          | error failure => simp [bind, Except.bind]
          | ok zs => simp [bind, Except.bind, pure, Except.pure, eq_comm]

theorem mapM_ok_of_forall {g : α → β} (returns : ∀ x ∈ l, f x = .ok (g x)) :
    l.mapM f = .ok (l.map g) := by
  rw [mapM_eq_ok_iff, List.forall₂_map_right_iff, List.forall₂_same]
  exact returns

/-- Related lists are related at every place. -/
theorem exists_getElem?_of_forall₂ {R : α → β → Prop} {ys : List β} (each : List.Forall₂ R l ys) :
    ∀ {i : ℕ} {x : α}, l[i]? = some x → ∃ y, ys[i]? = some y ∧ R x y := by
  induction each with
  | nil => exact fun inside => absurd inside (by simp)
  | cons related _ inductionHypothesis =>
      intro i x inside
      cases i with
      | zero =>
          cases inside
          exact ⟨_, rfl, related⟩
      | succ i => exact inductionHypothesis inside

/-- When each element is read to something related to it, the list is. -/
theorem exists_mapM_ok {R : α → β → Prop} (returns : ∀ x ∈ l, ∃ y, f x = .ok y ∧ R x y) :
    ∃ ys, l.mapM f = .ok ys ∧ List.Forall₂ R l ys := by
  induction l with
  | nil => exact ⟨[], rfl, List.Forall₂.nil⟩
  | cons x rest inductionHypothesis =>
      obtain ⟨y, value, related⟩ := returns x List.mem_cons_self
      obtain ⟨ys, values, allRelated⟩ := inductionHypothesis fun z member =>
        returns z (List.mem_cons_of_mem _ member)
      have pairs := List.Forall₂.cons (R := fun x y => f x = .ok y) value
        (mapM_eq_ok_iff.mp values)
      exact ⟨y :: ys, mapM_eq_ok_iff.mpr pairs, List.Forall₂.cons related allRelated⟩

/-- A list is read exactly when each element is. -/
theorem exists_mapM_eq_ok_iff :
    (∃ ys, l.mapM f = .ok ys) ↔ ∀ x ∈ l, ∃ y, f x = .ok y := by
  constructor
  · rintro ⟨ys, read⟩
    have each := mapM_eq_ok_iff.mp read
    exact ((List.forall₂_and_left _ _).mp (each.imp fun _ y value => ⟨⟨y, value⟩, value⟩)).1
  · intro returns
    obtain ⟨ys, read, -⟩ := exists_mapM_ok (R := fun _ _ => True) fun x member =>
      (returns x member).imp fun _ value => ⟨value, trivial⟩
    exact ⟨ys, read⟩

/-- Reading back what was written. -/
theorem exists_mapM_ok_map {g : β → α} (returns : ∀ x ∈ l, ∃ y, f x = .ok y ∧ g y = x) :
    ∃ ys, l.mapM f = .ok ys ∧ ys.map g = l := by
  obtain ⟨ys, written, back⟩ := exists_mapM_ok (R := fun x y => g y = x) returns
  refine ⟨ys, written, ?_⟩
  have same : List.Forall₂ Eq (ys.map g) l := List.forall₂_map_left_iff.mpr back.flip
  rwa [List.forall₂_eq_eq_eq] at same

/-- Every element has its result. -/
theorem exists_result_of_mem {x : α} {ys : List β} (read : l.mapM f = .ok ys) (member : x ∈ l) :
    ∃ y ∈ ys, f x = .ok y := by
  have pairs := mapM_eq_ok_iff.mp read
  clear read
  induction pairs with
  | nil => cases member
  | cons value _ inductionHypothesis =>
      rcases List.mem_cons.mp member with rfl | later
      · exact ⟨_, List.mem_cons_self, value⟩
      · obtain ⟨y, inside, value'⟩ := inductionHypothesis later
        exact ⟨y, List.mem_cons_of_mem _ inside, value'⟩

/-- What is read comes from an element. -/
theorem exists_of_mem_mapM {ys : List β} (read : l.mapM f = .ok ys) :
    ∀ y ∈ ys, ∃ x ∈ l, f x = .ok y := by
  have pairs := mapM_eq_ok_iff.mp read
  clear read
  induction pairs with
  | nil => simp
  | cons first _ inductionHypothesis =>
      intro y member
      rcases List.mem_cons.mp member with rfl | later
      · exact ⟨_, List.mem_cons_self, first⟩
      · obtain ⟨x, xMember, value⟩ := inductionHypothesis y later
        exact ⟨x, List.mem_cons_of_mem _ xMember, value⟩

/-- A list is not read because of one of its elements. -/
theorem exists_of_mapM_error {failure : ε} (fails : l.mapM f = .error failure) :
    ∃ x ∈ l, f x = .error failure := by
  induction l with
  | nil => cases fails
  | cons x rest inductionHypothesis =>
      rw [List.mapM_cons] at fails
      cases first : f x with
      | error failure' =>
          simp only [first, bind, Except.bind] at fails
          cases fails
          exact ⟨x, List.mem_cons_self, first⟩
      | ok y =>
          cases later : rest.mapM f with
          | error failure' =>
              simp only [first, later, bind, Except.bind] at fails
              cases fails
              obtain ⟨z, member, value⟩ := inductionHypothesis later
              exact ⟨z, List.mem_cons_of_mem _ member, value⟩
          | ok ys =>
              simp only [first, later, bind, Except.bind, pure, Except.pure] at fails
              cases fails

end Traverse
