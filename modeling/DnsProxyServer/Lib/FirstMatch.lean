/-
Module: DnsProxyServer.Lib.FirstMatch
Purpose: Editing the first element of a list that satisfies a test: the loop
  that finds it by index, and the edits stated without indices.
Trusted boundary: none
Main exports: FirstMatch.firstMatch, FirstMatch.modifyFirst,
  FirstMatch.firstMatch_eq_none_iff_any, FirstMatch.set_of_firstMatch,
  FirstMatch.removeAt_of_firstMatch, FirstMatch.modifyFirst_perm, FirstMatch.find?_key_of_nodup,
  FirstMatch.lookup_perm, FirstMatch.rel_of_find?_sorted, FirstMatch.find?_insertionSort_cons
-/
import Mathlib.Data.List.Nodup
import Mathlib.Data.List.Sort

namespace FirstMatch

variable {α : Type*} {β : Type*}

/-- The loop `for i := range l`: the first element that passes, and its index. -/
def firstMatch (p : α → Bool) : List α → Option (α × Nat)
  | [] => none
  | x :: rest =>
      if p x then some (x, 0)
      else (firstMatch p rest).map fun found => (found.1, found.2 + 1)

/-- Replace the first element that passes the test. -/
def modifyFirst (p : α → Bool) (f : α → α) : List α → List α
  | [] => []
  | x :: rest => if p x then f x :: rest else x :: modifyFirst p f rest

/-- The list without the element at an index, as two slices. -/
def removeAt (l : List α) (i : Nat) : List α := l.take i ++ l.drop (i + 1)

theorem firstMatch_eq_none {p : α → Bool} {l : List α} :
    firstMatch p l = none ↔ ∀ x ∈ l, p x = false := by
  induction l with
  | nil => simp [firstMatch]
  | cons x rest inductionHypothesis =>
      by_cases hit : p x = true
      · simp [firstMatch, hit]
      · simp [firstMatch, hit, inductionHypothesis]

/-- Finding depends on the elements only. -/
theorem firstMatch_fst (p : α → Bool) (l : List α) :
    (firstMatch p l).map Prod.fst = l.find? p := by
  induction l with
  | nil => rfl
  | cons x rest inductionHypothesis =>
      by_cases hit : p x = true
      · simp [firstMatch, hit]
      · rw [firstMatch, if_neg hit, Option.map_map, List.find?_cons_of_neg hit,
          ← inductionHypothesis]
        rfl

theorem find?_of_firstMatch {p : α → Bool} {l : List α} {found : α × Nat}
    (hit : firstMatch p l = some found) : l.find? p = some found.1 := by
  rw [← firstMatch_fst, hit]
  rfl

theorem mem_of_firstMatch {p : α → Bool} {l : List α} {found : α × Nat}
    (hit : firstMatch p l = some found) : found.1 ∈ l :=
  List.mem_of_find?_eq_some (find?_of_firstMatch hit)

theorem find?_of_firstMatch_none {p : α → Bool} {l : List α}
    (miss : firstMatch p l = none) : l.find? p = none := by
  rw [← firstMatch_fst, miss]
  rfl

theorem any_of_firstMatch {p : α → Bool} {l : List α} {found : α × Nat}
    (hit : firstMatch p l = some found) : l.any p = true := by
  have passes := List.find?_some (find?_of_firstMatch hit)
  exact List.any_eq_true.mpr ⟨found.1, mem_of_firstMatch hit, passes⟩

theorem firstMatch_eq_none_iff_any {p : α → Bool} {l : List α} :
    firstMatch p l = none ↔ ¬ l.any p = true := by
  simp [firstMatch_eq_none]

/-- The match, and before it what fails the test. -/
theorem exists_of_firstMatch {p : α → Bool} {l : List α} {found : α × Nat}
    (hit : firstMatch p l = some found) :
    ∃ before later, l = before ++ found.1 :: later ∧ before.length = found.2 ∧
      p found.1 = true ∧ ∀ x ∈ before, p x = false := by
  induction l generalizing found with
  | nil => simp [firstMatch] at hit
  | cons x rest inductionHypothesis =>
      by_cases passes : p x = true
      · rw [firstMatch, if_pos passes] at hit
        cases hit
        exact ⟨[], rest, rfl, rfl, passes, by simp⟩
      · rw [firstMatch, if_neg passes] at hit
        obtain ⟨inner, innerHit, rfl⟩ := Option.map_eq_some_iff.mp hit
        obtain ⟨before, later, rfl, length, innerPasses, fails⟩ := inductionHypothesis innerHit
        refine ⟨x :: before, later, rfl, by simp [length], innerPasses, ?_⟩
        exact List.forall_mem_cons.mpr ⟨Bool.eq_false_iff.mpr passes, fails⟩

theorem modifyFirst_append {p : α → Bool} {f : α → α} {before later : List α} {x : α}
    (fails : ∀ y ∈ before, p y = false) (passes : p x = true) :
    modifyFirst p f (before ++ x :: later) = before ++ f x :: later := by
  induction before with
  | nil => simp [modifyFirst, passes]
  | cons y before inductionHypothesis =>
      obtain ⟨first, others⟩ := List.forall_mem_cons.mp fails
      simp [modifyFirst, first, inductionHypothesis others]

/-- Writing through the found index is editing the first match. -/
theorem set_of_firstMatch {p : α → Bool} {l : List α} {found : α × Nat}
    (hit : firstMatch p l = some found) (f : α → α) :
    l.set found.2 (f found.1) = modifyFirst p f l := by
  obtain ⟨before, later, rfl, length, passes, fails⟩ := exists_of_firstMatch hit
  rw [modifyFirst_append fails passes, ← length]
  simp

theorem modify_of_firstMatch {p : α → Bool} {l : List α} {found : α × Nat}
    (hit : firstMatch p l = some found) (f : α → α) :
    l.modify found.2 f = modifyFirst p f l := by
  obtain ⟨before, later, rfl, length, passes, fails⟩ := exists_of_firstMatch hit
  rw [modifyFirst_append fails passes, ← length, List.modify_eq_take_cons_drop (by simp)]
  simp

/-- Cutting at the found index is erasing the first match. -/
theorem removeAt_of_firstMatch {p : α → Bool} {l : List α} {found : α × Nat}
    (hit : firstMatch p l = some found) : removeAt l found.2 = l.eraseP p := by
  obtain ⟨before, later, rfl, length, passes, fails⟩ := exists_of_firstMatch hit
  rw [removeAt, ← length, List.eraseP_append_right _ (by simpa using fails)]
  simp [passes]

/-- Only what the edit does to the first match counts. -/
theorem modifyFirst_congr {p : α → Bool} {f g : α → α} {l : List α} {x : α}
    (found : l.find? p = some x) (same : f x = g x) :
    modifyFirst p f l = modifyFirst p g l := by
  induction l with
  | nil => rfl
  | cons y rest inductionHypothesis =>
      by_cases passes : p y = true
      · obtain rfl : y = x := by simpa [passes] using found
        simp [modifyFirst, passes, same]
      · simp [modifyFirst, passes, inductionHypothesis (by simpa [passes] using found)]

/-- An edit that leaves the first match as it is changes nothing. -/
theorem modifyFirst_eq_self {p : α → Bool} {f : α → α} {l : List α}
    (fixed : ∀ x, l.find? p = some x → f x = x) : modifyFirst p f l = l := by
  induction l with
  | nil => rfl
  | cons y rest inductionHypothesis =>
      by_cases passes : p y = true
      · simp [modifyFirst, passes, fixed y (by simp [passes])]
      · have later := inductionHypothesis fun x found => fixed x (by simpa [passes] using found)
        simp [modifyFirst, passes, later]

theorem mem_modifyFirst {p : α → Bool} {f : α → α} {l : List α} {y : α}
    (member : y ∈ modifyFirst p f l) : y ∈ l ∨ ∃ x ∈ l, p x = true ∧ y = f x := by
  induction l with
  | nil => simp [modifyFirst] at member
  | cons x rest inductionHypothesis =>
      by_cases passes : p x = true
      · rw [modifyFirst, if_pos passes] at member
        rcases List.mem_cons.mp member with rfl | later
        · exact Or.inr ⟨x, by simp, passes, rfl⟩
        · exact Or.inl (by simp [later])
      · rw [modifyFirst, if_neg passes] at member
        rcases List.mem_cons.mp member with rfl | later
        · exact Or.inl (by simp)
        · rcases inductionHypothesis later with old | ⟨z, zMember, zPasses, rfl⟩
          · exact Or.inl (by simp [old])
          · exact Or.inr ⟨z, by simp [zMember], zPasses, rfl⟩

/-- An element stays, unless it is the one that is modified. -/
theorem mem_modifyFirst_of_mem {p : α → Bool} {f : α → α} {l : List α} {x : α} (member : x ∈ l) :
    x ∈ modifyFirst p f l ∨ p x = true ∧ f x ∈ modifyFirst p f l := by
  induction l with
  | nil => cases member
  | cons y rest inductionHypothesis =>
      simp only [modifyFirst]
      rcases List.mem_cons.mp member with rfl | later
      · split_ifs with passes
        · exact Or.inr ⟨passes, List.mem_cons_self⟩
        · exact Or.inl List.mem_cons_self
      · split_ifs with passes
        · exact Or.inl (List.mem_cons_of_mem _ later)
        · exact (inductionHypothesis later).imp (List.mem_cons_of_mem _)
            (And.imp_right (List.mem_cons_of_mem _))

/-- An edit that keeps a projection keeps the list of its values. -/
theorem map_modifyFirst {p : α → Bool} {f : α → α} {g : α → β} (keeps : ∀ x, g (f x) = g x)
    (l : List α) : (modifyFirst p f l).map g = l.map g := by
  induction l with
  | nil => rfl
  | cons x rest inductionHypothesis =>
      by_cases passes : p x = true
      · simp [modifyFirst, passes, keeps]
      · simp [modifyFirst, passes, inductionHypothesis]

/-- Up to the order an edit replaces the first match by its new value. -/
theorem modifyFirst_perm {p : α → Bool} {f : α → α} {l : List α} {x : α}
    (found : l.find? p = some x) : (modifyFirst p f l).Perm (f x :: l.eraseP p) := by
  induction l with
  | nil => simp at found
  | cons y rest inductionHypothesis =>
      by_cases passes : p y = true
      · rw [List.find?_cons_of_pos passes] at found
        cases found
        rw [modifyFirst, if_pos passes, List.eraseP_cons_of_pos passes]
      · rw [List.find?_cons_of_neg passes] at found
        rw [modifyFirst, if_neg passes, List.eraseP_cons_of_neg passes]
        exact ((inductionHypothesis found).cons y).trans (List.Perm.swap _ _ _)

/-- When all elements have a property, an edit keeps this exactly when the new value has
it. -/
theorem forall_mem_modifyFirst {P : α → Prop} {p : α → Bool} {f : α → α} {l : List α} {x : α}
    (all : ∀ y ∈ l, P y) (found : l.find? p = some x) :
    (∀ y ∈ modifyFirst p f l, P y) ↔ P (f x) := by
  have same := modifyFirst_perm (f := f) found
  constructor
  · intro allAfter
    exact allAfter (f x) (same.symm.subset (by simp))
  · intro new y member
    rcases List.mem_cons.mp (same.subset member) with rfl | old
    · exact new
    · exact all y (List.mem_of_mem_eraseP old)

/-- An edit that changes no test result changes the first match itself. -/
theorem find?_modifyFirst {p : α → Bool} {f : α → α} (keeps : ∀ x, p (f x) = p x) (l : List α) :
    (modifyFirst p f l).find? p = (l.find? p).map f := by
  induction l with
  | nil => rfl
  | cons x rest inductionHypothesis =>
      by_cases passes : p x = true
      · rw [modifyFirst, if_pos passes, List.find?_cons_of_pos passes,
          List.find?_cons_of_pos (by rw [keeps, passes])]
        rfl
      · rw [modifyFirst, if_neg passes, List.find?_cons_of_neg passes,
          List.find?_cons_of_neg passes, inductionHypothesis]

/-- An edit of another match. -/
theorem find?_modifyFirst_of_disjoint {p q : α → Bool} {f : α → α} (keeps : ∀ x, q (f x) = q x)
    (apart : ∀ x, p x = true → q x = false) (l : List α) :
    (modifyFirst p f l).find? q = l.find? q := by
  induction l with
  | nil => rfl
  | cons x rest inductionHypothesis =>
      by_cases passes : p x = true
      · simp [modifyFirst, passes, keeps, apart x passes]
      · simp [modifyFirst, passes, List.find?_cons, inductionHypothesis]

theorem find?_eraseP_of_disjoint {p q : α → Bool} (apart : ∀ x, p x = true → q x = false)
    (l : List α) : (l.eraseP p).find? q = l.find? q := by
  induction l with
  | nil => rfl
  | cons x rest inductionHypothesis =>
      by_cases passes : p x = true
      · simp [passes, apart x passes]
      · simp [passes, List.find?_cons, inductionHypothesis]

/-! ### Distinct keys -/

/-- An element is found under its key when the keys are distinct. -/
theorem find?_key_of_nodup {κ : Type*} [BEq κ] [LawfulBEq κ] {key : α → κ} {l : List α}
    (distinct : (l.map key).Nodup) {x : α} (member : x ∈ l) :
    l.find? (fun y => key y == key x) = some x := by
  have matched : (l.find? fun y => key y == key x).isSome := by
    rw [List.find?_isSome]
    exact ⟨x, member, by simp⟩
  obtain ⟨y, found⟩ := Option.isSome_iff_exists.mp matched
  have sameKey : key y = key x := by simpa using List.find?_some found
  rw [found, List.inj_on_of_nodup_map distinct (List.mem_of_find?_eq_some found) member sameKey]

/-- When the keys are distinct no match is left after the first is erased. -/
theorem find?_eraseP_of_nodup {κ : Type*} [BEq κ] [LawfulBEq κ] {key : α → κ} {l : List α}
    (distinct : (l.map key).Nodup) (k : κ) :
    (l.eraseP fun y => key y == k).find? (fun y => key y == k) = none := by
  have erased : (l.eraseP fun y => key y == k).map key = (l.map key).erase k := by
    rw [List.erase_eq_eraseP', List.eraseP_map]
    rfl
  rw [List.find?_eq_none]
  intro y member
  have present := List.mem_map_of_mem (f := key) member
  rw [erased] at present
  simp only [beq_iff_eq]
  rintro rfl
  exact distinct.not_mem_erase present

/-- An edit that gives the first match a new key keeps the keys distinct exactly when no
other element has that key. -/
theorem nodup_modifyFirst_iff {κ : Type*} {key : α → κ} {p : α → Bool} {f : α → α} {l : List α}
    {x : α} (distinct : (l.map key).Nodup) (found : l.find? p = some x) :
    ((modifyFirst p f l).map key).Nodup ↔ key (f x) ∉ (l.eraseP p).map key := by
  have others : ((l.eraseP p).map key).Nodup :=
    distinct.sublist (List.Sublist.map key List.eraseP_sublist)
  rw [((modifyFirst_perm found).map key).nodup_iff, List.map_cons, List.nodup_cons]
  exact and_iff_left others

/-- When the keys are distinct, editing the first element of a key is editing every
element of that key. -/
theorem modifyFirst_eq_map {κ : Type*} [DecidableEq κ] {key : α → κ} {f : α → α} {l : List α}
    (distinct : (l.map key).Nodup) (k : κ) :
    modifyFirst (fun y => key y == k) f l = l.map fun y => if key y = k then f y else y := by
  induction l with
  | nil => rfl
  | cons x rest inductionHypothesis =>
      rw [List.map_cons, List.nodup_cons] at distinct
      rw [modifyFirst, List.map_cons]
      by_cases same : key x = k
      · have others : (rest.map fun y => if key y = k then f y else y) = rest := by
          rw [List.map_congr_left (g := id) fun y member => ?_, List.map_id]
          have differs : key y ≠ k := by
            rintro rfl
            exact distinct.1 (same ▸ List.mem_map_of_mem member)
          simp [differs]
        simp [same, others]
      · simp [same, inductionHypothesis distinct.2]

/-- What a list holds under a key, when the keys are distinct. -/
theorem lookup_eq_some_iff_mem {κ : Type*} [BEq κ] [LawfulBEq κ] {l : List (κ × β)}
    (distinct : (l.map Prod.fst).Nodup) {k : κ} {v : β} :
    l.lookup k = some v ↔ (k, v) ∈ l := by
  constructor
  · intro found
    obtain ⟨before, later, rfl, -⟩ := List.lookup_eq_some_iff.mp found
    simp
  · intro member
    induction l with
    | nil => cases member
    | cons entry rest inductionHypothesis =>
        obtain ⟨x, w⟩ := entry
        obtain ⟨first, distinctRest⟩ := List.nodup_cons.mp distinct
        rcases List.mem_cons.mp member with same | later
        · cases same
          exact List.lookup_cons_self
        · have other : (k == x) = false := by
            rw [beq_eq_false_iff_ne]
            rintro rfl
            exact first (List.mem_map.mpr ⟨(k, v), later, rfl⟩)
          rw [List.lookup_cons, other]
          exact inductionHypothesis distinctRest later

/-- Distinct keys are looked up whatever the order. -/
theorem lookup_perm {κ : Type*} [BEq κ] [LawfulBEq κ] {l l' : List (κ × β)} (same : l.Perm l')
    (distinct : (l.map Prod.fst).Nodup) (k : κ) : l.lookup k = l'.lookup k := by
  have distinct' : (l'.map Prod.fst).Nodup := (same.map Prod.fst).nodup_iff.mp distinct
  apply Option.ext
  intro v
  rw [lookup_eq_some_iff_mem distinct, lookup_eq_some_iff_mem distinct', same.mem_iff]

/-! ### The first match of a sorted list -/

section Sorted

variable {r : α → α → Prop} {p : α → Bool} {l : List α}

/-- It comes before the other matches in the order of the sort. -/
theorem rel_of_find?_sorted (refl : ∀ x, r x x) (sorted : l.Pairwise r) {x : α}
    (found : l.find? p = some x) {y : α} (member : y ∈ l) (passes : p y = true) : r x y := by
  obtain ⟨-, before, later, rfl, fails⟩ := List.find?_eq_some_iff_append.mp found
  rcases List.mem_append.mp member with earlier | rest
  · have fails' := fails y earlier
    rw [passes] at fails'
    cases fails'
  · rcases List.mem_cons.mp rest with rfl | after
    · exact refl y
    · exact (List.pairwise_cons.mp (List.pairwise_append.mp sorted).2.1).1 y after

/-- An element that the sort puts before every match becomes the first one. -/
theorem find?_orderedInsert [DecidableRel r] {x : α} (passes : p x = true)
    (before : ∀ y ∈ l, p y = true → r x y) : (l.orderedInsert r x).find? p = some x := by
  induction l with
  | nil => simp [passes]
  | cons y rest inductionHypothesis =>
      rw [List.orderedInsert_cons]
      split_ifs with fits
      · exact List.find?_cons_of_pos passes
      · have fails : ¬ p y = true := fun hit => fits (before y List.mem_cons_self hit)
        rw [List.find?_cons_of_neg fails]
        exact inductionHypothesis fun z member => before z (List.mem_cons_of_mem y member)

theorem find?_insertionSort_cons [DecidableRel r] {x : α} (passes : p x = true)
    (before : ∀ y ∈ l, p y = true → r x y) :
    ((x :: l).insertionSort r).find? p = some x := by
  rw [List.insertionSort_cons]
  exact find?_orderedInsert passes fun y member => before y ((List.mem_insertionSort r).mp member)

end Sorted

end FirstMatch
