/-
Module: DnsProxyServer.Lib.Regexp
Purpose: Regular expressions with groups and greedy operators, matched leftmost and with
  the choices tried in order of preference; when a greedy run never gives anything back.
Trusted boundary: none
Main exports: Regexp.Expr, Regexp.Way, Regexp.ways, Regexp.first, Regexp.find,
  Regexp.Committed, Regexp.first_seq, Regexp.first_star, Regexp.first_plus,
  Regexp.committed_plus, Regexp.Expr.classes, Regexp.find_isSome_iff, Regexp.find_window_iff
-/
import Mathlib.Data.List.Forall2
import Mathlib.Data.List.TakeWhile

namespace Regexp

variable {α : Type}

/-- Expressions over classes of symbols. All operators are greedy. -/
inductive Expr (α : Type) where
  | one (p : α → Bool)
  | opt (p : α → Bool)
  | star (p : α → Bool)
  | seq (r r' : Expr α)
  | group (r : Expr α)

def Expr.plus (p : α → Bool) : Expr α := .seq (.one p) (.star p)

/-- A match of the beginning of a text: what it takes, its groups, and what is left. -/
structure Way (α : Type) where
  taken : List α
  groups : List (List α) := []
  rest : List α
deriving DecidableEq

def Way.append (w w' : Way α) : Way α where
  taken := w.taken ++ w'.taken
  groups := w.groups ++ w'.groups
  rest := w'.rest

def Way.grouped (w : Way α) : Way α := { w with groups := w.taken :: w.groups }

/-- The runs of a class at the beginning of a text, the longest first. -/
def runs (p : α → Bool) : List α → List (List α × List α)
  | [] => [([], [])]
  | a :: s =>
      if p a then (runs p s).map (fun r => (a :: r.1, r.2)) ++ [([], a :: s)]
      else [([], a :: s)]

/-- All ways to match the beginning of a text, the preferred one first. -/
def ways : Expr α → List α → List (Way α)
  | .one _, [] => []
  | .one p, a :: s => if p a then [{ taken := [a], rest := s }] else []
  | .opt _, [] => [{ taken := [], rest := [] }]
  | .opt p, a :: s =>
      if p a then [{ taken := [a], rest := s }, { taken := [], rest := a :: s }]
      else [{ taken := [], rest := a :: s }]
  | .star p, s => (runs p s).map fun r => { taken := r.1, rest := r.2 }
  | .seq r r', s => (ways r s).flatMap fun w => (ways r' w.rest).map w.append
  | .group r, s => (ways r s).map Way.grouped

section Equations

variable (p : α → Bool) (r r' : Expr α) (a : α) (s : List α)

theorem runs_cons : runs p (a :: s) =
    if p a then (runs p s).map (fun r => (a :: r.1, r.2)) ++ [([], a :: s)]
    else [([], a :: s)] := rfl

@[simp] theorem ways_one_nil : ways (.one p) ([] : List α) = [] := rfl

@[simp] theorem ways_one_cons : ways (.one p) (a :: s) =
    if p a then [{ taken := [a], rest := s }] else [] := rfl

@[simp] theorem ways_opt_nil : ways (.opt p) ([] : List α) =
    [{ taken := [], rest := [] }] := rfl

@[simp] theorem ways_opt_cons : ways (.opt p) (a :: s) =
    if p a then [{ taken := [a], rest := s }, { taken := [], rest := a :: s }]
    else [{ taken := [], rest := a :: s }] := rfl

@[simp] theorem ways_star : ways (.star p) s =
    (runs p s).map fun r => { taken := r.1, rest := r.2 } := rfl

@[simp] theorem ways_seq : ways (.seq r r') s =
    (ways r s).flatMap fun w => (ways r' w.rest).map w.append := rfl

@[simp] theorem ways_group : ways (.group r) s = (ways r s).map Way.grouped := rfl

end Equations

def first (r : Expr α) (s : List α) : Option (Way α) := (ways r s).head?

/-- The leftmost match, and of those that start there the preferred one. -/
def find (r : Expr α) : List α → Option (Way α)
  | [] => first r []
  | a :: s =>
      match first r (a :: s) with
      | some w => some w
      | none => find r s

/-! ### Sequences without a way back -/

def Total (r : Expr α) : Prop := ∀ s, ways r s ≠ []

/-- After another way than the preferred one, what follows does not match. -/
def Committed (r r' : Expr α) : Prop := ∀ s, ∀ w ∈ (ways r s).tail, ways r' w.rest = []

/-- A sequence takes the preferred ways of its parts when what follows always matches, or
never after a choice that is not the preferred one. -/
theorem first_seq {r r' : Expr α} (forward : Total r' ∨ Committed r r') (s : List α) :
    first (.seq r r') s = (first r s).bind fun w => (first r' w.rest).map w.append := by
  simp only [first, ways_seq]
  cases tried : ways r s with
  | nil => rfl
  | cons w others =>
      rw [List.flatMap_cons, List.head?_append, List.head?_map]
      simp only [List.head?_cons, Option.bind_some]
      rcases forward with total | committed
      · obtain ⟨w', more, found⟩ := List.exists_cons_of_ne_nil (total w.rest)
        simp [found]
      · have dead : (others.flatMap fun w => (ways r' w.rest).map w.append) = [] := by
          rw [List.flatMap_eq_nil_iff]
          intro other member
          rw [committed s other (by rw [tried]; exact member), List.map_nil]
        rw [dead, List.head?_nil, Option.or_none]

theorem first_group (r : Expr α) (s : List α) :
    first (.group r) s = (first r s).map Way.grouped := by
  simp only [first, ways_group, List.head?_map]

theorem Total.seq {r r' : Expr α} (total : Total r) (total' : Total r') :
    Total (.seq r r') := by
  intro s none
  obtain ⟨w, others, tried⟩ := List.exists_cons_of_ne_nil (total s)
  rw [ways_seq, tried, List.flatMap_cons, List.append_eq_nil_iff, List.map_eq_nil_iff] at none
  exact total' w.rest none.1

theorem Total.group {r : Expr α} (total : Total r) : Total (.group r) := by
  intro s none
  rw [ways_group, List.map_eq_nil_iff] at none
  exact total s none

theorem ways_seq_of_nil {r : Expr α} {s : List α} (none : ways r s = []) (r' : Expr α) :
    ways (.seq r r') s = [] := by
  rw [ways_seq, none, List.flatMap_nil]

/-! ### Classes -/

theorem first_one (p : α → Bool) (s : List α) :
    first (.one p) s = match s with
      | [] => none
      | a :: s => if p a then some { taken := [a], rest := s } else none := by
  cases s with
  | nil => rfl
  | cons a s => cases holds : p a <;> simp [first, holds]

theorem committed_one (p : α → Bool) (r' : Expr α) : Committed (.one p) r' := by
  intro s w member
  cases s with
  | nil => simp at member
  | cons a s => cases holds : p a <;> simp [holds] at member

theorem total_opt (p : α → Bool) : Total (.opt p) := by
  intro s
  cases s with
  | nil => simp
  | cons a s => cases holds : p a <;> simp [holds]

/-- The longest run comes first, and every other one stops before a symbol of the class. -/
theorem runs_eq_cons (p : α → Bool) (s : List α) :
    ∃ others, runs p s = (s.takeWhile p, s.dropWhile p) :: others ∧
      ∀ r ∈ others, ∃ a rest, r.2 = a :: rest ∧ p a = true := by
  induction s with
  | nil => exact ⟨[], rfl, by simp⟩
  | cons a s inductionHypothesis =>
      obtain ⟨others, longest, stops⟩ := inductionHypothesis
      cases holds : p a with
      | false => exact ⟨[], by simp [runs_cons, holds], by simp⟩
      | true =>
          refine ⟨others.map (fun r => (a :: r.1, r.2)) ++ [([], a :: s)], ?_, ?_⟩
          · simp [runs_cons, holds, longest]
          · intro r member
            rcases List.mem_append.mp member with longer | shortest
            · obtain ⟨r', member', rfl⟩ := List.mem_map.mp longer
              exact stops r' member'
            · cases List.mem_singleton.mp shortest
              exact ⟨a, s, rfl, holds⟩

theorem total_star (p : α → Bool) : Total (.star p) := by
  intro s none
  obtain ⟨others, longest, -⟩ := runs_eq_cons p s
  rw [ways_star, longest] at none
  exact List.cons_ne_nil _ _ none

theorem first_star (p : α → Bool) (s : List α) :
    first (.star p) s = some { taken := s.takeWhile p, rest := s.dropWhile p } := by
  obtain ⟨others, longest, -⟩ := runs_eq_cons p s
  simp [first, longest]

theorem first_plus (p : α → Bool) (s : List α) :
    first (.plus p) s = if s.takeWhile p = [] then none
      else some { taken := s.takeWhile p, rest := s.dropWhile p } := by
  rw [Expr.plus, first_seq (Or.inl (total_star p)), first_one]
  cases s with
  | nil => rfl
  | cons a s => cases holds : p a <;> simp [holds, first_star, Way.append]

/-- A run of at least one symbol gives nothing back to what cannot start with one. -/
theorem committed_plus {p : α → Bool} {r' : Expr α}
    (apart : ∀ a s, p a = true → ways r' (a :: s) = []) : Committed (.plus p) r' := by
  intro s w member
  cases s with
  | nil => simp [Expr.plus] at member
  | cons a s =>
      obtain ⟨others, longest, stops⟩ := runs_eq_cons p s
      cases holds : p a with
      | false => simp [Expr.plus, holds] at member
      | true =>
          simp only [Expr.plus, ways_seq, ways_one_cons, ways_star, holds, if_true, longest,
            List.flatMap_cons, List.flatMap_nil, List.append_nil, List.map_cons,
            List.tail_cons, List.map_map, List.mem_map] at member
          obtain ⟨r, other, rfl⟩ := member
          obtain ⟨b, rest, starts, inClass⟩ := stops r other
          simp only [Function.comp_apply, Way.append, starts]
          exact apart b rest inClass

/-! ### Finding a window -/

/-- Symbols of the classes, one after the other, before an expression. -/
def Expr.classes (ps : List (α → Bool)) (r : Expr α) : Expr α :=
  ps.foldr (fun p r => .seq (.one p) r) r

theorem ways_seq_ne_nil {r r' : Expr α} {s : List α} :
    ways (.seq r r') s ≠ [] ↔ ∃ w ∈ ways r s, ways r' w.rest ≠ [] := by
  simp [List.flatMap_eq_nil_iff]

theorem mem_runs_nil (p : α → Bool) (s : List α) : ([], s) ∈ runs p s := by
  cases s with
  | nil => simp [runs]
  | cons a s => cases holds : p a <;> simp [runs_cons, holds]

theorem append_of_mem_runs {p : α → Bool} {s : List α} {r : List α × List α}
    (member : r ∈ runs p s) : s = r.1 ++ r.2 := by
  induction s generalizing r with
  | nil =>
      obtain rfl := List.mem_singleton.mp member
      rfl
  | cons a s inductionHypothesis =>
      rw [runs_cons] at member
      split_ifs at member
      · rcases List.mem_append.mp member with longer | shortest
        · obtain ⟨r', member', rfl⟩ := List.mem_map.mp longer
          exact congrArg (a :: ·) (inductionHypothesis member')
        · obtain rfl := List.mem_singleton.mp shortest
          rfl
      · obtain rfl := List.mem_singleton.mp member
        rfl

/-- The classes fit the symbols at the beginning of the text. -/
theorem ways_classes_ne_nil {r : Expr α} (total : Total r) :
    ∀ {ps : List (α → Bool)} {s : List α}, ways (.classes ps r) s ≠ [] ↔
      ∃ window rest, s = window ++ rest ∧ List.Forall₂ (fun p a => p a = true) ps window
  | [], s => ⟨fun _ => ⟨[], s, rfl, List.Forall₂.nil⟩, fun _ => total s⟩
  | p :: ps, [] => by
      constructor
      · intro some
        exact absurd (ways_seq_of_nil (ways_one_nil p) _) some
      · rintro ⟨window, rest, same, fits⟩
        obtain ⟨rfl, -⟩ := List.append_eq_nil_iff.mp same.symm
        cases fits
  | p :: ps, a :: s => by
      rw [show Expr.classes (p :: ps) r = .seq (.one p) (.classes ps r) from rfl, ways_seq_ne_nil,
        ways_one_cons]
      constructor
      · rintro ⟨w, member, some⟩
        split_ifs at member with holds
        · obtain rfl := List.mem_singleton.mp member
          obtain ⟨window, rest, same, fits⟩ := (ways_classes_ne_nil total).mp some
          exact ⟨a :: window, rest, congrArg (a :: ·) same, fits.cons holds⟩
        · cases member
      · rintro ⟨window, rest, same, fits⟩
        cases fits with
        | cons holds fits =>
            obtain ⟨rfl, tails⟩ := List.cons.inj same
            rw [if_pos holds]
            exact ⟨_, List.mem_singleton_self _,
              (ways_classes_ne_nil total).mpr ⟨_, rest, tails, fits⟩⟩

/-- What begins somewhere in the text is found. -/
theorem find_isSome_iff (r : Expr α) (s : List α) :
    (find r s).isSome = true ↔ ∃ before later, s = before ++ later ∧ ways r later ≠ [] := by
  induction s with
  | nil =>
      have empty : (find r ([] : List α)).isSome = true ↔ ways r [] ≠ [] := by
        simp [find, first, List.isSome_head?]
      rw [empty]
      constructor
      · exact fun some => ⟨[], [], rfl, some⟩
      · rintro ⟨before, later, same, some⟩
        obtain ⟨-, rfl⟩ := List.append_eq_nil_iff.mp same.symm
        exact some
  | cons a s inductionHypothesis =>
      have here : (first r (a :: s)).isSome = true ↔ ways r (a :: s) ≠ [] := by
        simp [first, List.isSome_head?]
      have step : (find r (a :: s)).isSome = true ↔
          ways r (a :: s) ≠ [] ∨ (find r s).isSome = true := by
        rw [← here, find]
        cases first r (a :: s) <;> simp
      rw [step, inductionHypothesis]
      constructor
      · rintro (some | ⟨before, later, rfl, some⟩)
        · exact ⟨[], a :: s, rfl, some⟩
        · exact ⟨a :: before, later, rfl, some⟩
      · rintro ⟨before, later, same, some⟩
        cases before with
        | nil =>
            obtain rfl : a :: s = later := same
            exact Or.inl some
        | cons b before =>
            obtain ⟨rfl, tails⟩ := List.cons.inj same
            exact Or.inr ⟨before, later, tails, some⟩

/-- Between two stars, classes are found exactly where they fit a window of the text. -/
theorem find_window_iff (any any' : α → Bool) (ps : List (α → Bool)) (s : List α) :
    (find (.seq (.star any) (.classes ps (.star any'))) s).isSome = true ↔
      ∃ window, window <:+: s ∧ List.Forall₂ (fun p a => p a = true) ps window := by
  simp only [find_isSome_iff, ways_seq_ne_nil, ways_star, List.mem_map]
  constructor
  · rintro ⟨before, later, rfl, w, ⟨run, member, rfl⟩, some⟩
    obtain ⟨window, rest, same, fits⟩ := (ways_classes_ne_nil (total_star any')).mp some
    refine ⟨window, ⟨before ++ run.1, rest, ?_⟩, fits⟩
    rw [append_of_mem_runs member, List.append_assoc, List.append_assoc]
    exact congrArg (fun text => before ++ (run.1 ++ text)) same.symm
  · rintro ⟨window, ⟨before, rest, rfl⟩, fits⟩
    refine ⟨before, window ++ rest, List.append_assoc _ _ _, _,
      ⟨([], window ++ rest), mem_runs_nil any _, rfl⟩, ?_⟩
    exact (ways_classes_ne_nil (total_star any')).mpr ⟨window, rest, rfl, fits⟩

end Regexp
