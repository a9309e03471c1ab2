/-
Module: DnsProxyServer.Lib.Occurrence
Purpose: First occurrence of a pattern in a list, and the text of a list of
  separator-free pieces.
Trusted boundary: none
Main exports: Occurrence.index?, Occurrence.exists_of_index?_eq_some, Occurrence.Unbordered,
  Occurrence.index?_append_of_unbordered, Occurrence.index?_singleton_append,
  Occurrence.unlines, Occurrence.pieces_unlines
-/
import Mathlib.Data.List.Basic
import Mathlib.Data.List.Infix
import Mathlib.Data.List.TakeWhile

namespace Occurrence

variable {α : Type*} [DecidableEq α]

/-- Position of the first occurrence of `pattern` in a list. -/
def index? (pattern : List α) : List α → Option Nat
  | [] => if pattern = [] then some 0 else none
  | x :: rest =>
      if pattern <+: x :: rest then some 0
      else (index? pattern rest).map (· + 1)

theorem index?_of_prefix {pattern text : List α} (starts : pattern <+: text) :
    index? pattern text = some 0 := by
  cases text with
  | nil => simp [index?, List.prefix_nil.mp starts]
  | cons x rest => simp [index?, starts]

/-- A pattern that does not occur has no first occurrence. -/
theorem index?_eq_none {pattern text : List α} (absent : ¬ pattern <:+: text) :
    index? pattern text = none := by
  induction text with
  | nil =>
      have nonempty : pattern ≠ [] := fun empty => absent (by simp [empty])
      simp [index?, nonempty]
  | cons x rest inductionHypothesis =>
      have notHere : ¬ pattern <+: x :: rest := fun h => absent h.isInfix
      have notLater : ¬ pattern <:+: rest := fun h =>
        absent (h.trans (List.suffix_cons x rest).isInfix)
      simp [index?, notHere, inductionHypothesis notLater]

/-- Where the first occurrence is. -/
theorem exists_of_index?_eq_some {pattern text : List α} {k : Nat}
    (found : index? pattern text = some k) :
    ∃ before after, text = before ++ (pattern ++ after) ∧ before.length = k := by
  induction text generalizing k with
  | nil =>
      rw [index?] at found
      split_ifs at found with empty
      cases found
      exact ⟨[], [], by simp [empty], rfl⟩
  | cons x rest inductionHypothesis =>
      rw [index?] at found
      split_ifs at found with here
      · cases found
        obtain ⟨after, same⟩ := here
        exact ⟨[], after, same.symm, rfl⟩
      · obtain ⟨j, later, rfl⟩ := Option.map_eq_some_iff.mp found
        obtain ⟨before, after, same, length⟩ := inductionHypothesis later
        exact ⟨x :: before, after, by rw [same]; rfl, by rw [List.length_cons, length]⟩

theorem index?_isSome_iff {pattern text : List α} :
    (index? pattern text).isSome = true ↔ pattern <:+: text := by
  constructor
  · intro found
    obtain ⟨k, at'⟩ := Option.isSome_iff_exists.mp found
    obtain ⟨before, after, same, -⟩ := exists_of_index?_eq_some at'
    exact ⟨before, after, by rw [same, List.append_assoc]⟩
  · intro occurs
    by_contra missing
    rw [Bool.not_eq_true, Option.isSome_eq_false_iff, Option.isNone_iff_eq_none] at missing
    induction text with
    | nil => simp [index?, List.infix_nil.mp occurs] at missing
    | cons x rest inductionHypothesis =>
        rw [index?] at missing
        split_ifs at missing with here
        rcases List.infix_cons_iff.mp occurs with start | later
        · exact here start
        · exact inductionHypothesis later (Option.map_eq_none_iff.mp missing)

/-- No proper nonempty suffix of the pattern is again a prefix of it, so two
occurrences never overlap. -/
def Unbordered (pattern : List α) : Prop :=
  ∀ k < pattern.length, 0 < k → ¬ pattern.drop k <+: pattern

instance (pattern : List α) : Decidable (Unbordered pattern) :=
  inferInstanceAs (Decidable (∀ k < pattern.length, 0 < k → _))

omit [DecidableEq α] in
/-- An occurrence that starts inside `text` either lies in it or leaves a
border of the pattern behind. -/
private theorem not_prefix_append_of_unbordered {pattern : List α}
    (unbordered : Unbordered pattern) {text : List α} (nonempty : text ≠ [])
    (absent : ¬ pattern <:+: text) : ¬ pattern <+: text ++ pattern := by
  intro starts
  by_cases short : pattern.length ≤ text.length
  · exact absent
      (List.prefix_of_prefix_length_le starts (List.prefix_append _ _) short).isInfix
  · have inside : text <+: pattern :=
      List.prefix_of_prefix_length_le (List.prefix_append _ _) starts (by omega)
    obtain ⟨tail, rfl⟩ := inside
    have border : tail <+: text ++ tail := by
      rwa [List.prefix_append_right_inj] at starts
    refine unbordered text.length (Nat.lt_of_not_le short)
      (List.length_pos_of_ne_nil nonempty) ?_
    simpa using border

/-- Appending an unbordered pattern to a text that does not contain it puts
the first occurrence at the end. -/
theorem index?_append_of_unbordered {pattern : List α}
    (unbordered : Unbordered pattern) {text : List α}
    (absent : ¬ pattern <:+: text) :
    index? pattern (text ++ pattern) = some text.length := by
  induction text with
  | nil => exact index?_of_prefix List.prefix_rfl
  | cons x rest inductionHypothesis =>
      have notHere : ¬ pattern <+: x :: (rest ++ pattern) :=
        not_prefix_append_of_unbordered unbordered (List.cons_ne_nil x rest) absent
      have notLater : ¬ pattern <:+: rest := fun h =>
        absent (h.trans (List.suffix_cons x rest).isInfix)
      simp [index?, notHere, inductionHypothesis notLater]

/-- The first occurrence of one element. -/
theorem index?_singleton_append {c : α} {before : List α} (absent : c ∉ before)
    (after : List α) : index? [c] (before ++ c :: after) = some before.length := by
  induction before with
  | nil => exact index?_of_prefix (by simp)
  | cons x rest inductionHypothesis =>
      rw [List.mem_cons, not_or] at absent
      have notHere : ¬ [c] <+: x :: (rest ++ c :: after) := by
        simpa [List.cons_prefix_cons] using absent.1
      simp [index?, notHere, inductionHypothesis absent.2]

theorem index?_singleton_eq_none {c : α} {text : List α} (absent : c ∉ text) :
    index? [c] text = none :=
  index?_eq_none fun occurs => absent (occurs.subset (by simp))

/-- The text before the first occurrence of a symbol, and the whole text without one. -/
theorem take_of_index?_singleton {c : α} {text : List α} {k : Nat}
    (found : index? [c] text = some k) : text.take k = text.takeWhile (· != c) := by
  have member : c ∈ text := by
    obtain ⟨before, after, rfl, -⟩ := exists_of_index?_eq_some found
    simp
  obtain ⟨before, after, rfl, absent⟩ := List.eq_append_cons_of_mem member
  rw [index?_singleton_append absent] at found
  cases found
  rw [List.take_left, List.takeWhile_append_of_pos]
  · simp
  · intro x inside
    exact bne_iff_ne.mpr fun same => absent (same ▸ inside)

theorem takeWhile_of_index?_singleton_eq_none {c : α} {text : List α}
    (missing : index? [c] text = none) : text.takeWhile (· != c) = text := by
  refine List.takeWhile_eq_self_iff.mpr fun x member => bne_iff_ne.mpr ?_
  rintro rfl
  obtain ⟨before, after, rfl⟩ := List.append_of_mem member
  have occurs : [x] <:+: before ++ x :: after := ⟨before, after, by simp⟩
  have found := index?_isSome_iff.mpr occurs
  rw [missing] at found
  cases found

/-! ### Terminated pieces

`unlines` writes each piece followed by the separator; `pieces` reads such a
text back, giving the unterminated rest, when there is one, as the last piece. -/

/-- Each piece followed by one separator. -/
def unlines (separator : α) (lines : List (List α)) : List α :=
  lines.flatMap (· ++ [separator])

/-- The pieces of a text between separators, without an empty last one. -/
def pieces (separator : α) (text : List α) : List (List α) :=
  if (text.splitOn separator).getLast? = some [] then (text.splitOn separator).dropLast
  else text.splitOn separator

omit [DecidableEq α] in
@[simp] theorem unlines_nil (separator : α) : unlines separator [] = [] := rfl

omit [DecidableEq α] in
@[simp] theorem unlines_cons (separator : α) (line : List α) (lines : List (List α)) :
    unlines separator (line :: lines) = line ++ separator :: unlines separator lines := by
  simp [unlines]

theorem splitOn_unlines {separator : α} {lines : List (List α)}
    (free : ∀ line ∈ lines, separator ∉ line) :
    (unlines separator lines).splitOn separator = lines ++ [[]] := by
  induction lines with
  | nil => simp [List.splitOn_nil]
  | cons line lines inductionHypothesis =>
      rw [unlines_cons, List.splitOn_append_cons_self_of_not_mem (free line (by simp)),
        inductionHypothesis fun other member => free other (by simp [member])]
      simp

/-- Pieces without separators survive writing and reading back. -/
theorem pieces_unlines {separator : α} {lines : List (List α)}
    (free : ∀ line ∈ lines, separator ∉ line) :
    pieces separator (unlines separator lines) = lines := by
  simp [pieces, splitOn_unlines free]

omit [DecidableEq α] in
private theorem not_mem_of_mem_modifyHead {separator x : α} {split : List (List α)}
    (different : x ≠ separator) (free : ∀ piece ∈ split, separator ∉ piece) :
    ∀ piece ∈ split.modifyHead (x :: ·), separator ∉ piece := by
  intro piece member
  cases split with
  | nil => simp at member
  | cons head tail =>
      rw [List.modifyHead_cons] at member
      rcases List.mem_cons.mp member with rfl | later
      · intro inside
        rcases List.mem_cons.mp inside with same | inHead
        · exact different same.symm
        · exact free head (by simp) inHead
      · exact free piece (by simp [later])

theorem not_mem_of_mem_splitOn {separator : α} {text : List α} :
    ∀ piece ∈ text.splitOn separator, separator ∉ piece := by
  induction text with
  | nil => simp [List.splitOn_nil]
  | cons x rest inductionHypothesis =>
      rw [List.splitOn_cons_eq_if_modifyHead]
      split
      · intro piece member
        rcases List.mem_cons.mp member with rfl | later
        · simp
        · exact inductionHypothesis piece later
      · rename_i different
        exact not_mem_of_mem_modifyHead (by simpa using different) inductionHypothesis

/-- No piece contains the separator. -/
theorem not_mem_of_mem_pieces {separator : α} {text piece : List α}
    (member : piece ∈ pieces separator text) : separator ∉ piece := by
  unfold pieces at member
  split_ifs at member
  · exact not_mem_of_mem_splitOn piece (List.mem_of_mem_dropLast member)
  · exact not_mem_of_mem_splitOn piece member

end Occurrence
