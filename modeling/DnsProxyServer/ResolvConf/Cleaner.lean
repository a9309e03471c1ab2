/-
Module: DnsProxyServer.ResolvConf.Cleaner
Purpose: On which files the restoring pass returns, and what it makes of each line.
Trusted boundary: none
Main exports: Separable, Cleaned, RestoresSafely, restore_completes_iff,
  restores_safely_iff, comment_without_blank_panics
-/
import DnsProxyServer.ResolvConf.Restore

namespace DnsProxyServer.ResolvConf

open Occurrence (unlines)

/-- Each commented server line contains the separator it is cut at. -/
def Separable (content : GoString) : Prop :=
  ∀ line ∈ scanLines content, getDnsEntryType line = .commentedServer →
    " # dps-comment".toList <:+: line

/-- What becomes of a line: an entry is dropped, a commented server keeps what stands
between the comment sign and the separator, any other line stays. -/
def Cleaned (line : GoString) (written : Option GoString) : Prop :=
  match getDnsEntryType line with
  | .proxy => written = none
  | .commentedServer => ∃ body rest, line = "# ".toList ++ body ++ " # dps-comment".toList ++ rest ∧
      written = some body
  | _ => written = some line

/-- The pass returns, the separator is always found where the line can be cut, and the
written lines are those of the file, cleaned. -/
def RestoresSafely (content : GoString) : Prop :=
  (∃ final, restoreResolvconfToDefault content = .ok final) ∧
  (∀ line ∈ scanLines content, getDnsEntryType line = .commentedServer →
    ∃ stop, index line " # dps-comment".toList = some stop ∧ 2 ≤ stop) ∧
  ∀ final, restoreResolvconfToDefault content = .ok final →
    ∃ written, List.Forall₂ Cleaned (scanLines content) written ∧
      final = unlines '\n' (written.filterMap id)

/-! ### One line -/

theorem prefix_of_commentedServer {line : GoString}
    (commented : getDnsEntryType line = .commentedServer) : "# nameserver ".toList <+: line := by
  unfold getDnsEntryType at commented
  split_ifs at commented with _ marks
  rw [Bool.and_eq_true] at marks
  exact hasPrefix_iff.mp marks.1

/-- The separator starts with a blank and then the sign, which the first two places of the
line do not. -/
theorem two_le_of_index {line : GoString} (commented : "# nameserver ".toList <+: line)
    {stop : Nat} (found : index line " # dps-comment".toList = some stop) : 2 ≤ stop := by
  obtain ⟨before, after, rfl, rfl⟩ := Occurrence.exists_of_index?_eq_some found
  have start : "# n".toList <+: before ++ (" # dps-comment".toList ++ after) :=
    List.IsPrefix.trans (by decide) commented
  rcases before with _ | ⟨first, _ | ⟨second, rest⟩⟩
  · rw [List.nil_append] at start
    have clash := List.prefix_of_prefix_length_le start (List.prefix_append _ _) (by decide)
    exact absurd clash (by decide)
  · obtain ⟨-, later⟩ : '#' = first ∧ " n".toList <+: " # dps-comment".toList ++ after :=
      List.cons_prefix_cons.mp start
    have clash := List.prefix_of_prefix_length_le later (List.prefix_append _ _) (by decide)
    exact absurd clash (by decide)
  · simp

/-- A commented server line with the separator is cut. -/
theorem process_of_separated {line : GoString}
    (commented : getDnsEntryType line = .commentedServer)
    (separated : " # dps-comment".toList <:+: line) :
    ∃ stop body rest, index line " # dps-comment".toList = some stop ∧ 2 ≤ stop ∧
      line = "# ".toList ++ body ++ " # dps-comment".toList ++ rest ∧
      newDNSServerCleanerHandler.process line .commentedServer = .ok (some body) := by
  obtain ⟨stop, found⟩ := Option.isSome_iff_exists.mp
    (Occurrence.index?_isSome_iff.mpr separated)
  have keyword := prefix_of_commentedServer commented
  have two := two_le_of_index keyword found
  obtain ⟨before, rest, same, length⟩ := Occurrence.exists_of_index?_eq_some found
  have sign : "# ".toList <+: before := by
    have start : "# ".toList <+: line := List.IsPrefix.trans (by decide) keyword
    rw [same] at start
    exact List.prefix_of_prefix_length_le start (List.prefix_append _ _) (by rw [length]; exact two)
  obtain ⟨body, rfl⟩ := sign
  refine ⟨stop, body, rest, found, two, by rw [same, ← List.append_assoc], ?_⟩
  have position : index line " # dps-comment".toList = some ("# ".toList ++ body).length := by
    rw [length]
    exact found
  simp only [newDNSServerCleanerHandler, position]
  have inside : ("# ".toList ++ body).length ≤ line.length := by simp [same]
  rw [slice, if_pos ⟨by rw [length]; exact two, inside⟩, same, List.take_left]
  rfl

theorem process_isOk_iff {line : GoString} :
    (∃ r, newDNSServerCleanerHandler.process line (getDnsEntryType line) = .ok r) ↔
      (getDnsEntryType line = .commentedServer → " # dps-comment".toList <:+: line) := by
  constructor
  · rintro ⟨r, returned⟩ commented
    rw [commented] at returned
    by_contra missing
    have absent : index line " # dps-comment".toList = none := Occurrence.index?_eq_none missing
    simp only [newDNSServerCleanerHandler, absent] at returned
    cases returned
  · intro separated
    cases entryType : getDnsEntryType line with
    | commentedServer =>
        obtain ⟨-, body, -, -, -, -, returned⟩ := process_of_separated entryType
          (separated entryType)
        exact ⟨some body, returned⟩
    | _ => exact ⟨_, rfl⟩

theorem cleaned_restoreLine {line : GoString}
    (separated : getDnsEntryType line = .commentedServer → " # dps-comment".toList <:+: line) :
    Cleaned line (restoreLine line) := by
  unfold Cleaned restoreLine
  cases entryType : getDnsEntryType line with
  | commentedServer =>
      obtain ⟨-, body, rest, -, -, same, returned⟩ := process_of_separated entryType
        (separated entryType)
      rw [returned]
      exact ⟨body, rest, same, rfl⟩
  | _ => rfl

/-! ### The file -/

/-- The restoring pass returns exactly on separable files. -/
theorem restore_completes_iff {content : GoString} :
    (∃ final, restoreResolvconfToDefault content = .ok final) ↔ Separable content := by
  rw [restoreResolvconfToDefault, processResolvconf_isOk_iff]
  exact forall₂_congr fun line _ => process_isOk_iff

theorem restoreResolvconfToDefault_eq {content : GoString} (separable : Separable content) :
    restoreResolvconfToDefault content =
      .ok (unlines '\n' ((scanLines content).filterMap restoreLine)) := by
  have returns : ∀ line ∈ scanLines content,
      newDNSServerCleanerHandler.process line (getDnsEntryType line) = .ok (restoreLine line) := by
    intro line member
    obtain ⟨r, returned⟩ := process_isOk_iff.mpr (separable line member)
    rw [restoreLine, returned]
    rfl
  rw [restoreResolvconfToDefault, processResolvconf_eq returns]
  exact congrArg (fun lines => Except.ok (unlines '\n' lines)) (List.append_nil _)

/-- Restoring is safe on a file if and only if each of its commented server lines has the
separator, with its leading blank. -/
theorem restores_safely_iff (content : GoString) : RestoresSafely content ↔ Separable content := by
  refine ⟨fun safe => restore_completes_iff.mp safe.1, fun separable => ?_⟩
  refine ⟨restore_completes_iff.mpr separable, fun line member commented => ?_, ?_⟩
  · obtain ⟨stop, -, -, found, two, -, -⟩ := process_of_separated commented
      (separable line member commented)
    exact ⟨stop, found, two⟩
  · intro final restored
    rw [restoreResolvconfToDefault_eq separable] at restored
    cases restored
    refine ⟨(scanLines content).map restoreLine, ?_, by rw [List.filterMap_map]; rfl⟩
    rw [List.forall₂_map_right_iff, List.forall₂_same]
    exact fun line member => cleaned_restoreLine (separable line member)

/-- A comment that follows the address without a blank. -/
theorem comment_without_blank_panics :
    restoreResolvconfToDefault "# nameserver 8.8.8.8# dps-comment\n".toList =
        .error (.panic .sliceBounds) ∧
      ¬ RestoresSafely "# nameserver 8.8.8.8# dps-comment\n".toList := by
  have panics : restoreResolvconfToDefault "# nameserver 8.8.8.8# dps-comment\n".toList =
      .error (.panic .sliceBounds) := by decide
  refine ⟨panics, fun safe => ?_⟩
  obtain ⟨final, returned⟩ := safe.1
  rw [panics] at returned
  cases returned

end DnsProxyServer.ResolvConf
