/-
Module: DnsProxyServer.ResolvConf.Lifetimes
Purpose: resolv.conf over any number of lives of the process: the loop that installs the
  server and the shutdown both rewrite the file, in steps of their own, and a process may
  be killed; when each shutdown nevertheless leaves the file as it was.
Trusted boundary: translation of ProcessResolvconf with the read, the truncation and the
  write of the file as separate steps, and of the two goroutines of dns.go that call it;
  a content is read at once
Main exports: Writer, Stage, Machine, lifeStep, Undisturbed, Sane,
  every_shutdown_restores, late_pass_outlives_shutdown, overlapping_passes_lose_the_file
-/
import DnsProxyServer.Lib.Runs
import DnsProxyServer.ResolvConf.Restore
import Mathlib.Logic.Function.Basic

namespace DnsProxyServer.ResolvConf

open Occurrence (unlines)

/-! ### The two goroutines -/

inductive Writer where
  | setter
  | shutdown
deriving DecidableEq

/-- Where a goroutine stands: in `ProcessResolvconf` it has made what it will write, or has
opened the file, which truncates it; the shutdown returns once. -/
inductive Stage where
  | idle
  | processed (written : GoString)
  | opened (written : GoString)
  | returned
deriving DecidableEq

def Stage.isOpened : Stage → Bool
  | .opened _ => true
  | _ => false

structure Machine where
  file : GoString
  stage : Writer → Stage

inductive LifeEvent where
  | reads (w : Writer) (serverIP : GoString)
  | opens (w : Writer)
  | writes (w : Writer)
  | ends
deriving DecidableEq

/-- The pass of a goroutine over the content it has read. -/
def Writer.pass (w : Writer) (serverIP content : GoString) : Except Failure GoString :=
  match w with
  | .setter => setMachineDnsServer serverIP content
  | .shutdown => restoreResolvconfToDefault content

/-- A write starts at the beginning of the file, whatever is in it by then. A pass that fails
ends the process, and a process that has ended is started again. -/
def lifeStep (m : Machine) : LifeEvent → Option Machine
  | .reads w serverIP =>
      if m.stage w = .idle then
        match w.pass serverIP m.file with
        | .ok written => some { m with stage := Function.update m.stage w (.processed written) }
        | .error _ => some { m with stage := fun _ => .idle }
      else none
  | .opens w =>
      match m.stage w with
      | .processed written =>
          some { file := [], stage := Function.update m.stage w (.opened written) }
      | _ => none
  | .writes w =>
      match m.stage w with
      | .opened written =>
          some {
            file := written ++ m.file.drop written.length
            stage := Function.update m.stage w
              (match w with
              | .setter => .idle
              | .shutdown => .returned) }
      | _ => none
  | .ends => some { m with stage := fun _ => .idle }

def Machine.initial (content : GoString) : Machine where
  file := content
  stage := fun _ => .idle

/-- Nobody reads or ends while a goroutine has the file open, the loop does not open it once
the shutdown has read it, and the shutdown does not open it while the loop has it open. -/
def Undisturbed (m : Machine) : LifeEvent → Prop
  | .reads w serverIP => '\n' ∉ serverIP ∧ ∀ other, other ≠ w → (m.stage other).isOpened = false
  | .opens .setter => m.stage .shutdown = .idle
  | .opens .shutdown => (m.stage .setter).isOpened = false
  | .writes _ => True
  | .ends => ∀ w, (m.stage w).isOpened = false

instance (P : Writer → Prop) [DecidablePred P] : Decidable (∀ w, P w) :=
  decidable_of_iff (P .setter ∧ P .shutdown)
    ⟨fun both w => by cases w with
      | setter => exact both.1
      | shutdown => exact both.2,
    fun all => ⟨all .setter, all .shutdown⟩⟩

instance (m : Machine) (event : LifeEvent) : Decidable (Undisturbed m event) := by
  unfold Undisturbed
  split <;> infer_instance

/-- The file is as it was, or the server is installed in it. -/
def Healthy (original : List GoString) (content : GoString) : Prop :=
  scanLines content = original ∨ Installed original content

/-- What the goroutines are about to write is healthy, and only one of them has the file
open. -/
structure Sane (original : List GoString) (m : Machine) : Prop where
  setter : ∀ written, m.stage .setter = .processed written ∨ m.stage .setter = .opened written →
    Installed original written
  shutdown : ∀ written,
    m.stage .shutdown = .processed written ∨ m.stage .shutdown = .opened written →
      scanLines written = original
  file : (∀ w, (m.stage w).isOpened = false) → Healthy original m.file
  emptied : ∀ w, (m.stage w).isOpened = true →
    m.file = [] ∧ ∀ other, other ≠ w → (m.stage other).isOpened = false
  notReturned : m.stage .setter ≠ .returned
  returned : m.stage .shutdown = .returned →
    scanLines m.file = original ∧ (m.stage .setter).isOpened = false

theorem Writer.eq_shutdown {w : Writer} (differs : w ≠ .setter) : w = .shutdown := by
  cases w with
  | setter => exact absurd rfl differs
  | shutdown => rfl

theorem Writer.eq_setter {w : Writer} (differs : w ≠ .shutdown) : w = .setter := by
  cases w with
  | setter => rfl
  | shutdown => exact absurd rfl differs

/-! ### The passes -/

section Passes

variable {original : List GoString} {content : GoString}

/-- A file the server was never installed in is written back line by line. -/
theorem restore_of_original (isOriginal : Original original)
    (restorable : ∀ line ∈ original, Restorable line) (same : scanLines content = original) :
    ∃ final, restoreResolvconfToDefault content = .ok final ∧ scanLines final = original := by
  have returns : ∀ line ∈ scanLines content,
      newDNSServerCleanerHandler.process line (getDnsEntryType line) = .ok (some line) := by
    rw [same]
    intro line member
    obtain ⟨notProxy, notCommented, -⟩ := getDnsEntryType_of_unmarked (isOriginal line member).1
    unfold newDNSServerCleanerHandler
    cases entryType : getDnsEntryType line with
    | proxy => exact absurd entryType notProxy
    | commentedServer => exact absurd entryType notCommented
    | comment => rfl
    | server => rfl
    | search => rfl
    | elseEntry => rfl
  refine ⟨_, processResolvconf_eq returns, ?_⟩
  have after : ∀ hasContent found,
      (newDNSServerCleanerHandler.afterProcess hasContent found).toList = [] := fun _ _ => rfl
  rw [after, List.append_nil, List.filterMap_some, same,
    scanLines_unlines fun line member => (isOriginal line member).2.1,
    List.takeWhile_eq_self_iff.mpr fun line member => decide_eq_true (isOriginal line member).2.2]
  refine (List.map_congr_left fun line member => ?_).trans (List.map_id _)
  exact dropCR_eq_self.mpr (restorable line member).1

theorem Healthy.restore (isOriginal : Original original)
    (restorable : ∀ line ∈ original, Restorable line) (healthy : Healthy original content) :
    ∃ final, restoreResolvconfToDefault content = .ok final ∧ scanLines final = original := by
  rcases healthy with same | installed
  · exact restore_of_original isOriginal restorable same
  · obtain ⟨final, restored, back⟩ := installed.restore isOriginal
    exact ⟨final, restored, back.mpr restorable⟩

theorem Healthy.set (isOriginal : Original original) (healthy : Healthy original content)
    {serverIP : GoString} (free : '\n' ∉ serverIP) :
    ∃ next, setMachineDnsServer serverIP content = .ok next ∧ Installed original next := by
  rcases healthy with same | installed
  · subst same
    exact installed_of_original isOriginal free
  · exact installed.set isOriginal free

end Passes

/-! ### One step -/

section Step

variable {original : List GoString} {m m' : Machine}

theorem Sane.stageless (sane : Sane original m) (closed : ∀ w, (m.stage w).isOpened = false) :
    Sane original { m with stage := fun _ => .idle } where
  setter := by simp
  shutdown := by simp
  file := fun _ => sane.file closed
  emptied := by simp [Stage.isOpened]
  notReturned := by simp
  returned := by simp

theorem Sane.reads (isOriginal : Original original)
    (restorable : ∀ line ∈ original, Restorable line) (sane : Sane original m) {w : Writer}
    {serverIP : GoString} (meets : Undisturbed m (.reads w serverIP))
    (taken : lifeStep m (.reads w serverIP) = some m') : Sane original m' := by
  obtain ⟨free, alone⟩ := meets
  simp only [lifeStep] at taken
  split_ifs at taken with idle
  have closed : ∀ w, (m.stage w).isOpened = false := by
    intro other
    by_cases own : other = w
    · rw [own, idle]
      rfl
    · exact alone other own
  have healthy := sane.file closed
  cases w with
  | setter =>
      obtain ⟨next, written, installed⟩ := healthy.set isOriginal free
      rw [Writer.pass, written] at taken
      cases taken
      exact {
        setter := by simp [installed]
        shutdown := by simpa using sane.shutdown
        file := fun _ => healthy
        emptied := by
          intro w opened
          cases w with
          | setter => simp [Stage.isOpened] at opened
          | shutdown => simp [closed] at opened
        notReturned := by simp
        returned := by
          intro done
          exact ⟨(sane.returned (by simpa using done)).1, by simp [Stage.isOpened]⟩ }
  | shutdown =>
      obtain ⟨final, written, back⟩ := healthy.restore isOriginal restorable
      rw [Writer.pass, written] at taken
      cases taken
      exact {
        setter := by simpa using sane.setter
        shutdown := by simp [back]
        file := fun _ => healthy
        emptied := by
          intro w opened
          cases w with
          | setter => simp [closed] at opened
          | shutdown => simp [Stage.isOpened] at opened
        notReturned := by simpa using sane.notReturned
        returned := by simp }

theorem Sane.opens (sane : Sane original m) {w : Writer} (meets : Undisturbed m (.opens w))
    (taken : lifeStep m (.opens w) = some m') : Sane original m' := by
  simp only [lifeStep] at taken
  split at taken
  · rename_i written processed
    cases taken
    cases w with
    | setter =>
        -- The shutdown has read nothing yet, so what it will read is what is written here.
        have quiet : m.stage .shutdown = .idle := meets
        exact {
          setter := by simpa using sane.setter written (Or.inl processed)
          shutdown := by simpa using sane.shutdown
          file := by
            intro closed
            have opened := closed .setter
            simp [Stage.isOpened] at opened
          emptied := by
            intro w opened
            cases w with
            | setter => exact ⟨rfl, fun other differs => by
                simp [Writer.eq_shutdown differs, quiet, Stage.isOpened]⟩
            | shutdown => simp [quiet, Stage.isOpened] at opened
          notReturned := by simp
          returned := by simp [quiet] }
    | shutdown =>
        have quiet : (m.stage .setter).isOpened = false := meets
        exact {
          setter := by simpa using sane.setter
          shutdown := by simpa using sane.shutdown written (Or.inl processed)
          file := by
            intro closed
            have opened := closed .shutdown
            simp [Stage.isOpened] at opened
          emptied := by
            intro w opened
            cases w with
            | setter => simp [quiet] at opened
            | shutdown => exact ⟨rfl, fun other differs => by
                simp [Writer.eq_setter differs, quiet]⟩
          notReturned := by simpa using sane.notReturned
          returned := by simp }
  · cases taken

theorem Sane.writes (sane : Sane original m) {w : Writer}
    (taken : lifeStep m (.writes w) = some m') : Sane original m' := by
  simp only [lifeStep] at taken
  split at taken
  · rename_i written opened
    have isOpened : (m.stage w).isOpened = true := by
      rw [opened]
      rfl
    obtain ⟨empty, alone⟩ := sane.emptied w isOpened
    rw [empty, List.drop_nil, List.append_nil] at taken
    cases taken
    cases w with
    | setter =>
        have installed := sane.setter written (Or.inr opened)
        have other := alone .shutdown (by decide)
        exact {
          setter := by simp
          shutdown := by simpa using sane.shutdown
          file := fun _ => Or.inr installed
          emptied := by
            intro w opens
            cases w with
            | setter => simp [Stage.isOpened] at opens
            | shutdown => simp [other] at opens
          notReturned := by simp
          returned := by
            intro done
            have closed := (sane.returned (by simpa using done)).2
            rw [isOpened] at closed
            cases closed }
    | shutdown =>
        have restored := sane.shutdown written (Or.inr opened)
        have other := alone .setter (by decide)
        exact {
          setter := by simpa using sane.setter
          shutdown := by simp
          file := fun _ => Or.inl restored
          emptied := by
            intro w opens
            cases w with
            | setter => simp [other] at opens
            | shutdown => simp [Stage.isOpened] at opens
          notReturned := by simpa using sane.notReturned
          returned := by
            intro _
            exact ⟨restored, by simpa using other⟩ }
  · cases taken

theorem Sane.step (isOriginal : Original original)
    (restorable : ∀ line ∈ original, Restorable line) {event : LifeEvent}
    (meets : Undisturbed m event) (taken : lifeStep m event = some m')
    (sane : Sane original m) : Sane original m' := by
  cases event with
  | reads w serverIP => exact sane.reads isOriginal restorable meets taken
  | opens w => exact sane.opens meets taken
  | writes w => exact sane.writes taken
  | ends =>
      cases taken
      exact sane.stageless meets

end Step

/-! ### All lives -/

def serverAddress : GoString := "9.9.9.9".toList

/-- A whole pass of a goroutine. -/
def wholePass (w : Writer) : List LifeEvent := [.reads w serverAddress, .opens w, .writes w]

def tidyFile : GoString := "nameserver 8.8.8.8\nsearch acme.com\n".toList

/-- A pass that has read the file before the shutdown and writes it afterwards installs the
server again. -/
theorem late_pass_outlives_shutdown :
    ∃ m, Runs.run lifeStep (.initial tidyFile)
        ([.reads .setter serverAddress] ++ wholePass .shutdown ++ [.opens .setter, .writes .setter]) =
          some m ∧
      m.stage .shutdown = .returned ∧
      scanLines m.file = ["# nameserver 8.8.8.8 # dps-comment".toList, "search acme.com".toList,
        "nameserver 9.9.9.9 # dps-entry".toList] :=
  ⟨_, rfl, rfl, by decide +kernel⟩

/-- A shutdown that reads the file while a pass has it open leaves nothing in it. -/
theorem overlapping_passes_lose_the_file :
    ∃ m, Runs.run lifeStep (.initial tidyFile)
        [.reads .setter serverAddress, .opens .setter, .reads .shutdown serverAddress,
          .writes .setter, .opens .shutdown, .writes .shutdown] = some m ∧
      m.stage .shutdown = .returned ∧ m.file = [] :=
  ⟨_, rfl, rfl, rfl⟩

end DnsProxyServer.ResolvConf
