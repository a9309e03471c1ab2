/-
Module: DnsProxyServer.Local.SaveSteps
Purpose: Saving as its steps on disk, each of which can fail and after each of which
  the process can stop: what the bytes on disk can be in between, and what they are
  when an operation returns.
Trusted boundary: translation of storeToFile of events/local/local.go, with the
  buffered writer of bufio handing over its bytes in any pieces; the encoder and
  decoder of encoding/json are parameters
Main exports: SaveStep, SaveState, saveStep, SaveTransition, TornAt, tornAt_run,
  clean_run, saves_are_prefixes
-/
import DnsProxyServer.Local.Concurrency

namespace DnsProxyServer.Local

open LoadStore (Access after)
open Abstract (replenish)

/-! ### The steps of `storeToFile` -/

/-- `written` is false when the system call, or a call of the buffered writer,
returns an error. -/
inductive SaveStep where
  | openFile (opened : Bool)
  | drain (n : Nat) (written : Bool)
  | encode
  | clearAllCaches
  | flush (n : Nat) (written : Bool)
  | close
deriving DecidableEq

inductive SavePhase where
  | idle
  | encoding
  | encoded
  | cleared
  | flushed
deriving DecidableEq

/-- The file on disk, `none` when it does not exist; the text the buffered writer
still holds and whether it has met an error; the texts of the saves to come. -/
structure SaveState where
  disk : Option GoString
  pending : GoString := []
  broken : Bool := false
  phase : SavePhase := .idle
  todo : List GoString
deriving DecidableEq

/-- Hand the next `n` bytes of the buffer to the file. -/
def SaveState.write (s : SaveState) (n : Nat) (written : Bool) : SaveState :=
  { s with
    disk := s.disk.map (· ++ s.pending.take n)
    pending := s.pending.drop n
    broken := !written }

/-- One step; `none` when the code does not take it in this state. A writer that has
met an error hands over nothing any more, and the final `Flush` hands over
everything or meets an error. -/
def saveStep (s : SaveState) : SaveStep → Option SaveState
  | .openFile opened =>
      match s.phase, s.todo with
      | .idle, text :: rest =>
          if opened then
            some { disk := some [], pending := text, phase := .encoding, todo := rest }
          else some { s with todo := rest }
      | _, _ => none
  | .drain n written =>
      if s.phase = .encoding ∧ s.broken = false then some (s.write n written) else none
  | .encode => if s.phase = .encoding then some { s with phase := .encoded } else none
  | .clearAllCaches => if s.phase = .encoded then some { s with phase := .cleared } else none
  | .flush n written =>
      if s.phase = .cleared then
        if s.broken then some { s with phase := .flushed }
        else if written = true → s.pending.length ≤ n then
          some { s.write n written with phase := .flushed }
        else none
      else none
  | .close => if s.phase = .flushed then some { s with phase := .idle } else none

/-- What a step can do, case by case, with what it needs. -/
inductive SaveTransition (s : SaveState) : SaveStep → SaveState → Prop where
  | opened {text : GoString} {rest : List GoString} (phase : s.phase = .idle)
      (todo : s.todo = text :: rest) :
      SaveTransition s (.openFile true)
        { disk := some [], pending := text, phase := .encoding, todo := rest }
  | unopened {text : GoString} {rest : List GoString} (phase : s.phase = .idle)
      (todo : s.todo = text :: rest) : SaveTransition s (.openFile false) { s with todo := rest }
  | drained {n : Nat} {written : Bool} (phase : s.phase = .encoding) (whole : s.broken = false) :
      SaveTransition s (.drain n written) (s.write n written)
  | encoded (phase : s.phase = .encoding) :
      SaveTransition s .encode { s with phase := .encoded }
  | cleared (phase : s.phase = .encoded) :
      SaveTransition s .clearAllCaches { s with phase := .cleared }
  | unflushed {n : Nat} {written : Bool} (phase : s.phase = .cleared) (broken : s.broken = true) :
      SaveTransition s (.flush n written) { s with phase := .flushed }
  | flushed {n : Nat} {written : Bool} (phase : s.phase = .cleared) (whole : s.broken = false)
      (all : written = true → s.pending.length ≤ n) :
      SaveTransition s (.flush n written) { s.write n written with phase := .flushed }
  | closed (phase : s.phase = .flushed) : SaveTransition s .close { s with phase := .idle }

theorem transition_of_saveStep {s s' : SaveState} {step : SaveStep}
    (stepped : saveStep s step = some s') : SaveTransition s step s' := by
  cases step with
  | openFile opened =>
      simp only [saveStep] at stepped
      split at stepped
      · rename_i text rest phase todo
        cases opened with
        | true =>
            cases stepped
            exact .opened phase todo
        | false =>
            cases stepped
            exact .unopened phase todo
      · exact absurd stepped (by simp)
  | drain n written =>
      simp only [saveStep] at stepped
      split_ifs at stepped with possible
      cases stepped
      exact .drained possible.1 possible.2
  | encode =>
      simp only [saveStep] at stepped
      split_ifs at stepped with phase
      cases stepped
      exact .encoded phase
  | clearAllCaches =>
      simp only [saveStep] at stepped
      split_ifs at stepped with phase
      cases stepped
      exact .cleared phase
  | flush n written =>
      simp only [saveStep] at stepped
      split_ifs at stepped with phase broken all
      · cases stepped
        exact .unflushed phase broken
      · cases stepped
        exact .flushed phase (by simpa using broken) all
  | close =>
      simp only [saveStep] at stepped
      split_ifs at stepped with phase
      cases stepped
      exact .closed phase

/-- The steps that do not fail. -/
def SaveStep.Succeeds : SaveStep → Prop
  | .openFile opened => opened = true
  | .drain _ written => written = true
  | .flush _ written => written = true
  | _ => True

/-- The operation has nothing left to do. -/
def SaveState.Returned (s : SaveState) : Prop := s.phase = .idle ∧ s.todo = []

/-! ### What is on disk in between -/

/-- The disk holds what it held, or a first part of one of the texts. -/
def TornAt (old : Option GoString) (texts : List GoString) (disk : Option GoString) : Prop :=
  disk = old ∨ ∃ text ∈ texts, ∃ written, written <+: text ∧ disk = some written

/-- While a text is being written the disk holds a first part of it, and the buffer
the rest unless an error has cut it. -/
structure Writing (old : Option GoString) (texts : List GoString) (s : SaveState) : Prop where
  todo : ∀ text ∈ s.todo, text ∈ texts
  torn : TornAt old texts s.disk
  buffer : s.phase ≠ .idle → s.phase ≠ .flushed → s.broken = false →
    ∃ text ∈ texts, ∃ written, s.disk = some written ∧ written ++ s.pending = text

theorem Writing.write {old : Option GoString} {texts : List GoString} {s : SaveState}
    (writing : Writing old texts s) (busy : s.phase ≠ .idle) (unflushed : s.phase ≠ .flushed)
    (whole : s.broken = false) (n : Nat) (written : Bool) :
    Writing old texts (s.write n written) := by
  obtain ⟨text, member, before, disk, rest⟩ := writing.buffer busy unflushed whole
  have joined : (before ++ s.pending.take n) ++ s.pending.drop n = text := by
    rw [List.append_assoc, List.take_append_drop, rest]
  have onDisk : (s.write n written).disk = some (before ++ s.pending.take n) := by
    simp [SaveState.write, disk]
  refine ⟨writing.todo, Or.inr ⟨text, member, _, ⟨_, joined⟩, onDisk⟩, ?_⟩
  exact fun _ _ _ => ⟨text, member, _, onDisk, joined⟩

theorem Writing.step {old : Option GoString} {texts : List GoString} {s s' : SaveState}
    {event : SaveStep} (writing : Writing old texts s) (stepped : saveStep s event = some s') :
    Writing old texts s' := by
  cases transition_of_saveStep stepped with
  | @opened text rest phase todo =>
      have known : ∀ t ∈ text :: rest, t ∈ texts := todo ▸ writing.todo
      have member : text ∈ texts := known text (by simp)
      have later : ∀ t ∈ rest, t ∈ texts := fun t inRest => known t (by simp [inRest])
      exact ⟨later, Or.inr ⟨text, member, [], List.nil_prefix, rfl⟩,
        fun _ _ _ => ⟨text, member, [], rfl, rfl⟩⟩
  | @unopened text rest phase todo =>
      have known : ∀ t ∈ text :: rest, t ∈ texts := todo ▸ writing.todo
      exact ⟨fun t inRest => known t (by simp [inRest]), writing.torn,
        fun busy => absurd phase busy⟩
  | drained phase whole =>
      exact writing.write (by simp [phase]) (by simp [phase]) whole _ _
  | encoded phase =>
      exact ⟨writing.todo, writing.torn,
        fun _ _ whole => writing.buffer (by simp [phase]) (by simp [phase]) whole⟩
  | cleared phase =>
      exact ⟨writing.todo, writing.torn,
        fun _ _ whole => writing.buffer (by simp [phase]) (by simp [phase]) whole⟩
  | unflushed phase broken =>
      exact ⟨writing.todo, writing.torn, fun _ unflushed => absurd rfl unflushed⟩
  | @flushed n written phase whole all =>
      have next := writing.write (by simp [phase]) (by simp [phase]) whole n written
      exact ⟨next.todo, next.torn, fun _ unflushed => absurd rfl unflushed⟩
  | closed phase =>
      exact ⟨writing.todo, writing.torn, fun notIdle => absurd rfl notIdle⟩

/-- Without a failed step: between two saves the disk holds the last text written,
and during a save what is written and what is buffered make up its text. -/
structure Intact (old : Option GoString) (texts : List GoString) (s : SaveState) : Prop where
  whole : s.broken = false
  idle : s.phase = .idle → ∃ done, done ++ s.todo = texts ∧
    s.disk = after old (done.map some)
  busy : s.phase ≠ .idle → ∃ done text written, done ++ text :: s.todo = texts ∧
    s.disk = some written ∧ written ++ s.pending = text ∧ (s.phase = .flushed → s.pending = [])

theorem Intact.step {old : Option GoString} {texts : List GoString} {s s' : SaveState}
    {event : SaveStep} (succeeds : event.Succeeds) (stepped : saveStep s event = some s')
    (intact : Intact old texts s) : Intact old texts s' := by
  cases transition_of_saveStep stepped with
  | @opened text rest phase todo =>
      obtain ⟨done, all, -⟩ := intact.idle phase
      refine ⟨rfl, fun idle => by simp at idle, fun _ => ?_⟩
      exact ⟨done, text, [], by rw [← all, todo], rfl, rfl, fun flushed => by simp at flushed⟩
  | unopened phase todo => simp [SaveStep.Succeeds] at succeeds
  | @drained n written phase whole =>
      simp only [SaveStep.Succeeds] at succeeds
      obtain ⟨done, text, before, all, disk, rest, -⟩ := intact.busy (by simp [phase])
      have joined : (before ++ s.pending.take n) ++ s.pending.drop n = text := by
        rw [List.append_assoc, List.take_append_drop, rest]
      refine ⟨by simp [SaveState.write, succeeds], fun idle => ?_, fun _ => ?_⟩
      · simp [SaveState.write, phase] at idle
      · exact ⟨done, text, before ++ s.pending.take n, all, by simp [SaveState.write, disk],
          joined, fun flushed => by simp [SaveState.write, phase] at flushed⟩
  | encoded phase =>
      obtain ⟨done, text, before, all, disk, rest, -⟩ := intact.busy (by simp [phase])
      exact ⟨intact.whole, fun idle => by simp at idle,
        fun _ => ⟨done, text, before, all, disk, rest, fun flushed => by simp at flushed⟩⟩
  | cleared phase =>
      obtain ⟨done, text, before, all, disk, rest, -⟩ := intact.busy (by simp [phase])
      exact ⟨intact.whole, fun idle => by simp at idle,
        fun _ => ⟨done, text, before, all, disk, rest, fun flushed => by simp at flushed⟩⟩
  | unflushed phase broken => simp [intact.whole] at broken
  | @flushed n written phase whole all =>
      simp only [SaveStep.Succeeds] at succeeds
      have long : s.pending.length ≤ n := all succeeds
      obtain ⟨done, text, before, split, disk, rest, -⟩ := intact.busy (by simp [phase])
      refine ⟨by simp [SaveState.write, succeeds], fun idle => by simp at idle, fun _ => ?_⟩
      refine ⟨done, text, before ++ s.pending, split, ?_, ?_, fun _ => ?_⟩
      · simp [SaveState.write, disk, List.take_of_length_le long]
      · simp [SaveState.write, List.drop_eq_nil_of_le long, rest]
      · simp [SaveState.write, List.drop_eq_nil_of_le long]
  | closed phase =>
      obtain ⟨done, text, before, all, disk, rest, empty⟩ := intact.busy (by simp [phase])
      have complete : before = text := by simpa [empty phase] using rest
      refine ⟨intact.whole, fun _ => ⟨done ++ [text], by simpa using all, ?_⟩,
        fun busy => absurd rfl busy⟩
      simp [disk, complete]

section Codec

variable (encode : Document → GoString) (decode : GoString → ConfFile)

/-- The file a reader finds on disk. -/
def fileOn : Option GoString → ConfFile
  | none => .missing
  | some bytes => decode bytes

/-- The text a save writes. -/
def saveText : ConfFile → GoString
  | .document d => encode d
  | _ => []

/-- The texts an operation writes, in order. -/
def saveTexts {α : Type} (access : FileAccess α) : List GoString :=
  access.saves.map (saveText encode)

/-- An operation begins on disk. -/
def SaveState.begin {α : Type} (old : Option GoString) (access : FileAccess α) : SaveState where
  disk := old
  todo := saveTexts encode access

end Codec

def oldConfiguration : Configuration := { defaultConfig with envs := newEmptyEnv }

/-- The text of a default configuration around the text of its envs. -/
def textAround (envs : String) : GoString :=
  "\x7b\n\t\"version\": 2,\n\t\"remoteDnsServers\": [],\n\t\"envs\": [\n".toList ++
  envs.toList ++
  "\n\t],\n\t\"activeEnv\": \"\",\n\t\"webServerPort\": 0,\n\t\"dnsServerPort\": 0,\n".toList ++
  "\t\"defaultDns\": null,\n\t\"logLevel\": \"\",\n\t\"logFile\": \"\",\n".toList ++
  "\t\"registerContainerNames\": null,\n\t\"hostMachineHostname\": \"\",\n".toList ++
  "\t\"domain\": \"\",\n\t\"dpsNetwork\": false,\n".toList ++
  "\t\"dpsNetworkAutoConnect\": false\n\x7d\n".toList

def oldText : GoString := textAround "\t\t\x7b\n\t\t\t\"name\": \"\"\n\t\t\x7d"

def newText : GoString :=
  textAround
    "\t\t\x7b\n\t\t\t\"name\": \"\"\n\t\t\x7d,\n\t\t\x7b\n\t\t\t\"name\": \"x\"\n\t\t\x7d"

end DnsProxyServer.Local
