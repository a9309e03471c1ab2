/-
Module: DnsProxyServer.Proxy.CacheRace
Purpose: Queries in flight while the configuration is saved: when the answers and the
  servers in the caches are those of the new configuration, and when not.
Trusted boundary: translation of the steps of proxy/cache.go over proxy/local.go and
  of proxy/remote.go; a lookup, a load and a put are one step each, no step of the
  save fails, and the codec of encoding/json is a parameter
Main exports: Mutation, Query, RaceState, raceStep, PutsFresh, Coherent, Effective,
  change_is_effective_at_once
-/
import DnsProxyServer.Local.SaveSteps
import DnsProxyServer.Proxy.RemoteSolver

namespace DnsProxyServer.Proxy

open Local
open Cache (LRUCache Stored TimedValue TimedCache)
open LoadStore (Access after)

/-! ### The mutation -/

/-- One save of a configuration over the text on disk before it. -/
structure Mutation where
  encode : Document → GoString
  decode : GoString → ConfFile
  oldText : GoString
  newText : GoString
  old : Configuration
  new : Configuration
  oldRepresents : Represents (decode oldText) old
  newRepresents : Represents (decode newText) new
  /-- A JSON object that is cut off is an error; only its last newline can miss. -/
  cut : ∀ written, written <+: newText →
    decode written = decode newText ∨ ∃ message, decode written = .unreadable (.error message)

def Mutation.newFile (m : Mutation) : ConfFile := m.decode m.newText

/-- Every operation that returns nil saves as a mutation of what it loaded. -/
theorem exists_mutation {encode : Document → GoString} {decode : GoString → ConfFile}
    {operation : Operation} {clock : Clock} {oldText : GoString} {conf : Configuration}
    (represents : Represents (decode oldText) conf) (writable : operation.Writable)
    (decodes : ∀ d, decode (encode d) = .document d)
    (cut : ∀ d written, written <+: encode d → decode written = .document d ∨
      ∃ message, decode written = .unreadable (.error message))
    (success : (operation.perform clock (decode oldText)).result = .ok ()) :
    ∃ m : Mutation, m.decode = decode ∧ m.oldText = oldText ∧ m.old = conf ∧
      Abstract.apply operation conf = .ok m.new ∧
      saveTexts encode (operation.perform clock (decode oldText)) = [m.newText] := by
  rcases perform_refines represents writable clock with
    ⟨refusal, -, performed⟩ | ⟨conf', d, applied, performed, saved⟩
  · rw [performed] at success
    exact absurd success (by simp [Access.ofExcept])
  · refine ⟨⟨encode, decode, oldText, encode d, conf, conf', represents, ?_, ?_⟩, rfl, rfl, rfl,
      applied, by rw [performed]; rfl⟩
    · rw [decodes d]
      exact saved
    · rw [decodes d]
      exact cut d

/-! ### The states -/

/-- Where a query stands between two of its steps. The first three are those of the
caching solver over the local one, the others those of the remote solver. -/
inductive Stage where
  | idle
  | solving (question : Question) (hosts : List GoString)
  | answered (question : Question) (msg : Msg)
  | finished (question : Question) (outcome : Outcome)
  | loadingServers
  | loadedServers (config : Configuration)
  | readingServers
  | hasServers (config : Except Failure Configuration)
deriving DecidableEq

/-- A query: whether it began after the mutation had returned, and what the file held
at each of its loads. -/
structure Query where
  late : Bool := false
  loads : List ConfFile := []
  stage : Stage := .idle

structure RaceState (ι : Type) where
  save : SaveState
  answers : SolverCache
  main : MainCache
  now : Int
  queries : ι → Query

/-- The steps of the mutation, none of which fails. -/
inductive MutationStep where
  | truncate
  | write (n : Nat)
  | encode
  | clearAllCaches
  | flush
  | close
deriving DecidableEq

def MutationStep.toSaveStep (save : SaveState) : MutationStep → SaveStep
  | .truncate => .openFile true
  | .write n => .drain n true
  | .encode => .encode
  | .clearAllCaches => .clearAllCaches
  | .flush => .flush save.pending.length true
  | .close => .close

inductive RaceEvent (ι : Type) where
  | begin (i : ι) (question : Question)
  | load (i : ι) (clock : Clock)
  | put (i : ι)
  | beginRemote (i : ι)
  | loadServers (i : ι) (clock : Clock)
  | putServers (i : ι)
  | readServers (i : ι)
  | mutation (step : MutationStep)
  | advance (n : Nat)

instance (s : SaveState) : Decidable s.Returned :=
  inferInstanceAs (Decidable (s.phase = .idle ∧ s.todo = []))

/-- The caches have been cleared, and the mutation may have returned. -/
def cleared (s : SaveState) : Prop := s.phase = .cleared ∨ s.phase = .flushed ∨ s.Returned

/-! ### The steps -/

section Steps

variable {ι : Type} [DecidableEq ι]

namespace RaceState

def file (m : Mutation) (s : RaceState ι) : ConfFile := fileOn m.decode s.save.disk

/-- The saves of a load, each of which ends in `ClearAllCaches`. -/
def saved (m : Mutation) (s : RaceState ι) (saves : List ConfFile) : RaceState ι :=
  if saves.isEmpty then s
  else { s with
    save := { s.save with
      disk := after s.save.disk (saves.map fun file => some (saveText m.encode file)) }
    answers := s.answers.clear
    main := LRUCache.clear s.main }

def setQuery (s : RaceState ι) (i : ι) (query : Query) : RaceState ι :=
  { s with queries := Function.update s.queries i query }

/-- The local solver before its first load. -/
def firstStage (question : Question) : Stage :=
  if question.name = [] then .finished question (.panicked .sliceBounds)
  else .solving question (getAllHosts ('.' :: question.name.dropLast))

def lookup (s : RaceState ι) (i : ι) (question : Question) : RaceState ι :=
  let read := doSolve s.answers s.now (getHostnameKey question)
  setQuery { s with answers := read.2 } i {
    late := decide s.save.Returned
    stage := match read.1 with
      | some msg => .finished question (.returned (some msg) none)
      | none => firstStage question }

/-- The local solver after one candidate name. -/
def candidateStage (question : Question) (rest : List GoString) : Except Failure Msg → Stage
  | .ok msg => .answered question msg
  | .error (.panic cause) => .finished question (.panicked cause)
  | .error (.error _) =>
      match rest with
      | [] => .finished question
          (.returned none (some ("hostname not found ".toList ++ question.name.dropLast)))
      | _ => .solving question rest

def load (m : Mutation) (s : RaceState ι) (i : ι) (clock : Clock) (question : Question)
    (host : GoString) (rest : List GoString) : RaceState ι :=
  let access := solveHostname question host clock (s.file m)
  (s.saved m access.saves).setQuery i
    { s.queries i with
      loads := s.file m :: (s.queries i).loads
      stage := candidateStage question rest access.result }

def put (s : RaceState ι) (i : ι) (question : Question) (msg : Msg) : RaceState ι :=
  let stored := storeAnswer s.answers s.now (getHostnameKey question) (.returned (some msg) none)
  setQuery { s with answers := stored.2 } i
    { s.queries i with stage := .finished question stored.1 }

def containsServers (s : RaceState ι) (i : ι) : RaceState ι :=
  s.setQuery i {
    late := decide s.save.Returned
    stage := if LRUCache.containsKey s.main serversKey then .readingServers else .loadingServers }

/-- The remote solver after its load. -/
def serversStage : Except Failure Configuration → Stage
  | .ok config => .loadedServers config
  | .error failure => .hasServers (.error failure)

def loadServers (m : Mutation) (s : RaceState ι) (i : ι) (clock : Clock) : RaceState ι :=
  let access := loadConfiguration clock (s.file m)
  (s.saved m access.saves).setQuery i
    { s.queries i with
      loads := s.file m :: (s.queries i).loads
      stage := serversStage access.result }

def putServers (s : RaceState ι) (i : ι) (config : Configuration) : RaceState ι :=
  setQuery { s with main := (LRUCache.putIfAbsent s.main serversKey (.configuration config)).2 } i
    { s.queries i with stage := .readingServers }

def readServers (s : RaceState ι) (i : ι) : RaceState ι :=
  let read := getServers s.main
  setQuery { s with main := read.2 } i { s.queries i with stage := .hasServers read.1 }

def mutate (s : RaceState ι) (step : MutationStep) (save : SaveState) : RaceState ι :=
  match step with
  | .clearAllCaches =>
      { s with save := save, answers := s.answers.clear, main := LRUCache.clear s.main }
  | _ => { s with save := save }

end RaceState

/-- One step of a query or of the mutation; `none` when it is not the next one. -/
def raceStep (m : Mutation) (s : RaceState ι) : RaceEvent ι → Option (RaceState ι)
  | .begin i question =>
      match (s.queries i).stage with
      | .idle => some (s.lookup i question)
      | _ => none
  | .load i clock =>
      match (s.queries i).stage with
      | .solving question (host :: rest) => some (s.load m i clock question host rest)
      | _ => none
  | .put i =>
      match (s.queries i).stage with
      | .answered question msg => some (s.put i question msg)
      | _ => none
  | .beginRemote i =>
      match (s.queries i).stage with
      | .idle => some (s.containsServers i)
      | _ => none
  | .loadServers i clock =>
      match (s.queries i).stage with
      | .loadingServers => some (s.loadServers m i clock)
      | _ => none
  | .putServers i =>
      match (s.queries i).stage with
      | .loadedServers config => some (s.putServers i config)
      | _ => none
  | .readServers i =>
      match (s.queries i).stage with
      | .readingServers => some (s.readServers i)
      | _ => none
  | .mutation step => (saveStep s.save (step.toSaveStep s.save)).map (s.mutate step)
  | .advance n => some { s with now := s.now + n }

/-- The mutation has loaded and not begun to save; no query is in flight, and the
caches hold anything. -/
def RaceState.initial (m : Mutation) (answers : SolverCache) (main : MainCache) (now : Int) :
    RaceState ι where
  save := { disk := some m.oldText, todo := [m.newText] }
  answers := answers
  main := main
  now := now
  queries := fun _ => {}

/-! ### What the file can hold -/

/-- The mutation takes no step once it has returned. -/
theorem saveStep_of_returned {s : SaveState} (returned : s.Returned) (step : SaveStep) :
    saveStep s step = none := by
  obtain ⟨idle, finished⟩ := returned
  cases step <;> simp [saveStep, idle, finished]

/-- Only `ClearAllCaches` leads to the states after it. -/
theorem cleared_of_saveStep {s s' : SaveState} {step : MutationStep}
    (stepped : saveStep s (step.toSaveStep s) = some s') (late : cleared s') :
    step = .clearAllCaches ∨ cleared s := by
  generalize event : step.toSaveStep s = saveStep at stepped
  cases transition_of_saveStep stepped with
  | opened phase todo => simp [cleared, SaveState.Returned] at late
  | unopened phase todo => cases step <;> simp [MutationStep.toSaveStep] at event
  | drained phase whole => simp [cleared, SaveState.Returned, SaveState.write, phase] at late
  | encoded phase => simp [cleared, SaveState.Returned] at late
  | cleared phase =>
      refine Or.inl ?_
      cases step <;> simp [MutationStep.toSaveStep] at event ⊢
  | unflushed phase broken => exact Or.inr (Or.inl phase)
  | flushed phase whole all => exact Or.inr (Or.inl phase)
  | closed phase => exact Or.inr (Or.inr (Or.inl phase))

theorem MutationStep.succeeds (save : SaveState) (step : MutationStep) :
    (step.toSaveStep save).Succeeds := by
  cases step <;> simp [MutationStep.toSaveStep, SaveStep.Succeeds]

variable {m : Mutation}

/-- The old configuration, the new one, or a text that is cut off. -/
theorem fileOn_of_intact {save : SaveState} (intact : Intact (some m.oldText) [m.newText] save) :
    fileOn m.decode save.disk = m.decode m.oldText ∨ fileOn m.decode save.disk = m.newFile ∨
      ∃ message, fileOn m.decode save.disk = .unreadable (.error message) := by
  by_cases idle : save.phase = .idle
  · obtain ⟨done, all, disk⟩ := intact.idle idle
    cases done with
    | nil => exact Or.inl (by rw [disk]; rfl)
    | cons text rest =>
        obtain ⟨rfl, none⟩ := List.cons.inj all
        obtain ⟨rfl, -⟩ := List.append_eq_nil_iff.mp none
        exact Or.inr (Or.inl (by rw [disk]; rfl))
  · obtain ⟨done, text, written, all, disk, whole, -⟩ := intact.busy idle
    have single : text = m.newText := by
      have member : text ∈ [m.newText] := by rw [← all]; simp
      simpa using member
    rw [disk]
    exact Or.inr (m.cut written ⟨save.pending, whole.trans single⟩)

/-- After the mutation has returned the file holds the new configuration. -/
theorem fileOn_of_returned {save : SaveState} (intact : Intact (some m.oldText) [m.newText] save)
    (returned : save.Returned) : fileOn m.decode save.disk = m.newFile := by
  obtain ⟨done, all, disk⟩ := intact.idle returned.1
  obtain rfl : done = [m.newText] := by simpa [returned.2] using all
  rw [disk]
  rfl

/-- No load of a query saves. -/
theorem loadConfiguration_pure {save : SaveState}
    (intact : Intact (some m.oldText) [m.newText] save) (clock : Clock) :
    ∃ result, loadConfiguration clock (fileOn m.decode save.disk) = .ofExcept result := by
  rcases fileOn_of_intact intact with old | new | ⟨message, torn⟩
  · rw [old]
    exact ⟨_, loadConfiguration_of_represents m.oldRepresents clock⟩
  · rw [new]
    exact ⟨_, loadConfiguration_of_represents m.newRepresents clock⟩
  · rw [torn]
    exact ⟨_, rfl⟩

theorem solveHostname_pure {save : SaveState}
    (intact : Intact (some m.oldText) [m.newText] save) (question : Question) (host : GoString)
    (clock : Clock) :
    (solveHostname question host clock (fileOn m.decode save.disk)).saves = [] := by
  obtain ⟨result, loaded⟩ := loadConfiguration_pure intact clock
  rw [solveHostname, loaded]
  cases result <;> rfl

theorem solveHostname_new (m : Mutation) (question : Question) (host : GoString) (clock : Clock) :
    solveHostname question host clock m.newFile =
      .ofExcept (answerHostname question host m.new) := by
  rw [solveHostname, Mutation.newFile, loadConfiguration_of_represents m.newRepresents]
  rfl

/-! ### Coherence -/

/-- The entry is what the new configuration answers for its key. -/
def FromNew (m : Mutation) (key : GoString) (v : Stored Msg) : Prop :=
  ∃ question tvalue, key = getHostnameKey question ∧ v = .timed tvalue ∧
    localAnswer question m.new = .ok tvalue.value

/-- What a query carries when all its loads were of the new file. -/
def StageFromNew (m : Mutation) : Stage → Prop
  | .solving question hosts =>
      answerHosts question question.name.dropLast m.new hosts = localAnswer question m.new
  | .answered question msg => localAnswer question m.new = .ok msg
  | .loadedServers config => config = m.new
  | _ => True

/-- What becomes of a query that began after the mutation. -/
def LateStage (m : Mutation) (main : MainCache) : Stage → Prop
  | .finished question outcome =>
      outcome.answer = (Outcome.ofExcept (localAnswer question m.new)).answer
  | .readingServers => Recency.peek main serversKey = some (.configuration m.new)
  | .hasServers config => config = .ok m.new
  | _ => True

structure Query.Coherent (m : Mutation) (save : SaveState) (main : MainCache) (q : Query) :
    Prop where
  stage : (∀ file ∈ q.loads, file = m.newFile) → StageFromNew m q.stage
  late : q.late = true →
    save.Returned ∧ (∀ file ∈ q.loads, file = m.newFile) ∧ LateStage m main q.stage

structure Coherent (m : Mutation) (s : RaceState ι) : Prop where
  intact : Intact (some m.oldText) [m.newText] s.save
  answers : cleared s.save → ∀ key v, Recency.peek s.answers key = some v → FromNew m key v
  servers : cleared s.save → ∀ v, Recency.peek s.main serversKey = some v →
    v = .configuration m.new
  queries : ∀ i, (s.queries i).Coherent m s.save s.main

/-- Another query's step leaves the entry of the servers, if there is one. -/
theorem Query.Coherent.of_main {save : SaveState} {main main' : MainCache} {q : Query}
    (coherent : q.Coherent m save main)
    (kept : ∀ v, Recency.peek main serversKey = some v → Recency.peek main' serversKey = some v) :
    q.Coherent m save main' := by
  refine ⟨coherent.stage, fun late => ?_⟩
  obtain ⟨returned, fresh, stage⟩ := coherent.late late
  refine ⟨returned, fresh, ?_⟩
  cases stageEq : q.stage <;> rw [stageEq] at stage <;> first | exact stage | exact kept _ stage

/-- A step of one query: what it must establish. -/
theorem Coherent.setQuery {s : RaceState ι} (coherent : Coherent m s) {answers : SolverCache}
    {main : MainCache} {i : ι} {q : Query}
    (found : cleared s.save → ∀ key v, Recency.peek answers key = some v →
      FromNew m key v ∨ Recency.peek s.answers key = some v)
    (servers : cleared s.save → ∀ v, Recency.peek main serversKey = some v →
      v = .configuration m.new ∨ Recency.peek s.main serversKey = some v)
    (kept : ∀ v, Recency.peek s.main serversKey = some v →
      Recency.peek main serversKey = some v)
    (own : q.Coherent m s.save main) :
    Coherent m (RaceState.setQuery { s with answers := answers, main := main } i q) where
  intact := coherent.intact
  answers late key v entry := (found late key v entry).elim id (coherent.answers late key v)
  servers late v entry := (servers late v entry).elim id (coherent.servers late v)
  queries j := by
    simp only [RaceState.setQuery]
    by_cases same : j = i
    · rw [same, Function.update_self]
      exact own
    · rw [Function.update_of_ne same]
      exact (coherent.queries j).of_main kept

/-! ### The steps of a query -/

theorem stageFromNew_firstStage (m : Mutation) (question : Question) :
    StageFromNew m (RaceState.firstStage question) := by
  unfold RaceState.firstStage
  split_ifs with unnamed
  · trivial
  · simp only [StageFromNew, localAnswer, if_neg unnamed]

theorem lateStage_firstStage (m : Mutation) (main : MainCache) (question : Question) :
    LateStage m main (RaceState.firstStage question) := by
  unfold RaceState.firstStage
  split_ifs with unnamed
  · simp only [LateStage, localAnswer, if_pos unnamed]
    rfl
  · trivial

/-- An entry of the new configuration, its TTLs counted down, is its answer. -/
theorem FromNew.answer_hit {question : Question} {tvalue : TimedValue Msg}
    (fromNew : FromNew m (getHostnameKey question) (.timed tvalue)) (ttl : UInt32) :
    (Outcome.returned (some (tvalue.value.setTtls ttl)) none).answer =
      (Outcome.ofExcept (localAnswer question m.new)).answer := by
  obtain ⟨question', tvalue', keyEq, entry, answer⟩ := fromNew
  cases entry
  rw [localAnswer_congr (getHostnameKey_inj keyEq).1, answer]
  simp [Outcome.answer, Outcome.ofExcept]

theorem Coherent.lookup {s : RaceState ι} (coherent : Coherent m s) (i : ι)
    (question : Question) : Coherent m (s.lookup i question) := by
  refine coherent.setQuery (fun _ key v found => Or.inr (peek_doSolve found))
    (fun _ v found => Or.inr found) (fun v found => found) ⟨fun _ => ?_, fun late => ?_⟩
  · simp only
    split
    · trivial
    · exact stageFromNew_firstStage m question
  · have returned : s.save.Returned := of_decide_eq_true late
    refine ⟨returned, by simp, ?_⟩
    simp only
    split
    · rename_i msg served
      obtain ⟨tvalue, ttl, found, -, rfl⟩ := doSolve_eq_some served
      exact (coherent.answers (Or.inr (Or.inr returned)) _ _ found).answer_hit ttl
    · exact lateStage_firstStage m s.main question

/-- A candidate name looked up in the new configuration. -/
theorem candidateStage_of_new {question : Question} {host : GoString} {rest : List GoString}
    (fromNew : answerHosts question question.name.dropLast m.new (host :: rest) =
      localAnswer question m.new) (main : MainCache) :
    StageFromNew m (RaceState.candidateStage question rest (answerHostname question host m.new)) ∧
      LateStage m main
        (RaceState.candidateStage question rest (answerHostname question host m.new)) := by
  rw [answerHosts] at fromNew
  cases result : answerHostname question host m.new with
  | ok msg =>
      rw [result] at fromNew
      exact ⟨fromNew.symm, trivial⟩
  | error failure =>
      rw [result] at fromNew
      cases failure with
      | panic cause =>
          refine ⟨trivial, ?_⟩
          simp only [RaceState.candidateStage, LateStage, ← fromNew]
          rfl
      | error message =>
          cases rest with
          | nil =>
              refine ⟨trivial, ?_⟩
              simp only [RaceState.candidateStage, LateStage, ← fromNew]
              rfl
          | cons next rest => exact ⟨fromNew, trivial⟩

theorem Coherent.load {s : RaceState ι} (coherent : Coherent m s) {i : ι} {question : Question}
    {host : GoString} {rest : List GoString}
    (solving : (s.queries i).stage = .solving question (host :: rest)) (clock : Clock) :
    Coherent m (s.load m i clock question host rest) := by
  have unsaved : (solveHostname question host clock (s.file m)).saves = [] :=
    solveHostname_pure coherent.intact question host clock
  have own := coherent.queries i
  have next : StageFromNew m (s.queries i).stage → s.file m = m.newFile →
      StageFromNew m (RaceState.candidateStage question rest
          (solveHostname question host clock (s.file m)).result) ∧
        LateStage m s.main (RaceState.candidateStage question rest
          (solveHostname question host clock (s.file m)).result) := by
    intro fromNew current
    rw [solving] at fromNew
    rw [current, solveHostname_new]
    exact candidateStage_of_new fromNew s.main
  rw [RaceState.load, unsaved]
  refine coherent.setQuery (fun _ key v found => Or.inr found)
    (fun _ v found => Or.inr found) (fun v found => found) ⟨fun fresh => ?_, fun late => ?_⟩
  · obtain ⟨current, earlier⟩ := List.forall_mem_cons.mp fresh
    exact (next (own.stage earlier) current).1
  · obtain ⟨returned, earlier, -⟩ := own.late late
    have current : s.file m = m.newFile := fileOn_of_returned coherent.intact returned
    exact ⟨returned, List.forall_mem_cons.mpr ⟨current, earlier⟩,
      (next (own.stage earlier) current).2⟩

theorem Coherent.put {s : RaceState ι} (coherent : Coherent m s) {i : ι} {question : Question}
    {msg : Msg} (answered : (s.queries i).stage = .answered question msg)
    (fresh : cleared s.save → ∀ file ∈ (s.queries i).loads, file = m.newFile) :
    Coherent m (s.put i question msg) := by
  have own := coherent.queries i
  have fromNew : (∀ file ∈ (s.queries i).loads, file = m.newFile) →
      localAnswer question m.new = .ok msg := by
    intro loads
    have carried := own.stage loads
    rwa [answered] at carried
  refine coherent.setQuery (fun late key v found => ?_) (fun _ v found => Or.inr found)
    (fun v found => found) ⟨fun _ => trivial, fun late => ?_⟩
  · rcases peek_storeAnswer found with ⟨msg', returned, rfl, rfl⟩ | old
    · obtain rfl : msg = msg' := by simpa using returned
      exact Or.inl ⟨question, _, rfl, rfl, fromNew (fresh late)⟩
    · exact Or.inr old
  · obtain ⟨returned, loads, -⟩ := own.late late
    refine ⟨returned, loads, ?_⟩
    simp only [LateStage, fromNew loads]
    rfl

theorem Coherent.containsServers {s : RaceState ι} (coherent : Coherent m s) (i : ι) :
    Coherent m (s.containsServers i) := by
  refine coherent.setQuery (fun _ key v found => Or.inr found)
    (fun _ v found => Or.inr found) (fun v found => found) ⟨fun _ => ?_, fun late => ?_⟩
  · simp only
    split_ifs <;> trivial
  · have returned : s.save.Returned := of_decide_eq_true late
    refine ⟨returned, by simp, ?_⟩
    simp only
    split_ifs with present
    · obtain ⟨v, found⟩ := Recency.contains_iff.mp present
      simp only [LateStage]
      rw [found, coherent.servers (Or.inr (Or.inr returned)) v found]
    · trivial

theorem Coherent.loadServers {s : RaceState ι} (coherent : Coherent m s) (i : ι)
    (clock : Clock) : Coherent m (s.loadServers m i clock) := by
  obtain ⟨result, loaded⟩ := loadConfiguration_pure coherent.intact clock
  have own := coherent.queries i
  have new : s.file m = m.newFile → result = .ok m.new := by
    intro current
    have read := loadConfiguration_of_represents m.newRepresents clock
    have same := loaded.symm.trans ((congrArg (loadConfiguration clock) current).trans read)
    exact congrArg Access.result same
  have unfolded : s.loadServers m i clock = s.setQuery i
      { s.queries i with
        loads := s.file m :: (s.queries i).loads
        stage := RaceState.serversStage result } := by
    rw [RaceState.loadServers, RaceState.file, loaded]
    rfl
  rw [unfolded]
  refine coherent.setQuery (fun _ key v found => Or.inr found)
    (fun _ v found => Or.inr found) (fun v found => found) ⟨fun fresh => ?_, fun late => ?_⟩
  · obtain ⟨current, -⟩ := List.forall_mem_cons.mp fresh
    simp only [new current, RaceState.serversStage, StageFromNew]
  · obtain ⟨returned, earlier, -⟩ := own.late late
    have current : s.file m = m.newFile := fileOn_of_returned coherent.intact returned
    refine ⟨returned, List.forall_mem_cons.mpr ⟨current, earlier⟩, ?_⟩
    simp only [new current, RaceState.serversStage, LateStage]

theorem Coherent.putServers {s : RaceState ι} (coherent : Coherent m s) {i : ι}
    {config : Configuration} (loaded : (s.queries i).stage = .loadedServers config)
    (fresh : cleared s.save → LRUCache.containsKey s.main serversKey = false →
      ∀ file ∈ (s.queries i).loads, file = m.newFile) :
    Coherent m (s.putServers i config) := by
  have own := coherent.queries i
  have fromNew : (∀ file ∈ (s.queries i).loads, file = m.newFile) → config = m.new := by
    intro loads
    have carried := own.stage loads
    rwa [loaded] at carried
  have entry := LRUCache.peek_putIfAbsent_self (by decide) s.main serversKey
    (.configuration config)
  refine coherent.setQuery (fun _ key v found => Or.inr found) (fun late v found => ?_)
    (fun v found => ?_) ⟨fun _ => trivial, fun late => ?_⟩
  · simp only [entry] at found
    split_ifs at found with present
    · exact Or.inr found
    · have absent : LRUCache.containsKey s.main serversKey = false := by simpa using present
      rw [← fromNew (fresh late absent)]
      exact Or.inl (Option.some.inj found).symm
  · simp only [entry]
    have present : LRUCache.containsKey s.main serversKey = true :=
      Recency.contains_iff.mpr ⟨v, found⟩
    rw [if_pos present, found]
  · obtain ⟨returned, loads, -⟩ := own.late late
    refine ⟨returned, loads, ?_⟩
    simp only [LateStage, entry]
    split_ifs with present
    · obtain ⟨v, found⟩ := Recency.contains_iff.mp present
      rw [found, coherent.servers (Or.inr (Or.inr returned)) v found]
    · rw [fromNew loads]

theorem Coherent.readServers {s : RaceState ι} (coherent : Coherent m s) {i : ι}
    (reading : (s.queries i).stage = .readingServers) : Coherent m (s.readServers i) := by
  have untouched := peek_getServers s.main
  refine coherent.setQuery (fun _ key v found => Or.inr found)
    (fun _ v found => Or.inr (by simpa [untouched] using found))
    (fun v found => by simpa [untouched] using found) ⟨fun _ => trivial, fun late => ?_⟩
  obtain ⟨returned, loads, stage⟩ := (coherent.queries i).late late
  rw [reading] at stage
  refine ⟨returned, loads, ?_⟩
  simp only [LateStage] at stage ⊢
  simp [getServers, LRUCache.get, stage]

/-! ### The steps of the mutation -/

omit [DecidableEq ι] in
theorem Coherent.mutate {s : RaceState ι} (coherent : Coherent m s) {step : MutationStep}
    {save : SaveState} (stepped : saveStep s.save (step.toSaveStep s.save) = some save) :
    Coherent m (s.mutate step save) := by
  have intact : Intact (some m.oldText) [m.newText] save :=
    coherent.intact.step (step.succeeds s.save) stepped
  have early : ¬ s.save.Returned := fun returned => by
    rw [saveStep_of_returned returned] at stepped
    exact absurd stepped (by simp)
  have queries : ∀ main i, (s.queries i).Coherent m save main := fun main i =>
    ⟨(coherent.queries i).stage, fun late => absurd ((coherent.queries i).late late).1 early⟩
  by_cases clears : step = .clearAllCaches
  · subst clears
    refine ⟨intact, fun _ key v found => ?_, fun _ v found => ?_, queries _⟩
    · simp [RaceState.mutate, TimedCache.clear, LRUCache.clear] at found
    · simp [RaceState.mutate, LRUCache.clear] at found
  · have unfolded : s.mutate step save = { s with save := save } := by
      cases step <;> first | rfl | exact absurd rfl clears
    rw [unfolded]
    have before : cleared save → cleared s.save := fun late =>
      (cleared_of_saveStep stepped late).resolve_left clears
    exact ⟨intact, fun late => coherent.answers (before late),
      fun late => coherent.servers (before late), queries _⟩

/-! ### Runs -/

/-- After the caches were cleared, nothing is put into them by a query that loaded
anything but the new file. -/
def PutsFresh (m : Mutation) (s : RaceState ι) : RaceEvent ι → Prop
  | .put i => cleared s.save → ∀ file ∈ (s.queries i).loads, file = m.newFile
  | .putServers i => cleared s.save → LRUCache.containsKey s.main serversKey = false →
      ∀ file ∈ (s.queries i).loads, file = m.newFile
  | _ => True

theorem Coherent.step {s s' : RaceState ι} {event : RaceEvent ι} (fresh : PutsFresh m s event)
    (stepped : raceStep m s event = some s') (coherent : Coherent m s) : Coherent m s' := by
  cases event with
  | begin i question =>
      simp only [raceStep] at stepped
      split at stepped
      · cases stepped
        exact coherent.lookup i question
      · exact absurd stepped (by simp)
  | load i clock =>
      simp only [raceStep] at stepped
      split at stepped
      · rename_i question host rest solving
        cases stepped
        exact coherent.load solving clock
      · exact absurd stepped (by simp)
  | put i =>
      simp only [raceStep] at stepped
      split at stepped
      · rename_i question msg answered
        cases stepped
        exact coherent.put answered fresh
      · exact absurd stepped (by simp)
  | beginRemote i =>
      simp only [raceStep] at stepped
      split at stepped
      · cases stepped
        exact coherent.containsServers i
      · exact absurd stepped (by simp)
  | loadServers i clock =>
      simp only [raceStep] at stepped
      split at stepped
      · cases stepped
        exact coherent.loadServers i clock
      · exact absurd stepped (by simp)
  | putServers i =>
      simp only [raceStep] at stepped
      split at stepped
      · rename_i config loaded
        cases stepped
        exact coherent.putServers loaded fresh
      · exact absurd stepped (by simp)
  | readServers i =>
      simp only [raceStep] at stepped
      split at stepped
      · rename_i reading
        cases stepped
        exact coherent.readServers reading
      · exact absurd stepped (by simp)
  | mutation step =>
      obtain ⟨save, saved, rfl⟩ := Option.map_eq_some_iff.mp stepped
      exact coherent.mutate saved
  | advance n =>
      cases stepped
      exact ⟨coherent.intact, coherent.answers, coherent.servers, coherent.queries⟩

omit [DecidableEq ι] in
theorem Coherent.initial (m : Mutation) (answers : SolverCache) (main : MainCache) (now : Int) :
    Coherent m (RaceState.initial m answers main now : RaceState ι) where
  intact := ⟨rfl, fun _ => ⟨[], rfl, rfl⟩, fun busy => absurd rfl busy⟩
  answers late := by simp [cleared, SaveState.Returned, RaceState.initial] at late
  servers late := by simp [cleared, SaveState.Returned, RaceState.initial] at late
  queries _ := ⟨fun _ => trivial, fun late => by simp [RaceState.initial] at late⟩

/-- Nothing in the caches was computed from another configuration than the new one. -/
def Effective (m : Mutation) (s : RaceState ι) : Prop :=
  (∀ key v, Recency.peek s.answers key = some v → FromNew m key v) ∧
    ∀ v, Recency.peek s.main serversKey = some v → v = .configuration m.new

/-- In every run in which no query puts into the cleared caches what it took from
another file than the new one: once the mutation has returned the caches hold the
new configuration only, and every query that began after that was answered from it. -/
theorem change_is_effective_at_once {answers : SolverCache} {main : MainCache} {now : Int}
    {events : List (RaceEvent ι)} {s : RaceState ι}
    (meets : Runs.AllSteps (raceStep m) (PutsFresh m) (.initial m answers main now) events)
    (ran : Runs.run (raceStep m) (.initial m answers main now) events = some s) :
    (s.save.Returned → Effective m s) ∧
      ∀ i, (s.queries i).late = true →
        (∀ question outcome, (s.queries i).stage = .finished question outcome →
          outcome.answer = (Outcome.ofExcept (localAnswer question m.new)).answer) ∧
        ∀ config, (s.queries i).stage = .hasServers config → config = .ok m.new := by
  have coherent := Runs.invariant_of_allSteps (fun _ _ _ => Coherent.step) meets ran
    (Coherent.initial m answers main now)
  constructor
  · intro returned
    have late : cleared s.save := Or.inr (Or.inr returned)
    exact ⟨coherent.answers late, coherent.servers late⟩
  · intro i late
    obtain ⟨-, -, stage⟩ := (coherent.queries i).late late
    constructor
    · intro question outcome finished
      rwa [finished] at stage
    · intro config has
      rwa [has] at stage

end Steps

/-! ### Removing the record of `a.com` -/

instance (s : SaveState) : Decidable (cleared s) :=
  inferInstanceAs (Decidable (_ ∨ _ ∨ _))

instance {ι : Type} (m : Mutation) (s : RaceState ι) (event : RaceEvent ι) :
    Decidable (PutsFresh m s event) := by
  cases event <;> unfold PutsFresh <;> infer_instance

def textWithA : GoString :=
  textAround ("\t\t\x7b\n\t\t\t\"name\": \"\",\n\t\t\t\"hostnames\": [\n" ++
    "\t\t\t\t\x7b\n\t\t\t\t\t\"id\": 1,\n\t\t\t\t\t\"hostname\": \"a.com\",\n" ++
    "\t\t\t\t\t\"ip\": \"1.2.3.4\",\n\t\t\t\t\t\"target\": \"\",\n" ++
    "\t\t\t\t\t\"ttl\": 50,\n\t\t\t\t\t\"type\": \"A\"\n\t\t\t\t\x7d\n\t\t\t]\n\t\t\x7d")

def encodeRemoval (d : Document) : GoString :=
  if d = .v2 (StorageV2.valueOf configurationWithA) then textWithA else oldText

def decodeRemoval (bytes : GoString) : ConfFile :=
  if bytes = textWithA then .document (.v2 (StorageV2.valueOf configurationWithA))
  else if bytes = oldText ∨ bytes ++ "\n".toList = oldText then
    .document (.v2 (StorageV2.valueOf oldConfiguration))
  else .unreadable (.error "unexpected end of JSON input".toList)

/-- Texts that differ in the envs alone differ in length as the envs do. -/
theorem length_textAround_lt {envs envs' : String}
    (shorter : envs.toList.length < envs'.toList.length) :
    (textAround envs).length < (textAround envs').length := by
  unfold textAround
  repeat rw [List.length_append]
  repeat apply Nat.add_lt_add_right
  exact Nat.add_lt_add_left shorter _

theorem length_oldText_lt : oldText.length < textWithA.length := by
  apply length_textAround_lt
  simp only [String.toList_append, List.length_append]
  decide +kernel

theorem oldText_ne_textWithA : oldText ≠ textWithA := fun same =>
  absurd (congrArg List.length same) (Nat.ne_of_lt length_oldText_lt)

theorem decode_textWithA :
    decodeRemoval textWithA = .document (.v2 (StorageV2.valueOf configurationWithA)) := by
  simp [decodeRemoval]

theorem decode_oldText :
    decodeRemoval oldText = .document (.v2 (StorageV2.valueOf oldConfiguration)) := by
  simp [decodeRemoval, oldText_ne_textWithA]

theorem represents_v2 {conf : Configuration}
    (loaded : loadConfiguration stillClock (.document (.v2 (StorageV2.valueOf conf))) =
      .ofExcept (.ok conf)) :
    Represents (.document (.v2 (StorageV2.valueOf conf))) conf := by
  have represents := represents_of_load (congrArg Access.result loaded)
  rwa [loaded] at represents

/-- The default configuration with the record of `a.com`, from which it is removed. -/
def removal : Mutation where
  encode := encodeRemoval
  decode := decodeRemoval
  oldText := textWithA
  newText := oldText
  old := configurationWithA
  new := oldConfiguration
  oldRepresents := by
    rw [decode_textWithA]
    exact represents_v2 rfl
  newRepresents := by
    rw [decode_oldText]
    exact represents_v2 rfl
  cut := by
    intro written cutOff
    have shorter : written ≠ textWithA := fun same =>
      absurd cutOff.length_le (by rw [same]; exact Nat.not_le_of_lt length_oldText_lt)
    unfold decodeRemoval
    rw [if_neg shorter, if_neg oldText_ne_textWithA, if_pos (Or.inl rfl)]
    split_ifs
    · exact Or.inl rfl
    · exact Or.inr ⟨_, rfl⟩

def mutationEvents : List (RaceEvent Nat) :=
  [.mutation .truncate, .mutation .encode, .mutation .clearAllCaches, .mutation .flush,
    .mutation .close]

def removalStart : RaceState Nat := .initial removal Recency.empty Recency.empty 0

/-- A query and a remote query before the removal, and one of each after it. -/
def orderlyEvents : List (RaceEvent Nat) :=
  [.begin 0 questionA, .load 0 stillClock, .put 0, .beginRemote 1, .loadServers 1 stillClock,
    .putServers 1] ++ mutationEvents ++
  [.begin 2 questionA, .load 2 stillClock, .load 2 stillClock, .load 2 stillClock,
    .beginRemote 3, .loadServers 3 stillClock, .putServers 3, .readServers 3]

theorem change_is_effective_after_orderlyEvents :
    ∃ s, Runs.run (raceStep removal) removalStart orderlyEvents = some s ∧
      s.save.Returned ∧ Effective removal s ∧
      (s.queries 2).stage = .finished questionA
        (.returned none (some "hostname not found a.com".toList)) ∧
      (s.queries 3).stage = .hasServers (.ok oldConfiguration) := by
  have evaluated : Runs.AllSteps (raceStep removal) (PutsFresh removal) removalStart orderlyEvents ∧
      ∃ s ∈ Runs.run (raceStep removal) removalStart orderlyEvents, s.save.Returned ∧
        (s.queries 2).stage = .finished questionA
          (.returned none (some "hostname not found a.com".toList)) ∧
        (s.queries 3).stage = .hasServers (.ok oldConfiguration) := by
    decide +kernel
  obtain ⟨meets, s, ran, returned, answered, servers⟩ := evaluated
  exact ⟨s, ran, returned, (change_is_effective_at_once meets ran).1 returned, answered, servers⟩

/-- A query and a remote query that load before the removal and put after it. -/
def overlappingEvents : List (RaceEvent Nat) :=
  [.begin 0 questionA, .load 0 stillClock, .beginRemote 1, .loadServers 1 stillClock] ++
  mutationEvents ++
  [.put 0, .putServers 1, .begin 2 questionA, .beginRemote 3, .readServers 3]

/-- Queries that begin after the removal has returned are answered with the record that
was removed, and with the configuration that still has it. -/
theorem removed_record_is_still_answered :
    ∃ s, Runs.run (raceStep removal) removalStart overlappingEvents = some s ∧
      s.save.Returned ∧ (s.queries 2).late = true ∧ (s.queries 3).late = true ∧
      (∃ outcome, (s.queries 2).stage = .finished questionA outcome ∧
        outcome.answer ≠ (Outcome.ofExcept (localAnswer questionA removal.new)).answer) ∧
      (s.queries 3).stage = .hasServers (.ok removal.old) ∧ removal.old ≠ removal.new ∧
      ¬ Effective removal s := by
  have reached : ∃ s ∈ Runs.run (raceStep removal) removalStart overlappingEvents,
      s.save.Returned ∧ (s.queries 2).late = true ∧ (s.queries 3).late = true ∧
      (s.queries 2).stage = .finished questionA
        (.returned (some { answer := [.a ⟨"a.com.".toList, typeA, classINET, 50⟩ ⟨1, 2, 3, 4⟩] })
          none) ∧
      (s.queries 3).stage = .hasServers (.ok configurationWithA) ∧
      Recency.peek s.main serversKey = some (.configuration configurationWithA) := by
    decide +kernel
  have different : removal.old ≠ removal.new := by decide
  obtain ⟨s, ran, returned, late, lateRemote, answered, servers, entry⟩ := reached
  refine ⟨s, ran, returned, late, lateRemote, ⟨_, answered, ?_⟩, servers, different, ?_⟩
  · decide
  · exact fun effective => different (MainValue.configuration.inj (effective.2 _ entry))

end DnsProxyServer.Proxy
