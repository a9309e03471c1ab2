/-
Module: DnsProxyServer.Proxy.DnsServer
Purpose: The four solvers of the server over its whole state, and when the class that
  marks an internal CNAME stays inside it.
Trusted boundary: translation of getSolvers of dns.go; the clocks, the durations and
  the remote solver are those of an arbitrary environment
Main exports: Outside, DnsServer, getSolvers, dnsStep, Kept, AnsweredByCname,
  attempt_cases, MarkerRemoved, Leaks, marker_removed_iff, unresolved_marker_leaves
-/
import DnsProxyServer.Proxy.AddressSolvers
import DnsProxyServer.Proxy.Factory

namespace DnsProxyServer.Proxy

open Local
open Cache (LRUCache TimedCache TimedValue Stored)
open Docker (Registry)
open LoadStore (after)

/-! ### The server -/

/-- No record has the class that marks an internal CNAME. -/
def Msg.Clean (msg : Msg) : Prop := ∀ rr ∈ msg.answer, rr.header.rrclass ≠ 256

/-- What the server does not control: the clock a load reads and the time it takes, and
what the remote solver does. -/
structure Outside (ρ : Type) where
  clocks : ρ → Nat → Clock
  elapsed : ρ → Nat
  remote : Question → ρ → DelegateCall
  next : ρ → ρ
  clean : ∀ question r msg err, (remote question r).outcome = .returned (some msg) err → msg.Clean

structure DnsServer (ρ : Type) where
  system : System
  registry : Registry
  stored : Server
  remoteCache : SolverCache
  outside : ρ

variable {ρ : Type} (outside : Outside ρ)

def systemSolver : Solver (DnsServer ρ) := fun question s =>
  (SystemDnsSolver.solve s.system question, s)

def dockerSolver : Solver (DnsServer ρ) := fun question s =>
  let (outcome, registry) := DockerDnsSolver.solve s.registry question
  (outcome, { s with registry := registry })

/-- The caching solver over the local one; a save clears the other cache as well. -/
def cachedLocalSolver : Solver (DnsServer ρ) := fun question s =>
  let (outcome, stored) :=
    s.stored.query question (outside.clocks s.outside) (outside.elapsed s.outside)
  let saved := (s.stored.state.hit question).isNone &&
    !(localSolve question (outside.clocks s.outside) s.stored.file).saves.isEmpty
  (outcome, { s with
    stored := stored
    remoteCache := if saved then s.remoteCache.clear else s.remoteCache
    outside := outside.next s.outside })

/-- The caching solver over the remote one. -/
def cachedRemoteSolver : Solver (DnsServer ρ) := fun question s =>
  let state : CacheState := { cache := s.remoteCache, now := s.stored.state.now }
  let call := outside.remote question s.outside
  let (outcome, state') := state.solve question call
  let clears := (state.hit question).isNone && call.clears
  (outcome, { s with
    stored := { s.stored with
      state := {
        cache := if clears then s.stored.state.cache.clear else s.stored.state.cache
        now := state'.now } }
    remoteCache := state'.cache
    outside := outside.next s.outside })

def getSolvers : List (Solver (DnsServer ρ)) :=
  [systemSolver, dockerSolver, cachedLocalSolver outside, cachedRemoteSolver outside]

/-! ### Runs -/

inductive DnsEvent (ρ : Type) where
  | question (question : Question)
  | request (clocks : Clocks) (request : Request)
  | changes (system : System) (registry : Registry) (elapsed : Nat) (outside : ρ)

/-- A question that is answered, a request to the web interface, or anything else: time
passes, containers come and go, the machine is renamed. -/
def dnsStep (s : DnsServer ρ) : DnsEvent ρ → Option (DnsServer ρ)
  | .question question => some (resolve question (getSolvers outside) s).2
  | .request clocks request =>
      some { s with
        stored := {
          file := request.next clocks s.stored.file
          state :=
            if (request.serve clocks s.stored.file).saves.isEmpty then s.stored.state
            else { s.stored.state with cache := s.stored.state.cache.clear } }
        remoteCache :=
          if (request.serve clocks s.stored.file).saves.isEmpty then s.remoteCache
          else s.remoteCache.clear }
  | .changes system registry elapsed outside =>
      some { s with
        system := system
        registry := registry
        stored := { s.stored with
          state := { s.stored.state with now := s.stored.state.now + elapsed } }
        outside := outside }

def DnsServer.initial (system : System) (registry : Registry) (file : ConfFile) (now : Int)
    (outside : ρ) : DnsServer ρ where
  system := system
  registry := registry
  stored := .initial file now
  remoteCache := Recency.empty
  outside := outside

/-- The cache over the local solver agrees with the file, and the other one has no marked
record. -/
structure Kept (s : DnsServer ρ) : Prop where
  agrees : Agrees s.stored
  clean : ∀ key v, Recency.peek s.remoteCache key = some v →
    ∃ tvalue, v = .timed tvalue ∧ tvalue.value.Clean

section Kept

variable {outside : Outside ρ} {question : Question} {s s' : DnsServer ρ}

theorem Kept.of_subset (kept : Kept s) (agrees : Agrees s'.stored)
    (entries : ∀ key v, Recency.peek s'.remoteCache key = some v →
      Recency.peek s.remoteCache key = some v) : Kept s' where
  agrees := agrees
  clean := fun key v found => kept.clean key v (entries key v found)

theorem Kept.cachedLocalSolver (kept : Kept s) :
    Kept (cachedLocalSolver outside question s).2 := by
  apply kept.of_subset
  · exact kept.agrees.query question _ _
  · intro key v found
    simp only [Proxy.cachedLocalSolver] at found
    split_ifs at found
    · simp [TimedCache.clear, LRUCache.clear] at found
    · exact found

theorem Kept.cachedRemoteSolver (kept : Kept s) :
    Kept (cachedRemoteSolver outside question s).2 := by
  constructor
  · apply Agrees.of_subset kept.agrees
    · rfl
    · intro key v found
      simp only [Proxy.cachedRemoteSolver] at found
      split_ifs at found
      · simp [TimedCache.clear, LRUCache.clear] at found
      · exact found
  · intro key v found
    simp only [Proxy.cachedRemoteSolver] at found
    generalize stateEq : (⟨s.remoteCache, s.stored.state.now⟩ : CacheState) = state at found
    have before : state.cache = s.remoteCache := by rw [← stateEq]
    cases hit : state.hit question with
    | some msg =>
        rw [CacheState.solve_of_hit hit] at found
        have old := peek_doSolve found
        rw [before] at old
        exact kept.clean key v old
    | none =>
        rw [CacheState.solve_of_miss hit] at found
        rcases peek_storeAnswer found with ⟨msg, returned, -, rfl⟩ | old
        · exact ⟨_, rfl, outside.clean _ _ _ _ returned⟩
        · have older := (CacheState.peek_asked old).2
          rw [before] at older
          exact kept.clean key v older

theorem Kept.solver {solver : Solver (DnsServer ρ)} (member : solver ∈ getSolvers outside)
    (question : Question) (s : DnsServer ρ) (kept : Kept s) : Kept (solver question s).2 := by
  simp only [getSolvers, List.mem_cons, List.not_mem_nil, or_false] at member
  rcases member with rfl | rfl | rfl | rfl
  · exact kept
  · exact kept.of_subset kept.agrees fun _ _ found => found
  · exact kept.cachedLocalSolver
  · exact kept.cachedRemoteSolver

theorem Kept.step {event : DnsEvent ρ} (kept : Kept s)
    (stepped : dnsStep outside s event = some s') : Kept s' := by
  cases event with
  | question question =>
      cases stepped
      exact invariant_resolve (fun _ member => Kept.solver member) question kept
  | request clocks request =>
      cases stepped
      apply kept.of_subset
      · have stepped : serverStep s.stored (.request clocks request) = some _ := rfl
        exact kept.agrees.step stepped
      · intro key v found
        simp only at found
        split_ifs at found
        · exact found
        · simp [TimedCache.clear, LRUCache.clear] at found
  | changes system registry elapsed next =>
      cases stepped
      exact kept.of_subset (kept.agrees.of_subset rfl fun _ _ found => found) fun _ _ found => found

theorem kept_of_run {system : System} {registry : Registry} {file : ConfFile} {now : Int} {r : ρ}
    {events : List (DnsEvent ρ)}
    (ran : Runs.run (dnsStep outside) (.initial system registry file now r) events = some s) :
    Kept s := by
  have start : Kept (DnsServer.initial system registry file now r) := by
    constructor
    · intro key v found
      simp [DnsServer.initial, Server.initial] at found
    · intro key v found
      simp [DnsServer.initial] at found
  exact Runs.invariant (fun _ _ _ stepped kept => Kept.step kept stepped) ran start

end Kept

/-! ### What the solvers answer -/

section Answers

variable {question : Question} {msg : Msg} {err : Option GoString}

theorem Msg.Clean.setTtls (clean : msg.Clean) (ttl : UInt32) : (msg.setTtls ttl).Clean := by
  intro rr member
  obtain ⟨rr', member', rfl⟩ := List.mem_map.mp member
  have unmarked := clean rr' member'
  cases rr' <;> exact unmarked

theorem clean_address (name : GoString) (ttl : UInt32) (bytes : IpArray) :
    Msg.Clean { answer := [.a
      { name := name, rrtype := typeA, rrclass := classINET, ttl := ttl } bytes] } := by
  intro rr member
  rw [List.mem_singleton.mp member]
  show classINET ≠ 256
  decide

theorem clean_ipMsg {ip : GoString} (answered : ipMsg ip question = .ok msg) : msg.Clean := by
  unfold ipMsg at answered
  split at answered
  · cases answered
    exact clean_address _ _ _
  · cases answered

theorem clean_system {system : System}
    (answered : SystemDnsSolver.solve system question = .returned (some msg) err) : msg.Clean := by
  unfold SystemDnsSolver.solve SystemDnsSolver.getMsg at answered
  split_ifs at answered
  dsimp only at answered
  split_ifs at answered
  · split at answered
    · rename_i msg' read
      cases answered
      exact clean_ipMsg read
    · cases answered
    · cases answered
  · cases answered

theorem clean_docker {c : Registry}
    (answered : (DockerDnsSolver.solve c question).1 = .returned (some msg) err) : msg.Clean := by
  have every : ∀ questionName hosts msg,
      (DockerDnsSolver.solveHosts c question questionName hosts).1 = .ok msg → msg.Clean := by
    intro questionName hosts msg found
    induction hosts with
    | nil => cases found
    | cons host rest inductionHypothesis =>
        rw [DockerDnsSolver.solveHosts] at found
        split_ifs at found
        · unfold DockerDnsSolver.doSolve DockerDnsSolver.getMsg at found
          split at found
          · exact clean_ipMsg found
          · cases found
        · exact inductionHypothesis found
  unfold DockerDnsSolver.solve at answered
  split_ifs at answered
  dsimp only at answered
  cases result : (DockerDnsSolver.solveHosts c question question.name.dropLast
      (getAllHosts ('.' :: question.name.dropLast))).1 with
  | ok found =>
      rw [result] at answered
      cases answered
      exact every _ _ _ result
  | error failure =>
      rw [result] at answered
      cases failure <;> cases answered

/-- The record the local solver answers the question with is a CNAME of the active env. -/
structure Configured (question : Question) (clocks : Nat → Clock) (file : ConfFile)
    (record : Hostname) : Prop where
  result : (localSolve question clocks file).result = .ok (getCnameMsg question record)
  cname : record.type = EntryType.CNAME
  stored : ∃ conf env i, (loadConfiguration (clocks 0) file).result = .ok conf ∧
    conf.getActiveEnv = some (env, i) ∧ record ∈ env.hostnames

theorem clean_getAMsg {record : Hostname} (answered : getAMsg question record = .ok msg) :
    msg.Clean := by
  unfold getAMsg at answered
  cases read : toIpByteArray {} record.ip with
  | error failure => simp [read, bind, Except.bind] at answered
  | ok bytes =>
      simp only [read, bind, Except.bind, pure, Except.pure] at answered
      cases answered
      exact clean_address _ _ _

theorem answerHostname_eq_ok {key : GoString} {conf : Configuration}
    (answered : answerHostname question key conf = .ok msg) :
    msg.Clean ∨ ∃ record env i, conf.getActiveEnv = some (env, i) ∧ record ∈ env.hostnames ∧
      record.type = EntryType.CNAME ∧ msg = getCnameMsg question record := by
  unfold answerHostname at answered
  split at answered
  · cases answered
  · rename_i env i active
    split at answered
    · rename_i record j found
      have member := FirstMatch.mem_of_firstMatch found
      split_ifs at answered with address cname
      · exact Or.inl (clean_getAMsg answered)
      · cases answered
        exact Or.inr ⟨record, env, i, active, member, cname, rfl⟩
    · cases answered

theorem answerHosts_eq_ok {questionName : GoString} {conf : Configuration} {hosts : List GoString}
    (answered : answerHosts question questionName conf hosts = .ok msg) :
    ∃ host, answerHostname question host conf = .ok msg := by
  induction hosts with
  | nil => cases answered
  | cons host rest inductionHypothesis =>
      rw [answerHosts] at answered
      split at answered
      · exact inductionHypothesis answered
      · exact ⟨host, answered⟩

/-- What the local solver answers is an address or a configured CNAME. -/
theorem localSolve_eq_ok {clocks : Nat → Clock} {file : ConfFile}
    (answered : (localSolve question clocks file).result = .ok msg) :
    msg.Clean ∨ ∃ record, Configured question clocks file record ∧
      msg = getCnameMsg question record := by
  by_cases named : question.name = []
  · rw [localSolve, if_pos named] at answered
    cases answered
  · cases loaded : (loadConfiguration (clocks 0) file).result with
    | error failure =>
        obtain ⟨cause, failed⟩ := localSolve_of_error loaded question clocks
        rw [failed] at answered
        cases answered
    | ok conf =>
        have result := answered
        rw [localSolve_of_load loaded named, localAnswer, if_neg named] at answered
        obtain ⟨host, one⟩ := answerHosts_eq_ok answered
        rcases answerHostname_eq_ok one with clean | ⟨record, env, i, active, member, cname, rfl⟩
        · exact Or.inl clean
        · exact Or.inr ⟨record, ⟨result, cname, conf, env, i, loaded, active, member⟩, rfl⟩

/-- The caching solver answers what the local solver answers, but for the TTL. -/
theorem Agrees.query_of_ok {s : Server} (agrees : Agrees s) {clocks : Nat → Clock} (elapsed : Nat)
    (answered : (localSolve question clocks s.file).result = .ok msg) :
    ∃ served, (s.query question clocks elapsed).1 = .returned (some served) none ∧
      (served = msg ∨ ∃ ttl, served = msg.setTtls ttl) := by
  cases hit : s.state.hit question with
  | some served =>
      obtain ⟨tvalue, ttl, found, -, rfl⟩ := doSolve_eq_some hit
      obtain ⟨question', conf, tvalue', keyEq, represents, answer, entry⟩ := agrees _ _ found
      cases entry
      rw [localSolve_of_represents represents, localAnswer_congr (getHostnameKey_inj keyEq).1,
        answer] at answered
      cases answered
      refine ⟨_, ?_, Or.inr ⟨ttl, rfl⟩⟩
      simp only [Server.query, hit, CacheState.solve_of_hit hit]
  | none =>
      refine ⟨msg, ?_, Or.inl rfl⟩
      simp only [Server.query, hit, CacheState.solve_of_miss hit, localCall, answered]
      rfl

/-- It returns a message only when the local solver does. -/
theorem Agrees.result_of_query {s : Server} (agrees : Agrees s) {clocks : Nat → Clock}
    {elapsed : Nat}
    (answered : (s.query question clocks elapsed).1 = .returned (some msg) err) :
    ∃ source, (localSolve question clocks s.file).result = .ok source := by
  cases hit : s.state.hit question with
  | some served =>
      obtain ⟨tvalue, ttl, found, -, rfl⟩ := doSolve_eq_some hit
      obtain ⟨question', conf, tvalue', keyEq, represents, answer, entry⟩ := agrees _ _ found
      rw [localSolve_of_represents represents, localAnswer_congr (getHostnameKey_inj keyEq).1]
      exact ⟨_, answer⟩
  | none =>
      simp only [Server.query, hit, CacheState.solve_of_miss hit, localCall] at answered
      cases result : (localSolve question clocks s.file).result with
      | ok source => exact ⟨source, rfl⟩
      | error failure =>
          rw [result] at answered
          cases failure <;> cases answered

end Answers

/-! ### Internal CNAMEs -/

/-- The record as the local solver hands it out. -/
def internalRecord (question : Question) (record : Hostname) (ttl : UInt32) : RR :=
  .cname { name := question.name, rrtype := typeCNAME, rrclass := 256, ttl := ttl }
    (record.target ++ ".".toList)

/-- The machine and the containers do not know the name, and the record that is stored for
it is a CNAME. -/
structure AnsweredByCname (outside : Outside ρ) (question : Question) (s : DnsServer ρ)
    (record : Hostname) : Prop where
  notSystem : (SystemDnsSolver.solve s.system question).decides = false
  notDocker : (DockerDnsSolver.solve s.registry question).1.decides = false
  configured : Configured question (outside.clocks s.outside) s.stored.file record

/-- The state once the local solver was asked. -/
def localAsked (outside : Outside ρ) (question : Question) (s : DnsServer ρ) : DnsServer ρ :=
  (cachedLocalSolver outside question (dockerSolver question (systemSolver question s).2).2).2

section Attempts

variable {outside : Outside ρ} {question : Question} {s s' : DnsServer ρ} {record : Hostname}
  {msg : Msg} {err : Option GoString}

theorem Kept.localAsked (kept : Kept s) : Kept (localAsked outside question s) :=
  Kept.cachedLocalSolver (kept.of_subset kept.agrees fun _ _ found => found)

theorem cname_served (kept : Kept s) {clocks : Nat → Clock}
    (configured : Configured question clocks s.stored.file record) (elapsed : Nat) :
    ∃ served ttl, (s.stored.query question clocks elapsed).1 = .returned (some served) none ∧
      served.answer = [internalRecord question record ttl] := by
  obtain ⟨served, answered, source⟩ := kept.agrees.query_of_ok elapsed configured.result
  rcases source with rfl | ⟨ttl, rfl⟩
  · exact ⟨_, _, answered, rfl⟩
  · exact ⟨_, ttl, answered, rfl⟩

theorem attempt_of_cname (kept : Kept s) (answered : AnsweredByCname outside question s record) :
    ∃ msg ttl, attempt (getSolvers outside) question s =
        some (.returned (some msg) none, localAsked outside question s) ∧
      msg.answer = [internalRecord question record ttl] := by
  obtain ⟨served, ttl, returned, answer⟩ := cname_served kept answered.configured
    (outside.elapsed s.outside)
  have asked : cachedLocalSolver outside question
      (dockerSolver question (systemSolver question s).2).2 =
        (.returned (some served) none, localAsked outside question s) := Prod.ext returned rfl
  refine ⟨served, ttl, ?_, answer⟩
  unfold attempt calls getSolvers
  simp only [List.map_cons, List.map_nil]
  rw [Handlers.first_cons_of_passes (by exact answered.notSystem),
    Handlers.first_cons_of_passes (by exact answered.notDocker),
    Handlers.first_cons_of_decides (by rw [asked]; rfl), asked]

theorem query_cases (kept : Kept s) {clocks : Nat → Clock} {elapsed : Nat}
    (answered : (s.stored.query question clocks elapsed).1 = .returned (some msg) err) :
    msg.Clean ∨ err = none ∧ ∃ record ttl, Configured question clocks s.stored.file record ∧
      msg.answer = [internalRecord question record ttl] := by
  obtain ⟨source, result⟩ := kept.agrees.result_of_query answered
  obtain ⟨served, again, form⟩ := kept.agrees.query_of_ok elapsed result
  rw [again] at answered
  cases answered
  rcases localSolve_eq_ok result with clean | ⟨record, configured, rfl⟩
  · rcases form with rfl | ⟨ttl, rfl⟩
    · exact Or.inl clean
    · exact Or.inl (clean.setTtls ttl)
  · rcases form with rfl | ⟨ttl, rfl⟩
    · exact Or.inr ⟨rfl, record, _, configured, rfl⟩
    · exact Or.inr ⟨rfl, record, ttl, configured, rfl⟩

theorem clean_remote (kept : Kept s)
    (answered : (cachedRemoteSolver outside question s).1 = .returned (some msg) err) :
    msg.Clean := by
  simp only [cachedRemoteSolver] at answered
  generalize stateEq : (⟨s.remoteCache, s.stored.state.now⟩ : CacheState) = state at answered
  cases hit : state.hit question with
  | some served =>
      obtain ⟨tvalue, ttl, found, -, rfl⟩ := doSolve_eq_some hit
      rw [CacheState.solve_of_hit hit] at answered
      cases answered
      rw [← stateEq] at found
      obtain ⟨tvalue', entry, clean⟩ := kept.clean _ _ found
      cases entry
      exact clean.setTtls ttl
  | none =>
      rw [CacheState.solve_of_miss hit] at answered
      cases outcome : (outside.remote question s.outside).outcome with
      | panicked cause =>
          rw [outcome] at answered
          cases answered
      | returned msg' err' =>
          rw [outcome] at answered
          cases msg' with
          | none => cases err' <;> cases answered
          | some msg' => cases err' <;> cases answered <;> exact outside.clean _ _ _ _ outcome

/-- The first message that is found is clean or a configured CNAME. -/
theorem attempt_cases (kept : Kept s)
    (found : attempt (getSolvers outside) question s = some (.returned (some msg) err, s')) :
    msg.Clean ∨ err = none ∧ s' = localAsked outside question s ∧
      ∃ record ttl, AnsweredByCname outside question s record ∧
        msg.answer = [internalRecord question record ttl] := by
  unfold attempt calls getSolvers at found
  simp only [List.map_cons, List.map_nil] at found
  cases system : (systemSolver question s).1.decides with
  | true =>
      rw [Handlers.first_cons_of_decides system] at found
      exact Or.inl (clean_system (congrArg Prod.fst (Option.some.inj found)))
  | false =>
      rw [Handlers.first_cons_of_passes system] at found
      cases docker : (dockerSolver question (systemSolver question s).2).1.decides with
      | true =>
          rw [Handlers.first_cons_of_decides docker] at found
          exact Or.inl (clean_docker (congrArg Prod.fst (Option.some.inj found)))
      | false =>
          rw [Handlers.first_cons_of_passes docker] at found
          cases asked : (cachedLocalSolver outside question
              (dockerSolver question (systemSolver question s).2).2).1.decides with
          | true =>
              rw [Handlers.first_cons_of_decides asked] at found
              have same := Option.some.inj found
              rcases query_cases kept (congrArg Prod.fst same) with
                clean | ⟨noError, record, ttl, configured, answer⟩
              · exact Or.inl clean
              · exact Or.inr ⟨noError, (congrArg Prod.snd same).symm, record, ttl,
                  ⟨system, docker, configured⟩, answer⟩
          | false =>
              rw [Handlers.first_cons_of_passes asked] at found
              cases remote : (cachedRemoteSolver outside question
                  (localAsked outside question s)).1.decides with
              | true =>
                  rw [Handlers.first_cons_of_decides (by exact remote)] at found
                  exact Or.inl (clean_remote kept.localAsked
                    (congrArg Prod.fst (Option.some.inj found)))
              | false =>
                  rw [Handlers.first_cons_of_passes (by exact remote)] at found
                  cases found

end Attempts

/-! ### The mark -/

/-- The question for the target of a record. -/
def targetOf (question : Question) (record : Hostname) : Question :=
  { question with name := record.target ++ ".".toList }

/-- What is returned has no marked record, and when a stored CNAME answers the question it
starts with that CNAME, of class IN. -/
structure MarkerRemoved (outside : Outside ρ) (question : Question) (s : DnsServer ρ) : Prop where
  clean : ∀ msg err, (resolve question (getSolvers outside) s).1 = .returned (some msg) err →
    msg.Clean
  rewritten : ∀ record, AnsweredByCname outside question s record → ∀ msg err,
    (resolve question (getSolvers outside) s).1 = .returned (some msg) err → ∃ ttl rest,
      msg.answer = .cname
        { name := question.name, rrtype := typeCNAME, rrclass := classINET, ttl := ttl }
        (record.target ++ ".".toList) :: rest

/-- A stored CNAME answers the question, and its target is found by no solver or is
answered by a stored CNAME again. -/
def Leaks (outside : Outside ρ) (question : Question) (s : DnsServer ρ) : Prop :=
  ∃ record, AnsweredByCname outside question s record ∧
    (attempt (getSolvers outside) (targetOf question record) (localAsked outside question s) =
        none ∨
      ∃ record', AnsweredByCname outside (targetOf question record)
        (localAsked outside question s) record')

section Marker

variable {outside : Outside ρ} {question : Question} {s : DnsServer ρ} {record : Hostname}

theorem not_clean_of_internalRecord {msg : Msg} {question : Question} {record : Hostname}
    {ttl : UInt32} (member : internalRecord question record ttl ∈ msg.answer) : ¬ msg.Clean :=
  fun clean => clean _ member rfl

/-- What is returned when a stored CNAME answers the question. -/
theorem resolve_of_cname (kept : Kept s) (answered : AnsweredByCname outside question s record) :
    ∃ msg ttl, msg.answer = [internalRecord question record ttl] ∧
      (resolve question (getSolvers outside) s).1 =
        followed msg
          { name := question.name, rrtype := typeCNAME, rrclass := 256, ttl := ttl }
          (record.target ++ ".".toList)
          (attempt (getSolvers outside) (targetOf question record)
            (localAsked outside question s)) := by
  obtain ⟨msg, ttl, found, answer⟩ := attempt_of_cname kept answered
  refine ⟨msg, ttl, answer, ?_⟩
  have internal : msg.isInternal = true := by
    rw [Msg.isInternal, answer]
    rfl
  exact resolve_of_internal found answer internal

/-- The mark leaves the server. -/
theorem not_clean_of_leaks (kept : Kept s) (leaks : Leaks outside question s) :
    ∃ msg, (resolve question (getSolvers outside) s).1 = .returned (some msg) none ∧
      ¬ msg.Clean := by
  obtain ⟨record, answered, target⟩ := leaks
  obtain ⟨msg, ttl, answer, outcome⟩ := resolve_of_cname kept answered
  rcases target with absent | ⟨record', again⟩
  · rw [absent] at outcome
    have member : internalRecord question record ttl ∈ msg.answer := by
      rw [answer]
      exact List.mem_singleton_self _
    exact ⟨msg, outcome, not_clean_of_internalRecord member⟩
  · obtain ⟨second, ttl', found, answer'⟩ := attempt_of_cname kept.localAsked again
    rw [found] at outcome
    have member : internalRecord (targetOf question record) record' ttl' ∈ second.answer := by
      rw [answer']
      exact List.mem_singleton_self _
    exact ⟨_, outcome, not_clean_of_internalRecord (List.mem_cons_of_mem _ member)⟩

/-- Without a leak, what follows a configured CNAME starts with it and is clean. -/
theorem rewritten_of_cname (kept : Kept s) (answered : AnsweredByCname outside question s record)
    (sealed : ¬ Leaks outside question s) {msg : Msg} {err : Option GoString}
    (outcome : (resolve question (getSolvers outside) s).1 = .returned (some msg) err) :
    msg.Clean ∧ ∃ ttl rest, msg.answer = .cname
      { name := question.name, rrtype := typeCNAME, rrclass := classINET, ttl := ttl }
      (record.target ++ ".".toList) :: rest := by
  obtain ⟨first, ttl, answer, equation⟩ := resolve_of_cname kept answered
  rw [equation] at outcome
  rcases message_of_followed outcome with absent | ⟨secondMsg, t, found, rfl⟩
  · exact absurd ⟨record, answered, Or.inl absent⟩ sealed
  · rcases attempt_cases kept.localAsked found with clean | ⟨-, -, record', ttl', again, -⟩
    · refine ⟨?_, _, _, rfl⟩
      intro rr member
      rcases List.mem_cons.mp member with rfl | later
      · show classINET ≠ 256
        decide
      · exact clean rr later
    · exact absurd ⟨record, answered, Or.inr ⟨record', again⟩⟩ sealed

theorem Msg.Clean.not_internal {msg : Msg} (clean : msg.Clean) : msg.isInternal = false := by
  unfold Msg.isInternal
  cases answer : msg.answer with
  | nil => rfl
  | cons rr rest =>
      have unmarked := clean rr (by simp [answer])
      exact decide_eq_false fun header => unmarked header.2

/-- A clean message that is found is returned as it is. -/
theorem clean_of_sealed (kept : Kept s) (sealed : ¬ Leaks outside question s) {msg : Msg}
    {err : Option GoString}
    (outcome : (resolve question (getSolvers outside) s).1 = .returned (some msg) err) :
    msg.Clean := by
  obtain ⟨firstMsg, firstErr, t, found⟩ := message_of_resolve outcome
  rcases attempt_cases kept found with clean | ⟨rfl, -, record, ttl, answered, -⟩
  · cases firstErr with
    | some text =>
        rw [resolve_of_error found] at outcome
        cases outcome
        exact clean
    | none =>
        rw [resolve_of_plain found clean.not_internal] at outcome
        cases outcome
        exact clean
  · exact (rewritten_of_cname kept answered sealed outcome).1

theorem markerRemoved_iff (kept : Kept s) :
    MarkerRemoved outside question s ↔ ¬ Leaks outside question s := by
  constructor
  · intro removed leaks
    obtain ⟨msg, outcome, marked⟩ := not_clean_of_leaks kept leaks
    exact marked (removed.clean msg none outcome)
  · intro sealed
    constructor
    · intro msg err outcome
      exact clean_of_sealed kept sealed outcome
    · intro record answered msg err outcome
      exact (rewritten_of_cname kept answered sealed outcome).2

end Marker

/-- In every run of the server and for every question: what is returned has no marked
record and starts with the configured CNAME when one answers the question, if and only if
the target of that CNAME is found, and not through another stored CNAME. -/
theorem marker_removed_iff {outside : Outside ρ} {system : System} {registry : Registry}
    {file : ConfFile} {now : Int} {r : ρ} {events : List (DnsEvent ρ)} {s : DnsServer ρ}
    (ran : Runs.run (dnsStep outside) (.initial system registry file now r) events = some s)
    (question : Question) : MarkerRemoved outside question s ↔ ¬ Leaks outside question s :=
  markerRemoved_iff (kept_of_run ran)

/-- No remote server responds. -/
def silentOutside : Outside Unit where
  clocks := fun _ _ => stillClock
  elapsed := fun _ => 0
  remote := fun _ _ => {
    elapsed := 0
    clears := false
    outcome := .returned none
      (some "status=answer-can-not-be-null, err=i/o timeout".toList) }
  next := id
  clean := by
    intro question r msg err returned
    cases returned

def someSystem : System where
  hostname := "dps".toList
  domainHostname := "dps.docker".toList
  gatewayIP := "172.17.0.1".toList
  gatewayErr := none

/-- After a first question was answered, the second time from the cache. -/
theorem marker_removed_iff_cached :
    ∃ s, Runs.run (dnsStep silentOutside)
        (.initial someSystem Recency.empty (.document (.v2 (StorageV2.valueOf configurationWithA)))
          0 ()) [.question questionA] = some s ∧
      (MarkerRemoved silentOutside questionA s ↔ ¬ Leaks silentOutside questionA s) := by
  obtain ⟨s, ran⟩ : ∃ s, Runs.run (dnsStep silentOutside)
      (.initial someSystem Recency.empty (.document (.v2 (StorageV2.valueOf configurationWithA)))
        0 ()) [.question questionA] = some s := ⟨_, rfl⟩
  exact ⟨s, ran, marker_removed_iff ran questionA⟩

/-- `a.com` is a CNAME for `b.com`, which nobody knows: the marked record is returned. -/
theorem unresolved_marker_leaves :
    let s : DnsServer Unit := .initial someSystem Recency.empty cnameFile 0 ()
    (resolve questionA (getSolvers silentOutside) s).1 =
        .returned (some { answer := [.cname
          { name := "a.com.".toList, rrtype := typeCNAME, rrclass := 256, ttl := 60 }
          "b.com.".toList] }) none ∧
      ¬ MarkerRemoved silentOutside questionA s := by
  intro s
  have outcome : (resolve questionA (getSolvers silentOutside) s).1 =
      .returned (some { answer := [.cname
        { name := "a.com.".toList, rrtype := typeCNAME, rrclass := 256, ttl := 60 }
        "b.com.".toList] }) none := by decide +kernel
  refine ⟨outcome, fun removed => ?_⟩
  exact removed.clean _ _ outcome _ (List.mem_singleton_self _) rfl

end DnsProxyServer.Proxy
