/-
Module: DnsProxyServer.Proxy.Directory
Purpose: What the whole server is for: a directory of the machine, the containers and the
  configured records, asked before the remote servers; and that the caches, the clock and
  the order of events leave no trace in its answers.
Trusted boundary: own statement of the purpose of the server; the containers are those of
  a fleet, and no request changes the settings their names depend on
Main exports: Directory, Directory.own, Directory.next, ProgramEvent, programStep,
  directorySolver, Serves, server_refines_directory
-/
import DnsProxyServer.Docker.Events
import DnsProxyServer.Proxy.Alike
import DnsProxyServer.Proxy.ContainerAddress

namespace DnsProxyServer.Proxy

open Local
open Cache (LRUCache)
open Docker (Registry Fleet)
open LoadStore (Access after)

/-! ### The directory -/

/-- The machine, the container each name belongs to, and the configured records. -/
structure Directory where
  system : System
  holder : GoString → Option GoString
  conf : Configuration

/-- What the directory has on a name: the machine comes first, then the container that holds
the first candidate, then the records. -/
def Directory.own (fleet : Fleet) (d : Directory) (question : Question) : Outcome :=
  match SystemDnsSolver.solve d.system question with
  | .returned none _ =>
      match (candidates question.name.dropLast).findSome? d.holder with
      | some id => .ofExcept (ipMsg (fleet.ip id) question)
      | none => .ofExcept (localAnswer question d.conf)
  | outcome => outcome

inductive ProgramEvent (ρ : Type) where
  | container (event : Docker.Message)
  | request (clocks : Clocks) (request : Request)
  | question (question : Question)
  | passes (system : System) (elapsed : Nat) (outside : ρ)

variable {ρ : Type}

def Directory.next (fleet : Fleet) (d : Directory) : ProgramEvent ρ → Directory
  | .container event => { d with holder := fun h => fleet.holder h (d.holder h) event }
  | .request clocks request => { d with conf := Abstract.next clocks request d.conf }
  | .question _ => d
  | .passes system _ _ => { d with system := system }

/-! ### The server -/

/-- An event of the daemon, a request to the web interface, a question, or time that passes
while the machine may be renamed; `none` when the loop over the events panics. -/
def programStep (fleet : Fleet) (outside : Outside ρ) (s : DnsServer ρ) :
    ProgramEvent ρ → Option (DnsServer ρ)
  | .container event =>
      (Docker.handleEvent fleet.environment s.registry event).toOption.bind fun registry =>
        dnsStep outside s (.changes s.system registry 0 s.outside)
  | .request clocks request => dnsStep outside s (.request clocks request)
  | .question question => dnsStep outside s (.question question)
  | .passes system elapsed r => dnsStep outside s (.changes system s.registry elapsed r)

/-- The solvers that come before the remote one. -/
def ownSolvers (outside : Outside ρ) : List (Solver (DnsServer ρ)) :=
  [systemSolver, dockerSolver, cachedLocalSolver outside]

/-- The directory in their place. -/
def directorySolver (fleet : Fleet) (outside : Outside ρ) (d : Directory) : Solver (DnsServer ρ) :=
  fun question s => (d.own fleet question, localAsked outside question s)

/-- The server holds what the directory says. -/
structure Serves (fleet : Fleet) (names : List GoString) (d : Directory) (s : DnsServer ρ) :
    Prop where
  kept : Kept s
  system : s.system = d.system
  registers : fleet.Registers names s.registry d.holder
  represents : Represents s.stored.file d.conf

/-! ### The three solvers -/

section Solvers

variable {fleet : Fleet} {names : List GoString} {owner : GoString → Option GoString}

theorem registers_solve {c : Registry} (registers : fleet.Registers names c owner)
    (question : Question) :
    fleet.Registers names (DockerDnsSolver.solve c question).2 owner := by
  constructor
  · intro k present
    rw [peek_solve] at present
    exact registers.1 k present
  · intro h
    rw [peek_solve]
    exact registers.2 h

/-- The first candidate that a container holds. -/
theorem solveHosts_of_registers {c : Registry} (registers : fleet.Registers names c owner)
    (question : Question) (questionName : GoString) (hosts : List GoString) :
    (DockerDnsSolver.solveHosts c question questionName hosts).1 =
      match hosts.findSome? owner with
      | some id => ipMsg (fleet.ip id) question
      | none => .error (.error ("hostname not found ".toList ++ questionName)) := by
  induction hosts with
  | nil => rfl
  | cons host rest inductionHypothesis =>
      have address := registers.2 host
      rw [DockerDnsSolver.solveHosts, List.findSome?_cons]
      cases holds : owner host with
      | none =>
          rw [holds, Option.map_none] at address
          have absent : LRUCache.containsKey c host = false := by
            simp [LRUCache.containsKey, Recency.contains, address]
          rw [absent]
          exact inductionHypothesis
      | some id =>
          rw [holds, Option.map_some] at address
          have present : LRUCache.containsKey c host = true :=
            Recency.contains_iff.mpr ⟨_, address⟩
          rw [present, if_pos rfl, DockerDnsSolver.doSolve, DockerDnsSolver.getMsg]
          simp only [LRUCache.get, Recency.peek_touch, address]

theorem docker_of_registers {c : Registry} (registers : fleet.Registers names c owner)
    {question : Question} (named : question.name ≠ []) :
    (DockerDnsSolver.solve c question).1 =
      match (candidates question.name.dropLast).findSome? owner with
      | some id => .ofExcept (ipMsg (fleet.ip id) question)
      | none => .returned none (some ("hostname not found ".toList ++ question.name.dropLast)) := by
  have solved : (DockerDnsSolver.solve c question).1 = .ofExcept (DockerDnsSolver.solveHosts c
      question question.name.dropLast (candidates question.name.dropLast)).1 := by
    simp [DockerDnsSolver.solve, named, getAllHosts_eq]
  rw [solved, solveHosts_of_registers registers]
  cases (candidates question.name.dropLast).findSome? owner <;> rfl

theorem decides_ipMsg (ip : GoString) (question : Question) :
    (Outcome.ofExcept (ipMsg ip question)).decides = true := by
  rcases ipMsg_cases ip question with ⟨msg, read⟩ | panics
  · rw [read]
    rfl
  · rw [panics]
    rfl

theorem represents_query {s : Server} {conf : Configuration} (represents : Represents s.file conf)
    (question : Question) (clocks : Nat → Clock) (elapsed : Nat) :
    Represents (s.query question clocks elapsed).2.file conf := by
  cases hit : s.state.hit question with
  | some msg => simpa only [Server.query, hit] using represents
  | none =>
      simp only [Server.query, hit, localSolve_of_represents represents, Access.ofExcept,
        LoadStore.after_nil]
      exact represents

/-- The caching solver does what the configuration says, up to TTLs. -/
theorem query_of_represents {s : Server} {conf : Configuration} (agrees : Agrees s)
    (represents : Represents s.file conf) (question : Question) (clocks : Nat → Clock)
    (elapsed : Nat) :
    (s.query question clocks elapsed).1.withoutTtl =
      (Outcome.ofExcept (localAnswer question conf)).withoutTtl := by
  have solved : (localSolve question clocks s.file).result = localAnswer question conf := by
    rw [localSolve_of_represents represents]
    rfl
  cases answer : localAnswer question conf with
  | ok msg =>
      obtain ⟨served, returned, form⟩ := agrees.query_of_ok elapsed (solved.trans answer)
      rw [returned]
      rcases form with rfl | ⟨ttl, rfl⟩
      · rfl
      · simp only [Outcome.ofExcept, Outcome.withoutTtl, Option.map_some, Msg.withoutTtl_setTtls]
  | error failure =>
      cases hit : s.state.hit question with
      | some served =>
          have returned : (s.query question clocks elapsed).1 = .returned (some served) none := by
            simp only [Server.query, hit, CacheState.solve_of_hit hit]
          obtain ⟨source, result⟩ := agrees.result_of_query returned
          cases (solved.trans answer).symm.trans result
      | none =>
          simp only [Server.query, hit, CacheState.solve_of_miss hit, localCall, solved, answer]
          cases failure <;> rfl

end Solvers

/-! ### One question -/

section Question

variable {fleet : Fleet} {names : List GoString} {d : Directory} {s : DnsServer ρ}
  {outside : Outside ρ} {question : Question} {rest : List (Solver (DnsServer ρ))}

theorem own_of_machine (knows : (SystemDnsSolver.solve d.system question).decides = true) :
    d.own fleet question = SystemDnsSolver.solve d.system question := by
  unfold Directory.own
  split
  · rename_i err passed
    rw [passed] at knows
    cases knows
  · rfl

/-- A name that is not the machine's goes on to the containers. -/
theorem own_of_passed (fleet : Fleet)
    (passes : (SystemDnsSolver.solve d.system question).decides = false) :
    question.name ≠ [] ∧ d.own fleet question =
      match (candidates question.name.dropLast).findSome? d.holder with
      | some id => .ofExcept (ipMsg (fleet.ip id) question)
      | none => .ofExcept (localAnswer question d.conf) := by
  constructor
  · intro empty
    rw [SystemDnsSolver.solve, if_pos empty] at passes
    cases passes
  · unfold Directory.own
    cases asked : SystemDnsSolver.solve d.system question with
    | panicked cause =>
        rw [asked] at passes
        cases passes
    | returned msg err =>
        cases msg with
        | none => rfl
        | some msg =>
            rw [asked] at passes
            cases passes

theorem attempt_of_known (known : (d.own fleet question).decides = true) :
    attempt (directorySolver fleet outside d :: rest) question s =
      some (d.own fleet question, localAsked outside question s) :=
  Handlers.first_cons_of_decides known

theorem attempt_of_unknown (unknown : (d.own fleet question).decides = false) :
    attempt (directorySolver fleet outside d :: rest) question s =
      attempt rest question (localAsked outside question s) :=
  Handlers.first_cons_of_passes unknown

/-- The local solver, when neither the machine nor a container has the name. -/
theorem attempt_local (serves : Serves fleet names d s)
    (own : d.own fleet question = .ofExcept (localAnswer question d.conf)) :
    outline (Handlers.first Outcome.decides
        (cachedLocalSolver outside question :: calls rest question)
        (dockerSolver question (systemSolver question s).2).2) =
      outline (attempt (directorySolver fleet outside d :: rest) question s) := by
  have alike : (cachedLocalSolver outside question
      (dockerSolver question (systemSolver question s).2).2).1.withoutTtl =
        (d.own fleet question).withoutTtl := by
    rw [own]
    exact query_of_represents serves.kept.agrees serves.represents question _ _
  cases known : (d.own fleet question).decides with
  | true =>
      rw [attempt_of_known known,
        Handlers.first_cons_of_decides ((decides_congr alike).trans known)]
      exact congrArg some alike
  | false =>
      rw [Handlers.first_cons_of_passes ((decides_congr alike).trans known),
        attempt_of_unknown known]
      rfl

/-- The first three solvers find what the directory has, and where it has nothing the
solvers after them are asked as they would be. -/
theorem attempt_directory (outside : Outside ρ) (serves : Serves fleet names d s)
    (rest : List (Solver (DnsServer ρ))) (question : Question) :
    outline (attempt (ownSolvers outside ++ rest) question s) =
      outline (attempt (directorySolver fleet outside d :: rest) question s) := by
  have machine : (systemSolver question s).1 = SystemDnsSolver.solve d.system question := by
    rw [systemSolver, serves.system]
  have asked : attempt (ownSolvers outside ++ rest) question s = Handlers.first Outcome.decides
      (systemSolver question :: dockerSolver question :: cachedLocalSolver outside question ::
        calls rest question) s := rfl
  rw [asked]
  cases system : (systemSolver question s).1.decides with
  | true =>
      have knows : (SystemDnsSolver.solve d.system question).decides = true := by
        rw [← machine]
        exact system
      have own : d.own fleet question = SystemDnsSolver.solve d.system question :=
        own_of_machine knows
      rw [Handlers.first_cons_of_decides system, attempt_of_known (own ▸ knows), own, ← machine]
      rfl
  | false =>
      obtain ⟨named, own⟩ := own_of_passed fleet (machine ▸ system)
      rw [Handlers.first_cons_of_passes system]
      have docker : (dockerSolver question (systemSolver question s).2).1 = _ :=
        docker_of_registers serves.registers named
      cases held : (candidates question.name.dropLast).findSome? d.holder with
      | some id =>
          rw [held] at own docker
          have known : (d.own fleet question).decides = true := by
            rw [own]
            exact decides_ipMsg _ _
          rw [attempt_of_known known, Handlers.first_cons_of_decides]
          · show some (Outcome.withoutTtl _) = some (Outcome.withoutTtl _)
            rw [docker, own]
          · rw [docker]
            exact decides_ipMsg _ _
      | none =>
          rw [held] at own docker
          rw [Handlers.first_cons_of_passes (by rw [docker]; rfl)]
          exact attempt_local serves own

theorem Serves.localAsked (serves : Serves fleet names d s) (question : Question) :
    Serves fleet names d (localAsked outside question s) where
  kept := serves.kept.localAsked
  system := serves.system
  registers := registers_solve serves.registers question
  represents := represents_query serves.represents question _ _

theorem Serves.solver (serves : Serves fleet names d s) {solver : Solver (DnsServer ρ)}
    (member : solver ∈ getSolvers outside) (question : Question) :
    Serves fleet names d (solver question s).2 := by
  have kept := Kept.solver member question s serves.kept
  simp only [getSolvers, List.mem_cons, List.not_mem_nil, or_false] at member
  rcases member with rfl | rfl | rfl | rfl
  · exact serves
  · exact ⟨kept, serves.system, registers_solve serves.registers question, serves.represents⟩
  · exact ⟨kept, serves.system, serves.registers, represents_query serves.represents question _ _⟩
  · exact ⟨kept, serves.system, serves.registers, serves.represents⟩

/-- An internal CNAME comes from the local solver. -/
theorem asked_of_internal (serves : Serves fleet names d s) {msg : Msg} {err : Option GoString}
    {t : DnsServer ρ} (internal : msg.isInternal = true)
    (found : attempt (getSolvers outside) question s = some (.returned (some msg) err, t)) :
    t = localAsked outside question s := by
  rcases attempt_cases serves.kept found with clean | ⟨-, asked, -⟩
  · rw [clean.not_internal] at internal
    cases internal
  · exact asked

/-- The directory alone, without a server around it. -/
def Directory.resolve (fleet : Fleet) (d : Directory) (question : Question) : Outcome :=
  (Proxy.resolve question [fun q (_ : Unit) => (d.own fleet q, ())] ()).1

/-- The directory has the name, and when it has a CNAME for it the target as well. -/
structure Directory.Known (fleet : Fleet) (d : Directory) (question : Question) : Prop where
  name : (d.own fleet question).decides = true
  target : ∀ msg hdr target rest, d.own fleet question = .returned (some msg) none →
    msg.isInternal = true → msg.answer = .cname hdr target :: rest →
      (d.own fleet { question with name := target }).decides = true

/-- The first three solvers find what the directory has, whoever comes after them. -/
theorem attempt_own_of_known (outside : Outside ρ) (serves : Serves fleet names d s)
    (known : (d.own fleet question).decides = true) :
    ∃ outcome t, outcome.withoutTtl = (d.own fleet question).withoutTtl ∧
      ∀ rest, attempt (ownSolvers outside ++ rest) question s = some (outcome, t) := by
  have alone := attempt_directory outside serves [] question
  rw [attempt_of_known known, List.append_nil] at alone
  obtain ⟨⟨outcome, t⟩, found, alike⟩ := Option.map_eq_some_iff.mp alone
  refine ⟨outcome, t, alike, fun rest => ?_⟩
  rw [attempt, calls, List.map_append]
  exact Handlers.first_append_of_some found

/-- The target of a CNAME that is found is the target of the one the directory has. -/
theorem Directory.Known.target_of_alike (known : d.Known fleet question) {outcome : Outcome}
    (alike : outcome.withoutTtl = (d.own fleet question).withoutTtl) {msg : Msg} {hdr : RRHeader}
    {target : GoString} {later : List RR} (returned : outcome = .returned (some msg) none)
    (internal : msg.isInternal = true) (answer : msg.answer = .cname hdr target :: later) :
    (d.own fleet { question with name := target }).decides = true := by
  rcases alike_cases alike with ⟨same, silent⟩ | ⟨msg', own, err, found, has, messages⟩
  · exact absurd returned (silent msg none)
  · cases found.symm.trans returned
    have lists : msg.answer.map (RR.setTtl 0) = own.answer.map (RR.setTtl 0) :=
      congrArg Msg.answer messages
    have marked : own.isInternal = true := by
      rw [← Msg.isInternal_withoutTtl, ← messages, Msg.isInternal_withoutTtl]
      exact internal
    cases answer' : own.answer with
    | nil =>
        rw [answer, answer'] at lists
        cases lists
    | cons rr later' =>
        rw [answer, answer', List.map_cons, List.map_cons] at lists
        obtain ⟨hdr', rfl, -⟩ := cname_congr (List.cons.inj lists).1
        exact known.target own hdr' target later' has marked answer'

/-- Who comes after the first three solvers is not asked for a known name. -/
theorem resolve_known (serves : Serves fleet names d s) (known : d.Known fleet question) :
    Proxy.resolve question (getSolvers outside) s =
      Proxy.resolve question (ownSolvers outside) s := by
  obtain ⟨outcome, t, alike, found⟩ := attempt_own_of_known outside serves known.name
  have whole := found [cachedRemoteSolver outside]
  have alone := found []
  rw [List.append_nil] at alone
  apply resolve_eq_of_attempts whole alone
  intro msg hdr target later returned internal answer
  cases returned
  have asked := asked_of_internal serves internal whole
  obtain ⟨outcome', t', -, found'⟩ := attempt_own_of_known outside
    (serves.localAsked question) (known.target_of_alike alike rfl internal answer)
  have alone' := found' []
  rw [List.append_nil] at alone'
  rw [asked]
  exact ⟨_, found' [cachedRemoteSolver outside], alone'⟩

theorem resolve_known_directory (serves : Serves fleet names d s)
    (known : d.Known fleet question) :
    (Proxy.resolve question (getSolvers outside) s).1.withoutTtl =
      (d.resolve fleet question).withoutTtl := by
  have pure : ∀ {q : Question} (u : Unit), (d.own fleet q).decides = true →
      attempt [fun q (_ : Unit) => (d.own fleet q, ())] q u = some (d.own fleet q, ()) :=
    fun u decided => Handlers.first_cons_of_decides decided
  obtain ⟨outcome, t, alike, found⟩ := attempt_own_of_known outside serves known.name
  have whole := found [cachedRemoteSolver outside]
  apply resolve_congr
  · rw [pure () known.name]
    exact (congrArg outline whole).trans (congrArg some alike)
  · intro msg msg' t₁ t₁' first first' internal internal' hdr target later answer
    rw [asked_of_internal serves internal first]
    cases (whole.symm.trans first)
    have knownTarget := known.target_of_alike alike rfl internal answer
    obtain ⟨outcome', t', alike', found'⟩ := attempt_own_of_known outside
      (serves.localAsked question) knownTarget
    rw [pure _ knownTarget]
    exact (congrArg outline (found' [cachedRemoteSolver outside])).trans (congrArg some alike')

/-- A message without an internal CNAME that the directory has is the answer. -/
theorem resolve_own (outside : Outside ρ) (serves : Serves fleet names d s) {msg : Msg}
    (has : d.own fleet question = .returned (some msg) none) (plain : msg.isInternal = false) :
    (Proxy.resolve question (getSolvers outside) s).1.withoutTtl =
      Outcome.withoutTtl (.returned (some msg) none) := by
  have decides : (d.own fleet question).decides = true := by
    rw [has]
    rfl
  have known : d.Known fleet question := by
    refine ⟨decides, fun msg' hdr target later has' internal _ => ?_⟩
    cases has.symm.trans has'
    rw [plain] at internal
    cases internal
  have found : attempt [fun q (_ : Unit) => (d.own fleet q, ())] question () =
      some (.returned (some msg) none, ()) := by
    rw [← has]
    exact Handlers.first_cons_of_decides decides
  rw [resolve_known_directory serves known, Directory.resolve, resolve_of_plain found plain]

/-- A request is always served. -/
theorem Serves.request (serves : Serves fleet names d s) (outside : Outside ρ) (clocks : Clocks)
    (request : Request) :
    ∃ s', programStep fleet outside s (.request clocks request) = some s' ∧
      Serves fleet names { d with conf := Abstract.next clocks request d.conf } s' := by
  have represents := (serve_refines serves.represents clocks request).2
  have stepped : dnsStep outside s (.request clocks request) = some _ := rfl
  exact ⟨_, stepped, serves.kept.step stepped, serves.system, serves.registers, represents⟩

theorem Serves.step {event : ProgramEvent ρ} (outside : Outside ρ) (fits : fleet.Fits names)
    (known : ∀ m, event = .container m → m.id ∈ fleet.containers)
    (serves : Serves fleet names d s) :
    ∃ s', programStep fleet outside s event = some s' ∧
      Serves fleet names (d.next fleet event) s' := by
  have kept : ∀ event s', dnsStep outside s event = some s' → Kept s' := fun _ _ stepped =>
    Kept.step serves.kept stepped
  cases event with
  | container m =>
      have declared := known m rfl
      have stepped : programStep fleet outside s (.container m) =
          dnsStep outside s (.changes s.system (fleet.update s.registry m) 0 s.outside) := by
        rw [programStep, Fleet.handleEvent_eq declared]
        rfl
      rw [stepped]
      exact ⟨_, rfl, kept (.changes _ _ _ _) _ rfl, serves.system,
        serves.registers.update fits declared, serves.represents⟩
  | request clocks request =>
      exact serves.request outside clocks request
  | question question =>
      refine ⟨_, rfl, ?_⟩
      apply invariant_resolve _ question serves
      exact fun solver member question s serves => serves.solver member question
  | passes system elapsed r =>
      exact ⟨_, rfl, kept (.changes _ _ _ _) _ rfl, rfl, serves.registers, serves.represents⟩

end Question

/-! ### Runs -/

section Run

variable {fleet : Fleet} {names : List GoString} {outside : Outside ρ}

/-- Every event is taken, and the server keeps serving what the directory says. -/
theorem serves_of_run (fits : fleet.Fits names) {events : List (ProgramEvent ρ)}
    (known : ∀ m, .container m ∈ events → m.id ∈ fleet.containers) :
    ∀ {d : Directory} {s : DnsServer ρ}, Serves fleet names d s →
      ∃ s', Runs.run (programStep fleet outside) s events = some s' ∧
        Serves fleet names (events.foldl (Directory.next fleet) d) s' := by
  induction events with
  | nil => exact fun serves => ⟨_, rfl, serves⟩
  | cons event events inductionHypothesis =>
      intro d s serves
      have declared : ∀ m, event = .container m → m.id ∈ fleet.containers := by
        rintro m rfl
        exact known m (by simp)
      obtain ⟨t, first, serves'⟩ := serves.step outside fits declared
      obtain ⟨s', later, last⟩ := inductionHypothesis
        (fun m member => known m (by simp [member])) serves'
      exact ⟨s', Runs.run_cons.mpr ⟨t, first, later⟩, last⟩

/-- The directory when the server starts. -/
def Directory.initial (system : System) (conf : Configuration) : Directory where
  system := system
  holder := fun _ => none
  conf := conf

theorem serves_initial (outside : Outside ρ) {clock : Clock} {file : ConfFile} {conf : Configuration}
    (loaded : (loadConfiguration clock file).result = .ok conf) (system : System) (now : Int)
    (r : ρ) :
    Serves fleet names (.initial system conf) (.initial system Recency.empty
      (after file (loadConfiguration clock file).saves) now r) where
  kept := by
    have ran : Runs.run (dnsStep outside) (.initial system Recency.empty
        (after file (loadConfiguration clock file).saves) now r) [] = some _ := rfl
    exact kept_of_run ran
  system := rfl
  registers := Fleet.registers_empty
  represents := represents_of_load loaded

end Run

def recordToPost : Vo.HostnameV1 where
  id := []
  hostname := "a.com".toList
  ip := { b0 := 10, b3 := 1 }
  target := []
  ttl := 60
  type := EntryType.A

/-- A web server is started, its name is asked for, and a record is posted. -/
def someEvents : List (ProgramEvent Unit) :=
  [.container (Docker.event "start" "a"),
    .question (questionOf "web".toList typeA classINET),
    .request ⟨stillClock, stillClock, stillClock⟩ (.postHostname recordToPost),
    .passes someSystem 1000000000 ()]

theorem someEvents_known (m : Docker.Message) (member : .container m ∈ someEvents) :
    m.id ∈ Docker.webFleet.containers := by
  simp only [someEvents, List.mem_cons, List.not_mem_nil, or_false, reduceCtorEq,
    ProgramEvent.container.injEq] at member
  rw [member]
  decide

/-- A name the directory has is answered, up to TTLs, by the directory alone, and the remote
solver is not asked: without it the outcome and the state would be the same. -/
theorem known_names_stay_inside {fleet : Fleet} {names : List GoString} (fits : fleet.Fits names)
    (outside : Outside ρ) {clock : Clock} {file : ConfFile} {conf : Configuration}
    (loaded : (loadConfiguration clock file).result = .ok conf) (system : System) (now : Int)
    (r : ρ) {events : List (ProgramEvent ρ)}
    (listed : ∀ m, .container m ∈ events → m.id ∈ fleet.containers) {question : Question}
    (known : (events.foldl (Directory.next fleet) (.initial system conf)).Known fleet question) :
    ∃ s, Runs.run (programStep fleet outside) (.initial system Recency.empty
        (after file (loadConfiguration clock file).saves) now r) events = some s ∧
      (resolve question (getSolvers outside) s).1.withoutTtl =
        ((events.foldl (Directory.next fleet) (.initial system conf)).resolve fleet
          question).withoutTtl ∧
      resolve question (getSolvers outside) s = resolve question (ownSolvers outside) s := by
  obtain ⟨s, ran, serves⟩ := serves_of_run fits listed (serves_initial outside loaded system now r)
  exact ⟨s, ran, resolve_known_directory serves known, resolve_known serves known⟩

theorem known_names_stay_inside_web :
    ∃ s, Runs.run (programStep Docker.webFleet silentOutside) (.initial someSystem Recency.empty
        (after .missing (loadConfiguration stillClock .missing).saves) 0 ()) someEvents = some s ∧
      (resolve (questionOf "web".toList typeA classINET) (getSolvers silentOutside)
          s).1.withoutTtl =
        ((someEvents.foldl (Directory.next Docker.webFleet) (.initial someSystem
          { defaultConfig with envs := newEmptyEnv })).resolve Docker.webFleet
            (questionOf "web".toList typeA classINET)).withoutTtl ∧
      resolve (questionOf "web".toList typeA classINET) (getSolvers silentOutside) s =
        resolve (questionOf "web".toList typeA classINET) (ownSolvers silentOutside) s := by
  have own : (someEvents.foldl (Directory.next Docker.webFleet) (.initial someSystem
      { defaultConfig with envs := newEmptyEnv })).own Docker.webFleet
        (questionOf "web".toList typeA classINET) = .returned (some {
          answer := [.a { name := "web.".toList, rrtype := typeA, rrclass := classINET, ttl := 0 }
            { b0 := 172, b1 := 17, b3 := 2 }] }) none := by
    decide +kernel
  apply known_names_stay_inside Docker.webFleet_fits silentOutside rfl someSystem 0 ()
    someEvents_known
  constructor
  · rw [own]
    rfl
  · intro msg hdr target rest has internal answer
    cases own.symm.trans has
    cases internal

/-! ### A record that was posted -/

theorem exists_firstMatch {α : Type} {p : α → Bool} {l : List α} {x : α}
    (found : l.find? p = some x) : ∃ i, FirstMatch.firstMatch p l = some (x, i) := by
  rw [← FirstMatch.firstMatch_fst] at found
  obtain ⟨⟨y, i⟩, hit, rfl⟩ := Option.map_eq_some_iff.mp found
  exact ⟨i, hit⟩

/-- The record is the first of its name in the active env. -/
theorem getHostname_of_posted {now : Int} {host : Hostname} {c c' : Configuration}
    (applied : Abstract.apply (.addHostname now c.activeEnv host) c = .ok c') :
    ∃ env i j, c'.getActiveEnv = some (env, i) ∧
      env.getHostname host.hostname = some (Abstract.identify now host, j) := by
  obtain ⟨changed, change, rfl⟩ := Abstract.apply_eq_ok applied
  simp only [Abstract.change] at change
  split_ifs at change
  obtain ⟨env, found, free, rfl⟩ := Abstract.editEnv_eq_ok change
  have name : (Abstract.identify now host).hostname = host.hostname := by
    unfold Abstract.identify
    split_ifs <;> rfl
  have edited : (FirstMatch.modifyFirst (Abstract.named c.activeEnv)
      (Abstract.appendHost (Abstract.identify now host)) c.envs).find?
        (Abstract.named c.activeEnv) =
      some (Abstract.appendHost (Abstract.identify now host) env) := by
    have keeps : ∀ e, Abstract.named c.activeEnv
        (Abstract.appendHost (Abstract.identify now host) e) = Abstract.named c.activeEnv e :=
      fun _ => rfl
    rw [FirstMatch.find?_modifyFirst keeps, found]
    rfl
  have present : FirstMatch.modifyFirst (Abstract.named c.activeEnv)
      (Abstract.appendHost (Abstract.identify now host)) c.envs ≠ [] := by
    intro none
    rw [none] at edited
    cases edited
  have added : (Abstract.appendHost (Abstract.identify now host) env).hostnames.find?
      (fun found => found.hostname == host.hostname) = some (Abstract.identify now host) := by
    have absent : env.hostnames.find? (fun found => found.hostname == host.hostname) = none := by
      rw [List.find?_eq_none]
      intro record member same
      rw [if_pos (List.any_eq_true.mpr ⟨record, member, same⟩)] at free
      cases free
    rw [Abstract.appendHost, List.find?_append, absent]
    simp [name]
  obtain ⟨i, active⟩ := exists_firstMatch edited
  obtain ⟨j, first⟩ := exists_firstMatch added
  refine ⟨_, i, j, ?_, first⟩
  rw [Abstract.replenish, if_neg present]
  exact active

theorem localAnswer_of_posted {now : Int} {host : Hostname} {c c' : Configuration}
    (applied : Abstract.apply (.addHostname now c.activeEnv host) c = .ok c') {bytes : IpArray}
    (quad : QuadOf host.ip bytes) (address : host.type = EntryType.A) (qtype qclass : UInt16) :
    localAnswer (questionOf host.hostname qtype qclass) c' = .ok {
      answer := [.a
        { name := host.hostname ++ ['.'], rrtype := typeA, rrclass := classINET,
          ttl := toUInt32 host.ttl } bytes] } := by
  obtain ⟨env, i, j, active, record⟩ := getHostname_of_posted applied
  have fields : (Abstract.identify now host).type = EntryType.A ∧
      (Abstract.identify now host).ip = host.ip ∧ (Abstract.identify now host).ttl = host.ttl := by
    unfold Abstract.identify
    split_ifs
    · exact ⟨address, rfl, rfl⟩
    · exact ⟨address, rfl, rfl⟩
  have one : answerHostname (questionOf host.hostname qtype qclass) host.hostname c' = .ok {
      answer := [.a
        { name := host.hostname ++ ['.'], rrtype := typeA, rrclass := classINET,
          ttl := toUInt32 host.ttl } bytes] } := by
    simp only [answerHostname, active, record, fields, true_or, if_true, getAMsg,
      toIpByteArray_of_quadOf quad]
    rfl
  have named : (questionOf host.hostname qtype qclass).name ≠ [] := by simp [questionOf]
  have bare : (questionOf host.hostname qtype qclass).name.dropLast = host.hostname := by
    simp [questionOf]
  rw [localAnswer, if_neg named, bare, getAllHosts_eq, candidates, answerHosts, one]

/-- After every run: when a request that posts an address for the active env is accepted, the
name is answered with that address at once, unless it is the machine's or a container holds
one of its candidates. -/
theorem posted_record_is_answered {fleet : Fleet} {names : List GoString}
    (fits : fleet.Fits names) (outside : Outside ρ) {clock : Clock} {file : ConfFile}
    {conf : Configuration} (loaded : (loadConfiguration clock file).result = .ok conf)
    (system : System) (now : Int) (r : ρ) {events : List (ProgramEvent ρ)}
    (listed : ∀ m, .container m ∈ events → m.id ∈ fleet.containers) {d : Directory}
    (directory : events.foldl (Directory.next fleet) (.initial system conf) = d)
    (clocks : Clocks) {hostname : Vo.HostnameV1} (address : hostname.type = EntryType.A)
    (active : hostname.env = d.conf.activeEnv)
    (free : (candidates hostname.hostname).findSome? d.holder = none) (qtype qclass : UInt16)
    (foreign : (SystemDnsSolver.solve d.system
      (questionOf hostname.hostname qtype qclass)).decides = false) :
    ∃ s s', Runs.run (programStep fleet outside) (.initial system Recency.empty
        (after file (loadConfiguration clock file).saves) now r) events = some s ∧
      programStep fleet outside s (.request clocks (.postHostname hostname)) = some s' ∧
      (((Request.postHostname hostname).serve clocks s.stored.file).result = .ok () →
        (resolve (questionOf hostname.hostname qtype qclass) (getSolvers outside) s').1.answer =
          some [.a
            { name := hostname.hostname ++ ['.'], rrtype := typeA, rrclass := classINET, ttl := 0 }
            hostname.ip]) := by
  obtain ⟨s, ran, serves⟩ := serves_of_run fits listed (serves_initial outside loaded system now r)
  rw [directory] at serves
  obtain ⟨s', stepped, serves'⟩ := serves.request outside clocks (.postHostname hostname)
  refine ⟨s, s', ran, stepped, fun accepted => ?_⟩
  rw [(serve_refines serves.represents clocks _).1] at accepted
  have served : Abstract.serve clocks (.postHostname hostname) d.conf =
      Abstract.apply (.addHostname (clocks.add.reading 0) hostname.env hostname.toHostname) d.conf :=
    rfl
  cases applied : Abstract.apply
      (.addHostname (clocks.add.reading 0) hostname.env hostname.toHostname) d.conf with
  | error refusal =>
      rw [served, applied] at accepted
      cases accepted
  | ok c' =>
      have next : Abstract.next clocks (.postHostname hostname) d.conf = c' := by
        rw [Abstract.next, served, applied]
      rw [active] at applied
      have answer := localAnswer_of_posted applied (quadOf_toIpString hostname.ip) address qtype
        qclass
      rw [next] at serves'
      have bare : (questionOf hostname.hostname qtype qclass).name.dropLast = hostname.hostname := by
        simp [questionOf]
      have own := (own_of_passed (d := { d with conf := c' }) fleet foreign).2
      rw [bare, free] at own
      have has : Outcome.ofExcept (localAnswer (questionOf hostname.hostname qtype qclass) c') =
          .returned (some _) none := congrArg Outcome.ofExcept answer
      rw [has] at own
      have resolved := resolve_own outside serves' own (clean_address _ _ _).not_internal
      rw [← Outcome.answer_withoutTtl, resolved]
      rfl

/-- The first record of an empty configuration. -/
theorem posted_record_is_answered_first :
    ∃ s', programStep Docker.webFleet silentOutside (.initial someSystem Recency.empty
        (after .missing (loadConfiguration stillClock .missing).saves) 0 ())
        (.request ⟨stillClock, stillClock, stillClock⟩ (.postHostname recordToPost)) = some s' ∧
      (resolve (questionOf "a.com".toList typeA classINET) (getSolvers silentOutside) s').1.answer =
        some [.a
          { name := "a.com.".toList, rrtype := typeA, rrclass := classINET, ttl := 0 }
          { b0 := 10, b3 := 1 }] := by
  have noneListed : ∀ m, .container m ∈ ([] : List (ProgramEvent Unit)) →
      m.id ∈ Docker.webFleet.containers := by
    intro m member
    cases member
  have loaded : (loadConfiguration stillClock .missing).result =
      .ok { defaultConfig with envs := newEmptyEnv } := rfl
  have foreign : (SystemDnsSolver.solve someSystem
      (questionOf recordToPost.hostname typeA classINET)).decides = false := by decide +kernel
  have address : recordToPost.type = EntryType.A := rfl
  have free : (candidates recordToPost.hostname).findSome?
      (Directory.initial someSystem { defaultConfig with envs := newEmptyEnv }).holder = none := rfl
  obtain ⟨s, s', ran, stepped, answered⟩ := posted_record_is_answered Docker.webFleet_fits
    silentOutside loaded someSystem 0 () noneListed rfl ⟨stillClock, stillClock, stillClock⟩
    address rfl free typeA classINET foreign
  cases ran
  exact ⟨s', stepped, answered rfl⟩

end DnsProxyServer.Proxy
