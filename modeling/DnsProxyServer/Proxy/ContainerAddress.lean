/-
Module: DnsProxyServer.Proxy.ContainerAddress
Purpose: When the registered name of a container is answered with the address of the
  container: what the event loop registers and what the registry solver makes of it.
Trusted boundary: none
Main exports: Answering, answering_iff, RegistryEvent, registryStep, Addressed,
  registered_names_are_answerable_iff, container_without_address_panics
-/
import DnsProxyServer.Docker.Network
import DnsProxyServer.Lib.Runs
import DnsProxyServer.Proxy.Wildcard

namespace DnsProxyServer.Proxy

open Cache (LRUCache)
open Docker (Registry Daemon NetworkedContainer)

/-- The outcome is an error alone, or an answer with the dotted quad that is registered
for the first candidate. -/
def Answers (c : Registry) (q : GoString) (question : Question) : Outcome → Prop
  | .returned none err => err ≠ none
  | .returned (some msg) err => err = none ∧
      ∃ host, (candidates q).find? (Recency.contains c) = some host ∧
        DockerUses c question host msg
  | .panicked _ => False

/-- Every question whose name ends with a dot is answered so. -/
def Answering (c : Registry) : Prop :=
  ∀ q qtype qclass, Answers c q (questionOf q qtype qclass)
    (DockerDnsSolver.solve c (questionOf q qtype qclass)).1

def HasQuad (ip : GoString) : Prop := ∃ bytes, QuadOf ip bytes

/-! ### The solver -/

theorem solve_of_registered {c : Registry} {host ip : GoString}
    (present : Recency.peek c host = some ip) (qtype qclass : UInt16) :
    (DockerDnsSolver.solve c (questionOf host qtype qclass)).1 =
      .ofExcept (ipMsg ip (questionOf host qtype qclass)) := by
  have registered : Recency.contains c host = true := Recency.contains_iff.mpr ⟨ip, present⟩
  have found : (candidates host).find? (Recency.contains c) = some host :=
    List.find?_cons_of_pos registered
  have solved : (DockerDnsSolver.solve c (questionOf host qtype qclass)).1 = .ofExcept
      (DockerDnsSolver.solveHosts c (questionOf host qtype qclass) host (candidates host)).1 := by
    simp [DockerDnsSolver.solve, questionOf, getAllHosts_eq]
  rw [solved, DockerDnsSolver.solveHosts_of_some found, DockerDnsSolver.doSolve,
    DockerDnsSolver.getMsg, LRUCache.get]
  simp only [LRUCache.get, Recency.peek_touch, present]

theorem ipMsg_cases (ip : GoString) (question : Question) :
    (∃ msg, ipMsg ip question = .ok msg) ∨
      ipMsg ip question = .error (.panic .indexOutOfRange) := by
  unfold ipMsg
  split
  · exact Or.inl ⟨_, rfl⟩
  · exact Or.inr rfl

/-- A registry is answerable exactly when it holds dotted quads only. -/
theorem answering_iff {c : Registry} :
    Answering c ↔ ∀ host ip, Recency.peek c host = some ip → HasQuad ip := by
  constructor
  · intro answerable host ip present
    have answers := answerable host typeA classINET
    rw [solve_of_registered present] at answers
    rcases ipMsg_cases ip (questionOf host typeA classINET) with ⟨msg, read⟩ | panics
    · rw [read] at answers
      obtain ⟨-, host', found, ip', bytes, present', quad, -⟩ := answers
      have registered : Recency.contains c host = true := Recency.contains_iff.mpr ⟨ip, present⟩
      rw [candidates, List.find?_cons_of_pos registered] at found
      cases found
      cases present.symm.trans present'
      exact ⟨bytes, quad⟩
    · rw [panics] at answers
      exact absurd answers id
  · intro quads q qtype qclass
    have docker := docker_firstCandidate q qtype qclass quads
    cases found : (candidates q).find? (Recency.contains c) with
    | none =>
        rw [docker.refuses found]
        exact Option.some_ne_none _
    | some host =>
        obtain ⟨msg, answered, uses⟩ := docker.first host found
        rw [answered]
        exact ⟨rfl, host, found, uses⟩

/-! ### The registry -/

theorem peek_of_peek_putHostnames {ip : GoString} (hosts : List GoString) :
    ∀ {c : Registry} {h v : GoString},
      Recency.peek (Docker.putHostnames c hosts ip) h = some v →
        v = ip ∧ hosts ≠ [] ∨ Recency.peek c h = some v := by
  induction hosts with
  | nil => exact fun found => Or.inr found
  | cons host rest inductionHypothesis =>
      intro c h v found
      rcases inductionHypothesis found with ⟨same, -⟩ | before
      · exact Or.inl ⟨same, by simp⟩
      · rcases Recency.peek_of_peek_add before with ⟨-, same⟩ | ⟨-, older⟩
        · exact Or.inl ⟨same, by simp⟩
        · exact Or.inr older

/-- The name that is put last is there. -/
theorem exists_peek_putHostnames (ip : GoString) {hosts : List GoString} (some : hosts ≠ [])
    (c : Registry) : ∃ h, Recency.peek (Docker.putHostnames c hosts ip) h = .some ip := by
  obtain ⟨before, last, rfl⟩ := (List.eq_nil_or_concat' hosts).resolve_left some
  refine ⟨last, ?_⟩
  rw [Docker.putHostnames, List.foldl_append]
  exact Recency.peek_add_self (by decide) _ _

/-- Registering keeps the registry answerable if and only if there is nothing to register
or the address is a dotted quad. -/
theorem answering_putHostnames_iff {c : Registry} (answering : Answering c)
    (hosts : List GoString) (ip : GoString) :
    Answering (Docker.putHostnames c hosts ip) ↔ hosts = [] ∨ HasQuad ip := by
  rw [answering_iff] at answering ⊢
  constructor
  · intro quads
    by_cases none : hosts = []
    · exact Or.inl none
    · obtain ⟨h, present⟩ := exists_peek_putHostnames ip none c
      exact Or.inr (quads h ip present)
  · intro condition h v present
    rcases peek_of_peek_putHostnames hosts present with ⟨rfl, some⟩ | before
    · exact condition.resolve_left some
    · exact answering h v before

theorem answering_of_subset {c c' : Registry} (answering : Answering c)
    (entries : ∀ h v, Recency.peek c' h = some v → Recency.peek c h = some v) :
    Answering c' := by
  rw [answering_iff] at answering ⊢
  exact fun h v present => answering h v (entries h v present)

theorem peek_solve (c : Registry) (question : Question) (h : GoString) :
    Recency.peek (DockerDnsSolver.solve c question).2 h = Recency.peek c h := by
  have hosts : ∀ names, Recency.peek (DockerDnsSolver.solveHosts c question
      question.name.dropLast names).2 h = Recency.peek c h := by
    intro names
    induction names with
    | nil => rfl
    | cons host rest inductionHypothesis =>
        rw [DockerDnsSolver.solveHosts]
        split_ifs
        · rw [DockerDnsSolver.doSolve, DockerDnsSolver.getMsg]
          split <;> rename_i read <;> rw [← (Prod.mk.inj read).2] <;> simp [LRUCache.get]
        · exact inductionHypothesis
  unfold DockerDnsSolver.solve
  split_ifs
  · rfl
  · exact hosts _

/-! ### Runs -/

inductive RegistryEvent where
  | start (daemon : Daemon) (hostnames : List GoString) (inspect : NetworkedContainer)
  | stop (hostnames : List GoString)
  | query (question : Question)

/-- A started container is registered, one that ended is removed, or a question is
asked; `none` when `putHostnames` panics. -/
def registryStep (c : Registry) : RegistryEvent → Option Registry
  | .start daemon hostnames inspect => (daemon.putHostnames c hostnames inspect).toOption
  | .stop hostnames => some (Docker.removeHostnames c hostnames)
  | .query question => some (DockerDnsSolver.solve c question).2

/-- The networks whose addresses `putHostnames` prefers. -/
def preferredNetworks (inspect : NetworkedContainer) : List GoString :=
  [(inspect.config.labels.lookup Docker.defaultNetworkLabel).getD [], Docker.dpsNetwork,
    "bridge".toList]

/-- A container that is started with a name has an address: the first one that is not
empty, on a preferred network, on another one or by default, is a dotted quad. -/
def Addressed : RegistryEvent → Prop
  | .start daemon hostnames inspect => hostnames = [] ∨ ∀ completeNetworks,
      (Docker.findOnNetworks inspect.networkSettings.networks (preferredNetworks inspect) = none →
        daemon.constructCompleteNetwork (Docker.mapValues inspect.networkSettings.networks) =
          .ok completeNetworks) →
      HasQuad (Docker.firstAddress (inspect.networkSettings.addressCandidates
        (preferredNetworks inspect) completeNetworks))
  | _ => True

theorem registryStep_start {c c' : Registry} {daemon : Daemon} {hostnames : List GoString}
    {inspect : NetworkedContainer} :
    registryStep c (.start daemon hostnames inspect) = some c' ↔
      ∃ ip, daemon.findBestIpForNetworks inspect (preferredNetworks inspect) = .ok ip ∧
        Docker.putHostnames c hostnames ip = c' := by
  rw [registryStep, Daemon.putHostnames, ← preferredNetworks]
  cases daemon.findBestIpForNetworks inspect (preferredNetworks inspect) with
  | error failure => simp [bind, Except.bind, Except.toOption]
  | ok ip => simp [bind, Except.bind, pure, Except.pure, Except.toOption]

theorem answering_step_iff {c : Registry} (answering : Answering c) (event : RegistryEvent) :
    Addressed event ↔ ∀ c', registryStep c event = some c' → Answering c' := by
  cases event with
  | start daemon hostnames inspect =>
      simp only [registryStep_start, Docker.findBestIpForNetworks_eq_ok, Addressed]
      constructor
      · rintro addressed c' ⟨ip, ⟨completeNetworks, described, rfl⟩, rfl⟩
        apply (answering_putHostnames_iff answering hostnames _).mpr
        exact addressed.imp id fun quads => quads completeNetworks described
      · intro keeps
        by_cases none : hostnames = []
        · exact Or.inl none
        · refine Or.inr fun completeNetworks described => ?_
          have after := keeps _ ⟨_, ⟨completeNetworks, described, rfl⟩, rfl⟩
          exact ((answering_putHostnames_iff answering hostnames _).mp after).resolve_left none
  | stop hostnames =>
      refine iff_of_true trivial fun c' stepped => ?_
      cases stepped
      apply answering_of_subset answering
      intro h v present
      rw [Docker.peek_removeHostnames] at present
      split_ifs at present
      exact present
  | query question =>
      refine iff_of_true trivial fun c' stepped => ?_
      cases stepped
      apply answering_of_subset answering
      intro h v present
      rwa [peek_solve] at present

/-- In every registry that containers starting and ending lead to, all questions are
answered from a registered dotted quad or refused, if and only if every container that
was started with a name had an address. -/
theorem registered_names_are_answerable_iff (events : List RegistryEvent) :
    (∀ before later c, events = before ++ later →
        Runs.run registryStep Recency.empty before = some c → Answering c) ↔
      Runs.AllSteps registryStep (fun _ event => Addressed event) Recency.empty events := by
  have start : Answering Recency.empty := by
    apply answering_iff.mpr
    intro host ip present
    cases present
  exact (Runs.allSteps_iff (fun _ event answering => answering_step_iff answering event)
    start).symm

/-! ### A container on the network of the host -/

def hostDaemon : Daemon where
  containerList := .ok []
  containerInspect := fun _ => .error "Error: No such container".toList
  networkList := fun _ => .ok [{ driver := "host".toList, ipamConfig := [] }]

/-- The inspection of a container that runs with `--net=host`. -/
def hostContainer : NetworkedContainer where
  id := "a".toList
  name := "/a".toList
  config := { hostname := "web".toList }
  networkSettings := {
    networks := [("host".toList, some { networkID := "1".toList, ipAddress := [] })]
    ipAddress := [] }

theorem container_without_address_panics :
    ∃ c, Runs.run registryStep Recency.empty
        [.start hostDaemon ["web".toList] hostContainer] = some c ∧
      (DockerDnsSolver.solve c (questionOf "web".toList typeA classINET)).1 =
        .panicked .indexOutOfRange ∧
      ¬ Answering c := by
  have registered : ∃ c, Runs.run registryStep Recency.empty
        [.start hostDaemon ["web".toList] hostContainer] = some c ∧
      Recency.peek c "web".toList = some [] := ⟨_, rfl, rfl⟩
  obtain ⟨c, ran, present⟩ := registered
  have panics : (DockerDnsSolver.solve c (questionOf "web".toList typeA classINET)).1 =
      .panicked .indexOutOfRange := by
    rw [solve_of_registered present]
    rfl
  refine ⟨c, ran, panics, fun answerable => ?_⟩
  have answers := answerable "web".toList typeA classINET
  rw [panics] at answers
  exact answers

end DnsProxyServer.Proxy
