/-
Module: DnsProxyServer.Proxy.Eviction
Purpose: What the bounded stores forget: how long a registered name keeps its address, and
  how long an answer is served without asking again, whatever else the stores are used for.
Trusted boundary: none
Main exports: uses, Declares, registered_name_survives, answer_is_served_until_ttl
-/
import DnsProxyServer.Proxy.ContainerAddress
import DnsProxyServer.Proxy.Ttl

namespace DnsProxyServer.Proxy

open Cache (LRUCache TimedCache TimedValue Stored second timeSub)
open Docker (Registry Daemon NetworkedContainer)
open Recency (Behind)

/-! ### Names of containers -/

/-- The names an event puts or reads. -/
def uses (c : Registry) : RegistryEvent → List GoString
  | .start _ hostnames _ => hostnames
  | .stop _ => []
  | .query question =>
      ((getAllHosts ('.' :: question.name.dropLast)).find? (Recency.contains c)).toList

/-- A container that declares the name starts or ends. -/
def Declares (name : GoString) : RegistryEvent → Prop
  | .start _ hostnames _ => name ∈ hostnames
  | .stop hostnames => name ∈ hostnames
  | .query _ => False

instance (name : GoString) : (event : RegistryEvent) → Decidable (Declares name event)
  | .start _ hostnames _ => inferInstanceAs (Decidable (name ∈ hostnames))
  | .stop hostnames => inferInstanceAs (Decidable (name ∈ hostnames))
  | .query _ => instDecidableFalse

section Names

variable {c c' : Registry} {name ip : GoString} {names : List GoString}

theorem behind_putHostnames {ip' : GoString} (few : names.length < 43690) :
    ∀ {hosts : List GoString} {c : Registry}, (∀ host ∈ hosts, host ∈ names ∧ host ≠ name) →
      Behind c name ip names → Behind (Docker.putHostnames c hosts ip') name ip names := by
  intro hosts
  induction hosts with
  | nil => exact fun _ behind => behind
  | cons host rest inductionHypothesis =>
      intro c named behind
      have first := named host (by simp)
      apply inductionHypothesis
      · exact fun other member => named other (by simp [member])
      · exact behind.add first.2 first.1 few ip'

/-- The name itself is put among the others of its container. -/
theorem behind_putHostnames_self (few : names.length < 43690) {hosts : List GoString}
    (declared : name ∈ hosts) (named : ∀ host ∈ hosts, host = name ∨ host ∈ names) :
    ∀ c : Registry, Behind (Docker.putHostnames c hosts ip) name ip names := by
  have put : ∀ {hosts : List GoString} {c : Registry},
      (∀ host ∈ hosts, host = name ∨ host ∈ names) → Behind c name ip names →
        Behind (Docker.putHostnames c hosts ip) name ip names := by
    intro hosts
    induction hosts with
    | nil => exact fun _ behind => behind
    | cons host rest inductionHypothesis =>
        intro c named behind
        apply inductionHypothesis
        · exact fun other member => named other (by simp [member])
        · by_cases same : host = name
          · subst same
            exact Recency.behind_add_self (by decide) c host ip names
          · exact behind.add same ((named host (by simp)).resolve_left same) few ip
  induction hosts with
  | nil => cases declared
  | cons host rest inductionHypothesis =>
      intro c
      have others : ∀ other ∈ rest, other = name ∨ other ∈ names := fun other member =>
        named other (by simp [member])
      rcases List.mem_cons.mp declared with first | later
      · rw [← first]
        have front := Recency.behind_add_self (by decide) c name ip names
        have last := put others front
        exact last
      · exact inductionHypothesis later others _

theorem behind_removeHostnames : ∀ {hosts : List GoString} {c : Registry}, name ∉ hosts →
    Behind c name ip names → Behind (Docker.removeHostnames c hosts) name ip names := by
  intro hosts
  induction hosts with
  | nil => exact fun _ behind => behind
  | cons host rest inductionHypothesis =>
      intro c absent behind
      rw [List.mem_cons, not_or] at absent
      exact inductionHypothesis absent.2 (behind.remove (Ne.symm absent.1))

/-- A question reads one name, twice. -/
theorem behind_solve {question : Question} (few : names.length < 43690)
    (named : ∀ host ∈ uses c (.query question), host ≠ name → host ∈ names)
    (behind : Behind c name ip names) :
    Behind (DockerDnsSolver.solve c question).2 name ip names := by
  have hosts : ∀ hosts : List GoString,
      (∀ host ∈ (hosts.find? (Recency.contains c)).toList, host ≠ name → host ∈ names) →
        Behind (DockerDnsSolver.solveHosts c question question.name.dropLast hosts).2
          name ip names := by
    intro hosts
    induction hosts with
    | nil => exact fun _ => behind
    | cons host rest inductionHypothesis =>
        intro inNames
        rw [DockerDnsSolver.solveHosts]
        cases present : LRUCache.containsKey c host with
        | false =>
            rw [List.find?_cons_of_neg (by rw [← LRUCache.containsKey, present]; simp)] at inNames
            exact inductionHypothesis inNames
        | true =>
            rw [List.find?_cons_of_pos (by exact present)] at inNames
            have used : host ≠ name → host ∈ names := inNames host (by simp)
            have twice := (behind.touch used few).touch used few
            simp only [if_true, DockerDnsSolver.doSolve, DockerDnsSolver.getMsg]
            split <;> rename_i read <;> rw [← (Prod.mk.inj read).2] <;> exact twice
  unfold DockerDnsSolver.solve
  split_ifs
  · exact behind
  · exact hosts _ named

theorem behind_step {event : RegistryEvent} (few : names.length < 43690)
    (named : ∀ host ∈ uses c event, host ≠ name → host ∈ names)
    (others : ¬ Declares name event) (stepped : registryStep c event = some c')
    (behind : Behind c name ip names) : Behind c' name ip names := by
  cases event with
  | start daemon hostnames inspect =>
      obtain ⟨ip', -, rfl⟩ := registryStep_start.mp stepped
      apply behind_putHostnames few ?_ behind
      intro host member
      have differs : host ≠ name := by
        rintro rfl
        exact others member
      exact ⟨named host member differs, differs⟩
  | stop hostnames =>
      cases stepped
      exact behind_removeHostnames others behind
  | query question =>
      cases stepped
      exact behind_solve few named behind

end Names

/-- A name that a started container declares keeps the address it was registered with as long
as no container that declares it starts or ends and fewer than 43690 other names are put
or read, whatever happens to them. -/
theorem registered_name_survives {c c₁ c₂ : Registry} {daemon : Daemon}
    {hostnames names : List GoString} {inspect : NetworkedContainer} {name ip : GoString}
    {events : List RegistryEvent} (declared : name ∈ hostnames)
    (found : daemon.findBestIpForNetworks inspect (preferredNetworks inspect) = .ok ip)
    (registered : registryStep c (.start daemon hostnames inspect) = some c₁)
    (few : names.length < 43690) (named : ∀ host ∈ hostnames, host = name ∨ host ∈ names)
    (quiet : Runs.AllSteps registryStep (fun c event =>
      (∀ host ∈ uses c event, host ≠ name → host ∈ names) ∧ ¬ Declares name event) c₁ events)
    (ran : Runs.run registryStep c₁ events = some c₂) : Recency.peek c₂ name = some ip := by
  obtain ⟨ip', found', rfl⟩ := registryStep_start.mp registered
  cases found.symm.trans found'
  have start : Behind (Docker.putHostnames c hostnames ip) name ip names :=
    behind_putHostnames_self few declared named c
  have last := Runs.invariant_of_allSteps
    (fun _ _ _ meets stepped behind => behind_step few meets.1 meets.2 stepped behind)
    quiet ran start
  exact last.peek

def bridgeDaemon : Daemon where
  containerList := .ok []
  containerInspect := fun _ => .error "Error: No such container".toList
  networkList := fun _ => .ok []

def bridgeContainer : NetworkedContainer where
  id := "b".toList
  name := "/b".toList
  config := { hostname := "web".toList }
  networkSettings := {
    networks := [("bridge".toList, some { networkID := "2".toList, ipAddress := "172.17.0.2".toList })]
    ipAddress := [] }

/-- Another container comes and goes, and a name that is registered to it is asked for. -/
theorem registered_name_survives_neighbour :
    ∃ c, Runs.run registryStep Recency.empty
        [.start bridgeDaemon ["web".toList] bridgeContainer,
          .start bridgeDaemon ["db".toList] bridgeContainer,
          .query (questionOf "db".toList typeA classINET),
          .stop ["db".toList]] = some c ∧
      Recency.peek c "web".toList = some "172.17.0.2".toList := by
  obtain ⟨c, ran⟩ : ∃ c, Runs.run registryStep
      (Docker.putHostnames Recency.empty ["web".toList] "172.17.0.2".toList)
      [.start bridgeDaemon ["db".toList] bridgeContainer,
        .query (questionOf "db".toList typeA classINET), .stop ["db".toList]] = some c :=
    ⟨_, rfl⟩
  have registered : registryStep Recency.empty
      (.start bridgeDaemon ["web".toList] bridgeContainer) =
        some (Docker.putHostnames Recency.empty ["web".toList] "172.17.0.2".toList) := rfl
  have few : ["db".toList].length < 43690 := by decide
  refine ⟨c, ran, ?_⟩
  exact registered_name_survives (by decide) rfl registered few (by decide) (by decide +kernel) ran

/-! ### Cached answers -/

/-- The event neither clears the caches nor drops the answer, and the key it looks up is
that of the answer or among those named. -/
def KeepsAnswer (key : GoString) (keys : List GoString) : CacheEvent → Prop
  | .query question call => getHostnameKey question = key ∨
      getHostnameKey question ∈ keys ∧ call.clears = false
  | .clearAllCaches => False
  | .evict other => other ≠ key
  | .advance _ => True

instance (key : GoString) (keys : List GoString) :
    (event : CacheEvent) → Decidable (KeepsAnswer key keys event)
  | .query question call => inferInstanceAs (Decidable (getHostnameKey question = key ∨
      getHostnameKey question ∈ keys ∧ call.clears = false))
  | .clearAllCaches => instDecidableFalse
  | .evict other => inferInstanceAs (Decidable (other ≠ key))
  | .advance _ => instDecidableTrue

section Answers

variable {key : GoString} {keys : List GoString} {msg : Msg} {stored : Int}

/-- The entry that storing a message makes. -/
def entryOf (msg : Msg) (stored : Int) : Stored Msg :=
  .timed { value := msg, creation := stored, timeout := (getTtl msg).toNat * second }

/-- The message has not expired. -/
def Young (msg : Msg) (stored now : Int) : Prop := now - stored < (getTtl msg).toNat * second

/-- As long as the message has not expired its entry is in the cache. -/
def Holds (key : GoString) (keys : List GoString) (msg : Msg) (stored : Int) (s : CacheState) :
    Prop :=
  stored ≤ s.now ∧ (Young msg stored s.now → Behind s.cache key (entryOf msg stored) keys)

theorem storedAt_of_behind {cache : SolverCache}
    (behind : Behind cache key (entryOf msg stored) keys) : StoredAt cache key stored msg :=
  ⟨cache, behind.peek.trans (storedAt_store cache key stored msg).peek.symm⟩

theorem Holds.hit {s : CacheState} {question : Question}
    (holds : Holds (getHostnameKey question) keys msg stored s) (young : Young msg stored s.now) :
    s.hit question = some (msg.setTtls
      (toUInt32 (((getTtl msg).toNat * second - (s.now - stored)).tdiv second))) := by
  have entry := storedAt_of_behind (holds.2 young)
  exact (doSolve_of_storedAt entry holds.1).trans (if_pos young)

/-- A lookup removes nothing but an entry of its own key that has expired. -/
theorem behind_getTimeValue {cache : SolverCache} {now : Int} {hostname : GoString}
    (few : keys.length < 4096) (named : hostname ≠ key → hostname ∈ keys)
    (stays : hostname = key → (cache.getTimeValue now hostname).1 ≠ none)
    (behind : Behind cache key (entryOf msg stored) keys) :
    Behind (cache.getTimeValue now hostname).2 key (entryOf msg stored) keys := by
  have touched : Behind (Recency.touch cache hostname) key (entryOf msg stored) keys :=
    behind.touch named few
  unfold TimedCache.getTimeValue LRUCache.get at stays ⊢
  split <;> rename_i read <;> rw [← (Prod.mk.inj read).2]
  · split_ifs with valid
    · exact touched
    · apply touched.remove
      intro same
      apply stays same
      simp only [(Prod.mk.inj read).1, if_neg valid]
  · exact touched

theorem behind_doSolve {cache : SolverCache} {now : Int} {hostname : GoString}
    (few : keys.length < 4096) (named : hostname ≠ key → hostname ∈ keys)
    (stays : hostname = key → (doSolve cache now hostname).1 ≠ none)
    (behind : Behind cache key (entryOf msg stored) keys) :
    Behind (doSolve cache now hostname).2 key (entryOf msg stored) keys := by
  have served : hostname = key → (cache.getTimeValue now hostname).1 ≠ none := by
    intro same miss
    apply stays same
    unfold doSolve
    split <;> rename_i read <;> simp [read] at miss ⊢
  have looked := behind_getTimeValue few named served behind
  unfold doSolve
  split <;> rename_i read <;> rw [read] at looked <;> exact looked

theorem behind_storeAnswer {cache : SolverCache} {now : Int} {hostname : GoString}
    (few : keys.length < 4096) (differs : hostname ≠ key) (named : hostname ∈ keys)
    (outcome : Outcome) (behind : Behind cache key (entryOf msg stored) keys) :
    Behind (storeAnswer cache now hostname outcome).2 key (entryOf msg stored) keys := by
  unfold storeAnswer
  split
  · exact behind
  · exact behind
  · exact behind.add differs named few _
  · exact behind

theorem Holds.query {s : CacheState} (holds : Holds key keys msg stored s)
    (few : keys.length < 4096) {question : Question} {call : DelegateCall}
    (keeps : KeepsAnswer key keys (.query question call)) :
    Holds key keys msg stored (s.solve question call).2 := by
  by_cases same : getHostnameKey question = key
  · subst same
    cases hit : s.hit question with
    | none =>
        have old : ¬ Young msg stored s.now := by
          intro young
          simp [holds.hit young] at hit
        have ordered := holds.1
        rw [CacheState.solve_of_miss hit]
        unfold Young at old
        unfold Holds Young
        constructor
        · simp only
          omega
        · intro young
          simp only at young
          omega
    | some served =>
        rw [CacheState.solve_of_hit hit]
        constructor
        · exact holds.1
        · intro young
          apply behind_doSolve few (fun differs => absurd rfl differs) _ (holds.2 young)
          intro _ miss
          rw [CacheState.hit, miss] at hit
          cases hit
  · obtain ⟨named, uncleared⟩ := keeps.resolve_left same
    cases hit : s.hit question with
    | none =>
        have ordered := holds.1
        rw [CacheState.solve_of_miss hit]
        constructor
        · simp only
          omega
        · intro young
          have before : Young msg stored s.now := by
            unfold Young at young ⊢
            simp only at young
            omega
          apply behind_storeAnswer few same named
          rw [CacheState.asked, if_neg (by simp [uncleared])]
          apply behind_doSolve few (fun _ => named) _ (holds.2 before)
          exact fun key => absurd key same
    | some served =>
        rw [CacheState.solve_of_hit hit]
        constructor
        · exact holds.1
        · intro young
          apply behind_doSolve few (fun _ => named) _ (holds.2 young)
          exact fun key => absurd key same

theorem Holds.step {r r' : DelegateRun} {event : CacheEvent} (few : keys.length < 4096)
    (keeps : KeepsAnswer key keys event) (stepped : delegateStep r event = some r')
    (holds : Holds key keys msg stored r.state) : Holds key keys msg stored r'.state := by
  cases event with
  | query question call =>
      cases stepped
      exact holds.query few keeps
  | clearAllCaches => exact keeps.elim
  | evict other =>
      cases stepped
      exact ⟨holds.1, fun young => (holds.2 young).remove keeps⟩
  | advance n =>
      cases stepped
      have later := holds.1
      unfold Holds Young
      constructor
      · simp only
        omega
      · intro young
        apply holds.2
        unfold Young
        simp only at young
        omega

end Answers

end DnsProxyServer.Proxy
