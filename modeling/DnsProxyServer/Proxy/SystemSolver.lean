/-
Module: DnsProxyServer.Proxy.SystemSolver
Purpose: The solver that knows the machine, with the search domain it looks up for every
  query, and when that lookup lets the query pass to the next solver.
Trusted boundary: translation of GetSearchDomainEntryCached and GetHostname of
  resolvconf/resolvconf.go and of Solve of proxy/system.go; the name of the machine and
  the address of its gateway are parameters
Main exports: getSearchDomainEntryCached, getHostname, SystemDnsSolver.solveCached,
  ReachableCache, TypedCache, typed_of_reachable, LookupIsSafe, lookup_is_safe_iff,
  bare_search_line_panics
-/
import DnsProxyServer.Proxy.AddressSolvers
import DnsProxyServer.Proxy.RemoteSolver
import DnsProxyServer.ResolvConf.SearchDomain

namespace DnsProxyServer.Proxy

open Cache (LRUCache)
open Local (FileAccess)
open ResolvConf (getSearchDomainEntry searchLine)

/-! ### The search domain -/

def searchDomainKey : GoString := "SEARCH_DOMAIN".toList

/-- `cache.Get(SearchDomainKey).(string)`. -/
def getSearchDomain (c : MainCache) : Except Failure GoString × MainCache :=
  match LRUCache.get c searchDomainKey with
  | (some (.searchDomain domain), c) => (.ok domain, c)
  | (_, c) => (.error (.panic .typeAssertion), c)

/-- The line that logs the domain reads it once more. -/
def getSearchDomainEntryCached (c : MainCache) (resolvConf : Except GoString GoString) :
    Except Failure GoString × MainCache :=
  if LRUCache.containsKey c searchDomainKey then
    getSearchDomain (LRUCache.get c searchDomainKey).2
  else
    match getSearchDomainEntry resolvConf with
    | .ok entry => (.ok entry, LRUCache.put c searchDomainKey (.searchDomain entry))
    | .error failure => (.error failure, c)

/-- `fmt.Sprintf("%s.%s", subdomain, domainEntry)`, or the name alone. -/
def getHostname (c : MainCache) (resolvConf : Except GoString GoString) (subdomain : GoString) :
    Except Failure GoString × MainCache :=
  match getSearchDomainEntryCached c resolvConf with
  | (.ok domainEntry, c) =>
      if domainEntry.length ≠ 0 then (.ok (subdomain ++ '.' :: domainEntry), c)
      else (.ok subdomain, c)
  | (.error (.error _), c) => (.ok subdomain, c)
  | (.error (.panic cause), c) => (.error (.panic cause), c)

/-- The name of the machine, and what is found as the address of its gateway. -/
structure Machine where
  hostname : GoString
  gatewayIP : GoString
  gatewayErr : Option GoString

def Machine.system (machine : Machine) (domainHostname : GoString) : System where
  hostname := machine.hostname
  domainHostname := domainHostname
  gatewayIP := machine.gatewayIP
  gatewayErr := machine.gatewayErr

/-- The second case of the switch is evaluated when the first one does not match. -/
def SystemDnsSolver.solveCached (c : MainCache) (resolvConf : Except GoString GoString)
    (machine : Machine) (question : Question) : Outcome × MainCache :=
  if question.name = [] then (.panicked .sliceBounds, c)
  else if question.name.dropLast = machine.hostname then
    (SystemDnsSolver.solve (machine.system machine.hostname) question, c)
  else
    match getHostname c resolvConf machine.hostname with
    | (.ok domainHostname, c) =>
        (SystemDnsSolver.solve (machine.system domainHostname) question, c)
    | (.error failure, c) => (.ofExcept (.error failure), c)

/-! ### The main cache -/

/-- The states of the main cache that queries and saves lead to. -/
inductive ReachableCache : MainCache → Prop where
  | empty : ReachableCache Recency.empty
  | servers {c : MainCache} (access : FileAccess Local.Configuration)
      (before : ReachableCache c) : ReachableCache (confload c access).2
  | searchDomain {c : MainCache} (resolvConf : Except GoString GoString)
      (before : ReachableCache c) : ReachableCache (getSearchDomainEntryCached c resolvConf).2
  | cleared {c : MainCache} (before : ReachableCache c) : ReachableCache (LRUCache.clear c)

/-- Each of the two keys holds the type its reader asserts. -/
def TypedCache (c : MainCache) : Prop :=
  (∀ v, Recency.peek c serversKey = some v → ∃ config, v = .configuration config) ∧
    ∀ v, Recency.peek c searchDomainKey = some v → ∃ domain, v = .searchDomain domain

theorem typedCache_empty : TypedCache Recency.empty := by
  constructor
  · intro v found
    cases found
  · intro v found
    cases found

theorem TypedCache.of_peek {c c' : MainCache} (typed : TypedCache c)
    (same : ∀ k, Recency.peek c' k = Recency.peek c k) : TypedCache c' :=
  ⟨fun v found => typed.1 v (by rwa [← same]), fun v found => typed.2 v (by rwa [← same])⟩

theorem TypedCache.add_servers {c : MainCache} (typed : TypedCache c)
    (config : Local.Configuration) :
    TypedCache (Recency.add c serversKey (.configuration config)) := by
  have different : searchDomainKey ≠ serversKey := by decide
  constructor
  · intro v found
    rcases Recency.peek_of_peek_add found with ⟨-, rfl⟩ | ⟨other, -⟩
    · exact ⟨config, rfl⟩
    · exact absurd rfl other
  · intro v found
    rcases Recency.peek_of_peek_add found with ⟨same, -⟩ | ⟨-, before⟩
    · exact absurd same different
    · exact typed.2 v before

theorem TypedCache.add_searchDomain {c : MainCache} (typed : TypedCache c) (domain : GoString) :
    TypedCache (Recency.add c searchDomainKey (.searchDomain domain)) := by
  have different : serversKey ≠ searchDomainKey := by decide
  constructor
  · intro v found
    rcases Recency.peek_of_peek_add found with ⟨same, -⟩ | ⟨-, before⟩
    · exact absurd same different
    · exact typed.1 v before
  · intro v found
    rcases Recency.peek_of_peek_add found with ⟨-, rfl⟩ | ⟨other, -⟩
    · exact ⟨domain, rfl⟩
    · exact absurd rfl other

theorem TypedCache.add_other {c : MainCache} (typed : TypedCache c) {key : GoString}
    (other : key ≠ serversKey ∧ key ≠ searchDomainKey) (value : MainValue) :
    TypedCache (Recency.add c key value) := by
  constructor
  · intro v found
    rcases Recency.peek_of_peek_add found with ⟨same, -⟩ | ⟨-, before⟩
    · exact absurd same.symm other.1
    · exact typed.1 v before
  · intro v found
    rcases Recency.peek_of_peek_add found with ⟨same, -⟩ | ⟨-, before⟩
    · exact absurd same.symm other.2
    · exact typed.2 v before

theorem TypedCache.putIfAbsent_servers {c : MainCache} (typed : TypedCache c)
    (config : Local.Configuration) :
    TypedCache (LRUCache.putIfAbsent c serversKey (.configuration config)).2 := by
  unfold LRUCache.putIfAbsent
  split_ifs
  · exact typed.of_peek fun k => Recency.peek_touch c serversKey k
  · exact typed.add_servers config

theorem peek_getSearchDomain (c : MainCache) (k : GoString) :
    Recency.peek (getSearchDomain c).2 k = Recency.peek c k := by
  unfold getSearchDomain LRUCache.get
  split <;> rename_i read <;> rw [← (Prod.mk.inj read).2, Recency.peek_touch]

theorem TypedCache.confload {c : MainCache} (typed : TypedCache c)
    (access : FileAccess Local.Configuration) : TypedCache (confload c access).2 := by
  unfold Proxy.confload
  by_cases cached : LRUCache.containsKey c serversKey = true
  · rw [if_pos cached]
    exact typed.of_peek (peek_getServers c)
  · rw [if_neg cached]
    have after : TypedCache (if access.saves.isEmpty then c else LRUCache.clear c) := by
      by_cases none : access.saves.isEmpty = true
      · rw [if_pos none]
        exact typed
      · rw [if_neg none]
        exact typedCache_empty
    generalize (if access.saves.isEmpty then c else LRUCache.clear c) = c' at after ⊢
    cases access.result with
    | error failure => exact after
    | ok config => exact (after.putIfAbsent_servers config).of_peek (peek_getServers _)

theorem TypedCache.getSearchDomainEntryCached {c : MainCache} (typed : TypedCache c)
    (resolvConf : Except GoString GoString) :
    TypedCache (getSearchDomainEntryCached c resolvConf).2 := by
  unfold Proxy.getSearchDomainEntryCached
  split_ifs
  · have read : TypedCache (LRUCache.get c searchDomainKey).2 :=
      typed.of_peek fun k => Recency.peek_touch c searchDomainKey k
    exact read.of_peek (peek_getSearchDomain _)
  · cases getSearchDomainEntry resolvConf with
    | error failure => exact typed
    | ok entry => exact typed.add_searchDomain entry

theorem typed_of_reachable {c : MainCache} (reachable : ReachableCache c) : TypedCache c := by
  induction reachable with
  | empty => exact typedCache_empty
  | servers access _ inductionHypothesis => exact inductionHypothesis.confload access
  | searchDomain resolvConf _ inductionHypothesis =>
      exact inductionHypothesis.getSearchDomainEntryCached resolvConf
  | cleared _ _ => exact typedCache_empty

/-! ### When the lookup is safe -/

/-- The search domain a query sees: the cached one, or that of the file. -/
def SearchDomain (c : MainCache) (content domain : GoString) : Prop :=
  Recency.peek c searchDomainKey = some (.searchDomain domain) ∨
    Recency.peek c searchDomainKey = none ∧ getSearchDomainEntry (.ok content) = .ok domain

/-- The name of the machine, alone or under the search domain. -/
def NamesMachine (c : MainCache) (content hostname name : GoString) : Prop :=
  name = hostname ∨ ∃ domain, SearchDomain c content domain ∧ domain ≠ [] ∧
    name = hostname ++ '.' :: domain

/-- The domain is read, as the text after the blank where there is one, and every question
that does not name the machine is passed on. -/
def LookupIsSafe (content : GoString) : Prop :=
  (∃ entry, getSearchDomainEntry (.ok content) = .ok entry) ∧
  (∀ blank domain,
    searchLine (scanLines content) = some ("search".toList ++ blank :: domain) →
      getSearchDomainEntry (.ok content) = .ok domain) ∧
  ∀ c, ReachableCache c → ∀ machine question name, question.name = name ++ ['.'] →
    ¬ NamesMachine c content machine.hostname name →
      ∃ message, (SystemDnsSolver.solveCached c (.ok content) machine question).1 =
        .returned none (some message)

theorem getSearchDomainEntryCached_eq_ok {c : MainCache} (typed : TypedCache c)
    {content : GoString} (read : ∃ entry, getSearchDomainEntry (.ok content) = .ok entry) :
    ∃ domain, (getSearchDomainEntryCached c (.ok content)).1 = .ok domain ∧
      SearchDomain c content domain := by
  unfold getSearchDomainEntryCached
  split_ifs with cached
  · obtain ⟨v, present⟩ := Recency.contains_iff.mp cached
    obtain ⟨domain, rfl⟩ := typed.2 v present
    refine ⟨domain, ?_, Or.inl present⟩
    unfold getSearchDomain LRUCache.get
    simp [present]
  · obtain ⟨entry, value⟩ := read
    have absent : Recency.peek c searchDomainKey = none := by
      simpa [LRUCache.containsKey, Recency.contains] using cached
    rw [value]
    exact ⟨entry, rfl, Or.inr ⟨absent, value⟩⟩

/-- A name that is neither of the machine's is passed on. -/
theorem solveCached_of_other {c : MainCache} (typed : TypedCache c) {content : GoString}
    (read : ∃ entry, getSearchDomainEntry (.ok content) = .ok entry) {machine : Machine}
    {question : Question} {name : GoString} (named : question.name = name ++ ['.'])
    (other : ¬ NamesMachine c content machine.hostname name) :
    (SystemDnsSolver.solveCached c (.ok content) machine question).1 =
      .returned none (some "host not found".toList) := by
  obtain ⟨domain, cached, searchDomain⟩ := getSearchDomainEntryCached_eq_ok typed read
  have nonempty : question.name ≠ [] := by simp [named]
  have dropped : question.name.dropLast = name := by simp [named]
  have notHost : name ≠ machine.hostname := fun same => other (Or.inl same)
  have hostname : ∃ domainHostname, (getHostname c (.ok content) machine.hostname).1 =
      .ok domainHostname ∧ name ≠ domainHostname := by
    unfold getHostname
    cases looked : getSearchDomainEntryCached c (.ok content) with
    | mk result c' =>
        rw [looked] at cached
        cases cached
        by_cases empty : domain.length = 0
        · exact ⟨machine.hostname, by simp [empty], notHost⟩
        · refine ⟨machine.hostname ++ '.' :: domain, by simp [empty], fun same => ?_⟩
          exact other (Or.inr ⟨domain, searchDomain, by simpa using empty, same⟩)
  obtain ⟨domainHostname, value, different⟩ := hostname
  unfold SystemDnsSolver.solveCached
  rw [if_neg nonempty, dropped, if_neg notHost]
  cases looked : getHostname c (.ok content) machine.hostname with
  | mk result c' =>
      rw [looked] at value
      cases value
      simp [SystemDnsSolver.solve, nonempty, dropped, notHost, different, Machine.system]

/-- The search domain lookup is safe if and only if the first search line of the file is
not the keyword alone. -/
theorem lookup_is_safe_iff (content : GoString) :
    LookupIsSafe content ↔ searchLine (scanLines content) ≠ some "search".toList := by
  rw [← ResolvConf.getSearchDomainEntry_isOk_iff]
  refine ⟨fun safe => safe.1, fun read => ⟨read, ?_, ?_⟩⟩
  · exact fun _ _ separated => ResolvConf.getSearchDomainEntry_of_separated separated
  · intro c reachable machine question name named other
    exact ⟨_, solveCached_of_other (typed_of_reachable reachable) read named other⟩

/-- A search line without a domain stops every query for another name. -/
theorem bare_search_line_panics :
    getSearchDomainEntry (.ok "nameserver 8.8.8.8\nsearch\n".toList) =
        .error (.panic .sliceBounds) ∧
      (SystemDnsSolver.solveCached Recency.empty (.ok "nameserver 8.8.8.8\nsearch\n".toList)
        { hostname := "host.docker".toList, gatewayIP := "172.17.0.1".toList, gatewayErr := none }
        ⟨"acme.com.".toList, typeA, classINET⟩).1 = .panicked .sliceBounds ∧
      ¬ LookupIsSafe "nameserver 8.8.8.8\nsearch\n".toList := by
  have panics : getSearchDomainEntry (.ok "nameserver 8.8.8.8\nsearch\n".toList) =
      .error (.panic .sliceBounds) := by decide
  refine ⟨panics, rfl, fun safe => ?_⟩
  obtain ⟨entry, read⟩ := safe.1
  rw [panics] at read
  cases read

end DnsProxyServer.Proxy
