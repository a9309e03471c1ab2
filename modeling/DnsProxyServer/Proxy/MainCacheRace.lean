/-
Module: DnsProxyServer.Proxy.MainCacheRace
Purpose: The remote solver and the search domain lookup, which check for a key of the main
  cache and read it in separate calls, while configurations are saved: on which runs every
  key that is read is there.
Trusted boundary: translation of the steps of Solve of proxy/remote.go and of
  GetSearchDomainEntryCached of resolvconf/resolvconf.go; each cache call is one step, a
  load is one step, and the saves a load makes clear the cache in steps of their own
Main exports: MainStage, mainStep, mainCalls, awaits, Undisturbed,
  awaited_keys_are_read, cleared_cache_panics
-/
import DnsProxyServer.Lib.Interleaving
import DnsProxyServer.Proxy.SystemSolver
import Mathlib.Data.Fintype.Basic

namespace DnsProxyServer.Proxy

open Cache (LRUCache)
open Interleaving (Calls Event State)
open Local (Configuration)
open ResolvConf (getSearchDomainEntry)

/-! ### The calls -/

/-- Where a call stands between two of its steps, and what it has come to. -/
inductive MainStage where
  | idle
  | loadingServers
  | loadedServers (config : Configuration)
  | readingServers
  | servers (config : Except Failure Configuration)
  | loggingDomain
  | readingDomain
  | loadingDomain
  | loadedDomain (entry : GoString)
  | domain (entry : Except Failure GoString)

/-- What a step is given: which function is called, or what its load returned. A load that
panics ends the call before it reads. -/
inductive MainInput where
  | solve
  | lookup
  | next
  | config (result : Except GoString Configuration)
  | entry (result : Except GoString GoString)

/-- What others do: a save clears the cache, and another user of it puts under a key of
its own, whose value is not looked at here. -/
inductive MainOther where
  | clearAllCaches
  | put (key : GoString) (value : MainValue) (other : key ≠ serversKey ∧ key ≠ searchDomainKey)

/-- One cache call, or one load. -/
def mainStep (stage : MainStage) (input : MainInput) (c : MainCache) :
    Option (MainStage × MainCache) :=
  match stage, input with
  | .idle, .solve =>
      some (if LRUCache.containsKey c serversKey then .readingServers else .loadingServers, c)
  | .loadingServers, .config (.ok config) => some (.loadedServers config, c)
  | .loadingServers, .config (.error err) => some (.servers (.error (.error err)), c)
  | .loadedServers config, .next =>
      some (.readingServers, (LRUCache.putIfAbsent c serversKey (.configuration config)).2)
  | .readingServers, .next => some (.servers (getServers c).1, (getServers c).2)
  | .idle, .lookup =>
      some (if LRUCache.containsKey c searchDomainKey then .loggingDomain else .loadingDomain, c)
  | .loggingDomain, .next => some (.readingDomain, (LRUCache.get c searchDomainKey).2)
  | .readingDomain, .next => some (.domain (getSearchDomain c).1, (getSearchDomain c).2)
  | .loadingDomain, .entry (.ok entry) => some (.loadedDomain entry, c)
  | .loadingDomain, .entry (.error err) => some (.domain (.error (.error err)), c)
  | .loadedDomain entry, .next =>
      some (.domain (.ok entry), LRUCache.put c searchDomainKey (.searchDomain entry))
  | _, _ => none

def mainCalls : Calls MainCache MainStage MainInput MainOther where
  own := mainStep
  outside other c :=
    match other with
    | .clearAllCaches => LRUCache.clear c
    | .put key value _ => LRUCache.put c key value

abbrev MainState (ι : Type) := State MainCache MainStage ι

abbrev MainEvent (ι : Type) := Event ι MainInput MainOther

/-- No call is in flight, and nothing is cached. -/
def MainState.initial (ι : Type) : MainState ι where
  shared := Recency.empty
  stage := fun _ => .idle

/-- The call ended in a panic. -/
def MainStage.Panicked : MainStage → Prop
  | .servers (.error (.panic _)) => True
  | .domain (.error (.panic _)) => True
  | _ => False

/-- The key a call has found or put, and has not read yet. -/
def awaits : MainStage → Option GoString
  | .readingServers => some serversKey
  | .loggingDomain => some searchDomainKey
  | .readingDomain => some searchDomainKey
  | _ => none

variable {ι : Type} [DecidableEq ι]

/-- The key a step puts. -/
def addedKey (s : MainState ι) : MainEvent ι → Option GoString
  | .own i .next =>
      match s.stage i with
      | .loadedServers _ => some serversKey
      | .loadedDomain _ => some searchDomainKey
      | _ => none
  | .outside (.put key _ _) => some key
  | _ => none

/-- The step does not clear the cache while a call awaits a key, and does not put a key
that pushes an awaited one out. -/
def Undisturbed (s : MainState ι) : MainEvent ι → Prop
  | .outside .clearAllCaches => ∀ j, awaits (s.stage j) = none
  | e => ∀ key ∈ addedKey s e, ∀ j, ∀ awaited ∈ awaits (s.stage j),
      s.shared.evicted key ≠ some awaited

instance [Fintype ι] (s : MainState ι) (e : MainEvent ι) : Decidable (Undisturbed s e) := by
  unfold Undisturbed
  split <;> infer_instance

/-! ### Calls that nothing comes between

Their steps are those of the functions. -/

theorem solve_alone_of_cached {c : MainCache} (cached : LRUCache.containsKey c serversKey = true)
    (access : Local.FileAccess Configuration) :
    mainCalls.alone (.idle, c) [.solve, .next] =
      some (.servers (confload c access).1, (confload c access).2) := by
  simp [Calls.alone, Runs.run, mainCalls, mainStep, confload, cached]

/-- A load that does not save. -/
theorem solve_alone_of_absent {c : MainCache} (absent : LRUCache.containsKey c serversKey = false)
    (config : Configuration) :
    mainCalls.alone (.idle, c) [.solve, .config (.ok config), .next, .next] =
      some (.servers (confload c (.ofExcept (.ok config))).1,
        (confload c (.ofExcept (.ok config))).2) := by
  simp [Calls.alone, Runs.run, mainCalls, mainStep, confload, absent,
    LoadStore.Access.ofExcept]

theorem lookup_alone_of_cached {c : MainCache}
    (cached : LRUCache.containsKey c searchDomainKey = true)
    (resolvConf : Except GoString GoString) :
    mainCalls.alone (.idle, c) [.lookup, .next, .next] =
      some (.domain (getSearchDomainEntryCached c resolvConf).1,
        (getSearchDomainEntryCached c resolvConf).2) := by
  simp [Calls.alone, Runs.run, mainCalls, mainStep, getSearchDomainEntryCached, cached]

theorem lookup_alone_of_absent {c : MainCache}
    (absent : LRUCache.containsKey c searchDomainKey = false)
    {resolvConf : Except GoString GoString} {entry : GoString}
    (read : getSearchDomainEntry resolvConf = .ok entry) :
    mainCalls.alone (.idle, c) [.lookup, .entry (.ok entry), .next] =
      some (.domain (getSearchDomainEntryCached c resolvConf).1,
        (getSearchDomainEntryCached c resolvConf).2) := by
  simp [Calls.alone, Runs.run, mainCalls, mainStep, getSearchDomainEntryCached, absent, read]

/-! ### What a call relies on -/

/-- The keys hold their types, the awaited one is there, and the call has not panicked. -/
structure MainRelies (stage : MainStage) (c : MainCache) : Prop where
  typed : TypedCache c
  present : ∀ key, awaits stage = some key → LRUCache.containsKey c key = true
  notPanicked : ¬ stage.Panicked

theorem mainRelies_of_awaits {stage : MainStage} {c : MainCache} {key : GoString}
    (typed : TypedCache c) (awaited : awaits stage = some key)
    (present : LRUCache.containsKey c key = true) (notPanicked : ¬ stage.Panicked) :
    MainRelies stage c := by
  refine ⟨typed, fun key' awaited' => ?_, notPanicked⟩
  cases awaited.symm.trans awaited'
  exact present

theorem mainRelies_of_awaits_none {stage : MainStage} {c : MainCache} (typed : TypedCache c)
    (none : awaits stage = .none) (notPanicked : ¬ stage.Panicked) : MainRelies stage c := by
  refine ⟨typed, fun key awaited => ?_, notPanicked⟩
  rw [none] at awaited
  cases awaited

/-- A step changes nothing that is cached, or it puts one of the two keys. -/
theorem mainStep_cache {stage stage' : MainStage} {input : MainInput} {c c' : MainCache}
    (taken : mainStep stage input c = some (stage', c')) :
    (∀ k, Recency.peek c' k = Recency.peek c k) ∨
      (∃ config, stage = .loadedServers config ∧ input = .next ∧
        c' = Recency.add c serversKey (.configuration config)) ∨
      ∃ entry, stage = .loadedDomain entry ∧ input = .next ∧
        c' = Recency.add c searchDomainKey (.searchDomain entry) := by
  unfold mainStep at taken
  split at taken <;> cases taken
  · exact Or.inl fun _ => rfl
  · exact Or.inl fun _ => rfl
  · exact Or.inl fun _ => rfl
  · rename_i config
    unfold LRUCache.putIfAbsent
    split_ifs
    · exact Or.inl fun k => Recency.peek_touch c serversKey k
    · exact Or.inr (Or.inl ⟨config, rfl, rfl, rfl⟩)
  · exact Or.inl (peek_getServers c)
  · exact Or.inl fun _ => rfl
  · exact Or.inl fun k => Recency.peek_touch c searchDomainKey k
  · exact Or.inl (peek_getSearchDomain c)
  · exact Or.inl fun _ => rfl
  · exact Or.inl fun _ => rfl
  · exact Or.inr (Or.inr ⟨_, rfl, rfl, rfl⟩)

theorem TypedCache.mainStep {stage stage' : MainStage} {input : MainInput} {c c' : MainCache}
    (typed : TypedCache c) (taken : mainStep stage input c = some (stage', c')) :
    TypedCache c' := by
  rcases mainStep_cache taken with same | ⟨config, -, -, rfl⟩ | ⟨entry, -, -, rfl⟩
  · exact typed.of_peek same
  · exact typed.add_servers config
  · exact typed.add_searchDomain entry

theorem getServers_of_present {c : MainCache} (typed : TypedCache c)
    (present : LRUCache.containsKey c serversKey = true) :
    ∃ config, (getServers c).1 = .ok config := by
  obtain ⟨v, found⟩ := Recency.contains_iff.mp present
  obtain ⟨config, rfl⟩ := typed.1 v found
  exact ⟨config, by simp [getServers, LRUCache.get, found]⟩

theorem getSearchDomain_of_present {c : MainCache} (typed : TypedCache c)
    (present : LRUCache.containsKey c searchDomainKey = true) :
    ∃ domain, (getSearchDomain c).1 = .ok domain := by
  obtain ⟨v, found⟩ := Recency.contains_iff.mp present
  obtain ⟨domain, rfl⟩ := typed.2 v found
  exact ⟨domain, by simp [getSearchDomain, LRUCache.get, found]⟩

/-- A call that has what it relies on does not panic at its next step, and what it awaits
after the step is there. -/
theorem mainRelies_own (stage : MainStage) (input : MainInput) (c : MainCache)
    (stage' : MainStage) (c' : MainCache) (taken : mainStep stage input c = some (stage', c'))
    (relied : MainRelies stage c) : MainRelies stage' c' := by
  obtain ⟨typed, present, -⟩ := relied
  have typed' := typed.mainStep taken
  unfold mainStep at taken
  split at taken <;> cases taken
  · split_ifs with found
    · exact mainRelies_of_awaits typed' rfl found id
    · exact mainRelies_of_awaits_none typed' rfl id
  · exact mainRelies_of_awaits_none typed' rfl id
  · exact mainRelies_of_awaits_none typed' rfl id
  · have put := LRUCache.containsKey_putIfAbsent_self (by decide) c serversKey
    exact mainRelies_of_awaits typed' rfl (put _) id
  · obtain ⟨config, read⟩ := getServers_of_present typed (present serversKey rfl)
    rw [read]
    exact mainRelies_of_awaits_none typed' rfl id
  · split_ifs with found
    · exact mainRelies_of_awaits typed' rfl found id
    · exact mainRelies_of_awaits_none typed' rfl id
  · have touched := Recency.peek_touch c searchDomainKey searchDomainKey
    have logged := (Recency.contains_congr touched).trans (present searchDomainKey rfl)
    exact mainRelies_of_awaits typed' rfl logged id
  · obtain ⟨domain, read⟩ := getSearchDomain_of_present typed (present searchDomainKey rfl)
    rw [read]
    exact mainRelies_of_awaits_none typed' rfl id
  · exact mainRelies_of_awaits_none typed' rfl id
  · exact mainRelies_of_awaits_none typed' rfl id
  · exact mainRelies_of_awaits_none typed' rfl id

/-! ### What the others leave -/

omit [DecidableEq ι] in
/-- An undisturbed step spares the calls. -/
theorem spares_of_undisturbed (s : MainState ι) (e : MainEvent ι)
    (undisturbed : Undisturbed s e) : mainCalls.Spares MainRelies s e := by
  cases e with
  | own i input =>
      intro stage c' taken j _ relied
      obtain ⟨typed, present, notPanicked⟩ := relied
      refine ⟨typed.mainStep taken, fun key awaited => ?_, notPanicked⟩
      rcases mainStep_cache taken with same | ⟨config, at', rfl, rfl⟩ | ⟨entry, at', rfl, rfl⟩
      · exact (Recency.contains_congr (same key)).trans (present key awaited)
      · have stays := undisturbed serversKey (by simp [addedKey, at']) j key awaited
        exact Recency.contains_add (by decide) _ stays (present key awaited)
      · have stays := undisturbed searchDomainKey (by simp [addedKey, at']) j key awaited
        exact Recency.contains_add (by decide) _ stays (present key awaited)
  | outside other =>
      intro j relied
      obtain ⟨typed, present, notPanicked⟩ := relied
      cases other with
      | clearAllCaches =>
          refine ⟨typedCache_empty, fun key awaited => ?_, notPanicked⟩
          rw [undisturbed j] at awaited
          cases awaited
      | put key value other =>
          refine ⟨typed.add_other other value, fun awaitedKey awaited => ?_, notPanicked⟩
          have stays := undisturbed key rfl j awaitedKey awaited
          exact Recency.contains_add (by decide) value stays (present awaitedKey awaited)

/-- In every run from the empty cache whose steps leave awaited keys alone, no call
panics. -/
theorem awaited_keys_are_read {events : List (MainEvent ι)} {s : MainState ι}
    (undisturbed : Runs.AllSteps mainCalls.step Undisturbed (MainState.initial ι) events)
    (ran : Runs.run mainCalls.step (MainState.initial ι) events = some s) (i : ι) :
    ¬ (s.stage i).Panicked := by
  have start : (MainState.initial ι).Relied MainRelies := fun _ =>
    mainRelies_of_awaits_none typedCache_empty rfl id
  exact (Interleaving.relied_of_run mainRelies_own spares_of_undisturbed undisturbed ran start
    i).notPanicked

/-! ### Runs of two calls -/

/-- Two queries, one of each kind, and a save after them. -/
def orderlyCalls : List (MainEvent (Fin 2)) :=
  [.own 0 .solve, .own 1 .lookup, .own 0 (.config (.ok Local.defaultConfig)),
    .own 1 (.entry (.ok "acme.com".toList)), .own 0 .next, .own 1 .next, .own 0 .next,
    .outside .clearAllCaches]

theorem awaited_keys_are_read_orderlyCalls :
    ∃ s, Runs.run mainCalls.step (MainState.initial (Fin 2)) orderlyCalls = some s ∧
      ¬ (s.stage 0).Panicked ∧ ¬ (s.stage 1).Panicked := by
  have undisturbed : Runs.AllSteps mainCalls.step Undisturbed (MainState.initial (Fin 2))
      orderlyCalls := by
    decide +kernel
  have reached : ∃ s, Runs.run mainCalls.step (MainState.initial (Fin 2)) orderlyCalls = some s :=
    ⟨_, rfl⟩
  obtain ⟨s, ran⟩ := reached
  exact ⟨s, ran, awaited_keys_are_read undisturbed ran 0, awaited_keys_are_read undisturbed ran 1⟩

/-- A save that clears the cache after `PutIfAbsent` makes the remote solver panic, and one
that does after `ContainsKey` makes the lookup of the search domain panic. -/
theorem cleared_cache_panics :
    (∃ s, Runs.run mainCalls.step (MainState.initial (Fin 2))
        [.own 0 .solve, .own 0 (.config (.ok Local.defaultConfig)), .own 0 .next,
          .outside .clearAllCaches, .own 0 .next] = some s ∧
      s.stage 0 = .servers (.error (.panic .typeAssertion)) ∧ (s.stage 0).Panicked) ∧
    ∃ s, Runs.run mainCalls.step (MainState.initial (Fin 2))
        [.own 0 .lookup, .own 0 (.entry (.ok "acme.com".toList)), .own 0 .next, .own 1 .lookup,
          .outside .clearAllCaches, .own 1 .next, .own 1 .next] = some s ∧
      s.stage 1 = .domain (.error (.panic .typeAssertion)) ∧ (s.stage 1).Panicked :=
  ⟨⟨_, rfl, rfl, trivial⟩, ⟨_, rfl, rfl, trivial⟩⟩

end DnsProxyServer.Proxy
