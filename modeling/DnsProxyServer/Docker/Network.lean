/-
Module: DnsProxyServer.Docker.Network
Purpose: The address of a container among those of its networks, and the addresses that
  are found through the networks of the daemon.
Trusted boundary: translation of docker/dockernetwork/dockernetwork.go; the daemon's
  answers are arbitrary, and the pointers in a list of answers are never nil
Main exports: NetworkSettings, NetworkedContainer, Daemon, findBestIpForNetworks,
  findDpsContainerIP, findDpsNetworkGatewayIp, addressCandidates, firstAddress,
  findBestIpForNetworks_eq_ok, HasAddress, findBestIpForNetworks_ne_nil_iff
-/
import DnsProxyServer.Docker.Hostnames
import DnsProxyServer.Lib.Traverse
import Mathlib.Data.List.Sort

namespace DnsProxyServer.Docker

/-! ### What the daemon answers -/

structure EndpointSettings where
  networkID : GoString
  ipAddress : GoString
deriving DecidableEq

/-- The networks of a container, by name and in the order a loop over the map meets
them. -/
structure NetworkSettings where
  networks : List (GoString × Option EndpointSettings)
  ipAddress : GoString
  nodup : (networks.map Prod.fst).Nodup := by decide

/-- What an inspection returns, with the networks. -/
structure NetworkedContainer extends ContainerJSON where
  networkSettings : NetworkSettings

structure IPAMConfig where
  gateway : GoString

structure NetworkResource where
  driver : GoString
  ipamConfig : List IPAMConfig

/-- An entry of the list of containers. -/
structure Container where
  id : GoString
  names : List GoString

/-- The client of a connected daemon; networks are listed by a filter. -/
structure Daemon where
  containerList : Except GoString (List Container)
  containerInspect : GoString → Except GoString NetworkedContainer
  networkList : GoString → Except GoString (List NetworkResource)

/-- `errors.WithMessage(err, message)`. -/
def withMessage (err message : GoString) : GoString := message ++ ": ".toList ++ err

/-! ### Networks -/

namespace Daemon

variable (daemon : Daemon)

def listNetworks (filter : GoString) : Except GoString (List NetworkResource) :=
  match daemon.networkList filter with
  | .error err => .error (withMessage err "can't list networks".toList)
  | .ok networks => .ok networks

def findNetwork (filter : GoString) : Except GoString NetworkResource :=
  match daemon.listNetworks filter with
  | .error err => .error (withMessage err "can't list networks".toList)
  | .ok [network] => .ok network
  | .ok _ => .error ("didn't found the specified network with args: [".toList ++ filter ++
      "]".toList)

def findNetworkByName (name : GoString) : Except GoString NetworkResource :=
  daemon.findNetwork ("name=^".toList ++ name ++ "$".toList)

def findNetworkByID (id : GoString) : Except GoString NetworkResource :=
  daemon.findNetwork ("id=^".toList ++ id)

/-- `n.IPAM.Config[0].Gateway`. -/
def getNetworkGatewayIp (n : NetworkResource) : Except Failure GoString :=
  match n.ipamConfig with
  | config :: _ => .ok config.gateway
  | [] => .error (.panic .indexOutOfRange)

def findNetworkGatewayIp (name : GoString) : Except Failure GoString :=
  match daemon.findNetworkByName name with
  | .error err => .error (.error err)
  | .ok networkResource => getNetworkGatewayIp networkResource

def findDpsNetworkGatewayIp : Except Failure GoString := daemon.findNetworkGatewayIp dpsNetwork

end Daemon

/-! ### The address of a container -/

/-- Empty when the network is absent or nil. -/
def getIPFromNetworksMap (networks : List (GoString × Option EndpointSettings))
    (key : GoString) : GoString :=
  match networks.lookup key with
  | some (some theNetwork) => theNetwork.ipAddress
  | _ => []

def mapValues (endpointsMap : List (GoString × Option EndpointSettings)) :
    List (Option EndpointSettings) := endpointsMap.map Prod.snd

structure CompleteNetwork where
  ipAddress : GoString
  networkId : GoString
  driver : GoString
deriving DecidableEq

def getDriverOrder (driver : GoString) : Nat := if driver = "bridge".toList then 0 else 1

/-- `b` is not less than `a`. -/
def CompleteNetwork.notAfter (a b : CompleteNetwork) : Prop :=
  getDriverOrder a.driver ≤ getDriverOrder b.driver

instance : DecidableRel CompleteNetwork.notAfter := fun a b =>
  inferInstanceAs (Decidable (getDriverOrder a.driver ≤ getDriverOrder b.driver))

/-- The sort of the source is not stable. As the order of the map is arbitrary to begin
with, a stable one has the same outcomes. -/
def byDriver (completeNetworks : List CompleteNetwork) : List CompleteNetwork :=
  completeNetworks.insertionSort CompleteNetwork.notAfter

/-- The first of the preferred networks on which there is an address. -/
def findOnNetworks (networks : List (GoString × Option EndpointSettings)) :
    List GoString → Option GoString
  | [] => none
  | networkInspect :: rest =>
      if getIPFromNetworksMap networks networkInspect ≠ [] then
        some (getIPFromNetworksMap networks networkInspect)
      else findOnNetworks networks rest

/-- The loop over the sorted networks. -/
def firstIpAddress : List CompleteNetwork → Option GoString
  | [] => none
  | completeNetwork :: rest =>
      if completeNetwork.ipAddress ≠ [] then some completeNetwork.ipAddress
      else firstIpAddress rest

namespace Daemon

variable (daemon : Daemon)

def completeNetwork : Option EndpointSettings → Except Failure CompleteNetwork
  | none => .error (.panic .nilDereference)
  | some endpoint =>
      match daemon.findNetworkByID endpoint.networkID with
      | .error err => .error (.panic (.raised (withMessage err
          ("can't inspect network: ".toList ++ endpoint.networkID))))
      | .ok networkRes => .ok {
          ipAddress := endpoint.ipAddress
          networkId := endpoint.networkID
          driver := networkRes.driver }

def constructCompleteNetwork (endpoints : List (Option EndpointSettings)) :
    Except Failure (List CompleteNetwork) :=
  endpoints.mapM daemon.completeNetwork

def findBestIpForNetworks (container : NetworkedContainer) (preferredNetworks : List GoString) :
    Except Failure GoString :=
  match findOnNetworks container.networkSettings.networks preferredNetworks with
  | some ip => .ok ip
  | none => do
      let completeNetworks ←
        daemon.constructCompleteNetwork (mapValues container.networkSettings.networks)
      match firstIpAddress (byDriver completeNetworks) with
      | some ip => return ip
      | none => return container.networkSettings.ipAddress

def findBestIP (container : NetworkedContainer) : Except Failure GoString :=
  daemon.findBestIpForNetworks container [dpsNetwork, "bridge".toList]

/-- The names are collected for a warning only. -/
def toContainerNames (containers : List Container) : Except Failure (List GoString) :=
  containers.mapM fun container =>
    match container.names with
    | name :: _ => .ok name
    | [] => .error (.panic .indexOutOfRange)

def findDpsContainer : Except Failure Container :=
  match daemon.containerList with
  | .error err => .error (.error (withMessage err "can't list containers".toList))
  | .ok [] => .error (.error "containers result must be exactly one but found: 0".toList)
  | .ok [container] => .ok container
  | .ok (container :: others) => do
      let _ ← toContainerNames (container :: others)
      return container

def findDpsContainerIP : Except Failure GoString := do
  let container ← daemon.findDpsContainer
  match daemon.containerInspect container.id with
  | .ok containerJSON => daemon.findBestIP containerJSON
  | .error err => .error (.error (withMessage err
      ("can't inspect container: [".toList ++ " ".toList.intercalate container.names ++
        "]".toList)))

/-- `putHostnames` with the networks of the container. -/
def putHostnames (c : Registry) (predefinedHosts : List GoString)
    (inspect : NetworkedContainer) : Except Failure Registry := do
  let preferredNetwork := (inspect.config.labels.lookup defaultNetworkLabel).getD []
  let ip ← daemon.findBestIpForNetworks inspect
    [preferredNetwork, dpsNetwork, "bridge".toList]
  return Docker.putHostnames c predefinedHosts ip

end Daemon

/-! ### Which address is found -/

/-- The addresses of a container in the order in which they are considered, given its
networks as the daemon describes them. -/
def NetworkSettings.addressCandidates (settings : NetworkSettings)
    (preferredNetworks : List GoString) (completeNetworks : List CompleteNetwork) :
    List GoString :=
  preferredNetworks.map (getIPFromNetworksMap settings.networks) ++
    ((byDriver completeNetworks).map CompleteNetwork.ipAddress ++ [settings.ipAddress])

/-- The first address that is not empty. -/
def firstAddress (addresses : List GoString) : GoString :=
  (addresses.find? fun ip => ip ≠ []).getD []

theorem firstAddress_cons (ip : GoString) (addresses : List GoString) :
    firstAddress (ip :: addresses) = if ip ≠ [] then ip else firstAddress addresses := by
  by_cases empty : ip = []
  · simp [firstAddress, empty]
  · simp [firstAddress, empty]

theorem firstAddress_findOnNetworks (networks : List (GoString × Option EndpointSettings))
    (addresses : List GoString) (preferredNetworks : List GoString) :
    firstAddress (preferredNetworks.map (getIPFromNetworksMap networks) ++ addresses) =
      (findOnNetworks networks preferredNetworks).getD (firstAddress addresses) := by
  induction preferredNetworks with
  | nil => rfl
  | cons networkInspect rest inductionHypothesis =>
      rw [List.map_cons, List.cons_append, firstAddress_cons, findOnNetworks,
        inductionHypothesis]
      split_ifs <;> rfl

theorem firstAddress_firstIpAddress (addresses : List GoString)
    (completeNetworks : List CompleteNetwork) :
    firstAddress (completeNetworks.map CompleteNetwork.ipAddress ++ addresses) =
      (firstIpAddress completeNetworks).getD (firstAddress addresses) := by
  induction completeNetworks with
  | nil => rfl
  | cons network rest inductionHypothesis =>
      rw [List.map_cons, List.cons_append, firstAddress_cons, firstIpAddress,
        inductionHypothesis]
      split_ifs <;> rfl

/-- The address that is found is the first candidate that is not empty. The networks are
described by the daemon only when none of the preferred ones has an address. -/
theorem findBestIpForNetworks_eq_ok {daemon : Daemon} {container : NetworkedContainer}
    {preferredNetworks : List GoString} {ip : GoString} :
    daemon.findBestIpForNetworks container preferredNetworks = .ok ip ↔
      ∃ completeNetworks,
        (findOnNetworks container.networkSettings.networks preferredNetworks = none →
          daemon.constructCompleteNetwork (mapValues container.networkSettings.networks) =
            .ok completeNetworks) ∧
        firstAddress (container.networkSettings.addressCandidates preferredNetworks
          completeNetworks) = ip := by
  have last : firstAddress [container.networkSettings.ipAddress] =
      container.networkSettings.ipAddress := by
    rw [firstAddress_cons]
    split_ifs with present
    · rfl
    · simpa [firstAddress] using Eq.symm (not_not.mp present)
  simp only [NetworkSettings.addressCandidates, firstAddress_findOnNetworks,
    firstAddress_firstIpAddress, last]
  unfold Daemon.findBestIpForNetworks
  cases findOnNetworks container.networkSettings.networks preferredNetworks with
  | some found => simp
  | none =>
      cases daemon.constructCompleteNetwork (mapValues container.networkSettings.networks) with
      | error failure => simp [bind, Except.bind]
      | ok completeNetworks =>
          cases chosen : firstIpAddress (byDriver completeNetworks) with
          | none => simp [bind, Except.bind, pure, Except.pure, chosen]
          | some found => simp [bind, Except.bind, pure, Except.pure, chosen]

/-! ### When an address is found -/

theorem firstAddress_ne_nil {addresses : List GoString} :
    firstAddress addresses ≠ [] ↔ ∃ ip ∈ addresses, ip ≠ [] := by
  induction addresses with
  | nil => simp [firstAddress]
  | cons ip addresses inductionHypothesis =>
      rw [firstAddress_cons]
      by_cases empty : ip = []
      · simp [empty, inductionHypothesis]
      · simp [empty]

theorem findOnNetworks_eq_none {networks : List (GoString × Option EndpointSettings)}
    {preferredNetworks : List GoString} :
    findOnNetworks networks preferredNetworks = none ↔
      ∀ name ∈ preferredNetworks, getIPFromNetworksMap networks name = [] := by
  induction preferredNetworks with
  | nil => simp [findOnNetworks]
  | cons name rest inductionHypothesis =>
      rw [findOnNetworks]
      by_cases empty : getIPFromNetworksMap networks name = []
      · simp [empty, inductionHypothesis]
      · simp [empty]

theorem findNetwork_eq_ok {daemon : Daemon} {filter : GoString} {network : NetworkResource} :
    daemon.findNetwork filter = .ok network ↔ daemon.networkList filter = .ok [network] := by
  unfold Daemon.findNetwork Daemon.listNetworks
  cases daemon.networkList filter with
  | error err => simp
  | ok networks =>
      rcases networks with _ | ⟨first, _ | ⟨second, rest⟩⟩ <;> simp

/-- The daemon knows the one network of the endpoint. -/
def Described (daemon : Daemon) (endpoint : Option EndpointSettings) : Prop :=
  ∃ settings network, endpoint = some settings ∧
    daemon.networkList ("id=^".toList ++ settings.networkID) = .ok [network]

theorem completeNetwork_eq_ok {daemon : Daemon} {endpoint : Option EndpointSettings}
    {complete : CompleteNetwork} (described : daemon.completeNetwork endpoint = .ok complete) :
    ∃ settings, endpoint = some settings ∧ complete.ipAddress = settings.ipAddress := by
  cases endpoint with
  | none => cases described
  | some settings =>
      refine ⟨settings, rfl, ?_⟩
      rw [Daemon.completeNetwork] at described
      split at described
      · cases described
      · cases described
        rfl

theorem described_iff {daemon : Daemon} {endpoint : Option EndpointSettings} :
    Described daemon endpoint ↔ ∃ complete, daemon.completeNetwork endpoint = .ok complete := by
  constructor
  · rintro ⟨settings, network, rfl, listed⟩
    have found : daemon.findNetworkByID settings.networkID = .ok network :=
      findNetwork_eq_ok.mpr listed
    rw [Daemon.completeNetwork, found]
    exact ⟨_, rfl⟩
  · rintro ⟨complete, described⟩
    obtain ⟨settings, rfl, -⟩ := completeNetwork_eq_ok described
    rw [Daemon.completeNetwork] at described
    split at described
    · cases described
    · rename_i network found
      exact ⟨settings, network, rfl, findNetwork_eq_ok.mp found⟩

theorem constructCompleteNetwork_ok_iff {daemon : Daemon}
    {endpoints : List (Option EndpointSettings)} :
    (∃ completeNetworks, daemon.constructCompleteNetwork endpoints = .ok completeNetworks) ↔
      ∀ endpoint ∈ endpoints, Described daemon endpoint := by
  simp only [described_iff]
  exact Traverse.exists_mapM_eq_ok_iff

/-- A preferred network has an address; or the daemon describes every network, and one of
them has an address or there is a default one. -/
def HasAddress (daemon : Daemon) (container : NetworkedContainer)
    (preferredNetworks : List GoString) : Prop :=
  (∃ name ∈ preferredNetworks,
    getIPFromNetworksMap container.networkSettings.networks name ≠ []) ∨
  (∀ endpoint ∈ mapValues container.networkSettings.networks, Described daemon endpoint) ∧
    ((∃ settings, some settings ∈ mapValues container.networkSettings.networks ∧
        settings.ipAddress ≠ []) ∨
      container.networkSettings.ipAddress ≠ [])

theorem mem_constructCompleteNetwork {daemon : Daemon}
    {endpoints : List (Option EndpointSettings)} {completeNetworks : List CompleteNetwork}
    (constructed : daemon.constructCompleteNetwork endpoints = .ok completeNetworks) :
    (∃ complete ∈ completeNetworks, complete.ipAddress ≠ []) ↔
      ∃ settings, some settings ∈ endpoints ∧ settings.ipAddress ≠ [] := by
  have each := Traverse.mapM_eq_ok_iff.mp constructed
  clear constructed
  induction each with
  | nil => simp
  | @cons endpoint complete endpoints completeNetworks described _ inductionHypothesis =>
      obtain ⟨settings, rfl, same⟩ := completeNetwork_eq_ok described
      simp only [List.mem_cons, inductionHypothesis, same, Option.some.injEq, or_and_right,
        exists_or, exists_eq_left]

/-- An address is found exactly when there is one. -/
theorem findBestIpForNetworks_ne_nil_iff {daemon : Daemon} {container : NetworkedContainer}
    {preferredNetworks : List GoString} :
    (∃ ip, daemon.findBestIpForNetworks container preferredNetworks = .ok ip ∧ ip ≠ []) ↔
      HasAddress daemon container preferredNetworks := by
  have candidates : ∀ completeNetworks,
      firstAddress (container.networkSettings.addressCandidates preferredNetworks
        completeNetworks) ≠ [] ↔
      (∃ name ∈ preferredNetworks,
        getIPFromNetworksMap container.networkSettings.networks name ≠ []) ∨
      (∃ complete ∈ completeNetworks, complete.ipAddress ≠ []) ∨
        container.networkSettings.ipAddress ≠ [] := by
    intro completeNetworks
    rw [firstAddress_ne_nil]
    simp [NetworkSettings.addressCandidates, or_and_right, exists_or, byDriver]
  simp only [findBestIpForNetworks_eq_ok]
  constructor
  · rintro ⟨ip, ⟨completeNetworks, described, rfl⟩, present⟩
    rcases (candidates completeNetworks).mp present with preferred | others
    · exact Or.inl preferred
    · by_cases preferred : findOnNetworks container.networkSettings.networks
          preferredNetworks = none
      · have constructed := described preferred
        rw [mem_constructCompleteNetwork constructed] at others
        exact Or.inr ⟨constructCompleteNetwork_ok_iff.mp ⟨_, constructed⟩, others⟩
      · rw [findOnNetworks_eq_none] at preferred
        exact Or.inl (by simpa using preferred)
  · rintro (preferred | ⟨described, others⟩)
    · refine ⟨_, ⟨[], fun none => ?_, rfl⟩, (candidates []).mpr (Or.inl preferred)⟩
      obtain ⟨name, member, present⟩ := preferred
      exact absurd (findOnNetworks_eq_none.mp none name member) present
    · obtain ⟨completeNetworks, constructed⟩ := constructCompleteNetwork_ok_iff.mpr described
      refine ⟨_, ⟨completeNetworks, fun _ => constructed, rfl⟩, ?_⟩
      rw [candidates, mem_constructCompleteNetwork constructed]
      exact Or.inr others

end DnsProxyServer.Docker
