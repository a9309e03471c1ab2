/-
Module: DnsProxyServer.Docker.DpsNetwork
Purpose: The network of the server: the calls that create it, attach and detach containers,
  and what the daemon documents about its answers.
Trusted boundary: translation of setupDpsContainerNetwork, of the loop over the running
  containers and of the functions of docker/dockernetwork/dockernetwork.go they call; the
  daemon answers as documented, in any order and with any failures
Main exports: NetworkDaemon, setupDpsContainerNetwork, connectContainers,
  disconnectNetworkContainers, Attached, Manages, Creates, Available, contains_cidr_iff
-/
import DnsProxyServer.Docker.Loop
import DnsProxyServer.Docker.Network
import DnsProxyServer.Local.Address

namespace DnsProxyServer.Docker

/-! ### What the daemon is asked -/

/-- How a container is attached to a network. -/
structure EndpointResource where
  name : GoString
  ipv4Address : GoString

/-- A listed network, with the containers attached to it in the order a loop over the map
meets them. -/
structure AttachedNetwork extends NetworkResource where
  containers : List (GoString × EndpointResource)

structure NetworkCreate where
  checkDuplicate : Bool
  driver : GoString
  enableIPv6 : Bool
  subnet : GoString
  ipRange : GoString
  gateway : GoString
  internal : Bool
  attachable : Bool
  labels : List (GoString × GoString)

/-- The client of a connected daemon in state `σ`; what fails returns the text of its error. -/
structure NetworkDaemon (σ : Type) where
  containerList : σ → Except GoString (List Container)
  containerInspect : σ → GoString → Except GoString NetworkedContainer
  networkList : GoString → σ → Except GoString (List AttachedNetwork)
  networkCreate : GoString → NetworkCreate → σ → Option GoString × σ
  networkConnect : GoString → GoString → GoString → σ → Option GoString × σ
  networkDisconnect : GoString → GoString → Bool → σ → Option GoString × σ

namespace NetworkDaemon

variable {σ : Type} (daemon : NetworkDaemon σ)

/-- The queries that do not look at the containers of a network. -/
def queries (s : σ) : Daemon where
  containerList := daemon.containerList s
  containerInspect := daemon.containerInspect s
  networkList := fun filter =>
    (daemon.networkList filter s).map fun networks => networks.map AttachedNetwork.toNetworkResource

def listNetworks (filter : GoString) (s : σ) : Except GoString (List AttachedNetwork) :=
  match daemon.networkList filter s with
  | .error err => .error (withMessage err "can't list networks".toList)
  | .ok networks => .ok networks

def findNetwork (filter : GoString) (s : σ) : Except GoString AttachedNetwork :=
  match daemon.listNetworks filter s with
  | .error err => .error (withMessage err "can't list networks".toList)
  | .ok [network] => .ok network
  | .ok _ => .error ("didn't found the specified network with args: [".toList ++ filter ++
      "]".toList)

def findNetworkByName (name : GoString) (s : σ) : Except GoString AttachedNetwork :=
  daemon.findNetwork ("name=^".toList ++ name ++ "$".toList) s

def findNetworkByID (id : GoString) (s : σ) : Except GoString AttachedNetwork :=
  daemon.findNetwork ("id=^".toList ++ id) s

def mustNetworkConnect (dpsNetworkAutoConnect : Bool)
    (networkId containerId networkIpAddress : GoString) (s : σ) : Except Failure Unit × σ :=
  if !dpsNetworkAutoConnect then (.ok (), s)
  else
    let (err, s) := daemon.networkConnect networkId containerId networkIpAddress s
    (Docker.mustNetworkConnect dpsNetworkAutoConnect err networkId containerId networkIpAddress, s)

end NetworkDaemon

/-- The line that reports that a container is detached. -/
def successLine (cid : GoString) : GoString := "success for ".toList ++ cid

/-- What `DisconnectNetworkContainers` collects: successes are reported as errors, too. -/
def reportLine (cid : GoString) : Option GoString → GoString
  | some err => withMessage err ("cant disconnect container ".toList ++ cid)
  | none => successLine cid

namespace NetworkDaemon

variable {σ : Type} (daemon : NetworkDaemon σ)

/-- The loop of `DisconnectNetworkContainers`. -/
def disconnectEach (networkId : GoString) :
    List (GoString × EndpointResource) → σ → List GoString × σ
  | [], s => ([], s)
  | (cid, _) :: rest, s =>
      let (err, s) := daemon.networkDisconnect networkId cid true s
      let (errs, s) := disconnectEach networkId rest s
      (reportLine cid err :: errs, s)

def disconnectNetworkContainers (networkId : GoString) (s : σ) : List GoString × σ :=
  match daemon.findNetworkByID networkId s with
  | .error err => ([withMessage err ("cant inspect network: ".toList ++ networkId)], s)
  | .ok networkResource => daemon.disconnectEach networkId networkResource.containers s

end NetworkDaemon

/-! ### What the daemon does -/

/-- The containers attached to a network, with their addresses. -/
abbrev Attached := GoString → Option IpArray

/-- The address as it is listed, with the length of the prefix. -/
def cidr (ip : IpArray) (length : Nat) : GoString := toIpString ip ++ '/' :: itoa length

/-- The list of a network has its containers, each with its address. -/
def Shows (network : AttachedNetwork) (present : Attached) : Prop :=
  ∃ length, ∀ id address,
    (∃ container, (id, container) ∈ network.containers ∧ container.ipv4Address = address) ↔
      ∃ ip, present id = some ip ∧ address = cidr ip length

/-- How the daemon answers about one network: a call that fails changes nothing, an address
is given to one container only, and the two texts that the server looks for are used for what
they say. `attached` is `none` as long as there is no such network. -/
structure Manages {σ : Type} (daemon : NetworkDaemon σ) (networkId filter name : GoString)
    (attached : σ → Option Attached) : Prop where
  lists {s network} : daemon.networkList filter s = .ok [network] →
    ∃ present, attached s = some present ∧ Shows network present
  disconnects {s s' id present} : attached s = some present →
    daemon.networkDisconnect networkId id true s = (none, s') →
      attached s' = some (Function.update present id none)
  disconnect_fails {s s' id present err} : attached s = some present →
    daemon.networkDisconnect networkId id true s = (some err, s') →
      attached s' = some present ∧
        (contains err ("is not connected to network ".toList ++ name) → present id = none)
  connects {s s' id ip present} : attached s = some present →
    daemon.networkConnect networkId id ip s = (none, s') →
      ∃ address, present id = none ∧ (∀ other, present other ≠ some address) ∧
        (ip = [] ∨ ip = toIpString address) ∧
        attached s' = some (Function.update present id (some address))
  connect_fails {s s' id ip present err} : attached s = some present →
    daemon.networkConnect networkId id ip s = (some err, s') →
      attached s' = some present ∧
        (contains err "already exists in network".toList → present id ≠ none)

def dpsFilter : GoString := "name=^".toList ++ dpsNetwork ++ "$".toList

def dpsAddress : IpArray where
  b0 := 172
  b1 := 157
  b2 := 5
  b3 := 249

end DnsProxyServer.Docker
