/-
Module: DnsProxyServer.Docker.Hostnames
Purpose: The names a container is registered under, the registry of names, and how one
  container or one event changes it.
Trusted boundary: translation of events/docker/docker.go; the daemon's answers and the
  choice of an address among a container's networks are parameters
Main exports: ContainerJSON, getHostnames, Registry, putHostnames, Environment,
  Message, registerContainer, handleEvent, handleEvents
-/
import DnsProxyServer.Cache.Timed

namespace DnsProxyServer.Docker

open Cache (LRUCache)

/-! ### Containers -/

/-- `container.Config`, with the labels as their pairs. -/
structure Config where
  hostname : GoString := []
  domainname : GoString := []
  env : List GoString := []
  labels : List (GoString × GoString) := []
deriving DecidableEq

/-- What an inspection returns. -/
structure ContainerJSON where
  id : GoString
  name : GoString
  config : Config
deriving DecidableEq

/-- What package conf answers while the names are collected. -/
structure Settings where
  shouldRegisterContainerNames : Bool
  dpsDomain : GoString
deriving DecidableEq

def getContainerHostname (inspect : ContainerJSON) : Except Failure GoString :=
  if inspect.config.hostname.length ≠ 0 then
    if inspect.config.domainname.length ≠ 0 then
      .ok (inspect.config.hostname ++ '.' :: inspect.config.domainname)
    else .ok inspect.config.hostname
  else .error (.error "hostname not found".toList)

def hostnameEnv : GoString := "HOSTNAMES=".toList

/-- The loop of `getHostnamesFromEnv`: only the first variable of this name counts. -/
def hostnamesFromEnv : List GoString → List GoString
  | [] => []
  | env :: rest =>
      if index env hostnameEnv = some 0 then split (env.drop hostnameEnv.length) ','
      else hostnamesFromEnv rest

def getHostnamesFromEnv (inspect : ContainerJSON) : List GoString :=
  hostnamesFromEnv inspect.config.env

def getHostnameFromContainerName (settings : Settings) (inspect : ContainerJSON) :
    Except Failure GoString := do
  let name ← slice inspect.name 1 inspect.name.length
  return name ++ '.' :: settings.dpsDomain

def serviceNameLabelKey : GoString := "com.docker.compose.service".toList

def getHostnameFromServiceName (settings : Settings) (inspect : ContainerJSON) :
    Except Failure GoString :=
  match inspect.config.labels.lookup serviceNameLabelKey with
  | some v => .ok (v ++ '.' :: settings.dpsDomain)
  | none => .error (.error ("service not found for container: ".toList ++ inspect.name))

/-- The names a container is registered under. -/
def getHostnames (settings : Settings) (inspect : ContainerJSON) :
    Except Failure (List GoString) := do
  let hostnames :=
    (match getContainerHostname inspect with
      | .ok machineHostname => [machineHostname]
      | .error _ => []) ++ getHostnamesFromEnv inspect
  if settings.shouldRegisterContainerNames then
    let containerName ← getHostnameFromContainerName settings inspect
    match getHostnameFromServiceName settings inspect with
    | .ok hostnameFromServiceName => return hostnames ++ [containerName, hostnameFromServiceName]
    | .error _ => return hostnames ++ [containerName]
  else return hostnames

example :
    getHostnames { shouldRegisterContainerNames := true, dpsDomain := "other.example.com".toList }
      { id := [], name := "/nginx-container_1".toList
        config := {
          hostname := "mageddo".toList
          domainname := "com".toList
          env := ["HOSTNAMES=server2.mageddo.com,server3.mageddo.com".toList]
          labels := [("com.docker.compose.service".toList, "nginx-service".toList)] } } =
      .ok ["mageddo.com".toList, "server2.mageddo.com".toList, "server3.mageddo.com".toList,
        "nginx-container_1.other.example.com".toList,
        "nginx-service.other.example.com".toList] := by
  decide +kernel

/-! ### The registry -/

/-- The cache `c`: addresses by name, with no container recorded. -/
abbrev Registry := LRUCache GoString GoString 43690

def defaultNetworkLabel : GoString := "dps.network".toList
def dpsNetwork : GoString := "dps".toList

/-- What the daemon answers. `findBestIpForNetworks` takes the preferred networks. -/
structure Environment where
  settings : Settings
  containerInspect : GoString → Except GoString ContainerJSON
  mustNetworkConnect : GoString → Except Failure Unit
  findBestIpForNetworks : ContainerJSON → List GoString → GoString

def Environment.mustInspectContainer (e : Environment) (containerID : GoString) :
    Except Failure ContainerJSON :=
  match e.containerInspect containerID with
  | .error err =>
      .error (.panic (.raised ("status=inspect-error, id=".toList ++ containerID ++
        ": ".toList ++ err)))
  | .ok cInspection => .ok cInspection

/-- The address `putHostnames` stores. A label that is absent reads as empty. -/
def Environment.bestIp (e : Environment) (inspect : ContainerJSON) : GoString :=
  let preferredNetwork := (inspect.config.labels.lookup defaultNetworkLabel).getD []
  e.findBestIpForNetworks inspect [preferredNetwork, dpsNetwork, "bridge".toList]

def putHostnames (c : Registry) (predefinedHosts : List GoString) (ip : GoString) : Registry :=
  predefinedHosts.foldl (fun c host => LRUCache.put c host ip) c

def removeHostnames (c : Registry) (hostnames : List GoString) : Registry :=
  hostnames.foldl LRUCache.remove c

/-- `events.Message`, and the action of older daemons. -/
structure Message where
  id : GoString
  action : GoString
  status : GoString := []
deriving DecidableEq

def Message.resolvedAction (event : Message) : GoString :=
  if event.action.length = 0 then event.status else event.action

/-- The body of the loop over the containers found at startup. -/
def registerContainer (e : Environment) (c : Registry) (id : GoString) :
    Except Failure Registry := do
  e.mustNetworkConnect id
  let cInspection ← e.mustInspectContainer id
  let hostnames ← getHostnames e.settings cInspection
  return putHostnames c hostnames (e.bestIp cInspection)

/-- The body of the event loop. -/
def handleEvent (e : Environment) (c : Registry) (event : Message) :
    Except Failure Registry := do
  let cInspection ← e.mustInspectContainer event.id
  let hostnames ← getHostnames e.settings cInspection
  let action := event.resolvedAction
  if action = "start".toList then
    e.mustNetworkConnect cInspection.id
    let again ← e.mustInspectContainer event.id
    return putHostnames c hostnames (e.bestIp again)
  else if action = "stop".toList ∨ action = "die".toList then
    return removeHostnames c hostnames
  else return c

/-- The event loop over a stream that has ended. -/
def handleEvents (e : Environment) (c : Registry) (events : List Message) :
    Except Failure Registry :=
  events.foldlM (handleEvent e) c

/-! ### Names and addresses -/

/-- All names among few: putting a container's names loses no other name. -/
theorem peek_putHostnames {names : List GoString} (few : names.length ≤ 43690) (ip : GoString)
    (hosts : List GoString) : ∀ c : Registry, (∀ k, Recency.peek c k ≠ none → k ∈ names) →
    (∀ host ∈ hosts, host ∈ names) → ∀ h, Recency.peek (putHostnames c hosts ip) h =
      if h ∈ hosts then some ip else Recency.peek c h := by
  induction hosts with
  | nil => simp [putHostnames]
  | cons host rest inductionHypothesis =>
      intro c keys named h
      have put : ∀ k, Recency.peek (Recency.add c host ip) k =
          if k = host then some ip else Recency.peek c k :=
        Recency.peek_add_of_room (Recency.room_of_keys few keys (named host (by simp))) ip
      have keys' : ∀ k, Recency.peek (Recency.add c host ip) k ≠ none → k ∈ names := by
        intro k present
        rw [put k] at present
        split_ifs at present with same
        · exact same ▸ named host (by simp)
        · exact keys k present
      have later := inductionHypothesis (Recency.add c host ip) keys'
        (fun host' member => named host' (by simp [member])) h
      simp only [putHostnames, List.foldl_cons, LRUCache.put] at later ⊢
      rw [later, put h]
      by_cases inRest : h ∈ rest
      · simp [inRest]
      · by_cases same : h = host <;> simp [same, inRest]

theorem peek_removeHostnames (hosts : List GoString) : ∀ (c : Registry) (h : GoString),
    Recency.peek (removeHostnames c hosts) h =
      if h ∈ hosts then none else Recency.peek c h := by
  induction hosts with
  | nil => simp [removeHostnames]
  | cons host rest inductionHypothesis =>
      intro c h
      have later := inductionHypothesis (Recency.remove c host) h
      simp only [removeHostnames, List.foldl_cons, LRUCache.remove] at later ⊢
      rw [later, Recency.peek_remove]
      by_cases inRest : h ∈ rest
      · simp [inRest]
      · by_cases same : h = host <;> simp [same, inRest]

end DnsProxyServer.Docker
