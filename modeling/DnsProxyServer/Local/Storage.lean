/-
Module: DnsProxyServer.Local.Storage
Purpose: The two storage formats of the configuration and the conversions
  between them and the configuration in memory.
Trusted boundary: translation of storagev1/storagev1.go and
  storagev2/storagev2.go; nil and empty slices are one list
Main exports: StorageV1.ConfigurationV1, StorageV1.valueOf,
  StorageV1.ConfigurationV1.toConfig, StorageV2.ConfigurationV2,
  StorageV2.valueOf, StorageV2.ConfigurationV2.toConfig,
  StorageV1.toConfig_valueOf, StorageV2.toConfig_valueOf
-/
import DnsProxyServer.Lib.Traverse
import DnsProxyServer.Local.Configuration

namespace DnsProxyServer.Local

namespace StorageV1

structure HostnameV1 where
  id : Int
  hostname : GoString
  ip : IpArray
  target : GoString
  ttl : Int
  env : GoString := []
  type : EntryType
deriving Repr, DecidableEq

structure EnvV1 where
  name : GoString
  hostnames : List HostnameV1
deriving Repr, DecidableEq

structure ConfigurationV1 where
  remoteDnsServers : List IpArray
  envs : List EnvV1
  activeEnv : GoString
  webServerPort : Int
  dnsServerPort : Int
  defaultDns : Option Bool
  logLevel : GoString
  logFile : GoString
  registerContainerNames : Option Bool
  hostMachineHostname : GoString
  domain : GoString
deriving Repr, DecidableEq

def fromHostname (hostname : Hostname) : Except Failure HostnameV1 := do
  let ip ← toIpByteArray {} hostname.ip
  return {
    id := hostname.id
    hostname := hostname.hostname
    type := hostname.type
    ttl := hostname.ttl
    target := hostname.target
    ip := ip }

def toV1Hostnames (hostnames : List Hostname) : Except Failure (List HostnameV1) :=
  hostnames.mapM fromHostname

def fromEnv (env : Env) : Except Failure EnvV1 := do
  let hostnames ← toV1Hostnames env.hostnames
  return { name := env.name, hostnames := hostnames }

def toV1Envs (envs : List Env) : Except Failure (List EnvV1) :=
  envs.mapM fromEnv

def valueOf (c : Configuration) : Except Failure ConfigurationV1 := do
  let envs ← toV1Envs c.envs
  let remoteDnsServers ← toIpsByteArray c.remoteDnsServers
  return {
    envs := envs
    webServerPort := c.webServerPort
    remoteDnsServers := remoteDnsServers
    registerContainerNames := c.registerContainerNames
    logLevel := c.logLevel
    logFile := c.logFile
    hostMachineHostname := c.hostMachineHostname
    domain := c.domain
    dnsServerPort := c.dnsServerPort
    defaultDns := c.defaultDns
    activeEnv := c.activeEnv }

def fillHostname (v1Hostname : HostnameV1) : Hostname where
  id := v1Hostname.id
  hostname := v1Hostname.hostname
  ip := toIpString v1Hostname.ip
  target := v1Hostname.target
  ttl := v1Hostname.ttl
  type := v1Hostname.type

def toEnvs (v1Envs : List EnvV1) : List Env :=
  v1Envs.map fun v1Env => { name := v1Env.name, hostnames := v1Env.hostnames.map fillHostname }

def ConfigurationV1.toConfig (c : ConfigurationV1) : Except Failure Configuration := do
  let remoteDnsServers ← byteArrayToDnsServer c.remoteDnsServers
  return {
    version := 1
    activeEnv := c.activeEnv
    defaultDns := c.defaultDns
    dnsServerPort := c.dnsServerPort
    domain := c.domain
    envs := toEnvs c.envs
    hostMachineHostname := c.hostMachineHostname
    logFile := c.logFile
    logLevel := c.logLevel
    registerContainerNames := c.registerContainerNames
    remoteDnsServers := remoteDnsServers
    webServerPort := c.webServerPort }

end StorageV1

namespace StorageV2

structure HostnameV2 where
  id : Int
  hostname : GoString
  ip : GoString
  target : GoString
  ttl : Int
  type : EntryType
deriving Repr, DecidableEq

structure EnvV2 where
  name : GoString
  hostnames : List HostnameV2
deriving Repr, DecidableEq

structure ConfigurationV2 where
  version : Int
  remoteDnsServers : List GoString
  envs : List EnvV2
  activeEnv : GoString
  webServerPort : Int
  dnsServerPort : Int
  defaultDns : Option Bool
  logLevel : GoString
  logFile : GoString
  registerContainerNames : Option Bool
  hostMachineHostname : GoString
  domain : GoString
  dpsNetwork : Option Bool
  dpsNetworkAutoConnect : Option Bool
deriving Repr, DecidableEq

def fillV2Hostname (hostname : Hostname) : HostnameV2 where
  hostname := hostname.hostname
  ip := hostname.ip
  id := hostname.id
  target := hostname.target
  ttl := hostname.ttl
  type := hostname.type

def toV2Hostnames (hostnames : List Hostname) : List HostnameV2 :=
  hostnames.map fillV2Hostname

def toV2Env (env : Env) : EnvV2 where
  hostnames := toV2Hostnames env.hostnames
  name := env.name

def toV2Envs (envs : List Env) : List EnvV2 :=
  envs.map toV2Env

def valueOf (c : Configuration) : ConfigurationV2 where
  version := 2
  logFile := c.logFile
  activeEnv := c.activeEnv
  defaultDns := c.defaultDns
  dnsServerPort := c.dnsServerPort
  domain := c.domain
  hostMachineHostname := c.hostMachineHostname
  logLevel := c.logLevel
  registerContainerNames := c.registerContainerNames
  remoteDnsServers := toIpsStringArray c.remoteDnsServers
  webServerPort := c.webServerPort
  envs := toV2Envs c.envs
  dpsNetwork := c.dpsNetwork
  dpsNetworkAutoConnect := c.dpsNetworkAutoConnect

def fillHostname (v2Hostname : HostnameV2) : Hostname where
  hostname := v2Hostname.hostname
  id := v2Hostname.id
  ip := v2Hostname.ip
  target := v2Hostname.target
  ttl := v2Hostname.ttl
  type := v2Hostname.type

def toEnvs (v2Envs : List EnvV2) : List Env :=
  v2Envs.map fun v2Env => { name := v2Env.name, hostnames := v2Env.hostnames.map fillHostname }

def ConfigurationV2.toConfig (c : ConfigurationV2) : Except Failure Configuration := do
  let remoteDnsServers ← stringArrayToDnsServer c.remoteDnsServers
  return {
    version := 2
    activeEnv := c.activeEnv
    defaultDns := c.defaultDns
    dnsServerPort := c.dnsServerPort
    domain := c.domain
    envs := toEnvs c.envs
    hostMachineHostname := c.hostMachineHostname
    logFile := c.logFile
    logLevel := c.logLevel
    registerContainerNames := c.registerContainerNames
    remoteDnsServers := remoteDnsServers
    webServerPort := c.webServerPort
    dpsNetwork := c.dpsNetwork
    dpsNetworkAutoConnect := c.dpsNetworkAutoConnect }

end StorageV2

/-! ### Which configurations a format can hold

`StorableV1` and `StorableV2` are exactly what loading establishes and what the
conversions need: a version 1 file keeps addresses as bytes and has no network
settings, a version 2 file keeps server addresses as text. -/

/-- A record whose address is written as `ToIpString` writes it. -/
def ByteAddress (ip : GoString) : Prop := ∃ ipArray, ip = toIpString ipArray

structure StorableV1 (c : Configuration) : Prop where
  version : c.version = 1
  addresses : ∀ env ∈ c.envs, ∀ host ∈ env.hostnames, ByteAddress host.ip
  servers : ∀ server ∈ c.remoteDnsServers, ByteAddress server.ip ∧ server.port = 53
  dpsNetwork : c.dpsNetwork = none
  dpsNetworkAutoConnect : c.dpsNetworkAutoConnect = none

structure StorableV2 (c : Configuration) : Prop where
  version : c.version = 2
  servers : ∀ server ∈ c.remoteDnsServers, server.Canonical

private theorem fillHostname_fromHostname {host : Hostname} (address : ByteAddress host.ip) :
    ∃ v1, StorageV1.fromHostname host = .ok v1 ∧ StorageV1.fillHostname v1 = host := by
  obtain ⟨ipArray, ipEq⟩ := address
  obtain ⟨id, hostname, ip, target, ttl, type⟩ := host
  subst ipEq
  refine ⟨{ id := id, hostname := hostname, ip := ipArray, target := target, ttl := ttl,
            type := type }, ?_, rfl⟩
  rw [StorageV1.fromHostname, toIpByteArray_toIpString]
  rfl

private theorem toEnvs_toV1Envs {envs : List Env}
    (addresses : ∀ env ∈ envs, ∀ host ∈ env.hostnames, ByteAddress host.ip) :
    ∃ v1, StorageV1.toV1Envs envs = .ok v1 ∧ StorageV1.toEnvs v1 = envs := by
  refine Traverse.exists_mapM_ok_map fun env member => ?_
  obtain ⟨v1Hostnames, written, back⟩ := Traverse.exists_mapM_ok_map fun host hostMember =>
    fillHostname_fromHostname (addresses env member host hostMember)
  refine ⟨{ name := env.name, hostnames := v1Hostnames }, ?_, by rw [back]⟩
  rw [StorageV1.fromEnv, StorageV1.toV1Hostnames, written]
  rfl

private theorem byteArrayToDnsServer_toIpsByteArray {servers : List DNSServer}
    (byteServers : ∀ server ∈ servers, ByteAddress server.ip ∧ server.port = 53) :
    ∃ bytes, toIpsByteArray servers = .ok bytes ∧ byteArrayToDnsServer bytes = .ok servers := by
  have each : ∀ server ∈ servers, ∃ ipArray, server.getIpArray = .ok ipArray ∧
      ({ ip := toIpString ipArray, port := 53 } : DNSServer) = server := by
    intro server member
    obtain ⟨⟨ipArray, ipEq⟩, portEq⟩ := byteServers server member
    obtain ⟨ip, port⟩ := server
    subst ipEq portEq
    exact ⟨ipArray, toIpByteArray_toIpString _ _, rfl⟩
  obtain ⟨bytes, written, back⟩ := Traverse.exists_mapM_ok_map each
  refine ⟨bytes, written, ?_⟩
  rw [byteArrayToDnsServer,
    Traverse.mapM_ok_of_forall fun ipArray _ => toDnsServer_toIpString ipArray, back]

/-- Writing a version 1 configuration and reading it back changes nothing. -/
theorem StorageV1.toConfig_valueOf {c : Configuration} (storable : StorableV1 c) :
    ∃ v1, StorageV1.valueOf c = .ok v1 ∧ v1.toConfig = .ok c := by
  obtain ⟨v1Envs, envsWritten, envsBack⟩ := toEnvs_toV1Envs storable.addresses
  obtain ⟨bytes, serversWritten, serversBack⟩ :=
    byteArrayToDnsServer_toIpsByteArray storable.servers
  refine ⟨_, by rw [StorageV1.valueOf, envsWritten, serversWritten]; rfl, ?_⟩
  simp only [StorageV1.ConfigurationV1.toConfig, serversBack, envsBack]
  obtain ⟨version, -, -, dpsNetwork, dpsNetworkAutoConnect⟩ := storable
  cases c
  simp_all [bind, Except.bind, pure, Except.pure]

/-- Writing a version 2 configuration and reading it back changes nothing. -/
theorem StorageV2.toConfig_valueOf {c : Configuration} (storable : StorableV2 c) :
    (StorageV2.valueOf c).toConfig = .ok c := by
  have servers : stringArrayToDnsServer (toIpsStringArray c.remoteDnsServers) =
      .ok c.remoteDnsServers := by
    rw [stringArrayToDnsServer, toIpsStringArray, List.mapM_map]
    refine (Traverse.mapM_ok_of_forall fun server member => ?_).trans (by rw [List.map_id'])
    exact toDnsServer_getAddress (storable.servers server member)
  have envs : StorageV2.toEnvs (StorageV2.toV2Envs c.envs) = c.envs := by
    have host : ∀ host, StorageV2.fillHostname (StorageV2.fillV2Hostname host) = host :=
      fun _ => rfl
    simp [StorageV2.toEnvs, StorageV2.toV2Envs, StorageV2.toV2Env, StorageV2.toV2Hostnames,
      Function.comp_def, host]
  simp only [StorageV2.ConfigurationV2.toConfig, StorageV2.valueOf, servers, envs]
  obtain ⟨version, -⟩ := storable
  cases c
  simp_all [bind, Except.bind, pure, Except.pure]

/-! ### What loading establishes -/

theorem StorageV1.storable_of_toConfig {v1 : StorageV1.ConfigurationV1} {c : Configuration}
    (loaded : v1.toConfig = .ok c) : StorableV1 c := by
  unfold StorageV1.ConfigurationV1.toConfig at loaded
  cases serversEq : byteArrayToDnsServer v1.remoteDnsServers with
  | error e => simp [serversEq, bind, Except.bind] at loaded
  | ok servers =>
      simp only [serversEq, bind, Except.bind] at loaded
      cases loaded
      refine ⟨rfl, ?_, ?_, rfl, rfl⟩
      · intro env member host hostMember
        obtain ⟨v1Env, -, rfl⟩ := List.mem_map.mp member
        obtain ⟨v1Host, -, rfl⟩ := List.mem_map.mp hostMember
        exact ⟨v1Host.ip, rfl⟩
      · intro server member
        obtain ⟨ipArray, -, read⟩ := Traverse.exists_of_mem_mapM serversEq server member
        rw [toDnsServer_toIpString] at read
        cases read
        exact ⟨⟨ipArray, rfl⟩, rfl⟩

/-- A version 2 file that is converted has its servers read and its envs copied. -/
theorem StorageV2.of_toConfig {v2 : StorageV2.ConfigurationV2} {c : Configuration}
    (loaded : v2.toConfig = .ok c) :
    stringArrayToDnsServer v2.remoteDnsServers = .ok c.remoteDnsServers ∧ c.version = 2 ∧
      c.envs = StorageV2.toEnvs v2.envs := by
  unfold StorageV2.ConfigurationV2.toConfig at loaded
  cases serversEq : stringArrayToDnsServer v2.remoteDnsServers with
  | error e => simp [serversEq, bind, Except.bind] at loaded
  | ok servers =>
      simp only [serversEq, bind, Except.bind] at loaded
      cases loaded
      exact ⟨rfl, rfl, rfl⟩

theorem StorageV2.storable_of_toConfig {v2 : StorageV2.ConfigurationV2} {c : Configuration}
    (loaded : v2.toConfig = .ok c) : StorableV2 c := by
  obtain ⟨servers, version, -⟩ := StorageV2.of_toConfig loaded
  refine ⟨version, fun server member => ?_⟩
  obtain ⟨text, -, read⟩ := Traverse.exists_of_mem_mapM servers server member
  exact canonical_of_toDnsServer read

/-! ### Writing addresses that are not byte addresses

A version 1 file still gets the names right when it can be written at all. -/

private theorem map_eq_of_mapM {α β γ : Type} {f : α → Except Failure β} {g : α → γ} {h : β → γ}
    (keeps : ∀ x y, f x = .ok y → h y = g x) {l : List α} :
    ∀ {ys : List β}, l.mapM f = .ok ys → ys.map h = l.map g := by
  induction l with
  | nil =>
      intro ys written
      cases written
      rfl
  | cons x rest inductionHypothesis =>
      intro ys written
      rw [List.mapM_cons] at written
      cases first : f x with
      | error e => simp [first, bind, Except.bind] at written
      | ok y =>
          cases later : rest.mapM f with
          | error e => simp [first, later, bind, Except.bind] at written
          | ok zs =>
              simp only [first, later, bind, Except.bind] at written
              cases written
              simp [keeps x y first, inductionHypothesis later]

theorem StorageV1.name_of_fromEnv {env : Env} {v1Env : StorageV1.EnvV1}
    (written : StorageV1.fromEnv env = .ok v1Env) : v1Env.name = env.name := by
  unfold StorageV1.fromEnv at written
  cases hosts : StorageV1.toV1Hostnames env.hostnames with
  | error e => simp [hosts, bind, Except.bind] at written
  | ok v1Hostnames =>
      simp only [hosts, bind, Except.bind] at written
      cases written
      rfl

/-- Addresses kept as bytes can always be read. -/
theorem StorageV1.toConfig_eq_ok (v1 : StorageV1.ConfigurationV1) :
    ∃ c, v1.toConfig = .ok c ∧ c.envs = StorageV1.toEnvs v1.envs ∧
      c.activeEnv = v1.activeEnv := by
  have read : byteArrayToDnsServer v1.remoteDnsServers = .ok _ :=
    Traverse.mapM_ok_of_forall fun ipArray _ => toDnsServer_toIpString ipArray
  simp only [StorageV1.ConfigurationV1.toConfig, read]
  exact ⟨_, rfl, rfl, rfl⟩

/-- Whatever was written in version 1 can be loaded, under the same env names. -/
theorem StorageV1.names_of_valueOf {c : Configuration} {v1 : StorageV1.ConfigurationV1}
    (written : StorageV1.valueOf c = .ok v1) :
    ∃ c', v1.toConfig = .ok c' ∧ c'.envs.map Env.name = c.envs.map Env.name ∧
      c'.activeEnv = c.activeEnv := by
  unfold StorageV1.valueOf at written
  cases envs : StorageV1.toV1Envs c.envs with
  | error e => simp [envs, bind, Except.bind] at written
  | ok v1Envs =>
      cases servers : toIpsByteArray c.remoteDnsServers with
      | error e => simp [envs, servers, bind, Except.bind] at written
      | ok bytes =>
          simp only [envs, servers, bind, Except.bind] at written
          cases written
          have names := map_eq_of_mapM (fun _ _ => StorageV1.name_of_fromEnv) envs
          obtain ⟨c', read, envsEq, activeEq⟩ := StorageV1.toConfig_eq_ok _
          refine ⟨c', read, ?_, activeEq⟩
          rw [envsEq, ← names]
          simp [StorageV1.toEnvs]

end DnsProxyServer.Local
