/-
Module: DnsProxyServer.Local.File
Purpose: Loading and saving the configuration file, the six operations on it, and
  the requests of the web interface that call them.
Trusted boundary: translation of events/local/local.go, controller/v1/hostname.go,
  controller/v1/env.go and controller/v1/vo; encoding/json decodes what it encodes
  and the disk does not fail; responses of the reading requests are left out
Main exports: Document, ConfFile, Clock, loadConfiguration, saveConfiguration,
  Operation, Operation.perform, Request, Request.serve
-/
import DnsProxyServer.Lib.LoadStore
import DnsProxyServer.Local.Storage

namespace DnsProxyServer.Local

open LoadStore (Access)

/-! ### The file -/

/-- What encoding/json reads from a file, by the version `readVersion` finds. -/
inductive Document where
  | v1 (c : StorageV1.ConfigurationV1)
  | v2 (c : StorageV2.ConfigurationV2)
deriving DecidableEq

/-- The configuration file: absent, well formed, or with contents that make
`LoadVersionedConfiguration` fail before `ToConfig`. -/
inductive ConfFile where
  | missing
  | document (d : Document)
  | unreadable (failure : Failure)
deriving DecidableEq

/-- Successive readings of `time.Now().UnixNano()`, after 1970 and before 2262. -/
structure Clock where
  reading : Nat → Int
  positive : ∀ n, 0 < reading n
  fits : ∀ n, reading n ≤ maxInt64

/-- A clock that stands still. -/
def stillClock : Clock where
  reading := fun _ => 7
  positive := fun _ => by decide
  fits := fun _ => by decide

/-- A computation on the configuration file after its contents are known. -/
abbrev FileAccess (α : Type) := Access ConfFile Failure α

def loadVersionedConfiguration : Document → Except Failure Configuration
  | .v1 c => c.toConfig
  | .v2 c => c.toConfig

def newEmptyEnv : List Env := [{ hostnames := [], name := [] }]

/-- The value handed to the encoder. -/
def confVO (c : Configuration) : Except Failure Document :=
  match c.version with
  | 2 => .ok (.v2 (StorageV2.valueOf c))
  | _ => (StorageV1.valueOf c).map .v1

/-- The assignment to `c.Envs` at the start of `SaveConfiguration`. -/
def Configuration.withEnvs (c : Configuration) : Configuration :=
  if c.envs.length = 0 then { c with envs := newEmptyEnv } else c

/-- Returns the configuration the caller's pointer then refers to. -/
def saveConfiguration (c : Configuration) : FileAccess Configuration :=
  match confVO c.withEnvs with
  | .error failure => .ofExcept (.error failure)
  | .ok d => .save (.document d) c.withEnvs

/-- The inner loop of `setHostnameIds`, from the clock's reading `n` on: the
records and the number of the next reading. -/
def setIds (clock : Clock) (n : Nat) : List Hostname → List Hostname × Nat
  | [] => ([], n)
  | host :: rest =>
      if host.id = 0 then
        let (rest, m) := setIds clock (n + 1) rest
        ({ host with id := clock.reading n } :: rest, m)
      else
        let (rest, m) := setIds clock n rest
        (host :: rest, m)

/-- The outer loop of `setHostnameIds`. -/
def setEnvIds (clock : Clock) (n : Nat) : List Env → List Env × Nat
  | [] => ([], n)
  | env :: rest =>
      let (hostnames, m) := setIds clock n env.hostnames
      let (rest, m) := setEnvIds clock m rest
      ({ env with hostnames := hostnames } :: rest, m)

/-- At least one record was updated when a reading was used. -/
def setHostnameIds (clock : Clock) (configuration : Configuration) : FileAccess Configuration :=
  let (envs, used) := setEnvIds clock 0 configuration.envs
  if used ≠ 0 then saveConfiguration { configuration with envs := envs }
  else .ofExcept (.ok { configuration with envs := envs })

def defaultConfig : Configuration where
  version := 2
  envs := []
  remoteDnsServers := []
  dpsNetwork := some false
  dpsNetworkAutoConnect := some false

def storeDefaultConfig (configuration : Configuration) : FileAccess Configuration :=
  saveConfiguration configuration

def loadConfiguration (clock : Clock) : ConfFile → FileAccess Configuration
  | .missing => storeDefaultConfig defaultConfig
  | .unreadable failure => .ofExcept (.error failure)
  | .document d =>
      match loadVersionedConfiguration d with
      | .error failure => .ofExcept (.error failure)
      | .ok configuration => setHostnameIds clock configuration

/-! ### The operations

The six functions load, change the configuration in memory and save it. -/

def withConfiguration (change : Configuration → Except Failure Configuration) (clock : Clock)
    (file : ConfFile) : FileAccess Unit :=
  (loadConfiguration clock file).bind fun conf =>
    match change conf with
    | .error failure => .ofExcept (.error failure)
    | .ok conf => (saveConfiguration conf).bind fun _ => .ofExcept (.ok ())

def setActiveEnv (env : Env) : Clock → ConfFile → FileAccess Unit :=
  withConfiguration fun conf => conf.setActiveEnv env

def addEnv (env : Env) : Clock → ConfFile → FileAccess Unit :=
  withConfiguration fun conf => conf.addEnv env

def removeEnvByName (env : GoString) : Clock → ConfFile → FileAccess Unit :=
  withConfiguration fun conf => conf.removeEnvByName env

def removeHostnameByEnvAndHostname (env hostname : GoString) :
    Clock → ConfFile → FileAccess Unit :=
  withConfiguration fun conf => conf.removeHostnameByEnvAndHostname env hostname

/-- `now` is the reading `AddHostname` of the configuration takes for itself. -/
def addHostname (now : Int) (env : GoString) (hostname : Hostname) :
    Clock → ConfFile → FileAccess Unit :=
  withConfiguration fun conf => conf.addHostname now env hostname

def updateHostname (env : GoString) (hostname : Hostname) : Clock → ConfFile → FileAccess Unit :=
  withConfiguration fun conf => conf.updateHostname env hostname

/-- The six mutating operations with their arguments. -/
inductive Operation where
  | setActiveEnv (env : Env)
  | addEnv (env : Env)
  | removeEnvByName (env : GoString)
  | addHostname (now : Int) (env : GoString) (hostname : Hostname)
  | updateHostname (env : GoString) (hostname : Hostname)
  | removeHostnameByEnvAndHostname (env hostname : GoString)
deriving DecidableEq

/-- The change an operation makes in memory. -/
def Operation.change : Operation → Configuration → Except Failure Configuration
  | .setActiveEnv env, conf => conf.setActiveEnv env
  | .addEnv env, conf => conf.addEnv env
  | .removeEnvByName env, conf => conf.removeEnvByName env
  | .addHostname now env hostname, conf => conf.addHostname now env hostname
  | .updateHostname env hostname, conf => conf.updateHostname env hostname
  | .removeHostnameByEnvAndHostname env hostname, conf =>
      conf.removeHostnameByEnvAndHostname env hostname

def Operation.perform : Operation → Clock → ConfFile → FileAccess Unit
  | .setActiveEnv env => Local.setActiveEnv env
  | .addEnv env => Local.addEnv env
  | .removeEnvByName env => Local.removeEnvByName env
  | .addHostname now env hostname => Local.addHostname now env hostname
  | .updateHostname env hostname => Local.updateHostname env hostname
  | .removeHostnameByEnvAndHostname env hostname =>
      Local.removeHostnameByEnvAndHostname env hostname

theorem Operation.perform_eq (operation : Operation) (clock : Clock) (file : ConfFile) :
    operation.perform clock file = withConfiguration operation.change clock file := by
  cases operation <;> rfl

/-! ### The web interface -/

namespace Vo

structure HostnameV1 where
  id : GoString
  hostname : GoString
  ip : IpArray
  target : GoString
  ttl : Int
  type : EntryType
  env : GoString := []
deriving DecidableEq

structure EnvV1 where
  name : GoString
  hostnames : List HostnameV1
deriving DecidableEq

/-- `strconv.ParseInt(s, 10, 64)` without its error: zero for text that is no
number, the nearest `int64` for one out of range. -/
def parseInt (s : GoString) : Int :=
  match parseSigned s with
  | none => 0
  | some n => max minInt64 (min maxInt64 n)

def HostnameV1.toHostname (hostnameV1 : HostnameV1) : Hostname where
  id := parseInt hostnameV1.id
  hostname := hostnameV1.hostname
  ip := toIpString hostnameV1.ip
  target := hostnameV1.target
  ttl := hostnameV1.ttl
  type := hostnameV1.type

def fromV1Hostnames (v1Hostnames : List HostnameV1) : List Hostname :=
  v1Hostnames.map HostnameV1.toHostname

def EnvV1.toEnv (env : EnvV1) : Env where
  name := env.name
  hostnames := fromV1Hostnames env.hostnames

/-- The loop of `POST /env/`: each record gets its own reading as id. -/
def withUnixNanoIds (clock : Clock) (n : Nat) : List HostnameV1 → List HostnameV1
  | [] => []
  | hostname :: rest =>
      { hostname with id := itoa (clock.reading n) } :: withUnixNanoIds clock (n + 1) rest

end Vo

/-- The requests that reach the configuration file. The GET requests only load it. -/
inductive Request where
  | read
  | postHostname (hostname : Vo.HostnameV1)
  | putHostname (hostname : Vo.HostnameV1)
  | deleteHostname (hostname : Vo.HostnameV1)
  | putEnvActive (env : Vo.EnvV1)
  | postEnv (env : Vo.EnvV1)
  | deleteEnv (env : Vo.EnvV1)
deriving DecidableEq

/-- The readings one request can take: `handler` in the controller, `load` in
`LoadConfiguration`, `add` in `AddHostname`. -/
structure Clocks where
  handler : Clock
  load : Clock
  add : Clock

/-- The operation a request calls, with the arguments its handler makes. -/
def Request.operation (clocks : Clocks) : Request → Option Operation
  | .read => none
  | .postHostname hostname =>
      some (.addHostname (clocks.add.reading 0) hostname.env hostname.toHostname)
  | .putHostname hostname => some (.updateHostname hostname.env hostname.toHostname)
  | .deleteHostname hostname =>
      some (.removeHostnameByEnvAndHostname hostname.env hostname.hostname)
  | .putEnvActive env => some (.setActiveEnv env.toEnv)
  | .postEnv env =>
      some (.addEnv
        { env with hostnames := Vo.withUnixNanoIds clocks.handler 0 env.hostnames : Vo.EnvV1 }.toEnv)
  | .deleteEnv env => some (.removeEnvByName env.name)

def Request.serve (clocks : Clocks) (request : Request) (file : ConfFile) : FileAccess Unit :=
  match request.operation clocks with
  | none => (loadConfiguration clocks.load file).bind fun _ => .ofExcept (.ok ())
  | some operation => operation.perform clocks.load file

end DnsProxyServer.Local
