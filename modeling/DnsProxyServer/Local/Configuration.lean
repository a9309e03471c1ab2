/-
Module: DnsProxyServer.Local.Configuration
Purpose: The configuration in memory and its six operations, with the loops and
  slices of the source.
Trusted boundary: translation of events/local/localvo/localvo.go; logging is
  left out
Main exports: Hostname, Env, Configuration, Configuration.getEnv,
  Configuration.getActiveEnv, Configuration.setActiveEnv, Configuration.addEnv,
  Configuration.removeEnvByName, Configuration.addHostname,
  Configuration.updateHostname, Configuration.removeHostnameByEnvAndHostname
-/
import DnsProxyServer.Lib.FirstMatch
import DnsProxyServer.Local.Address

namespace DnsProxyServer.Local

open FirstMatch (firstMatch removeAt)

/-- `EntryType` is a string type; the API does not restrict it to the two constants. -/
abbrev EntryType := GoString

def EntryType.A : EntryType := "A".toList
def EntryType.CNAME : EntryType := "CNAME".toList

structure Hostname where
  id : Int
  hostname : GoString
  ip : GoString
  target : GoString
  ttl : Int
  type : EntryType
deriving Repr, DecidableEq

structure Env where
  name : GoString
  hostnames : List Hostname
deriving Repr, DecidableEq

structure Configuration where
  version : Int
  remoteDnsServers : List DNSServer
  envs : List Env
  activeEnv : GoString := []
  webServerPort : Int := 0
  dnsServerPort : Int := 0
  defaultDns : Option Bool := none
  logLevel : GoString := []
  logFile : GoString := []
  registerContainerNames : Option Bool := none
  hostMachineHostname : GoString := []
  domain : GoString := []
  dpsNetwork : Option Bool := none
  dpsNetworkAutoConnect : Option Bool := none
deriving Repr, DecidableEq

/-! ### Lookups

A pointer into a slice is the element and its index. -/

def Configuration.getEnv (lc : Configuration) (envName : GoString) : Option (Env × Nat) :=
  firstMatch (fun env => env.name == envName) lc.envs

def Configuration.getActiveEnv (lc : Configuration) : Option (Env × Nat) :=
  lc.getEnv lc.activeEnv

def Env.getHostname (env : Env) (hostname : GoString) : Option (Hostname × Nat) :=
  firstMatch (fun host => host.hostname == hostname) env.hostnames

def Env.getHostnameById (env : Env) (id : Int) : Option (Hostname × Nat) :=
  firstMatch (fun hostname => hostname.id == id) env.hostnames

/-! ### Operations

Each returns the configuration after its writes, or the error; on an error the
source returns before the first write. -/

def Env.addHostname (env : Env) (hostname : Hostname) : Except Failure Env :=
  match env.getHostname hostname.hostname with
  | some _ =>
      .error (.error ("The host '".toList ++ hostname.hostname ++ "' already exists".toList))
  | none => .ok { env with hostnames := env.hostnames ++ [hostname] }

def Configuration.addEnv (lc : Configuration) (env : Env) : Except Failure Configuration :=
  match lc.getEnv env.name with
  | some _ => .error (.error ("The '".toList ++ env.name ++ "' env already exists".toList))
  | none => .ok { lc with envs := lc.envs ++ [env] }

def Configuration.removeEnv (lc : Configuration) (i : Nat) : Configuration :=
  { lc with envs := removeAt lc.envs i }

def Configuration.removeEnvByName (lc : Configuration) (name : GoString) :
    Except Failure Configuration :=
  match lc.getEnv name with
  | none => .error (.error ("The env '".toList ++ name ++ "' was not found".toList))
  | some (_, i) => .ok (lc.removeEnv i)

/-- `now` is the clock reading taken when the record has no id yet. -/
def Configuration.addHostname (now : Int) (lc : Configuration) (envName : GoString)
    (hostname : Hostname) : Except Failure Configuration :=
  let hostname := if hostname.id = 0 then { hostname with id := now } else hostname
  if hostname.type = [] then .error (.error "Type is required".toList)
  else
    match lc.getEnv envName with
    | none => .error (.error "env not found".toList)
    | some (foundEnv, i) => do
        let foundEnv ← foundEnv.addHostname hostname
        return { lc with envs := lc.envs.set i foundEnv }

/-- The five assignments to the found record; its id stays. -/
def Hostname.assign (foundHostname hostname : Hostname) : Hostname :=
  { foundHostname with
    hostname := hostname.hostname
    ttl := hostname.ttl
    ip := hostname.ip
    target := hostname.target
    type := hostname.type }

def Env.updateHostname (env : Env) (hostname : Hostname) : Except Failure Env :=
  match env.getHostnameById hostname.id with
  | none =>
      .error (.error ("not hostname found with name=".toList ++ hostname.hostname ++
        " and id=".toList ++ itoa hostname.id))
  | some (foundHostname, j) =>
      .ok { env with hostnames := env.hostnames.set j (foundHostname.assign hostname) }

def Configuration.updateHostname (lc : Configuration) (envName : GoString)
    (hostname : Hostname) : Except Failure Configuration :=
  match lc.getEnv envName with
  | none => .error (.error "env not found".toList)
  | some (env, i) => do
      let env ← env.updateHostname hostname
      return { lc with envs := lc.envs.set i env }

def Configuration.removeHostname (lc : Configuration) (envIndex hostIndex : Nat) :
    Configuration :=
  { lc with
    envs := lc.envs.modify envIndex fun env =>
      { env with hostnames := removeAt env.hostnames hostIndex } }

def Configuration.removeHostnameByEnvAndHostname (lc : Configuration)
    (envName hostname : GoString) : Except Failure Configuration :=
  match lc.getEnv envName with
  | none => .error (.error "env not found".toList)
  | some (env, envIndex) =>
      match env.getHostname hostname with
      | none => .error (.error "hostname not found".toList)
      | some (_, hostIndex) => .ok (lc.removeHostname envIndex hostIndex)

def Configuration.setActiveEnv (lc : Configuration) (env : Env) : Except Failure Configuration :=
  match lc.getEnv env.name with
  | none => .error (.error ("Env not found: ".toList ++ env.name))
  | some _ => .ok { lc with activeEnv := env.name }

def Configuration.getRemoteServers (lc : Configuration) : List DNSServer :=
  if lc.remoteDnsServers.length ≠ 0 then lc.remoteDnsServers
  else [{ port := 53, ip := "8.8.8.8".toList }]

end DnsProxyServer.Local
