/-
Module: DnsProxyServer.Proxy.Gateway
Purpose: The answer to the name of the machine, with the address of the gateway that is
  looked for through docker and the interfaces, and when there is an answer or an error.
Trusted boundary: translation of GetGatewayIp and FindDockerNetworkNetworkGatewayIp of
  docker/dockernetwork/dockernetwork.go, GetGatewayIP of resolvconf/resolvconf.go and Solve
  of proxy/system.go; the answers of the daemon, the interface addresses and the names of
  the machine are arbitrary
Main exports: Daemon.getGatewayIp, getGatewayIP, SystemDnsSolver.solveGateway,
  AnswersCleanly, QuadGateway, answers_cleanly_iff, machine_without_gateway_panics
-/
import DnsProxyServer.Proxy.AddressSolvers
import DnsProxyServer.ResolvConf.CurrentServer

namespace DnsProxyServer

open Docker (Daemon NetworkResource dpsNetwork)
open ResolvConf (InterfaceAddrs orElse external getCurrentIpAddress Named)

/-! ### The address of the gateway -/

namespace Docker.Daemon

variable (daemon : Daemon)

/-- `ListNetworks` is called without a filter, which is what the empty one stands for. -/
def firstNetworkGatewayIp : Except Failure GoString :=
  match daemon.listNetworks [] with
  | .error err => .error (.error err)
  | .ok [] => .error (.error "No network found on this docker daemon".toList)
  | .ok (n :: _) => getNetworkGatewayIp n

def findDockerNetworkNetworkGatewayIp : Except Failure GoString :=
  orElse (daemon.findNetworkGatewayIp "bridge".toList) daemon.firstNetworkGatewayIp

def getGatewayIp : Except Failure GoString :=
  orElse daemon.findDpsNetworkGatewayIp daemon.findDockerNetworkNetworkGatewayIp

end Docker.Daemon

namespace ResolvConf

/-- `cli` is `none` when docker is not connected. -/
def getGatewayIP (cli : Option Daemon) (interfaceAddrs : InterfaceAddrs) :
    Except Failure GoString :=
  match cli with
  | some daemon => daemon.getGatewayIp
  | none => getCurrentIpAddress interfaceAddrs

end ResolvConf

namespace Proxy

open ResolvConf (getGatewayIP)

/-- The message is built before the error is looked at. -/
def withError (msg : Except Failure Msg) (err : Option GoString) : Outcome :=
  match msg with
  | .ok msg => .returned (some msg) err
  | .error (.error message) => .returned none (some message)
  | .error (.panic cause) => .panicked cause

/-- The text that comes with an error is empty. -/
def SystemDnsSolver.solveGateway (cli : Option Daemon) (interfaceAddrs : InterfaceAddrs)
    (hostname domainHostname : GoString) (question : Question) : Outcome :=
  if question.name = [] then .panicked .sliceBounds
  else
    let questionName := question.name.dropLast
    if questionName = hostname ∨ questionName = domainHostname then
      match getGatewayIP cli interfaceAddrs with
      | .ok ip => withError (getMsg ip question) none
      | .error (.error err) => withError (getMsg [] question) (some err)
      | .error (.panic cause) => .panicked cause
    else .returned none (some "host not found".toList)

/-- With an address that was found it is the solver for a known address. -/
theorem solveGateway_eq_solve {cli : Option Daemon} {interfaceAddrs : InterfaceAddrs}
    {ip : GoString} (found : getGatewayIP cli interfaceAddrs = .ok ip)
    (hostname domainHostname : GoString) (question : Question) :
    SystemDnsSolver.solveGateway cli interfaceAddrs hostname domainHostname question =
      SystemDnsSolver.solve
        { hostname := hostname, domainHostname := domainHostname, gatewayIP := ip,
          gatewayErr := none } question := by
  rw [SystemDnsSolver.solveGateway, SystemDnsSolver.solve, found]
  rfl

/-- A message with one record, which has the bytes of the address of the gateway, or no
message and an error. -/
def CleanAnswer (cli : Option Daemon) (interfaceAddrs : InterfaceAddrs) (question : Question)
    (outcome : Outcome) : Prop :=
  (∃ ip bytes, getGatewayIP cli interfaceAddrs = .ok ip ∧ QuadOf ip bytes ∧
    outcome = .returned (some { answer := [.a
      { name := question.name, rrtype := typeA, rrclass := classINET, ttl := 0 } bytes] }) none) ∨
  ∃ err, outcome = .returned none (some err)

/-- Every question for a name of the machine has a clean answer. -/
def AnswersCleanly (cli : Option Daemon) (interfaceAddrs : InterfaceAddrs) : Prop :=
  ∀ hostname domainHostname question name, question.name = name ++ ['.'] →
    (name = hostname ∨ name = domainHostname) →
      CleanAnswer cli interfaceAddrs question
        (SystemDnsSolver.solveGateway cli interfaceAddrs hostname domainHostname question)

/-! ### When there is an address -/

/-- The gateway of its first configuration is a dotted quad. -/
def HasQuadGateway (network : NetworkResource) : Prop :=
  ∃ config others, network.ipamConfig = config :: others ∧ ∃ bytes, QuadOf config.gateway bytes

/-- The network that is asked first, of dps, bridge and the first of all, has a gateway that is
a dotted quad; without docker, the first external address of the machine is one. -/
inductive QuadGateway : Option Daemon → InterfaceAddrs → Prop where
  | dps {daemon : Daemon} {interfaceAddrs : InterfaceAddrs} {network : NetworkResource}
      (found : Named daemon dpsNetwork network) (gateway : HasQuadGateway network) :
      QuadGateway (some daemon) interfaceAddrs
  | bridge {daemon : Daemon} {interfaceAddrs : InterfaceAddrs} {network : NetworkResource}
      (noDps : ∀ network, ¬ Named daemon dpsNetwork network)
      (found : Named daemon "bridge".toList network) (gateway : HasQuadGateway network) :
      QuadGateway (some daemon) interfaceAddrs
  | first {daemon : Daemon} {interfaceAddrs : InterfaceAddrs} {network : NetworkResource}
      {others : List NetworkResource} (noDps : ∀ network, ¬ Named daemon dpsNetwork network)
      (noBridge : ∀ network, ¬ Named daemon "bridge".toList network)
      (listed : daemon.networkList [] = .ok (network :: others))
      (gateway : HasQuadGateway network) : QuadGateway (some daemon) interfaceAddrs
  | machine {addrs : List GoString} {addr : GoString} {stop : Nat} {bytes : IpArray}
      (found : addrs.find? external = some addr) (slash : index addr "/".toList = some stop)
      (address : QuadOf (addr.take stop) bytes) : QuadGateway none (.ok addrs)

/-! ### The chain -/

theorem exists_orElse_ok_iff {P : GoString → Prop} {first next : Except Failure GoString} :
    (∃ ip, orElse first next = .ok ip ∧ P ip) ↔
      (∃ ip, first = .ok ip ∧ P ip) ∨
        (∃ err, first = .error (.error err)) ∧ ∃ ip, next = .ok ip ∧ P ip := by
  rcases first with (err | cause) | ip
  · simp [orElse]
  · simp [orElse]
  · simp [orElse]

theorem firstNetworkGatewayIp_ok_iff {daemon : Daemon} {P : GoString → Prop} :
    (∃ ip, daemon.firstNetworkGatewayIp = .ok ip ∧ P ip) ↔
      ∃ network others config configs, daemon.networkList [] = .ok (network :: others) ∧
        network.ipamConfig = config :: configs ∧ P config.gateway := by
  unfold Daemon.firstNetworkGatewayIp Daemon.listNetworks
  rcases daemon.networkList [] with err | _ | ⟨network, others⟩
  · simp
  · simp
  · simp [ResolvConf.getNetworkGatewayIp_ok_iff]

/-- The text before the slash of the first external address. -/
theorem currentIp_of_find? {addrs : List GoString} {addr : GoString}
    (found : addrs.find? external = some addr) :
    ∃ stop, index addr "/".toList = some stop ∧ ResolvConf.currentIp addrs = addr.take stop := by
  induction addrs with
  | nil => cases found
  | cons ip addrs inductionHypothesis =>
      rw [List.find?_cons] at found
      rw [ResolvConf.currentIp]
      cases chosen : external ip with
      | false =>
          rw [chosen] at found
          obtain ⟨stop, slash, same⟩ := inductionHypothesis found
          refine ⟨stop, slash, ?_⟩
          cases first : index ip "/".toList with
          | none => exact same
          | some stop' =>
              have slashed : contains ip "/".toList = true := by rw [contains, first]; rfl
              rw [external, slashed, Bool.true_and] at chosen
              simp only [chosen]
              exact same
      | true =>
          rw [chosen] at found
          cases found
          obtain ⟨slash, notLoopback⟩ := Bool.and_eq_true_iff.mp chosen
          obtain ⟨stop, first⟩ := Option.isSome_iff_exists.mp slash
          exact ⟨stop, first, by simp only [first, notLoopback, if_true]⟩

theorem currentIp_of_find?_eq_none {addrs : List GoString}
    (none : addrs.find? external = none) : ResolvConf.currentIp addrs = [] := by
  by_contra present
  obtain ⟨addr, found, -⟩ := ResolvConf.currentIp_ne_nil.mp present
  rw [none] at found
  cases found

theorem QuadOf.ne_nil {ip : GoString} {bytes : IpArray} (quad : QuadOf ip bytes) : ip ≠ [] := by
  obtain ⟨d0, d1, d2, d3, rfl, -⟩ := quad
  simp

theorem getCurrentIpAddress_quad_iff {interfaceAddrs : InterfaceAddrs} :
    (∃ ip, getCurrentIpAddress interfaceAddrs = .ok ip ∧ ∃ bytes, QuadOf ip bytes) ↔
      QuadGateway none interfaceAddrs := by
  constructor
  · rintro ⟨ip, returned, bytes, quad⟩
    cases interfaceAddrs with
    | error err => cases returned
    | ok addrs =>
        cases returned
        cases found : addrs.find? external with
        | none => exact absurd (currentIp_of_find?_eq_none found) quad.ne_nil
        | some addr =>
            obtain ⟨stop, slash, same⟩ := currentIp_of_find? found
            exact .machine found slash (same ▸ quad)
  · intro gateway
    cases gateway with
    | machine found slash quad =>
        obtain ⟨stop, slash', same⟩ := currentIp_of_find? found
        cases slash.symm.trans slash'
        exact ⟨_, rfl, _, same ▸ quad⟩

/-- The address that is found is a dotted quad exactly when the first source has one. -/
theorem getGatewayIP_quad_iff {cli : Option Daemon} {interfaceAddrs : InterfaceAddrs} :
    (∃ ip, getGatewayIP cli interfaceAddrs = .ok ip ∧ ∃ bytes, QuadOf ip bytes) ↔
      QuadGateway cli interfaceAddrs := by
  cases cli with
  | none => exact getCurrentIpAddress_quad_iff
  | some daemon =>
      rw [getGatewayIP, Daemon.getGatewayIp, exists_orElse_ok_iff,
        Daemon.findDockerNetworkNetworkGatewayIp, exists_orElse_ok_iff,
        ResolvConf.findDpsNetworkGatewayIp_ok_iff, ResolvConf.findDpsNetworkGatewayIp_error_iff,
        ResolvConf.findNetworkGatewayIp_ok_iff, ResolvConf.findNetworkGatewayIp_error_iff,
        firstNetworkGatewayIp_ok_iff]
      constructor
      · rintro (⟨network, config, others, found, gateway⟩ | ⟨noDps, bridge | ⟨noBridge, first⟩⟩)
        · exact .dps found ⟨config, others, gateway⟩
        · obtain ⟨network, config, others, found, gateway⟩ := bridge
          exact .bridge noDps found ⟨config, others, gateway⟩
        · obtain ⟨network, others, config, configs, listed, gateway⟩ := first
          exact .first noDps noBridge listed ⟨config, configs, gateway⟩
      · rintro (⟨found, config, others, gateway⟩ | ⟨noDps, found, config, others, gateway⟩ |
          ⟨noDps, noBridge, listed, config, configs, gateway⟩)
        · exact Or.inl ⟨_, config, others, found, gateway⟩
        · exact Or.inr ⟨noDps, Or.inl ⟨_, config, others, found, gateway⟩⟩
        · exact Or.inr ⟨noDps, Or.inr ⟨noBridge, _, _, config, configs, listed, gateway⟩⟩

/-! ### The answer -/

/-- Building a message does not return an error. -/
theorem withError_ipMsg_ne_error {ip : GoString} {question : Question} {err : GoString} :
    withError (ipMsg ip question) none ≠ .returned none (some err) := by
  unfold ipMsg
  split
  · intro same
    cases same
  · intro same
    cases same

/-- A question for a name of the machine is answered with the address of its gateway. -/
theorem solveGateway_of_named {cli : Option Daemon} {interfaceAddrs : InterfaceAddrs}
    {hostname domainHostname name : GoString} {question : Question}
    (asked : question.name = name ++ ['.']) (named : name = hostname ∨ name = domainHostname) :
    SystemDnsSolver.solveGateway cli interfaceAddrs hostname domainHostname question =
      match getGatewayIP cli interfaceAddrs with
      | .ok ip => withError (ipMsg ip question) none
      | .error (.error err) => withError (ipMsg [] question) (some err)
      | .error (.panic cause) => .panicked cause := by
  have present : question.name ≠ [] := by simp [asked]
  have dropped : question.name.dropLast = name := by simp [asked]
  simp only [SystemDnsSolver.solveGateway, if_neg present, dropped, if_pos named]
  rfl

/-- The name of the machine is answered cleanly if and only if the source that decides has a
dotted quad. -/
theorem answers_cleanly_iff (cli : Option Daemon) (interfaceAddrs : InterfaceAddrs) :
    AnswersCleanly cli interfaceAddrs ↔ QuadGateway cli interfaceAddrs := by
  rw [← getGatewayIP_quad_iff]
  constructor
  · intro clean
    have answer := clean [] [] ⟨['.'], typeA, classINET⟩ [] rfl (Or.inl rfl)
    rw [solveGateway_of_named rfl (Or.inl rfl)] at answer
    rcases answer with ⟨ip, bytes, found, quad, -⟩ | ⟨err, failed⟩
    · exact ⟨ip, found, bytes, quad⟩
    · rcases found : getGatewayIP cli interfaceAddrs with (message | cause) | ip
      · rw [found] at failed
        cases failed
      · rw [found] at failed
        cases failed
      · rw [found] at failed
        exact absurd failed withError_ipMsg_ne_error
  · rintro ⟨ip, found, bytes, quad⟩ hostname domainHostname question name asked named
    refine Or.inl ⟨ip, bytes, found, quad, ?_⟩
    rw [solveGateway_of_named asked named, found]
    exact congrArg (withError · none) (ipMsg_of_quadOf quad question)

/-- Without docker, on a machine whose first external address is one of IPv6. -/
theorem machine_without_gateway_panics :
    SystemDnsSolver.solveGateway none (.ok ["127.0.0.1/8".toList, "fe80::1/64".toList])
        "host.docker".toList "host.docker".toList
        ⟨"host.docker.".toList, typeA, classINET⟩ = .panicked .indexOutOfRange ∧
      ¬ AnswersCleanly none (.ok ["127.0.0.1/8".toList, "fe80::1/64".toList]) := by
  have panics : SystemDnsSolver.solveGateway none
      (.ok ["127.0.0.1/8".toList, "fe80::1/64".toList]) "host.docker".toList "host.docker".toList
      ⟨"host.docker.".toList, typeA, classINET⟩ = .panicked .indexOutOfRange := by
    decide
  refine ⟨panics, fun clean => ?_⟩
  have answer := clean "host.docker".toList "host.docker".toList
    ⟨"host.docker.".toList, typeA, classINET⟩ "host.docker".toList rfl (Or.inl rfl)
  rw [panics] at answer
  rcases answer with ⟨ip, bytes, -, -, same⟩ | ⟨err, same⟩
  · cases same
  · cases same

end Proxy

end DnsProxyServer
