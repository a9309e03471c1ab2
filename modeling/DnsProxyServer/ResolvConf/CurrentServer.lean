/-
Module: DnsProxyServer.ResolvConf.CurrentServer
Purpose: Which address the server enters into resolv.conf as its own, and when that is
  an address at all.
Trusted boundary: translation of GetDpsIP, GetCurrentIpAddress and
  SetCurrentDnsServerToMachine of resolvconf/resolvconf.go; the answers of the daemon and
  the interface addresses are arbitrary
Main exports: getCurrentIpAddress, getDpsIP, setCurrentDnsServerToMachine, EntersAddress,
  Addressed, enters_address_iff, loopback_only_machine_gets_empty_nameserver
-/
import DnsProxyServer.Docker.Network
import DnsProxyServer.ResolvConf.Convergence

namespace DnsProxyServer.ResolvConf

open Docker (Daemon NetworkedContainer NetworkResource IPAMConfig dpsNetwork)
open Occurrence (unlines)

/-! ### The address of the server -/

/-- The texts `addr.String()` of `net.InterfaceAddrs()`. -/
abbrev InterfaceAddrs := Except GoString (List GoString)

/-- The loop of `GetCurrentIpAddress`; without a result the empty text is returned. -/
def currentIp : List GoString → GoString
  | [] => []
  | ip :: addrs =>
      match index ip "/".toList with
      | some stop => if !hasPrefix ip "127".toList then ip.take stop else currentIp addrs
      | none => currentIp addrs

def getCurrentIpAddress : InterfaceAddrs → Except Failure GoString
  | .error err => .error (.error err)
  | .ok addrs => .ok (currentIp addrs)

/-- The next call is made when the first one returned an error. -/
def orElse (first next : Except Failure GoString) : Except Failure GoString :=
  match first with
  | .error (.error _) => next
  | result => result

/-- `cli` is `none` when docker is not connected. -/
def getDpsIP (cli : Option Daemon) (interfaceAddrs : InterfaceAddrs) : Except Failure GoString :=
  match cli with
  | some daemon =>
      orElse daemon.findDpsContainerIP
        (orElse daemon.findDpsNetworkGatewayIp (getCurrentIpAddress interfaceAddrs))
  | none => getCurrentIpAddress interfaceAddrs

/-- What is returned, `none` for nil, and the content of the file afterwards. -/
def setCurrentDnsServerToMachine (cli : Option Daemon) (interfaceAddrs : InterfaceAddrs)
    (content : GoString) : Option Failure × GoString :=
  match getDpsIP cli interfaceAddrs with
  | .ok ip =>
      match setMachineDnsServer ip content with
      | .ok written => (none, written)
      | .error failure => (some failure, content)
  | .error (.error err) =>
      (some (.error (Docker.withMessage err "can't set dps dns server to host machine".toList)),
        content)
  | .error (.panic cause) => (some (.panic cause), content)

/-- The call returns nil and has written the file for an address, or it returns an error
and leaves the file. -/
def EntersAddress (cli : Option Daemon) (interfaceAddrs : InterfaceAddrs)
    (content : GoString) : Prop :=
  match setCurrentDnsServerToMachine cli interfaceAddrs content with
  | (none, written) => ∃ ip, ip ≠ [] ∧ setMachineDnsServer ip content = .ok written
  | (some (.error _), after) => after = content
  | (some (.panic _), _) => False

/-! ### When there is an address -/

/-- Not a loopback address, and with a length of its network. -/
def external (addr : GoString) : Bool :=
  contains addr "/".toList && !hasPrefix addr "127".toList

/-- The interfaces cannot be listed, or the first external address is not empty. -/
def MachineAddressed (interfaceAddrs : InterfaceAddrs) : Prop :=
  ∀ addrs, interfaceAddrs = .ok addrs →
    ∃ addr, addrs.find? external = some addr ∧ addr.head? ≠ some '/'

/-- The first of the listed containers; where there are more, each has a name. -/
def Listed (daemon : Daemon) (container : Docker.Container) : Prop :=
  ∃ others, daemon.containerList = .ok (container :: others) ∧
    (others ≠ [] → ∀ other ∈ container :: others, other.names ≠ [])

/-- The container of the server is listed and can be inspected. -/
def DpsContainer (daemon : Daemon) (inspect : NetworkedContainer) : Prop :=
  ∃ container, Listed daemon container ∧ daemon.containerInspect container.id = .ok inspect

def NoDpsContainer (daemon : Daemon) : Prop :=
  (∀ container others, daemon.containerList ≠ .ok (container :: others)) ∨
    ∃ container err, Listed daemon container ∧ daemon.containerInspect container.id = .error err

/-- The network of the server, as the daemon describes it. -/
def DpsNetwork (daemon : Daemon) (network : NetworkResource) : Prop :=
  daemon.networkList ("name=^".toList ++ dpsNetwork ++ "$".toList) = .ok [network]

/-- The first source that does not report its absence has an address that is not empty. -/
inductive Addressed : Option Daemon → InterfaceAddrs → Prop where
  | container {daemon : Daemon} {interfaceAddrs : InterfaceAddrs} {inspect : NetworkedContainer}
      (found : DpsContainer daemon inspect)
      (address : Docker.HasAddress daemon inspect [dpsNetwork, "bridge".toList]) :
      Addressed (some daemon) interfaceAddrs
  | gateway {daemon : Daemon} {interfaceAddrs : InterfaceAddrs} {network : NetworkResource}
      {config : IPAMConfig} {others : List IPAMConfig} (absent : NoDpsContainer daemon)
      (found : DpsNetwork daemon network) (configured : network.ipamConfig = config :: others)
      (address : config.gateway ≠ []) : Addressed (some daemon) interfaceAddrs
  | machine {cli : Option Daemon} {interfaceAddrs : InterfaceAddrs}
      (absent : ∀ daemon, cli = some daemon →
        NoDpsContainer daemon ∧ ∀ network, ¬ DpsNetwork daemon network)
      (address : MachineAddressed interfaceAddrs) : Addressed cli interfaceAddrs

/-! ### One source -/

/-- An address that is not empty, or an error. -/
def Reports (result : Except Failure GoString) : Prop :=
  (∃ ip, result = .ok ip ∧ ip ≠ []) ∨ ∃ err, result = .error (.error err)

theorem reports_orElse_iff {first next : Except Failure GoString} :
    Reports (orElse first next) ↔
      (∃ ip, first = .ok ip ∧ ip ≠ []) ∨ (∃ err, first = .error (.error err)) ∧ Reports next := by
  rcases first with (err | cause) | ip
  · simp [orElse]
  · simp [orElse, Reports]
  · simp [orElse, Reports]

/-- The text before the first slash. -/
theorem take_index_ne_nil {ip : GoString} {stop : Nat}
    (found : index ip "/".toList = some stop) : ip.take stop ≠ [] ↔ ip.head? ≠ some '/' := by
  obtain ⟨before, after, rfl, rfl⟩ := Occurrence.exists_of_index?_eq_some found
  rw [List.take_left]
  cases before with
  | nil => simp
  | cons c before =>
      refine iff_of_true (List.cons_ne_nil _ _) fun slash => ?_
      cases slash
      rw [index, Occurrence.index?_of_prefix (by simp)] at found
      cases found

theorem currentIp_ne_nil {addrs : List GoString} :
    currentIp addrs ≠ [] ↔ ∃ addr, addrs.find? external = some addr ∧ addr.head? ≠ some '/' := by
  induction addrs with
  | nil => simp [currentIp]
  | cons ip addrs inductionHypothesis =>
      rw [currentIp, List.find?_cons]
      cases found : index ip "/".toList with
      | none =>
          have passed : external ip = false := by simp only [external, contains, found]; rfl
          simp only [passed, inductionHypothesis]
      | some stop =>
          cases loopback : hasPrefix ip "127".toList with
          | true =>
              have passed : external ip = false := by simp only [external, loopback]; simp
              simpa [passed] using inductionHypothesis
          | false =>
              have chosen : external ip = true := by
                simp only [external, contains, found, loopback]
                rfl
              simpa [chosen] using take_index_ne_nil found

theorem reports_getCurrentIpAddress_iff {interfaceAddrs : InterfaceAddrs} :
    Reports (getCurrentIpAddress interfaceAddrs) ↔ MachineAddressed interfaceAddrs := by
  cases interfaceAddrs with
  | error err => simp [Reports, getCurrentIpAddress, MachineAddressed]
  | ok addrs =>
      simp only [Reports, getCurrentIpAddress, MachineAddressed, Except.ok.injEq, reduceCtorEq,
        exists_false, or_false, exists_eq_left', currentIp_ne_nil, forall_eq']

/-! ### The docker sources -/

/-- An inspected container has an address or none; looking for it returns no error. -/
theorem findBestIpForNetworks_error {daemon : Daemon} {inspect : NetworkedContainer}
    {preferredNetworks : List GoString} {failure : Failure}
    (fails : daemon.findBestIpForNetworks inspect preferredNetworks = .error failure) :
    ∃ cause, failure = .panic cause := by
  unfold Daemon.findBestIpForNetworks at fails
  split at fails
  · cases fails
  · cases constructed : daemon.constructCompleteNetwork
        (Docker.mapValues inspect.networkSettings.networks) with
    | ok completeNetworks =>
        simp only [constructed, bind, Except.bind] at fails
        split at fails <;> cases fails
    | error failure' =>
        simp only [constructed, bind, Except.bind] at fails
        cases fails
        obtain ⟨endpoint, -, value⟩ := Traverse.exists_of_mapM_error constructed
        unfold Daemon.completeNetwork at value
        split at value
        · cases value
          exact ⟨_, rfl⟩
        · split at value <;> cases value
          exact ⟨_, rfl⟩

theorem toContainerNames_isOk_iff {containers : List Docker.Container} :
    (∃ names, Daemon.toContainerNames containers = .ok names) ↔
      ∀ container ∈ containers, container.names ≠ [] := by
  rw [Daemon.toContainerNames, Traverse.exists_mapM_eq_ok_iff]
  refine forall₂_congr fun container _ => ?_
  cases container.names <;> simp

/-- The container that is found is the one that is listed. -/
theorem findDpsContainer_eq_ok {daemon : Daemon} {container : Docker.Container} :
    daemon.findDpsContainer = .ok container ↔ Listed daemon container := by
  unfold Daemon.findDpsContainer Listed
  rcases daemon.containerList with err | _ | ⟨first, _ | ⟨second, rest⟩⟩
  · simp
  · simp
  · simp
  · have names := @toContainerNames_isOk_iff (first :: second :: rest)
    cases collected : Daemon.toContainerNames (first :: second :: rest) with
    | error failure =>
        refine iff_of_false (by simp [collected, bind, Except.bind]) ?_
        rintro ⟨others, same, named⟩
        cases same
        obtain ⟨all, read⟩ := names.mpr (named (List.cons_ne_nil _ _))
        rw [collected] at read
        cases read
    | ok all =>
        have named := names.mp ⟨all, collected⟩
        simp only [collected, bind, Except.bind, pure, Except.pure, Except.ok.injEq]
        constructor
        · rintro rfl
          exact ⟨second :: rest, rfl, fun _ => named⟩
        · rintro ⟨others, same, -⟩
          exact (List.cons.inj same).1

theorem findDpsContainer_error {daemon : Daemon} :
    (∃ err, daemon.findDpsContainer = .error (.error err)) ↔
      ∀ container others, daemon.containerList ≠ .ok (container :: others) := by
  unfold Daemon.findDpsContainer
  rcases daemon.containerList with err | _ | ⟨first, _ | ⟨second, rest⟩⟩
  · simp
  · simp
  · simp
  · refine iff_of_false ?_ fun none => none first (second :: rest) rfl
    rintro ⟨err, fails⟩
    cases collected : Daemon.toContainerNames (first :: second :: rest) with
    | ok all => simp [collected, bind, Except.bind, pure, Except.pure] at fails
    | error failure =>
        simp only [collected, bind, Except.bind] at fails
        cases fails
        obtain ⟨container, -, value⟩ := Traverse.exists_of_mapM_error collected
        split at value <;> cases value

theorem findDpsContainerIP_of_listed {daemon : Daemon} {container : Docker.Container}
    (listed : Listed daemon container) {inspect : NetworkedContainer}
    (inspected : daemon.containerInspect container.id = .ok inspect) :
    daemon.findDpsContainerIP = daemon.findBestIP inspect := by
  rw [Daemon.findDpsContainerIP, findDpsContainer_eq_ok.mpr listed]
  simp only [bind, Except.bind, inspected]

theorem findDpsContainerIP_of_not_inspected {daemon : Daemon} {container : Docker.Container}
    (listed : Listed daemon container) {err : GoString}
    (inspected : daemon.containerInspect container.id = .error err) :
    ∃ message, daemon.findDpsContainerIP = .error (.error message) := by
  rw [Daemon.findDpsContainerIP, findDpsContainer_eq_ok.mpr listed]
  simp only [bind, Except.bind, inspected]
  exact ⟨_, rfl⟩

theorem findDpsContainerIP_of_failure {daemon : Daemon} {failure : Failure}
    (fails : daemon.findDpsContainer = .error failure) :
    daemon.findDpsContainerIP = .error failure := by
  rw [Daemon.findDpsContainerIP, fails]
  rfl

theorem findDpsContainerIP_ok_iff {daemon : Daemon} :
    (∃ ip, daemon.findDpsContainerIP = .ok ip ∧ ip ≠ []) ↔
      ∃ inspect, DpsContainer daemon inspect ∧
        Docker.HasAddress daemon inspect [dpsNetwork, "bridge".toList] := by
  simp only [← Docker.findBestIpForNetworks_ne_nil_iff]
  constructor
  · rintro ⟨ip, found, present⟩
    cases first : daemon.findDpsContainer with
    | error failure =>
        rw [findDpsContainerIP_of_failure first] at found
        cases found
    | ok container =>
        have listed := findDpsContainer_eq_ok.mp first
        cases inspected : daemon.containerInspect container.id with
        | error err =>
            obtain ⟨message, fails⟩ := findDpsContainerIP_of_not_inspected listed inspected
            rw [fails] at found
            cases found
        | ok inspect =>
            rw [findDpsContainerIP_of_listed listed inspected] at found
            exact ⟨inspect, ⟨container, listed, inspected⟩, ip, found, present⟩
  · rintro ⟨inspect, ⟨container, listed, inspected⟩, ip, found, present⟩
    exact ⟨ip, (findDpsContainerIP_of_listed listed inspected).trans found, present⟩

theorem findDpsContainerIP_error_iff {daemon : Daemon} :
    (∃ err, daemon.findDpsContainerIP = .error (.error err)) ↔ NoDpsContainer daemon := by
  constructor
  · rintro ⟨err, fails⟩
    cases first : daemon.findDpsContainer with
    | error failure =>
        rw [findDpsContainerIP_of_failure first] at fails
        cases fails
        exact Or.inl (findDpsContainer_error.mp ⟨err, first⟩)
    | ok container =>
        have listed := findDpsContainer_eq_ok.mp first
        cases inspected : daemon.containerInspect container.id with
        | error err => exact Or.inr ⟨container, err, listed, inspected⟩
        | ok inspect =>
            rw [findDpsContainerIP_of_listed listed inspected] at fails
            obtain ⟨cause, same⟩ := findBestIpForNetworks_error fails
            cases same
  · rintro (none | ⟨container, err, listed, inspected⟩)
    · obtain ⟨err, fails⟩ := findDpsContainer_error.mpr none
      exact ⟨err, findDpsContainerIP_of_failure fails⟩
    · exact findDpsContainerIP_of_not_inspected listed inspected

/-- The one network of the name, as the daemon describes it. -/
def Named (daemon : Daemon) (name : GoString) (network : NetworkResource) : Prop :=
  daemon.networkList ("name=^".toList ++ name ++ "$".toList) = .ok [network]

theorem findNetworkGatewayIp_eq {daemon : Daemon} {name : GoString} {network : NetworkResource}
    (found : Named daemon name network) :
    daemon.findNetworkGatewayIp name = Daemon.getNetworkGatewayIp network := by
  have named : daemon.findNetworkByName name = .ok network :=
    Docker.findNetwork_eq_ok.mpr found
  rw [Daemon.findNetworkGatewayIp, named]

theorem findNetworkGatewayIp_of_absent {daemon : Daemon} {name : GoString}
    (absent : ∀ network, ¬ Named daemon name network) :
    ∃ err, daemon.findNetworkGatewayIp name = .error (.error err) := by
  rw [Daemon.findNetworkGatewayIp]
  cases named : daemon.findNetworkByName name with
  | error err => exact ⟨err, rfl⟩
  | ok network => exact absurd (Docker.findNetwork_eq_ok.mp named) (absent network)

/-- The gateway is that of the first configuration. -/
theorem getNetworkGatewayIp_ok_iff {network : NetworkResource} {P : GoString → Prop} :
    (∃ ip, Daemon.getNetworkGatewayIp network = .ok ip ∧ P ip) ↔
      ∃ config others, network.ipamConfig = config :: others ∧ P config.gateway := by
  unfold Daemon.getNetworkGatewayIp
  cases network.ipamConfig with
  | nil => simp
  | cons config others => simp

theorem getNetworkGatewayIp_ne_error {network : NetworkResource} {err : GoString} :
    Daemon.getNetworkGatewayIp network ≠ .error (.error err) := by
  unfold Daemon.getNetworkGatewayIp
  cases network.ipamConfig with
  | nil => simp
  | cons config others => simp

theorem findNetworkGatewayIp_ok_iff {daemon : Daemon} {name : GoString} {P : GoString → Prop} :
    (∃ ip, daemon.findNetworkGatewayIp name = .ok ip ∧ P ip) ↔
      ∃ network config others, Named daemon name network ∧
        network.ipamConfig = config :: others ∧ P config.gateway := by
  constructor
  · rintro ⟨ip, found, holds⟩
    by_cases absent : ∀ network, ¬ Named daemon name network
    · obtain ⟨err, fails⟩ := findNetworkGatewayIp_of_absent absent
      rw [fails] at found
      cases found
    · simp only [not_forall, not_not] at absent
      obtain ⟨network, named⟩ := absent
      rw [findNetworkGatewayIp_eq named] at found
      obtain ⟨config, others, configured, holds'⟩ :=
        getNetworkGatewayIp_ok_iff.mp ⟨ip, found, holds⟩
      exact ⟨network, config, others, named, configured, holds'⟩
  · rintro ⟨network, config, others, named, configured, holds⟩
    rw [findNetworkGatewayIp_eq named]
    exact getNetworkGatewayIp_ok_iff.mpr ⟨config, others, configured, holds⟩

theorem findNetworkGatewayIp_error_iff {daemon : Daemon} {name : GoString} :
    (∃ err, daemon.findNetworkGatewayIp name = .error (.error err)) ↔
      ∀ network, ¬ Named daemon name network := by
  refine ⟨?_, findNetworkGatewayIp_of_absent⟩
  rintro ⟨err, fails⟩ network named
  rw [findNetworkGatewayIp_eq named] at fails
  exact getNetworkGatewayIp_ne_error fails

theorem findDpsNetworkGatewayIp_ok_iff {daemon : Daemon} {P : GoString → Prop} :
    (∃ ip, daemon.findDpsNetworkGatewayIp = .ok ip ∧ P ip) ↔
      ∃ network config others, DpsNetwork daemon network ∧
        network.ipamConfig = config :: others ∧ P config.gateway :=
  findNetworkGatewayIp_ok_iff

theorem findDpsNetworkGatewayIp_error_iff {daemon : Daemon} :
    (∃ err, daemon.findDpsNetworkGatewayIp = .error (.error err)) ↔
      ∀ network, ¬ DpsNetwork daemon network :=
  findNetworkGatewayIp_error_iff

/-! ### All sources -/

theorem reports_getDpsIP_iff {cli : Option Daemon} {interfaceAddrs : InterfaceAddrs} :
    Reports (getDpsIP cli interfaceAddrs) ↔ Addressed cli interfaceAddrs := by
  cases cli with
  | none =>
      rw [getDpsIP, reports_getCurrentIpAddress_iff]
      constructor
      · exact fun address => .machine (fun _ none => by cases none) address
      · rintro (_ | _ | ⟨-, address⟩)
        exact address
  | some daemon =>
      rw [getDpsIP, reports_orElse_iff, reports_orElse_iff, findDpsContainerIP_ok_iff,
        findDpsContainerIP_error_iff, findDpsNetworkGatewayIp_ok_iff,
        findDpsNetworkGatewayIp_error_iff, reports_getCurrentIpAddress_iff]
      constructor
      · rintro (⟨inspect, found, address⟩ | ⟨absent, gateway | ⟨noNetwork, address⟩⟩)
        · exact .container found address
        · obtain ⟨network, config, others, found, configured, address⟩ := gateway
          exact .gateway absent found configured address
        · refine .machine (fun daemon' same => ?_) address
          cases same
          exact ⟨absent, noNetwork⟩
      · rintro (⟨found, address⟩ | ⟨absent, found, configured, address⟩ | ⟨absent, address⟩)
        · exact Or.inl ⟨_, found, address⟩
        · exact Or.inr ⟨absent, Or.inl ⟨_, _, _, found, configured, address⟩⟩
        · exact Or.inr ⟨(absent daemon rfl).1, Or.inr ⟨(absent daemon rfl).2, address⟩⟩

/-! ### The entry in the file -/

theorem length_getDNSLine (ip : GoString) :
    (getDNSLine ip).length = (getDNSLine []).length + ip.length := by
  unfold getDNSLine
  generalize "nameserver ".toList = before
  generalize " # dps-entry".toList = after
  simp only [List.length_append, List.length_nil]
  omega

/-- An address makes the file longer for each of the entries, of which there is at least
one. -/
theorem length_setLines (lines : List GoString) :
    ∃ entries, 0 < entries ∧ ∀ ip, (unlines '\n' (setLines ip lines)).length =
      (unlines '\n' (setLines [] lines)).length + entries * ip.length := by
  have mapped : ∃ entries, (lines.any (getDnsEntryType · == .proxy) = true → 0 < entries) ∧
      ∀ ip, (unlines '\n' (lines.map (setLine ip))).length =
        (unlines '\n' (lines.map (setLine []))).length + entries * ip.length := by
    induction lines with
    | nil => exact ⟨0, by simp, by simp⟩
    | cons line lines inductionHypothesis =>
        obtain ⟨entries, some, lengths⟩ := inductionHypothesis
        by_cases proxy : getDnsEntryType line = .proxy
        · refine ⟨entries + 1, fun _ => Nat.succ_pos _, fun ip => ?_⟩
          simp only [List.map_cons, Occurrence.unlines_cons, List.length_append, List.length_cons,
            setLine_of_proxy proxy, length_getDNSLine ip, lengths ip, Nat.add_mul, Nat.one_mul]
          omega
        · refine ⟨entries, fun found => some (by simpa [proxy] using found), fun ip => ?_⟩
          have same : setLine ip line = setLine [] line := by
            unfold setLine
            split <;> first | rfl | exact absurd ‹_› proxy
          simp only [List.map_cons, Occurrence.unlines_cons, List.length_append, List.length_cons,
            same, lengths ip]
          omega
  obtain ⟨entries, some, lengths⟩ := mapped
  have append : ∀ first second : List GoString,
      (unlines '\n' (first ++ second)).length =
        (unlines '\n' first).length + (unlines '\n' second).length := by
    intro first second
    rw [unlines, List.flatMap_append, List.length_append]
    rfl
  cases found : lines.any (getDnsEntryType · == .proxy) with
  | true =>
      refine ⟨entries, some found, fun ip => ?_⟩
      simp [setLines, found, lengths ip]
  | false =>
      refine ⟨entries + 1, Nat.succ_pos _, fun ip => ?_⟩
      simp only [setLines, found, Bool.false_eq_true, if_false, append, Occurrence.unlines_cons,
        Occurrence.unlines_nil, List.length_append, List.length_cons, List.length_nil,
        length_getDNSLine ip, lengths ip, Nat.add_mul, Nat.one_mul]
      omega

/-- The entry of one address is not the entry of none. -/
theorem ne_nil_of_setMachineDnsServer_eq {ip ip' content : GoString} (present : ip ≠ [])
    (same : setMachineDnsServer ip content = setMachineDnsServer ip' content) : ip' ≠ [] := by
  rintro rfl
  rw [setMachineDnsServer_eq_setLines, setMachineDnsServer_eq_setLines] at same
  obtain ⟨entries, some, lengths⟩ := length_setLines (scanLines content)
  have length := lengths ip
  rw [Except.ok.inj same] at length
  have longer := Nat.mul_pos some (List.length_pos_of_ne_nil present)
  omega

/-- The call enters an address into the file or returns an error and leaves the file, if
and only if the first source that does not report its absence has an address. -/
theorem enters_address_iff (cli : Option Daemon) (interfaceAddrs : InterfaceAddrs)
    (content : GoString) :
    EntersAddress cli interfaceAddrs content ↔ Addressed cli interfaceAddrs := by
  rw [← reports_getDpsIP_iff]
  unfold EntersAddress setCurrentDnsServerToMachine Reports
  cases found : getDpsIP cli interfaceAddrs with
  | error failure => cases failure <;> simp
  | ok ip =>
      have written := setMachineDnsServer_eq_setLines ip content
      simp only [written, Except.ok.injEq, reduceCtorEq, exists_false, or_false,
        exists_eq_left']
      constructor
      · rintro ⟨ip', present, same⟩
        exact ne_nil_of_setMachineDnsServer_eq present (same.trans written.symm)
      · exact fun present => ⟨ip, present, written⟩

/-- Without docker and without a network, the nameservers are replaced by an empty one. -/
theorem loopback_only_machine_gets_empty_nameserver :
    setCurrentDnsServerToMachine none (.ok ["127.0.0.1/8".toList])
        "nameserver 8.8.8.8\n".toList =
      (none, "# nameserver 8.8.8.8 # dps-comment\nnameserver  # dps-entry\n".toList) ∧
    ¬ EntersAddress none (.ok ["127.0.0.1/8".toList]) "nameserver 8.8.8.8\n".toList := by
  have result : setCurrentDnsServerToMachine none (.ok ["127.0.0.1/8".toList])
        "nameserver 8.8.8.8\n".toList =
      (none, "# nameserver 8.8.8.8 # dps-comment\nnameserver  # dps-entry\n".toList) := by
    decide
  refine ⟨result, fun enters => ?_⟩
  rw [EntersAddress, result] at enters
  obtain ⟨ip, present, written⟩ := enters
  have empty : setMachineDnsServer [] "nameserver 8.8.8.8\n".toList =
      .ok "# nameserver 8.8.8.8 # dps-comment\nnameserver  # dps-entry\n".toList := by decide
  exact ne_nil_of_setMachineDnsServer_eq present (written.trans empty.symm) rfl

end DnsProxyServer.ResolvConf
