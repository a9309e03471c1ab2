/-
Module: DnsProxyServer.Proxy.AcceptedAddresses
Purpose: Which addresses of a version 2 file are answered and shown with the octets they
  write, when the file is loaded without a look at them.
Trusted boundary: none
Main exports: Numbers, toIpByteArray_isOk_iff, GivesOctets, UsableEverywhere, WellAddressed,
  usable_everywhere_iff, unchecked_address_is_truncated
-/
import DnsProxyServer.Local.AddressCodec
import DnsProxyServer.Local.RestView
import DnsProxyServer.Proxy.AddressSolvers
import DnsProxyServer.Proxy.LocalSolver

namespace DnsProxyServer.Proxy

open Local
open LoadStore (Access)

/-! ### Texts that are read as bytes -/

/-- Blank, or at most four numbers before the first colon. -/
def Numbers (ip : GoString) : Prop :=
  trimSpaceEmpty ip = true ∨
    (split (ip.takeWhile (· != ':')) '.').length ≤ 4 ∧
      ∀ piece ∈ split (ip.takeWhile (· != ':')) '.', (atoi piece).isSome = true

theorem set_isOk_iff {byteArray : IpArray} {j : ℕ} {value : UInt8} :
    (∃ written, byteArray.set j value = .ok written) ↔ j < 4 := by
  match j with
  | 0 | 1 | 2 | 3 => exact iff_of_true ⟨_, rfl⟩ (by omega)
  | j + 4 => exact iff_of_false (by simp [IpArray.set]) (by omega)

theorem fillIpByteArray_isOk_iff {pieces : List GoString} :
    ∀ {byteArray : IpArray} {j : ℕ}, j ≤ 4 →
      ((∃ bytes, fillIpByteArray byteArray j pieces = .ok bytes) ↔
        j + pieces.length ≤ 4 ∧ ∀ piece ∈ pieces, (atoi piece).isSome = true) := by
  induction pieces with
  | nil =>
      intro byteArray j inside
      exact iff_of_true ⟨byteArray, rfl⟩ ⟨by simpa using inside, by simp⟩
  | cons piece rest inductionHypothesis =>
      intro byteArray j inside
      rw [fillIpByteArray, List.forall_mem_cons, List.length_cons]
      cases parsed : atoi piece with
      | none => exact iff_of_false (by simp) (by simp)
      | some value =>
          cases written : byteArray.set j (toByte value) with
          | error failure =>
              have outside : ¬ j < 4 := fun within => by
                obtain ⟨next, ok⟩ := set_isOk_iff.mpr within
                cases written.symm.trans ok
              refine iff_of_false (by simp [written, bind, Except.bind]) ?_
              rintro ⟨short, -⟩
              omega
          | ok next =>
              have within := set_isOk_iff.mp ⟨next, written⟩
              simp only [written, bind, Except.bind, Option.isSome_some, true_and]
              rw [@inductionHypothesis next _ within]
              refine and_congr_left fun _ => ?_
              omega

theorem toIpByteArray_isOk_iff {ip : GoString} :
    (∃ bytes, toIpByteArray {} ip = .ok bytes) ↔ Numbers ip := by
  have read : ∀ {address : GoString}, (∃ bytes, fillIpByteArray {} 0 (split address '.') =
      .ok bytes) ↔ (split address '.').length ≤ 4 ∧
        ∀ piece ∈ split address '.', (atoi piece).isSome = true := by
    intro address
    rw [fillIpByteArray_isOk_iff (Nat.zero_le 4), Nat.zero_add]
  unfold Numbers toIpByteArray
  cases blank : trimSpaceEmpty ip with
  | true => simp
  | false =>
      simp only [Bool.false_eq_true, if_false, false_or]
      cases found : index ip ":".toList with
      | none =>
          rw [Occurrence.takeWhile_of_index?_singleton_eq_none (c := ':') found]
          exact read
      | some i =>
          rw [← Occurrence.take_of_index?_singleton (c := ':') found]
          exact read

/-! ### One env -/

/-- The record at a place of an env is answered and shown with the octets it writes. -/
structure GivesOctets (env : Env) (i : ℕ) (host : Hostname) (bytes : IpArray) : Prop where
  written : QuadOf host.ip bytes
  answered : ∀ question, getAMsg question host = .ok {
    answer := [.a
      { name := question.name, rrtype := typeA, rrclass := classINET,
        ttl := toUInt32 host.ttl }
      bytes] }
  shown : ∃ views view, Vo.fromHostnames env.name env.hostnames = .ok views ∧
    views[i]? = some view ∧ view.ip = bytes

/-- Every record of type A of the env. -/
def GivesAllOctets (env : Env) : Prop :=
  ∀ i host, env.hostnames[i]? = some host → host.type = EntryType.A →
    ∃ bytes, GivesOctets env i host bytes

/-- Addresses with the types of their records: those of type A are dotted quads with octets
of at most 255, and beside one of these all can be read. -/
structure WellAddressed (addresses : List (EntryType × GoString)) : Prop where
  quads : ∀ address ∈ addresses, address.1 = EntryType.A → ∃ bytes, QuadOf address.2 bytes
  numbers : (∃ address ∈ addresses, address.1 = EntryType.A) →
    ∀ address ∈ addresses, Numbers address.2

def addresses (env : Env) : List (EntryType × GoString) :=
  env.hostnames.map fun host => (host.type, host.ip)

theorem fromHostname_isOk_iff {env : GoString} {host : Hostname} :
    (∃ view, Vo.fromHostname env host = .ok view) ↔ Numbers host.ip := by
  rw [← toIpByteArray_isOk_iff, Vo.fromHostname]
  cases toIpByteArray {} host.ip with
  | error failure => simp [bind, Except.bind]
  | ok bytes => simp [bind, Except.bind, pure, Except.pure]

theorem ip_of_fromHostname {env : GoString} {host : Hostname} {bytes : IpArray}
    (quad : QuadOf host.ip bytes) {view : Vo.HostnameV1}
    (shown : Vo.fromHostname env host = .ok view) : view.ip = bytes := by
  rw [Vo.fromHostname, toIpByteArray_of_quadOf quad] at shown
  cases shown
  rfl

theorem getAMsg_of_quadOf {host : Hostname} {bytes : IpArray} (quad : QuadOf host.ip bytes)
    (question : Question) : getAMsg question host = .ok {
      answer := [.a
        { name := question.name, rrtype := typeA, rrclass := classINET,
          ttl := toUInt32 host.ttl }
        bytes] } := by
  rw [getAMsg, toIpByteArray_of_quadOf quad]
  rfl

/-- One record whose address cannot be read is enough for the whole env not to be shown. -/
theorem givesAllOctets_iff {env : Env} : GivesAllOctets env ↔ WellAddressed (addresses env) := by
  constructor
  · intro answers
    have each : ∀ host ∈ env.hostnames, host.type = EntryType.A →
        ∃ i bytes, GivesOctets env i host bytes := by
      intro host member address
      obtain ⟨i, inside⟩ := List.mem_iff_getElem?.mp member
      obtain ⟨bytes, found⟩ := answers i host inside address
      exact ⟨i, bytes, found⟩
    constructor
    · intro entry member address
      obtain ⟨host, hostMember, rfl⟩ := List.mem_map.mp member
      obtain ⟨i, bytes, found⟩ := each host hostMember address
      exact ⟨bytes, found.written⟩
    · rintro ⟨entry, member, address⟩ other otherMember
      obtain ⟨host, hostMember, rfl⟩ := List.mem_map.mp member
      obtain ⟨host', hostMember', rfl⟩ := List.mem_map.mp otherMember
      obtain ⟨i, bytes, found⟩ := each host hostMember address
      obtain ⟨views, view, shown, -⟩ := found.shown
      exact fromHostname_isOk_iff.mp
        (Traverse.exists_mapM_eq_ok_iff.mp ⟨views, shown⟩ host' hostMember')
  · rintro ⟨quads, numbers⟩ i host inside address
    have member := List.mem_of_getElem? inside
    have listed : ∀ host ∈ env.hostnames, (host.type, host.ip) ∈ addresses env :=
      fun _ => List.mem_map_of_mem
    obtain ⟨bytes, quad⟩ := quads _ (listed host member) address
    have readable : ∀ host' ∈ env.hostnames,
        ∃ view, Vo.fromHostname env.name host' = .ok view := fun host' member' =>
      fromHostname_isOk_iff.mpr
        (numbers ⟨_, listed host member, address⟩ _ (listed host' member'))
    obtain ⟨views, shown⟩ := Traverse.exists_mapM_eq_ok_iff.mpr readable
    obtain ⟨view, at', value⟩ :=
      Traverse.exists_getElem?_of_forall₂ (Traverse.mapM_eq_ok_iff.mp shown) inside
    exact ⟨bytes, quad, getAMsg_of_quadOf quad, views, view, shown, at',
      ip_of_fromHostname quad value⟩

/-- The pieces of a dotted quad are its octets. -/
theorem octets_of_quadOf {ip : GoString} {bytes : IpArray} (quad : QuadOf ip bytes) :
    (split ip '.').map parseDigits = [some bytes.b0.toNat, some bytes.b1.toNat,
      some bytes.b2.toNat, some bytes.b3.toNat] := by
  obtain ⟨d0, d1, d2, d3, rfl, ⟨digits0, value0⟩, ⟨digits1, value1⟩, ⟨digits2, value2⟩, digits3,
    value3⟩ := quad
  rw [DottedQuad.split_eq digits0 digits1 digits2 digits3]
  simp only [List.map_cons, List.map_nil, value0, value1, value2, value3]

/-! ### The file -/

theorem setIds_map {β : Type} {f : Hostname → β}
    (keeps : ∀ (host : Hostname) id, f { host with id := id } = f host) (clock : Clock)
    (hosts : List Hostname) : ∀ n, (setIds clock n hosts).1.map f = hosts.map f := by
  induction hosts with
  | nil => exact fun _ => rfl
  | cons host rest inductionHypothesis =>
      intro n
      rw [setIds]
      split_ifs
      · rw [List.map_cons, List.map_cons, inductionHypothesis, keeps]
      · rw [List.map_cons, List.map_cons, inductionHypothesis]

theorem setEnvIds_addresses (clock : Clock) (envs : List Env) :
    ∀ n, (setEnvIds clock n envs).1.map addresses = envs.map addresses := by
  induction envs with
  | nil => exact fun _ => rfl
  | cons env rest inductionHypothesis =>
      intro n
      have same := setIds_map (f := fun host => (host.type, host.ip)) (fun _ _ => rfl) clock
        env.hostnames n
      simp only [setEnvIds, List.map_cons, inductionHypothesis, addresses, same]

/-- Loading fills in ids; it looks at no address. -/
theorem wellAddressed_of_load {d : Document} {c₀ : Configuration}
    (read : loadVersionedConfiguration d = .ok c₀) (clock : Clock) :
    ∃ c, (loadConfiguration clock (.document d)).result = .ok c ∧
      ((∀ env ∈ c.envs, WellAddressed (addresses env)) ↔
        ∀ env ∈ c₀.envs, WellAddressed (addresses env)) := by
  refine ⟨_, loadConfiguration_document read clock, ?_⟩
  have listed : ∀ envs : List Env, (∀ env ∈ envs, WellAddressed (addresses env)) ↔
      ∀ entries ∈ envs.map addresses, WellAddressed entries := fun envs =>
    List.forall_mem_map.symm
  rw [listed, setEnvIds_addresses, ← listed]

def addressesV2 (env : StorageV2.EnvV2) : List (EntryType × GoString) :=
  env.hostnames.map fun host => (host.type, host.ip)

theorem wellAddressed_of_toConfig {v2 : StorageV2.ConfigurationV2} {c : Configuration}
    (converted : v2.toConfig = .ok c) :
    (∀ env ∈ c.envs, WellAddressed (addresses env)) ↔
      ∀ env ∈ v2.envs, WellAddressed (addressesV2 env) := by
  have same : ∀ env : StorageV2.EnvV2, addresses
      { name := env.name, hostnames := env.hostnames.map StorageV2.fillHostname } =
        addressesV2 env := by
    intro env
    simp only [addresses, addressesV2, List.map_map]
    rfl
  simp only [(StorageV2.of_toConfig converted).2.2, StorageV2.toEnvs, List.forall_mem_map, same]

/-- A server text of the file has no address in it. -/
def UnreadableServer (v2 : StorageV2.ConfigurationV2) : Prop :=
  ∃ text ∈ v2.remoteDnsServers, ∀ quad, DottedQuad quad → ¬ quad <:+: text

theorem toConfig_isOk_iff {v2 : StorageV2.ConfigurationV2} :
    (∃ c, v2.toConfig = .ok c) ↔ ¬ UnreadableServer v2 := by
  simp only [StorageV2.exists_toConfig_iff, UnreadableServer, toDnsServer_isOk_iff, not_exists,
    not_and, not_forall, not_not, exists_prop]

/-- In whatever the file is loaded as, every record of type A is answered and shown with the
octets it writes. -/
def UsableEverywhere (v2 : StorageV2.ConfigurationV2) : Prop :=
  ∀ clock c, (loadConfiguration clock (.document (.v2 v2))).result = .ok c →
    ∀ env ∈ c.envs, GivesAllOctets env

/-- Accepted addresses are usable if and only if nothing is accepted, because of a server,
or the addresses were well written to begin with. -/
theorem usable_everywhere_iff (v2 : StorageV2.ConfigurationV2) :
    UsableEverywhere v2 ↔
      UnreadableServer v2 ∨ ∀ env ∈ v2.envs, WellAddressed (addressesV2 env) := by
  unfold UsableEverywhere
  simp only [givesAllOctets_iff]
  by_cases readable : ∃ c₀, v2.toConfig = .ok c₀
  · obtain ⟨c₀, converted⟩ := readable
    have read : loadVersionedConfiguration (.v2 v2) = .ok c₀ := converted
    have accepted : ¬ UnreadableServer v2 := toConfig_isOk_iff.mp ⟨c₀, converted⟩
    rw [or_iff_right accepted, ← wellAddressed_of_toConfig converted]
    constructor
    · intro usable
      obtain ⟨c, loaded, same⟩ := wellAddressed_of_load read stillClock
      exact same.mp (usable stillClock c loaded)
    · intro well clock c loaded
      obtain ⟨c', loaded', same⟩ := wellAddressed_of_load read clock
      cases loaded'.symm.trans loaded
      exact same.mpr well
  · have refused : UnreadableServer v2 := by
      by_contra accepted
      exact readable (toConfig_isOk_iff.mpr accepted)
    refine iff_of_true (fun clock c loaded => ?_) (Or.inl refused)
    obtain ⟨c₀, read, -⟩ := loadConfiguration_document_eq_ok loaded
    exact absurd ⟨c₀, read⟩ readable

/-- A version 2 file with one record of type A. -/
def fileWithAddress (ip : GoString) : StorageV2.ConfigurationV2 where
  version := 2
  remoteDnsServers := []
  envs := [{
    name := []
    hostnames := [{
      id := 1, hostname := "a.com".toList, ip := ip, target := [], ttl := 60,
      type := EntryType.A }] }]
  activeEnv := []
  webServerPort := 0
  dnsServerPort := 0
  defaultDns := none
  logLevel := []
  logFile := []
  registerContainerNames := none
  hostMachineHostname := []
  domain := []
  dpsNetwork := none
  dpsNetworkAutoConnect := none

/-- The question for that record. -/
def recordQuestion : Question where
  name := "a.com.".toList
  qtype := typeA
  qclass := classINET

/-- An octet of 300 is answered as 44, and a fifth part ends in a panic. -/
theorem unchecked_address_is_truncated :
    (∃ msg, (localSolve recordQuestion (fun _ => stillClock)
        (.document (.v2 (fileWithAddress "300.1.1.1".toList)))).result = .ok msg ∧
      msg.answer = [.a
        { name := "a.com.".toList, rrtype := typeA, rrclass := classINET, ttl := 60 }
        { b0 := 44, b1 := 1, b2 := 1, b3 := 1 }]) ∧
    (localSolve recordQuestion (fun _ => stillClock)
        (.document (.v2 (fileWithAddress "1.2.3.4.5".toList)))).result =
      .error (.panic .indexOutOfRange) ∧
    ¬ UsableEverywhere (fileWithAddress "300.1.1.1".toList) ∧
    ¬ UsableEverywhere (fileWithAddress "1.2.3.4.5".toList) := by
  refine ⟨⟨_, rfl, rfl⟩, rfl, fun usable => ?_, fun usable => ?_⟩
  · obtain ⟨bytes, answers⟩ := usable stillClock _ rfl _ (List.Mem.head _) 0 _ rfl rfl
    have octets := octets_of_quadOf answers.written
    have first : (split "300.1.1.1".toList '.').map parseDigits =
        [some 300, some 1, some 1, some 1] := by decide
    have small : bytes.b0.toNat < 256 := bytes.b0.toNat_lt
    have same : 300 = bytes.b0.toNat :=
      Option.some.inj (List.cons.inj (first.symm.trans octets)).1
    omega
  · obtain ⟨bytes, answers⟩ := usable stillClock _ rfl _ (List.Mem.head _) 0 _ rfl rfl
    cases answers.answered recordQuestion

end DnsProxyServer.Proxy
