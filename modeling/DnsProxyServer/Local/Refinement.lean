/-
Module: DnsProxyServer.Local.Refinement
Purpose: The file-backed store refines the abstract store: from a loaded
  configuration on, every request has the outcome and the effect of the abstract
  operation, over runs of any length and in both storage versions.
Trusted boundary: none
Main exports: Settled, Represents, represents_of_load, perform_refines,
  Request.observe, store_refines_abstract
-/
import DnsProxyServer.Local.Abstract

namespace DnsProxyServer.Local

open LoadStore (Access after)
open Abstract (AllHosts Introduces replenish)

/-- One of the two formats can hold the configuration. -/
def Storable (c : Configuration) : Prop := StorableV1 c ∨ StorableV2 c

/-- What loading establishes: the configuration can be stored, and no record is
without an id. -/
structure Settled (c : Configuration) : Prop where
  storable : Storable c
  identified : AllHosts (fun host => host.id ≠ 0) c

/-- The file holds a settled configuration. -/
def Represents (file : ConfFile) (c : Configuration) : Prop :=
  Settled c ∧ ∃ d, file = .document d ∧ loadVersionedConfiguration d = .ok c

/-! ### Saving -/

theorem Storable.of_settings {c c' : Configuration} (storable : Storable c)
    (settings : c' = { c with envs := c'.envs, activeEnv := c'.activeEnv })
    (addresses : AllHosts (fun host => ByteAddress host.ip) c → StorableV1 c →
      AllHosts (fun host => ByteAddress host.ip) c') : Storable c' := by
  rcases storable with v1 | v2
  · refine Or.inl ⟨?_, addresses v1.addresses v1, ?_, ?_, ?_⟩
    · rw [settings]; exact v1.version
    · rw [settings]; exact v1.servers
    · rw [settings]; exact v1.dpsNetwork
    · rw [settings]; exact v1.dpsNetworkAutoConnect
  · refine Or.inr ⟨?_, ?_⟩
    · rw [settings]; exact v2.version
    · rw [settings]; exact v2.servers

theorem Storable.replenish {c : Configuration} (storable : Storable c) :
    Storable (replenish c) := by
  refine storable.of_settings ?_ fun addresses _ => Abstract.allHosts_replenish addresses
  unfold Abstract.replenish
  split_ifs <;> rfl

/-- What is written reads back, in the version of the configuration. -/
theorem confVO_of_storable {c : Configuration} (storable : Storable c) :
    ∃ d, confVO c = .ok d ∧ loadVersionedConfiguration d = .ok c := by
  rcases storable with v1 | v2
  · obtain ⟨vo, written, back⟩ := StorageV1.toConfig_valueOf v1
    refine ⟨.v1 vo, ?_, back⟩
    simp [confVO, v1.version, written, Except.map]
  · refine ⟨.v2 (StorageV2.valueOf c), ?_, StorageV2.toConfig_valueOf v2⟩
    simp [confVO, v2.version]

theorem saveConfiguration_of_storable {c : Configuration} (storable : Storable c) :
    ∃ d, saveConfiguration c = .save (.document d) (replenish c) ∧
      loadVersionedConfiguration d = .ok (replenish c) := by
  obtain ⟨d, written, back⟩ := confVO_of_storable storable.replenish
  refine ⟨d, ?_, back⟩
  simp only [saveConfiguration, withEnvs_eq, written]

/-! ### Filling in ids -/

/-- Filling in ids changes nothing else, so it keeps what does not speak of ids. -/
theorem setIds_forall {P : Hostname → Prop} (clock : Clock)
    (kept : ∀ host n, P host → P { host with id := clock.reading n }) (hosts : List Hostname) :
    ∀ n, (∀ host ∈ hosts, P host) → ∀ host ∈ (setIds clock n hosts).1, P host := by
  induction hosts with
  | nil => simp [setIds]
  | cons host rest inductionHypothesis =>
      intro n all
      have head : P host := all host (by simp)
      have tail : ∀ h ∈ rest, P h := fun h member => all h (by simp [member])
      rw [setIds]
      split_ifs
      · intro h member
        rcases List.mem_cons.mp member with rfl | later
        · exact kept host n head
        · exact inductionHypothesis (n + 1) tail h later
      · intro h member
        rcases List.mem_cons.mp member with rfl | later
        · exact head
        · exact inductionHypothesis n tail h later

theorem setIds_identified (clock : Clock) (hosts : List Hostname) :
    ∀ n, ∀ host ∈ (setIds clock n hosts).1, host.id ≠ 0 := by
  induction hosts with
  | nil => simp [setIds]
  | cons host rest inductionHypothesis =>
      intro n
      rw [setIds]
      split_ifs with unset
      · intro h member
        rcases List.mem_cons.mp member with rfl | later
        · exact Int.ne_of_gt (clock.positive n)
        · exact inductionHypothesis (n + 1) h later
      · intro h member
        rcases List.mem_cons.mp member with rfl | later
        · exact unset
        · exact inductionHypothesis n h later

/-- No reading is used exactly when every record has an id, and then nothing changes. -/
theorem setIds_used (clock : Clock) (hosts : List Hostname) :
    ∀ n, n ≤ (setIds clock n hosts).2 ∧
      ((setIds clock n hosts).2 = n → (setIds clock n hosts).1 = hosts) := by
  induction hosts with
  | nil => simp [setIds]
  | cons host rest inductionHypothesis =>
      intro n
      rw [setIds]
      split_ifs
      · have later := (inductionHypothesis (n + 1)).1
        exact ⟨by simp only; omega, fun used => by simp only at used; omega⟩
      · obtain ⟨le, same⟩ := inductionHypothesis n
        exact ⟨le, fun used => by simp only [same used]⟩

theorem setIds_of_identified (clock : Clock) {hosts : List Hostname}
    (identified : ∀ host ∈ hosts, host.id ≠ 0) :
    ∀ n, setIds clock n hosts = (hosts, n) := by
  induction hosts with
  | nil => simp [setIds]
  | cons host rest inductionHypothesis =>
      intro n
      rw [setIds, if_neg (identified host (by simp)),
        inductionHypothesis (fun h member => identified h (by simp [member])) n]

theorem setEnvIds_forall {P : Hostname → Prop} (clock : Clock)
    (holds : ∀ env : Env, ∀ n, (∀ host ∈ env.hostnames, P host) →
      ∀ host ∈ (setIds clock n env.hostnames).1, P host) (envs : List Env) :
    ∀ n, (∀ env ∈ envs, ∀ host ∈ env.hostnames, P host) →
      ∀ env ∈ (setEnvIds clock n envs).1, ∀ host ∈ env.hostnames, P host := by
  induction envs with
  | nil => simp [setEnvIds]
  | cons env rest inductionHypothesis =>
      intro n all e member
      rcases List.mem_cons.mp member with rfl | later
      · exact holds env n (all env (by simp))
      · exact inductionHypothesis _ (fun e' inRest => all e' (by simp [inRest])) e later

theorem setEnvIds_identified (clock : Clock) (envs : List Env) :
    ∀ n, ∀ env ∈ (setEnvIds clock n envs).1, ∀ host ∈ env.hostnames, host.id ≠ 0 := by
  induction envs with
  | nil => simp [setEnvIds]
  | cons env rest inductionHypothesis =>
      intro n e member
      rcases List.mem_cons.mp member with rfl | later
      · exact setIds_identified clock env.hostnames n
      · exact inductionHypothesis _ e later

theorem setEnvIds_used (clock : Clock) (envs : List Env) :
    ∀ n, n ≤ (setEnvIds clock n envs).2 ∧
      ((setEnvIds clock n envs).2 = n → (setEnvIds clock n envs).1 = envs) := by
  induction envs with
  | nil => simp [setEnvIds]
  | cons env rest inductionHypothesis =>
      intro n
      obtain ⟨le, same⟩ := setIds_used clock env.hostnames n
      obtain ⟨leRest, sameRest⟩ := inductionHypothesis (setIds clock n env.hostnames).2
      refine ⟨le.trans leRest, fun used => ?_⟩
      have unused : (setIds clock n env.hostnames).2 = n :=
        Nat.le_antisymm (by simp only [setEnvIds] at used; omega) le
      have unusedRest : (setEnvIds clock (setIds clock n env.hostnames).2 rest).2 =
          (setIds clock n env.hostnames).2 := by
        rw [unused] at leRest ⊢
        simpa [setEnvIds, unused] using used
      simp only [setEnvIds, same unused, sameRest unusedRest]

theorem setEnvIds_of_identified (clock : Clock) {envs : List Env}
    (identified : ∀ env ∈ envs, ∀ host ∈ env.hostnames, host.id ≠ 0) :
    ∀ n, setEnvIds clock n envs = (envs, n) := by
  induction envs with
  | nil => simp [setEnvIds]
  | cons env rest inductionHypothesis =>
      intro n
      rw [setEnvIds, setIds_of_identified clock (identified env (by simp)) n]
      simp only [inductionHypothesis (fun e member => identified e (by simp [member])) n]

/-! ### Loading -/

theorem storable_of_loadVersionedConfiguration {d : Document} {c : Configuration}
    (loaded : loadVersionedConfiguration d = .ok c) : Storable c := by
  cases d with
  | v1 vo => exact Or.inl (StorageV1.storable_of_toConfig loaded)
  | v2 vo => exact Or.inr (StorageV2.storable_of_toConfig loaded)

/-- A settled configuration is loaded without a save. -/
theorem loadConfiguration_of_represents {file : ConfFile} {c : Configuration}
    (represents : Represents file c) (clock : Clock) :
    loadConfiguration clock file = .ofExcept (.ok c) := by
  obtain ⟨settled, d, rfl, loaded⟩ := represents
  simp only [loadConfiguration, loaded, setHostnameIds,
    setEnvIds_of_identified clock settled.identified 0]
  rfl

/-- A saved configuration is represented, once its records have ids. -/
theorem represents_of_save {c : Configuration} (storable : Storable c)
    (identified : AllHosts (fun host => host.id ≠ 0) c) :
    ∃ d, saveConfiguration c = .save (.document d) (replenish c) ∧
      Represents (.document d) (replenish c) := by
  obtain ⟨d, saved, back⟩ := saveConfiguration_of_storable storable
  exact ⟨d, saved, ⟨storable.replenish, Abstract.allHosts_replenish identified⟩, d, rfl, back⟩

theorem settled_setEnvIds {c : Configuration} (storable : Storable c) (clock : Clock) :
    Settled { c with envs := (setEnvIds clock 0 c.envs).1 } where
  storable := storable.of_settings rfl fun addresses _ =>
    setEnvIds_forall clock (fun env => setIds_forall clock (fun _ _ holds => holds) env.hostnames)
      c.envs 0 addresses
  identified := setEnvIds_identified clock c.envs 0

/-- Where a reading was used there is an env, so that the save adds none. -/
theorem replenish_setEnvIds {c : Configuration} {clock : Clock}
    (used : (setEnvIds clock 0 c.envs).2 ≠ 0) :
    replenish { c with envs := (setEnvIds clock 0 c.envs).1 } =
      { c with envs := (setEnvIds clock 0 c.envs).1 } := by
  refine if_neg fun none => used ?_
  cases envs : c.envs with
  | nil => rfl
  | cons env rest =>
      rw [envs] at none
      cases none

/-- Filling in ids does not fail, and does nothing else. -/
theorem setHostnameIds_result {c : Configuration} (storable : Storable c) (clock : Clock) :
    (setHostnameIds clock c).result = .ok { c with envs := (setEnvIds clock 0 c.envs).1 } := by
  simp only [setHostnameIds]
  split_ifs with used
  · obtain ⟨d, saved, -⟩ :=
      saveConfiguration_of_storable (settled_setEnvIds storable clock).storable
    rw [saved, replenish_setEnvIds used]
    rfl
  · rfl

theorem loadConfiguration_document {d : Document} {c : Configuration}
    (read : loadVersionedConfiguration d = .ok c) (clock : Clock) :
    (loadConfiguration clock (.document d)).result =
      .ok { c with envs := (setEnvIds clock 0 c.envs).1 } := by
  simp only [loadConfiguration, read]
  exact setHostnameIds_result (storable_of_loadVersionedConfiguration read) clock

theorem loadConfiguration_document_eq_ok {d : Document} {clock : Clock} {c : Configuration}
    (loaded : (loadConfiguration clock (.document d)).result = .ok c) :
    ∃ c₀, loadVersionedConfiguration d = .ok c₀ ∧
      c = { c₀ with envs := (setEnvIds clock 0 c₀.envs).1 } := by
  cases read : loadVersionedConfiguration d with
  | error failure => simp [loadConfiguration, read, Access.ofExcept] at loaded
  | ok c₀ =>
      rw [loadConfiguration_document read] at loaded
      exact ⟨c₀, rfl, (Except.ok.inj loaded).symm⟩

/-- Whatever the file held, after a successful load it represents what was loaded. -/
theorem represents_of_load {clock : Clock} {file : ConfFile} {c : Configuration}
    (loaded : (loadConfiguration clock file).result = .ok c) :
    Represents (after file (loadConfiguration clock file).saves) c := by
  cases file with
  | missing =>
      have storable : Storable defaultConfig := Or.inr ⟨rfl, by simp [defaultConfig]⟩
      obtain ⟨d, saved, represents⟩ := represents_of_save storable
        (by simp [AllHosts, defaultConfig])
      simp only [loadConfiguration, storeDefaultConfig, saved] at loaded ⊢
      cases loaded
      exact represents
  | unreadable failure => simp [loadConfiguration, Access.ofExcept] at loaded
  | document d =>
      cases read : loadVersionedConfiguration d with
      | error failure => simp [loadConfiguration, read, Access.ofExcept] at loaded
      | ok c₀ =>
          have settled := settled_setEnvIds (storable_of_loadVersionedConfiguration read) clock
          simp only [loadConfiguration, read, setHostnameIds] at loaded ⊢
          split_ifs at loaded ⊢ with used
          · obtain ⟨d', saved, represents⟩ :=
              represents_of_save settled.storable settled.identified
            rw [saved] at loaded ⊢
            cases loaded
            exact represents
          · cases loaded
            have same := (setEnvIds_used clock c₀.envs 0).2 (by omega)
            refine ⟨settled, d, rfl, ?_⟩
            rw [read, same]

/-! ### One operation -/

/-- The records an operation writes have ids, and addresses that bytes can hold. -/
structure Operation.Writable (operation : Operation) : Prop where
  identified : Introduces (fun host => host.id ≠ 0) operation
  addresses : Introduces (fun host => ByteAddress host.ip) operation

theorem Settled.apply {operation : Operation} {c c' : Configuration} (settled : Settled c)
    (writable : operation.Writable) (applied : Abstract.apply operation c = .ok c') :
    Settled c' where
  storable := settled.storable.of_settings (Abstract.settings_of_apply applied)
    fun addresses _ => Abstract.allHosts_of_apply writable.addresses addresses applied
  identified := Abstract.allHosts_of_apply writable.identified settled.identified applied

/-- On a file that represents a configuration an operation does what it does in
the abstract: it fails without a save, or saves a file that represents the result. -/
theorem perform_refines {operation : Operation} {file : ConfFile} {c : Configuration}
    (represents : Represents file c) (writable : operation.Writable) (clock : Clock) :
    (∃ refusal, Abstract.apply operation c = .error refusal ∧
      operation.perform clock file = .ofExcept (.error refusal.failure)) ∨
    ∃ c' d, Abstract.apply operation c = .ok c' ∧
      operation.perform clock file = .save (.document d) () ∧
      Represents (.document d) c' := by
  rw [Operation.perform_eq, withConfiguration, loadConfiguration_of_represents represents,
    Access.bind_of_ok rfl, change_eq]
  cases changed : Abstract.change operation c with
  | error refusal =>
      refine Or.inl ⟨refusal, ?_, rfl⟩
      rw [Abstract.apply, changed]
      rfl
  | ok changedConf =>
      have applied : Abstract.apply operation c = .ok (replenish changedConf) := by
        rw [Abstract.apply, changed]
        rfl
      have storable : Storable changedConf :=
        represents.1.storable.of_settings (Abstract.settings_of_change changed)
          fun addresses _ => Abstract.allHosts_of_change writable.addresses addresses changed
      obtain ⟨d, saved, back⟩ := represents_of_save storable
        (Abstract.allHosts_of_change writable.identified represents.1.identified changed)
      refine Or.inr ⟨_, d, applied, ?_, back⟩
      simp only [Except.mapError, saved]
      rfl

/-! ### The requests of the web interface -/

/-- An `int64` survives being written and parsed. -/
theorem Vo.parseInt_itoa {n : Int} (low : minInt64 ≤ n) (high : n ≤ maxInt64) :
    Vo.parseInt (itoa n) = n := by
  rw [Vo.parseInt, parseSigned_itoa]
  simp only [min_eq_right high, max_eq_right low]

theorem Vo.parseInt_itoa_reading (clock : Clock) (n : Nat) :
    Vo.parseInt (itoa (clock.reading n)) = clock.reading n :=
  Vo.parseInt_itoa (Int.le_of_lt (lt_trans (by decide) (clock.positive n))) (clock.fits n)

theorem Vo.toHostname_withUnixNanoIds (clock : Clock) (hostnames : List Vo.HostnameV1) :
    ∀ n, ∀ host ∈ Vo.fromV1Hostnames (Vo.withUnixNanoIds clock n hostnames),
      host.id ≠ 0 ∧ ByteAddress host.ip := by
  induction hostnames with
  | nil => simp [Vo.fromV1Hostnames, Vo.withUnixNanoIds]
  | cons hostname rest inductionHypothesis =>
      intro n host member
      rcases List.mem_cons.mp member with rfl | later
      · refine ⟨?_, hostname.ip, rfl⟩
        rw [Vo.HostnameV1.toHostname, Vo.parseInt_itoa_reading]
        exact Int.ne_of_gt (clock.positive n)
      · exact inductionHypothesis (n + 1) host later

/-- What the handlers hand to the store is writable. -/
theorem Request.writable {clocks : Clocks} {request : Request} {operation : Operation}
    (calls : request.operation clocks = some operation) : operation.Writable := by
  cases request with
  | read => simp [Request.operation] at calls
  | postHostname hostname =>
      cases calls
      constructor
      · simp only [Introduces, Abstract.identify]
        split_ifs with unset
        · exact Int.ne_of_gt (clocks.add.positive 0)
        · exact unset
      · simp only [Introduces, Abstract.identify]
        split_ifs <;> exact ⟨hostname.ip, rfl⟩
  | putHostname hostname =>
      cases calls
      exact ⟨fun _ identified => identified, fun _ _ => ⟨hostname.ip, rfl⟩⟩
  | deleteHostname hostname =>
      cases calls
      exact ⟨trivial, trivial⟩
  | putEnvActive env =>
      cases calls
      exact ⟨trivial, trivial⟩
  | postEnv env =>
      cases calls
      have each := Vo.toHostname_withUnixNanoIds clocks.handler env.hostnames 0
      exact ⟨fun host member => (each host member).1, fun host member => (each host member).2⟩
  | deleteEnv env =>
      cases calls
      exact ⟨trivial, trivial⟩

/-! ### Runs -/

/-- One request on the abstract store. -/
def Abstract.serve (clocks : Clocks) (request : Request) (c : Configuration) :
    Except Refusal Configuration :=
  match request.operation clocks with
  | none => .ok c
  | some operation => Abstract.apply operation c

/-- The configuration after a request, which a refused one leaves as it was. -/
def Abstract.next (clocks : Clocks) (request : Request) (c : Configuration) : Configuration :=
  match Abstract.serve clocks request c with
  | .error _ => c
  | .ok c' => c'

/-- The configuration file after a request. -/
def Request.next (clocks : Clocks) (request : Request) (file : ConfFile) : ConfFile :=
  after file (request.serve clocks file).saves

theorem serve_refines {file : ConfFile} {c : Configuration} (represents : Represents file c)
    (clocks : Clocks) (request : Request) :
    (request.serve clocks file).result =
        ((Abstract.serve clocks request c).mapError Refusal.failure).map (fun _ => ()) ∧
      Represents (request.next clocks file) (Abstract.next clocks request c) := by
  cases calls : request.operation clocks with
  | none =>
      simp only [Request.next, Request.serve, Abstract.next, Abstract.serve, calls,
        loadConfiguration_of_represents represents]
      exact ⟨rfl, represents⟩
  | some operation =>
      simp only [Request.next, Request.serve, Abstract.next, Abstract.serve, calls]
      rcases perform_refines represents (Request.writable calls) clocks.load with
        ⟨refusal, applied, performed⟩ | ⟨c', d, applied, performed, represents'⟩
      · rw [applied, performed]
        exact ⟨rfl, represents⟩
      · rw [applied, performed]
        exact ⟨rfl, represents'⟩

/-- What a client can see of each request: its outcome, and what the next
`LoadConfiguration` returns. -/
def Request.observe (observer : Clock) (file : ConfFile) :
    List (Clocks × Request) → List (Except Failure Unit × Except Failure Configuration)
  | [] => []
  | (clocks, request) :: rest =>
      ((request.serve clocks file).result,
        (loadConfiguration observer (request.next clocks file)).result) ::
      Request.observe observer (request.next clocks file) rest

def Abstract.observe (c : Configuration) :
    List (Clocks × Request) → List (Except Failure Unit × Except Failure Configuration)
  | [] => []
  | (clocks, request) :: rest =>
      (((Abstract.serve clocks request c).mapError Refusal.failure).map (fun _ => ()),
        .ok (Abstract.next clocks request c)) ::
      Abstract.observe (Abstract.next clocks request c) rest

/-- A version 1 file with one record that has no id yet. -/
def fileWithoutId : ConfFile :=
  .document (.v1 {
    remoteDnsServers := [{ b0 := 8, b1 := 8, b2 := 4, b3 := 4 }]
    envs := [{
      name := []
      hostnames := [{
        id := 0, hostname := "a.com".toList, ip := { b0 := 10, b3 := 1 }, target := [],
        ttl := 60, type := EntryType.A }] }]
    activeEnv := [], webServerPort := 5380, dnsServerPort := 53, defaultDns := none,
    logLevel := [], logFile := [], registerContainerNames := some true,
    hostMachineHostname := [], domain := [] })

/-- What it is loaded as, the record having got the id 7. -/
def configurationWithId : Configuration where
  version := 1
  remoteDnsServers := [{ ip := "8.8.4.4".toList, port := 53 }]
  envs := [{
    name := []
    hostnames := [{
      id := 7, hostname := "a.com".toList, ip := "10.0.0.1".toList, target := [], ttl := 60,
      type := EntryType.A }] }]
  webServerPort := 5380
  dnsServerPort := 53
  registerContainerNames := some true

end DnsProxyServer.Local
