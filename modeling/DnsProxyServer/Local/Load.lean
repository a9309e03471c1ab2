/-
Module: DnsProxyServer.Local.Load
Purpose: Loading the configuration from the bytes of the file: when it returns a
  configuration with the servers that are written there, or an error, and never panics.
Trusted boundary: translation of LoadVersionedConfiguration and readVersion of
  events/local/local.go; json.Unmarshal is a parameter, which fills its target and
  returns an error or nil
Main exports: Interface, Json, Json.readVersion, Json.loadVersionedConfiguration,
  Json.loadConfiguration, Json.confFile, Json.LoadsSafely, Json.WellWritten,
  Json.loads_safely_iff, Json.edited_file_panics
-/
import DnsProxyServer.Local.Refinement
import Mathlib.Data.Rat.Init

namespace DnsProxyServer.Local

open LoadStore (Access)

/-! ### From bytes to a configuration -/

/-- What encoding/json puts into an `interface{}`; a number is a rational. -/
inductive Interface where
  | nil
  | bool (b : Bool)
  | float64 (f : ℚ)
  | string (s : GoString)
  | slice
  | object
deriving DecidableEq

/-- `json.Unmarshal` of the bytes into the map of `readVersion`, whose error is not looked
at, and into the two formats with their empty slices, both of which are filled as far as
possible when there is an error. -/
structure Json where
  intoMap : (confBytes key : GoString) → Option Interface
  intoV1 : GoString → StorageV1.ConfigurationV1 × Option GoString
  intoV2 : GoString → StorageV2.ConfigurationV2 × Option GoString

/-- `int(f)`, which drops the fraction. What does not fit an `int` is not one of the
versions either way. -/
def toInt (f : ℚ) : Int := f.num.tdiv f.den

namespace Json

variable (json : Json)

/-- The type assertion is not checked. -/
def readVersion (confBytes : GoString) : Except Failure Int :=
  match json.intoMap confBytes "version".toList with
  | some (.float64 version) => .ok (toInt version)
  | some _ => .error (.panic .typeAssertion)
  | none => .ok 1

/-- `return config, err`, where the configuration counts only without an error. -/
def returned (config : Configuration) : Option GoString → Except Failure Configuration
  | some err => .error (.error err)
  | none => .ok config

/-- The conversion runs even when the decoding failed. -/
def loadVersionedConfiguration (confBytes : GoString) : Except Failure Configuration := do
  let version ← json.readVersion confBytes
  if version = 1 then
    let (v1Config, err) := json.intoV1 confBytes
    let config ← v1Config.toConfig
    returned config err
  else if version = 2 then
    let (v2Config, err) := json.intoV2 confBytes
    let config ← v2Config.toConfig
    returned config err
  else .error (.error "unrecognized version".toList)

/-- `LoadConfiguration` of a file that exists. -/
def loadConfiguration (clock : Clock) (confBytes : GoString) : FileAccess Configuration :=
  match json.loadVersionedConfiguration confBytes with
  | .error failure => .ofExcept (.error failure)
  | .ok configuration => setHostnameIds clock configuration

/-- The strings of the file the servers are read from. A version 1 file has four numbers
for each. -/
def serverTexts (confBytes : GoString) : List GoString :=
  if json.readVersion confBytes = .ok 1 then
    (json.intoV1 confBytes).1.remoteDnsServers.map toIpString
  else (json.intoV2 confBytes).1.remoteDnsServers

/-! ### The bytes as a file -/

/-- The file with these contents. -/
def confFile (confBytes : GoString) : ConfFile :=
  match json.loadVersionedConfiguration confBytes with
  | .error failure => .unreadable failure
  | .ok _ =>
      if json.readVersion confBytes = .ok 1 then .document (.v1 (json.intoV1 confBytes).1)
      else .document (.v2 (json.intoV2 confBytes).1)

theorem returned_eq_ok {config config' : Configuration} {err : Option GoString}
    (success : returned config err = .ok config') : config' = config ∧ err = none := by
  cases err with
  | some err => cases success
  | none =>
      cases success
      exact ⟨rfl, rfl⟩

/-- A configuration that is returned was converted from one of the formats. -/
theorem loadVersionedConfiguration_eq_ok {confBytes : GoString} {c : Configuration}
    (loaded : json.loadVersionedConfiguration confBytes = .ok c) :
    json.readVersion confBytes = .ok 1 ∧ (json.intoV1 confBytes).1.toConfig = .ok c ∨
      json.readVersion confBytes = .ok 2 ∧ (json.intoV2 confBytes).1.toConfig = .ok c ∧
        (json.intoV2 confBytes).2 = none := by
  unfold loadVersionedConfiguration at loaded
  cases read : json.readVersion confBytes with
  | error failure => simp [read, bind, Except.bind] at loaded
  | ok version =>
      simp only [read, bind, Except.bind] at loaded
      split_ifs at loaded with one two
      · cases converted : (json.intoV1 confBytes).1.toConfig with
        | error failure => simp [converted] at loaded
        | ok config =>
            simp only [converted] at loaded
            obtain ⟨rfl, -⟩ := returned_eq_ok loaded
            exact Or.inl ⟨by rw [one], rfl⟩
      · cases converted : (json.intoV2 confBytes).1.toConfig with
        | error failure => simp [converted] at loaded
        | ok config =>
            simp only [converted] at loaded
            obtain ⟨rfl, noError⟩ := returned_eq_ok loaded
            exact Or.inr ⟨by rw [two], rfl, noError⟩

/-- Loading the bytes is loading the file. -/
theorem loadConfiguration_eq (clock : Clock) (confBytes : GoString) :
    json.loadConfiguration clock confBytes =
      Local.loadConfiguration clock (json.confFile confBytes) := by
  unfold loadConfiguration confFile
  cases loaded : json.loadVersionedConfiguration confBytes with
  | error failure => rfl
  | ok c =>
      rcases json.loadVersionedConfiguration_eq_ok loaded with
        ⟨version, converted⟩ | ⟨version, converted, -⟩
      · simp only [version, if_true, Local.loadConfiguration, Local.loadVersionedConfiguration,
          converted]
      · have other : json.readVersion confBytes ≠ .ok 1 := by simp [version]
        simp only [other, if_false, Local.loadConfiguration, Local.loadVersionedConfiguration,
          converted]

end Json

/-! ### Loading without a panic -/

namespace Json

variable (json : Json)

/-- A configuration with the servers that are written in the file, or an error. -/
def Loaded (confBytes : GoString) : Except Failure Configuration → Prop
  | .ok c => List.Forall₂ Writes (json.serverTexts confBytes) c.remoteDnsServers
  | .error (.error _) => True
  | .error (.panic _) => False

/-- Both loading functions return so. -/
def LoadsSafely (confBytes : GoString) : Prop :=
  json.Loaded confBytes (json.loadVersionedConfiguration confBytes) ∧
    ∀ clock, json.Loaded confBytes (json.loadConfiguration clock confBytes).result

/-- The version is absent or a number. When it is 2, every server string that was decoded
has an address in it, and a port that is an `int` unless the decoding failed. -/
def WellWritten (confBytes : GoString) : Prop :=
  match json.intoMap confBytes "version".toList with
  | none => True
  | some (.float64 version) => toInt version = 2 →
      ∀ text ∈ (json.intoV2 confBytes).1.remoteDnsServers,
        (∃ quad, DottedQuad quad ∧ quad <:+: text) ∧
          ((json.intoV2 confBytes).2 = none → ∃ server, Writes text server ∧
            server.port ≤ maxInt64)
  | some _ => False

theorem loaded_returned {confBytes : GoString} {config : Configuration}
    (servers : List.Forall₂ Writes (json.serverTexts confBytes) config.remoteDnsServers)
    (err : Option GoString) : json.Loaded confBytes (returned config err) := by
  cases err with
  | none => exact servers
  | some err => trivial

end Json

theorem StorageV1.remoteDnsServers_toConfig (c : StorageV1.ConfigurationV1) :
    ∃ config, c.toConfig = .ok config ∧
      List.Forall₂ Writes (c.remoteDnsServers.map toIpString) config.remoteDnsServers := by
  obtain ⟨servers, read, written⟩ := Traverse.exists_mapM_ok
    (f := fun b => toDnsServer (toIpString b)) (l := c.remoteDnsServers)
    (R := fun b server => Writes (toIpString b) server)
    fun b _ => ⟨_, toDnsServer_toIpString b, writes_toIpString b⟩
  have converted : byteArrayToDnsServer c.remoteDnsServers = .ok servers := read
  refine ⟨_, by rw [StorageV1.ConfigurationV1.toConfig, converted]; rfl, ?_⟩
  exact List.forall₂_map_left_iff.mpr written

/-- A version 2 file is converted only when each of its server strings is read. -/
theorem StorageV2.toConfig_eq_ok {c : StorageV2.ConfigurationV2} {config : Configuration}
    (converted : c.toConfig = .ok config) :
    List.Forall₂ (fun text server => toDnsServer text = .ok server) c.remoteDnsServers
      config.remoteDnsServers :=
  Traverse.mapM_eq_ok_iff.mp (StorageV2.of_toConfig converted).1

theorem StorageV2.toConfig_error {c : StorageV2.ConfigurationV2} {failure : Failure}
    (fails : c.toConfig = .error failure) : ∃ cause, failure = .panic cause := by
  rw [StorageV2.ConfigurationV2.toConfig] at fails
  cases read : stringArrayToDnsServer c.remoteDnsServers with
  | ok servers => simp [read, bind, Except.bind, pure, Except.pure] at fails
  | error failure' =>
      simp only [read, bind, Except.bind] at fails
      cases fails
      obtain ⟨text, -, value⟩ := Traverse.exists_of_mapM_error read
      unfold toDnsServer at value
      split at value <;> cases value
      exact ⟨_, rfl⟩

/-- A version 2 file is converted exactly when each of its server strings is read. -/
theorem StorageV2.exists_toConfig_iff {c : StorageV2.ConfigurationV2} :
    (∃ config, c.toConfig = .ok config) ↔
      ∀ text ∈ c.remoteDnsServers, ∃ server, toDnsServer text = .ok server := by
  constructor
  · rintro ⟨config, converted⟩
    exact Traverse.exists_mapM_eq_ok_iff.mp ⟨_, (StorageV2.of_toConfig converted).1⟩
  · intro read
    obtain ⟨servers, converted⟩ := Traverse.exists_mapM_eq_ok_iff.mpr read
    have servers : stringArrayToDnsServer c.remoteDnsServers = .ok servers := converted
    exact ⟨_, by rw [StorageV2.ConfigurationV2.toConfig, servers]; rfl⟩

namespace Json

variable {json : Json} {confBytes : GoString}

/-- Filling in ids neither fails nor changes the servers. -/
theorem loadsSafely_iff :
    json.LoadsSafely confBytes ↔
      json.Loaded confBytes (json.loadVersionedConfiguration confBytes) := by
  refine ⟨fun both => both.1, fun loaded => ⟨loaded, fun clock => ?_⟩⟩
  unfold loadConfiguration
  cases versioned : json.loadVersionedConfiguration confBytes with
  | error failure =>
      rw [versioned] at loaded
      exact loaded
  | ok c =>
      have document : ∃ d, Local.loadVersionedConfiguration d = .ok c := by
        rcases json.loadVersionedConfiguration_eq_ok versioned with
          ⟨-, converted⟩ | ⟨-, converted, -⟩
        · exact ⟨.v1 (json.intoV1 confBytes).1, converted⟩
        · exact ⟨.v2 (json.intoV2 confBytes).1, converted⟩
      obtain ⟨d, read⟩ := document
      rw [versioned] at loaded
      simp only [setHostnameIds_result (storable_of_loadVersionedConfiguration read)]
      exact loaded

theorem loaded_v1 (version : json.readVersion confBytes = .ok 1) :
    json.Loaded confBytes (json.loadVersionedConfiguration confBytes) := by
  obtain ⟨config, converted, servers⟩ :=
    StorageV1.remoteDnsServers_toConfig (json.intoV1 confBytes).1
  have read : json.loadVersionedConfiguration confBytes =
      returned config (json.intoV1 confBytes).2 := by
    simp only [loadVersionedConfiguration, version, bind, Except.bind, if_true, converted]
  rw [read]
  apply json.loaded_returned
  rw [serverTexts, if_pos version]
  exact servers

theorem loadVersionedConfiguration_v2 (version : json.readVersion confBytes = .ok 2)
    {config : Configuration} (converted : (json.intoV2 confBytes).1.toConfig = .ok config) :
    json.loadVersionedConfiguration confBytes = returned config (json.intoV2 confBytes).2 := by
  simp [loadVersionedConfiguration, version, bind, Except.bind, converted]

theorem serverTexts_v2 (version : json.readVersion confBytes = .ok 2) :
    json.serverTexts confBytes = (json.intoV2 confBytes).1.remoteDnsServers := by
  simp [serverTexts, version]

/-- A load that does not panic has converted the file. -/
theorem exists_converted_of_loaded (version : json.readVersion confBytes = .ok 2)
    (loaded : json.Loaded confBytes (json.loadVersionedConfiguration confBytes)) :
    ∃ config, (json.intoV2 confBytes).1.toConfig = .ok config := by
  cases converted : (json.intoV2 confBytes).1.toConfig with
  | ok config => exact ⟨config, rfl⟩
  | error failure =>
      have read : json.loadVersionedConfiguration confBytes = .error failure := by
        simp [loadVersionedConfiguration, version, bind, Except.bind, converted]
      obtain ⟨cause, rfl⟩ := StorageV2.toConfig_error converted
      rw [read] at loaded
      exact absurd loaded id

/-- Each text that is read as the server it writes writes one whose port fits. -/
theorem fits_of_writes {texts : List GoString} {servers : List DNSServer}
    (writes : List.Forall₂ Writes texts servers)
    (read : List.Forall₂ (fun text server => toDnsServer text = .ok server) texts servers) :
    ∀ text ∈ texts, ∃ server, Writes text server ∧ server.port ≤ maxInt64 := by
  have both := List.Forall₂.mp (S := fun text server => Writes text server ∧
    toDnsServer text = .ok server) (fun _ _ writes value => ⟨writes, value⟩) writes read
  exact ((List.forall₂_and_left _ _).mp (both.imp fun text server pair =>
    (⟨⟨server, pair.1, (canonical_of_toDnsServer pair.2).2.2⟩, pair.1⟩ :
      (∃ server, Writes text server ∧ server.port ≤ maxInt64) ∧ Writes text server))).1

/-- A version 2 file is loaded safely exactly when each server string is read, to what is
written in it if the configuration is returned. -/
theorem loaded_v2_iff (version : json.readVersion confBytes = .ok 2) :
    json.Loaded confBytes (json.loadVersionedConfiguration confBytes) ↔
      ∀ text ∈ (json.intoV2 confBytes).1.remoteDnsServers,
        (∃ quad, DottedQuad quad ∧ quad <:+: text) ∧
          ((json.intoV2 confBytes).2 = none →
            ∃ server, Writes text server ∧ server.port ≤ maxInt64) := by
  constructor
  · intro loaded
    obtain ⟨config, converted⟩ := exists_converted_of_loaded version loaded
    have servers := StorageV2.toConfig_eq_ok converted
    have each := StorageV2.exists_toConfig_iff.mp ⟨config, converted⟩
    refine fun text member => ⟨toDnsServer_isOk_iff.mp (each text member), fun noError => ?_⟩
    rw [loadVersionedConfiguration_v2 version converted, noError, returned, Loaded,
      serverTexts_v2 version] at loaded
    exact fits_of_writes loaded servers text member
  · intro written
    obtain ⟨config, converted⟩ := StorageV2.exists_toConfig_iff.mpr fun text member =>
      toDnsServer_isOk_iff.mpr (written text member).1
    rw [loadVersionedConfiguration_v2 version converted]
    cases err : (json.intoV2 confBytes).2 with
    | some err => trivial
    | none =>
        have found := (List.forall₂_and_left _ _).mpr
          ⟨fun text member => (written text member).2 err, StorageV2.toConfig_eq_ok converted⟩
        apply json.loaded_returned
        rw [serverTexts_v2 version]
        refine found.imp ?_
        rintro text server ⟨⟨server', writes, fits⟩, value⟩
        cases (toDnsServer_of_writes writes fits).symm.trans value
        exact writes

/-- Loading returns an error or a configuration with the written servers, and does not
panic, if and only if the file is well written. -/
theorem loads_safely_iff (json : Json) (confBytes : GoString) :
    json.LoadsSafely confBytes ↔ json.WellWritten confBytes := by
  rw [loadsSafely_iff]
  unfold WellWritten
  split
  · rename_i absent
    exact iff_of_true (loaded_v1 (by rw [readVersion, absent])) trivial
  · rename_i version number
    have read : json.readVersion confBytes = .ok (toInt version) := by rw [readVersion, number]
    by_cases one : toInt version = 1
    · refine iff_of_true (loaded_v1 (by rw [read, one])) fun two => ?_
      omega
    · by_cases two : toInt version = 2
      · rw [loaded_v2_iff (by rw [read, two])]
        exact ⟨fun written _ => written, fun written => written two⟩
      · refine iff_of_true ?_ fun same => absurd same two
        simp [loadVersionedConfiguration, read, bind, Except.bind, one, two, Loaded]
  · rename_i other notNumber version
    have read : json.readVersion confBytes = .error (.panic .typeAssertion) := by
      unfold readVersion
      rw [version]
      cases other with
      | float64 f => exact (notNumber f rfl).elim
      | _ => rfl
    refine iff_of_false ?_ id
    simp [loadVersionedConfiguration, read, bind, Except.bind, Loaded]

/-! ### Two files that are edited by hand -/

def versionAsText : GoString := "\x7b\"version\": \"2\"\x7d".toList

def serverByName : GoString :=
  "\x7b\"version\": 2, \"remoteDnsServers\": [\"localhost\"]\x7d".toList

/-- The decoder on these two files. -/
def editedJson : Json where
  intoMap confBytes key :=
    if key = "version".toList then
      if confBytes = versionAsText then some (.string "2".toList)
      else if confBytes = serverByName then some (.float64 2)
      else none
    else none
  intoV1 _ :=
    ({ remoteDnsServers := [], envs := [], activeEnv := [], webServerPort := 0,
       dnsServerPort := 0, defaultDns := none, logLevel := [], logFile := [],
       registerContainerNames := none, hostMachineHostname := [], domain := [] }, none)
  intoV2 confBytes :=
    ({ version := if confBytes = serverByName then 2 else 0,
       remoteDnsServers := if confBytes = serverByName then ["localhost".toList] else [],
       envs := [], activeEnv := [], webServerPort := 0, dnsServerPort := 0, defaultDns := none,
       logLevel := [], logFile := [], registerContainerNames := none, hostMachineHostname := [],
       domain := [], dpsNetwork := none, dpsNetworkAutoConnect := none },
      if confBytes = versionAsText then
        some "json: cannot unmarshal string into Go struct field .version of type int64".toList
      else none)

/-- A version in quotes fails the type assertion, and a server that is no address is
indexed out of range. -/
theorem edited_file_panics :
    editedJson.loadVersionedConfiguration versionAsText = .error (.panic .typeAssertion) ∧
      editedJson.loadVersionedConfiguration serverByName = .error (.panic .indexOutOfRange) ∧
      ¬ editedJson.LoadsSafely versionAsText ∧ ¬ editedJson.LoadsSafely serverByName := by
  have text : editedJson.loadVersionedConfiguration versionAsText =
      .error (.panic .typeAssertion) := rfl
  have name : editedJson.loadVersionedConfiguration serverByName =
      .error (.panic .indexOutOfRange) := rfl
  refine ⟨text, name, fun safe => ?_, fun safe => ?_⟩
  · have loaded := safe.1
    rw [text] at loaded
    exact loaded
  · have loaded := safe.1
    rw [name] at loaded
    exact loaded

end Json

end DnsProxyServer.Local
