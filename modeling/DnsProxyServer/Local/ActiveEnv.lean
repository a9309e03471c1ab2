/-
Module: DnsProxyServer.Local.ActiveEnv
Purpose: When the active env exists after an operation, and along runs of
  operations on the file.
Trusted boundary: none
Main exports: HasActive, KeepsActive, hasActive_apply_iff, storeStep,
  hasActive_of_run
-/
import DnsProxyServer.Local.Refinement

namespace DnsProxyServer.Local

open LoadStore (Access after)
open Abstract (replenish)

def Configuration.envNames (c : Configuration) : List GoString := c.envs.map Env.name

/-- The active env names one of the envs. -/
def HasActive (c : Configuration) : Prop := c.activeEnv ∈ c.envNames

theorem getActiveEnv_ne_none_iff {c : Configuration} : c.getActiveEnv ≠ none ↔ HasActive c := by
  simp [Configuration.getActiveEnv, Configuration.getEnv, FirstMatch.firstMatch_eq_none,
    HasActive, Configuration.envNames]

/-- The operation does not remove the active env: another env carries its name, or
it is the last env and the one that is created again. -/
def KeepsActive (c : Configuration) : Operation → Prop
  | .removeEnvByName name =>
      name = c.activeEnv → 2 ≤ c.envNames.count name ∨ (c.envs.length = 1 ∧ name = [])
  | _ => True

/-! ### One operation -/

theorem any_named {name : GoString} {envs : List Env} :
    envs.any (Abstract.named name) = true ↔ name ∈ envs.map Env.name := by
  simp [Abstract.named]

theorem envNames_subset_modifyFirst {name : GoString} {edit : Env → Env}
    (keeps : ∀ env, (edit env).name = env.name) (c : Configuration) :
    c.envNames ⊆ Configuration.envNames
      { c with envs := FirstMatch.modifyFirst (Abstract.named name) edit c.envs } := by
  rw [Configuration.envNames, Configuration.envNames, FirstMatch.map_modifyFirst keeps c.envs]
  exact List.Subset.refl _

theorem envNames_eraseP (name : GoString) (envs : List Env) :
    (envs.eraseP (Abstract.named name)).map Env.name = (envs.map Env.name).erase name := by
  rw [List.erase_eq_eraseP', List.eraseP_map]
  rfl

/-- A configuration with an env has its active env after `replenish` when it had
it before. -/
theorem hasActive_replenish {c : Configuration} :
    HasActive (replenish c) ↔ HasActive c ∨ (c.envs = [] ∧ c.activeEnv = []) := by
  unfold Abstract.replenish
  split_ifs with empty
  · simp [HasActive, Configuration.envNames, empty]
  · simp [empty]

/-- A change that adds envs or edits records. -/
private theorem hasActive_of_subset {c c' : Configuration} (active : HasActive c)
    (names : c.envNames ⊆ c'.envNames) (same : c'.activeEnv = c.activeEnv) :
    HasActive (replenish c') :=
  hasActive_replenish.mpr (Or.inl (by rw [HasActive, same]; exact names active))

theorem hasActive_removeEnvByName_iff {c : Configuration} {name : GoString}
    (active : HasActive c) (known : name ∈ c.envNames) :
    HasActive (replenish { c with envs := c.envs.eraseP (Abstract.named name) }) ↔
      KeepsActive c (.removeEnvByName name) := by
  have left : HasActive { c with envs := c.envs.eraseP (Abstract.named name) } ↔
      c.activeEnv ∈ c.envNames.erase name := by
    rw [HasActive, Configuration.envNames, envNames_eraseP]
    rfl
  rw [hasActive_replenish, left]
  by_cases removesActive : name = c.activeEnv
  · subst removesActive
    have positive : 0 < c.envNames.count c.activeEnv := List.count_pos_iff.mpr known
    have remains : c.activeEnv ∈ c.envNames.erase c.activeEnv ↔
        2 ≤ c.envNames.count c.activeEnv := by
      rw [← List.count_pos_iff, List.count_erase_self]
      omega
    have empties : c.envs.eraseP (Abstract.named c.activeEnv) = [] ↔ c.envs.length = 1 := by
      have hit : c.envs.any (Abstract.named c.activeEnv) = true := any_named.mpr known
      have lengths : (c.envs.eraseP (Abstract.named c.activeEnv)).length =
          c.envs.length - 1 := by
        rw [List.length_eraseP, if_pos hit]
      have nonempty : 0 < c.envs.length := by
        obtain ⟨env, member, -⟩ := List.any_eq_true.mp hit
        exact List.length_pos_of_mem member
      rw [← List.length_eq_zero_iff]
      omega
    simp only [KeepsActive, true_implies, remains, empties]
  · have stays : c.activeEnv ∈ c.envNames.erase name :=
      (List.mem_erase_of_ne fun same => removesActive same.symm).mpr active
    simp [KeepsActive, removesActive, stays]

/-- The active env exists after a successful operation exactly when the operation
did not remove it. -/
theorem hasActive_apply_iff {operation : Operation} {c c' : Configuration}
    (active : HasActive c) (applied : Abstract.apply operation c = .ok c') :
    HasActive c' ↔ KeepsActive c operation := by
  obtain ⟨changed, changedEq, rfl⟩ := Abstract.apply_eq_ok applied
  cases operation with
  | setActiveEnv env =>
      simp only [Abstract.change] at changedEq
      split_ifs at changedEq with known
      cases changedEq
      exact iff_of_true (hasActive_replenish.mpr (Or.inl (any_named.mp known))) trivial
  | addEnv env =>
      simp only [Abstract.change] at changedEq
      split_ifs at changedEq
      cases changedEq
      refine iff_of_true (hasActive_of_subset active ?_ rfl) trivial
      simp [Configuration.envNames]
  | removeEnvByName name =>
      simp only [Abstract.change] at changedEq
      split_ifs at changedEq with known
      cases changedEq
      exact hasActive_removeEnvByName_iff active (any_named.mp known)
  | addHostname now name host =>
      simp only [Abstract.change] at changedEq
      split_ifs at changedEq
      obtain ⟨env, -, -, rfl⟩ := Abstract.editEnv_eq_ok changedEq
      refine iff_of_true (hasActive_of_subset active ?_ rfl) trivial
      exact envNames_subset_modifyFirst (Abstract.appendHost_name _) c
  | updateHostname name host =>
      obtain ⟨env, -, -, rfl⟩ := Abstract.editEnv_eq_ok changedEq
      refine iff_of_true (hasActive_of_subset active ?_ rfl) trivial
      exact envNames_subset_modifyFirst (Abstract.assignHost_name _) c
  | removeHostnameByEnvAndHostname name hostname =>
      obtain ⟨env, -, -, rfl⟩ := Abstract.editEnv_eq_ok changedEq
      refine iff_of_true (hasActive_of_subset active ?_ rfl) trivial
      exact envNames_subset_modifyFirst (Abstract.eraseHost_name _) c

/-! ### Through the file -/

theorem setEnvIds_names (clock : Clock) (envs : List Env) :
    ∀ n, (setEnvIds clock n envs).1.map Env.name = envs.map Env.name := by
  induction envs with
  | nil => simp [setEnvIds]
  | cons env rest inductionHypothesis =>
      intro n
      simp [setEnvIds, inductionHypothesis]

theorem hasActive_congr {c c' : Configuration} (names : c'.envNames = c.envNames)
    (active : c'.activeEnv = c.activeEnv) : HasActive c' ↔ HasActive c := by
  rw [HasActive, HasActive, names, active]

/-- A document that loads, with its active env among its envs. -/
def Document.HasActive (d : Document) : Prop :=
  ∃ c, loadVersionedConfiguration d = .ok c ∧ Local.HasActive c

theorem Represents.hasActive {file : ConfFile} {c : Configuration}
    (represents : Represents file c) (active : HasActive c) :
    ∃ d, file = .document d ∧ d.HasActive := by
  obtain ⟨-, d, rfl, read⟩ := represents
  exact ⟨d, rfl, c, read, active⟩

/-- Loading such a document succeeds and finds the active env. -/
theorem Document.HasActive.load {d : Document} (active : d.HasActive) (clock : Clock) :
    ∃ c, (loadConfiguration clock (.document d)).result = .ok c ∧ Local.HasActive c := by
  obtain ⟨c₀, read, active₀⟩ := active
  refine ⟨_, loadConfiguration_document read clock, ?_⟩
  rw [Local.HasActive, Configuration.envNames, setEnvIds_names]
  exact active₀

/-- A configuration that can be written at all is written with its env names, also
when a version 1 file cannot hold some of its addresses. -/
theorem hasActive_of_confVO {c : Configuration} {d : Document}
    (servers : c.version = 2 → ∀ server ∈ c.remoteDnsServers, server.Canonical)
    (written : confVO c = .ok d) (active : HasActive c) : d.HasActive := by
  unfold confVO at written
  split at written
  · rename_i version
    cases written
    exact ⟨c, StorageV2.toConfig_valueOf ⟨version, servers version⟩, active⟩
  · cases v1Eq : StorageV1.valueOf c with
    | error failure => simp [v1Eq, Except.map] at written
    | ok v1 =>
        rw [v1Eq] at written
        cases written
        obtain ⟨c', read, names, activeEq⟩ := StorageV1.names_of_valueOf v1Eq
        exact ⟨c', read, (hasActive_congr names activeEq).mpr active⟩

/-- One operation on the file, by a caller with this clock. -/
def storeStep (file : ConfFile) (call : Clock × Operation) : Option ConfFile :=
  some (after file (call.2.perform call.1 file).saves)

/-- The condition on the configuration the operation loads. -/
def KeepsActiveStep (file : ConfFile) (call : Clock × Operation) : Prop :=
  ∀ c, (loadConfiguration call.1 file).result = .ok c → KeepsActive c call.2

theorem hasActive_of_step {d : Document} {call : Clock × Operation} {file' : ConfFile}
    (meets : KeepsActiveStep (.document d) call)
    (stepped : storeStep (.document d) call = some file')
    (active : d.HasActive) : ∃ d', file' = .document d' ∧ d'.HasActive := by
  obtain ⟨clock, operation⟩ := call
  cases stepped
  obtain ⟨c, loaded, activeC⟩ := active.load clock
  have represents := represents_of_load loaded
  simp only [Operation.perform_eq, withConfiguration, Access.bind_of_ok loaded, change_eq]
  cases changed : Abstract.change operation c with
  | error refusal =>
      simp only [Except.mapError, Access.ofExcept, List.append_nil]
      exact represents.hasActive activeC
  | ok changedConf =>
      have applied : Abstract.apply operation c = .ok (replenish changedConf) := by
        rw [Abstract.apply, changed]
        rfl
      have activeChanged := (hasActive_apply_iff activeC applied).mpr (meets c loaded)
      have servers : (replenish changedConf).version = 2 →
          ∀ server ∈ (replenish changedConf).remoteDnsServers, server.Canonical := by
        rw [Abstract.settings_of_apply applied]
        intro version
        rcases represents.1.storable with v1 | v2
        · exact absurd (v1.version.symm.trans version) (by decide)
        · exact v2.servers
      simp only [Except.mapError, saveConfiguration, withEnvs_eq]
      cases written : confVO (replenish changedConf) with
      | error failure =>
          simp only [Access.bind, Access.ofExcept, List.append_nil]
          exact represents.hasActive activeC
      | ok d' =>
          refine ⟨d', ?_, hasActive_of_confVO servers written activeChanged⟩
          simp [Access.bind, Access.save, Access.ofExcept]

/-- In every run whose steps do not remove the active env, the stored configuration
has its active env in every state. -/
theorem hasActive_of_run {d : Document} {calls : List (Clock × Operation)} {final : ConfFile}
    (meets : Runs.AllSteps storeStep KeepsActiveStep (.document d) calls)
    (ran : Runs.run storeStep (.document d) calls = some final) (active : d.HasActive) :
    ∃ d', final = .document d' ∧ d'.HasActive := by
  have kept : ∀ file call file', KeepsActiveStep file call → storeStep file call = some file' →
      (∃ d, file = .document d ∧ d.HasActive) → ∃ d', file' = .document d' ∧ d'.HasActive := by
    rintro _ call file' meetsOne stepped ⟨d₀, rfl, active₀⟩
    exact hasActive_of_step meetsOne stepped active₀
  exact Runs.invariant_of_allSteps kept meets ran ⟨d, rfl, active⟩

end DnsProxyServer.Local
