/-
Module: DnsProxyServer.Local.Keys
Purpose: Properties of every env of the stored configuration: when a request keeps
  them, and what follows for runs of requests.
Trusted boundary: none
Main exports: AllEnvs, Written, allEnvs_next_iff, getEnv_iff, requestStep,
  Stored, represents_of_run, stored_iff
-/
import DnsProxyServer.Local.ActiveEnv

namespace DnsProxyServer.Local

open FirstMatch (modifyFirst)
open LoadStore (Access after)
open Abstract (replenish named)

/-! ### One request -/

def AllEnvs (Q : Env → Prop) (c : Configuration) : Prop := ∀ env ∈ c.envs, Q env

/-- The env an operation writes has the property. -/
def Written (Q : Env → Prop) (c : Configuration) : Operation → Prop
  | .addEnv env => Q env
  | .addHostname now name host =>
      ∀ env, c.envs.find? (named name) = some env →
        Q (Abstract.appendHost (Abstract.identify now host) env)
  | .updateHostname name host =>
      ∀ env, c.envs.find? (named name) = some env → Q (Abstract.assignHost host env)
  | .removeHostnameByEnvAndHostname name hostname =>
      ∀ env, c.envs.find? (named name) = some env → Q (Abstract.eraseHost hostname env)
  | _ => True

variable {Q : Env → Prop}

theorem allEnvs_replenish_iff (empty : Q { name := [], hostnames := [] }) {c : Configuration} :
    AllEnvs Q (replenish c) ↔ AllEnvs Q c := by
  unfold Abstract.replenish
  split_ifs with none
  · simp [AllEnvs, none, empty]
  · rfl

/-- An edit of one env keeps the property exactly when the edited env has it. -/
theorem allEnvs_editEnv_iff {name : GoString} {check : Env → Option Refusal} {edit : Env → Env}
    {c c' : Configuration} (all : AllEnvs Q c)
    (edited : Abstract.editEnv name check edit c = .ok c') :
    AllEnvs Q c' ↔ ∀ env, c.envs.find? (named name) = some env → Q (edit env) := by
  obtain ⟨env, found, -, rfl⟩ := Abstract.editEnv_eq_ok edited
  have exact := FirstMatch.forall_mem_modifyFirst (f := edit) all found
  constructor
  · intro after env' found'
    cases found.symm.trans found'
    exact exact.mp after
  · intro written
    exact exact.mpr (written env found)

/-- After a successful operation every env has the property exactly when the env it
wrote has it. -/
theorem allEnvs_apply_iff (empty : Q { name := [], hostnames := [] }) {operation : Operation}
    {c c' : Configuration} (all : AllEnvs Q c)
    (applied : Abstract.apply operation c = .ok c') : AllEnvs Q c' ↔ Written Q c operation := by
  obtain ⟨changed, changedEq, rfl⟩ := Abstract.apply_eq_ok applied
  rw [allEnvs_replenish_iff empty]
  cases operation with
  | setActiveEnv env =>
      simp only [Abstract.change] at changedEq
      split_ifs at changedEq
      cases changedEq
      exact iff_of_true all trivial
  | addEnv env =>
      simp only [Abstract.change] at changedEq
      split_ifs at changedEq
      cases changedEq
      constructor
      · intro after
        exact after env (by simp)
      · intro new e member
        rcases List.mem_append.mp member with old | last
        · exact all e old
        · cases List.mem_singleton.mp last
          exact new
  | removeEnvByName name =>
      simp only [Abstract.change] at changedEq
      split_ifs at changedEq
      cases changedEq
      exact iff_of_true (fun e member => all e (List.mem_of_mem_eraseP member)) trivial
  | addHostname now name host =>
      simp only [Abstract.change] at changedEq
      split_ifs at changedEq
      exact allEnvs_editEnv_iff all changedEq
  | updateHostname name host => exact allEnvs_editEnv_iff all changedEq
  | removeHostnameByEnvAndHostname name hostname => exact allEnvs_editEnv_iff all changedEq

/-- A request applies its operation, or leaves the configuration as it was. -/
theorem next_cases (clocks : Clocks) (request : Request) (c : Configuration) :
    (∃ operation, request.operation clocks = some operation ∧
        Abstract.apply operation c = .ok (Abstract.next clocks request c)) ∨
      Abstract.next clocks request c = c ∧ ∀ operation c',
        request.operation clocks = some operation → Abstract.apply operation c ≠ .ok c' := by
  unfold Abstract.next Abstract.serve
  cases request.operation clocks with
  | none => exact Or.inr ⟨rfl, fun _ _ same => by cases same⟩
  | some operation =>
      cases applied : Abstract.apply operation c with
      | ok c' => exact Or.inl ⟨operation, rfl, by simp only [applied]⟩
      | error refusal =>
          refine Or.inr ⟨by simp only [applied], fun operation' c' same applied' => ?_⟩
          cases same
          cases applied.symm.trans applied'

/-- After a request, which may be refused. -/
theorem allEnvs_next_iff (empty : Q { name := [], hostnames := [] }) {c : Configuration}
    (all : AllEnvs Q c) (clocks : Clocks) (request : Request) :
    AllEnvs Q (Abstract.next clocks request c) ↔
      ∀ operation c', request.operation clocks = some operation →
        Abstract.apply operation c = .ok c' → Written Q c operation := by
  rcases next_cases clocks request c with ⟨operation, calls, applied⟩ | ⟨same, refused⟩
  · rw [allEnvs_apply_iff empty all applied]
    constructor
    · intro written operation' c' calls' _
      cases calls.symm.trans calls'
      exact written
    · intro written
      exact written operation _ calls applied
  · rw [same]
    exact iff_of_true all fun operation c' calls applied =>
      absurd applied (refused operation c' calls)

/-! ### Names of envs -/

/-- No operation gives two envs one name. -/
theorem envNames_nodup_apply {operation : Operation} {c c' : Configuration}
    (distinct : c.envNames.Nodup) (applied : Abstract.apply operation c = .ok c') :
    c'.envNames.Nodup := by
  obtain ⟨changed, changedEq, rfl⟩ := Abstract.apply_eq_ok applied
  have edited : ∀ {name check edit}, (∀ env, (edit env).name = env.name) →
      Abstract.editEnv name check edit c = .ok changed → changed.envNames.Nodup := by
    intro name check edit keeps edited
    obtain ⟨env, -, -, rfl⟩ := Abstract.editEnv_eq_ok edited
    rw [Configuration.envNames, FirstMatch.map_modifyFirst keeps]
    exact distinct
  have changedDistinct : changed.envNames.Nodup := by
    cases operation with
    | setActiveEnv env =>
        simp only [Abstract.change] at changedEq
        split_ifs at changedEq
        cases changedEq
        exact distinct
    | addEnv env =>
        simp only [Abstract.change] at changedEq
        split_ifs at changedEq with taken
        cases changedEq
        have absent : env.name ∉ c.envNames := fun known => taken (any_named.mpr known)
        rw [Configuration.envNames, List.map_append]
        apply distinct.append (List.nodup_singleton _)
        simpa using absent
    | removeEnvByName name =>
        simp only [Abstract.change] at changedEq
        split_ifs at changedEq
        cases changedEq
        rw [Configuration.envNames, envNames_eraseP]
        exact distinct.erase name
    | addHostname now name host =>
        simp only [Abstract.change] at changedEq
        split_ifs at changedEq
        exact edited (Abstract.appendHost_name _) changedEq
    | updateHostname name host => exact edited (Abstract.assignHost_name _) changedEq
    | removeHostnameByEnvAndHostname name hostname =>
        exact edited (Abstract.eraseHost_name _) changedEq
  unfold Abstract.replenish
  split_ifs
  · simp [Configuration.envNames]
  · exact changedDistinct

theorem envNames_nodup_next {c : Configuration} (distinct : c.envNames.Nodup) (clocks : Clocks)
    (request : Request) : (Abstract.next clocks request c).envNames.Nodup := by
  rcases next_cases clocks request c with ⟨operation, -, applied⟩ | ⟨same, -⟩
  · exact envNames_nodup_apply distinct applied
  · rwa [same]

/-! ### The lookups of the source -/

theorem getEnv_iff {c : Configuration} {name : GoString} {env : Env} :
    c.envs.find? (named name) = some env ↔ ∃ i, c.getEnv name = some (env, i) := by
  have same : c.envs.find? (named name) = (c.getEnv name).map Prod.fst :=
    (FirstMatch.firstMatch_fst _ _).symm
  rw [same, Option.map_eq_some_iff]
  constructor
  · rintro ⟨⟨env', i⟩, found, rfl⟩
    exact ⟨i, found⟩
  · rintro ⟨i, found⟩
    exact ⟨_, found, rfl⟩

/-! ### Through the file -/

/-- One request of a client, with the readings it takes. -/
def requestStep (file : ConfFile) (step : Clocks × Request) : Option ConfFile :=
  some (step.2.next step.1 file)

/-- Whatever configuration is loaded from the file has the property. -/
def Stored (I : Configuration → Prop) (file : ConfFile) : Prop :=
  ∀ observer c, (loadConfiguration observer file).result = .ok c → I c

theorem Represents.stored_iff {file : ConfFile} {c : Configuration}
    (represents : Represents file c) {I : Configuration → Prop} : Stored I file ↔ I c := by
  constructor
  · intro stored
    exact stored stillClock c (by rw [loadConfiguration_of_represents represents]; rfl)
  · intro holds observer c' loaded
    rw [loadConfiguration_of_represents represents] at loaded
    cases loaded
    exact holds

theorem represents_of_run {file final : ConfFile} {c : Configuration}
    (represents : Represents file c) {requests : List (Clocks × Request)}
    (ran : Runs.run requestStep file requests = some final) : ∃ c, Represents final c := by
  apply Runs.invariant (I := fun file => ∃ c, Represents file c) ?_ ran ⟨c, represents⟩
  rintro file ⟨clocks, request⟩ file' stepped ⟨c, represents⟩
  cases stepped
  exact ⟨_, (serve_refines represents clocks request).2⟩

/-- A property that a request keeps exactly under a condition holds of every
configuration stored in a run exactly when every request of the run meets the
condition. -/
theorem stored_iff {I : Configuration → Prop} {P : Clocks × Request → Configuration → Prop}
    (exact : ∀ c step, I c → (P step c ↔ I (Abstract.next step.1 step.2 c))) {file : ConfFile}
    {c : Configuration} (represents : Represents file c) (start : I c)
    (requests : List (Clocks × Request)) :
    (∀ before later final, requests = before ++ later →
        Runs.run requestStep file before = some final → Stored I final) ↔
      Runs.AllSteps requestStep (fun file step => Stored (P step) file) file requests := by
  have step : ∀ file step, (∃ c, Represents file c ∧ I c) → (Stored (P step) file ↔
      ∀ file', requestStep file step = some file' → ∃ c, Represents file' c ∧ I c) := by
    rintro file ⟨clocks, request⟩ ⟨c, represents, holds⟩
    obtain ⟨-, represents'⟩ := serve_refines represents clocks request
    rw [represents.stored_iff, exact c (clocks, request) holds]
    constructor
    · intro next file' stepped
      cases stepped
      exact ⟨_, represents', next⟩
    · intro next
      obtain ⟨c', represents'', holds'⟩ := next _ rfl
      exact represents'.stored_iff.mp (represents''.stored_iff.mpr holds')
  rw [Runs.allSteps_iff step ⟨c, represents, start⟩]
  constructor
  · intro stored before later final split ran
    obtain ⟨c', represents'⟩ := represents_of_run represents ran
    exact ⟨c', represents', represents'.stored_iff.mp (stored before later final split ran)⟩
  · intro holds before later final split ran
    obtain ⟨c', represents', holds'⟩ := holds before later final split ran
    exact represents'.stored_iff.mpr holds'

end DnsProxyServer.Local
