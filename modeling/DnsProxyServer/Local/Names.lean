/-
Module: DnsProxyServer.Local.Names
Purpose: When the names of envs and of records are keys: what a request has to meet so
  that no env holds two records of one name, over runs of requests.
Trusted boundary: none
Main exports: DistinctNames, NamesAreKey, FreshNames, distinctNames_next_iff,
  names_are_key_iff
-/
import DnsProxyServer.Local.Concurrency
import DnsProxyServer.Local.Keys

namespace DnsProxyServer.Local

open FirstMatch (modifyFirst removeAt any_of_firstMatch firstMatch_eq_none_iff_any)
open Abstract (named)

def Env.names (env : Env) : List GoString := env.hostnames.map Hostname.hostname

/-- No two envs have one name, and no two records of an env. -/
def DistinctNames (c : Configuration) : Prop :=
  c.envNames.Nodup ∧ AllEnvs (fun env => env.names.Nodup) c

/-- Names are keys: they are distinct, a lookup finds the one record of the name, and
after a record was removed its name is not found. -/
structure NamesAreKey (c : Configuration) : Prop where
  distinct : DistinctNames c
  lookup : ∀ env ∈ c.envs, ∀ host ∈ env.hostnames,
    ∃ i, env.getHostname host.hostname = some (host, i)
  removed : ∀ name hostname c', c.removeHostnameByEnvAndHostname name hostname = .ok c' →
    ∀ env i, c'.getEnv name = some (env, i) → env.getHostname hostname = none

/-- What the operation has to meet: the records of a new env have distinct names, and a
record is not renamed to the name of another record of its env. -/
def FreshNames (c : Configuration) : Operation → Prop
  | .addEnv env => c.getEnv env.name = none → env.names.Nodup
  | .updateHostname name host =>
      ∀ env i found j, c.getEnv name = some (env, i) →
        env.getHostnameById host.id = some (found, j) →
        host.hostname ∉ (removeAt env.hostnames j).map Hostname.hostname
  | _ => True

/-! ### One request -/

theorem DistinctNames.namesAreKey {c : Configuration} (distinct : DistinctNames c) :
    NamesAreKey c where
  distinct := distinct
  lookup := by
    intro env member host hostMember
    have found := FirstMatch.find?_key_of_nodup (distinct.2 env member) hostMember
    rw [← FirstMatch.firstMatch_fst, Option.map_eq_some_iff] at found
    obtain ⟨⟨host', i⟩, search, rfl⟩ := found
    exact ⟨i, search⟩
  removed := by
    intro name hostname c' removed env i found
    rw [change_removeHostnameByEnvAndHostname] at removed
    cases edited : Abstract.change (.removeHostnameByEnvAndHostname name hostname) c with
    | error refusal => simp [edited, Except.mapError] at removed
    | ok changed =>
        simp only [edited, Except.mapError] at removed
        cases removed
        obtain ⟨source, sourceFound, -, rfl⟩ := Abstract.editEnv_eq_ok edited
        have first : (modifyFirst (named name) (Abstract.eraseHost hostname) c.envs).find?
            (named name) = some env := getEnv_iff.mpr ⟨i, found⟩
        rw [FirstMatch.find?_modifyFirst (f := Abstract.eraseHost hostname) (fun _ => rfl),
          sourceFound, Option.map_some] at first
        cases first
        have sourceMember := List.mem_of_find?_eq_some sourceFound
        apply FirstMatch.firstMatch_eq_none.mpr
        have absent := FirstMatch.find?_eraseP_of_nodup (distinct.2 source sourceMember) hostname
        simpa [Abstract.eraseHost] using absent

theorem identify_hostname (now : Int) (host : Hostname) :
    (Abstract.identify now host).hostname = host.hostname := by
  unfold Abstract.identify
  split_ifs <;> rfl

theorem written_names_updateHostname_iff {c changed : Configuration}
    (distinct : AllEnvs (fun env => env.names.Nodup) c) {name : GoString} {host : Hostname}
    (changedEq : Abstract.change (.updateHostname name host) c = .ok changed) :
    Written (fun env => env.names.Nodup) c (.updateHostname name host) ↔
      FreshNames c (.updateHostname name host) := by
  obtain ⟨env, found, passes, -⟩ := Abstract.editEnv_eq_ok changedEq
  have old := distinct env (List.mem_of_find?_eq_some found)
  have search : ∃ record, env.hostnames.find? (fun h => h.id == host.id) = some record := by
    split_ifs at passes with known
    exact Option.isSome_iff_exists.mp (by simpa using known)
  obtain ⟨record, recordFound⟩ := search
  have exact := FirstMatch.nodup_modifyFirst_iff (f := fun h => h.assign host) old recordFound
  constructor
  · intro written env' i found' j envFound hostFound
    cases found.symm.trans (getEnv_iff.mpr ⟨i, envFound⟩)
    rw [FirstMatch.removeAt_of_firstMatch hostFound]
    exact exact.mp (written env found)
  · intro fresh env' envFound
    cases found.symm.trans envFound
    obtain ⟨i, envSearch⟩ := getEnv_iff.mp found
    rw [← FirstMatch.firstMatch_fst, Option.map_eq_some_iff] at recordFound
    obtain ⟨⟨record', j⟩, hostSearch, rfl⟩ := recordFound
    have free := fresh env i record' j envSearch hostSearch
    rw [FirstMatch.removeAt_of_firstMatch hostSearch] at free
    exact exact.mpr free

theorem written_names_iff {c c' : Configuration}
    (distinct : AllEnvs (fun env => env.names.Nodup) c) {operation : Operation}
    (applied : Abstract.apply operation c = .ok c') :
    Written (fun env => env.names.Nodup) c operation ↔ FreshNames c operation := by
  obtain ⟨changed, changedEq, -⟩ := Abstract.apply_eq_ok applied
  cases operation with
  | setActiveEnv env => rfl
  | removeEnvByName name => rfl
  | addEnv env =>
      simp only [Abstract.change] at changedEq
      split_ifs at changedEq with taken
      have missing : c.getEnv env.name = none := firstMatch_eq_none_iff_any.mpr taken
      simp [Written, FreshNames, missing]
  | addHostname now name host =>
      simp only [Abstract.change] at changedEq
      split_ifs at changedEq
      obtain ⟨env, found, passes, -⟩ := Abstract.editEnv_eq_ok changedEq
      refine iff_of_true (fun env' found' => ?_) trivial
      cases found.symm.trans found'
      have absent : host.hostname ∉ env.names := by
        split_ifs at passes with taken
        simpa [Env.names] using taken
      have old := distinct env (List.mem_of_find?_eq_some found)
      simp only [Env.names, Abstract.appendHost, List.map_append, List.map_cons, List.map_nil,
        identify_hostname]
      apply old.append (List.nodup_singleton _)
      simpa using absent
  | updateHostname name host => exact written_names_updateHostname_iff distinct changedEq
  | removeHostnameByEnvAndHostname name hostname =>
      refine iff_of_true (fun env found => ?_) trivial
      have old := distinct env (List.mem_of_find?_eq_some found)
      exact old.sublist (List.Sublist.map _ List.eraseP_sublist)

/-- A refused operation meets the condition. -/
theorem freshNames_of_refused {c : Configuration} {operation : Operation}
    (refused : ∀ c', Abstract.apply operation c ≠ .ok c') : FreshNames c operation := by
  have unchanged := Abstract.change_ne_of_refused refused
  cases operation with
  | addEnv env =>
      intro missing
      have free : ¬ c.envs.any (named env.name) = true := firstMatch_eq_none_iff_any.mp missing
      exact absurd (if_neg free) (unchanged _)
  | updateHostname name host =>
      intro env i found j envFound hostFound
      have known := any_of_firstMatch hostFound
      have accepted : ∃ c', Abstract.change (.updateHostname name host) c = .ok c' := by
        simp only [Abstract.change, Abstract.editEnv, getEnv_iff.mpr ⟨i, envFound⟩, known,
          if_true]
        exact ⟨_, rfl⟩
      obtain ⟨c', changed⟩ := accepted
      exact absurd changed (unchanged c')
  | setActiveEnv env => trivial
  | removeEnvByName name => trivial
  | addHostname now name host => trivial
  | removeHostnameByEnvAndHostname name hostname => trivial

/-- The request, if it calls an operation, calls one that meets the condition. -/
def FreshNamesStep (step : Clocks × Request) (c : Configuration) : Prop :=
  ∀ operation, step.2.operation step.1 = some operation → FreshNames c operation

theorem distinctNames_next_iff {c : Configuration} (distinct : DistinctNames c)
    (step : Clocks × Request) :
    FreshNamesStep step c ↔ DistinctNames (Abstract.next step.1 step.2 c) := by
  have hosts := allEnvs_next_iff (Q := fun env => env.names.Nodup) List.nodup_nil distinct.2
    step.1 step.2
  constructor
  · intro fresh
    constructor
    · exact envNames_nodup_next distinct.1 step.1 step.2
    · apply hosts.mpr
      intro operation c' calls applied
      exact (written_names_iff distinct.2 applied).mpr (fresh operation calls)
  · intro next operation calls
    cases applied : Abstract.apply operation c with
    | error refusal =>
        apply freshNames_of_refused
        simp [applied]
    | ok c' =>
        apply (written_names_iff distinct.2 applied).mp
        exact hosts.mp next.2 operation c' calls applied

/-! ### Runs -/

theorem represents_defaultFile :
    Represents defaultFile { defaultConfig with envs := newEmptyEnv } :=
  represents_of_load rfl

/-- From the default configuration on, names are keys in every configuration stored in a
run of requests if and only if every request of the run brings fresh names only. -/
theorem names_are_key_iff (requests : List (Clocks × Request)) :
    (∀ before later final, requests = before ++ later →
        Runs.run requestStep defaultFile before = some final → Stored NamesAreKey final) ↔
      Runs.AllSteps requestStep (fun file step => Stored (FreshNamesStep step) file)
        defaultFile requests := by
  have start : DistinctNames { defaultConfig with envs := newEmptyEnv } := by
    constructor
    · simp [Configuration.envNames, newEmptyEnv]
    · simp [AllEnvs, newEmptyEnv, Env.names]
  rw [← stored_iff (I := DistinctNames) (P := FreshNamesStep)
    (fun _ step distinct => distinctNames_next_iff distinct step) represents_defaultFile start]
  constructor
  · intro keys before later final split ran observer c loaded
    exact (keys before later final split ran observer c loaded).distinct
  · intro distinct before later final split ran observer c loaded
    exact (distinct before later final split ran observer c loaded).namesAreKey

/-- A record for the default env, with its id as a client writes it. -/
def record (id hostname : String) : Vo.HostnameV1 where
  id := id.toList
  hostname := hostname.toList
  ip := { b0 := 10, b3 := 1 }
  target := []
  ttl := 60
  type := EntryType.A

/-- Two records are created, and the second is renamed to the name of the first. -/
def renameRequests : List (Clocks × Request) :=
  [(stillClocks, .postHostname (record "1" "a.com")),
    (stillClocks, .postHostname (record "2" "b.com")),
    (stillClocks, .putHostname (record "2" "a.com"))]

/-- Two records have one name then, and after that name was deleted it is still found. -/
theorem renamed_record_shadows :
    (∃ final stored, Runs.run requestStep defaultFile renameRequests = some final ∧
      (loadConfiguration stillClock final).result = .ok stored ∧
      (stored.envs.map Env.names) = [["a.com".toList, "a.com".toList]] ∧
      ¬ Stored NamesAreKey final) ∧
    ∃ final stored env i, Runs.run requestStep defaultFile
        (renameRequests ++ [(stillClocks, .deleteHostname (record "" "a.com"))]) = some final ∧
      (loadConfiguration stillClock final).result = .ok stored ∧
      stored.getEnv [] = some (env, i) ∧ (env.getHostname "a.com".toList).isSome = true := by
  constructor
  · refine ⟨_, _, rfl, rfl, by decide, fun keys => ?_⟩
    have distinct := (keys stillClock _ rfl).distinct.2
    have twice : ["a.com".toList, "a.com".toList].Nodup := distinct _ (List.Mem.head _)
    exact absurd twice (by decide)
  · exact ⟨_, _, _, _, rfl, rfl, rfl, by decide⟩

end DnsProxyServer.Local
