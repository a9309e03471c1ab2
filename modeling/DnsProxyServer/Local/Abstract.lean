/-
Module: DnsProxyServer.Local.Abstract
Purpose: What the configuration store is for: a list of envs, each a list of
  records, edited at the first env or record that matches; and the proof that the
  loops and slices of the source make these edits.
Trusted boundary: own statement of the purpose of the store
Main exports: Refusal, Abstract.change, Abstract.apply, change_eq,
  Abstract.settings_of_apply, Abstract.allHosts_of_apply
-/
import DnsProxyServer.Local.File

namespace DnsProxyServer.Local

open FirstMatch (modifyFirst any_of_firstMatch firstMatch_eq_none_iff_any)

/-- Why the store refuses an operation. -/
inductive Refusal where
  | envExists (name : GoString)
  | envToRemoveMissing (name : GoString)
  | envToActivateMissing (name : GoString)
  | envMissing
  | typeMissing
  | hostExists (hostname : GoString)
  | hostMissing
  | idMissing (hostname : GoString) (id : Int)
deriving DecidableEq

/-- The error value a refusal is reported with. -/
def Refusal.failure : Refusal → Failure
  | .envExists name => .error ("The '".toList ++ name ++ "' env already exists".toList)
  | .envToRemoveMissing name => .error ("The env '".toList ++ name ++ "' was not found".toList)
  | .envToActivateMissing name => .error ("Env not found: ".toList ++ name)
  | .envMissing => .error "env not found".toList
  | .typeMissing => .error "Type is required".toList
  | .hostExists hostname =>
      .error ("The host '".toList ++ hostname ++ "' already exists".toList)
  | .hostMissing => .error "hostname not found".toList
  | .idMissing hostname id =>
      .error ("not hostname found with name=".toList ++ hostname ++ " and id=".toList ++ itoa id)

namespace Abstract

def named (name : GoString) (env : Env) : Bool := env.name == name

/-- A record without an id gets the reading. -/
def identify (now : Int) (host : Hostname) : Hostname :=
  if host.id = 0 then { host with id := now } else host

def appendHost (host : Hostname) (env : Env) : Env :=
  { env with hostnames := env.hostnames ++ [host] }

def assignHost (host : Hostname) (env : Env) : Env :=
  { env with
    hostnames := modifyFirst (fun found => found.id == host.id)
      (fun found => found.assign host) env.hostnames }

def eraseHost (hostname : GoString) (env : Env) : Env :=
  { env with hostnames := env.hostnames.eraseP fun found => found.hostname == hostname }

@[simp] theorem appendHost_name (host : Hostname) (env : Env) :
    (appendHost host env).name = env.name := rfl

@[simp] theorem assignHost_name (host : Hostname) (env : Env) :
    (assignHost host env).name = env.name := rfl

@[simp] theorem eraseHost_name (hostname : GoString) (env : Env) :
    (eraseHost hostname env).name = env.name := rfl

/-- Edit the first env of that name, after a check of it. -/
def editEnv (name : GoString) (check : Env → Option Refusal) (edit : Env → Env)
    (c : Configuration) : Except Refusal Configuration :=
  match c.envs.find? (named name) with
  | none => .error .envMissing
  | some env =>
      match check env with
      | some refusal => .error refusal
      | none => .ok { c with envs := modifyFirst (named name) edit c.envs }

/-- The documented change of each operation. -/
def change : Operation → Configuration → Except Refusal Configuration
  | .setActiveEnv env, c =>
      if c.envs.any (named env.name) then .ok { c with activeEnv := env.name }
      else .error (.envToActivateMissing env.name)
  | .addEnv env, c =>
      if c.envs.any (named env.name) then .error (.envExists env.name)
      else .ok { c with envs := c.envs ++ [env] }
  | .removeEnvByName name, c =>
      if c.envs.any (named name) then .ok { c with envs := c.envs.eraseP (named name) }
      else .error (.envToRemoveMissing name)
  | .addHostname now name host, c =>
      if host.type = [] then .error .typeMissing
      else
        editEnv name
          (fun env =>
            if env.hostnames.any (fun found => found.hostname == host.hostname) then
              some (.hostExists host.hostname)
            else none)
          (appendHost (identify now host)) c
  | .updateHostname name host, c =>
      editEnv name
        (fun env =>
          if env.hostnames.any (fun found => found.id == host.id) then none
          else some (.idMissing host.hostname host.id))
        (assignHost host) c
  | .removeHostnameByEnvAndHostname name hostname, c =>
      editEnv name
        (fun env =>
          if env.hostnames.any (fun found => found.hostname == hostname) then none
          else some .hostMissing)
        (eraseHost hostname) c

/-- An empty list of envs becomes the single env with the empty name. -/
def replenish (c : Configuration) : Configuration :=
  if c.envs = [] then { c with envs := [{ name := [], hostnames := [] }] } else c

/-- One operation on the abstract store; a refused one changes nothing. -/
def apply (operation : Operation) (c : Configuration) : Except Refusal Configuration :=
  (change operation c).map replenish

end Abstract

/-! ### The source makes these changes -/

theorem change_setActiveEnv (env : Env) (c : Configuration) :
    c.setActiveEnv env = (Abstract.change (.setActiveEnv env) c).mapError Refusal.failure := by
  unfold Configuration.setActiveEnv Configuration.getEnv Abstract.change Abstract.named
  cases search : FirstMatch.firstMatch (fun e => e.name == env.name) c.envs with
  | none => simp [firstMatch_eq_none_iff_any.mp search, Except.mapError, Refusal.failure]
  | some found => simp [any_of_firstMatch search, Except.mapError]

theorem change_addEnv (env : Env) (c : Configuration) :
    c.addEnv env = (Abstract.change (.addEnv env) c).mapError Refusal.failure := by
  unfold Configuration.addEnv Configuration.getEnv Abstract.change Abstract.named
  cases search : FirstMatch.firstMatch (fun e => e.name == env.name) c.envs with
  | none => simp [firstMatch_eq_none_iff_any.mp search, Except.mapError]
  | some found => simp [any_of_firstMatch search, Except.mapError, Refusal.failure]

theorem change_removeEnvByName (name : GoString) (c : Configuration) :
    c.removeEnvByName name =
      (Abstract.change (.removeEnvByName name) c).mapError Refusal.failure := by
  unfold Configuration.removeEnvByName Configuration.getEnv Abstract.change Abstract.named
  cases search : FirstMatch.firstMatch (fun e => e.name == name) c.envs with
  | none => simp [firstMatch_eq_none_iff_any.mp search, Except.mapError, Refusal.failure]
  | some found =>
      simp [any_of_firstMatch search, Except.mapError, Configuration.removeEnv,
        FirstMatch.removeAt_of_firstMatch search]

/-- Setting the found env is editing the first env of that name. -/
private theorem set_found {name : GoString} {c : Configuration} {found : Env × Nat}
    (search : c.getEnv name = some found) (edit : Env → Env) :
    c.envs.set found.2 (edit found.1) = modifyFirst (Abstract.named name) edit c.envs :=
  FirstMatch.set_of_firstMatch search edit

private theorem find_found {name : GoString} {c : Configuration} {found : Env × Nat}
    (search : c.getEnv name = some found) : c.envs.find? (Abstract.named name) = some found.1 :=
  FirstMatch.find?_of_firstMatch search

private theorem find_missing {name : GoString} {c : Configuration}
    (search : c.getEnv name = none) : c.envs.find? (Abstract.named name) = none :=
  FirstMatch.find?_of_firstMatch_none search

theorem change_addHostname (now : Int) (name : GoString) (host : Hostname) (c : Configuration) :
    c.addHostname now name host =
      (Abstract.change (.addHostname now name host) c).mapError Refusal.failure := by
  have typeEq : (Abstract.identify now host).type = host.type := by
    unfold Abstract.identify
    split_ifs <;> rfl
  have nameEq : (Abstract.identify now host).hostname = host.hostname := by
    unfold Abstract.identify
    split_ifs <;> rfl
  have identified : (if host.id = 0 then { host with id := now } else host) =
      Abstract.identify now host := rfl
  simp only [Configuration.addHostname, identified, typeEq, Abstract.change]
  by_cases untyped : host.type = []
  · simp [untyped, Except.mapError, Refusal.failure]
  · simp only [untyped, if_false, Abstract.editEnv]
    cases search : c.getEnv name with
    | none => simp [find_missing search, Except.mapError, Refusal.failure]
    | some found =>
        have written := set_found search (Abstract.appendHost (Abstract.identify now host))
        simp only [find_found search, Env.addHostname, Env.getHostname, nameEq]
        cases inner : FirstMatch.firstMatch (fun h => h.hostname == host.hostname)
            found.1.hostnames with
        | none =>
            simp only [firstMatch_eq_none_iff_any.mp inner, Bool.false_eq_true, if_false]
            exact congrArg (fun envs => Except.ok { c with envs := envs }) written
        | some _ => simp [any_of_firstMatch inner, Except.mapError, Refusal.failure, bind,
            Except.bind]

theorem change_updateHostname (name : GoString) (host : Hostname) (c : Configuration) :
    c.updateHostname name host =
      (Abstract.change (.updateHostname name host) c).mapError Refusal.failure := by
  simp only [Configuration.updateHostname, Abstract.change, Abstract.editEnv]
  cases search : c.getEnv name with
  | none => simp [find_missing search, Except.mapError, Refusal.failure]
  | some found =>
      have written := set_found search (Abstract.assignHost host)
      simp only [find_found search, Env.updateHostname, Env.getHostnameById]
      cases inner : FirstMatch.firstMatch (fun h => h.id == host.id) found.1.hostnames with
      | none => simp [firstMatch_eq_none_iff_any.mp inner, Except.mapError, Refusal.failure, bind,
          Except.bind]
      | some foundHost =>
          have assigned := FirstMatch.set_of_firstMatch inner fun h => h.assign host
          simp only [any_of_firstMatch inner, if_true, assigned]
          exact congrArg (fun envs => Except.ok { c with envs := envs }) written

theorem change_removeHostnameByEnvAndHostname (name hostname : GoString) (c : Configuration) :
    c.removeHostnameByEnvAndHostname name hostname =
      (Abstract.change (.removeHostnameByEnvAndHostname name hostname) c).mapError
        Refusal.failure := by
  simp only [Configuration.removeHostnameByEnvAndHostname, Abstract.change, Abstract.editEnv]
  cases search : c.getEnv name with
  | none => simp [find_missing search, Except.mapError, Refusal.failure]
  | some found =>
      simp only [find_found search, Env.getHostname]
      cases inner : FirstMatch.firstMatch (fun h => h.hostname == hostname)
          found.1.hostnames with
      | none => simp [firstMatch_eq_none_iff_any.mp inner, Except.mapError, Refusal.failure]
      | some foundHost =>
          have erased : { found.1 with
              hostnames := FirstMatch.removeAt found.1.hostnames foundHost.2 } =
                Abstract.eraseHost hostname found.1 := by
            rw [FirstMatch.removeAt_of_firstMatch inner, Abstract.eraseHost]
          have written := (FirstMatch.modify_of_firstMatch search fun env => { env with
              hostnames := FirstMatch.removeAt env.hostnames foundHost.2 }).trans
            (FirstMatch.modifyFirst_congr (find_found search) erased)
          simp only [any_of_firstMatch inner, if_true]
          exact congrArg (fun envs => Except.ok { c with envs := envs }) written

/-- Each operation of the source is its documented change. -/
theorem change_eq (operation : Operation) (c : Configuration) :
    operation.change c = (Abstract.change operation c).mapError Refusal.failure := by
  cases operation with
  | setActiveEnv env => exact change_setActiveEnv env c
  | addEnv env => exact change_addEnv env c
  | removeEnvByName name => exact change_removeEnvByName name c
  | addHostname now name host => exact change_addHostname now name host c
  | updateHostname name host => exact change_updateHostname name host c
  | removeHostnameByEnvAndHostname name hostname =>
      exact change_removeHostnameByEnvAndHostname name hostname c

theorem withEnvs_eq (c : Configuration) : c.withEnvs = Abstract.replenish c := by
  simp only [Configuration.withEnvs, Abstract.replenish, List.length_eq_zero_iff]
  rfl

/-! ### What an operation leaves alone -/

namespace Abstract

theorem apply_eq_ok {operation : Operation} {c c' : Configuration}
    (applied : apply operation c = .ok c') :
    ∃ changed, change operation c = .ok changed ∧ replenish changed = c' := by
  unfold apply at applied
  cases changedEq : change operation c with
  | error refusal => simp [changedEq, Except.map] at applied
  | ok changed =>
      rw [changedEq] at applied
      exact ⟨changed, rfl, Except.ok.inj applied⟩

theorem change_ne_of_refused {operation : Operation} {c : Configuration}
    (refused : ∀ c', apply operation c ≠ .ok c') : ∀ c', change operation c ≠ .ok c' := by
  intro c' changed
  apply refused (replenish c')
  rw [apply, changed]
  rfl

/-- A successful edit found an env and passed its check. -/
theorem editEnv_eq_ok {name : GoString} {check : Env → Option Refusal} {edit : Env → Env}
    {c c' : Configuration} (edited : editEnv name check edit c = .ok c') :
    ∃ env, c.envs.find? (named name) = some env ∧ check env = none ∧
      c' = { c with envs := modifyFirst (named name) edit c.envs } := by
  unfold editEnv at edited
  split at edited
  · exact absurd edited (by simp)
  · rename_i env found
    split at edited
    · exact absurd edited (by simp)
    · rename_i passes
      exact ⟨env, found, passes, (Except.ok.inj edited).symm⟩

/-- The envs and the active env are all a change writes. -/
theorem settings_of_change {operation : Operation} {c c' : Configuration}
    (changed : change operation c = .ok c') :
    c' = { c with envs := c'.envs, activeEnv := c'.activeEnv } := by
  cases operation with
  | setActiveEnv env =>
      simp only [change] at changed
      split_ifs at changed
      cases changed
      rfl
  | addEnv env =>
      simp only [change] at changed
      split_ifs at changed
      cases changed
      rfl
  | removeEnvByName name =>
      simp only [change] at changed
      split_ifs at changed
      cases changed
      rfl
  | addHostname now name host =>
      simp only [change] at changed
      split_ifs at changed
      obtain ⟨env, -, -, rfl⟩ := editEnv_eq_ok changed
      rfl
  | updateHostname name host =>
      obtain ⟨env, -, -, rfl⟩ := editEnv_eq_ok changed
      rfl
  | removeHostnameByEnvAndHostname name hostname =>
      obtain ⟨env, -, -, rfl⟩ := editEnv_eq_ok changed
      rfl

theorem settings_of_replenish (c : Configuration) :
    replenish c = { c with envs := (replenish c).envs } := by
  unfold replenish
  split_ifs <;> rfl

/-- No operation writes the version, the remote servers, a port or a flag. -/
theorem settings_of_apply {operation : Operation} {c c' : Configuration}
    (applied : apply operation c = .ok c') :
    c' = { c with envs := c'.envs, activeEnv := c'.activeEnv } := by
  obtain ⟨changed, changedEq, rfl⟩ := apply_eq_ok applied
  rw [settings_of_replenish changed, settings_of_change changedEq]

/-! ### Properties of all records -/

def AllHosts (P : Hostname → Prop) (c : Configuration) : Prop :=
  ∀ env ∈ c.envs, ∀ host ∈ env.hostnames, P host

/-- Every record the operation writes has the property. -/
def Introduces (P : Hostname → Prop) : Operation → Prop
  | .addEnv env => ∀ host ∈ env.hostnames, P host
  | .addHostname now _ host => P (identify now host)
  | .updateHostname _ host => ∀ found, P found → P (found.assign host)
  | _ => True

/-- An edit of one env that keeps the property of its records. -/
theorem allHosts_modifyFirst {P : Hostname → Prop} {name : GoString} {edit : Env → Env}
    {c : Configuration} (all : AllHosts P c)
    (keeps : ∀ env ∈ c.envs, ∀ host ∈ (edit env).hostnames, P host) :
    AllHosts P { c with envs := modifyFirst (named name) edit c.envs } := by
  intro env member
  rcases FirstMatch.mem_modifyFirst member with old | ⟨source, sourceMember, -, rfl⟩
  · exact all env old
  · exact keeps source sourceMember

theorem allHosts_of_change {P : Hostname → Prop} {operation : Operation} {c c' : Configuration}
    (introduces : Introduces P operation) (all : AllHosts P c)
    (changed : change operation c = .ok c') : AllHosts P c' := by
  cases operation with
  | setActiveEnv env =>
      simp only [change] at changed
      split_ifs at changed
      cases changed
      exact all
  | addEnv env =>
      simp only [change] at changed
      split_ifs at changed
      cases changed
      intro e member
      rcases List.mem_append.mp member with old | new
      · exact all e old
      · obtain rfl := List.mem_singleton.mp new
        exact introduces
  | removeEnvByName name =>
      simp only [change] at changed
      split_ifs at changed
      cases changed
      exact fun env member => all env (List.mem_of_mem_eraseP member)
  | addHostname now name host =>
      simp only [change] at changed
      split_ifs at changed
      obtain ⟨env, -, -, rfl⟩ := editEnv_eq_ok changed
      refine allHosts_modifyFirst all fun source sourceMember h member => ?_
      rcases List.mem_append.mp member with old | new
      · exact all source sourceMember h old
      · obtain rfl := List.mem_singleton.mp new
        exact introduces
  | updateHostname name host =>
      obtain ⟨env, -, -, rfl⟩ := editEnv_eq_ok changed
      refine allHosts_modifyFirst all fun source sourceMember h member => ?_
      rcases FirstMatch.mem_modifyFirst member with old | ⟨found, foundMember, -, rfl⟩
      · exact all source sourceMember h old
      · exact introduces found (all source sourceMember found foundMember)
  | removeHostnameByEnvAndHostname name hostname =>
      obtain ⟨env, -, -, rfl⟩ := editEnv_eq_ok changed
      refine allHosts_modifyFirst all fun source sourceMember h member => ?_
      exact all source sourceMember h (List.mem_of_mem_eraseP member)

theorem allHosts_replenish {P : Hostname → Prop} {c : Configuration} (all : AllHosts P c) :
    AllHosts P (replenish c) := by
  unfold replenish
  split_ifs with empty
  · intro env member host hostMember
    obtain rfl := List.mem_singleton.mp member
    simp at hostMember
  · exact all

/-- A property of all records survives an operation that introduces only records
with the property. -/
theorem allHosts_of_apply {P : Hostname → Prop} {operation : Operation} {c c' : Configuration}
    (introduces : Introduces P operation) (all : AllHosts P c)
    (applied : apply operation c = .ok c') : AllHosts P c' := by
  obtain ⟨changed, changedEq, rfl⟩ := apply_eq_ok applied
  exact allHosts_replenish (allHosts_of_change introduces all changedEq)

end Abstract

end DnsProxyServer.Local
