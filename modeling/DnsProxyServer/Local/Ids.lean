/-
Module: DnsProxyServer.Local.Ids
Purpose: When the ids of records are keys: what a request or a load has to meet so that
  no env holds two records of one id, and that no request changes an id.
Trusted boundary: none
Main exports: DistinctIds, IdsAreKey, FreshIds, FillsFresh, ids_setIds_perm,
  distinctIds_next_iff, keepsIds_of_represents, ids_are_key_iff
-/
import DnsProxyServer.Local.Names

namespace DnsProxyServer.Local

open FirstMatch (removeAt firstMatch_eq_none_iff_any)
open LoadStore (Access after)
open Abstract (named)

def Env.ids (env : Env) : List Int := env.hostnames.map Hostname.id

/-- No record of the env is without an id, and no two have the same. -/
def Env.DistinctIds (env : Env) : Prop := env.ids.Nodup ∧ 0 ∉ env.ids

/-- Ids are keys: they are distinct, and an update changes exactly the record of its
id. -/
structure IdsAreKey (c : Configuration) : Prop where
  distinct : AllEnvs Env.DistinctIds c
  updated : ∀ name host c', c.updateHostname name host = .ok c' →
    ∃ env i, c.getEnv name = some (env, i) ∧ (∃ record ∈ env.hostnames, record.id = host.id) ∧
      c'.envs = c.envs.set i { env with
        hostnames := env.hostnames.map fun record =>
          if record.id = host.id then record.assign host else record }

/-! ### Where new ids come from -/

/-- Successive readings of a clock, each different from the others and from the ids that
are taken. -/
def FreshReadings (clock : Clock) (n count : Nat) (taken : List Int) : Prop :=
  ((List.range' n count).map clock.reading).Nodup ∧
    ∀ k ∈ List.range' n count, clock.reading k ∉ taken

/-- The id `POST /hostname/` leaves to the record, or gives it. -/
def newId (clocks : Clocks) (hostname : Vo.HostnameV1) : Int :=
  if Vo.parseInt hostname.id = 0 then clocks.add.reading 0 else Vo.parseInt hostname.id

/-- What a request has to meet: the readings for the records of a new env are different,
and the id of a new record is not taken in its env. -/
def FreshIds (step : Clocks × Request) (c : Configuration) : Prop :=
  match step.2 with
  | .postEnv env =>
      c.getEnv env.name = none → FreshReadings step.1.handler 0 env.hostnames.length []
  | .postHostname host =>
      ∀ env i, c.getEnv host.env = some (env, i) → host.type ≠ [] →
        env.getHostname host.hostname = none → newId step.1 host ∉ env.ids
  | _ => True

/-- The number of records that get an id when the env is loaded. -/
def Env.unset (env : Env) : Nat := (env.hostnames.filter fun host => host.id = 0).length

/-- What the readings of a load have to meet, from reading `n` on. -/
def FillsFreshFrom (clock : Clock) : Nat → List Env → Prop
  | _, [] => True
  | n, env :: rest =>
      FreshReadings clock n env.unset env.ids ∧ FillsFreshFrom clock (n + env.unset) rest

/-- The file as it was written by hand. -/
def ConfFile.given : ConfFile → List Env
  | .document d =>
      match loadVersionedConfiguration d with
      | .ok c => c.envs
      | .error _ => []
  | _ => []

/-- In each env the ids that are not zero are distinct. -/
def GivenIdsDistinct (file : ConfFile) : Prop :=
  ∀ env ∈ file.given, (env.ids.filter fun id => id ≠ 0).Nodup

def FillsFresh (clock : Clock) (file : ConfFile) : Prop := FillsFreshFrom clock 0 file.given

/-! ### Loading -/

/-- Filling in ids uses one reading for each record without an id, and keeps the other
ids. -/
theorem ids_setIds_perm (clock : Clock) (hosts : List Hostname) : ∀ n,
    ((setIds clock n hosts).1.map Hostname.id).Perm
        ((hosts.map Hostname.id).filter (fun id => id ≠ 0) ++
          (List.range' n (hosts.filter fun host => host.id = 0).length).map clock.reading) ∧
      (setIds clock n hosts).2 = n + (hosts.filter fun host => host.id = 0).length := by
  induction hosts with
  | nil => simp [setIds]
  | cons host rest inductionHypothesis =>
      intro n
      rw [setIds]
      split_ifs with unset
      · obtain ⟨ids, used⟩ := inductionHypothesis (n + 1)
        constructor
        · simp only [List.map_cons, unset, ne_eq, not_true_eq_false, decide_false, decide_true,
            Bool.false_eq_true, not_false_eq_true, List.filter_cons_of_neg,
            List.filter_cons_of_pos, List.length_cons, List.range'_succ]
          exact (ids.cons _).trans List.perm_middle.symm
        · simp only [used, unset, decide_true, List.filter_cons_of_pos, List.length_cons]
          omega
      · obtain ⟨ids, used⟩ := inductionHypothesis n
        constructor
        · simp only [List.map_cons, unset, ne_eq, not_false_eq_true, decide_false, decide_true,
            Bool.false_eq_true, List.filter_cons_of_neg, List.filter_cons_of_pos,
            List.cons_append]
          exact ids.cons _
        · simp only [used, unset, decide_false, Bool.false_eq_true, not_false_eq_true,
            List.filter_cons_of_neg]

theorem distinctIds_setIds_iff (clock : Clock) (n : Nat) {env : Env}
    (given : (env.ids.filter fun id => id ≠ 0).Nodup) :
    Env.DistinctIds { env with hostnames := (setIds clock n env.hostnames).1 } ↔
      FreshReadings clock n env.unset env.ids := by
  have ids := (ids_setIds_perm clock env.hostnames n).1
  have identified : 0 ∉ (setIds clock n env.hostnames).1.map Hostname.id := by
    simpa using setIds_identified clock env.hostnames n
  have distinct : Env.DistinctIds { env with hostnames := (setIds clock n env.hostnames).1 } ↔
      ((setIds clock n env.hostnames).1.map Hostname.id).Nodup := and_iff_left identified
  rw [distinct, ids.nodup_iff, List.nodup_append', FreshReadings]
  have apart : ((env.hostnames.map Hostname.id).filter fun id => id ≠ 0).Disjoint
        ((List.range' n env.unset).map clock.reading) ↔
      ∀ k ∈ List.range' n env.unset, clock.reading k ∉ env.ids := by
    rw [List.disjoint_right]
    constructor
    · intro disjoint k member taken
      have unset : clock.reading k ≠ 0 := Int.ne_of_gt (clock.positive k)
      exact disjoint (List.mem_map_of_mem member)
        (List.mem_filter.mpr ⟨taken, by simpa using unset⟩)
    · intro free id reading taken
      obtain ⟨k, member, rfl⟩ := List.mem_map.mp reading
      exact free k member (List.mem_filter.mp taken).1
  constructor
  · rintro ⟨-, readings, disjoint⟩
    exact ⟨readings, apart.mp disjoint⟩
  · rintro ⟨readings, free⟩
    exact ⟨given, readings, apart.mpr free⟩

theorem distinctIds_setEnvIds_iff (clock : Clock) (envs : List Env) : ∀ n,
    (∀ env ∈ envs, (env.ids.filter fun id => id ≠ 0).Nodup) →
      ((∀ env ∈ (setEnvIds clock n envs).1, env.DistinctIds) ↔ FillsFreshFrom clock n envs) := by
  induction envs with
  | nil => simp [setEnvIds, FillsFreshFrom]
  | cons env rest inductionHypothesis =>
      intro n given
      have used : (setIds clock n env.hostnames).2 = n + env.unset :=
        (ids_setIds_perm clock env.hostnames n).2
      rw [setEnvIds, FillsFreshFrom, List.forall_mem_cons, used,
        distinctIds_setIds_iff clock n (given env (by simp)),
        inductionHypothesis _ fun e member => given e (by simp [member])]

/-- A load of a file whose ids are distinct leaves distinct ids exactly when its readings
are fresh. -/
theorem distinctIds_of_load_iff {clock : Clock} {file : ConfFile} {c : Configuration}
    (given : GivenIdsDistinct file) (loaded : (loadConfiguration clock file).result = .ok c) :
    AllEnvs Env.DistinctIds c ↔ FillsFresh clock file := by
  have empty : Env.DistinctIds { name := [], hostnames := [] } := by
    simp [Env.DistinctIds, Env.ids]
  cases file with
  | unreadable failure => simp [loadConfiguration, Access.ofExcept] at loaded
  | missing =>
      cases loaded
      refine iff_of_true (fun env member => ?_) trivial
      cases List.mem_singleton.mp member
      exact empty
  | document d =>
      obtain ⟨c₀, read, rfl⟩ := loadConfiguration_document_eq_ok loaded
      have envs : (ConfFile.document d).given = c₀.envs := by simp only [ConfFile.given, read]
      rw [GivenIdsDistinct, envs] at given
      rw [FillsFresh, envs, ← distinctIds_setEnvIds_iff clock c₀.envs 0 given]
      rfl

/-- The same records in their order, those that have an id as they were. -/
def KeepsGiven : List Hostname → List Hostname → Prop :=
  List.Forall₂ fun host host' => host.id ≠ 0 → host' = host

theorem keepsGiven_setIds (clock : Clock) (hosts : List Hostname) : ∀ n,
    KeepsGiven hosts (setIds clock n hosts).1 := by
  induction hosts with
  | nil => exact fun _ => List.Forall₂.nil
  | cons host rest inductionHypothesis =>
      intro n
      rw [setIds]
      split_ifs with unset
      · exact List.Forall₂.cons (fun identified => absurd unset identified)
          (inductionHypothesis (n + 1))
      · exact List.Forall₂.cons (fun _ => rfl) (inductionHypothesis n)

/-- A load keeps every env at its place, and every id that was given. -/
def LoadKeepsIds (file : ConfFile) (c : Configuration) : Prop :=
  ∀ (i : Nat) (env : Env), file.given[i]? = some env → ∃ env', c.envs[i]? = some env' ∧
    KeepsGiven env.hostnames env'.hostnames

theorem setEnvIds_keeps (clock : Clock) (envs : List Env) : ∀ (n i : Nat) (env : Env),
    envs[i]? = some env → ∃ env', (setEnvIds clock n envs).1[i]? = some env' ∧
      KeepsGiven env.hostnames env'.hostnames := by
  induction envs with
  | nil => simp
  | cons head rest inductionHypothesis =>
      intro n i env found
      cases i with
      | zero =>
          cases found
          exact ⟨_, rfl, keepsGiven_setIds clock _ n⟩
      | succ i => exact inductionHypothesis _ i env found

theorem loadKeepsIds_of_load {clock : Clock} {file : ConfFile} {c : Configuration}
    (loaded : (loadConfiguration clock file).result = .ok c) : LoadKeepsIds file c := by
  intro i env found
  cases file with
  | unreadable failure => simp [ConfFile.given] at found
  | missing => simp [ConfFile.given] at found
  | document d =>
      obtain ⟨c₀, read, rfl⟩ := loadConfiguration_document_eq_ok loaded
      simp only [ConfFile.given, read] at found
      exact setEnvIds_keeps clock c₀.envs 0 i env found

/-! ### One request -/

theorem ids_withUnixNanoIds (clock : Clock) (hostnames : List Vo.HostnameV1) : ∀ n,
    (Vo.fromV1Hostnames (Vo.withUnixNanoIds clock n hostnames)).map Hostname.id =
      (List.range' n hostnames.length).map clock.reading := by
  induction hostnames with
  | nil => exact fun _ => rfl
  | cons hostname rest inductionHypothesis =>
      intro n
      have tail := inductionHypothesis (n + 1)
      simp only [Vo.fromV1Hostnames] at tail
      simp only [Vo.withUnixNanoIds, Vo.fromV1Hostnames, List.map_cons, List.length_cons,
        List.range'_succ, tail]
      rw [Vo.HostnameV1.toHostname, Vo.parseInt_itoa_reading]

theorem identify_id (clocks : Clocks) (hostname : Vo.HostnameV1) :
    (Abstract.identify (clocks.add.reading 0) hostname.toHostname).id = newId clocks hostname := by
  by_cases unset : Vo.parseInt hostname.id = 0 <;>
    simp [Abstract.identify, newId, Vo.HostnameV1.toHostname, unset]

theorem newId_ne_zero (clocks : Clocks) (hostname : Vo.HostnameV1) : newId clocks hostname ≠ 0 := by
  unfold newId
  split_ifs with unset
  · exact Int.ne_of_gt (clocks.add.positive 0)
  · exact unset

theorem distinctIds_appendHost_iff {env : Env} (distinct : env.DistinctIds) {host : Hostname}
    (identified : host.id ≠ 0) :
    (Abstract.appendHost host env).DistinctIds ↔ host.id ∉ env.ids := by
  have ids : (Abstract.appendHost host env).ids = env.ids ++ [host.id] := by
    simp [Env.ids, Abstract.appendHost]
  rw [Env.DistinctIds, ids, List.nodup_append', List.mem_append]
  constructor
  · rintro ⟨⟨-, -, apart⟩, -⟩ taken
    exact apart taken (List.mem_singleton_self _)
  · intro free
    refine ⟨⟨distinct.1, List.nodup_singleton _, ?_⟩, ?_⟩
    · simpa using free
    · simpa [identified.symm] using distinct.2

theorem ids_assignHost (host : Hostname) (env : Env) :
    (Abstract.assignHost host env).ids = env.ids :=
  FirstMatch.map_modifyFirst (p := fun found : Hostname => found.id == host.id)
    (f := fun found => found.assign host) (g := Hostname.id) (fun _ => rfl) env.hostnames

/-- The ids a new env is given are distinct exactly when the readings are. -/
theorem distinctIds_toEnv_iff (clock : Clock) (env : Vo.EnvV1) :
    Env.DistinctIds ({ env with
        hostnames := Vo.withUnixNanoIds clock 0 env.hostnames : Vo.EnvV1 }.toEnv) ↔
      FreshReadings clock 0 env.hostnames.length [] := by
  have ids := ids_withUnixNanoIds clock env.hostnames 0
  simp only [Env.DistinctIds, Env.ids, Vo.EnvV1.toEnv, ids, FreshReadings, List.not_mem_nil,
    not_false_eq_true, implies_true, and_true]
  apply and_iff_left
  intro unset
  obtain ⟨k, -, zero⟩ := List.mem_map.mp unset
  exact Int.ne_of_gt (clock.positive k) zero

theorem written_ids_postHostname_iff {c changed : Configuration}
    (distinct : AllEnvs Env.DistinctIds c) {clocks : Clocks} {hostname : Vo.HostnameV1}
    (changedEq : Abstract.change (.addHostname (clocks.add.reading 0) hostname.env
      hostname.toHostname) c = .ok changed) :
    Written Env.DistinctIds c
        (.addHostname (clocks.add.reading 0) hostname.env hostname.toHostname) ↔
      FreshIds (clocks, .postHostname hostname) c := by
  simp only [Abstract.change] at changedEq
  split_ifs at changedEq with untyped
  obtain ⟨env, found, passes, -⟩ := Abstract.editEnv_eq_ok changedEq
  have old := distinct env (List.mem_of_find?_eq_some found)
  have exact := distinctIds_appendHost_iff old
    (identify_id clocks hostname ▸ newId_ne_zero clocks hostname)
  rw [identify_id] at exact
  obtain ⟨i, search⟩ := getEnv_iff.mp found
  have free : env.getHostname hostname.hostname = none := by
    split_ifs at passes with taken
    exact firstMatch_eq_none_iff_any.mpr taken
  constructor
  · intro written env' i' search' _ _
    cases search.symm.trans search'
    exact exact.mp (written env found)
  · intro fresh env' found'
    cases found.symm.trans found'
    exact exact.mpr (fresh env i search untyped free)

theorem written_ids_iff {c c' : Configuration} (distinct : AllEnvs Env.DistinctIds c)
    {step : Clocks × Request} {operation : Operation}
    (calls : step.2.operation step.1 = some operation)
    (applied : Abstract.apply operation c = .ok c') :
    Written Env.DistinctIds c operation ↔ FreshIds step c := by
  obtain ⟨changed, changedEq, -⟩ := Abstract.apply_eq_ok applied
  obtain ⟨clocks, request⟩ := step
  cases request with
  | read => cases calls
  | putEnvActive env =>
      cases calls
      rfl
  | deleteEnv env =>
      cases calls
      rfl
  | deleteHostname hostname =>
      cases calls
      refine iff_of_true (fun env found => ?_) trivial
      have old := distinct env (List.mem_of_find?_eq_some found)
      have fewer : (Abstract.eraseHost hostname.hostname env).ids.Sublist env.ids :=
        List.Sublist.map _ List.eraseP_sublist
      exact ⟨old.1.sublist fewer, fun unset => old.2 (fewer.subset unset)⟩
  | putHostname hostname =>
      cases calls
      refine iff_of_true (fun env found => ?_) trivial
      rw [Env.DistinctIds, ids_assignHost]
      exact distinct env (List.mem_of_find?_eq_some found)
  | postEnv env =>
      cases calls
      simp only [Abstract.change] at changedEq
      split_ifs at changedEq with taken
      have missing : c.getEnv env.name = none := firstMatch_eq_none_iff_any.mpr taken
      simp only [Written, FreshIds, missing, true_implies]
      exact distinctIds_toEnv_iff clocks.handler env
  | postHostname hostname =>
      cases calls
      exact written_ids_postHostname_iff distinct changedEq

/-- A refused request meets the condition. -/
theorem freshIds_of_refused {c : Configuration} {step : Clocks × Request}
    (refused : ∀ operation c', step.2.operation step.1 = some operation →
      Abstract.apply operation c ≠ .ok c') : FreshIds step c := by
  obtain ⟨clocks, request⟩ := step
  have unchanged : ∀ operation, request.operation clocks = some operation →
      ∀ c', Abstract.change operation c ≠ .ok c' := fun operation calls =>
    Abstract.change_ne_of_refused fun c' => refused operation c' calls
  cases request with
  | postEnv env =>
      intro missing
      have free : ¬ c.envs.any (named env.name) = true := firstMatch_eq_none_iff_any.mp missing
      exact absurd (if_neg free) (unchanged _ rfl _)
  | postHostname host =>
      intro env i envFound typed absent
      have free : ¬ env.hostnames.any (fun found => found.hostname == host.hostname) = true :=
        firstMatch_eq_none_iff_any.mp absent
      have accepted : ∃ c', Abstract.change
          (.addHostname (clocks.add.reading 0) host.env host.toHostname) c = .ok c' := by
        simp only [Abstract.change, Abstract.editEnv, getEnv_iff.mpr ⟨i, envFound⟩,
          Vo.HostnameV1.toHostname, typed, free, if_false]
        exact ⟨_, rfl⟩
      obtain ⟨c', changed⟩ := accepted
      exact absurd changed (unchanged _ rfl c')
  | read => trivial
  | putHostname hostname => trivial
  | deleteHostname hostname => trivial
  | putEnvActive env => trivial
  | deleteEnv env => trivial

theorem distinctIds_next_iff {c : Configuration} (distinct : AllEnvs Env.DistinctIds c)
    (step : Clocks × Request) :
    FreshIds step c ↔ AllEnvs Env.DistinctIds (Abstract.next step.1 step.2 c) := by
  rw [allEnvs_next_iff (by simp [Env.DistinctIds, Env.ids]) distinct]
  constructor
  · intro fresh operation c' calls applied
    exact (written_ids_iff distinct calls applied).mpr fresh
  · intro written
    rcases next_cases step.1 step.2 c with ⟨operation, calls, applied⟩ | ⟨-, refused⟩
    · exact (written_ids_iff distinct calls applied).mp (written operation _ calls applied)
    · exact freshIds_of_refused refused

theorem idsAreKey_of_distinct {c : Configuration} (distinct : AllEnvs Env.DistinctIds c) :
    IdsAreKey c where
  distinct := distinct
  updated := by
    intro name host c' updated
    rw [change_updateHostname] at updated
    cases edited : Abstract.change (.updateHostname name host) c with
    | error refusal => simp [edited, Except.mapError] at updated
    | ok changed =>
        simp only [edited, Except.mapError] at updated
        cases updated
        obtain ⟨env, found, passes, rfl⟩ := Abstract.editEnv_eq_ok edited
        obtain ⟨i, search⟩ := getEnv_iff.mp found
        have known : ∃ record ∈ env.hostnames, record.id = host.id := by
          split_ifs at passes with known
          simpa using known
        have one := FirstMatch.modifyFirst_eq_map (f := fun record => record.assign host)
          (distinct env (List.mem_of_find?_eq_some found)).1 host.id
        refine ⟨env, i, search, known, ?_⟩
        rw [← one]
        exact (FirstMatch.set_of_firstMatch search (Abstract.assignHost host)).symm

/-! ### No request changes an id -/

/-- The records of an env afterwards: at their places with their ids, with a record
appended, or with one taken out. -/
def KeptIds (before after : List Hostname) : Prop :=
  after.map Hostname.id = before.map Hostname.id ∨ (∃ host, after = before ++ [host]) ∨
    ∃ k, after = removeAt before k

/-- Every env a request does not delete keeps the ids of its records. -/
def KeepsIds (file : ConfFile) : Prop :=
  ∀ (step : Clocks × Request) observer c c',
    (loadConfiguration observer file).result = .ok c →
    (loadConfiguration observer (step.2.next step.1 file)).result = .ok c' →
    ∀ name env i, c.getEnv name = some (env, i) →
      (∀ deleted, step.2 = .deleteEnv deleted → deleted.name ≠ name) →
      ∃ env' i', c'.getEnv name = some (env', i') ∧ KeptIds env.hostnames env'.hostnames

theorem named_apart {name name' : GoString} (differ : name ≠ name') (env : Env)
    (passes : named name env = true) : named name' env = false := by
  simp only [named, beq_iff_eq, beq_eq_false_iff_ne] at passes ⊢
  exact passes ▸ differ

theorem keptIds_editEnv {name name' : GoString} {check : Env → Option Refusal} {edit : Env → Env}
    {c c' : Configuration} {env : Env} (keeps : ∀ e, (edit e).name = e.name)
    (edited : Abstract.editEnv name check edit c = .ok c')
    (found : c.envs.find? (named name') = some env)
    (kept : name = name' → check env = none → KeptIds env.hostnames (edit env).hostnames) :
    ∃ env', c'.envs.find? (named name') = some env' ∧ KeptIds env.hostnames env'.hostnames := by
  obtain ⟨source, sourceFound, passes, rfl⟩ := Abstract.editEnv_eq_ok edited
  have tests : ∀ n e, named n (edit e) = named n e := fun n e => by simp [named, keeps]
  by_cases same : name = name'
  · subst same
    cases found.symm.trans sourceFound
    refine ⟨edit env, ?_, kept rfl passes⟩
    simp only [FirstMatch.find?_modifyFirst (tests name), found, Option.map_some]
  · refine ⟨env, ?_, Or.inl rfl⟩
    simp only [FirstMatch.find?_modifyFirst_of_disjoint (tests name') (named_apart same), found]

theorem keptIds_apply {operation : Operation} {c c' : Configuration} {name : GoString} {env : Env}
    (applied : Abstract.apply operation c = .ok c')
    (found : c.envs.find? (named name) = some env)
    (stays : ∀ deleted, operation = .removeEnvByName deleted → deleted ≠ name) :
    ∃ env', c'.envs.find? (named name) = some env' ∧ KeptIds env.hostnames env'.hostnames := by
  obtain ⟨changed, changedEq, rfl⟩ := Abstract.apply_eq_ok applied
  have kept : ∃ env', changed.envs.find? (named name) = some env' ∧
      KeptIds env.hostnames env'.hostnames := by
    cases operation with
    | setActiveEnv e =>
        simp only [Abstract.change] at changedEq
        split_ifs at changedEq
        cases changedEq
        exact ⟨env, found, Or.inl rfl⟩
    | addEnv e =>
        simp only [Abstract.change] at changedEq
        split_ifs at changedEq
        cases changedEq
        exact ⟨env, by simp [found], Or.inl rfl⟩
    | removeEnvByName deleted =>
        simp only [Abstract.change] at changedEq
        split_ifs at changedEq
        cases changedEq
        refine ⟨env, ?_, Or.inl rfl⟩
        simp only [FirstMatch.find?_eraseP_of_disjoint (named_apart (stays deleted rfl)), found]
    | addHostname now name' host =>
        simp only [Abstract.change] at changedEq
        split_ifs at changedEq
        apply keptIds_editEnv (Abstract.appendHost_name _) changedEq found
        exact fun _ _ => Or.inr (Or.inl ⟨_, rfl⟩)
    | updateHostname name' host =>
        apply keptIds_editEnv (Abstract.assignHost_name _) changedEq found
        exact fun _ _ => Or.inl (ids_assignHost host env)
    | removeHostnameByEnvAndHostname name' hostname =>
        apply keptIds_editEnv (Abstract.eraseHost_name _) changedEq found
        intro _ passes
        cases search : FirstMatch.firstMatch (fun h => h.hostname == hostname) env.hostnames with
        | none =>
            split_ifs at passes with known
            exact absurd known (firstMatch_eq_none_iff_any.mp search)
        | some hit =>
            exact Or.inr (Or.inr ⟨hit.2, (FirstMatch.removeAt_of_firstMatch search).symm⟩)
  obtain ⟨env', found', keptEnv⟩ := kept
  refine ⟨env', ?_, keptEnv⟩
  unfold Abstract.replenish
  split_ifs with empty
  · simp [empty] at found'
  · exact found'

theorem keepsIds_of_represents {file : ConfFile} {c : Configuration}
    (represents : Represents file c) : KeepsIds file := by
  rintro ⟨clocks, request⟩ observer c₁ c₂ loaded loaded' name env i search stays
  obtain ⟨-, represents'⟩ := serve_refines represents clocks request
  rw [loadConfiguration_of_represents represents] at loaded
  rw [loadConfiguration_of_represents represents'] at loaded'
  cases loaded
  cases loaded'
  rcases next_cases clocks request c with ⟨operation, calls, applied⟩ | ⟨same, -⟩
  · have notDeleted : ∀ deleted, operation = .removeEnvByName deleted → deleted ≠ name := by
      rintro deleted rfl
      cases request with
      | deleteEnv e =>
          cases calls
          exact stays e rfl
      | _ => cases calls
    obtain ⟨env', found', kept⟩ := keptIds_apply applied (getEnv_iff.mpr ⟨i, search⟩) notDeleted
    obtain ⟨i', search'⟩ := getEnv_iff.mp found'
    exact ⟨env', i', search', kept⟩
  · rw [same]
    exact ⟨env, i, search, Or.inl rfl⟩

/-! ### Runs -/

/-- From any file whose given ids are distinct on: ids are keys and are kept in every
configuration stored in a run of requests and loads, if and only if the first load and
every request of the run bring fresh ids only. -/
theorem ids_are_key_iff {clock : Clock} {file : ConfFile} {c : Configuration}
    (given : GivenIdsDistinct file) (loaded : (loadConfiguration clock file).result = .ok c)
    (requests : List (Clocks × Request)) :
    (LoadKeepsIds file c ∧ ∀ before later final, requests = before ++ later →
        Runs.run requestStep (after file (loadConfiguration clock file).saves) before =
          some final →
        Stored IdsAreKey final ∧ KeepsIds final) ↔
      FillsFresh clock file ∧
        Runs.AllSteps requestStep (fun file step => Stored (FreshIds step) file)
          (after file (loadConfiguration clock file).saves) requests := by
  have represents := represents_of_load loaded
  have runs := stored_iff (I := AllEnvs Env.DistinctIds) (P := FreshIds)
    (fun _ step distinct => distinctIds_next_iff distinct step) represents
  rw [← distinctIds_of_load_iff given loaded]
  constructor
  · rintro ⟨-, keys⟩
    have distinct : ∀ before later final, requests = before ++ later →
        Runs.run requestStep (after file (loadConfiguration clock file).saves) before =
          some final → Stored (AllEnvs Env.DistinctIds) final := by
      intro before later final split ran observer c' loaded'
      exact ((keys before later final split ran).1 observer c' loaded').distinct
    have start : AllEnvs Env.DistinctIds c :=
      represents.stored_iff.mp (distinct [] requests _ rfl rfl)
    exact ⟨start, (runs start requests).mp distinct⟩
  · rintro ⟨start, meets⟩
    refine ⟨loadKeepsIds_of_load loaded, fun before later final split ran => ?_⟩
    have distinct := (runs start requests).mpr meets before later final split ran
    constructor
    · intro observer c' loaded'
      exact idsAreKey_of_distinct (distinct observer c' loaded')
    · obtain ⟨c', represents'⟩ := represents_of_run represents ran
      exact keepsIds_of_represents represents'

/-- From a file with one record that has no id yet. -/
theorem ids_are_key_fileWithoutId :
    let requests := [(stillClocks, Request.postHostname (record "5" "b.com"))]
    let loaded := after fileWithoutId (loadConfiguration stillClock fileWithoutId).saves
    (LoadKeepsIds fileWithoutId configurationWithId ∧
        ∀ before later final, requests = before ++ later →
          Runs.run requestStep loaded before = some final →
          Stored IdsAreKey final ∧ KeepsIds final) ↔
      FillsFresh stillClock fileWithoutId ∧
        Runs.AllSteps requestStep (fun file step => Stored (FreshIds step) file) loaded
          requests := by
  intro requests loaded
  apply ids_are_key_iff _ rfl
  intro env member
  cases List.mem_singleton.mp member
  decide

theorem IdsAreKey.ids_nodup {c : Configuration} (keys : IdsAreKey c) {idLists : List (List Int)}
    (shown : c.envs.map Env.ids = idLists) : ∀ ids ∈ idLists, ids.Nodup := by
  intro ids member
  rw [← shown] at member
  obtain ⟨env, envMember, rfl⟩ := List.mem_map.mp member
  exact (keys.distinct env envMember).1

/-- A client gives two records one id; the update of the second changes the first. -/
def sameIdRequests : List (Clocks × Request) :=
  [(stillClocks, .postHostname (record "1" "a.com")),
    (stillClocks, .postHostname (record "1" "b.com"))]

/-- The clock gives two records of a new env one id. -/
def sameReadingRequests : List (Clocks × Request) :=
  [(stillClocks, .postEnv {
      name := "x".toList
      hostnames := [record "" "a.com", record "" "b.com"] })]

theorem two_records_of_one_id :
    (∃ final stored, Runs.run requestStep defaultFile sameIdRequests = some final ∧
      (loadConfiguration stillClock final).result = .ok stored ∧
      stored.envs.map Env.ids = [[1, 1]] ∧ ¬ Stored IdsAreKey final) ∧
    (∃ final stored, Runs.run requestStep defaultFile
        (sameIdRequests ++ [(stillClocks, .putHostname (record "1" "c.com"))]) = some final ∧
      (loadConfiguration stillClock final).result = .ok stored ∧
      stored.envs.map Env.names = [["c.com".toList, "b.com".toList]]) ∧
    ∃ final stored, Runs.run requestStep defaultFile sameReadingRequests = some final ∧
      (loadConfiguration stillClock final).result = .ok stored ∧
      stored.envs.map Env.ids = [[], [7, 7]] ∧ ¬ Stored IdsAreKey final := by
  constructor
  · have ran : ∃ final stored, Runs.run requestStep defaultFile sameIdRequests = some final ∧
        (loadConfiguration stillClock final).result = .ok stored ∧
        stored.envs.map Env.ids = [[1, 1]] := ⟨_, _, rfl, rfl, by decide⟩
    obtain ⟨final, stored, ran, loaded, shown⟩ := ran
    refine ⟨final, stored, ran, loaded, shown, fun keys => ?_⟩
    have twice := (keys _ _ loaded).ids_nodup shown [1, 1] (by simp)
    exact absurd twice (by decide)
  · constructor
    · exact ⟨_, _, rfl, rfl, by decide⟩
    · have ran : ∃ final stored,
          Runs.run requestStep defaultFile sameReadingRequests = some final ∧
          (loadConfiguration stillClock final).result = .ok stored ∧
          stored.envs.map Env.ids = [[], [7, 7]] := ⟨_, _, rfl, rfl, by decide⟩
      obtain ⟨final, stored, ran, loaded, shown⟩ := ran
      refine ⟨final, stored, ran, loaded, shown, fun keys => ?_⟩
      have twice := (keys _ _ loaded).ids_nodup shown [7, 7] (by simp)
      exact absurd twice (by decide)

end DnsProxyServer.Local
