/-
Module: DnsProxyServer.Local.RestView
Purpose: The records and envs as the web interface shows them: what is shown can be
  written back, and nothing changes then.
Trusted boundary: translation of FromHostnames and fromHostname of
  controller/v1/vo/hostname.go and of FromEnv of controller/v1/vo/env.go; encoding/json
  decodes what it encodes
Main exports: Vo.fromHostname, Vo.fromHostnames, Vo.fromEnv, Shown, Vo.toEnv_fromEnv,
  Viewable, viewable_next, written_back_next, view_writes_back
-/
import DnsProxyServer.Local.Names

namespace DnsProxyServer.Local

open FirstMatch (modifyFirst)
open Abstract (AllHosts Introduces named)

/-! ### The view -/

namespace Vo

def fromHostname (env : GoString) (hostname : Hostname) : Except Failure HostnameV1 := do
  let ip ← toIpByteArray {} hostname.ip
  return {
    id := itoa hostname.id
    type := hostname.type
    ttl := hostname.ttl
    target := hostname.target
    ip := ip
    hostname := hostname.hostname
    env := env }

def fromHostnames (env : GoString) (hostnames : List Hostname) :
    Except Failure (List HostnameV1) :=
  hostnames.mapM (fromHostname env)

def fromEnv (env : Env) : Except Failure EnvV1 := do
  let hostnames ← fromHostnames env.name env.hostnames
  return { name := env.name, hostnames := hostnames }

end Vo

/-- An id that is an `int64`, and an address that bytes can hold. -/
structure Shown (host : Hostname) : Prop where
  address : ByteAddress host.ip
  low : minInt64 ≤ host.id
  high : host.id ≤ maxInt64

namespace Vo

/-- A record is shown as one that is read back as the record. -/
theorem toHostname_fromHostname {host : Hostname} (shown : Shown host) (env : GoString) :
    ∃ v, fromHostname env host = .ok v ∧ v.toHostname = host ∧ v.env = env := by
  obtain ⟨⟨ipArray, written⟩, low, high⟩ := shown
  obtain ⟨id, hostname, ip, target, ttl, type⟩ := host
  subst written
  refine ⟨{ id := itoa id, hostname := hostname, ip := ipArray, target := target, ttl := ttl,
            type := type, env := env }, ?_, ?_, rfl⟩
  · rw [fromHostname, toIpByteArray_toIpString]
    rfl
  · simp only [HostnameV1.toHostname, parseInt_itoa low high]

/-- Each record of the view is that of the record at its place. -/
theorem exists_fromHostnames {hostnames : List Hostname} (shown : ∀ host ∈ hostnames, Shown host)
    (env : GoString) :
    ∃ views, fromHostnames env hostnames = .ok views ∧
      List.Forall₂ (fun host (v : HostnameV1) => v.toHostname = host ∧ v.env = env)
        hostnames views :=
  Traverse.exists_mapM_ok fun host member => toHostname_fromHostname (shown host member) env

theorem toEnv_fromEnv {env : Env} (shown : ∀ host ∈ env.hostnames, Shown host) :
    ∃ v, fromEnv env = .ok v ∧ v.toEnv = env := by
  obtain ⟨views, read, each⟩ := exists_fromHostnames shown env.name
  refine ⟨{ name := env.name, hostnames := views }, by rw [fromEnv, read]; rfl, ?_⟩
  have back : fromV1Hostnames views = env.hostnames := by
    rw [fromV1Hostnames, ← List.forall₂_eq_eq_eq, List.forall₂_map_left_iff]
    exact each.flip.imp fun _ _ same => same.1
  rw [EnvV1.toEnv, back]

end Vo

/-! ### What the interface can create -/

theorem shown_toHostname (hostname : Vo.HostnameV1) : Shown hostname.toHostname where
  address := ⟨hostname.ip, rfl⟩
  low := by
    simp only [Vo.HostnameV1.toHostname, Vo.parseInt]
    split
    · decide
    · exact le_max_left _ _
  high := by
    simp only [Vo.HostnameV1.toHostname, Vo.parseInt]
    split
    · decide
    · exact max_le (by decide) (min_le_left _ _)

theorem shown_identify {host : Hostname} (shown : Shown host) (clock : Clock) (n : Nat) :
    Shown (Abstract.identify (clock.reading n) host) := by
  unfold Abstract.identify
  split_ifs
  · have positive := clock.positive n
    exact ⟨shown.address, by simp only [minInt64]; omega, clock.fits n⟩
  · exact shown

/-- Whatever a request writes can be shown. -/
theorem introduces_shown {clocks : Clocks} {request : Request} {operation : Operation}
    (calls : request.operation clocks = some operation) : Introduces Shown operation := by
  cases request with
  | read => cases calls
  | postHostname hostname =>
      cases calls
      exact shown_identify (shown_toHostname hostname) clocks.add 0
  | putHostname hostname =>
      cases calls
      exact fun found shown => ⟨(shown_toHostname hostname).address, shown.low, shown.high⟩
  | deleteHostname hostname =>
      cases calls
      trivial
  | putEnvActive env =>
      cases calls
      trivial
  | postEnv env =>
      cases calls
      intro host member
      obtain ⟨view, -, rfl⟩ := List.mem_map.mp member
      exact shown_toHostname view
  | deleteEnv env =>
      cases calls
      trivial

/-- The names of the envs are distinct and all records can be shown. -/
structure Viewable (c : Configuration) : Prop where
  names : c.envNames.Nodup
  records : AllHosts Shown c

theorem viewable_next {c : Configuration} (viewable : Viewable c) (clocks : Clocks)
    (request : Request) : Viewable (Abstract.next clocks request c) where
  names := envNames_nodup_next viewable.names clocks request
  records := by
    rcases next_cases clocks request c with ⟨operation, calls, applied⟩ | ⟨same, -⟩
    · exact Abstract.allHosts_of_apply (introduces_shown calls) viewable.records applied
    · rw [same]
      exact viewable.records

/-! ### Writing a record back -/

/-- The record an update finds by its id is the one that has not changed. -/
theorem assignHost_eq_self {env : Env} {before later : List Hostname} {host : Hostname}
    (place : env.hostnames = before ++ host :: later)
    (first : ∀ earlier ∈ before, earlier.id ≠ host.id) : Abstract.assignHost host env = env := by
  have found : env.hostnames.find? (fun found => found.id == host.id) = some host := by
    rw [place, List.find?_append, List.find?_eq_none.mpr (by simpa using first)]
    simp
  have fixed : modifyFirst (fun found => found.id == host.id) (fun found => found.assign host)
      env.hostnames = env.hostnames := by
    refine FirstMatch.modifyFirst_eq_self fun record found' => ?_
    cases found.symm.trans found'
    rfl
  rw [Abstract.assignHost, fixed]

/-- An update with the record that is there is accepted and changes nothing. -/
theorem apply_updateHostname_self {c : Configuration} (names : c.envNames.Nodup) {env : Env}
    (member : env ∈ c.envs) {before later : List Hostname} {host : Hostname}
    (place : env.hostnames = before ++ host :: later)
    (first : ∀ earlier ∈ before, earlier.id ≠ host.id) :
    Abstract.apply (.updateHostname env.name host) c = .ok c := by
  have found : c.envs.find? (named env.name) = some env :=
    FirstMatch.find?_key_of_nodup names member
  have known : env.hostnames.any (fun found => found.id == host.id) = true := by
    rw [place]
    simp
  have fixed : modifyFirst (named env.name) (Abstract.assignHost host) c.envs = c.envs := by
    refine FirstMatch.modifyFirst_eq_self fun env' found' => ?_
    cases found.symm.trans found'
    exact assignHost_eq_self place first
  have changed : Abstract.change (.updateHostname env.name host) c = .ok c := by
    simp only [Abstract.change, Abstract.editEnv, found, known, if_true, fixed]
  have kept : Abstract.replenish c = c := if_neg (List.ne_nil_of_mem member)
  rw [Abstract.apply, changed]
  exact congrArg Except.ok kept

/-- The file after a record was read and sent back. -/
theorem written_back_next {file : ConfFile} {c : Configuration} (represents : Represents file c)
    (viewable : Viewable c) {env : Env} (member : env ∈ c.envs) {before later : List Hostname}
    {host : Hostname} (place : env.hostnames = before ++ host :: later)
    (first : ∀ earlier ∈ before, earlier.id ≠ host.id) {record : Vo.HostnameV1}
    (back : record.toHostname = host) (envName : record.env = env.name) (clocks : Clocks) :
    ((Request.putHostname record).serve clocks file).result = .ok () ∧
      Represents ((Request.putHostname record).next clocks file) c := by
  obtain ⟨outcome, represents'⟩ := serve_refines represents clocks (.putHostname record)
  have served : Abstract.serve clocks (.putHostname record) c = .ok c := by
    simp only [Abstract.serve, Request.operation, back, envName]
    exact apply_updateHostname_self viewable.names member place first
  have next : Abstract.next clocks (.putHostname record) c = c := by
    rw [Abstract.next, served]
  rw [served] at outcome
  rw [next] at represents'
  exact ⟨outcome, represents'⟩

/-- After every run of requests from the default configuration, each env is read back as it
is shown, and a record that is the first of its id can be sent back as it is shown: the
update is accepted and the stored configuration is what it was. -/
theorem view_writes_back (requests : List (Clocks × Request)) :
    ∃ final c, Runs.run requestStep defaultFile requests = some final ∧
      (∀ observer, (loadConfiguration observer final).result = .ok c) ∧
      (∀ env ∈ c.envs, ∃ v, Vo.fromEnv env = .ok v ∧ v.toEnv = env) ∧
      ∀ env ∈ c.envs, ∀ before host later, env.hostnames = before ++ host :: later →
        (∀ earlier ∈ before, earlier.id ≠ host.id) →
        ∃ views record, Vo.fromHostnames env.name env.hostnames = .ok views ∧
          views[before.length]? = some record ∧
          ∀ clocks, ((Request.putHostname record).serve clocks final).result = .ok () ∧
            ∀ observer, (loadConfiguration observer
              ((Request.putHostname record).next clocks final)).result = .ok c := by
  have start : Viewable { defaultConfig with envs := newEmptyEnv } :=
    ⟨by simp [Configuration.envNames, newEmptyEnv], by simp [AllHosts, newEmptyEnv]⟩
  have served : ∀ file step, (∃ c, Represents file c ∧ Viewable c) →
      ∃ file', requestStep file step = some file' ∧ ∃ c, Represents file' c ∧ Viewable c := by
    rintro file ⟨clocks, request⟩ ⟨c, represents, viewable⟩
    exact ⟨_, rfl, _, (serve_refines represents clocks request).2,
      viewable_next viewable clocks request⟩
  obtain ⟨final, ran, c, represents, viewable⟩ :=
    Runs.exists_run served ⟨_, represents_defaultFile, start⟩ requests
  have loads : ∀ {file}, Represents file c → ∀ observer,
      (loadConfiguration observer file).result = .ok c := fun represents observer => by
    rw [loadConfiguration_of_represents represents]
    rfl
  refine ⟨final, c, ran, loads represents,
    fun env member => Vo.toEnv_fromEnv (viewable.records env member), ?_⟩
  intro env member before host later place first
  obtain ⟨views, shown, each⟩ :=
    Vo.exists_fromHostnames (viewable.records env member) env.name
  have inside : env.hostnames[before.length]? = some host := by rw [place]; simp
  obtain ⟨record, at', back, envName⟩ := Traverse.exists_getElem?_of_forall₂ each inside
  refine ⟨views, record, shown, at', fun clocks => ?_⟩
  obtain ⟨accepted, represents'⟩ :=
    written_back_next represents viewable member place first back envName clocks
  exact ⟨accepted, loads represents'⟩

end DnsProxyServer.Local
