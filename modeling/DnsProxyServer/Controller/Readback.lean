/-
Module: DnsProxyServer.Controller.Readback
Purpose: A record that was created over the web interface is shown and found until a request
  removes it, updates it or deletes its env.
Trusted boundary: regexp.MatchString is a parameter; on a text without operators it searches
  as documented
Main exports: Holds, Spared, holds_of_apply, Documented, Fits, documented_iff,
  posted_record_stays_listed
-/
import DnsProxyServer.Controller.Reading
import DnsProxyServer.Lib.Regexp

namespace DnsProxyServer.Controller

open Cache (LRUCache)
open Docker (NetworkDaemon)
open FirstMatch (modifyFirst)
open Local
open Abstract (named)

/-! ### A record in the store -/

/-- The record is in an env of that name. -/
def Holds (name : GoString) (host : Hostname) (c : Configuration) : Prop :=
  ∃ env ∈ c.envs, env.name = name ∧ host ∈ env.hostnames

/-- The operation does not touch the record. -/
def Spared (name : GoString) (host : Hostname) : Operation → Prop
  | .removeEnvByName removed => removed ≠ name
  | .updateHostname env updated => env = name → updated.id ≠ host.id
  | .removeHostnameByEnvAndHostname env hostname => env = name → hostname ≠ host.hostname
  | _ => True

section Store

variable {name : GoString} {host : Hostname} {c c' : Configuration}

theorem holds_editEnv {edited : GoString} {edit : Env → Env}
    (keeps : ∀ env, (edit env).name = env.name)
    (stays : edited = name → ∀ env, host ∈ env.hostnames → host ∈ (edit env).hostnames)
    (holds : Holds name host c) :
    Holds name host { c with envs := modifyFirst (named edited) edit c.envs } := by
  obtain ⟨env, member, rfl, inside⟩ := holds
  rcases FirstMatch.mem_modifyFirst_of_mem (f := edit) member with kept | ⟨found, changed⟩
  · exact ⟨env, kept, rfl, inside⟩
  · have same : env.name = edited := by simpa [named] using found
    exact ⟨edit env, changed, keeps env, stays same.symm env inside⟩

theorem holds_of_change {operation : Operation} (spared : Spared name host operation)
    (holds : Holds name host c) (changed : Abstract.change operation c = .ok c') :
    Holds name host c' := by
  cases operation with
  | setActiveEnv env =>
      simp only [Abstract.change] at changed
      split_ifs at changed
      cases changed
      exact holds
  | addEnv env =>
      simp only [Abstract.change] at changed
      split_ifs at changed
      cases changed
      obtain ⟨env', member, named, inside⟩ := holds
      exact ⟨env', List.mem_append_left _ member, named, inside⟩
  | removeEnvByName removed =>
      simp only [Abstract.change] at changed
      split_ifs at changed
      cases changed
      obtain ⟨env, member, rfl, inside⟩ := holds
      have other : ¬ named removed env = true := by
        simpa [named] using Ne.symm spared
      exact ⟨env, (List.mem_eraseP_of_neg other).mpr member, rfl, inside⟩
  | addHostname now env added =>
      simp only [Abstract.change] at changed
      split_ifs at changed
      obtain ⟨-, -, -, rfl⟩ := Abstract.editEnv_eq_ok changed
      exact holds_editEnv (Abstract.appendHost_name _)
        (fun _ _ inside => List.mem_append_left _ inside) holds
  | updateHostname env updated =>
      obtain ⟨-, -, -, rfl⟩ := Abstract.editEnv_eq_ok changed
      apply holds_editEnv (Abstract.assignHost_name _) _ holds
      intro same found inside
      rcases FirstMatch.mem_modifyFirst_of_mem inside with kept | ⟨hit, -⟩
      · exact kept
      · exact absurd (by simpa using hit) (Ne.symm (spared same))
  | removeHostnameByEnvAndHostname env hostname =>
      obtain ⟨-, -, -, rfl⟩ := Abstract.editEnv_eq_ok changed
      apply holds_editEnv (Abstract.eraseHost_name _) _ holds
      intro same found inside
      have other : ¬ (host.hostname == hostname) = true := by
        simpa using Ne.symm (spared same)
      exact (List.mem_eraseP_of_neg (p := fun found => found.hostname == hostname) other).mpr inside

theorem holds_replenish (holds : Holds name host c) : Holds name host (Abstract.replenish c) := by
  obtain ⟨env, member, named, inside⟩ := holds
  rw [Abstract.replenish, if_neg (List.ne_nil_of_mem member)]
  exact ⟨env, member, named, inside⟩

theorem holds_of_apply {operation : Operation} (spared : Spared name host operation)
    (holds : Holds name host c) (applied : Abstract.apply operation c = .ok c') :
    Holds name host c' := by
  obtain ⟨changed, change, rfl⟩ := Abstract.apply_eq_ok applied
  exact holds_replenish (holds_of_change spared holds change)

/-- A record that is created is there, with its id. -/
theorem holds_of_added {now : Int}
    (applied : Abstract.apply (.addHostname now name host) c = .ok c') :
    Holds name (Abstract.identify now host) c' := by
  obtain ⟨changed, change, rfl⟩ := Abstract.apply_eq_ok applied
  simp only [Abstract.change] at change
  split_ifs at change
  obtain ⟨env, found, -, rfl⟩ := Abstract.editEnv_eq_ok change
  apply holds_replenish
  have keeps : ∀ e, named name (Abstract.appendHost (Abstract.identify now host) e) =
      named name e := fun _ => rfl
  have edited : (modifyFirst (named name) (Abstract.appendHost (Abstract.identify now host))
      c.envs).find? (named name) = some (Abstract.appendHost (Abstract.identify now host) env) := by
    rw [FirstMatch.find?_modifyFirst keeps, found]
    rfl
  refine ⟨_, List.mem_of_find?_eq_some edited, ?_, List.mem_append_right _ List.mem_cons_self⟩
  simpa [named] using List.find?_some found

end Store

/-! ### Requests and events -/

/-- The request does not touch the record. -/
def SparedBy (name : GoString) (host : Hostname) : Request → Prop
  | .deleteEnv env => env.name ≠ name
  | .putHostname hostname => hostname.env = name → hostname.toHostname.id ≠ host.id
  | .deleteHostname hostname => hostname.env = name → hostname.hostname ≠ host.hostname
  | _ => True

theorem spared_of_sparedBy {name : GoString} {host : Hostname} {request : Request}
    (spared : SparedBy name host request) {clocks : Clocks} {operation : Operation}
    (calls : request.operation clocks = some operation) : Spared name host operation := by
  cases request with
  | read => cases calls
  | postHostname hostname =>
      cases calls
      trivial
  | putHostname hostname =>
      cases calls
      exact spared
  | deleteHostname hostname =>
      cases calls
      exact spared
  | putEnvActive env =>
      cases calls
      trivial
  | postEnv env =>
      cases calls
      trivial
  | deleteEnv env =>
      cases calls
      exact spared

/-- Whatever comes, the exchange does not touch the record. -/
def Spares {υ : Type} (name : GoString) (host : Hostname) : WebEvent υ → Prop
  | .exchange _ req => ∀ request, requestOf req = some request → SparedBy name host request
  | .cached _ => True

theorem holds_confStep {υ : Type} {name : GoString} {host : Hostname} {c : Configuration}
    {event : WebEvent υ} (spares : Spares name host event) (holds : Holds name host c) :
    Holds name host (confStep c event) := by
  cases event with
  | exchange clocks req =>
      rw [confStep, nextConf]
      cases made : requestOf req with
      | none => exact holds
      | some request =>
          rcases next_cases clocks request c with ⟨operation, calls, applied⟩ | ⟨same, -⟩
          · exact holds_of_apply (spared_of_sparedBy (spares request made) calls) holds applied
          · simp only [same]
            exact holds
  | cached use => exact holds

theorem holds_run {υ : Type} {name : GoString} {host : Hostname} (events : List (WebEvent υ)) :
    ∀ {c : Configuration}, (∀ event ∈ events, Spares name host event) → Holds name host c →
      Holds name host (events.foldl confStep c) := by
  induction events with
  | nil => exact fun _ holds => holds
  | cons event rest inductionHypothesis =>
      intro c spares holds
      exact inductionHypothesis (fun event member => spares event (List.mem_cons_of_mem _ member))
        (holds_confStep (spares event List.mem_cons_self) holds)

/-! ### Patterns -/

/-- The letters of names. All but the dot stand for themselves in a pattern. -/
def Plain (a : Char) : Prop := a.isAlphanum = true ∨ a = '-' ∨ a = '_' ∨ a = '.'

def any (b : Char) : Bool := b != '\n'

/-- What a letter of a pattern matches. -/
def literal (a : Char) : Char → Bool := if a = '.' then any else fun b => b == a

/-- The expression that `.*hostname.*` is read as. -/
def namePattern (hostname : GoString) : Regexp.Expr Char :=
  .seq (.star any) (.classes (hostname.map literal) (.star any))

/-- `regexp.MatchString` on the patterns that it is given for names. -/
def Documented (matchString : MatchString) : Prop :=
  ∀ hostname text, (∀ a ∈ hostname, Plain a) →
    matchString (".*".toList ++ hostname ++ ".*".toList) text =
      (Regexp.find (namePattern hostname) text).isSome

/-- The name fits a window of the text, letter by letter. -/
def Fits (hostname text : GoString) : Prop :=
  ∃ window, window <:+: text ∧ List.Forall₂ (fun a b => literal a b = true) hostname window

theorem documented_iff {matchString : MatchString} (documented : Documented matchString)
    {hostname : GoString} (plain : ∀ a ∈ hostname, Plain a) (text : GoString) :
    matchString (".*".toList ++ hostname ++ ".*".toList) text = true ↔ Fits hostname text := by
  rw [documented hostname text plain, namePattern, Regexp.find_window_iff]
  simp only [Fits, List.forall₂_map_left_iff]

/-- A name without line breaks fits a text that it is part of. -/
theorem fits_of_part {hostname text : GoString} (part : hostname <:+: text)
    (oneLine : '\n' ∉ hostname) : Fits hostname text := by
  refine ⟨hostname, part, List.forall₂_same.mpr fun a member => ?_⟩
  unfold literal
  split_ifs
  · exact bne_iff_ne.mpr fun same => oneLine (same ▸ member)
  · exact beq_self_eq_true a

/-! ### What is shown -/

section Shown

variable {υ : Type} {name : GoString} {host : Hostname} {c : Configuration}

theorem hostname_of_fromHostname {view : Vo.HostnameV1}
    (shown : Vo.fromHostname name host = .ok view) : view.hostname = host.hostname := by
  unfold Vo.fromHostname at shown
  cases read : toIpByteArray {} host.ip with
  | error failure =>
      rw [read] at shown
      cases shown
  | ok ip =>
      rw [read] at shown
      cases shown
      rfl

/-- A record is shown as it was posted, with the id that it was given. -/
theorem fromHostname_identify (record : Vo.HostnameV1) (now : Int) :
    Vo.fromHostname record.env (Abstract.identify now record.toHostname) =
      .ok { record with id := itoa (Abstract.identify now record.toHostname).id } := by
  have fields : Abstract.identify now record.toHostname =
      { record.toHostname with id := (Abstract.identify now record.toHostname).id } := by
    unfold Abstract.identify
    split_ifs <;> rfl
  rw [fields, Vo.fromHostname]
  simp only [Vo.HostnameV1.toHostname, toIpByteArray_toIpString]
  rfl

theorem getEnv_of_holds (viewable : Viewable c) (holds : Holds name host c) :
    ∃ env i, c.getEnv name = some (env, i) ∧ env ∈ c.envs ∧ env.name = name ∧
      host ∈ env.hostnames := by
  obtain ⟨env, member, rfl, inside⟩ := holds
  obtain ⟨i, found⟩ := getEnv_iff.mp (FirstMatch.find?_key_of_nodup viewable.names member)
  exact ⟨env, i, found, member, rfl, inside⟩

variable {view : Vo.HostnameV1} {req : HttpRequest}

theorem showEnv_of_holds (viewable : Viewable c) (holds : Holds name host c)
    (shown : Vo.fromHostname name host = .ok view) (asked : req.query "env".toList = name) :
    ∃ env, showEnv (υ := υ) req c = .ok { headers := json, content := .env env } ∧
      env.name = name ∧ view ∈ env.hostnames := by
  obtain ⟨env, i, found, member, rfl, inside⟩ := getEnv_of_holds viewable holds
  obtain ⟨views, read, -⟩ :=
    Vo.exists_fromHostnames (viewable.records env member) env.name
  obtain ⟨view', listed, shown'⟩ := Traverse.exists_result_of_mem read inside
  cases shown.symm.trans shown'
  refine ⟨{ name := env.name, hostnames := views }, ?_, rfl, listed⟩
  simp only [showEnv, asked, found, Vo.fromEnv, read]
  rfl

theorem showFound_of_holds (matchString : MatchString) (viewable : Viewable c)
    (holds : Holds name host c) (shown : Vo.fromHostname name host = .ok view)
    (asked : req.query "env".toList = name) :
    ∃ views, showFound (υ := υ) matchString req c =
        .ok { headers := json, content := .hostnames views } ∧
      (view ∈ views ↔ matchString (".*".toList ++ req.query "hostname".toList ++ ".*".toList)
        host.hostname = true) := by
  obtain ⟨env, i, found, member, rfl, inside⟩ := getEnv_of_holds viewable holds
  have records : ∀ host ∈ findHostnameByName matchString env (req.query "hostname".toList),
      Shown host := fun host member' =>
    viewable.records env member host (List.mem_of_mem_filter member')
  obtain ⟨views, read, -⟩ := Vo.exists_fromHostnames records env.name
  refine ⟨views, ?_, ?_⟩
  · simp only [showFound, findHostnameByNameAndEnv, asked, found, read]
    rfl
  · constructor
    · intro listed
      obtain ⟨host', member', shown'⟩ := Traverse.exists_of_mem_mapM read view listed
      have passes := (List.mem_filter.mp member').2
      rwa [← hostname_of_fromHostname shown', hostname_of_fromHostname shown] at passes
    · intro passes
      obtain ⟨view', listed, shown'⟩ :=
        Traverse.exists_result_of_mem read (List.mem_filter.mpr ⟨inside, passes⟩)
      cases shown.symm.trans shown'
      exact listed

end Shown

/-! ### From the post to the reads -/

section Runs

variable {σ υ : Type} (daemon : NetworkDaemon σ) (matchString : MatchString)

/-- A creation that is answered with 201 has put the record into the store. -/
theorem holds_of_created {s : Server σ υ} {c : Configuration} (ready : Ready s c)
    {clocks : Clocks} {req : HttpRequest} (method : req.method = "POST".toList)
    (path : req.path = "/hostname/".toList) {response : Response υ}
    (answered : (serve daemon matchString clocks req s).1 = .ok response)
    (created : response.status = 201) :
    Holds req.hostname.value.env
      (Abstract.identify (clocks.add.reading 0) req.hostname.value.toHostname)
      (nextConf clocks req c) := by
  have served : serve daemon matchString clocks req s = postHostname clocks req s := by
    rw [serve, method, path]
    rfl
  have made : requestOf req =
      if req.hostname.err = none then some (.postHostname req.hostname.value) else none := by
    rw [requestOf, method, path]
    rfl
  rw [served, postHostname] at answered
  cases err : req.hostname.err with
  | some text =>
      rw [err] at answered
      cases answered
      cases created
  | none =>
      rw [err] at answered
      rw [err, if_pos rfl] at made
      obtain ⟨outcome, -⟩ := withResult_of_ready ready { status := 201 } []
        (fun req => .postHostname req.hostname.value) clocks req
      have same := Except.ok.inj (answered.symm.trans outcome)
      rw [nextConf, made]
      cases applied : Abstract.serve clocks (.postHostname req.hostname.value) c with
      | error refusal =>
          rw [applied] at same
          rw [same] at created
          cases created
      | ok c' =>
          simp only [Abstract.next, applied]
          exact holds_of_added applied

section Reads

variable {s : Server σ υ} {c : Configuration} {name : GoString} {host : Hostname}
  {view : Vo.HostnameV1} {req : HttpRequest}

theorem getHostname_of_holds (ready : Ready s c) (viewable : Viewable c)
    (holds : Holds name host c) (shown : Vo.fromHostname name host = .ok view)
    (asked : req.query "env".toList = name) (reads : req.method = "GET".toList)
    (path : req.path = "/hostname/".toList) (clocks : Clocks) :
    ∃ env, (serve daemon matchString clocks req s).1 =
        .ok { headers := json, content := .env env } ∧
      env.name = name ∧ view ∈ env.hostnames := by
  have served : serve daemon matchString clocks req s = getHostname clocks req s := by
    rw [serve, reads, path]
    rfl
  obtain ⟨env, answer, inEnv, listed⟩ :=
    showEnv_of_holds (υ := υ) viewable holds shown asked
  refine ⟨env, ?_, inEnv, listed⟩
  rw [served, getHostname, withConf_of_ready ready]
  exact answer

theorem getHostnameFind_of_holds (ready : Ready s c) (viewable : Viewable c)
    (holds : Holds name host c) (shown : Vo.fromHostname name host = .ok view)
    (asked : req.query "env".toList = name) (reads : req.method = "GET".toList)
    (path : req.path = "/hostname/find/".toList) (clocks : Clocks) :
    ∃ views, (serve daemon matchString clocks req s).1 =
        .ok { headers := json, content := .hostnames views } ∧
      (view ∈ views ↔ matchString (".*".toList ++ req.query "hostname".toList ++ ".*".toList)
        host.hostname = true) := by
  have served : serve daemon matchString clocks req s =
      getHostnameFind matchString clocks req s := by
    rw [serve, reads, path]
    rfl
  obtain ⟨views, answer, listed⟩ :=
    showFound_of_holds (υ := υ) matchString viewable holds shown asked
  refine ⟨views, ?_, listed⟩
  rw [served, getHostnameFind, withConf_of_ready ready]
  exact answer

end Reads

/-- Take any run of exchanges and of other uses of the main cache. A record whose creation is
answered with 201 is shown from then on, under its env and with all its fields, and it is
found by every name that fits, until a request updates it, removes it or deletes its env. -/
theorem posted_record_stays_listed {matchString : MatchString}
    (documented : Documented matchString) (network : σ) (testing : Bool)
    (before : List (WebEvent υ)) {s : Server σ υ}
    (ran : before.foldl (webStep daemon matchString) (Server.started network testing) = s)
    {clocks : Clocks} {post : HttpRequest} (method : post.method = "POST".toList)
    (path : post.path = "/hostname/".toList) {response : Response υ}
    (answered : (serve daemon matchString clocks post s).1 = .ok response)
    (created : response.status = 201) {record : Vo.HostnameV1}
    (posted : post.hostname.value = record) {host : Hostname}
    (stored : Abstract.identify (clocks.add.reading 0) record.toHostname = host)
    (later : List (WebEvent υ)) (spares : ∀ event ∈ later, Spares record.env host event)
    (observer : Clocks) {req : HttpRequest} (reads : req.method = "GET".toList)
    (asked : req.query "env".toList = record.env) :
    let s' := later.foldl (webStep daemon matchString) (serve daemon matchString clocks post s).2
    (req.path = "/hostname/".toList →
      ∃ env, (serve daemon matchString observer req s').1 =
          .ok { headers := json, content := .env env } ∧
        env.name = record.env ∧ { record with id := itoa host.id } ∈ env.hostnames) ∧
    (req.path = "/hostname/find/".toList → (∀ a ∈ req.query "hostname".toList, Plain a) →
      ∃ views, (serve daemon matchString observer req s').1 =
          .ok { headers := json, content := .hostnames views } ∧
        ({ record with id := itoa host.id } ∈ views ↔
          Fits (req.query "hostname".toList) record.hostname)) := by
  subst ran posted stored
  obtain ⟨ready, viewable⟩ := ready_run daemon matchString before
    (ready_started (υ := υ) network testing) viewable_firstConfiguration
  obtain ⟨ready', viewable'⟩ :=
    ready_webStep daemon matchString ready viewable (.exchange clocks post)
  obtain ⟨last, viewable''⟩ := ready_run daemon matchString later ready' viewable'
  have holds := holds_run later spares
    (holds_of_created daemon matchString ready method path answered created)
  have shown := fromHostname_identify post.hostname.value (clocks.add.reading 0)
  have named := hostname_of_fromHostname shown
  constructor
  · intro path'
    exact getHostname_of_holds daemon matchString last viewable'' holds shown asked reads path'
      observer
  · intro path' plain
    obtain ⟨views, answer, listed⟩ := getHostnameFind_of_holds daemon matchString last
      viewable'' holds shown asked reads path' observer
    refine ⟨views, answer, ?_⟩
    rw [listed, ← named]
    exact documented_iff documented plain _

end Runs

/-! ### Two records -/

/-- The search on the patterns for names. -/
def matchPlain : MatchString := fun pattern text =>
  (Regexp.find (namePattern (pattern.drop 2).dropLast.dropLast) text).isSome

theorem documented_matchPlain : Documented matchPlain := by
  intro hostname text _
  have middle : (".*".toList ++ hostname ++ ".*".toList).drop 2 = hostname ++ ['.'] ++ ['*'] := by
    simp
  rw [matchPlain, middle, List.dropLast_concat, List.dropLast_concat]

def createFirst : HttpRequest := requestWith "POST" "/hostname/" (record "1" "a.com")

/-- The exchanges after it: another record, a removal of a third one, and a read. -/
def laterEvents : List (WebEvent Nat) :=
  [.exchange stillClocks (requestWith "POST" "/hostname/" (record "2" "b.com")),
    .exchange stillClocks (requestWith "DELETE" "/hostname/" (record "" "c.com")),
    .exchange stillClocks (requestWith "GET" "/env/" (record "" ""))]

def findHostname (hostname : String) : HttpRequest :=
  { requestWith "GET" "/hostname/find/" (record "" "") with
    query := fun name => if name = "hostname".toList then hostname.toList else [] }

theorem posted_record_stays_listed_first :
    ∃ views, (serve (Docker.poolDaemon []) matchPlain stillClocks (findHostname "a.c")
        (laterEvents.foldl (webStep (Docker.poolDaemon []) matchPlain)
          (serve (Docker.poolDaemon []) matchPlain stillClocks createFirst
            (Server.started none false)).2)).1 =
        .ok { headers := json, content := .hostnames views } ∧ record "1" "a.com" ∈ views := by
  have spares : ∀ event ∈ laterEvents, Spares [] (record "1" "a.com").toHostname event := by
    intro event member
    simp only [laterEvents, List.mem_cons, List.not_mem_nil, or_false] at member
    rcases member with rfl | rfl | rfl
    · intro request made
      cases made
      trivial
    · intro request made
      cases made
      exact fun _ => by decide
    · intro request made
      cases made
  have answered : (serve (Docker.poolDaemon []) matchPlain stillClocks createFirst
      (Server.started none false)).1 = .ok ({ status := 201 } : Response Nat) := rfl
  obtain ⟨-, find⟩ := posted_record_stays_listed (Docker.poolDaemon []) documented_matchPlain none
    false [] rfl rfl rfl answered rfl rfl rfl laterEvents spares stillClocks
    (show (findHostname "a.c").method = "GET".toList from rfl) rfl
  have part : "a.c".toList <:+: "a.com".toList := ⟨[], "om".toList, by decide⟩
  have fits : Fits "a.c".toList "a.com".toList := fits_of_part part (by decide)
  have plain : ∀ a ∈ "a.c".toList, Plain a := by simp [Plain]
  obtain ⟨views, answer, listed⟩ := find rfl plain
  exact ⟨views, answer, listed.mpr fits⟩

end DnsProxyServer.Controller
