/-
Module: DnsProxyServer.Controller.Web
Purpose: The web interface: which handler an exchange reaches, what each handler answers and
  what it does to the configuration file, the main cache and the network.
Trusted boundary: translation of controller/v1, of IsTestVersion of flags/flags.go and of the
  vendored httpmap; what encoding/json leaves of a body is part of the request, and what it
  is given it encodes; static files and the redirections of net/http are left out
Main exports: HttpRequest, Response, Server, handlers, serve, requestOf, Truthful,
  serve_truthful, WebEvent, webStep, status_tells_the_truth
-/
import DnsProxyServer.Cache.Timed
import DnsProxyServer.Docker.DpsNetwork
import DnsProxyServer.Local.RestView

namespace DnsProxyServer.Controller

open Cache (LRUCache)
open Docker (NetworkDaemon)
open Local
open LoadStore (after)

/-! ### Exchanges -/

/-- What `Decode` leaves in a variable that was zero, and its error. -/
structure Decoding (α : Type) where
  value : α
  err : Option GoString := none

/-- A request as the handlers see it; the body is given by what it decodes to. -/
structure HttpRequest where
  method : GoString
  path : GoString
  query : GoString → GoString
  hostname : Decoding Vo.HostnameV1
  env : Decoding Vo.EnvV1

/-- The values of the main cache: that of `TEST_MODE`, and those of other users, which the
handlers only list. -/
inductive CacheValue (υ : Type) where
  | testMode (on : Bool)
  | other (v : υ)
deriving DecidableEq

/-- What is written as JSON. -/
inductive Content (υ : Type) where
  | empty
  | message (code : Nat) (message : GoString)
  | env (env : Vo.EnvV1)
  | envs (envs : List Vo.EnvV1)
  | hostnames (hostnames : List Vo.HostnameV1)
  | configuration (c : Configuration)
  | results (results : List GoString)
  | caches (entries : List (GoString × Option (CacheValue υ)))
  | size (n : Nat)
deriving DecidableEq

structure Response (υ : Type) where
  status : Nat := 200
  headers : List (GoString × GoString) := []
  content : Content υ := .empty
  indented : Bool := false
deriving DecidableEq

abbrev MainCache (υ : Type) := LRUCache GoString (CacheValue υ) 43690

/-- What the handlers share: the configuration file, the daemon, the main cache, and whether
the flag `test.v` is there. -/
structure Server (σ υ : Type) where
  file : ConfFile
  network : σ
  cache : MainCache υ
  testing : Bool

variable {σ υ : Type}

/-- A handler that panics writes nothing. -/
abbrev Handler (σ υ : Type) :=
  Clocks → HttpRequest → Server σ υ → Except Failure (Response υ) × Server σ υ

def json : List (GoString × GoString) := [("Content-Type".toList, "application/json".toList)]

def respMessage (headers : List (GoString × GoString)) (code : Nat) (msg : GoString) :
    Response υ where
  status := code
  headers := headers
  content := .message code msg

def badRequest (headers : List (GoString × GoString)) (msg : GoString) : Response υ :=
  respMessage headers 400 msg

def confLoadError : Response υ := badRequest json "Could not load conf".toList

/-- A save clears the main cache. -/
def Server.saved (saves : List ConfFile) (s : Server σ υ) : Server σ υ :=
  { s with
    file := after s.file saves
    cache := if saves.isEmpty then s.cache else LRUCache.clear s.cache }

/-- What a handler does once it has loaded the configuration. -/
def withConf (respond : Configuration → Handler σ υ) : Handler σ υ := fun clocks req s =>
  let access := loadConfiguration clocks.load s.file
  match access.result with
  | .ok conf => respond conf clocks req (s.saved access.saves)
  | .error (.error _) => (.ok confLoadError, s.saved access.saves)
  | .error (.panic cause) => (.error (.panic cause), s.saved access.saves)

/-- What a handler answers once the operation has returned. -/
def withResult (success : Response υ) (headers : List (GoString × GoString))
    (request : HttpRequest → Request) : Handler σ υ := fun clocks req s =>
  let access := (request req).serve clocks s.file
  match access.result with
  | .ok () => (.ok success, s.saved access.saves)
  | .error (.error err) => (.ok (badRequest headers err), s.saved access.saves)
  | .error (.panic cause) => (.error (.panic cause), s.saved access.saves)

/-! ### The encoder -/

def testModeKey : GoString := "TEST_MODE".toList

/-- `cache.Get(TEST_MODE).(bool)`. -/
def getTestMode (c : MainCache υ) : Except Failure Bool × MainCache υ :=
  match LRUCache.get c testModeKey with
  | (some (.testMode on), c) => (.ok on, c)
  | (_, c) => (.error (.panic .typeAssertion), c)

def isTestVersion (testing : Bool) (c : MainCache υ) : Except Failure Bool × MainCache υ :=
  getTestMode <|
    if LRUCache.containsKey c testModeKey then c
    else (LRUCache.putIfAbsent c testModeKey (.testMode testing)).2

/-- What a handler does with the encoder of `GetJsonEncoder`, which indents or not. -/
def withJsonEncoder (encode : Bool → Handler σ υ) : Handler σ υ := fun clocks req s =>
  let (test, c) := isTestVersion s.testing s.cache
  match test with
  | .ok test => encode (!test) clocks req { s with cache := c }
  | .error failure => (.error failure, { s with cache := c })

/-! ### The handlers -/

/-- Regular expressions, as `regexp.MatchString`: pattern and text. -/
abbrev MatchString := GoString → GoString → Bool

/-- An error of the pattern is no match. -/
def findHostnameByName (matchString : MatchString) (env : Env) (hostname : GoString) :
    List Hostname :=
  env.hostnames.filter fun host =>
    matchString (".*".toList ++ hostname ++ ".*".toList) host.hostname

def findHostnameByNameAndEnv (matchString : MatchString) (lc : Configuration)
    (envName hostname : GoString) : Except GoString (List Hostname) :=
  match lc.getEnv envName with
  | none => .error "env not found".toList
  | some (env, _) => .ok (findHostnameByName matchString env hostname)

def getEnvActive : Handler σ υ :=
  withConf fun conf => withJsonEncoder fun indent _ _ s =>
    (.ok {
      headers := json
      content := .env { name := conf.activeEnv, hostnames := [] }
      indented := indent }, s)

def putEnvActive : Handler σ υ :=
  withResult { headers := json } json fun req => .putEnvActive req.env.value

def showEnvs (indent : Bool) (conf : Configuration) : Except Failure (Response υ) := do
  let envs ← conf.envs.mapM Vo.fromEnv
  return { headers := json, content := .envs envs, indented := indent }

def getEnv : Handler σ υ :=
  withConf fun conf => withJsonEncoder fun indent _ _ s => (showEnvs indent conf, s)

def postEnv : Handler σ υ :=
  withResult { headers := json } json fun req => .postEnv req.env.value

def deleteEnv : Handler σ υ :=
  withResult { headers := json } json fun req => .deleteEnv req.env.value

def showEnv (req : HttpRequest) (conf : Configuration) : Except Failure (Response υ) :=
  let envName := req.query "env".toList
  match conf.getEnv envName with
  | some (env, _) => do
      let env ← Vo.fromEnv env
      return { headers := json, content := .env env }
  | none => .ok (badRequest json ("Env ".toList ++ envName ++ " not found".toList))

def getHostname : Handler σ υ := withConf fun conf _ req s => (showEnv req conf, s)

def showFound (matchString : MatchString) (req : HttpRequest) (conf : Configuration) :
    Except Failure (Response υ) :=
  let env := req.query "env".toList
  let hostname := req.query "hostname".toList
  match findHostnameByNameAndEnv matchString conf env hostname with
  | .ok hostnames => do
      let hostnames ← Vo.fromHostnames env hostnames
      return { headers := json, content := .hostnames hostnames }
  | .error err => .ok (badRequest json err)

def getHostnameFind (matchString : MatchString) : Handler σ υ :=
  withConf fun conf _ req s => (showFound matchString req conf, s)

def postHostname : Handler σ υ := fun clocks req s =>
  match req.hostname.err with
  | some err => (.ok (badRequest json ("Invalid JSON: ".toList ++ err)), s)
  | none => withResult { status := 201 } [] (fun req => .postHostname req.hostname.value) clocks req s

def putHostname : Handler σ υ := fun clocks req s =>
  match req.hostname.err with
  | some _ => (.ok (badRequest json "Invalid JSON".toList), s)
  | none => withResult {} json (fun req => .putHostname req.hostname.value) clocks req s

def deleteHostname : Handler σ υ :=
  withResult {} json fun req => .deleteHostname req.hostname.value

def getIndex : Handler σ υ := fun _ _ s =>
  (.ok { status := 301, headers := [("Location".toList, "/static".toList)] }, s)

def getConfiguration : Handler σ υ :=
  withConf fun conf => withJsonEncoder fun indent _ _ s =>
    (.ok { headers := json, content := .configuration conf, indented := indent }, s)

def deleteNetworkContainers (daemon : NetworkDaemon σ) : Handler σ υ := fun _ req s =>
  let (errs, network) := daemon.disconnectNetworkContainers (req.query "networkId".toList) s.network
  (.ok { headers := json, content := .results errs }, { s with network := network })

/-- The loop over the keys. -/
def readKeys : List GoString → MainCache υ →
    List (GoString × Option (CacheValue υ)) × MainCache υ
  | [], c => ([], c)
  | k :: rest, c =>
      let (v, c) := LRUCache.get c k
      let (entries, c) := readKeys rest c
      ((k, v) :: entries, c)

/-- The keys, the least recently used first. -/
def keySet (c : MainCache υ) : List GoString := (c.entries.map Prod.fst).reverse

def getCaches : Handler σ υ := withJsonEncoder fun indent _ _ s =>
  let (entries, c) := readKeys (keySet s.cache) s.cache
  (.ok { headers := json, content := .caches entries, indented := indent }, { s with cache := c })

def getCachesSize : Handler σ υ := withJsonEncoder fun indent _ _ s =>
  (.ok { headers := json, content := .size s.cache.entries.length, indented := indent }, s)

/-! ### The routes -/

def getKey (m path : GoString) : GoString := m ++ ' ' :: path

/-- The table that the handlers are registered in. -/
def handlers (daemon : NetworkDaemon σ) (matchString : MatchString) :
    List (GoString × Handler σ υ) :=
  [(getKey "GET".toList "/v1/caches".toList, getCaches),
    (getKey "GET".toList "/v1/caches/size".toList, getCachesSize),
    (getKey "GET".toList "/env/active".toList, getEnvActive),
    (getKey "PUT".toList "/env/active".toList, putEnvActive),
    (getKey "GET".toList "/env/".toList, getEnv),
    (getKey "POST".toList "/env/".toList, postEnv),
    (getKey "DELETE".toList "/env/".toList, deleteEnv),
    (getKey "GET".toList "/hostname/".toList, getHostname),
    (getKey "GET".toList "/hostname/find/".toList, getHostnameFind matchString),
    (getKey "POST".toList "/hostname/".toList, postHostname),
    (getKey "PUT".toList "/hostname/".toList, putHostname),
    (getKey "DELETE".toList "/hostname/".toList, deleteHostname),
    (getKey "GET".toList "/".toList, getIndex),
    (getKey "GET".toList "/configuration/".toList, getConfiguration),
    (getKey "DELETE".toList "/network/disconnect-containers/".toList,
      deleteNetworkContainers daemon)]

def notFound : Response υ where
  status := 404

def serve (daemon : NetworkDaemon σ) (matchString : MatchString) : Handler σ υ :=
  fun clocks req s =>
    match (handlers daemon matchString).lookup (getKey req.method req.path) with
    | some fn => fn clocks req s
    | none => (.ok notFound, s)

/-! ### What an exchange means -/

/-- The request to the store that an exchange makes. -/
def requests : List (GoString × (HttpRequest → Option Request)) :=
  [(getKey "PUT".toList "/env/active".toList, fun req => some (.putEnvActive req.env.value)),
    (getKey "POST".toList "/env/".toList, fun req => some (.postEnv req.env.value)),
    (getKey "DELETE".toList "/env/".toList, fun req => some (.deleteEnv req.env.value)),
    (getKey "POST".toList "/hostname/".toList, fun req =>
      if req.hostname.err = none then some (.postHostname req.hostname.value) else none),
    (getKey "PUT".toList "/hostname/".toList, fun req =>
      if req.hostname.err = none then some (.putHostname req.hostname.value) else none),
    (getKey "DELETE".toList "/hostname/".toList, fun req =>
      some (.deleteHostname req.hostname.value))]

def requestOf (req : HttpRequest) : Option Request :=
  (requests.lookup (getKey req.method req.path)).bind fun request => request req

/-- The configuration after an exchange. -/
def nextConf (clocks : Clocks) (req : HttpRequest) (c : Configuration) : Configuration :=
  match requestOf req with
  | some request => Abstract.next clocks request c
  | none => c

/-- The text of the error that a refusal is reported with. -/
def refusalText (refusal : Refusal) : GoString :=
  match refusal.failure with
  | .error message => message
  | .panic _ => []

/-- The status says what became of the request: with success it was applied, with an error
it was refused, for the reason that the message gives. -/
def Truthful (clocks : Clocks) (req : HttpRequest) (c : Configuration)
    (response : Response υ) : Prop :=
  ∀ request, requestOf req = some request →
    match Abstract.serve clocks request c with
    | .ok _ => response.status = 200 ∨ response.status = 201
    | .error refusal =>
        response.status = 400 ∧ response.content = .message 400 (refusalText refusal)

/-! ### The key of the test mode -/

/-- The key holds what the flag says, when it is there. -/
def TestMode (testing : Bool) (c : MainCache υ) : Prop :=
  ∀ v, Recency.peek c testModeKey = some v → v = .testMode testing

theorem testMode_clear (testing : Bool) (c : MainCache υ) : TestMode testing (LRUCache.clear c) :=
  fun _ found => nomatch found

theorem TestMode.of_peek {testing : Bool} {c c' : MainCache υ} (typed : TestMode testing c)
    (same : Recency.peek c' testModeKey = Recency.peek c testModeKey) : TestMode testing c' :=
  fun v found => typed v (same.symm.trans found)

/-- The call returns what the flag says, and leaves it under the key, used last. -/
theorem isTestVersion_of_testMode {testing : Bool} {c : MainCache υ} (typed : TestMode testing c) :
    isTestVersion testing c = (.ok testing, Recency.add c testModeKey (.testMode testing)) := by
  unfold isTestVersion
  by_cases present : LRUCache.containsKey c testModeKey = true
  · obtain ⟨v, found⟩ := Recency.contains_iff.mp present
    obtain rfl := typed v found
    simp [present, getTestMode, LRUCache.get, found, Recency.touch]
  · have put : (LRUCache.putIfAbsent c testModeKey (.testMode testing)).2 =
        Recency.add c testModeKey (.testMode testing) := by
      unfold LRUCache.putIfAbsent
      exact congrArg Prod.snd (if_neg present)
    have found := Recency.peek_add_self (c := c) (by decide) testModeKey (.testMode testing)
    rw [if_neg present, put]
    simp only [getTestMode, LRUCache.get, found]
    rw [Recency.touch_add_self (by decide)]

/-- What `GetJsonEncoder` leaves. -/
def Server.encoding (s : Server σ υ) : Server σ υ :=
  { s with cache := Recency.add s.cache testModeKey (.testMode s.testing) }

/-- The file holds the configuration, and the key of the test mode its flag. -/
structure Ready (s : Server σ υ) (c : Configuration) : Prop where
  file : Represents s.file c
  testMode : TestMode s.testing s.cache

section Serve

variable {s : Server σ υ} {c : Configuration}

theorem Ready.encoding (ready : Ready s c) : Ready s.encoding c where
  file := ready.file
  testMode := fun _ found =>
    Option.some.inj (found.symm.trans (Recency.peek_add_self (by decide) testModeKey _))

theorem testMode_saved (typed : TestMode s.testing s.cache) (saves : List ConfFile) :
    TestMode (s.saved saves).testing (s.saved saves).cache := by
  simp only [Server.saved]
  split_ifs
  · exact typed
  · exact testMode_clear s.testing s.cache

theorem withJsonEncoder_of_ready (ready : Ready s c) (encode : Bool → Handler σ υ)
    (clocks : Clocks) (req : HttpRequest) :
    withJsonEncoder encode clocks req s = encode (!s.testing) clocks req s.encoding := by
  simp only [withJsonEncoder, isTestVersion_of_testMode ready.testMode]
  rfl

theorem withConf_of_ready (ready : Ready s c) (respond : Configuration → Handler σ υ)
    (clocks : Clocks) (req : HttpRequest) :
    withConf respond clocks req s = respond c clocks req s := by
  simp only [withConf, loadConfiguration_of_represents ready.file]
  rfl

theorem failure_eq (refusal : Refusal) : refusal.failure = .error (refusalText refusal) := by
  cases refusal <;> rfl

theorem withResult_of_ready (ready : Ready s c) (success : Response υ)
    (headers : List (GoString × GoString)) (request : HttpRequest → Request) (clocks : Clocks)
    (req : HttpRequest) :
    (withResult success headers request clocks req s).1 =
        .ok (match Abstract.serve clocks (request req) c with
          | .ok _ => success
          | .error refusal => badRequest headers (refusalText refusal)) ∧
      Ready (withResult success headers request clocks req s).2
        (Abstract.next clocks (request req) c) := by
  obtain ⟨outcome, represents'⟩ := serve_refines ready.file clocks (request req)
  have ready' : Ready (s.saved ((request req).serve clocks s.file).saves)
      (Abstract.next clocks (request req) c) :=
    ⟨represents', testMode_saved ready.testMode _⟩
  simp only [withResult, outcome]
  cases Abstract.serve clocks (request req) c with
  | ok c' => exact ⟨rfl, ready'⟩
  | error refusal =>
      simp only [Except.mapError, Except.map, failure_eq]
      exact ⟨trivial, ready'⟩

/-- What holds of an exchange that a handler serves. -/
def Follows (handler : Handler σ υ) (clocks : Clocks) (req : HttpRequest) (s : Server σ υ)
    (c : Configuration) : Prop :=
  ∃ response, (handler clocks req s).1 = .ok response ∧ Truthful clocks req c response ∧
    Ready (handler clocks req s).2 (nextConf clocks req c)

variable {handler : Handler σ υ} {clocks : Clocks} {req : HttpRequest}

/-- An exchange that makes no request to the store. -/
theorem follows_of_reading (none : requestOf req = none) {response : Response υ}
    {s' : Server σ υ} (served : handler clocks req s = (.ok response, s')) (ready : Ready s' c) :
    Follows handler clocks req s c := by
  refine ⟨response, congrArg Prod.fst served, fun request some => ?_, ?_⟩
  · rw [none] at some
    cases some
  · rw [served, nextConf, none]
    exact ready

theorem follows_of_withResult (ready : Ready s c) {success : Response υ}
    {headers : List (GoString × GoString)} {request : HttpRequest → Request}
    (served : handler clocks req s = withResult success headers request clocks req s)
    (made : requestOf req = some (request req))
    (status : success.status = 200 ∨ success.status = 201) : Follows handler clocks req s c := by
  obtain ⟨answered, ready'⟩ := withResult_of_ready ready success headers request clocks req
  rw [← served] at answered ready'
  refine ⟨_, answered, fun request' made' => ?_, ?_⟩
  · cases made.symm.trans made'
    cases Abstract.serve clocks (request req) c with
    | ok c' => exact status
    | error refusal => exact ⟨rfl, rfl⟩
  · rw [nextConf, made]
    exact ready'

/-- An exchange whose body has to be a record. -/
theorem follows_of_decoded (ready : Ready s c) {invalid : GoString → Response υ}
    {success : Response υ} {headers : List (GoString × GoString)}
    {request : HttpRequest → Request}
    (served : handler clocks req s = match req.hostname.err with
      | some err => (.ok (invalid err), s)
      | none => withResult success headers request clocks req s)
    (made : requestOf req = if req.hostname.err = none then some (request req) else none)
    (status : success.status = 200 ∨ success.status = 201) : Follows handler clocks req s c := by
  cases err : req.hostname.err with
  | some text =>
      rw [err, if_neg (by simp)] at made
      rw [err] at served
      exact follows_of_reading made served ready
  | none =>
      rw [err, if_pos rfl] at made
      rw [err] at served
      exact follows_of_withResult ready served made status

theorem requestOf_of_key {key : GoString} (reached : getKey req.method req.path = key) :
    requestOf req = (requests.lookup key).bind fun request => request req := by
  rw [requestOf, reached]

theorem fromEnv_answers (viewable : Viewable c) {env : Env} (member : env ∈ c.envs) :
    ∃ v, Vo.fromEnv env = .ok v := by
  obtain ⟨v, shown, -⟩ := Vo.toEnv_fromEnv (viewable.records env member)
  exact ⟨v, shown⟩

theorem mem_of_getEnv {envName : GoString} {env : Env} {i : Nat}
    (found : c.getEnv envName = some (env, i)) : env ∈ c.envs :=
  FirstMatch.mem_of_firstMatch found

theorem showEnvs_answers (viewable : Viewable c) (indent : Bool) :
    ∃ response : Response υ, showEnvs indent c = .ok response := by
  obtain ⟨envs, shown⟩ := Traverse.exists_mapM_eq_ok_iff.mpr fun _ member =>
    fromEnv_answers viewable member
  rw [showEnvs, shown]
  exact ⟨_, rfl⟩

theorem showEnv_answers (viewable : Viewable c) (req : HttpRequest) :
    ∃ response : Response υ, showEnv req c = .ok response := by
  rw [showEnv]
  cases found : c.getEnv (req.query "env".toList) with
  | none => exact ⟨_, rfl⟩
  | some place =>
      obtain ⟨v, shown⟩ := fromEnv_answers viewable (mem_of_getEnv found)
      simp only [shown]
      exact ⟨_, rfl⟩

theorem showFound_answers (matchString : MatchString) (viewable : Viewable c) (req : HttpRequest) :
    ∃ response : Response υ, showFound matchString req c = .ok response := by
  rw [showFound, findHostnameByNameAndEnv]
  cases found : c.getEnv (req.query "env".toList) with
  | none => exact ⟨_, rfl⟩
  | some place =>
      have records : ∀ host ∈ findHostnameByName matchString place.1
          (req.query "hostname".toList), Shown host := fun host member =>
        viewable.records _ (mem_of_getEnv found) host (List.mem_of_mem_filter member)
      obtain ⟨views, shown, -⟩ := Vo.exists_fromHostnames records (req.query "env".toList)
      simp only [shown]
      exact ⟨_, rfl⟩

/-- Reading the keys one after the other finds what is under them, and makes them the ones
used last. -/
theorem readKeys_eq (keys : List GoString) : ∀ c : MainCache υ,
    readKeys keys c = (keys.map fun k => (k, Recency.peek c k), keys.foldl Recency.touch c) := by
  induction keys with
  | nil => exact fun _ => rfl
  | cons k rest inductionHypothesis =>
      intro c
      simp only [readKeys, LRUCache.get, inductionHypothesis, Recency.peek_touch, List.map_cons,
        List.foldl_cons]

/-- The whole cache is listed, and is as it was. -/
theorem readKeys_keySet (c : MainCache υ) :
    readKeys (keySet c) c = (c.entries.reverse.map fun entry => (entry.1, some entry.2), c) := by
  rw [readKeys_eq, keySet, Recency.touch_all, ← List.map_reverse, List.map_map]
  refine congrArg (·, c) (List.map_congr_left fun entry member => ?_)
  obtain ⟨front, back, place⟩ := List.append_of_mem (List.mem_reverse.mp member)
  exact congrArg (Prod.mk entry.1) (Recency.peek_of_place place)

theorem registered_of_request (daemon : NetworkDaemon σ) (matchString : MatchString)
    {entry : GoString × (HttpRequest → Option Request)} (member : entry ∈ requests) :
    ∃ handler : Handler σ υ, (entry.1, handler) ∈ handlers daemon matchString := by
  have keys : (requests.map Prod.fst) ⊆
      (handlers daemon matchString : List (GoString × Handler σ υ)).map Prod.fst := by
    simp [requests, handlers]
  obtain ⟨⟨key, handler⟩, registered, same⟩ := List.mem_map.mp (keys (List.mem_map_of_mem member))
  cases same
  exact ⟨handler, registered⟩

/-- What an exchange that no handler is registered for comes to. -/
theorem serve_of_unregistered {daemon : NetworkDaemon σ} {matchString : MatchString}
    (found : (handlers daemon matchString : List (GoString × Handler σ υ)).lookup
      (getKey req.method req.path) = none) :
    (∀ s : Server σ υ, serve daemon matchString clocks req s = (.ok notFound, s)) ∧
      requestOf req = none := by
  refine ⟨fun s => by rw [serve, found], ?_⟩
  rw [List.lookup_eq_none_iff] at found
  have absent : requests.lookup (getKey req.method req.path) = none := by
    rw [List.lookup_eq_none_iff]
    intro entry member
    obtain ⟨handler, registered⟩ :=
      registered_of_request (σ := σ) (υ := υ) daemon matchString member
    exact found (entry.1, handler) registered
  rw [requestOf, absent]
  rfl

/-- The shapes of an exchange: no handler is registered for it, or one of the table serves
it. -/
theorem serve_cases (daemon : NetworkDaemon σ) (matchString : MatchString) (clocks : Clocks)
    (req : HttpRequest) :
    ((∀ s : Server σ υ, serve daemon matchString clocks req s = (.ok notFound, s)) ∧
        requestOf req = none) ∨
      ∃ handler : Handler σ υ,
        (getKey req.method req.path, handler) ∈ handlers daemon matchString ∧
          ∀ s, serve daemon matchString clocks req s = handler clocks req s := by
  cases found : (handlers daemon matchString : List (GoString × Handler σ υ)).lookup
      (getKey req.method req.path) with
  | none => exact Or.inl (serve_of_unregistered found)
  | some handler =>
      obtain ⟨before, later, split, -⟩ := List.lookup_eq_some_iff.mp found
      refine Or.inr ⟨handler, ?_, fun s => by rw [serve, found]⟩
      rw [split]
      simp

theorem Follows.congr {handler' : Handler σ υ} (follows : Follows handler clocks req s c)
    (same : handler' clocks req s = handler clocks req s) : Follows handler' clocks req s c := by
  unfold Follows
  rw [same]
  exact follows

/-- Where the address of every record can be shown, every handler answers, and its status
tells the truth. -/
theorem serve_truthful (daemon : NetworkDaemon σ) (matchString : MatchString) (ready : Ready s c)
    (viewable : Viewable c) (clocks : Clocks) (req : HttpRequest) :
    Follows (serve daemon matchString) clocks req s c := by
  rcases serve_cases (σ := σ) (υ := υ) daemon matchString clocks req with ⟨unserved, unasked⟩ |
    ⟨handler, member, served⟩
  · exact follows_of_reading unasked (unserved s) ready
  · apply Follows.congr _ (served s)
    have conf := fun respond => withConf_of_ready (υ := υ) ready respond clocks req
    have encoded := fun encode => withJsonEncoder_of_ready (υ := υ) ready encode clocks req
    simp only [handlers, List.mem_cons, Prod.mk.injEq, List.not_mem_nil, or_false] at member
    rcases member with ⟨key, rfl⟩ | ⟨key, rfl⟩ | ⟨key, rfl⟩ | ⟨key, rfl⟩ | ⟨key, rfl⟩ |
      ⟨key, rfl⟩ | ⟨key, rfl⟩ | ⟨key, rfl⟩ | ⟨key, rfl⟩ | ⟨key, rfl⟩ | ⟨key, rfl⟩ |
      ⟨key, rfl⟩ | ⟨key, rfl⟩ | ⟨key, rfl⟩ | ⟨key, rfl⟩
    all_goals have made := requestOf_of_key key
    · apply follows_of_reading made (encoded _)
      rw [readKeys_keySet]
      exact ready.encoding
    · exact follows_of_reading made (encoded _) ready.encoding
    · exact follows_of_reading made ((conf _).trans (encoded _)) ready.encoding
    · exact follows_of_withResult ready rfl made (Or.inl rfl)
    · obtain ⟨response, shown⟩ := showEnvs_answers (υ := υ) viewable (!s.testing)
      have answer : getEnv clocks req s = (.ok response, s.encoding) := by
        rw [getEnv, conf, encoded, shown]
      exact follows_of_reading made answer ready.encoding
    · exact follows_of_withResult ready rfl made (Or.inl rfl)
    · exact follows_of_withResult ready rfl made (Or.inl rfl)
    · obtain ⟨response, shown⟩ := showEnv_answers (υ := υ) viewable req
      exact follows_of_reading made ((conf _).trans (congrArg (·, s) shown)) ready
    · obtain ⟨response, shown⟩ := showFound_answers (υ := υ) matchString viewable req
      exact follows_of_reading made ((conf _).trans (congrArg (·, s) shown)) ready
    · exact follows_of_decoded ready rfl made (Or.inr rfl)
    · exact follows_of_decoded ready rfl made (Or.inl rfl)
    · exact follows_of_withResult ready rfl made (Or.inl rfl)
    · exact follows_of_reading made rfl ready
    · exact follows_of_reading made ((conf _).trans (encoded _)) ready.encoding
    · exact follows_of_reading made rfl ⟨ready.file, ready.testMode⟩

theorem viewable_nextConf (viewable : Viewable c) (clocks : Clocks) (req : HttpRequest) :
    Viewable (nextConf clocks req c) := by
  unfold nextConf
  cases requestOf req with
  | none => exact viewable
  | some request => exact viewable_next viewable clocks request

end Serve

/-! ### Runs -/

/-- What other users do with the main cache. -/
inductive CacheUse (υ : Type) where
  | get (key : GoString)
  | put (key : GoString) (value : υ) (other : key ≠ testModeKey)
  | clear

def CacheUse.apply (c : MainCache υ) : CacheUse υ → MainCache υ
  | .get key => (LRUCache.get c key).2
  | .put key value _ => LRUCache.put c key (.other value)
  | .clear => LRUCache.clear c

theorem TestMode.apply {testing : Bool} {c : MainCache υ} (typed : TestMode testing c)
    (use : CacheUse υ) : TestMode testing (use.apply c) := by
  cases use with
  | get key => exact typed.of_peek (Recency.peek_touch c key testModeKey)
  | put key value other =>
      intro v found
      rcases Recency.peek_of_peek_add found with ⟨same, -⟩ | ⟨-, before⟩
      · exact absurd same.symm other
      · exact typed v before
  | clear => exact testMode_clear testing c

inductive WebEvent (υ : Type) where
  | exchange (clocks : Clocks) (req : HttpRequest)
  | cached (use : CacheUse υ)

def webStep (daemon : NetworkDaemon σ) (matchString : MatchString) (s : Server σ υ) :
    WebEvent υ → Server σ υ
  | .exchange clocks req => (serve daemon matchString clocks req s).2
  | .cached use => { s with cache := use.apply s.cache }

/-- The configuration after an event. -/
def confStep (c : Configuration) : WebEvent υ → Configuration
  | .exchange clocks req => nextConf clocks req c
  | .cached _ => c

theorem ready_webStep (daemon : NetworkDaemon σ) (matchString : MatchString) {s : Server σ υ}
    {c : Configuration} (ready : Ready s c) (viewable : Viewable c) (event : WebEvent υ) :
    Ready (webStep daemon matchString s event) (confStep c event) ∧
      Viewable (confStep c event) := by
  cases event with
  | exchange clocks req =>
      obtain ⟨response, -, -, ready'⟩ :=
        serve_truthful daemon matchString ready viewable clocks req
      exact ⟨ready', viewable_nextConf viewable clocks req⟩
  | cached use => exact ⟨⟨ready.file, ready.testMode.apply use⟩, viewable⟩

theorem ready_run (daemon : NetworkDaemon σ) (matchString : MatchString)
    (events : List (WebEvent υ)) : ∀ {s : Server σ υ} {c : Configuration}, Ready s c → Viewable c →
      Ready (events.foldl (webStep daemon matchString) s) (events.foldl confStep c) ∧
        Viewable (events.foldl confStep c) := by
  induction events with
  | nil => exact fun ready viewable => ⟨ready, viewable⟩
  | cons event rest inductionHypothesis =>
      intro s c ready viewable
      obtain ⟨ready', viewable'⟩ := ready_webStep daemon matchString ready viewable event
      exact inductionHypothesis ready' viewable'

/-- The server that has stored its first configuration. -/
def Server.started (network : σ) (testing : Bool) : Server σ υ where
  file := defaultFile
  network := network
  cache := Recency.empty
  testing := testing

def firstConfiguration : Configuration :=
  { defaultConfig with envs := newEmptyEnv }

theorem ready_started (network : σ) (testing : Bool) :
    Ready (Server.started (υ := υ) network testing) firstConfiguration where
  file := represents_defaultFile
  testMode := testMode_clear testing Recency.empty

theorem viewable_firstConfiguration : Viewable firstConfiguration where
  names := by simp [firstConfiguration, Configuration.envNames, newEmptyEnv]
  records := by simp [firstConfiguration, Abstract.AllHosts, newEmptyEnv]

end DnsProxyServer.Controller
