/-
Module: DnsProxyServer.Controller.Reading
Purpose: The GET exchanges of the web interface leave no trace: what follows them is answered
  as if they had not been made.
Trusted boundary: none
Main exports: IsGet, Unread, Keyed, get_answers, unread_step, reading_leaves_no_trace
-/
import DnsProxyServer.Controller.Web
import DnsProxyServer.Docker.DpsAddress

namespace DnsProxyServer.Controller

open Cache (LRUCache)
open Docker (NetworkDaemon)
open Local
open Recency (SameBut)

variable {σ υ : Type}

/-! ### Methods -/

/-- A key gives back its method when the registered one has no more blanks. -/
theorem method_of_getKey {m path m' path' : GoString} (same : getKey m path = getKey m' path')
    (plain : ' ' ∉ m') (plain' : ' ' ∉ path') : m = m' := by
  rcases List.append_eq_append_iff.mp same with ⟨rest, method, place⟩ | ⟨rest, method, place⟩
  · cases rest with
    | nil => simpa using method.symm
    | cons a rest =>
        obtain ⟨rfl, -⟩ := List.cons.inj place
        exact absurd (method ▸ by simp) plain
  · cases rest with
    | nil => simpa using method
    | cons a rest =>
        obtain ⟨rfl, inside⟩ := List.cons.inj place
        exact absurd (inside ▸ by simp) plain'

def IsGet (req : HttpRequest) : Prop := req.method = "GET".toList

instance (req : HttpRequest) : Decidable (IsGet req) :=
  inferInstanceAs (Decidable (req.method = _))

/-- The handlers registered with `Get`. -/
def readers (matchString : MatchString) : List (Handler σ υ) :=
  [getCaches, getCachesSize, getEnvActive, getEnv, getHostname, getHostnameFind matchString,
    getIndex, getConfiguration]

def writers (daemon : NetworkDaemon σ) : List (Handler σ υ) :=
  [putEnvActive, postEnv, deleteEnv, postHostname, putHostname, deleteHostname,
    deleteNetworkContainers daemon]

section Methods

variable {daemon : NetworkDaemon σ} {matchString : MatchString} {req : HttpRequest}
  {handler : Handler σ υ}

theorem mem_readers (registered : (getKey req.method req.path, handler) ∈
    handlers daemon matchString) (reads : IsGet req) : handler ∈ readers matchString := by
  have get : ∀ {m path : GoString}, getKey req.method req.path = getKey m path →
      ' ' ∉ m → ' ' ∉ path → m = "GET".toList := fun same plain plain' =>
    (method_of_getKey same plain plain').symm.trans reads
  simp only [handlers, List.mem_cons, Prod.mk.injEq, List.not_mem_nil, or_false] at registered
  rcases registered with ⟨key, rfl⟩ | ⟨key, rfl⟩ | ⟨key, rfl⟩ | ⟨key, rfl⟩ | ⟨key, rfl⟩ |
    ⟨key, rfl⟩ | ⟨key, rfl⟩ | ⟨key, rfl⟩ | ⟨key, rfl⟩ | ⟨key, rfl⟩ | ⟨key, rfl⟩ |
    ⟨key, rfl⟩ | ⟨key, rfl⟩ | ⟨key, rfl⟩ | ⟨key, rfl⟩
  all_goals first
    | exact absurd (get key (by decide) (by decide)) (by decide)
    | simp [readers]

theorem mem_writers (registered : (getKey req.method req.path, handler) ∈
    handlers daemon matchString) (writes : ¬ IsGet req) : handler ∈ writers daemon := by
  have other : ∀ {path : GoString}, getKey req.method req.path = getKey "GET".toList path →
      ' ' ∉ path → False := fun same plain =>
    writes (method_of_getKey same (by decide) plain)
  simp only [handlers, List.mem_cons, Prod.mk.injEq, List.not_mem_nil, or_false] at registered
  rcases registered with ⟨key, rfl⟩ | ⟨key, rfl⟩ | ⟨key, rfl⟩ | ⟨key, rfl⟩ | ⟨key, rfl⟩ |
    ⟨key, rfl⟩ | ⟨key, rfl⟩ | ⟨key, rfl⟩ | ⟨key, rfl⟩ | ⟨key, rfl⟩ | ⟨key, rfl⟩ |
    ⟨key, rfl⟩ | ⟨key, rfl⟩ | ⟨key, rfl⟩ | ⟨key, rfl⟩
  all_goals first
    | exact absurd key fun key => other key (by decide)
    | simp [writers]

end Methods

/-! ### What the handlers depend on -/

/-- A handler that looks at the file and the network, and clears the cache or does not. -/
def Blind (handler : Handler σ υ) (clocks : Clocks) (req : HttpRequest) : Prop :=
  ∀ s s', s.file = s'.file → s.network = s'.network →
    (handler clocks req s).1 = (handler clocks req s').1 ∧
    (handler clocks req s).2.file = (handler clocks req s').2.file ∧
    (handler clocks req s).2.network = (handler clocks req s').2.network ∧
    (handler clocks req s).2.testing = s.testing ∧
    (handler clocks req s').2.testing = s'.testing ∧
    ((handler clocks req s).2.cache = s.cache ∧ (handler clocks req s').2.cache = s'.cache ∨
      (handler clocks req s).2.cache = Recency.empty ∧
        (handler clocks req s').2.cache = Recency.empty)

theorem blind_withResult (success : Response υ) (headers : List (GoString × GoString))
    (request : HttpRequest → Request) (clocks : Clocks) (req : HttpRequest) :
    Blind (σ := σ) (withResult success headers request) clocks req := by
  intro s s' file network
  simp only [withResult, Server.saved, file]
  have caches : ∀ saves : List ConfFile,
      ((if saves.isEmpty then s.cache else LRUCache.clear s.cache) = s.cache ∧
        (if saves.isEmpty then s'.cache else LRUCache.clear s'.cache) = s'.cache) ∨
      ((if saves.isEmpty then s.cache else LRUCache.clear s.cache) = Recency.empty ∧
        (if saves.isEmpty then s'.cache else LRUCache.clear s'.cache) = Recency.empty) := by
    intro saves
    cases saves with
    | nil => exact Or.inl ⟨rfl, rfl⟩
    | cons saved later => exact Or.inr ⟨rfl, rfl⟩
  generalize (request req).serve clocks s'.file = access
  split
  · exact ⟨rfl, rfl, network, rfl, rfl, caches _⟩
  · exact ⟨rfl, rfl, network, rfl, rfl, caches _⟩
  · exact ⟨rfl, rfl, network, rfl, rfl, caches _⟩

theorem blind_of_answer {handler : Handler σ υ} {clocks : Clocks} {req : HttpRequest}
    {response : Response υ} (answers : ∀ s, handler clocks req s = (.ok response, s)) :
    Blind handler clocks req := by
  intro s s' file network
  simp only [answers]
  exact ⟨trivial, file, network, trivial, trivial, Or.inl ⟨trivial, trivial⟩⟩

theorem blind_of_decoded {handler : Handler σ υ} {clocks : Clocks} {req : HttpRequest}
    {invalid : GoString → Response υ} {success : Response υ}
    {headers : List (GoString × GoString)} {request : HttpRequest → Request}
    (served : ∀ s, handler clocks req s = match req.hostname.err with
      | some err => (.ok (invalid err), s)
      | none => withResult success headers request clocks req s) : Blind handler clocks req := by
  cases err : req.hostname.err with
  | some text =>
      simp only [err] at served
      exact blind_of_answer served
  | none =>
      simp only [err] at served
      intro s s'
      rw [served, served]
      exact blind_withResult success headers request clocks req s s'

/-- What is not a GET does not look at the cache. -/
theorem blind_serve (daemon : NetworkDaemon σ) (matchString : MatchString) (clocks : Clocks)
    {req : HttpRequest} (writes : ¬ IsGet req) :
    Blind (υ := υ) (serve daemon matchString) clocks req := by
  rcases serve_cases (σ := σ) (υ := υ) daemon matchString clocks req with ⟨unserved, -⟩ |
    ⟨handler, registered, served⟩
  · exact blind_of_answer unserved
  · have member := mem_writers registered writes
    intro s s'
    rw [served, served]
    revert s s'
    simp only [writers, List.mem_cons, List.not_mem_nil, or_false] at member
    rcases member with rfl | rfl | rfl | rfl | rfl | rfl | rfl
    · exact blind_withResult _ _ _ clocks req
    · exact blind_withResult _ _ _ clocks req
    · exact blind_withResult _ _ _ clocks req
    · exact blind_of_decoded fun _ => rfl
    · exact blind_of_decoded fun _ => rfl
    · exact blind_withResult _ _ _ clocks req
    · intro s s' file network
      simp only [deleteNetworkContainers, network]
      exact ⟨trivial, file, trivial, trivial, trivial, Or.inl ⟨trivial, trivial⟩⟩

/-- What a GET answers is read off the configuration and the state that `GetJsonEncoder`
leaves, and this is the most it changes. -/
theorem get_answers (daemon : NetworkDaemon σ) (matchString : MatchString) (clocks : Clocks)
    {req : HttpRequest} (c : Configuration) (reads : IsGet req) :
    ∃ answer : Server σ υ → Except Failure (Response υ), ∀ s, Ready s c →
      serve daemon matchString clocks req s = (answer s.encoding, s) ∨
        serve daemon matchString clocks req s = (answer s.encoding, s.encoding) := by
  rcases serve_cases (σ := σ) (υ := υ) daemon matchString clocks req with ⟨unserved, -⟩ |
    ⟨handler, registered, served⟩
  · exact ⟨fun _ => .ok notFound, fun s _ => Or.inl (unserved s)⟩
  · have member := mem_readers registered reads
    simp only [served]
    simp only [readers, List.mem_cons, List.not_mem_nil, or_false] at member
    rcases member with rfl | rfl | rfl | rfl | rfl | rfl | rfl | rfl
    · refine ⟨fun s => .ok {
          headers := json
          content := .caches (s.cache.entries.reverse.map fun entry => (entry.1, some entry.2))
          indented := !s.testing }, fun s ready => Or.inr ?_⟩
      rw [getCaches, withJsonEncoder_of_ready ready, readKeys_keySet]
      rfl
    · refine ⟨fun s => .ok {
          headers := json, content := .size s.cache.entries.length, indented := !s.testing },
        fun s ready => Or.inr ?_⟩
      rw [getCachesSize, withJsonEncoder_of_ready ready]
      rfl
    · refine ⟨fun s => .ok {
          headers := json
          content := .env { name := c.activeEnv, hostnames := [] }
          indented := !s.testing }, fun s ready => Or.inr ?_⟩
      rw [getEnvActive, withConf_of_ready ready, withJsonEncoder_of_ready ready]
      rfl
    · refine ⟨fun s => showEnvs (!s.testing) c, fun s ready => Or.inr ?_⟩
      rw [getEnv, withConf_of_ready ready, withJsonEncoder_of_ready ready]
      rfl
    · exact ⟨fun _ => showEnv req c, fun s ready => Or.inl (withConf_of_ready ready _ clocks req)⟩
    · exact ⟨fun _ => showFound matchString req c,
        fun s ready => Or.inl (withConf_of_ready ready _ clocks req)⟩
    · exact ⟨fun _ => .ok { status := 301, headers := [("Location".toList, "/static".toList)] },
        fun s _ => Or.inl rfl⟩
    · refine ⟨fun s => .ok {
          headers := json, content := .configuration c, indented := !s.testing },
        fun s ready => Or.inr ?_⟩
      rw [getConfiguration, withConf_of_ready ready, withJsonEncoder_of_ready ready]
      rfl

/-! ### Runs with and without the GETs -/

/-- The key of the test mode, or one of those that the other users put. -/
def Keyed (names : List GoString) (c : MainCache υ) : Prop :=
  ∀ k, Recency.peek c k ≠ none → k ∈ testModeKey :: names

/-- The states differ at most in the key of the test mode. -/
structure Unread (s s' : Server σ υ) : Prop where
  file : s.file = s'.file
  network : s.network = s'.network
  testing : s.testing = s'.testing
  cache : SameBut testModeKey s.cache s'.cache

section Unread

variable {names : List GoString} (few : names.length < 43690) {s s' : Server σ υ}

include few

theorem room_of_keyed {c : MainCache υ} (keyed : Keyed names c) {k : GoString}
    (named : k ∈ testModeKey :: names) :
    Recency.peek c k ≠ none ∨ c.entries.length < 43690 :=
  Recency.room_of_keys (Nat.succ_le_of_lt few) keyed named

theorem keyed_add {c : MainCache υ} (keyed : Keyed names c) {k : GoString}
    (named : k ∈ testModeKey :: names) (v : CacheValue υ) : Keyed names (Recency.add c k v) := by
  intro k' found
  rw [Recency.peek_add_of_room (room_of_keyed few keyed named)] at found
  split_ifs at found with same
  · exact same ▸ named
  · exact keyed k' found

theorem encoding_eq (unread : Unread s s') (keyed : Keyed names s.cache)
    (keyed' : Keyed names s'.cache) : s.encoding = s'.encoding := by
  obtain ⟨file, network, testing, cache⟩ := unread
  have room := room_of_keyed few keyed List.mem_cons_self
  have room' := room_of_keyed few keyed' List.mem_cons_self
  simp only [Server.encoding, file, network, testing]
  rw [cache.add_self room room']

theorem unread_encoding (unread : Unread s s') (keyed : Keyed names s.cache) :
    Unread s.encoding s' := by
  have room := room_of_keyed few keyed List.mem_cons_self
  exact ⟨unread.file, unread.network, unread.testing, unread.cache.add_left room _⟩

end Unread

/-- The two states, their common configuration, and what their caches hold. -/
structure Together (names : List GoString) (c : Configuration) (s s' : Server σ υ) : Prop where
  ready : Ready s c
  ready' : Ready s' c
  viewable : Viewable c
  keyed : Keyed names s.cache
  keyed' : Keyed names s'.cache
  unread : Unread s s'

/-- The other users put under the keys of the list only. -/
def Puts (names : List GoString) (event : WebEvent υ) : Prop :=
  ∀ key value other, event = .cached (.put key value other) → key ∈ names

def keeps : WebEvent υ → Bool
  | .exchange _ req => !decide (IsGet req)
  | .cached _ => true

theorem requestOf_of_get {req : HttpRequest} (reads : IsGet req) : requestOf req = none := by
  have absent : requests.lookup (getKey req.method req.path) = none := by
    rw [List.lookup_eq_none_iff]
    intro entry member
    have get : ∀ {m path : GoString}, getKey req.method req.path = getKey m path →
        ' ' ∉ m → ' ' ∉ path → m = "GET".toList := fun same plain plain' =>
      (method_of_getKey same plain plain').symm.trans reads
    rw [bne_iff_ne]
    intro key
    simp only [requests, List.mem_cons, List.not_mem_nil, or_false] at member
    rcases member with rfl | rfl | rfl | rfl | rfl | rfl
    all_goals exact absurd (get key (by decide) (by decide)) (by decide)
  rw [requestOf, absent]
  rfl

section Steps

variable {names : List GoString} (few : names.length < 43690) (daemon : NetworkDaemon σ)
  (matchString : MatchString) {s s' : Server σ υ} {c : Configuration}

include few

theorem together_read (together : Together names c s s') {clocks : Clocks} {req : HttpRequest}
    (reads : IsGet req) :
    Together names c (webStep daemon matchString s (.exchange clocks req)) s' := by
  obtain ⟨ready, ready', viewable, keyed, keyed', unread⟩ := together
  obtain ⟨answer, served⟩ := get_answers daemon matchString clocks c reads
  rcases served s ready with same | encoded
  · rw [webStep, same]
    exact ⟨ready, ready', viewable, keyed, keyed', unread⟩
  · rw [webStep, encoded]
    exact ⟨ready.encoding, ready', viewable, keyed_add few keyed List.mem_cons_self _, keyed',
      unread_encoding few unread keyed⟩

omit few in
theorem together_written (together : Together names c s s') {clocks : Clocks}
    {req : HttpRequest} (writes : ¬ IsGet req) :
    Together names (nextConf clocks req c) (webStep daemon matchString s (.exchange clocks req))
      (webStep daemon matchString s' (.exchange clocks req)) := by
  obtain ⟨ready, ready', viewable, keyed, keyed', unread⟩ := together
  have next := ready_webStep daemon matchString ready viewable (.exchange clocks req)
  have next' := ready_webStep daemon matchString ready' viewable (.exchange clocks req)
  obtain ⟨-, file, network, testing, testing', caches⟩ :=
    blind_serve daemon matchString clocks writes s s' unread.file unread.network
  have flags := testing.trans (unread.testing.trans testing'.symm)
  rcases caches with ⟨same, same'⟩ | ⟨cleared, cleared'⟩
  · refine ⟨next.1, next'.1, next.2, ?_, ?_, file, network, flags, ?_⟩
    · rw [webStep, same]
      exact keyed
    · rw [webStep, same']
      exact keyed'
    · rw [webStep, webStep, same, same']
      exact unread.cache
  · have none : Keyed names (Recency.empty : MainCache υ) := fun k found => absurd rfl found
    refine ⟨next.1, next'.1, next.2, ?_, ?_, file, network, flags, ?_⟩
    · rw [webStep, cleared]
      exact none
    · rw [webStep, cleared']
      exact none
    · rw [webStep, webStep, cleared, cleared']
      exact rfl

theorem together_cached (together : Together names c s s') {use : CacheUse υ}
    (puts : Puts names (.cached use)) :
    Together names c (webStep daemon matchString s (.cached use))
      (webStep daemon matchString s' (.cached use)) := by
  obtain ⟨ready, ready', viewable, keyed, keyed', unread⟩ := together
  have next := ready_webStep daemon matchString ready viewable (.cached use)
  have next' := ready_webStep daemon matchString ready' viewable (.cached use)
  refine ⟨next.1, next'.1, viewable, ?_, ?_, unread.file, unread.network, unread.testing, ?_⟩
  all_goals cases use
  · rename_i key
    intro k found
    rw [webStep, CacheUse.apply, LRUCache.get, Recency.peek_touch] at found
    exact keyed k found
  · rename_i key value other
    exact keyed_add few keyed (List.mem_cons_of_mem _ (puts key value other rfl)) _
  · exact fun k found => absurd rfl found
  · rename_i key
    intro k found
    rw [webStep, CacheUse.apply, LRUCache.get, Recency.peek_touch] at found
    exact keyed' k found
  · rename_i key value other
    exact keyed_add few keyed' (List.mem_cons_of_mem _ (puts key value other rfl)) _
  · exact fun k found => absurd rfl found
  · rename_i key
    exact unread.cache.touch key
  · rename_i key value other
    have named := List.mem_cons_of_mem testModeKey (puts key value other rfl)
    exact unread.cache.add other (room_of_keyed few keyed named)
      (room_of_keyed few keyed' named) _
  · exact rfl

/-- A run and the same run without its GETs stay together. -/
theorem together_run (events : List (WebEvent υ)) : ∀ {s s' : Server σ υ} {c : Configuration},
    (∀ event ∈ events, Puts names event) → Together names c s s' →
      Together names (events.foldl confStep c) (events.foldl (webStep daemon matchString) s)
        ((events.filter keeps).foldl (webStep daemon matchString) s') := by
  induction events with
  | nil => exact fun _ together => together
  | cons event rest inductionHypothesis =>
      intro s s' c puts together
      have later : ∀ event ∈ rest, Puts names event := fun event member =>
        puts event (List.mem_cons_of_mem _ member)
      cases event with
      | exchange clocks req =>
          by_cases reads : IsGet req
          · have same : confStep c (.exchange (υ := υ) clocks req) = c := by
              rw [confStep, nextConf, requestOf_of_get reads]
            have dropped : keeps (.exchange (υ := υ) clocks req) = false := by
              simp [keeps, reads]
            rw [List.filter_cons_of_neg (by simp [dropped]), List.foldl_cons, List.foldl_cons, same]
            exact inductionHypothesis later (together_read few daemon matchString together reads)
          · have kept : keeps (.exchange (υ := υ) clocks req) = true := by simp [keeps, reads]
            rw [List.filter_cons_of_pos kept]
            exact inductionHypothesis later (together_written daemon matchString together reads)
      | cached use =>
          rw [List.filter_cons_of_pos rfl]
          exact inductionHypothesis later
            (together_cached few daemon matchString together (puts _ List.mem_cons_self))

/-- States that differ at most in the key of the test mode answer alike. -/
theorem answers_together (together : Together names c s s') (clocks : Clocks)
    (req : HttpRequest) :
    (serve daemon matchString clocks req s).1 = (serve daemon matchString clocks req s').1 := by
  obtain ⟨ready, ready', -, keyed, keyed', unread⟩ := together
  by_cases reads : IsGet req
  · obtain ⟨answer, served⟩ := get_answers daemon matchString clocks c reads
    have same := congrArg answer (encoding_eq few unread keyed keyed')
    have first : (serve daemon matchString clocks req s).1 = answer s.encoding := by
      rcases served s ready with eq | eq <;> rw [eq]
    have second : (serve daemon matchString clocks req s').1 = answer s'.encoding := by
      rcases served s' ready' with eq | eq <;> rw [eq]
    rw [first, second, same]
  · exact (blind_serve daemon matchString clocks reads s s' unread.file
      unread.network).1

end Steps

/-- Take any run of exchanges and of other uses of the main cache, whose keys are few. Without
its GETs it leaves the same file, the same network and the same values in the cache, and every
exchange that follows is answered alike. -/
theorem reading_leaves_no_trace (daemon : NetworkDaemon σ) (matchString : MatchString)
    (network : σ) (testing : Bool) {names : List GoString} (few : names.length < 43690)
    (events : List (WebEvent υ)) (puts : ∀ event ∈ events, Puts names event) :
    let s := events.foldl (webStep daemon matchString) (Server.started network testing)
    let s' := (events.filter keeps).foldl (webStep daemon matchString)
      (Server.started network testing)
    s.file = s'.file ∧ s.network = s'.network ∧
      (∀ k, k ≠ testModeKey → Recency.peek s.cache k = Recency.peek s'.cache k) ∧
      ∀ clocks req, (serve daemon matchString clocks req s).1 =
        (serve daemon matchString clocks req s').1 := by
  intro s s'
  have start : Together names firstConfiguration (Server.started (υ := υ) network testing)
      (Server.started network testing) :=
    ⟨ready_started network testing, ready_started network testing, viewable_firstConfiguration,
      fun _ found => absurd rfl found, fun _ found => absurd rfl found, rfl, rfl, rfl, rfl⟩
  have together := together_run few daemon matchString events puts start
  exact ⟨together.unread.file, together.unread.network,
    fun _ differs => together.unread.cache.peek differs,
    answers_together few daemon matchString together⟩

def requestWith (method path : String) (hostname : Vo.HostnameV1) : HttpRequest where
  method := method.toList
  path := path.toList
  query := fun _ => []
  hostname := { value := hostname }
  env := { value := { name := [], hostnames := [hostname] } }

/-- Two reads, a name that is put between them, and a record that is created. -/
def readEvents : List (WebEvent Nat) :=
  [.exchange stillClocks (requestWith "GET" "/env/" (record "" "")),
    .cached (.put "SERVERS".toList 3 (by decide)),
    .exchange stillClocks (requestWith "GET" "/v1/caches" (record "" "")),
    .exchange stillClocks (requestWith "POST" "/hostname/" (record "1" "a.com"))]

theorem reading_leaves_no_trace_readEvents :
    let step := webStep (Docker.poolDaemon []) fun _ _ => true
    let s := readEvents.foldl step (Server.started none false)
    let s' := (readEvents.filter keeps).foldl step (Server.started none false)
    s.file = s'.file ∧ ∀ clocks req,
      (serve (Docker.poolDaemon []) (fun _ _ => true) clocks req s).1 =
        (serve (Docker.poolDaemon []) (fun _ _ => true) clocks req s').1 := by
  have puts : ∀ event ∈ readEvents, Puts ["SERVERS".toList] event := by
    intro event member key value other same
    subst same
    have named : key = "SERVERS".toList ∧ value = 3 := by simpa [readEvents] using member
    simp [named.1]
  obtain ⟨file, -, -, answers⟩ := reading_leaves_no_trace (Docker.poolDaemon []) (fun _ _ => true)
    none false (by decide) readEvents puts
  exact ⟨file, answers⟩

end DnsProxyServer.Controller
