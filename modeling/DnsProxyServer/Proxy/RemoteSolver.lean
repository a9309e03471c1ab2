/-
Module: DnsProxyServer.Proxy.RemoteSolver
Purpose: The solver that asks the remote servers one by one, and whose answer it
  accepts.
Trusted boundary: translation of proxy/remote.go; an exchange is any outcome the
  vendored client's contract allows
Main exports: Exchange, confload, askServers, remoteSolve, acceptedAt,
  askServers_eq_accepted, genuine_iff, mismatched_response_is_accepted,
  askServers_of_all_failed, KeepsBest, remoteSolve_keepsBest_iff
-/
import DnsProxyServer.Proxy.CacheSolver

namespace DnsProxyServer.Proxy

open Local
open Cache (LRUCache Stored second)
open LoadStore (Access)

/-! ### Exchanges -/

inductive ExchangeError where
  | errId
  | errTruncated
  | errSecret
  | other (text : GoString)
deriving DecidableEq

def ExchangeError.text : ExchangeError → GoString
  | .errId => "dns: id mismatch".toList
  | .errTruncated => "dns: failed to unpack truncated message".toList
  | .errSecret => "dns: no secrets defined".toList
  | .other text => text

/-- What `Exchange` returns for a query with this id: without a message an error, and
a message without an error, or with `ErrId`, after its id was compared. -/
structure Exchange (id : UInt16) where
  msg : Option Msg
  err : Option ExchangeError
  present : msg = none → err ≠ none
  compared : ∀ m, msg = some m → (err = none → m.id = id) ∧ (err = some .errId → m.id ≠ id)

/-! ### The solver -/

/-- What the main cache holds: the configuration the servers are taken from, and the
search domain. -/
inductive MainValue where
  | configuration (config : Configuration)
  | searchDomain (domain : GoString)
deriving DecidableEq

abbrev MainCache := LRUCache GoString MainValue 43690

def serversKey : GoString := "SERVERS".toList

/-- `c.Get(SERVERS).(*localvo.Configuration)`. -/
def getServers (c : MainCache) : Except Failure Configuration × MainCache :=
  match LRUCache.get c serversKey with
  | (some (.configuration config), c) => (.ok config, c)
  | (_, c) => (.error (.panic .typeAssertion), c)

theorem peek_getServers (c : MainCache) (k : GoString) :
    Recency.peek (getServers c).2 k = Recency.peek c k := by
  unfold getServers LRUCache.get
  split <;> rename_i read <;> rw [← (Prod.mk.inj read).2, Recency.peek_touch]

/-- The configuration `Solve` works with, `access` being its load. -/
def confload (c : MainCache) (access : FileAccess Configuration) :
    Except Failure Configuration × MainCache :=
  if LRUCache.containsKey c serversKey then getServers c
  else
    let c := if access.saves.isEmpty then c else LRUCache.clear c
    match access.result with
    | .error failure => (.error failure, c)
    | .ok config => getServers (LRUCache.putIfAbsent c serversKey (.configuration config)).2

/-- The loop over the servers; `exchange` gives the outcome for the server at each
position, `res` and `err` are the variables as the round before left them. -/
def askServers {id : UInt16} (question : Question) (exchange : Nat → Exchange id) (n : Nat)
    (res : Option Msg) (err : Option GoString) : List DNSServer → Option Msg × Option GoString
  | [] => (res, err)
  | _ :: servers =>
      match (exchange n).msg with
      | none =>
          let cause := match (exchange n).err with
            | some e => e.text
            | none => "<nil>".toList
          askServers question exchange (n + 1) none
            (some ("status=answer-can-not-be-null, err=".toList ++ cause)) servers
      | some res =>
          if res.rcode ≠ rcodeSuccess then
            askServers question exchange (n + 1) (some res)
              (some ("status=invalid-answer-name, name=".toList ++ question.name ++
                ", rcode=".toList ++ itoa res.rcode)) servers
          else (some res, none)

/-- `Solve` once it has the configuration. -/
def askRemote {id : UInt16} (question : Question) (config : Except Failure Configuration)
    (exchange : Nat → Exchange id) : Outcome :=
  match config with
  | .error (.error message) => .returned none (some message)
  | .error (.panic cause) => .panicked cause
  | .ok config =>
      let (res, err) := askServers question exchange 0 none none config.getRemoteServers
      .returned res err

/-- `remoteDnsSolver.Solve`, and the main cache after it. -/
def remoteSolve {id : UInt16} (c : MainCache) (access : FileAccess Configuration)
    (question : Question) (exchange : Nat → Exchange id) : Outcome × MainCache :=
  let (config, c) := confload c access
  (askRemote question config exchange, c)

/-! ### The accepted exchange -/

variable {id : UInt16}

/-- The exchange has a message, and its code is NOERROR. -/
def Exchange.noError (e : Exchange id) : Bool := e.msg.any fun m => m.rcode = rcodeSuccess

theorem Exchange.noError_iff {e : Exchange id} :
    e.noError = true ↔ ∃ m, e.msg = some m ∧ m.rcode = rcodeSuccess := by
  simp [Exchange.noError, Option.any_eq_true]

/-- The round the loop stops in. -/
def acceptedAt (exchange : Nat → Exchange id) : Nat → List DNSServer → Option Nat
  | _, [] => none
  | n, _ :: servers =>
      if (exchange n).noError then some n else acceptedAt exchange (n + 1) servers

theorem askServers_of_noError {question : Question} {exchange : Nat → Exchange id} {n : Nat}
    {m : Msg} (read : (exchange n).msg = some m) (success : m.rcode = rcodeSuccess)
    (res : Option Msg) (err : Option GoString) (server : DNSServer) (servers : List DNSServer) :
    askServers question exchange n res err (server :: servers) = (some m, none) := by
  simp [askServers, read, success]

/-- A round that does not stop leaves an error behind. -/
theorem askServers_of_not_noError {exchange : Nat → Exchange id} {n : Nat}
    (skipped : (exchange n).noError = false) (question : Question) (res : Option Msg)
    (err : Option GoString) (server : DNSServer) (servers : List DNSServer) :
    ∃ message, askServers question exchange n res err (server :: servers) =
      askServers question exchange (n + 1) (exchange n).msg (some message) servers := by
  cases read : (exchange n).msg with
  | none => exact ⟨_, by simp only [askServers, read]; rfl⟩
  | some m =>
      have failed : m.rcode ≠ rcodeSuccess := fun success => by
        simp [Exchange.noError, read, success] at skipped
      exact ⟨_, by simp only [askServers, read, failed, ne_eq, not_false_eq_true, if_true]; rfl⟩

/-- The loop returns a message without an error exactly when it stops, and the message
is that of the exchange it stops at. -/
theorem askServers_eq_accepted (question : Question) (exchange : Nat → Exchange id)
    (servers : List DNSServer) : ∀ n res err, (res = none ∨ err ≠ none) → ∀ m,
    (askServers question exchange n res err servers = (some m, none) ↔
      ∃ k, acceptedAt exchange n servers = some k ∧ (exchange k).msg = some m) := by
  induction servers with
  | nil =>
      intro n res err before m
      simp only [askServers, acceptedAt, reduceCtorEq, false_and, exists_false, iff_false]
      intro same
      obtain ⟨rfl, rfl⟩ := Prod.mk.inj same
      simp at before
  | cons server servers inductionHypothesis =>
      intro n res err before m
      by_cases stops : (exchange n).noError = true
      · obtain ⟨m', read, success⟩ := Exchange.noError_iff.mp stops
        rw [askServers_of_noError read success]
        simp [acceptedAt, stops, read]
      · have skipped : (exchange n).noError = false := by simpa using stops
        obtain ⟨next, equation⟩ := askServers_of_not_noError skipped question res err server
          servers
        rw [equation, inductionHypothesis _ _ _ (Or.inr (by simp))]
        simp [acceptedAt, skipped]

theorem acceptedAt_eq_some {exchange : Nat → Exchange id} {servers : List DNSServer} :
    ∀ {n k : Nat}, acceptedAt exchange n servers = some k ↔
      n ≤ k ∧ k < n + servers.length ∧ (exchange k).noError = true ∧
        ∀ j, n ≤ j → j < k → (exchange j).noError = false := by
  induction servers with
  | nil =>
      intro n k
      simp only [acceptedAt, reduceCtorEq, List.length_nil, Nat.add_zero, false_iff, not_and]
      omega
  | cons server servers inductionHypothesis =>
      intro n k
      rw [acceptedAt, List.length_cons]
      split_ifs with stops
      · constructor
        · intro same
          cases same
          exact ⟨Nat.le_refl _, by omega, stops, fun j low high => by omega⟩
        · rintro ⟨low, -, -, earlier⟩
          by_cases same : n = k
          · rw [same]
          · exact absurd (earlier n (Nat.le_refl _) (by omega)) (by simp [stops])
      · rw [inductionHypothesis]
        constructor
        · rintro ⟨low, high, here, earlier⟩
          refine ⟨by omega, by omega, here, fun j low' high' => ?_⟩
          by_cases same : j = n
          · rw [same]; simpa using stops
          · exact earlier j (by omega) high'
        · rintro ⟨low, high, here, earlier⟩
          have later : n ≠ k := fun same => stops (same ▸ here)
          exact ⟨by omega, by omega, here, fun j low' high' => earlier j (by omega) high'⟩

/-! ### Whose answer is accepted -/

/-- The client vouches for the message: no error, or only that it was cut short. -/
def Exchange.genuine (e : Exchange id) : Prop := e.err = none ∨ e.err = some .errTruncated

/-- The message is that of the exchange the loop stopped at, and is genuine. -/
def FromGenuine (config : Except Failure Configuration) (exchange : Nat → Exchange id)
    (m : Msg) : Prop :=
  ∃ conf k, config = .ok conf ∧ acceptedAt exchange 0 conf.getRemoteServers = some k ∧
    (exchange k).msg = some m ∧ (exchange k).genuine

/-- The first exchange, in the order of the servers, that has a NOERROR message. -/
def FirstNoErrorGenuine (config : Except Failure Configuration) (exchange : Nat → Exchange id) :
    Prop :=
  ∀ conf, config = .ok conf → ∀ k < conf.getRemoteServers.length,
    (exchange k).noError = true → (∀ j < k, (exchange j).noError = false) → (exchange k).genuine

theorem askRemote_eq_returned {question : Question} {config : Except Failure Configuration}
    {exchange : Nat → Exchange id} {m : Msg} :
    askRemote question config exchange = .returned (some m) none ↔
      ∃ conf k, config = .ok conf ∧ acceptedAt exchange 0 conf.getRemoteServers = some k ∧
        (exchange k).msg = some m := by
  cases config with
  | error failure => cases failure <;> simp [askRemote]
  | ok conf =>
      have accepted := askServers_eq_accepted question exchange conf.getRemoteServers 0 none none
        (Or.inl rfl) m
      have pair : askRemote question (.ok conf) exchange = .returned (some m) none ↔
          askServers question exchange 0 none none conf.getRemoteServers = (some m, none) := by
        simp [askRemote, Prod.ext_iff]
      rw [pair, accepted]
      constructor
      · rintro ⟨k, stops, read⟩
        exact ⟨conf, k, rfl, stops, read⟩
      · rintro ⟨conf', k, same, stops, read⟩
        cases same
        exact ⟨k, stops, read⟩

/-- What the caching solver newly keeps is a message its delegate returned without an
error. -/
theorem stored_of_miss {s : CacheState} {question : Question} (miss : s.hit question = none)
    {call : DelegateCall} {tvalue : Cache.TimedValue Msg}
    (stored : Recency.peek (s.solve question call).2.cache (getHostnameKey question) =
      some (.timed tvalue)) :
    call.outcome = .returned (some tvalue.value) none := by
  rw [CacheState.solve_of_miss miss] at stored
  rcases peek_storeAnswer stored with ⟨msg, returned, -, entry⟩ | old
  · cases entry
    exact returned
  · unfold CacheState.asked at old
    split_ifs at old
    · simp [Cache.TimedCache.clear, LRUCache.clear] at old
    · exact absurd old (peek_of_miss miss tvalue)

/-- The solver returns, and the caching solver over it stores, only messages of
exchanges that reported no error but `ErrTruncated`, if and only if this holds of
the first exchange that has a NOERROR message. -/
theorem genuine_iff (c : MainCache) (access : FileAccess Configuration) (question : Question)
    (exchange : Nat → Exchange id) :
    ((∀ m, (remoteSolve c access question exchange).1 = .returned (some m) none →
        FromGenuine (confload c access).1 exchange m) ∧
      ∀ (s : CacheState) elapsed clears, s.hit question = none → ∀ tvalue,
        Recency.peek (s.solve question
            ⟨elapsed, clears, (remoteSolve c access question exchange).1⟩).2.cache
          (getHostnameKey question) = some (.timed tvalue) →
        FromGenuine (confload c access).1 exchange tvalue.value) ↔
      FirstNoErrorGenuine (confload c access).1 exchange := by
  have tail : (remoteSolve c access question exchange).1 =
      askRemote question (confload c access).1 exchange := rfl
  rw [tail]
  generalize (confload c access).1 = config
  constructor
  · rintro ⟨returns, -⟩ conf same k bound here earlier
    obtain ⟨m, read, -⟩ := Exchange.noError_iff.mp here
    have stops : acceptedAt exchange 0 conf.getRemoteServers = some k :=
      acceptedAt_eq_some.mpr ⟨Nat.zero_le _, by omega, here, fun j _ less => earlier j less⟩
    obtain ⟨conf', k', same', stops', -, genuine⟩ :=
      returns m (askRemote_eq_returned.mpr ⟨conf, k, same, stops, read⟩)
    obtain rfl := Except.ok.inj (same.symm.trans same')
    obtain rfl := Option.some.inj (stops.symm.trans stops')
    exact genuine
  · intro first
    have returns : ∀ m, askRemote question config exchange = .returned (some m) none →
        FromGenuine config exchange m := by
      intro m returned
      obtain ⟨conf, k, same, stops, read⟩ := askRemote_eq_returned.mp returned
      obtain ⟨-, bound, here, earlier⟩ := acceptedAt_eq_some.mp stops
      exact ⟨conf, k, same, stops, read,
        first conf same k (by omega) here fun j less => earlier j (Nat.zero_le _) less⟩
    exact ⟨returns, fun s elapsed clears miss tvalue stored =>
      returns _ (stored_of_miss miss stored)⟩

/-! ### A response to a different query -/

/-- The query has id 1; the only server's response has id 7. -/
def mismatchedExchange : Exchange 1 where
  msg := some { id := 7, answer := [.a ⟨"a.com.".toList, typeA, classINET, 60⟩ { b0 := 6 }] }
  err := some .errId
  present := by simp
  compared := by
    rintro m same
    cases same
    decide

/-- It is returned with a nil error, and the caching solver keeps it. -/
theorem mismatched_response_is_accepted :
    let question : Question := ⟨"a.com.".toList, typeA, classINET⟩
    let outcome : Outcome :=
      (remoteSolve Recency.empty (.ofExcept (.ok defaultConfig)) question
        fun _ => mismatchedExchange).1
    let empty : CacheState := { cache := Recency.empty, now := 0 }
    outcome = .returned mismatchedExchange.msg none ∧
      acceptedAt (fun _ => mismatchedExchange) 0 defaultConfig.getRemoteServers = some 0 ∧
      mismatchedExchange.err = some .errId ∧
      ((empty.solve question ⟨0, false, outcome⟩).2.hit question).isSome = true := by
  refine ⟨by decide, by decide, rfl, by decide⟩

/-! ### The best outcome -/

/-- The number of exchanges the loop makes. -/
def exchangeCount (exchange : Nat → Exchange id) : Nat → List DNSServer → Nat
  | _, [] => 0
  | n, _ :: servers =>
      match (exchange n).msg with
      | none => 1 + exchangeCount exchange (n + 1) servers
      | some res =>
          if res.rcode ≠ rcodeSuccess then 1 + exchangeCount exchange (n + 1) servers else 1

/-- The outcome is the first NOERROR response, and no later server is asked; without one
a negative response comes with an error; and only without any response an error alone. -/
structure KeepsBest (servers : List DNSServer) (exchange : Nat → Exchange id)
    (outcome : Outcome) : Prop where
  accepted : ∀ k < servers.length, (exchange k).noError = true →
    (∀ j < k, (exchange j).noError = false) →
    outcome = .returned (exchange k).msg none ∧ exchangeCount exchange 0 servers = k + 1
  negative : (∀ k < servers.length, (exchange k).noError = false) →
    (∃ k < servers.length, (exchange k).msg ≠ none) →
    ∃ k m message, k < servers.length ∧ (exchange k).msg = some m ∧ m.rcode ≠ rcodeSuccess ∧
      outcome = .returned (some m) (some message)
  unanswered : (∀ k < servers.length, (exchange k).msg = none) →
    ∃ message, outcome = .returned none (some message)

/-- A server accepts the query, or none responds, or the last one does. -/
def LastResponds (servers : List DNSServer) (exchange : Nat → Exchange id) : Prop :=
  (∃ k < servers.length, (exchange k).noError = true) ∨
    (∀ k < servers.length, (exchange k).msg = none) ∨
    (exchange (servers.length - 1)).msg ≠ none

theorem exchangeCount_of_accepted {exchange : Nat → Exchange id} {servers : List DNSServer} :
    ∀ {n k : Nat}, acceptedAt exchange n servers = some k →
      n + exchangeCount exchange n servers = k + 1 := by
  induction servers with
  | nil => simp [acceptedAt]
  | cons server servers inductionHypothesis =>
      intro n k stops
      rw [acceptedAt] at stops
      split_ifs at stops with success
      · cases stops
        obtain ⟨m, read, code⟩ := Exchange.noError_iff.mp success
        simp [exchangeCount, read, code]
      · have later := inductionHypothesis stops
        have one : exchangeCount exchange n (server :: servers) =
            1 + exchangeCount exchange (n + 1) servers := by
          cases read : (exchange n).msg with
          | none => simp [exchangeCount, read]
          | some m =>
              have failed : m.rcode ≠ rcodeSuccess := fun code => by
                simp [Exchange.noError, read, code] at success
              simp [exchangeCount, read, failed]
        rw [one]
        omega

/-- Without a NOERROR response the message is that of the last exchange, and comes with
an error. -/
theorem askServers_of_all_failed (question : Question) {exchange : Nat → Exchange id}
    {servers : List DNSServer} : ∀ {n res err}, servers ≠ [] →
    (∀ k, n ≤ k → k < n + servers.length → (exchange k).noError = false) →
    ∃ message, askServers question exchange n res err servers =
      ((exchange (n + servers.length - 1)).msg, some message) := by
  induction servers with
  | nil => exact fun nonempty _ => absurd rfl nonempty
  | cons server servers inductionHypothesis =>
      intro n res err _ failed
      obtain ⟨message, equation⟩ := askServers_of_not_noError
        (failed n (Nat.le_refl _) (by simp)) question res err server servers
      rw [equation]
      cases servers with
      | nil => exact ⟨message, rfl⟩
      | cons next rest =>
          have tail : ∀ k, n + 1 ≤ k → k < n + 1 + (next :: rest).length →
              (exchange k).noError = false := by
            intro k low high
            apply failed k (by omega)
            simp only [List.length_cons] at high ⊢
            omega
          obtain ⟨last, result⟩ := inductionHypothesis (List.cons_ne_nil next rest) tail
          have position : n + (server :: next :: rest).length - 1 =
              n + 1 + (next :: rest).length - 1 := by
            simp only [List.length_cons]
            omega
          exact ⟨last, by rw [result, position]⟩

theorem getRemoteServers_ne_nil (conf : Configuration) : conf.getRemoteServers ≠ [] := by
  unfold Configuration.getRemoteServers
  split_ifs with given
  · exact List.length_pos_iff.mp (Nat.pos_of_ne_zero given)
  · exact List.cons_ne_nil _ _

/-- The loop stops at the first server with a NOERROR response, whatever the others do. -/
theorem keepsBest_of_accepts (question : Question) {exchange : Nat → Exchange id}
    {servers : List DNSServer} (accepts : ∃ k < servers.length, (exchange k).noError = true) :
    KeepsBest servers exchange (.returned (askServers question exchange 0 none none servers).1
      (askServers question exchange 0 none none servers).2) where
  accepted k bound here earlier := by
    have stops : acceptedAt exchange 0 servers = some k :=
      acceptedAt_eq_some.mpr ⟨Nat.zero_le _, by omega, here, fun j _ less => earlier j less⟩
    obtain ⟨m, read, -⟩ := Exchange.noError_iff.mp here
    have result := (askServers_eq_accepted question exchange servers 0 none none
      (Or.inl rfl) m).mpr ⟨k, stops, read⟩
    have count := exchangeCount_of_accepted stops
    rw [result, read]
    exact ⟨rfl, by omega⟩
  negative failed := by
    obtain ⟨k, bound, here⟩ := accepts
    exact absurd here (by simp [failed k bound])
  unanswered silent := by
    obtain ⟨k, bound, here⟩ := accepts
    exact absurd here (by simp [Exchange.noError, silent k bound])

/-- Without one the message is that of the last server, which is the best when it is a
response, or when there was none. -/
theorem keepsBest_iff_of_all_failed {exchange : Nat → Exchange id} {servers : List DNSServer}
    (nonempty : servers ≠ []) (failed : ∀ k < servers.length, (exchange k).noError = false)
    (message : GoString) :
    KeepsBest servers exchange
        (.returned (exchange (servers.length - 1)).msg (some message)) ↔
      (∀ k < servers.length, (exchange k).msg = none) ∨
        (exchange (servers.length - 1)).msg ≠ none := by
  have positive := List.length_pos_iff.mpr nonempty
  have bound : servers.length - 1 < servers.length := by omega
  constructor
  · rintro ⟨-, negative, -⟩
    by_cases silent : ∀ k < servers.length, (exchange k).msg = none
    · exact Or.inl silent
    · push Not at silent
      obtain ⟨k, m, cause, -, -, -, same⟩ := negative failed silent
      have responds : (exchange (servers.length - 1)).msg = some m :=
        (Outcome.returned.inj same).1
      exact Or.inr (by simp [responds])
  · intro last
    constructor
    · intro k below here
      exact absurd here (by simp [failed k below])
    · intro _ responds
      rcases last with silent | ends
      · obtain ⟨k, below, present⟩ := responds
        exact absurd (silent k below) present
      · obtain ⟨m, read⟩ := Option.ne_none_iff_exists'.mp ends
        have code : m.rcode ≠ rcodeSuccess := by
          intro success
          have accepted := Exchange.noError_iff.mpr ⟨m, read, success⟩
          exact absurd accepted (by simp [failed _ bound])
        exact ⟨_, m, message, bound, read, code, by rw [read]⟩
    · intro silent
      exact ⟨message, by rw [silent _ bound]⟩

theorem keepsBest_iff (question : Question) (conf : Configuration) (exchange : Nat → Exchange id) :
    KeepsBest conf.getRemoteServers exchange (askRemote question (.ok conf) exchange) ↔
      LastResponds conf.getRemoteServers exchange := by
  have nonempty := getRemoteServers_ne_nil conf
  generalize serversEq : conf.getRemoteServers = servers at nonempty ⊢
  have outcome : askRemote question (.ok conf) exchange =
      .returned (askServers question exchange 0 none none servers).1
        (askServers question exchange 0 none none servers).2 := by
    rw [← serversEq]
    rfl
  rw [outcome]
  by_cases accepts : ∃ k < servers.length, (exchange k).noError = true
  · exact iff_of_true (keepsBest_of_accepts question accepts) (Or.inl accepts)
  · have failed : ∀ k < servers.length, (exchange k).noError = false := by
      intro k bound
      by_contra here
      exact accepts ⟨k, bound, by simpa using here⟩
    obtain ⟨message, result⟩ := askServers_of_all_failed (n := 0) question nonempty
      fun k _ high => failed k (by omega)
    rw [Nat.zero_add] at result
    rw [result, keepsBest_iff_of_all_failed nonempty failed, LastResponds, or_iff_right accepts]

/-- The solver keeps the best outcome over its servers if and only if one of them answers
NOERROR, or none responds, or the last one responds. -/
theorem remoteSolve_keepsBest_iff (c : MainCache) (access : FileAccess Configuration)
    (question : Question) (exchange : Nat → Exchange id) :
    (∀ conf, (confload c access).1 = .ok conf →
        KeepsBest conf.getRemoteServers exchange (remoteSolve c access question exchange).1) ↔
      ∀ conf, (confload c access).1 = .ok conf →
        LastResponds conf.getRemoteServers exchange := by
  have tail : (remoteSolve c access question exchange).1 =
      askRemote question (confload c access).1 exchange := rfl
  rw [tail]
  constructor
  · intro best conf loaded
    apply (keepsBest_iff question conf exchange).mp
    rw [← loaded]
    exact best conf loaded
  · intro last conf loaded
    rw [loaded]
    exact (keepsBest_iff question conf exchange).mpr (last conf loaded)

/-- The first server denies the name, the second does not respond. -/
def deniedThenSilent (n : Nat) : Exchange 1 where
  msg := if n = 0 then some { id := 1, rcode := 3 } else none
  err := if n = 0 then none else some (.other "i/o timeout".toList)
  present := by
    intro absent
    split_ifs at absent ⊢
    simp
  compared := by
    intro m same
    split_ifs at same ⊢
    cases same
    decide

/-- The negative response is lost. -/
theorem negative_response_is_lost :
    let conf : Configuration := { defaultConfig with
      remoteDnsServers := [{ ip := "8.8.8.8".toList, port := 53 },
        { ip := "8.8.4.4".toList, port := 53 }] }
    let outcome := (remoteSolve Recency.empty (.ofExcept (.ok conf))
      ⟨"a.com.".toList, typeA, classINET⟩ deniedThenSilent).1
    outcome = .returned none
        (some "status=answer-can-not-be-null, err=i/o timeout".toList) ∧
      ¬ KeepsBest conf.getRemoteServers deniedThenSilent outcome := by
  intro conf outcome
  have lost : outcome = .returned none
      (some "status=answer-can-not-be-null, err=i/o timeout".toList) := by decide
  refine ⟨lost, fun best => ?_⟩
  obtain ⟨k, m, message, -, -, -, kept⟩ := best.negative (by decide) ⟨0, by decide, by decide⟩
  rw [lost] at kept
  cases kept

end DnsProxyServer.Proxy
