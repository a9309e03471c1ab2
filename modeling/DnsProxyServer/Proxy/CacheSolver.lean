/-
Module: DnsProxyServer.Proxy.CacheSolver
Purpose: The solver that caches the answers of another one: what it serves without
  asking, and that over the local solver it answers as the local solver would.
Trusted boundary: translation of proxy/cache.go; every save of the configuration
  file ends in ClearAllCaches; the header of a served message is left out
Main exports: doSolve, CacheSolver.solve, delegateStep, Sound,
  served_without_asking, serverStep, Agrees, cached_path_agrees
-/
import DnsProxyServer.Cache.Timed
import DnsProxyServer.Proxy.LocalSolver

namespace DnsProxyServer.Proxy

open Local
open Cache (TimedCache TimedValue Stored second timeSub)
open LoadStore (Access after)

/-! ### The solver -/

abbrev SolverCache := TimedCache GoString Msg 4096

/-- A copy of the cached message, its answers given the time that is left. -/
def doSolve (cache : SolverCache) (now : Int) (hostname : GoString) :
    Option Msg × SolverCache :=
  match cache.getTimeValue now hostname with
  | (some tvalue, cache) =>
      let msg := tvalue.value
      let ttl := getTtl msg
      let leftTime := (ttl.toNat : Int) * second - timeSub now tvalue.creation
      (some (msg.setTtls (toUInt32 (leftTime.tdiv second))), cache)
  | (none, cache) => (none, cache)

/-- `Solve` after its delegate has returned. `getTtl` of a nil message panics before
anything is stored. -/
def storeAnswer (cache : SolverCache) (now : Int) (hostname : GoString) :
    Outcome → Outcome × SolverCache
  | .returned msg (some err) => (.returned msg (some err), cache)
  | .returned none none => (.panicked .nilDereference, cache)
  | .returned (some msg) none =>
      (.returned (some msg) none, cache.putTTL now hostname msg (getTtl msg).toNat)
  | .panicked cause => (.panicked cause, cache)

/-- What the delegate does when it is asked: the time it takes, whether it saves the
configuration and so clears the caches, and what it returns. -/
structure DelegateCall where
  elapsed : Nat
  clears : Bool
  outcome : Outcome
deriving DecidableEq

structure CacheState where
  cache : SolverCache
  now : Int

def CacheState.hit (s : CacheState) (question : Question) : Option Msg :=
  (doSolve s.cache s.now (getHostnameKey question)).1

/-- `CacheDnsSolver.Solve`. -/
def CacheState.solve (s : CacheState) (question : Question) (call : DelegateCall) :
    Outcome × CacheState :=
  match doSolve s.cache s.now (getHostnameKey question) with
  | (some msg, cache) => (.returned (some msg) none, { s with cache := cache })
  | (none, cache) =>
      let now := s.now + call.elapsed
      let cache := if call.clears then cache.clear else cache
      let (outcome, cache) := storeAnswer cache now (getHostnameKey question) call.outcome
      (outcome, { cache := cache, now := now })

theorem CacheState.solve_of_hit {s : CacheState} {question : Question} {msg : Msg}
    (hit : s.hit question = some msg) (call : DelegateCall) :
    s.solve question call = (.returned (some msg) none,
      { s with cache := (doSolve s.cache s.now (getHostnameKey question)).2 }) := by
  unfold CacheState.hit at hit
  unfold CacheState.solve
  split
  · rename_i msg' cache served
    obtain rfl : msg' = msg := by simpa [served] using hit
    rw [served]
  · rename_i cache served
    simp [served] at hit

/-- The cache the answer of the delegate is stored in. -/
def CacheState.asked (s : CacheState) (question : Question) (call : DelegateCall) : SolverCache :=
  if call.clears then (doSolve s.cache s.now (getHostnameKey question)).2.clear
  else (doSolve s.cache s.now (getHostnameKey question)).2

theorem CacheState.solve_of_miss {s : CacheState} {question : Question}
    (miss : s.hit question = none) (call : DelegateCall) :
    s.solve question call =
      ((storeAnswer (s.asked question call) (s.now + call.elapsed) (getHostnameKey question)
          call.outcome).1,
        { cache := (storeAnswer (s.asked question call) (s.now + call.elapsed)
            (getHostnameKey question) call.outcome).2
          now := s.now + call.elapsed }) := by
  unfold CacheState.hit at miss
  unfold CacheState.solve CacheState.asked
  split
  · rename_i msg cache served
    simp [served] at miss
  · rename_i cache served
    rw [served]

theorem doSolve_eq_some {cache : SolverCache} {now : Int} {hostname : GoString} {msg : Msg}
    (served : (doSolve cache now hostname).1 = some msg) :
    ∃ tvalue ttl, Recency.peek cache hostname = some (.timed tvalue) ∧
      tvalue.isValid now = true ∧ msg = tvalue.value.setTtls ttl := by
  unfold doSolve at served
  split at served
  · rename_i tvalue cache' read
    have found := TimedCache.getTimeValue_eq_some (congrArg Prod.fst read)
    exact ⟨tvalue, _, found.1, found.2, (Option.some.inj served).symm⟩
  · exact absurd served (by simp)

theorem peek_doSolve {cache : SolverCache} {now : Int} {hostname key : GoString} {v : Stored Msg}
    (found : Recency.peek (doSolve cache now hostname).2 key = some v) :
    Recency.peek cache key = some v := by
  unfold doSolve at found
  split at found <;> rename_i read <;>
    exact TimedCache.peek_getTimeValue (congrArg Prod.snd read ▸ found)

theorem peek_of_miss {s : CacheState} {question : Question} (miss : s.hit question = none)
    (v : TimedValue Msg) :
    Recency.peek (doSolve s.cache s.now (getHostnameKey question)).2 (getHostnameKey question) ≠
      some (.timed v) := by
  unfold CacheState.hit at miss
  unfold doSolve at miss ⊢
  split at miss
  · exact absurd miss (by simp)
  · rename_i cache read
    have absent := TimedCache.peek_of_getTimeValue_eq_none (congrArg Prod.fst read) v
    simpa [read] using absent

/-- What is left after the delegate was asked was there before, and the caches were
not cleared. -/
theorem CacheState.peek_asked {s : CacheState} {question : Question} {call : DelegateCall}
    {key : GoString} {v : Stored Msg}
    (found : Recency.peek (s.asked question call) key = some v) :
    call.clears = false ∧ Recency.peek s.cache key = some v := by
  unfold CacheState.asked at found
  split_ifs at found with clears
  · simp [TimedCache.clear, Cache.LRUCache.clear] at found
  · exact ⟨by simpa using clears, peek_doSolve found⟩

/-- An answer is stored only when it is a message without an error. -/
theorem peek_storeAnswer {cache : SolverCache} {now : Int} {hostname key : GoString}
    {outcome : Outcome} {v : Stored Msg}
    (found : Recency.peek (storeAnswer cache now hostname outcome).2 key = some v) :
    (∃ msg, outcome = .returned (some msg) none ∧ key = hostname ∧
        v = .timed { value := msg, creation := now, timeout := (getTtl msg).toNat * second }) ∨
      Recency.peek cache key = some v := by
  unfold storeAnswer at found
  split at found
  · exact Or.inr found
  · exact Or.inr found
  · rename_i msg
    rcases TimedCache.peek_putTTL found with new | old
    · exact Or.inl ⟨msg, rfl, new⟩
    · exact Or.inr old
  · exact Or.inr found

/-- An unexpired entry is younger than its timeout, which the subtraction cannot hide
because a TTL in nanoseconds fits an `int64`. -/
theorem age_of_isValid {msg : Msg} {creation now : Int} (ordered : creation ≤ now)
    (valid : TimedValue.isValid
      { value := msg, creation := creation, timeout := (getTtl msg).toNat * second } now = true) :
    now - creation < (getTtl msg).toNat * second := by
  have small : (getTtl msg).toNat < 2 ^ 32 := (getTtl msg).toNat_lt
  have younger := of_decide_eq_true valid
  simp only [timeSub, second, maxInt64, minInt64] at younger ⊢
  omega

/-! ### Over any delegate -/

/-- A message the delegate returned without an error. -/
structure Answered where
  question : Question
  msg : Msg
  time : Int

/-- The solver, and what its delegate has answered since the caches were last
cleared. -/
structure DelegateRun where
  state : CacheState
  log : List Answered

inductive CacheEvent where
  | query (question : Question) (call : DelegateCall)
  | clearAllCaches
  | evict (key : GoString)
  | advance (n : Nat)

/-- What a call of the delegate leaves in the log. -/
def logCall (log : List Answered) (question : Question) (now : Int) (call : DelegateCall) :
    List Answered :=
  let log := if call.clears then [] else log
  match call.outcome with
  | .returned (some msg) none => { question := question, msg := msg, time := now } :: log
  | _ => log

def delegateStep (r : DelegateRun) : CacheEvent → Option DelegateRun
  | .query question call =>
      some {
        state := (r.state.solve question call).2
        log := if (r.state.hit question).isSome then r.log
          else logCall r.log question (r.state.now + call.elapsed) call }
  | .clearAllCaches =>
      some { state := { r.state with cache := r.state.cache.clear }, log := [] }
  | .evict key => some { r with state := { r.state with cache := r.state.cache.remove key } }
  | .advance n => some { r with state := { r.state with now := r.state.now + n } }

def DelegateRun.initial (now : Int) : DelegateRun where
  state := { cache := Recency.empty, now := now }
  log := []

/-- Every entry is an answer in the log, kept for its TTL. -/
def Sound (r : DelegateRun) : Prop :=
  ∀ key v, Recency.peek r.state.cache key = some v → ∃ a ∈ r.log,
    key = getHostnameKey a.question ∧ a.time ≤ r.state.now ∧
    v = .timed { value := a.msg, creation := a.time, timeout := (getTtl a.msg).toNat * second }

theorem Sound.of_subset {r r' : DelegateRun} (sound : Sound r)
    (entries : ∀ key v, Recency.peek r'.state.cache key = some v →
      Recency.peek r.state.cache key = some v)
    (answers : ∀ a ∈ r.log, a ∈ r'.log) (later : r.state.now ≤ r'.state.now) : Sound r' := by
  intro key v found
  obtain ⟨a, member, keyEq, time, entry⟩ := sound key v (entries key v found)
  exact ⟨a, answers a member, keyEq, Int.le_trans time later, entry⟩

theorem mem_logCall {log : List Answered} {question : Question} {now : Int} {call : DelegateCall}
    (keeps : call.clears = false) {a : Answered} (member : a ∈ log) :
    a ∈ logCall log question now call := by
  unfold logCall
  simp only [keeps, Bool.false_eq_true, if_false]
  split
  · exact List.mem_cons_of_mem _ member
  · exact member

theorem Sound.miss {r : DelegateRun} (sound : Sound r) {question : Question}
    (miss : r.state.hit question = none) (call : DelegateCall) :
    Sound {
      state := (r.state.solve question call).2
      log := logCall r.log question (r.state.now + call.elapsed) call } := by
  rw [CacheState.solve_of_miss miss]
  intro key v found
  rcases peek_storeAnswer found with ⟨msg, returned, rfl, rfl⟩ | old
  · refine ⟨⟨question, msg, r.state.now + call.elapsed⟩, ?_, rfl, Int.le_refl _, rfl⟩
    simp [logCall, returned]
  · obtain ⟨keeps, before⟩ := CacheState.peek_asked old
    obtain ⟨a, member, keyEq, time, entry⟩ := sound key v before
    have later : a.time ≤ r.state.now + call.elapsed := by omega
    exact ⟨a, mem_logCall keeps member, keyEq, later, entry⟩

theorem Sound.step {r r' : DelegateRun} {event : CacheEvent} (sound : Sound r)
    (stepped : delegateStep r event = some r') : Sound r' := by
  cases event with
  | query question call =>
      cases stepped
      cases hit : r.state.hit question with
      | none => simpa [hit] using sound.miss hit call
      | some msg =>
          refine sound.of_subset (fun key v found => ?_) (fun a member => by simpa [hit]) ?_
          · rw [CacheState.solve_of_hit hit] at found
            exact peek_doSolve found
          · simp only [CacheState.solve_of_hit hit, Int.le_refl]
  | clearAllCaches =>
      cases stepped
      intro key v found
      simp [TimedCache.clear, Cache.LRUCache.clear] at found
  | evict key =>
      cases stepped
      refine sound.of_subset (fun key' v found => ?_) (fun a member => member) (Int.le_refl _)
      simp only [TimedCache.remove, Cache.LRUCache.remove, Recency.peek_remove] at found
      split_ifs at found
      exact found
  | advance n =>
      cases stepped
      exact sound.of_subset (fun _ _ found => found) (fun a member => member)
        (by simp only; omega)

/-- In every run over any delegate: what is served without asking was returned
without an error, for the same name and type, since the caches were last cleared,
and less than its TTL ago. -/
theorem served_without_asking {now : Int} {events : List CacheEvent} {r : DelegateRun}
    (ran : Runs.run delegateStep (.initial now) events = some r) {question : Question} {msg : Msg}
    (hit : r.state.hit question = some msg) :
    ∃ a ∈ r.log, a.question.name = question.name ∧ a.question.qtype = question.qtype ∧
      (∃ ttl, msg.answer = (a.msg.setTtls ttl).answer) ∧ a.time ≤ r.state.now ∧
      r.state.now - a.time < (getTtl a.msg).toNat * second := by
  have start : Sound (.initial now) := fun key v found => by simp [DelegateRun.initial] at found
  have sound := Runs.invariant (fun _ _ _ stepped sound => Sound.step sound stepped) ran start
  obtain ⟨tvalue, ttl, found, valid, rfl⟩ := doSolve_eq_some hit
  obtain ⟨a, member, keyEq, time, entry⟩ := sound _ _ found
  obtain ⟨names, types⟩ := getHostnameKey_inj keyEq
  cases entry
  exact ⟨a, member, names.symm, types.symm, ⟨ttl, rfl⟩, time, age_of_isValid time valid⟩

/-! ### Over the local solver -/

/-- What the local solver does on the file when it is asked. -/
def localCall (question : Question) (clocks : Nat → Clock) (elapsed : Nat) (file : ConfFile) :
    DelegateCall where
  elapsed := elapsed
  clears := !(localSolve question clocks file).saves.isEmpty
  outcome := .ofExcept (localSolve question clocks file).result

structure Server where
  file : ConfFile
  state : CacheState

def Server.query (s : Server) (question : Question) (clocks : Nat → Clock) (elapsed : Nat) :
    Outcome × Server :=
  let (outcome, state) := s.state.solve question (localCall question clocks elapsed s.file)
  match s.state.hit question with
  | some _ => (outcome, { s with state := state })
  | none => (outcome, {
      file := after s.file (localSolve question clocks s.file).saves
      state := state })

inductive ServerEvent where
  | query (question : Question) (clocks : Nat → Clock) (elapsed : Nat)
  | request (clocks : Clocks) (request : Request)
  | evict (key : GoString)
  | advance (n : Nat)

def serverStep (s : Server) : ServerEvent → Option Server
  | .query question clocks elapsed => some (s.query question clocks elapsed).2
  | .request clocks request =>
      some {
        file := request.next clocks s.file
        state :=
          if (request.serve clocks s.file).saves.isEmpty then s.state
          else { s.state with cache := s.state.cache.clear } }
  | .evict key => some { s with state := { s.state with cache := s.state.cache.remove key } }
  | .advance n => some { s with state := { s.state with now := s.state.now + n } }

def Server.initial (file : ConfFile) (now : Int) : Server where
  file := file
  state := { cache := Recency.empty, now := now }

/-- Every entry, expired or not, is what the stored configuration answers. -/
def Agrees (s : Server) : Prop :=
  ∀ key v, Recency.peek s.state.cache key = some v → ∃ question conf tvalue,
    key = getHostnameKey question ∧ Represents s.file conf ∧
    localAnswer question conf = .ok tvalue.value ∧ v = .timed tvalue

theorem Agrees.of_subset {s s' : Server} (agrees : Agrees s) (same : s'.file = s.file)
    (entries : ∀ key v, Recency.peek s'.state.cache key = some v →
      Recency.peek s.state.cache key = some v) : Agrees s' := by
  intro key v found
  rw [same]
  exact agrees key v (entries key v found)

theorem Agrees.query {s : Server} (agrees : Agrees s) (question : Question)
    (clocks : Nat → Clock) (elapsed : Nat) : Agrees (s.query question clocks elapsed).2 := by
  cases hit : s.state.hit question with
  | some msg =>
      refine agrees.of_subset (by simp only [Server.query, hit]) fun key v found => ?_
      simp only [Server.query, hit, CacheState.solve_of_hit hit] at found
      exact peek_doSolve found
  | none =>
      simp only [Server.query, hit, CacheState.solve_of_miss hit]
      intro key v found
      rcases peek_storeAnswer found with ⟨msg, returned, rfl, rfl⟩ | old
      · rcases localSolve_cases question clocks s.file with ⟨cause, failed⟩ |
          ⟨conf, represents, answered⟩
        · simp only [localCall, failed, Access.ofExcept] at returned
          cases cause <;> simp [Outcome.ofExcept] at returned
        · simp only [localCall, answered] at returned
          cases answer : localAnswer question conf with
          | ok msg' =>
              obtain rfl : msg' = msg := by simpa [answer, Outcome.ofExcept] using returned
              exact ⟨question, conf, _, rfl, represents, answer, rfl⟩
          | error failure =>
              rw [answer] at returned
              cases failure <;> simp [Outcome.ofExcept] at returned
      · obtain ⟨keeps, before⟩ := CacheState.peek_asked old
        have unsaved : (localSolve question clocks s.file).saves = [] := by
          simpa [localCall] using keeps
        rw [unsaved]
        exact agrees key v before

theorem Agrees.step {s s' : Server} {event : ServerEvent} (agrees : Agrees s)
    (stepped : serverStep s event = some s') : Agrees s' := by
  cases event with
  | query question clocks elapsed =>
      cases stepped
      exact agrees.query question clocks elapsed
  | request clocks request =>
      cases stepped
      by_cases unsaved : (request.serve clocks s.file).saves.isEmpty = true
      · refine agrees.of_subset ?_ fun key v found => by simpa [unsaved] using found
        simp only [Request.next, List.isEmpty_iff.mp unsaved, LoadStore.after_nil]
      · intro key v found
        simp [unsaved, TimedCache.clear, Cache.LRUCache.clear] at found
  | evict key =>
      cases stepped
      refine agrees.of_subset rfl fun key' v found => ?_
      simp only [TimedCache.remove, Cache.LRUCache.remove, Recency.peek_remove] at found
      split_ifs at found
      exact found
  | advance n =>
      cases stepped
      exact agrees.of_subset rfl fun _ _ found => found

/-- A cached answer is that of the local solver on the file as it is. -/
theorem Agrees.answer_query {s : Server} (agrees : Agrees s) (question : Question)
    (clocks : Nat → Clock) (elapsed : Nat) :
    (s.query question clocks elapsed).1.answer =
      (Outcome.ofExcept (localSolve question clocks s.file).result).answer := by
  cases hit : s.state.hit question with
  | some msg =>
      obtain ⟨tvalue, ttl, found, -, rfl⟩ := doSolve_eq_some hit
      obtain ⟨question', conf, tvalue', keyEq, represents, answer, entry⟩ := agrees _ _ found
      cases entry
      have names := (getHostnameKey_inj keyEq).1
      simp only [Server.query, hit, CacheState.solve_of_hit hit,
        localSolve_of_represents represents, Access.ofExcept, localAnswer_congr names, answer,
        Outcome.ofExcept, Outcome.answer, Msg.withoutTtl_setTtls]
  | none =>
      simp only [Server.query, hit, CacheState.solve_of_miss hit, localCall]
      cases result : (localSolve question clocks s.file).result with
      | ok msg => rfl
      | error failure => cases failure <;> rfl

/-- In every sequential run over the local solver each query is answered as the
local solver alone would answer on the stored configuration, up to TTLs; and over
any delegate a message served without asking was returned by it without an error,
for the same name and type, since the caches were last cleared, and strictly less
than the TTL of its first answer ago. -/
theorem cached_path_agrees :
    (∀ (file : ConfFile) (now : Int) (events : List ServerEvent) (s : Server),
      Runs.run serverStep (.initial file now) events = some s →
        ∀ question clocks elapsed, (s.query question clocks elapsed).1.answer =
          (Outcome.ofExcept (localSolve question clocks s.file).result).answer) ∧
    ∀ (now : Int) (events : List CacheEvent) (r : DelegateRun),
      Runs.run delegateStep (.initial now) events = some r →
        ∀ question msg, r.state.hit question = some msg →
          ∃ a ∈ r.log, a.question.name = question.name ∧ a.question.qtype = question.qtype ∧
            (∃ ttl, msg.answer = (a.msg.setTtls ttl).answer) ∧ a.time ≤ r.state.now ∧
            r.state.now - a.time < (getTtl a.msg).toNat * second := by
  refine ⟨fun file now events s ran question clocks elapsed => ?_,
    fun now events r ran question msg hit => served_without_asking ran hit⟩
  have start : Agrees (.initial file now) := fun key v found => by
    simp [Server.initial] at found
  have agrees := Runs.invariant (fun _ _ _ stepped agrees => Agrees.step agrees stepped) ran start
  exact agrees.answer_query question clocks elapsed

/-! ### A query asked twice -/

def configurationWithA : Configuration :=
  { defaultConfig with
    envs := [{
      name := []
      hostnames := [{
        id := 1, hostname := "a.com".toList, ip := "1.2.3.4".toList, target := [], ttl := 50,
        type := EntryType.A }] }] }

def questionA : Question := ⟨"a.com.".toList, typeA, classINET⟩

/-- The second time, a second later, the answer comes from the cache. -/
theorem cached_path_agrees_on_hit :
    ∃ s, Runs.run serverStep (.initial (.document (.v2 (StorageV2.valueOf configurationWithA))) 0)
        [.query questionA (fun _ => stillClock) 0, .advance 1000000000] = some s ∧
      (s.state.hit questionA).isSome = true ∧
      (s.query questionA (fun _ => stillClock) 0).1.answer =
        (Outcome.ofExcept (localSolve questionA (fun _ => stillClock) s.file).result).answer := by
  have hit : ∃ s ∈ Runs.run serverStep
      (.initial (.document (.v2 (StorageV2.valueOf configurationWithA))) 0)
      [.query questionA (fun _ => stillClock) 0, .advance 1000000000],
      (s.state.hit questionA).isSome = true := by
    decide +kernel
  obtain ⟨s, ran, served⟩ := hit
  exact ⟨s, ran, served, cached_path_agrees.1 _ _ _ s ran questionA (fun _ => stillClock) 0⟩

end DnsProxyServer.Proxy
