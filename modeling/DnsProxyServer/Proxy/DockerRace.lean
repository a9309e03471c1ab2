/-
Module: DnsProxyServer.Proxy.DockerRace
Purpose: The solver of container names, whose check and reads are separate calls, while
  containers start and stop: on which runs it returns an address that was registered.
Trusted boundary: translation of the steps of Solve, doSolve and getMsg of
  proxy/docker.go; each registry call is one step
Main exports: DockerStage, dockerStep, dockerCalls, awaitedHost, Spared,
  docker_calls_are_safe, removed_name_panics
-/
import DnsProxyServer.Lib.Interleaving
import DnsProxyServer.Proxy.Wildcard

namespace DnsProxyServer.Proxy

open Cache (LRUCache)
open Docker (Registry)
open Interleaving (Calls Event State)

/-! ### The calls -/

/-- Where a call of `Solve` stands between two of its steps; `hosts` are the candidate
names that are still to be checked. -/
inductive DockerStage where
  | idle
  | checking (question : Question) (hosts : List GoString)
  | logging (question : Question) (host : GoString)
  | reading (question : Question) (host : GoString)
  | returned (question : Question) (outcome : Outcome)
deriving DecidableEq

/-- A question, whose name ends with a dot, or the next step. -/
inductive DockerInput where
  | solve (name : GoString) (qtype qclass : UInt16)
  | next

/-- What the event loop does. -/
inductive DockerOther where
  | put (host ip : GoString)
  | remove (host : GoString)

/-- One registry call. -/
def dockerStep (stage : DockerStage) (input : DockerInput) (c : Registry) :
    Option (DockerStage × Registry) :=
  match stage, input with
  | .idle, .solve name qtype qclass =>
      some (.checking (questionOf name qtype qclass) (getAllHosts ('.' :: name)), c)
  | .checking question [], .next =>
      some (.returned question (.returned none
        (some ("hostname not found ".toList ++ question.name.dropLast))), c)
  | .checking question (host :: rest), .next =>
      some (if LRUCache.containsKey c host then .logging question host
        else .checking question rest, c)
  | .logging question host, .next => some (.reading question host, (LRUCache.get c host).2)
  | .reading question host, .next =>
      some (.returned question (.ofExcept (DockerDnsSolver.getMsg c host question).1),
        (DockerDnsSolver.getMsg c host question).2)
  | _, _ => none

def dockerCalls : Calls Registry DockerStage DockerInput DockerOther where
  own := dockerStep
  outside other c :=
    match other with
    | .put host ip => LRUCache.put c host ip
    | .remove host => LRUCache.remove c host

abbrev DockerState (ι : Type) := State Registry DockerStage ι

abbrev DockerCallEvent (ι : Type) := Event ι DockerInput DockerOther

/-- No call is in flight, and no name is registered. -/
def DockerState.initial (ι : Type) : DockerState ι where
  shared := Recency.empty
  stage := fun _ => .idle

/-- The name a call has found and not read yet. -/
def awaitedHost : DockerStage → Option GoString
  | .logging _ host => some host
  | .reading _ host => some host
  | _ => none

variable {ι : Type} [DecidableEq ι]

/-- A name is not removed, or pushed out by another, while a call awaits it, and what is
put is a dotted quad. -/
def Spared (s : DockerState ι) : DockerCallEvent ι → Prop
  | .outside (.remove host) => ∀ j, awaitedHost (s.stage j) ≠ some host
  | .outside (.put host ip) => (∃ bytes, QuadOf ip bytes) ∧
      ∀ j awaited, awaitedHost (s.stage j) = some awaited → s.shared.evicted host ≠ some awaited
  | .own _ _ => True

/-! ### A call that nothing comes between -/

theorem alone_checking (question : Question) (hosts : List GoString) : ∀ c : Registry,
    ∃ n, dockerCalls.alone (.checking question hosts, c) (List.replicate n .next) =
      some (.returned question (.ofExcept (DockerDnsSolver.solveHosts c question
          question.name.dropLast hosts).1),
        (DockerDnsSolver.solveHosts c question question.name.dropLast hosts).2) := by
  induction hosts with
  | nil => exact fun c => ⟨1, rfl⟩
  | cons host rest inductionHypothesis =>
      intro c
      by_cases present : LRUCache.containsKey c host = true
      · refine ⟨3, ?_⟩
        simp [Calls.alone, List.replicate_succ, Runs.run, dockerCalls, dockerStep, present,
          DockerDnsSolver.solveHosts, DockerDnsSolver.doSolve]
      · obtain ⟨n, ran⟩ := inductionHypothesis c
        refine ⟨n + 1, ?_⟩
        rw [DockerDnsSolver.solveHosts, if_neg present, ← ran]
        simp [Calls.alone, List.replicate_succ, Runs.run, dockerCalls, dockerStep, present]

/-- The steps are those of `Solve`. -/
theorem solve_alone (c : Registry) (name : GoString) (qtype qclass : UInt16) :
    ∃ n, dockerCalls.alone (.idle, c) (.solve name qtype qclass :: List.replicate n .next) =
      some (.returned (questionOf name qtype qclass)
          (DockerDnsSolver.solve c (questionOf name qtype qclass)).1,
        (DockerDnsSolver.solve c (questionOf name qtype qclass)).2) := by
  have dropped : (questionOf name qtype qclass).name.dropLast = name := by simp [questionOf]
  have nonempty : (questionOf name qtype qclass).name ≠ [] := by simp [questionOf]
  obtain ⟨n, ran⟩ := alone_checking (questionOf name qtype qclass) (getAllHosts ('.' :: name)) c
  refine ⟨n, ?_⟩
  rw [DockerDnsSolver.solve, if_neg nonempty, dropped]
  rw [dropped] at ran
  exact ran

/-! ### What a call relies on -/

/-- The name a call has found is one of the candidates of its question, as are those that
it will check. -/
def Candidate : DockerStage → Prop
  | .checking question hosts => hosts ⊆ getAllHosts ('.' :: question.name.dropLast)
  | .logging question host => host ∈ getAllHosts ('.' :: question.name.dropLast)
  | .reading question host => host ∈ getAllHosts ('.' :: question.name.dropLast)
  | _ => True

/-- The registry holds dotted quads, and the awaited name is there. -/
structure DockerRelies (stage : DockerStage) (c : Registry) : Prop where
  quads : ∀ host ip, Recency.peek c host = some ip → ∃ bytes, QuadOf ip bytes
  present : ∀ host, awaitedHost stage = some host → LRUCache.containsKey c host = true
  candidate : Candidate stage

theorem peek_getMsg (c : Registry) (host : GoString) (question : Question) (k : GoString) :
    Recency.peek (DockerDnsSolver.getMsg c host question).2 k = Recency.peek c k := by
  unfold DockerDnsSolver.getMsg LRUCache.get
  cases Recency.peek c host <;> exact Recency.peek_touch c host k

/-- The calls change no address. -/
theorem peek_dockerStep {stage stage' : DockerStage} {input : DockerInput} {c c' : Registry}
    (taken : dockerStep stage input c = some (stage', c')) (k : GoString) :
    Recency.peek c' k = Recency.peek c k := by
  unfold dockerStep at taken
  split at taken <;> cases taken
  · rfl
  · rfl
  · rfl
  · exact Recency.peek_touch c _ k
  · exact peek_getMsg c _ _ k

theorem dockerRelies_of_peek {stage : DockerStage} {c c' : Registry}
    (same : ∀ k, Recency.peek c' k = Recency.peek c k) (relied : DockerRelies stage c) :
    DockerRelies stage c' where
  quads host ip found := relied.quads host ip ((same host).symm.trans found)
  present host awaited := (Recency.contains_congr (same host)).trans (relied.present host awaited)
  candidate := relied.candidate

theorem dockerRelies_of_awaits_none {stage : DockerStage} {c : Registry}
    (quads : ∀ host ip, Recency.peek c host = some ip → ∃ bytes, QuadOf ip bytes)
    (none : awaitedHost stage = .none) (candidate : Candidate stage) : DockerRelies stage c := by
  refine ⟨quads, fun host awaited => ?_, candidate⟩
  rw [none] at awaited
  cases awaited

/-- A name is awaited from the moment it is found. -/
theorem dockerRelies_own (stage : DockerStage) (input : DockerInput) (c : Registry)
    (stage' : DockerStage) (c' : Registry)
    (taken : dockerStep stage input c = some (stage', c')) (relied : DockerRelies stage c) :
    DockerRelies stage' c' := by
  refine dockerRelies_of_peek (peek_dockerStep taken) ?_
  obtain ⟨quads, present, candidate⟩ := relied
  unfold dockerStep at taken
  split at taken <;> cases taken
  · rename_i name qtype qclass
    exact dockerRelies_of_awaits_none quads rfl (by simp [Candidate, questionOf])
  · exact dockerRelies_of_awaits_none quads rfl trivial
  · rename_i question host rest
    have parts := List.cons_subset.mp candidate
    split_ifs with found
    · refine ⟨quads, fun awaited same => ?_, parts.1⟩
      cases same
      exact found
    · exact dockerRelies_of_awaits_none quads rfl parts.2
  · exact ⟨quads, present, candidate⟩
  · exact dockerRelies_of_awaits_none quads rfl trivial

omit [DecidableEq ι] in
theorem spares_of_spared (s : DockerState ι) (e : DockerCallEvent ι) (spared : Spared s e) :
    dockerCalls.Spares DockerRelies s e := by
  cases e with
  | own i input =>
      intro stage c' taken j _ relied
      exact dockerRelies_of_peek (peek_dockerStep taken) relied
  | outside other =>
      intro j relied
      obtain ⟨quads, present, candidate⟩ := relied
      cases other with
      | put host ip =>
          obtain ⟨quad, kept⟩ := spared
          refine ⟨fun host' ip' found => ?_, fun awaited awaits => ?_, candidate⟩
          · rcases Recency.peek_of_peek_add found with ⟨-, rfl⟩ | ⟨-, before⟩
            · exact quad
            · exact quads host' ip' before
          · have stays := kept j awaited awaits
            exact Recency.contains_add (by decide) ip stays (present awaited awaits)
      | remove host =>
          refine ⟨fun host' ip' found => ?_, fun awaited awaits => ?_, candidate⟩
          · simp only [dockerCalls, LRUCache.remove, Recency.peek_remove] at found
            split_ifs at found
            exact quads host' ip' found
          · have other : awaited ≠ host := fun same => spared j (same ▸ awaits)
            refine (Recency.contains_congr ?_).trans (present awaited awaits)
            simp [dockerCalls, LRUCache.remove, other]

/-! ### Runs -/

/-- The name it was found under is a candidate, and while the call was running the
registry had the address under that name. -/
def AnsweredFromRegistry (i : ι) (events : List (DockerCallEvent ι)) (question : Question)
    (msg : Msg) : Prop :=
  ∃ host ∈ getAllHosts ('.' :: question.name.dropLast), ∃ earlier later t,
    events = earlier ++ later ∧
    Runs.run dockerCalls.step (DockerState.initial ι) earlier = some t ∧
    t.stage i = .reading question host ∧ DockerUses t.shared question host msg

omit [DecidableEq ι] in
theorem relied_initial : (DockerState.initial ι).Relied DockerRelies := fun _ => by
  refine dockerRelies_of_awaits_none (fun host ip found => ?_) rfl trivial
  simp [DockerState.initial] at found

theorem getMsg_of_relies {question : Question} {host : GoString} {c : Registry}
    (relied : DockerRelies (.reading question host) c) :
    ∃ msg, (DockerDnsSolver.getMsg c host question).1 = .ok msg ∧
      DockerUses c question host msg := by
  obtain ⟨ip, present⟩ := Recency.contains_iff.mp (relied.present host rfl)
  obtain ⟨bytes, quad⟩ := relied.quads host ip present
  refine ⟨_, ?_, ip, bytes, present, quad, rfl⟩
  simp only [DockerDnsSolver.getMsg, LRUCache.get, present]
  exact ipMsg_of_quadOf quad question

/-- A call returns when no candidate is left, or with what it reads. -/
theorem dockerStep_returned {stage : DockerStage} {input : DockerInput} {c c' : Registry}
    {question : Question} {outcome : Outcome}
    (taken : dockerStep stage input c = some (.returned question outcome, c')) :
    (∃ message, outcome = .returned none (some message)) ∨
      ∃ host, stage = .reading question host ∧
        outcome = .ofExcept (DockerDnsSolver.getMsg c host question).1 := by
  unfold dockerStep at taken
  split at taken
  · cases taken
  · cases taken
    exact Or.inl ⟨_, rfl⟩
  · split_ifs at taken <;> cases taken
  · cases taken
  · cases taken
    exact Or.inr ⟨_, rfl, rfl⟩
  · cases taken

/-- In every run from the empty registry whose steps spare the awaited names, a call that
has returned gave an error, or an answer from the registry. -/
theorem docker_calls_are_safe {events : List (DockerCallEvent ι)} {s : DockerState ι}
    (spared : Runs.AllSteps dockerCalls.step Spared (DockerState.initial ι) events)
    (ran : Runs.run dockerCalls.step (DockerState.initial ι) events = some s) (i : ι)
    {question : Question} {outcome : Outcome}
    (finished : s.stage i = .returned question outcome) :
    (∃ message, outcome = .returned none (some message)) ∨
      ∃ msg, outcome = .returned (some msg) none ∧
        AnsweredFromRegistry i events question msg := by
  -- the condition on the run before the step in which the call returns is enough
  have idle : ¬ (DockerState.initial ι).stage i = .returned question outcome := nofun
  obtain ⟨earlier, input, later, t, stage, shared, rfl, ranEarlier, taken, -, last⟩ :=
    Interleaving.exists_own_step (Q := (· = .returned question outcome)) ran idle finished
  have relied := Interleaving.relied_of_run dockerRelies_own spares_of_spared
    (Runs.allSteps_of_append spared) ranEarlier relied_initial i
  rw [last] at taken
  rcases dockerStep_returned taken with refused | ⟨host, reading, outcomeEq⟩
  · exact Or.inl refused
  · rw [reading] at relied
    obtain ⟨msg, read, uses⟩ := getMsg_of_relies relied
    rw [read] at outcomeEq
    refine Or.inr ⟨msg, outcomeEq, host, relied.candidate, earlier, _, t, rfl, ranEarlier, ?_⟩
    exact ⟨reading, uses⟩

/-! ### One query for the name of a container -/

def webAddress : GoString := toIpString ⟨172, 17, 0, 2⟩

/-- The container starts, the query for it is answered, and the container stops. -/
def servedQuery : List (DockerCallEvent Unit) :=
  [.outside (.put "web".toList webAddress), .own () (.solve "web".toList typeA classINET),
    .own () .next, .own () .next, .own () .next, .outside (.remove "web".toList)]

theorem docker_calls_are_safe_servedQuery :
    ∃ s, Runs.run dockerCalls.step (DockerState.initial Unit) servedQuery = some s ∧
      ∃ msg, s.stage () = .returned (questionOf "web".toList typeA classINET)
          (.returned (some msg) none) ∧
        AnsweredFromRegistry () servedQuery (questionOf "web".toList typeA classINET) msg := by
  have spared : Runs.AllSteps dockerCalls.step Spared (DockerState.initial Unit) servedQuery := by
    refine ⟨⟨⟨_, quadOf_toIpString _⟩, nofun⟩, fun _ put => ?_⟩
    cases put
    refine ⟨trivial, fun _ solve => ⟨trivial, fun _ found => ⟨trivial, fun _ logged => ⟨trivial,
      fun _ read => ?_⟩⟩⟩⟩
    cases solve
    cases found
    cases logged
    cases read
    exact ⟨nofun, fun _ _ => trivial⟩
  have reached : ∃ s msg, Runs.run dockerCalls.step (DockerState.initial Unit) servedQuery =
      some s ∧ s.stage () = .returned (questionOf "web".toList typeA classINET)
        (.returned (some msg) none) := ⟨_, _, rfl, rfl⟩
  obtain ⟨s, msg, ran, returned⟩ := reached
  rcases docker_calls_are_safe spared ran () returned with ⟨message, refused⟩ | answered
  · cases refused
  · obtain ⟨msg', same, fromRegistry⟩ := answered
    cases same
    exact ⟨s, ran, msg, returned, fromRegistry⟩

/-- A container that stops after its name was found makes the solver panic. -/
theorem removed_name_panics :
    ∃ s, Runs.run dockerCalls.step (DockerState.initial Unit)
        [.outside (.put "web".toList webAddress), .own () (.solve "web".toList typeA classINET),
          .own () .next, .outside (.remove "web".toList), .own () .next, .own () .next] = some s ∧
      s.stage () = .returned (questionOf "web".toList typeA classINET)
        (.panicked .typeAssertion) :=
  ⟨_, rfl, rfl⟩

end DnsProxyServer.Proxy
