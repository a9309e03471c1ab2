/-
Module: DnsProxyServer.Proxy.Wildcard
Purpose: The names a question is looked up under, most specific first, and that the
  registry solver and the local solver both answer from the first one that is registered.
Trusted boundary: translation of getAllHosts of proxy/proxy.go with its two indices
Main exports: getAllHostsLoop, getAllHostsSliced, dotted, candidates,
  getAllHostsSliced_eq, FirstCandidate, docker_firstCandidate, local_firstCandidate,
  wildcard_lookup, wildcard_lookup_suffix
-/
import DnsProxyServer.Proxy.AddressSolvers
import DnsProxyServer.Proxy.LocalSolver

namespace DnsProxyServer.Proxy

open Local
open Cache (LRUCache)
open Docker (Registry)

/-! ### The loop with its two indices -/

theorem slice_eq_ok {s str : GoString} {low high : Nat} (sliced : slice s low high = .ok str) :
    low ≤ high ∧ high ≤ s.length ∧ str.length = high - low := by
  unfold slice at sliced
  split_ifs at sliced with bounds
  cases sliced
  refine ⟨bounds.1, bounds.2, ?_⟩
  rw [List.length_drop, List.length_take]
  omega

/-- The loop from a position on. The source takes the slices in this order and would panic
at one that is out of range. -/
def getAllHostsLoop (hostname : GoString) (fromIndex : Nat) : Except Failure (List GoString) :=
  match _sliced : slice hostname fromIndex hostname.length with
  | .error failure => .error failure
  | .ok str =>
      match index str ".".toList with
      | none => .ok []
      | some actual =>
          if _last : actual + 1 ≥ str.length then .ok []
          else
            match slice str actual str.length with
            | .error failure => .error failure
            | .ok suffix =>
                (getAllHostsLoop hostname (fromIndex + (actual + 1))).map (suffix :: ·)
termination_by hostname.length - fromIndex
decreasing_by
  obtain ⟨-, -, length⟩ := slice_eq_ok _sliced
  omega

def getAllHostsSliced (hostname : GoString) : Except Failure (List GoString) :=
  match slice hostname 1 hostname.length with
  | .error failure => .error failure
  | .ok first => (getAllHostsLoop hostname 0).map (first :: ·)

/-! ### What it returns -/

/-- It starts with a dot and has something after it. -/
def dotted (suffix : GoString) : Bool := suffix.head? == some '.' && decide (2 ≤ suffix.length)

/-- The name itself, then the suffixes of `.name` at a dot, longest first. -/
def candidates (q : GoString) : List GoString := q :: ('.' :: q).tails.filter dotted

theorem dotted_tails_of_free {s : GoString} (free : '.' ∉ s) : s.tails.filter dotted = [] := by
  induction s with
  | nil => rfl
  | cons c rest inductionHypothesis =>
      rw [List.mem_cons, not_or] at free
      have notDot : dotted (c :: rest) = false := by simp [dotted, Ne.symm free.1]
      rw [List.tails_cons, List.filter_cons_of_neg (by simp [notDot]), inductionHypothesis free.2]

theorem dotted_tails_append {before : GoString} (free : '.' ∉ before) (after : GoString) :
    (before ++ '.' :: after).tails.filter dotted =
      if after = [] then [] else ('.' :: after) :: after.tails.filter dotted := by
  induction before with
  | nil =>
      rw [List.nil_append, List.tails_cons]
      by_cases ends : after = []
      · subst ends
        rfl
      · have long : 2 ≤ ('.' :: after).length := by
          have positive := List.length_pos_of_ne_nil ends
          rw [List.length_cons]
          omega
        rw [List.filter_cons_of_pos (by simp [dotted] at long ⊢; omega), if_neg ends]
  | cons c rest inductionHypothesis =>
      rw [List.mem_cons, not_or] at free
      have notDot : dotted (c :: (rest ++ '.' :: after)) = false := by
        simp [dotted, Ne.symm free.1]
      rw [List.cons_append, List.tails_cons, List.filter_cons_of_neg (by simp [notDot]),
        inductionHypothesis free.2]

/-- A text up to its first dot, and the rest. -/
theorem dot_cases (s : GoString) :
    '.' ∉ s ∧ index s ".".toList = none ∨ ∃ before after, s = before ++ '.' :: after ∧
      '.' ∉ before ∧ index s ".".toList = some before.length := by
  by_cases member : '.' ∈ s
  · obtain ⟨before, after, rfl, free⟩ := List.eq_append_cons_of_mem member
    exact Or.inr ⟨before, after, rfl, free, Occurrence.index?_singleton_append free after⟩
  · exact Or.inl ⟨member, Occurrence.index?_singleton_eq_none member⟩

theorem hostSuffixes_eq {fuel : Nat} : ∀ {str : GoString}, str.length ≤ fuel →
    hostSuffixes fuel str = str.tails.filter dotted := by
  induction fuel with
  | zero =>
      intro str enough
      cases List.length_eq_zero_iff.mp (Nat.le_zero.mp enough)
      rfl
  | succ fuel inductionHypothesis =>
      intro str enough
      rcases dot_cases str with ⟨free, none⟩ | ⟨before, after, rfl, free, found⟩
      · rw [hostSuffixes, none, dotted_tails_of_free free]
      · rw [List.length_append, List.length_cons] at enough
        rw [hostSuffixes, found, dotted_tails_append free]
        have rest : (before ++ '.' :: after).drop (before.length + 1) = after := by simp
        have here : (before ++ '.' :: after).drop before.length = '.' :: after := by simp
        simp only [rest, here, inductionHypothesis (show after.length ≤ fuel by omega)]
        by_cases ends : after = []
        · subst ends
          simp
        · have positive := List.length_pos_of_ne_nil ends
          rw [if_neg ends, if_neg (by simp only [List.length_append, List.length_cons]; omega)]

theorem getAllHosts_eq (q : GoString) : getAllHosts ('.' :: q) = candidates q := by
  rw [getAllHosts, hostSuffixes_eq (Nat.le_refl _)]
  rfl

theorem slice_to_end {s : GoString} {low : Nat} (inside : low ≤ s.length) :
    slice s low s.length = .ok (s.drop low) := by
  simp [slice, inside]

/-- From a position in the name the loop never leaves it. -/
theorem getAllHostsLoop_eq (hostname : GoString) : ∀ left fromIndex, fromIndex ≤ hostname.length →
    hostname.length - fromIndex ≤ left →
    getAllHostsLoop hostname fromIndex =
      .ok ((hostname.drop fromIndex).tails.filter dotted) := by
  intro left
  induction left with
  | zero =>
      intro fromIndex inside few
      have ended : hostname.drop fromIndex = [] := List.drop_eq_nil_of_le (by omega)
      rw [getAllHostsLoop]
      split
      · rename_i failure sliced
        cases (slice_to_end inside).symm.trans sliced
      · rename_i str sliced
        cases (slice_to_end inside).symm.trans sliced
        rw [ended]
        rfl
  | succ left inductionHypothesis =>
      intro fromIndex inside few
      rw [getAllHostsLoop]
      split
      · rename_i failure sliced
        cases (slice_to_end inside).symm.trans sliced
      · rename_i str sliced
        cases (slice_to_end inside).symm.trans sliced
        rcases dot_cases (hostname.drop fromIndex) with
          ⟨free, none⟩ | ⟨before, after, whole, free, found⟩
        · rw [none, dotted_tails_of_free free]
        · have length := congrArg List.length whole
          rw [List.length_drop, List.length_append, List.length_cons] at length
          have rest : hostname.drop (fromIndex + (before.length + 1)) = after := by
            rw [← List.drop_drop, whole]
            simp
          have here : slice (hostname.drop fromIndex) before.length
              (hostname.drop fromIndex).length = .ok ('.' :: after) := by
            rw [slice_to_end (by rw [List.length_drop]; omega), whole]
            simp
          simp only [found, here]
          rw [whole, dotted_tails_append free]
          by_cases ends : after = []
          · subst ends
            simp
          · have positive := List.length_pos_of_ne_nil ends
            have further : ¬ before.length + 1 ≥ (before ++ '.' :: after).length := by
              rw [List.length_append, List.length_cons]
              omega
            rw [dif_neg further, if_neg ends, inductionHypothesis _ (by omega) (by omega), rest]
            rfl

theorem getAllHostsSliced_eq (q : GoString) :
    getAllHostsSliced ('.' :: q) = .ok (candidates q) := by
  have first : slice ('.' :: q) 1 ('.' :: q).length = .ok q := slice_to_end (by simp)
  rw [getAllHostsSliced, first, getAllHostsLoop_eq _ _ 0 (Nat.zero_le _) (Nat.le_refl _)]
  rfl

/-! ### What the solvers make of it -/

/-- The outcome is that of the first candidate that is registered: the solver answers
when there is one, uses that one, and otherwise returns an error alone. -/
structure FirstCandidate (registered : GoString → Bool) (q : GoString) (outcome : Outcome)
    (uses : GoString → Msg → Prop) : Prop where
  answers : (∃ msg, outcome = .returned (some msg) none) ↔
    ∃ host ∈ candidates q, registered host = true
  first : ∀ host, (candidates q).find? registered = some host →
    ∃ msg, outcome = .returned (some msg) none ∧ uses host msg
  refuses : (candidates q).find? registered = none →
    outcome = .returned none (some ("hostname not found ".toList ++ q))

theorem FirstCandidate.of_find {registered : GoString → Bool} {q : GoString} {outcome : Outcome}
    {uses : GoString → Msg → Prop}
    (first : ∀ host, (candidates q).find? registered = some host →
      ∃ msg, outcome = .returned (some msg) none ∧ uses host msg)
    (refuses : (candidates q).find? registered = none →
      outcome = .returned none (some ("hostname not found ".toList ++ q))) :
    FirstCandidate registered q outcome uses where
  first := first
  refuses := refuses
  answers := by
    cases found : (candidates q).find? registered with
    | none =>
        have absent := List.find?_eq_none.mp found
        constructor
        · rintro ⟨msg, answered⟩
          rw [refuses found] at answered
          cases answered
        · rintro ⟨host, member, isRegistered⟩
          exact absurd isRegistered (absent host member)
    | some host =>
        obtain ⟨msg, answered, -⟩ := first host found
        exact iff_of_true ⟨msg, answered⟩
          ⟨host, List.mem_of_find?_eq_some found, List.find?_some found⟩

def questionOf (q : GoString) (qtype qclass : UInt16) : Question where
  name := q ++ ['.']
  qtype := qtype
  qclass := qclass

/-- The answer has the address the registry has under the name. -/
def DockerUses (c : Registry) (question : Question) (host : GoString) (msg : Msg) : Prop :=
  ∃ ip bytes, Recency.peek c host = some ip ∧ QuadOf ip bytes ∧
    msg = { answer := [.a
      { name := question.name, rrtype := typeA, rrclass := classINET, ttl := 0 } bytes] }

theorem DockerDnsSolver.solveHosts_of_none {c : Registry} {question : Question}
    {questionName : GoString} {hosts : List GoString}
    (absent : hosts.find? (Recency.contains c) = none) :
    solveHosts c question questionName hosts =
      (.error (.error ("hostname not found ".toList ++ questionName)), c) := by
  induction hosts with
  | nil => rfl
  | cons host rest inductionHypothesis =>
      have notHere : ¬ Recency.contains c host = true :=
        List.find?_eq_none.mp absent host (by simp)
      rw [List.find?_cons_of_neg notHere] at absent
      rw [solveHosts, LRUCache.containsKey, if_neg notHere, inductionHypothesis absent]

theorem DockerDnsSolver.solveHosts_of_some {c : Registry} {question : Question}
    {questionName : GoString} {hosts : List GoString} {host : GoString}
    (found : hosts.find? (Recency.contains c) = some host) :
    solveHosts c question questionName hosts = doSolve c host question := by
  induction hosts with
  | nil => simp at found
  | cons other rest inductionHypothesis =>
      by_cases here : Recency.contains c other = true
      · rw [List.find?_cons_of_pos here] at found
        cases found
        rw [solveHosts, LRUCache.containsKey, if_pos here]
      · rw [List.find?_cons_of_neg here] at found
        rw [solveHosts, LRUCache.containsKey, if_neg here, inductionHypothesis found]

theorem docker_firstCandidate (q : GoString) (qtype qclass : UInt16) {c : Registry}
    (quads : ∀ host ip, Recency.peek c host = some ip → ∃ bytes, QuadOf ip bytes) :
    FirstCandidate (Recency.contains c) q
      (DockerDnsSolver.solve c (questionOf q qtype qclass)).1
      (DockerUses c (questionOf q qtype qclass)) := by
  have solved : (DockerDnsSolver.solve c (questionOf q qtype qclass)).1 =
      .ofExcept (DockerDnsSolver.solveHosts c (questionOf q qtype qclass) q (candidates q)).1 := by
    simp [DockerDnsSolver.solve, questionOf, getAllHosts_eq]
  rw [solved]
  apply FirstCandidate.of_find
  · intro host found
    obtain ⟨ip, present⟩ := Recency.contains_iff.mp (List.find?_some found)
    obtain ⟨bytes, quad⟩ := quads host ip present
    refine ⟨_, ?_, ip, bytes, present, quad, rfl⟩
    rw [DockerDnsSolver.solveHosts_of_some found, DockerDnsSolver.doSolve, DockerDnsSolver.getMsg,
      LRUCache.get]
    simp only [LRUCache.get, Recency.peek_touch, present, ipMsg_of_quadOf quad]
    rfl
  · intro absent
    rw [DockerDnsSolver.solveHosts_of_none absent]
    rfl

/-- The first record of the name has type A, no type, or type CNAME. -/
def registers (env : Env) (host : GoString) : Bool :=
  match env.getHostname host with
  | some (record, _) =>
      decide (record.type = EntryType.A ∨ record.type = [] ∨ record.type = EntryType.CNAME)
  | none => false

/-- The answer is made from the first record of the name. -/
def LocalUses (env : Env) (question : Question) (host : GoString) (msg : Msg) : Prop :=
  ∃ record i, env.getHostname host = some (record, i) ∧
    ((∃ bytes, (record.type = EntryType.A ∨ record.type = []) ∧ QuadOf record.ip bytes ∧
        msg = { answer := [.a
          { name := question.name, rrtype := typeA, rrclass := classINET,
            ttl := toUInt32 record.ttl } bytes] }) ∨
      record.type = EntryType.CNAME ∧ msg = getCnameMsg question record)

/-- The records that are answered with their address have one. -/
def HasQuads (env : Env) : Prop :=
  ∀ record ∈ env.hostnames, record.type = EntryType.A ∨ record.type = [] →
    ∃ bytes, QuadOf record.ip bytes

section Local

variable {conf : Configuration} {env : Env} {position : Nat}

theorem answerHostname_of_registers (active : conf.getActiveEnv = some (env, position))
    (quads : HasQuads env) (question : Question) {host : GoString}
    (registered : registers env host = true) :
    ∃ msg, answerHostname question host conf = .ok msg ∧ LocalUses env question host msg := by
  unfold registers at registered
  cases found : env.getHostname host with
  | none => simp [found] at registered
  | some hit =>
      obtain ⟨record, i⟩ := hit
      simp only [found, decide_eq_true_eq] at registered
      have member := FirstMatch.mem_of_firstMatch found
      by_cases address : record.type = EntryType.A ∨ record.type = []
      · obtain ⟨bytes, quad⟩ := quads record member address
        refine ⟨_, ?_, record, i, found, Or.inl ⟨bytes, address, quad, rfl⟩⟩
        simp only [answerHostname, active, found, if_pos address, getAMsg,
          toIpByteArray_of_quadOf quad]
        rfl
      · have cname : record.type = EntryType.CNAME := by
          rcases registered with isA | none | cname
          · exact absurd (Or.inl isA) address
          · exact absurd (Or.inr none) address
          · exact cname
        refine ⟨_, ?_, record, i, found, Or.inr ⟨cname, rfl⟩⟩
        simp only [answerHostname, active, found, if_neg address, if_pos cname]

theorem answerHostname_of_not_registers (active : conf.getActiveEnv = some (env, position))
    (question : Question) {host : GoString} (unregistered : registers env host = false) :
    answerHostname question host conf =
      .error (.error ("hostname not found ".toList ++ host)) := by
  unfold registers at unregistered
  cases found : env.getHostname host with
  | none => simp only [answerHostname, active, found]
  | some hit =>
      obtain ⟨record, i⟩ := hit
      simp only [found, decide_eq_false_iff_not, not_or] at unregistered
      have notAddress : ¬ (record.type = EntryType.A ∨ record.type = []) :=
        not_or.mpr ⟨unregistered.1, unregistered.2.1⟩
      simp only [answerHostname, active, found, if_neg notAddress, if_neg unregistered.2.2]

theorem answerHosts_of_none (active : conf.getActiveEnv = some (env, position))
    (question : Question) (questionName : GoString) {hosts : List GoString}
    (absent : hosts.find? (registers env) = none) :
    answerHosts question questionName conf hosts =
      .error (.error ("hostname not found ".toList ++ questionName)) := by
  induction hosts with
  | nil => rfl
  | cons host rest inductionHypothesis =>
      have notHere : ¬ registers env host = true := List.find?_eq_none.mp absent host (by simp)
      rw [List.find?_cons_of_neg notHere] at absent
      rw [answerHosts, answerHostname_of_not_registers active question (by simpa using notHere)]
      exact inductionHypothesis absent

theorem answerHosts_of_some (active : conf.getActiveEnv = some (env, position))
    (quads : HasQuads env) (question : Question) (questionName : GoString)
    {hosts : List GoString} {host : GoString} (first : hosts.find? (registers env) = some host) :
    answerHosts question questionName conf hosts = answerHostname question host conf := by
  induction hosts with
  | nil => simp at first
  | cons other rest inductionHypothesis =>
      by_cases here : registers env other = true
      · rw [List.find?_cons_of_pos here] at first
        cases first
        obtain ⟨msg, answered, -⟩ := answerHostname_of_registers active quads question here
        rw [answerHosts, answered]
      · rw [List.find?_cons_of_neg here] at first
        rw [answerHosts, answerHostname_of_not_registers active question (by simpa using here)]
        exact inductionHypothesis first

theorem local_firstCandidate (q : GoString) (qtype qclass : UInt16) {clocks : Nat → Clock}
    {file : ConfFile} (loaded : (loadConfiguration (clocks 0) file).result = .ok conf)
    (active : conf.getActiveEnv = some (env, position)) (quads : HasQuads env) :
    FirstCandidate (registers env) q
      (.ofExcept (localSolve (questionOf q qtype qclass) clocks file).result)
      (LocalUses env (questionOf q qtype qclass)) := by
  have named : (questionOf q qtype qclass).name ≠ [] := by simp [questionOf]
  have solved : (localSolve (questionOf q qtype qclass) clocks file).result =
      answerHosts (questionOf q qtype qclass) q conf (candidates q) := by
    rw [localSolve_of_load loaded named, localAnswer, if_neg named]
    simp [questionOf, getAllHosts_eq]
  rw [solved]
  apply FirstCandidate.of_find
  · intro host found
    obtain ⟨msg, answered, uses⟩ := answerHostname_of_registers active quads
      (questionOf q qtype qclass) (List.find?_some found)
    refine ⟨msg, ?_, uses⟩
    rw [answerHosts_of_some active quads _ q found, answered]
    rfl
  · intro absent
    rw [answerHosts_of_none active _ q absent]
    rfl

end Local

/-- Both solvers look a name up as itself and then under its suffixes at a dot, longest
first, and answer from the first of these that is registered; when the same names are
registered both use the same one. -/
theorem wildcard_lookup (q : GoString) (qtype qclass : UInt16) {c : Registry}
    (addresses : ∀ host ip, Recency.peek c host = some ip → ∃ bytes, QuadOf ip bytes)
    {clocks : Nat → Clock} {file : ConfFile} {conf : Configuration} {env : Env} {position : Nat}
    (loaded : (loadConfiguration (clocks 0) file).result = .ok conf)
    (active : conf.getActiveEnv = some (env, position)) (quads : HasQuads env) :
    getAllHostsSliced ('.' :: q) = .ok (q :: ('.' :: q).tails.filter dotted) ∧
      FirstCandidate (Recency.contains c) q
        (DockerDnsSolver.solve c (questionOf q qtype qclass)).1
        (DockerUses c (questionOf q qtype qclass)) ∧
      FirstCandidate (registers env) q
        (.ofExcept (localSolve (questionOf q qtype qclass) clocks file).result)
        (LocalUses env (questionOf q qtype qclass)) ∧
      ((∀ host, Recency.contains c host = registers env host) → ∀ host,
        (candidates q).find? (Recency.contains c) = some host →
        ∃ msg msg',
          (DockerDnsSolver.solve c (questionOf q qtype qclass)).1 = .returned (some msg) none ∧
          DockerUses c (questionOf q qtype qclass) host msg ∧
          (localSolve (questionOf q qtype qclass) clocks file).result = .ok msg' ∧
          LocalUses env (questionOf q qtype qclass) host msg') := by
  have docker := docker_firstCandidate q qtype qclass addresses
  have stored := local_firstCandidate q qtype qclass loaded active quads
  refine ⟨getAllHostsSliced_eq q, docker, stored, fun same host found => ?_⟩
  obtain ⟨msg, answered, uses⟩ := docker.first host found
  rw [funext same] at found
  obtain ⟨msg', answered', uses'⟩ := stored.first host found
  refine ⟨msg, msg', answered, uses, ?_, uses'⟩
  cases result : (localSolve (questionOf q qtype qclass) clocks file).result with
  | ok m =>
      rw [result] at answered'
      cases answered'
      rfl
  | error failure =>
      rw [result] at answered'
      cases failure <;> cases answered'

/-- Everything under `a.com`, at one address. -/
def wildcardRecord : Hostname where
  id := 1
  hostname := ".a.com".toList
  ip := toIpString { b0 := 10, b3 := 1 }
  target := []
  ttl := 60
  type := EntryType.A

def wildcardConfig : Configuration :=
  { defaultConfig with envs := [{ name := [], hostnames := [wildcardRecord] }] }

def wildcardRegistry : Registry :=
  Recency.add Recency.empty ".a.com".toList (toIpString { b0 := 10, b3 := 1 })

/-- `b.a.com` is answered from the entry of `.a.com`. -/
theorem wildcard_lookup_suffix :
    ∃ msg msg',
      (DockerDnsSolver.solve wildcardRegistry (questionOf "b.a.com".toList typeA classINET)).1 =
        .returned (some msg) none ∧
      DockerUses wildcardRegistry (questionOf "b.a.com".toList typeA classINET) ".a.com".toList
        msg ∧
      (localSolve (questionOf "b.a.com".toList typeA classINET) (fun _ => stillClock)
        (.document (.v2 (StorageV2.valueOf wildcardConfig)))).result = .ok msg' ∧
      LocalUses { name := [], hostnames := [wildcardRecord] }
        (questionOf "b.a.com".toList typeA classINET) ".a.com".toList msg' := by
  have entry : ∀ host, Recency.peek wildcardRegistry host =
      if host = ".a.com".toList then some (toIpString { b0 := 10, b3 := 1 }) else none := by
    intro host
    rw [wildcardRegistry, Recency.peek_add_of_room (Or.inr (by decide)), Recency.peek_empty]
  have addresses : ∀ host ip, Recency.peek wildcardRegistry host = some ip →
      ∃ bytes, QuadOf ip bytes := by
    intro host ip present
    rw [entry] at present
    split_ifs at present
    cases present
    exact ⟨_, quadOf_toIpString _⟩
  have quads : HasQuads { name := [], hostnames := [wildcardRecord] } := by
    intro record member _
    cases List.mem_singleton.mp member
    exact ⟨_, quadOf_toIpString _⟩
  have same : ∀ host, Recency.contains wildcardRegistry host =
      registers { name := [], hostnames := [wildcardRecord] } host := by
    intro host
    rw [Recency.contains, entry]
    by_cases here : host = ".a.com".toList
    · subst here
      decide
    · have absent : Env.getHostname { name := [], hostnames := [wildcardRecord] } host = none := by
        apply FirstMatch.firstMatch_eq_none.mpr
        intro record member
        cases List.mem_singleton.mp member
        exact beq_eq_false_iff_ne.mpr (Ne.symm here)
      rw [if_neg here, registers, absent]
      rfl
  have loaded : (loadConfiguration stillClock
      (.document (.v2 (StorageV2.valueOf wildcardConfig)))).result = .ok wildcardConfig := rfl
  have active : wildcardConfig.getActiveEnv =
      some ({ name := [], hostnames := [wildcardRecord] }, 0) := rfl
  exact (@wildcard_lookup "b.a.com".toList typeA classINET wildcardRegistry addresses
    (fun _ => stillClock) _ _ _ _ loaded active quads).2.2.2 same _ (by decide)

end DnsProxyServer.Proxy
