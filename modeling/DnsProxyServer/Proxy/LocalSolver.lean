/-
Module: DnsProxyServer.Proxy.LocalSolver
Purpose: The solver that answers from the configuration file, and what it answers
  once the file holds a settled configuration.
Trusted boundary: translation of proxy/local.go; logging is left out
Main exports: solveHostname, localSolve, localAnswer, localSolve_of_load,
  active_env_exists
-/
import DnsProxyServer.Local.ActiveEnv
import DnsProxyServer.Proxy.Message

namespace DnsProxyServer.Proxy

open Local
open LoadStore (Access after)

def getCnameMsg (question : Question) (hostname : Hostname) : Msg where
  answer := [.cname
    { name := question.name, rrtype := typeCNAME, rrclass := 256, ttl := toUInt32 hostname.ttl }
    (hostname.target ++ ".".toList)]

def getAMsg (question : Question) (hostname : Hostname) : Except Failure Msg := do
  let ipArray ← toIpByteArray {} hostname.ip
  return {
    answer := [.a
      { name := question.name, rrtype := typeA, rrclass := classINET,
        ttl := toUInt32 hostname.ttl }
      ipArray] }

/-- `solveHostname` after the configuration is loaded. -/
def answerHostname (question : Question) (key : GoString) (conf : Configuration) :
    Except Failure Msg :=
  match conf.getActiveEnv with
  | none => .error (.error "Not active env found.".toList)
  | some (activeEnv, _) =>
      match activeEnv.getHostname key with
      | some (hostname, _) =>
          if hostname.type = EntryType.A ∨ hostname.type = [] then getAMsg question hostname
          else if hostname.type = EntryType.CNAME then .ok (getCnameMsg question hostname)
          else .error (.error ("hostname not found ".toList ++ key))
      | none => .error (.error ("hostname not found ".toList ++ key))

def solveHostname (question : Question) (key : GoString) (clock : Clock) (file : ConfFile) :
    FileAccess Msg :=
  (loadConfiguration clock file).bind fun conf => .ofExcept (answerHostname question key conf)

/-- The loop of `Solve` over the candidate names, each with a load of its own: an
error value goes on to the next name, a panic does not. -/
def solveHosts (question : Question) (questionName : GoString) (clocks : Nat → Clock) :
    List GoString → ConfFile → FileAccess Msg
  | [], _ => .ofExcept (.error (.error ("hostname not found ".toList ++ questionName)))
  | host :: rest, file =>
      let access := solveHostname question host (clocks 0) file
      match access.result with
      | .error (.error _) =>
          let later := solveHosts question questionName (fun n => clocks (n + 1)) rest
            (after file access.saves)
          { saves := access.saves ++ later.saves, result := later.result }
      | _ => access

/-- `localDnsSolver.Solve`. -/
def localSolve (question : Question) (clocks : Nat → Clock) (file : ConfFile) :
    FileAccess Msg :=
  if question.name = [] then .ofExcept (.error (.panic .sliceBounds))
  else
    let questionName := question.name.dropLast
    solveHosts question questionName clocks (getAllHosts ('.' :: questionName)) file

/-! ### The answer a configuration gives -/

/-- The first candidate that does not fail with an error value. -/
def answerHosts (question : Question) (questionName : GoString) (conf : Configuration) :
    List GoString → Except Failure Msg
  | [] => .error (.error ("hostname not found ".toList ++ questionName))
  | host :: rest =>
      match answerHostname question host conf with
      | .error (.error _) => answerHosts question questionName conf rest
      | result => result

def localAnswer (question : Question) (conf : Configuration) : Except Failure Msg :=
  if question.name = [] then .error (.panic .sliceBounds)
  else answerHosts question question.name.dropLast conf
    (getAllHosts ('.' :: question.name.dropLast))

theorem solveHosts_of_represents {file : ConfFile} {conf : Configuration}
    (represents : Represents file conf) (question : Question) (questionName : GoString)
    (hosts : List GoString) : ∀ clocks,
    solveHosts question questionName clocks hosts file =
      .ofExcept (answerHosts question questionName conf hosts) := by
  induction hosts with
  | nil => exact fun _ => rfl
  | cons host rest inductionHypothesis =>
      intro clocks
      have one : solveHostname question host (clocks 0) file =
          .ofExcept (answerHostname question host conf) := by
        rw [solveHostname, loadConfiguration_of_represents represents]
        rfl
      rw [solveHosts, answerHosts, one]
      cases result : answerHostname question host conf with
      | ok msg => rfl
      | error failure =>
          cases failure with
          | error message =>
              simp only [Access.ofExcept, LoadStore.after_nil, List.nil_append,
                inductionHypothesis]
          | panic cause => rfl

/-- On a settled file the solver answers from the configuration and saves nothing. -/
theorem localSolve_of_represents {file : ConfFile} {conf : Configuration}
    (represents : Represents file conf) (question : Question) (clocks : Nat → Clock) :
    localSolve question clocks file = .ofExcept (localAnswer question conf) := by
  unfold localSolve localAnswer
  split_ifs
  · rfl
  · exact solveHosts_of_represents represents question _ _ clocks

/-- A load that fails fails for every clock, and saves nothing. -/
theorem loadConfiguration_of_error {file : ConfFile} {clock : Clock} {failure : Failure}
    (fails : (loadConfiguration clock file).result = .error failure) (clock' : Clock) :
    loadConfiguration clock' file = .ofExcept (.error failure) := by
  cases file with
  | missing =>
      have loaded : ∃ c, (loadConfiguration clock .missing).result = .ok c := ⟨_, rfl⟩
      obtain ⟨c, ok⟩ := loaded
      exact absurd (ok.symm.trans fails) (by simp)
  | unreadable cause => exact congrArg Access.ofExcept fails
  | document d =>
      cases read : loadVersionedConfiguration d with
      | error cause =>
          simp only [loadConfiguration, read] at fails ⊢
          exact congrArg Access.ofExcept (congrArg Except.error (Except.error.inj fails))
      | ok c =>
          rw [loadConfiguration_document read] at fails
          cases fails

theorem solveHosts_of_error {file : ConfFile} {clock : Clock} {failure : Failure}
    (fails : (loadConfiguration clock file).result = .error failure) (question : Question)
    (questionName : GoString) (hosts : List GoString) : ∀ clocks, ∃ cause,
    solveHosts question questionName clocks hosts file = .ofExcept (.error cause) := by
  induction hosts with
  | nil => exact fun _ => ⟨_, rfl⟩
  | cons host rest inductionHypothesis =>
      intro clocks
      have one : solveHostname question host (clocks 0) file = .ofExcept (.error failure) := by
        rw [solveHostname, loadConfiguration_of_error fails]
        rfl
      rw [solveHosts, one]
      cases failure with
      | error message =>
          obtain ⟨cause, later⟩ := inductionHypothesis fun n => clocks (n + 1)
          simp only [Access.ofExcept, LoadStore.after_nil, later, List.append_nil]
          exact ⟨cause, rfl⟩
      | panic cause => exact ⟨_, rfl⟩

/-- A solver that cannot load the configuration does not answer, and saves nothing. -/
theorem localSolve_of_error {file : ConfFile} {clock : Clock} {failure : Failure}
    (fails : (loadConfiguration clock file).result = .error failure) (question : Question)
    (clocks : Nat → Clock) :
    ∃ cause, localSolve question clocks file = .ofExcept (.error cause) := by
  unfold localSolve
  split_ifs
  · exact ⟨_, rfl⟩
  · exact solveHosts_of_error fails question _ _ clocks

/-- The first load settles the file; the answer is that of the configuration it
returns. -/
theorem localSolve_of_load {file : ConfFile} {clocks : Nat → Clock} {conf : Configuration}
    (loaded : (loadConfiguration (clocks 0) file).result = .ok conf) {question : Question}
    (named : question.name ≠ []) :
    localSolve question clocks file =
      { saves := (loadConfiguration (clocks 0) file).saves
        result := localAnswer question conf } := by
  have represents := represents_of_load loaded
  simp only [localSolve, localAnswer, if_neg named, getAllHosts, solveHosts, answerHosts,
    solveHostname, Access.bind_of_ok loaded, Access.ofExcept, List.append_nil]
  cases result : answerHostname question (List.drop 1 ('.' :: question.name.dropLast)) conf with
  | ok msg => rfl
  | error failure =>
      cases failure with
      | error message =>
          simp only [solveHosts_of_represents represents, Access.ofExcept, List.append_nil]
      | panic cause => rfl

/-- A query either fails without a save, or leaves a file that represents the
configuration it answered from. -/
theorem localSolve_cases (question : Question) (clocks : Nat → Clock) (file : ConfFile) :
    (∃ cause, localSolve question clocks file = .ofExcept (.error cause)) ∨
      ∃ conf, Represents (after file (localSolve question clocks file).saves) conf ∧
        (localSolve question clocks file).result = localAnswer question conf := by
  by_cases named : question.name = []
  · exact Or.inl ⟨_, by rw [localSolve, if_pos named]⟩
  · cases loaded : (loadConfiguration (clocks 0) file).result with
    | error failure => exact Or.inl (localSolve_of_error loaded question clocks)
    | ok conf =>
        rw [localSolve_of_load loaded named]
        exact Or.inr ⟨conf, represents_of_load loaded, rfl⟩

/-- The answer depends on the name of the question alone. -/
theorem localAnswer_congr {question question' : Question} (names : question.name = question'.name)
    (conf : Configuration) : localAnswer question conf = localAnswer question' conf := by
  have one : ∀ key, answerHostname question key conf = answerHostname question' key conf := by
    intro key
    unfold answerHostname getAMsg getCnameMsg
    rw [names]
  have all : ∀ questionName hosts, answerHosts question questionName conf hosts =
      answerHosts question' questionName conf hosts := by
    intro questionName hosts
    induction hosts with
    | nil => rfl
    | cons host rest inductionHypothesis => rw [answerHosts, answerHosts, one, inductionHypothesis]
  rw [localAnswer, localAnswer, names, all]

/-! ### The active env -/

def notActiveEnvFound : Failure := .error "Not active env found.".toList

theorem getAMsg_ne_notActiveEnvFound (question : Question) (hostname : Hostname) :
    getAMsg question hostname ≠ .error notActiveEnvFound := by
  intro fails
  unfold getAMsg at fails
  cases read : toIpByteArray {} hostname.ip with
  | error failure =>
      obtain ⟨cause, rfl⟩ := toIpByteArray_error read
      simp [read, bind, Except.bind, notActiveEnvFound] at fails
  | ok ipArray => simp [read, bind, Except.bind, pure, Except.pure] at fails

/-- With an active env no candidate name fails for want of one. -/
theorem answerHostname_of_active {conf : Configuration} (active : conf.getActiveEnv ≠ none)
    (question : Question) (key : GoString) :
    answerHostname question key conf ≠ .error notActiveEnvFound := by
  have differs : (Failure.error ("hostname not found ".toList ++ key)) ≠ notActiveEnvFound := by
    intro same
    have heads := congrArg List.head? (Failure.error.inj same)
    simp at heads
  unfold answerHostname
  split
  · exact absurd ‹_› active
  · split
    · split_ifs
      · exact getAMsg_ne_notActiveEnvFound question _
      · simp
      · exact fun same => differs (Except.error.inj same)
    · exact fun same => differs (Except.error.inj same)

/-- Start from any loaded configuration whose active env exists. In every run of
the operations whose steps do not remove it, the stored configuration has its
active env, and the local solver does not fail for want of one. -/
theorem active_env_exists {clock : Clock} {file : ConfFile} {conf : Configuration}
    (loaded : (loadConfiguration clock file).result = .ok conf)
    (active : conf.getActiveEnv ≠ none) {calls : List (Clock × Operation)} {final : ConfFile}
    (meets : Runs.AllSteps storeStep KeepsActiveStep
      (after file (loadConfiguration clock file).saves) calls)
    (ran : Runs.run storeStep (after file (loadConfiguration clock file).saves) calls =
      some final) (observer : Clock) :
    (∃ stored, (loadConfiguration observer final).result = .ok stored ∧
        stored.getActiveEnv ≠ none) ∧
      ∀ question key,
        (solveHostname question key observer final).result ≠ .error notActiveEnvFound := by
  obtain ⟨d, fileEq, activeD⟩ :=
    (represents_of_load loaded).hasActive (getActiveEnv_ne_none_iff.mp active)
  rw [fileEq] at meets ran
  obtain ⟨d', rfl, activeD'⟩ := hasActive_of_run meets ran activeD
  obtain ⟨stored, read, activeStored⟩ := activeD'.load observer
  have present := getActiveEnv_ne_none_iff.mpr activeStored
  refine ⟨⟨stored, read, present⟩, fun question key => ?_⟩
  rw [solveHostname, Access.bind_of_ok read]
  exact answerHostname_of_active present question key

/-- A run that activates a new env before it removes the default one. -/
theorem active_env_exists_after_activation :
    let calls : List (Clock × Operation) :=
      [(stillClock, .addEnv { name := "x".toList, hostnames := [] }),
        (stillClock, .setActiveEnv { name := "x".toList, hostnames := [] }),
        (stillClock, .removeEnvByName [])]
    ∃ final,
      Runs.run storeStep (after .missing (loadConfiguration stillClock .missing).saves) calls =
        some final ∧
      ((∃ stored, (loadConfiguration stillClock final).result = .ok stored ∧
          stored.getActiveEnv ≠ none) ∧
        ∀ question key, (solveHostname question key stillClock final).result ≠
          .error notActiveEnvFound) := by
  intro calls
  have loaded : (loadConfiguration stillClock .missing).result =
      .ok { defaultConfig with envs := newEmptyEnv } := rfl
  have active : Configuration.getActiveEnv { defaultConfig with envs := newEmptyEnv } ≠ none := by
    decide
  have meets : Runs.AllSteps storeStep KeepsActiveStep
      (after .missing (loadConfiguration stillClock .missing).saves) calls := by
    refine ⟨fun _ _ => trivial, fun _ first => ⟨fun _ _ => trivial, fun _ second => ⟨?_, ?_⟩⟩⟩
    · cases first
      cases second
      intro c read removesActive
      cases read
      exact absurd removesActive (by decide)
    · exact fun _ _ => trivial
  exact ⟨_, rfl, active_env_exists loaded active meets rfl stillClock⟩

/-- From the default configuration: create the env `x`, then delete the default env
while it is still active. -/
theorem deleted_default_env_stays_active :
    ∃ conf final stored,
      (loadConfiguration stillClock .missing).result = .ok conf ∧ conf.getActiveEnv ≠ none ∧
      Runs.run storeStep (after .missing (loadConfiguration stillClock .missing).saves)
          [(stillClock, .addEnv { name := "x".toList, hostnames := [] }),
            (stillClock, .removeEnvByName [])] = some final ∧
      (loadConfiguration stillClock final).result = .ok stored ∧ stored.getActiveEnv = none ∧
      (solveHostname { name := "a.com.".toList, qtype := typeA, qclass := classINET }
          "a.com".toList stillClock final).result = .error notActiveEnvFound :=
  ⟨_, _, _, rfl, by decide, rfl, rfl, rfl, rfl⟩

end DnsProxyServer.Proxy
