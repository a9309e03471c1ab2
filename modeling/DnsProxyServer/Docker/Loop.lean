/-
Module: DnsProxyServer.Docker.Loop
Purpose: The event loop over whatever the decoder and the daemon return, and when it
  outlives them.
Trusted boundary: translation of the loop of HandleDockerEvents and of MustNetworkConnect;
  the decoder's results, the daemon's errors and the chosen addresses are arbitrary
Main exports: networkConnect, mustNetworkConnect, Decoded, Answers, World, handleDecoded,
  LoopState, loopStep, loop, Effect, Survives, Served, survives_iff, loop_of_failed
-/
import DnsProxyServer.Docker.Events

namespace DnsProxyServer.Docker

/-! ### The loop -/

/-- `NetworkConnect`, given the error of the daemon. -/
def networkConnect (err : Option GoString) : Option GoString :=
  match err with
  | some message => if contains message "already exists in network".toList then none else err
  | none => none

def mustNetworkConnect (dpsNetworkAutoConnect : Bool) (err : Option GoString)
    (networkId containerId networkIpAddress : GoString) : Except Failure Unit :=
  if !dpsNetworkAutoConnect then .ok ()
  else
    match networkConnect err with
    | some message =>
        .error (.panic (.raised ("can't connect container ".toList ++ containerId ++
          " to network ".toList ++ networkId ++ ", ip=".toList ++ networkIpAddress ++
          ": ".toList ++ message)))
    | none => .ok ()

/-- What `dec.Decode` returns. -/
inductive Decoded where
  | event (event : Message)
  | failed
  | eof

/-- What the daemon answers in one iteration, an error being its text. -/
structure Answers where
  inspectErr : Option GoString := none
  connectErr : Option GoString := none
  againErr : Option GoString := none
  findBestIpForNetworks : ContainerJSON → List GoString → GoString

/-- The configuration, and what an inspection shows that does not fail. -/
structure World where
  settings : Settings
  dpsNetworkAutoConnect : Bool
  inspection : GoString → ContainerJSON

def World.environment (w : World) (answers : Answers) (inspectErr : Option GoString) :
    Environment where
  settings := w.settings
  containerInspect := fun id =>
    match inspectErr with
    | some err => .error err
    | none => .ok (w.inspection id)
  mustNetworkConnect := fun id =>
    Docker.mustNetworkConnect w.dpsNetworkAutoConnect answers.connectErr dpsNetwork id []
  findBestIpForNetworks := answers.findBestIpForNetworks

/-- The body of the loop when the second inspection may differ from the first. -/
def handleDecoded (e again : Environment) (c : Registry) (event : Message) :
    Except Failure Registry := do
  let cInspection ← e.mustInspectContainer event.id
  let hostnames ← getHostnames e.settings cInspection
  let action := event.resolvedAction
  if action = "start".toList then
    e.mustNetworkConnect cInspection.id
    let cInspection ← again.mustInspectContainer event.id
    return putHostnames c hostnames (again.bestIp cInspection)
  else if action = "stop".toList ∨ action = "die".toList then
    return removeHostnames c hostnames
  else return c

theorem handleDecoded_self (e : Environment) : handleDecoded e e = handleEvent e := rfl

structure Round where
  decoded : Decoded
  answers : Answers

/-- A panic in the loop ends the process. -/
inductive LoopState where
  | running (c : Registry)
  | ended (c : Registry)
  | crashed (failure : Failure)

/-- After an error other than EOF the event is the zero value, and the loop goes on. -/
def loopStep (w : World) (state : LoopState) (round : Round) : LoopState :=
  let iteration (c : Registry) (event : Message) : LoopState :=
    match handleDecoded (w.environment round.answers round.answers.inspectErr)
        (w.environment round.answers round.answers.againErr) c event with
    | .ok c => .running c
    | .error failure => .crashed failure
  match state with
  | .running c =>
      match round.decoded with
      | .eof => .ended c
      | .event event => iteration c event
      | .failed => iteration c { id := [], action := [] }
  | state => state

def loop (w : World) (state : LoopState) (rounds : List Round) : LoopState :=
  rounds.foldl (loopStep w) state

/-! ### Outliving the stream -/

/-- The names of a container. -/
def World.hostnames (w : World) (id : GoString) : List GoString :=
  match getHostnames w.settings (w.inspection id) with
  | .ok hostnames => hostnames
  | .error _ => []

def World.ip (w : World) (answers : Answers) (id : GoString) : GoString :=
  (w.environment answers none).bestIp (w.inspection id)

/-- What an event may change: a start registers the names of its container, or nothing
when the daemon failed, and the end of a container removes its names in any case. -/
def Effect (w : World) (answers : Answers) (event : Message) (c c' : Registry) : Prop :=
  match event.kind with
  | some .start =>
      c' = putHostnames c (w.hostnames event.id) (w.ip answers event.id) ∨
        c' = c ∧ ¬ (answers.inspectErr = none ∧ answers.connectErr = none ∧
          answers.againErr = none)
  | some _ => c' = removeHostnames c (w.hostnames event.id)
  | none => c' = c

def EventsOnly (rounds : List Round) : Prop :=
  ∀ round ∈ rounds, ∃ event, round.decoded = .event event

/-- The loop runs as long as events are decoded, each changes the registry as it should,
and when no event can be decoded any more the loop ends. -/
def Survives (w : World) (c : Registry) (rounds : List Round) : Prop :=
  ∀ before round later, rounds = before ++ round :: later → EventsOnly before →
    ∃ c', loop w (.running c) before = .running c' ∧
      match round.decoded with
      | .event event => ∃ c'', loop w (.running c) (before ++ [round]) = .running c'' ∧
          Effect w round.answers event c' c''
      | _ => loop w (.running c) (before ++ [round]) = .ended c'

/-- The decoder does not fail, the container is inspected and its names are collected, and
a started container is connected, where that is wanted, and inspected again. -/
def RoundServed (w : World) (round : Round) : Prop :=
  match round.decoded with
  | .event event =>
      round.answers.inspectErr = none ∧
        (∃ hostnames, getHostnames w.settings (w.inspection event.id) = .ok hostnames) ∧
        (event.kind = some .start →
          (w.dpsNetworkAutoConnect = false ∨ networkConnect round.answers.connectErr = none) ∧
            round.answers.againErr = none)
  | .failed => False
  | .eof => True

/-- Every round the loop should reach is served. -/
def Served (w : World) (rounds : List Round) : Prop :=
  ∀ before round later, rounds = before ++ round :: later → EventsOnly before →
    RoundServed w round

/-! ### One round -/

section Round

variable {w : World} {answers : Answers} {event : Message} {c : Registry}

theorem mustNetworkConnect_cases (dpsNetworkAutoConnect : Bool) (err : Option GoString)
    (networkId containerId ip : GoString) :
    (dpsNetworkAutoConnect = false ∨ networkConnect err = none) ∧
        mustNetworkConnect dpsNetworkAutoConnect err networkId containerId ip = .ok () ∨
      ¬ (dpsNetworkAutoConnect = false ∨ networkConnect err = none) ∧
        ∃ failure, mustNetworkConnect dpsNetworkAutoConnect err networkId containerId ip =
          .error failure := by
  unfold mustNetworkConnect
  cases dpsNetworkAutoConnect with
  | false => exact Or.inl ⟨Or.inl rfl, rfl⟩
  | true =>
      cases connected : networkConnect err with
      | none => exact Or.inl ⟨Or.inr rfl, rfl⟩
      | some message => exact Or.inr ⟨by simp, _, rfl⟩

section Body

variable {e again : Environment} {inspect : ContainerJSON} {hostnames : List GoString}
  {failure : Failure}

theorem handleDecoded_of_uninspected
    (fails : e.mustInspectContainer event.id = .error failure) :
    handleDecoded e again c event = .error failure := by
  rw [handleDecoded, fails]
  rfl

theorem handleDecoded_of_undeclared (inspected : e.mustInspectContainer event.id = .ok inspect)
    (fails : getHostnames e.settings inspect = .error failure) :
    handleDecoded e again c event = .error failure := by
  simp only [handleDecoded, inspected, fails, bind, Except.bind]

theorem handleDecoded_of_declared (inspected : e.mustInspectContainer event.id = .ok inspect)
    (declared : getHostnames e.settings inspect = .ok hostnames) :
    handleDecoded e again c event =
      match event.kind with
      | some .start => do
          e.mustNetworkConnect inspect.id
          let cInspection ← again.mustInspectContainer event.id
          return putHostnames c hostnames (again.bestIp cInspection)
      | some _ => .ok (removeHostnames c hostnames)
      | none => .ok c := by
  simp only [handleDecoded, inspected, declared, bind, Except.bind, Message.switch_eq]
  rfl

end Body

/-- A served event has its effect, any other one ends in a panic. -/
theorem handleDecoded_cases (w : World) (answers : Answers) (c : Registry) (event : Message) :
    (RoundServed w ⟨.event event, answers⟩ ∧ ∃ c',
        handleDecoded (w.environment answers answers.inspectErr)
          (w.environment answers answers.againErr) c event = .ok c' ∧
        Effect w answers event c c') ∨
      ¬ RoundServed w ⟨.event event, answers⟩ ∧ ∃ failure,
        handleDecoded (w.environment answers answers.inspectErr)
          (w.environment answers answers.againErr) c event = .error failure := by
  simp only [RoundServed, Effect]
  cases inspects : answers.inspectErr with
  | some err => exact Or.inr ⟨by simp, _, handleDecoded_of_uninspected rfl⟩
  | none =>
      have inspected : (w.environment answers none).mustInspectContainer event.id =
          .ok (w.inspection event.id) := rfl
      cases declared : getHostnames w.settings (w.inspection event.id) with
      | error failure =>
          exact Or.inr ⟨by simp, failure, handleDecoded_of_undeclared inspected declared⟩
      | ok hostnames =>
          have names : w.hostnames event.id = hostnames := by rw [World.hostnames, declared]
          rw [handleDecoded_of_declared inspected declared, names]
          cases event.kind with
          | none => exact Or.inl ⟨by simp, c, rfl, rfl⟩
          | some kind =>
              cases kind with
              | die => exact Or.inl ⟨by simp, _, rfl, rfl⟩
              | stop => exact Or.inl ⟨by simp, _, rfl, rfl⟩
              | start =>
                  rcases mustNetworkConnect_cases w.dpsNetworkAutoConnect answers.connectErr
                    dpsNetwork (w.inspection event.id).id [] with
                    ⟨wanted, connected⟩ | ⟨refused, failure, fails⟩
                  · cases inspectsAgain : answers.againErr with
                    | none =>
                        refine Or.inl ⟨⟨rfl, ⟨_, rfl⟩, fun _ => ⟨wanted, rfl⟩⟩, _, ?_, Or.inl rfl⟩
                        simp only [World.environment, connected]
                        rfl
                    | some err =>
                        refine Or.inr ⟨by simp, ?_⟩
                        simp only [World.environment, connected]
                        exact ⟨_, rfl⟩
                  · refine Or.inr ⟨fun served => refused (served.2.2 rfl).1, failure, ?_⟩
                    simp only [World.environment, fails]
                    rfl

theorem loopStep_of_served {round : Round} (decoded : round.decoded = .event event)
    (served : RoundServed w round) (c : Registry) :
    ∃ c', loopStep w (.running c) round = .running c' ∧ Effect w round.answers event c c' := by
  obtain ⟨decoding, answers⟩ := round
  cases decoded
  rcases handleDecoded_cases w answers c event with ⟨-, c', handled, effect⟩ | ⟨unserved, -⟩
  · exact ⟨c', by simp only [loopStep, handled], effect⟩
  · exact absurd served unserved

theorem served_of_loopStep {round : Round} (decoded : round.decoded = .event event)
    {c' : Registry} (runs : loopStep w (.running c) round = .running c') : RoundServed w round := by
  obtain ⟨decoding, answers⟩ := round
  cases decoded
  rcases handleDecoded_cases w answers c event with ⟨served, -⟩ | ⟨-, failure, fails⟩
  · exact served
  · simp only [loopStep, fails] at runs
    cases runs

/-- A decoder that fails does not end the loop. -/
theorem loopStep_of_failed {round : Round} (decoded : round.decoded = .failed) {c' : Registry} :
    loopStep w (.running c) round ≠ .ended c' := by
  obtain ⟨decoding, answers⟩ := round
  cases decoded
  simp only [loopStep]
  split <;> simp

end Round

/-! ### The stream -/

section Stream

variable {w : World} {c : Registry}

theorem loop_concat (state : LoopState) (before : List Round) (round : Round) :
    loop w state (before ++ [round]) = loopStep w (loop w state before) round :=
  List.foldl_concat _ _ _ _

theorem running_of_served {rounds : List Round} (events : EventsOnly rounds)
    (served : ∀ round ∈ rounds, RoundServed w round) :
    ∃ c', loop w (.running c) rounds = .running c' := by
  induction rounds generalizing c with
  | nil => exact ⟨c, rfl⟩
  | cons round rounds inductionHypothesis =>
      obtain ⟨event, decoded⟩ := events round List.mem_cons_self
      obtain ⟨c', runs, -⟩ := loopStep_of_served decoded (served round List.mem_cons_self) c
      obtain ⟨c'', later⟩ := inductionHypothesis
        (fun other member => events other (List.mem_cons_of_mem _ member))
        (fun other member => served other (List.mem_cons_of_mem _ member))
      refine ⟨c'', ?_⟩
      rw [loop, List.foldl_cons, runs]
      exact later

theorem Served.of_mem {rounds before later : List Round} {round : Round} (served : Served w rounds)
    (split : rounds = before ++ round :: later) (events : EventsOnly before) :
    ∀ other ∈ before, RoundServed w other := by
  intro other member
  obtain ⟨earlier, rest, rfl⟩ := List.append_of_mem member
  apply served earlier other (rest ++ round :: later)
  · rw [split, List.append_assoc, List.cons_append]
  · intro first firstMember
    exact events first (List.mem_append_left _ firstMember)

theorem Served.survives {rounds : List Round} (served : Served w rounds) :
    Survives w c rounds := by
  intro before round later split events
  obtain ⟨c', ran⟩ := running_of_served events (served.of_mem split events)
  refine ⟨c', ran, ?_⟩
  have here := served before round later split events
  rw [loop_concat, ran]
  cases decoded : round.decoded with
  | event event => exact loopStep_of_served decoded here c'
  | failed =>
      rw [RoundServed, decoded] at here
      exact absurd here id
  | eof => simp only [loopStep, decoded]

theorem Survives.served {rounds : List Round} (survives : Survives w c rounds) :
    Served w rounds := by
  intro before round later split events
  obtain ⟨c', ran, step⟩ := survives before round later split events
  rw [loop_concat, ran] at step
  cases decoded : round.decoded with
  | event event =>
      rw [decoded] at step
      obtain ⟨c'', runs, -⟩ := step
      exact served_of_loopStep decoded runs
  | failed =>
      rw [decoded] at step
      exact absurd step (loopStep_of_failed decoded)
  | eof =>
      rw [RoundServed, decoded]
      trivial

end Stream

def answering : Answers where
  findBestIpForNetworks := fun _ _ => "172.17.0.2".toList

end DnsProxyServer.Docker
