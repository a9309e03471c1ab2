/-
Module: DnsProxyServer.Docker.Startup
Purpose: The start of HandleDockerEvents against a daemon whose containers start and
  die at any time: when the registry holds exactly the running containers.
Trusted boundary: translation of the steps of HandleDockerEvents in code order; the
  stream delivers every event after the subscription, and the DPS network is left out
Main exports: StartupPhase, StartupState, startupStep, Complete, Exact,
  exact_iff_complete
-/
import DnsProxyServer.Docker.Events

namespace DnsProxyServer.Docker

/-! ### The steps -/

/-- Where `HandleDockerEvents` stands; `pending` are the listed containers that are not
registered yet. -/
inductive StartupPhase where
  | connecting
  | listed (containers : List GoString)
  | handling (pending : List GoString)
deriving DecidableEq

/-- The running containers; the events that wait in the stream; and, kept only to
speak about a run, the containers that were listed, those that ran at the
subscription, and the events delivered since. -/
structure StartupState where
  running : List GoString := []
  phase : StartupPhase := .connecting
  stream : List Message := []
  registry : Registry := Recency.empty
  listed : List GoString := []
  subscribedTo : List GoString := []
  delivered : List Message := []

def startMessage (id : GoString) : Message := { id := id, action := "start".toList }
def dieMessage (id : GoString) : Message := { id := id, action := "die".toList }

/-- The daemon puts an event into the stream of a subscriber. -/
def StartupState.emit (s : StartupState) (event : Message) : StartupState :=
  match s.phase with
  | .handling _ =>
      { s with stream := s.stream ++ [event], delivered := s.delivered ++ [event] }
  | _ => s

inductive StartupEvent where
  | start (id : GoString)
  | die (id : GoString)
  | list (containers : List GoString)
  | subscribe
  | register
  | handle

/-- One step of the daemon or of `HandleDockerEvents`; `none` when it is not possible,
or when it panics. -/
def startupStep (fleet : Fleet) (s : StartupState) : StartupEvent → Option StartupState
  | .start id =>
      if s.running.contains id then none
      else if fleet.containers.contains id then
        some (StartupState.emit { s with running := id :: s.running } (startMessage id))
      else none
  | .die id =>
      if s.running.contains id then
        let others := s.running.filter fun other => !decide (other = id)
        some (StartupState.emit { s with running := others } (dieMessage id))
      else none
  | .list containers =>
      match s.phase with
      | .connecting =>
          if containers.isPerm s.running then
            some { s with phase := .listed containers, listed := containers }
          else none
      | _ => none
  | .subscribe =>
      match s.phase with
      | .listed containers =>
          some { s with phase := .handling containers, subscribedTo := s.running }
      | _ => none
  | .register =>
      match s.phase with
      | .handling (id :: rest) =>
          match registerContainer fleet.environment s.registry id with
          | .ok registry => some { s with phase := .handling rest, registry := registry }
          | .error _ => none
      | _ => none
  | .handle =>
      match s.phase, s.stream with
      | .handling [], event :: rest =>
          match handleEvent fleet.environment s.registry event with
          | .ok registry => some { s with stream := rest, registry := registry }
          | .error _ => none
      | _, _ => none

/-- The listed containers and every event delivered so far have been processed. -/
def StartupState.Settled (s : StartupState) : Prop := s.phase = .handling [] ∧ s.stream = []

/-! ### One container -/

/-- What the events say about a container, after what was known before them. -/
def runsAfter (id : GoString) (before : Bool) (event : Message) : Bool :=
  if event.id = id then event.kind = some .start else before

/-- Two beliefs agree after the events if and only if they did before, or there was an
event of the container. -/
theorem foldl_runsAfter_eq_iff {id : GoString} {events : List Message} : ∀ {b b' : Bool},
    events.foldl (runsAfter id) b = events.foldl (runsAfter id) b' ↔
      b = b' ∨ ∃ event ∈ events, event.id = id := by
  induction events with
  | nil => simp
  | cons event rest inductionHypothesis =>
      intro b b'
      rw [List.foldl_cons, List.foldl_cons, inductionHypothesis]
      by_cases own : event.id = id
      · simp [runsAfter, own]
      · simp [runsAfter, own]

/-- The events the daemon sends are starts and deaths. -/
def Announces (events : List Message) : Prop :=
  ∀ event ∈ events, event.kind = some .start ∨ event.kind = some .die

variable {fleet : Fleet}

/-- No two containers declare the same name. -/
def Fleet.Disjoint (fleet : Fleet) : Prop :=
  ∀ id ∈ fleet.containers, ∀ id' ∈ fleet.containers, ∀ h,
    h ∈ fleet.hostnames id → h ∈ fleet.hostnames id' → id = id'

/-- A name that one container alone declares is its own while the events say that it
runs. -/
theorem foldl_holder_of_disjoint (disjoint : fleet.Disjoint) {id h : GoString}
    (known : id ∈ fleet.containers) (declares : h ∈ fleet.hostnames id) {events : List Message}
    (ids : ∀ event ∈ events, event.id ∈ fleet.containers) (announces : Announces events) :
    ∀ b : Bool, events.foldl (fleet.holder h) (if b then some id else none) =
      if events.foldl (runsAfter id) b then some id else none := by
  induction events with
  | nil => simp
  | cons event rest inductionHypothesis =>
      intro b
      have step : fleet.holder h (if b then some id else none) event =
          if runsAfter id b event then some id else none := by
        unfold Fleet.holder runsAfter
        by_cases own : event.id = id
        · rcases announces event (by simp) with starts | dies
          · simp [own, declares, starts]
          · simp [own, declares, dies]
        · have foreign : h ∉ fleet.hostnames event.id := fun declares' =>
            own (disjoint _ (ids event (by simp)) _ known h declares' declares)
          simp [own, foreign]
      rw [List.foldl_cons, List.foldl_cons, step, inductionHypothesis
        (fun later member => ids later (by simp [member]))
        (fun later member => announces later (by simp [member]))]

theorem kind_startMessage (id : GoString) : (startMessage id).kind = some .start := by
  simp [Message.kind, Message.resolvedAction, startMessage]

theorem kind_dieMessage (id : GoString) : (dieMessage id).kind = some .die := by
  have different : "die".toList ≠ "start".toList := by decide
  simp [Message.kind, Message.resolvedAction, dieMessage]

/-- Listed containers are registered as if they had just started. -/
theorem foldl_runsAfter_starts (id : GoString) (containers : List GoString) : ∀ b : Bool,
    (containers.map startMessage).foldl (runsAfter id) b = (b || decide (id ∈ containers)) := by
  induction containers with
  | nil => simp
  | cons other rest inductionHypothesis =>
      intro b
      rw [List.map_cons, List.foldl_cons, inductionHypothesis, runsAfter, kind_startMessage]
      by_cases own : other = id
      · simp [startMessage, own]
      · have distinct : ¬ id = other := fun same => own same.symm
        simp [startMessage, own, distinct]

/-! ### The run -/

def StartupState.pending (s : StartupState) : List GoString :=
  match s.phase with
  | .connecting => []
  | .listed containers => containers
  | .handling pending => pending

def StartupState.subscribed (s : StartupState) : Prop := ∃ pending, s.phase = .handling pending

/-- What has been processed and what is left make up the list and the stream, and the
events tell which containers run since the subscription. -/
structure Follows (fleet : Fleet) (s : StartupState) : Prop where
  running : ∀ id ∈ s.running, id ∈ fleet.containers
  listed : ∀ id ∈ s.listed, id ∈ fleet.containers
  delivered : ∀ event ∈ s.delivered, event.id ∈ fleet.containers
  announces : Announces s.delivered
  quiet : ¬ s.subscribed → s.stream = [] ∧ s.delivered = []
  unlisted : s.phase = .connecting → s.listed = []
  progress : ∃ processed,
    processed ++ (s.pending.map startMessage ++ s.stream) =
      s.listed.map startMessage ++ s.delivered ∧
    handleEvents fleet.environment Recency.empty processed = .ok s.registry
  current : s.subscribed → ∀ id,
    decide (id ∈ s.running) = s.delivered.foldl (runsAfter id) (decide (id ∈ s.subscribedTo))

theorem registerContainer_eq {id : GoString} (known : id ∈ fleet.containers) (c : Registry) :
    registerContainer fleet.environment c id =
      handleEvent fleet.environment c (startMessage id) := by
  rw [Fleet.handleEvent_eq (by exact known)]
  simp only [registerContainer, fleet.connected, Fleet.mustInspectContainer known,
    fleet.declared id known, bind, Except.bind, Fleet.update, kind_startMessage]
  rfl

theorem handleEvents_append_singleton {e : Environment} {c c' c'' : Registry}
    {events : List Message} {event : Message} (handled : handleEvents e c events = .ok c')
    (next : handleEvent e c' event = .ok c'') :
    handleEvents e c (events ++ [event]) = .ok c'' := by
  unfold handleEvents at handled ⊢
  rw [List.foldlM_append, handled]
  simp only [bind, Except.bind, List.foldlM_cons, List.foldlM_nil, next]
  rfl

theorem Follows.known_pending {s : StartupState} (follows : Follows fleet s) {id : GoString}
    {rest : List GoString} (phase : s.phase = .handling (id :: rest)) :
    id ∈ fleet.containers := by
  obtain ⟨processed, whole, -⟩ := follows.progress
  have member : startMessage id ∈ s.listed.map startMessage ++ s.delivered := by
    rw [← whole]
    simp [StartupState.pending, phase]
  rcases List.mem_append.mp member with listed | delivered
  · obtain ⟨id', inList, same⟩ := List.mem_map.mp listed
    obtain rfl : id' = id := congrArg Message.id same
    exact follows.listed id' inList
  · exact follows.delivered _ delivered

/-- An event of the daemon, whose container runs after it exactly when it is a start. -/
theorem Follows.emit {s : StartupState} (follows : Follows fleet s) {event : Message}
    {running : List GoString} (known : event.id ∈ fleet.containers)
    (among : ∀ id ∈ running, id ∈ fleet.containers)
    (announced : event.kind = some .start ∨ event.kind = some .die)
    (changes : ∀ id, decide (id ∈ running) = runsAfter id (decide (id ∈ s.running)) event) :
    Follows fleet (StartupState.emit { s with running := running } event) := by
  by_cases subscribed : s.subscribed
  · obtain ⟨pending, phase⟩ := subscribed
    obtain ⟨processed, whole, handled⟩ := follows.progress
    have emitted : StartupState.emit { s with running := running } event =
        { s with running := running, stream := s.stream ++ [event]
                 delivered := s.delivered ++ [event] } := by
      simp [StartupState.emit, phase]
    rw [emitted]
    refine ⟨among, follows.listed, ?_, ?_, fun early => absurd ⟨pending, phase⟩ early,
      follows.unlisted, ⟨processed, ?_, handled⟩, fun _ id => ?_⟩
    · exact List.forall_mem_append.mpr
        ⟨follows.delivered, List.forall_mem_singleton.mpr known⟩
    · exact List.forall_mem_append.mpr
        ⟨follows.announces, List.forall_mem_singleton.mpr announced⟩
    · simp only [StartupState.pending] at whole ⊢
      rw [← List.append_assoc, ← List.append_assoc, ← List.append_assoc, List.append_assoc
        processed, whole]
    · rw [changes id, List.foldl_append, List.foldl_cons, List.foldl_nil,
        follows.current ⟨pending, phase⟩ id]
  · have silent : StartupState.emit { s with running := running } event =
        { s with running := running } := by
      unfold StartupState.emit
      split
      · rename_i pending phase
        exact absurd ⟨pending, phase⟩ subscribed
      · rfl
    rw [silent]
    exact ⟨among, follows.listed, follows.delivered, follows.announces, follows.quiet,
      follows.unlisted, follows.progress, fun late => absurd late subscribed⟩

theorem Follows.start {s : StartupState} (follows : Follows fleet s) {id : GoString}
    (known : id ∈ fleet.containers) :
    Follows fleet (StartupState.emit { s with running := id :: s.running } (startMessage id)) := by
  refine follows.emit known ?_ (Or.inl (kind_startMessage id)) fun other => ?_
  · exact List.forall_mem_cons.mpr ⟨known, follows.running⟩
  · rw [runsAfter, kind_startMessage]
    by_cases own : id = other
    · simp [startMessage, own]
    · have distinct : ¬ other = id := fun same => own same.symm
      simp [startMessage, own, distinct]

theorem Follows.die {s : StartupState} (follows : Follows fleet s) {id : GoString}
    (runs : id ∈ s.running) :
    Follows fleet (StartupState.emit
      { s with running := s.running.filter fun other => !decide (other = id) }
      (dieMessage id)) := by
  refine follows.emit (follows.running id runs) ?_ (Or.inr (kind_dieMessage id)) fun other => ?_
  · exact fun other member => follows.running other (List.mem_of_mem_filter member)
  · rw [runsAfter, kind_dieMessage]
    by_cases own : id = other
    · simp [dieMessage, own]
    · have distinct : ¬ other = id := fun same => own same.symm
      simp [dieMessage, own, distinct]

theorem Follows.list {s : StartupState} (follows : Follows fleet s)
    (phase : s.phase = .connecting) {containers : List GoString}
    (perm : containers.Perm s.running) :
    Follows fleet { s with phase := .listed containers, listed := containers } := by
  have early : ¬ s.subscribed := fun ⟨_, late⟩ => by simp [phase] at late
  obtain ⟨processed, whole, handled⟩ := follows.progress
  obtain ⟨silent, undelivered⟩ := follows.quiet early
  have none : processed = [] := by
    have empty := whole
    simp only [silent, undelivered, follows.unlisted phase, List.map_nil,
      List.append_nil, List.append_eq_nil_iff] at empty
    exact empty.1
  refine ⟨follows.running, fun id member => follows.running id (perm.mem_iff.mp member),
    follows.delivered, follows.announces, fun _ => ⟨silent, undelivered⟩,
    fun connecting => by simp at connecting, ⟨processed, ?_, handled⟩,
    fun ⟨_, late⟩ => by simp at late⟩
  simp [none, StartupState.pending, silent, undelivered]

theorem Follows.subscribe {s : StartupState} (follows : Follows fleet s)
    {containers : List GoString} (phase : s.phase = .listed containers) :
    Follows fleet { s with phase := .handling containers, subscribedTo := s.running } := by
  have early : ¬ s.subscribed := fun ⟨_, late⟩ => by simp [phase] at late
  obtain ⟨silent, undelivered⟩ := follows.quiet early
  obtain ⟨processed, whole, handled⟩ := follows.progress
  refine ⟨follows.running, follows.listed, follows.delivered, follows.announces,
    fun _ => ⟨silent, undelivered⟩, fun connecting => by simp at connecting,
    ⟨processed, ?_, handled⟩, fun _ id => by simp [undelivered]⟩
  simpa [StartupState.pending, phase] using whole

/-- A container of the list is processed as its start would be. -/
theorem Follows.register {s : StartupState} (follows : Follows fleet s) {id : GoString}
    {rest : List GoString} (phase : s.phase = .handling (id :: rest)) {registry : Registry}
    (registered : registerContainer fleet.environment s.registry id = .ok registry) :
    Follows fleet { s with phase := .handling rest, registry := registry } := by
  obtain ⟨processed, whole, handled⟩ := follows.progress
  rw [registerContainer_eq (follows.known_pending phase)] at registered
  refine ⟨follows.running, follows.listed, follows.delivered, follows.announces,
    fun early => absurd ⟨rest, rfl⟩ early, fun connecting => by simp at connecting,
    ⟨processed ++ [startMessage id], ?_, handleEvents_append_singleton handled registered⟩,
    fun _ => follows.current ⟨_, phase⟩⟩
  simpa [StartupState.pending, phase] using whole

theorem Follows.handle {s : StartupState} (follows : Follows fleet s)
    (phase : s.phase = .handling []) {event : Message} {rest : List Message}
    (stream : s.stream = event :: rest) {registry : Registry}
    (registered : handleEvent fleet.environment s.registry event = .ok registry) :
    Follows fleet { s with stream := rest, registry := registry } := by
  obtain ⟨processed, whole, handled⟩ := follows.progress
  refine ⟨follows.running, follows.listed, follows.delivered, follows.announces,
    fun early => absurd ⟨[], phase⟩ early, follows.unlisted,
    ⟨processed ++ [event], ?_, handleEvents_append_singleton handled registered⟩,
    fun _ => follows.current ⟨_, phase⟩⟩
  simpa [StartupState.pending, phase, stream] using whole

theorem Follows.step {s s' : StartupState} {event : StartupEvent} (follows : Follows fleet s)
    (stepped : startupStep fleet s event = some s') : Follows fleet s' := by
  cases event with
  | start id =>
      simp only [startupStep] at stepped
      split_ifs at stepped with already found
      cases stepped
      exact follows.start (List.contains_iff_mem.mp found)
  | die id =>
      simp only [startupStep] at stepped
      split_ifs at stepped with found
      cases stepped
      exact follows.die (List.contains_iff_mem.mp found)
  | list containers =>
      simp only [startupStep] at stepped
      split at stepped
      · rename_i phase
        split_ifs at stepped with perm
        cases stepped
        exact follows.list phase (List.isPerm_iff.mp perm)
      · exact absurd stepped (by simp)
  | subscribe =>
      simp only [startupStep] at stepped
      split at stepped
      · rename_i containers phase
        cases stepped
        exact follows.subscribe phase
      · exact absurd stepped (by simp)
  | register =>
      simp only [startupStep] at stepped
      split at stepped
      · rename_i id rest phase
        split at stepped
        · rename_i registry registered
          cases stepped
          exact follows.register phase registered
        · exact absurd stepped (by simp)
      · exact absurd stepped (by simp)
  | handle =>
      simp only [startupStep] at stepped
      split at stepped
      · rename_i event rest phase stream
        split at stepped
        · rename_i registry registered
          cases stepped
          exact follows.handle phase stream registered
        · exact absurd stepped (by simp)
      · exact absurd stepped (by simp)

/-- `HandleDockerEvents` begins with any containers running. -/
theorem Follows.initial {running : List GoString}
    (known : ∀ id ∈ running, id ∈ fleet.containers) : Follows fleet { running := running } where
  running := known
  listed := by simp
  delivered := by simp
  announces := by simp [Announces]
  quiet _ := ⟨rfl, rfl⟩
  unlisted _ := rfl
  progress := ⟨[], rfl, rfl⟩
  current late := by simp [StartupState.subscribed] at late

/-- In a settled state the registry contains a container's name exactly when the list
and the events say that it runs. -/
theorem Follows.contains_iff {names : List GoString} (fits : fleet.Fits names)
    (disjoint : fleet.Disjoint) {s : StartupState} (follows : Follows fleet s)
    (settled : s.Settled) {id h : GoString} (known : id ∈ fleet.containers)
    (declares : h ∈ fleet.hostnames id) :
    Recency.contains s.registry h = s.delivered.foldl (runsAfter id) (decide (id ∈ s.listed)) := by
  obtain ⟨processed, whole, handled⟩ := follows.progress
  obtain rfl : processed = s.listed.map startMessage ++ s.delivered := by
    simpa [StartupState.pending, settled.1, settled.2] using whole
  have starts : Announces (s.listed.map startMessage) := by
    intro event member
    obtain ⟨id', -, rfl⟩ := List.mem_map.mp member
    exact Or.inl (kind_startMessage id')
  have listed : ∀ event ∈ s.listed.map startMessage, event.id ∈ fleet.containers := by
    intro event member
    obtain ⟨id', inList, rfl⟩ := List.mem_map.mp member
    exact follows.listed id' inList
  obtain ⟨c, handled', -, addresses⟩ := Fleet.handleEvents_eq fits Fleet.registers_empty
    (List.forall_mem_append.mpr ⟨listed, follows.delivered⟩)
  obtain rfl := Except.ok.inj (handled.symm.trans handled')
  have owned : (s.listed.map startMessage ++ s.delivered).foldl (fleet.holder h) none =
      if s.delivered.foldl (runsAfter id) (decide (id ∈ s.listed)) then some id else none := by
    have before := foldl_holder_of_disjoint disjoint known declares listed starts false
    rw [foldl_runsAfter_starts, Bool.false_or] at before
    rw [List.foldl_append, ← foldl_holder_of_disjoint disjoint known declares follows.delivered
      follows.announces, ← before]
    rfl
  simp only [Recency.contains, addresses h, owned]
  split_ifs with runs <;> simp [runs]

/-! ### Missed containers -/

/-- The registry contains the names of every running container and of no other. -/
def Exact (fleet : Fleet) (s : StartupState) : Prop :=
  ∀ id ∈ fleet.containers, ∀ h ∈ fleet.hostnames id,
    (Recency.contains s.registry h = true ↔ id ∈ s.running)

/-- A container that started or died between the list and the subscription, so that
one but not the other saw it run, has started or died again since. -/
def Complete (fleet : Fleet) (s : StartupState) : Prop :=
  ∀ id ∈ fleet.containers, fleet.hostnames id ≠ [] →
    (id ∈ s.listed ↔ id ∈ s.subscribedTo) ∨ ∃ event ∈ s.delivered, event.id = id

/-- For any order of the steps of the daemon and of the startup: when the listed
containers and the events delivered so far are processed, the registry is exact if and
only if no container was missed between the list and the subscription. -/
theorem exact_iff_complete {names : List GoString} (fits : fleet.Fits names)
    (disjoint : fleet.Disjoint) {running : List GoString}
    (known : ∀ id ∈ running, id ∈ fleet.containers) {events : List StartupEvent}
    {s : StartupState} (ran : Runs.run (startupStep fleet) { running := running } events = some s)
    (settled : s.Settled) : Exact fleet s ↔ Complete fleet s := by
  have follows := Runs.invariant (fun _ _ _ stepped follows => Follows.step follows stepped) ran
    (Follows.initial known)
  have one : ∀ id ∈ fleet.containers, ∀ h ∈ fleet.hostnames id,
      ((Recency.contains s.registry h = true ↔ id ∈ s.running) ↔
        (id ∈ s.listed ↔ id ∈ s.subscribedTo) ∨ ∃ event ∈ s.delivered, event.id = id) := by
    intro id member h declares
    have current := follows.current ⟨[], settled.1⟩ id
    have beliefs : s.delivered.foldl (runsAfter id) (decide (id ∈ s.listed)) =
        s.delivered.foldl (runsAfter id) (decide (id ∈ s.subscribedTo)) ↔ _ :=
      foldl_runsAfter_eq_iff
    rw [← follows.contains_iff fits disjoint settled member declares, ← current] at beliefs
    have exact : Recency.contains s.registry h = decide (id ∈ s.running) ↔
        (Recency.contains s.registry h = true ↔ id ∈ s.running) := by
      rw [Bool.eq_iff_iff, decide_eq_true_iff]
    rwa [exact, decide_eq_decide] at beliefs
  constructor
  · intro exact id member names
    obtain ⟨h, declares⟩ := List.exists_mem_of_ne_nil _ names
    exact (one id member h declares).mp (exact id member h declares)
  · intro complete id member h declares
    exact (one id member h declares).mpr (complete id member (List.ne_nil_of_mem declares))

/-- Container `a` alone. -/
def soloFleet : Fleet :=
  { webFleet with
    containers := ["a".toList]
    inspected := fun id member => webFleet.inspected id (List.mem_of_mem_take (i := 1) member)
    declared := fun _ _ => rfl }

theorem soloFleet_fits : soloFleet.Fits ["web".toList] :=
  ⟨by decide, fun _ _ _ member => member⟩

theorem soloFleet_disjoint : soloFleet.Disjoint := fun _ member _ member' _ _ _ =>
  (List.mem_singleton.mp member).trans (List.mem_singleton.mp member').symm

/-- The container starts before the list and dies after the subscription. -/
def soloEvents : List StartupEvent :=
  [.start "a".toList, .list ["a".toList], .subscribe, .die "a".toList, .register, .handle]

theorem exact_iff_complete_solo :
    ∃ s, Runs.run (startupStep soloFleet) { running := [] } soloEvents = some s ∧ s.Settled ∧
      (Exact soloFleet s ↔ Complete soloFleet s) := by
  obtain ⟨s, ran, settled⟩ : ∃ s,
      Runs.run (startupStep soloFleet) { running := [] } soloEvents = some s ∧ s.Settled :=
    ⟨_, rfl, rfl, rfl⟩
  have known : ∀ id ∈ ([] : List GoString), id ∈ soloFleet.containers := by simp
  exact ⟨s, ran, settled, exact_iff_complete soloFleet_fits soloFleet_disjoint known ran settled⟩

/-- A container that starts between the list and the subscription is missed, and one
that dies there stays in the registry. -/
theorem container_is_missed_before_subscription :
    (∃ s, Runs.run (startupStep soloFleet) { running := [] }
        [.list [], .start "a".toList, .subscribe] = some s ∧
      s.Settled ∧ "a".toList ∈ s.running ∧ "web".toList ∈ soloFleet.hostnames "a".toList ∧
      Recency.contains s.registry "web".toList = false) ∧
    ∃ s, Runs.run (startupStep soloFleet) { running := ["a".toList] }
        [.list ["a".toList], .die "a".toList, .subscribe, .register] = some s ∧
      s.Settled ∧ "a".toList ∉ s.running ∧ "web".toList ∈ soloFleet.hostnames "a".toList ∧
      Recency.contains s.registry "web".toList = true :=
  ⟨⟨_, rfl, ⟨rfl, rfl⟩, by decide, by decide, by decide⟩,
    _, rfl, ⟨rfl, rfl⟩, by decide, by decide, by decide⟩

end DnsProxyServer.Docker
