/-
Module: DnsProxyServer.Docker.Events
Purpose: The registry after a sequence of container events: which names it holds, and
  whose address each has.
Trusted boundary: none
Main exports: Kind, Message.kind, Fleet, Fleet.holder, handleEvents_eq_holder,
  Status, lifeCycleStep, Undisturbed, registry_holds_undisturbed_names
-/
import DnsProxyServer.Docker.Hostnames
import DnsProxyServer.Lib.Runs

namespace DnsProxyServer.Docker

/-! ### What an event does -/

/-- The kinds of events the loop acts on. -/
inductive Kind where
  | start
  | die
  | stop
deriving DecidableEq

def Message.kind (event : Message) : Option Kind :=
  if event.resolvedAction = "start".toList then some .start
  else if event.resolvedAction = "die".toList then some .die
  else if event.resolvedAction = "stop".toList then some .stop
  else none

/-- The switch of the loop, by the kind of the event. -/
theorem Message.switch_eq {α : Type} (event : Message) (start removal ignored : α) :
    (if event.resolvedAction = "start".toList then start
      else if event.resolvedAction = "stop".toList ∨ event.resolvedAction = "die".toList then
        removal
      else ignored) =
      match event.kind with
      | some .start => start
      | some _ => removal
      | none => ignored := by
  unfold Message.kind
  by_cases starts : event.resolvedAction = "start".toList
  · rw [if_pos starts, if_pos starts]
  · by_cases dies : event.resolvedAction = "die".toList
    · rw [if_neg starts, if_neg starts, if_pos dies, if_pos (Or.inr dies)]
    · by_cases stops : event.resolvedAction = "stop".toList
      · rw [if_neg starts, if_neg starts, if_neg dies, if_pos stops, if_pos (Or.inl stops)]
      · have neither : ¬ (event.resolvedAction = "stop".toList ∨
            event.resolvedAction = "die".toList) := fun either => either.elim stops dies
        rw [if_neg starts, if_neg starts, if_neg dies, if_neg stops, if_neg neither]

/-- Containers whose inspections and network connections succeed. -/
structure Fleet where
  environment : Environment
  containers : List GoString
  inspection : GoString → ContainerJSON
  hostnames : GoString → List GoString
  inspected : ∀ id ∈ containers, environment.containerInspect id = .ok (inspection id)
  declared : ∀ id ∈ containers,
    getHostnames environment.settings (inspection id) = .ok (hostnames id)
  connected : ∀ id, environment.mustNetworkConnect id = .ok ()

namespace Fleet

variable (fleet : Fleet)

/-- The names the containers declare, at most as many as the registry can hold. -/
def Fits (names : List GoString) : Prop :=
  names.length ≤ 43690 ∧ ∀ id ∈ fleet.containers, ∀ host ∈ fleet.hostnames id, host ∈ names

/-- The address a container is registered with. -/
def ip (id : GoString) : GoString := fleet.environment.bestIp (fleet.inspection id)

/-- Registering a container or removing it, by the kind of the event. -/
def update (c : Registry) (event : Message) : Registry :=
  match event.kind with
  | some .start => putHostnames c (fleet.hostnames event.id) (fleet.ip event.id)
  | some _ => removeHostnames c (fleet.hostnames event.id)
  | none => c

/-- The container a name belongs to by the events so far. -/
def holder (h : GoString) (current : Option GoString) (event : Message) : Option GoString :=
  if h ∈ fleet.hostnames event.id then
    match event.kind with
    | some .start => some event.id
    | some _ => none
    | none => current
  else current

variable {fleet}

theorem mustInspectContainer {id : GoString} (known : id ∈ fleet.containers) :
    fleet.environment.mustInspectContainer id = .ok (fleet.inspection id) := by
  simp [Environment.mustInspectContainer, fleet.inspected id known]

theorem handleEvent_eq {event : Message} (known : event.id ∈ fleet.containers) (c : Registry) :
    handleEvent fleet.environment c event = .ok (fleet.update c event) := by
  have inspect := mustInspectContainer known
  have declared := fleet.declared event.id known
  have connected := fleet.connected (fleet.inspection event.id).id
  simp only [handleEvent, inspect, declared, bind, Except.bind, update, Message.switch_eq]
  cases event.kind with
  | none => rfl
  | some kind =>
      cases kind with
      | start =>
          simp only [connected]
          rfl
      | die => rfl
      | stop => rfl

/-- The registry maps each name to the address of its container. -/
def Registers (fleet : Fleet) (names : List GoString) (c : Registry)
    (owner : GoString → Option GoString) : Prop :=
  (∀ k, Recency.peek c k ≠ none → k ∈ names) ∧
    ∀ h, Recency.peek c h = (owner h).map fleet.ip

variable {names : List GoString}

theorem Registers.update {c : Registry} {owner : GoString → Option GoString}
    (fits : fleet.Fits names) (registers : Registers fleet names c owner) {event : Message}
    (known : event.id ∈ fleet.containers) :
    Registers fleet names (fleet.update c event) fun h => fleet.holder h (owner h) event := by
  obtain ⟨keys, addresses⟩ := registers
  have named := fits.2 event.id known
  have content : ∀ h, Recency.peek (fleet.update c event) h =
      (fleet.holder h (owner h) event).map fleet.ip := by
    intro h
    unfold Fleet.update holder
    cases kind : event.kind with
    | none => simp [addresses h]
    | some k =>
        cases k with
        | start =>
            rw [peek_putHostnames fits.1 _ _ c keys named h, addresses h]
            split_ifs <;> rfl
        | die =>
            rw [peek_removeHostnames, addresses h]
            split_ifs <;> rfl
        | stop =>
            rw [peek_removeHostnames, addresses h]
            split_ifs <;> rfl
  refine ⟨fun k present => ?_, content⟩
  rw [content k, holder] at present
  split_ifs at present with declares
  · exact named k declares
  · exact keys k (by rwa [addresses k])

theorem registers_empty : Registers fleet names Recency.empty fun _ => none :=
  ⟨fun _ present => absurd rfl present, fun _ => rfl⟩

/-- What the loop makes of a registry is what the events make of the owners. -/
theorem handleEvents_eq (fits : fleet.Fits names) {c : Registry}
    {owner : GoString → Option GoString} (registers : Registers fleet names c owner)
    {events : List Message} (known : ∀ event ∈ events, event.id ∈ fleet.containers) :
    ∃ c', handleEvents fleet.environment c events = .ok c' ∧
      Registers fleet names c' fun h => events.foldl (fleet.holder h) (owner h) := by
  induction events generalizing c owner with
  | nil => exact ⟨c, rfl, registers⟩
  | cons event rest inductionHypothesis =>
      have first := known event (by simp)
      obtain ⟨c', rest', registers'⟩ := inductionHypothesis (registers.update fits first)
        fun later member => known later (by simp [member])
      refine ⟨c', ?_, registers'⟩
      simpa only [handleEvents, List.foldlM_cons, handleEvent_eq first, bind, Except.bind]
        using rest'

end Fleet

/-! ### The life cycle of a container -/

inductive Status where
  | idle
  | running
  | died
deriving DecidableEq

/-- Start, then die, then possibly a later stop, and so on. -/
def Status.next : Status → Kind → Option Status
  | .idle, .start => some .running
  | .died, .start => some .running
  | .running, .die => some .died
  | .died, .stop => some .idle
  | _, _ => none

/-- An event of a container in the status it is in. -/
def lifeCycleStep (status : GoString → Status) (event : Message) :
    Option (GoString → Status) :=
  (event.kind.bind (status event.id).next).map (Function.update status event.id)

theorem lifeCycleStep_eq_some {status status' : GoString → Status} {event : Message} :
    lifeCycleStep status event = some status' ↔
      ∃ kind s, event.kind = some kind ∧ (status event.id).next kind = some s ∧
        status' = Function.update status event.id s := by
  simp only [lifeCycleStep, Option.map_eq_some_iff, Option.bind_eq_some_iff]
  constructor
  · rintro ⟨s, ⟨kind, kindEq, next⟩, rfl⟩
    exact ⟨kind, s, kindEq, next, rfl⟩
  · rintro ⟨kind, s, kindEq, next, rfl⟩
    exact ⟨s, ⟨kind, kindEq, next⟩, rfl⟩

theorem Status.next_start {s s' : Status} (next : s.next .start = some s') : s' = .running := by
  cases s <;> simp [Status.next] at next <;> exact next.symm

/-- Since a start of the container no other event removes the name. -/
def Undisturbed (fleet : Fleet) (events : List Message) (h id : GoString) : Prop :=
  ∃ earlier event later, events = earlier ++ event :: later ∧ event.id = id ∧
    event.kind = some .start ∧
    ∀ other ∈ later, h ∈ fleet.hostnames other.id → other.kind = some .start ∨ other.kind = none

variable {fleet : Fleet}

theorem holder_isSome_of_undisturbed {h : GoString} {later : List Message}
    (undisturbed : ∀ other ∈ later, h ∈ fleet.hostnames other.id →
      other.kind = some .start ∨ other.kind = none) :
    ∀ {current}, current ≠ none → later.foldl (fleet.holder h) current ≠ none := by
  induction later with
  | nil => exact fun present => present
  | cons other rest inductionHypothesis =>
      intro current present
      apply inductionHypothesis (fun later member => undisturbed later (by simp [member]))
      unfold Fleet.holder
      split_ifs with declares
      · rcases undisturbed other (by simp) declares with starts | ignored
        · simp [starts]
        · simpa [ignored] using present
      · exact present

/-- In a run of life cycles the container a name belongs to is running, declares the
name, and has not been disturbed. -/
theorem running_of_holder {events : List Message} {status : GoString → Status} {h id : GoString}
    (ran : Runs.run lifeCycleStep (fun _ => .idle) events = some status)
    (held : events.foldl (fleet.holder h) none = some id) :
    status id = .running ∧ h ∈ fleet.hostnames id ∧ Undisturbed fleet events h id := by
  induction events using List.reverseRecOn generalizing status with
  | nil => simp at held
  | append_singleton events event inductionHypothesis =>
      obtain ⟨before, ran', last⟩ := Runs.run_append.mp ran
      obtain ⟨status', step, done⟩ := Runs.run_cons.mp last
      cases done
      obtain ⟨kind, s, kindEq, next, rfl⟩ := lifeCycleStep_eq_some.mp step
      rw [List.foldl_append, List.foldl_cons, List.foldl_nil, Fleet.holder, kindEq] at held
      by_cases declares : h ∈ fleet.hostnames event.id
      · rw [if_pos declares] at held
        cases kind with
        | start =>
            cases held
            refine ⟨by simp [Status.next_start next], declares, ?_⟩
            exact ⟨events, event, [], rfl, rfl, kindEq, by simp⟩
        | die => exact absurd held (by simp)
        | stop => exact absurd held (by simp)
      · rw [if_neg declares] at held
        obtain ⟨running, declares', earlier, first, later, rfl, own, starts, undisturbed⟩ :=
          inductionHypothesis ran' held
        have other : id ≠ event.id := fun same => declares (same ▸ declares')
        refine ⟨by rwa [Function.update_of_ne other], declares', ?_⟩
        refine ⟨earlier, first, later ++ [event], by simp, own, starts, fun o member => ?_⟩
        rcases List.mem_append.mp member with old | new
        · exact undisturbed o old
        · obtain rfl := List.mem_singleton.mp new
          exact fun declares'' => absurd declares'' declares

/-- After any sequence of events that respects the life cycles, the registry contains
a name if and only if a running container that declares it has not been disturbed:
since its last start no container with that name died or stopped. And an address in
the registry is that of a running container that declares the name. -/
theorem registry_holds_undisturbed_names {names : List GoString} (fits : fleet.Fits names)
    {events : List Message} {status : GoString → Status}
    (ran : Runs.run lifeCycleStep (fun _ => .idle) events = some status)
    (known : ∀ event ∈ events, event.id ∈ fleet.containers) :
    ∃ c, handleEvents fleet.environment Recency.empty events = .ok c ∧ ∀ h,
      (Recency.contains c h = true ↔
        ∃ id, status id = .running ∧ h ∈ fleet.hostnames id ∧ Undisturbed fleet events h id) ∧
      ∀ ip, Recency.peek c h = some ip →
        ∃ id, status id = .running ∧ h ∈ fleet.hostnames id ∧ ip = fleet.ip id := by
  obtain ⟨c, handled, -, addresses⟩ := Fleet.handleEvents_eq fits Fleet.registers_empty known
  refine ⟨c, handled, fun h => ⟨?_, fun ip found => ?_⟩⟩
  · rw [Recency.contains_iff, addresses h]
    constructor
    · rintro ⟨ip, found⟩
      obtain ⟨id, held, -⟩ := Option.map_eq_some_iff.mp found
      exact ⟨id, running_of_holder ran held⟩
    · rintro ⟨id, -, declares, earlier, event, later, rfl, rfl, starts, undisturbed⟩
      simp only [List.foldl_append, List.foldl_cons]
      have held : fleet.holder h (earlier.foldl (fleet.holder h) none) event ≠ none := by
        simp [Fleet.holder, declares, starts]
      obtain ⟨id, last⟩ := Option.ne_none_iff_exists'.mp
        (holder_isSome_of_undisturbed undisturbed held)
      exact ⟨fleet.ip id, by rw [last]; rfl⟩
  · rw [addresses h] at found
    obtain ⟨id, held, rfl⟩ := Option.map_eq_some_iff.mp found
    obtain ⟨running, declares, -⟩ := running_of_holder ran held
    exact ⟨id, running, declares, rfl⟩

/-! ### Two containers of one name -/

def containerWeb (id : GoString) : ContainerJSON where
  id := id
  name := '/' :: id
  config := { hostname := "web".toList }

def isWeb (id : GoString) : Bool := id ∈ ["a".toList, "b".toList]

/-- Containers `a` and `b`, both with the host name `web`. -/
def webFleet : Fleet where
  environment := {
    settings := { shouldRegisterContainerNames := false, dpsDomain := "docker".toList }
    containerInspect := fun id =>
      if isWeb id then .ok (containerWeb id)
      else .error ("Error: No such container: ".toList ++ id)
    mustNetworkConnect := fun _ => .ok ()
    findBestIpForNetworks := fun inspect _ =>
      if inspect.id = "a".toList then "172.17.0.2".toList else "172.17.0.3".toList }
  containers := ["a".toList, "b".toList]
  inspection := containerWeb
  hostnames := fun _ => ["web".toList]
  inspected := fun id member => if_pos (by simpa [isWeb] using member)
  declared := fun _ _ => rfl
  connected := fun _ => rfl

theorem webFleet_fits : webFleet.Fits ["web".toList] := ⟨by decide, fun _ _ _ member => member⟩

def event (action id : String) : Message := { id := id.toList, action := action.toList }

/-- One container replaces the other after it has died. -/
theorem registry_holds_replaced_container :
    ∃ status, Runs.run lifeCycleStep (fun _ => .idle)
        [event "start" "a", event "die" "a", event "stop" "a", event "start" "b"] = some status ∧
      ∃ c, handleEvents webFleet.environment Recency.empty
          [event "start" "a", event "die" "a", event "stop" "a", event "start" "b"] = .ok c ∧
        ∀ h,
          (Recency.contains c h = true ↔
            ∃ id, status id = .running ∧ h ∈ webFleet.hostnames id ∧
              Undisturbed webFleet
                [event "start" "a", event "die" "a", event "stop" "a", event "start" "b"] h id) ∧
          ∀ ip, Recency.peek c h = some ip →
            ∃ id, status id = .running ∧ h ∈ webFleet.hostnames id ∧ ip = webFleet.ip id :=
  ⟨_, rfl, registry_holds_undisturbed_names webFleet_fits rfl (by decide)⟩

/-- The name of a running container is gone once another container of that name dies. -/
theorem name_of_running_container_is_removed :
    ∃ status c, Runs.run lifeCycleStep (fun _ => .idle)
        [event "start" "a", event "start" "b", event "die" "a"] = some status ∧
      handleEvents webFleet.environment Recency.empty
        [event "start" "a", event "start" "b", event "die" "a"] = .ok c ∧
      status "b".toList = .running ∧ "web".toList ∈ webFleet.hostnames "b".toList ∧
      Recency.contains c "web".toList = false :=
  ⟨_, _, rfl, rfl, by decide, by decide, by decide⟩

end DnsProxyServer.Docker
