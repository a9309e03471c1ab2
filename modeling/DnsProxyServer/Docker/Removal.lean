/-
Module: DnsProxyServer.Docker.Removal
Purpose: Whether the end of a container removes the names its start registered, when the
  settings have changed in between.
Trusted boundary: none
Main exports: ownNames, containerNames, getHostnames_eq, Life, Life.Undone, Covered,
  Life.undone_iff, stop_undoes_start_iff
-/
import DnsProxyServer.Docker.Loop

namespace DnsProxyServer.Docker

/-! ### Names by their origin -/

/-- The names a container has whatever the settings are. -/
def ownNames (inspect : ContainerJSON) : List GoString :=
  (match getContainerHostname inspect with
    | .ok machineHostname => [machineHostname]
    | .error _ => []) ++ getHostnamesFromEnv inspect

/-- The names the settings add. -/
def containerNames (settings : Settings) (inspect : ContainerJSON) :
    Except Failure (List GoString) :=
  if settings.shouldRegisterContainerNames then do
    let containerName ← getHostnameFromContainerName settings inspect
    match getHostnameFromServiceName settings inspect with
    | .ok hostnameFromServiceName => return [containerName, hostnameFromServiceName]
    | .error _ => return [containerName]
  else return []

theorem getHostnames_eq (settings : Settings) (inspect : ContainerJSON) :
    getHostnames settings inspect =
      (containerNames settings inspect).map (ownNames inspect ++ ·) := by
  unfold getHostnames containerNames ownNames
  split_ifs
  · cases getHostnameFromContainerName settings inspect with
    | error failure => rfl
    | ok containerName => cases getHostnameFromServiceName settings inspect <;> rfl
  · cases getContainerHostname inspect <;> simp [pure, Except.pure, Except.map]

theorem getHostnames_eq_ok {settings : Settings} {inspect : ContainerJSON}
    {hostnames : List GoString} (declared : getHostnames settings inspect = .ok hostnames) :
    ∃ added, containerNames settings inspect = .ok added ∧
      hostnames = ownNames inspect ++ added := by
  rw [getHostnames_eq] at declared
  cases names : containerNames settings inspect with
  | error failure =>
      rw [names] at declared
      cases declared
  | ok added =>
      rw [names] at declared
      cases declared
      exact ⟨added, rfl, rfl⟩

theorem containerNames_cases {settings : Settings} {inspect : ContainerJSON}
    {added : List GoString} (names : containerNames settings inspect = .ok added) :
    added = [] ∨ (∃ name, added = [name]) ∨ ∃ name service, added = [name, service] := by
  unfold containerNames at names
  split_ifs at names
  · cases container : getHostnameFromContainerName settings inspect with
    | error failure =>
        rw [container] at names
        cases names
    | ok containerName =>
        rw [container] at names
        cases service : getHostnameFromServiceName settings inspect with
        | error failure =>
            rw [service] at names
            cases names
            exact Or.inr (Or.inl ⟨_, rfl⟩)
        | ok hostnameFromServiceName =>
            rw [service] at names
            cases names
            exact Or.inr (Or.inr ⟨_, _, rfl⟩)
  · cases names
    exact Or.inl rfl

/-! ### From the start of a container to its end -/

/-- The start of a container under one configuration, events of other containers that do
not declare its names, and its end under another configuration. -/
structure Life (inspect : ContainerJSON) (atStart atEnd : Settings) where
  before : Registry
  startEnvironment : Environment
  start : Message
  started : Registry
  between : List (Environment × Message)
  ended : Registry
  endEnvironment : Environment
  stop : Message
  startSettings : startEnvironment.settings = atStart
  endSettings : endEnvironment.settings = atEnd
  same : stop.id = start.id
  starts : start.kind = some .start
  stops : stop.kind = some .die ∨ stop.kind = some .stop
  startInspected : startEnvironment.containerInspect start.id = .ok inspect
  endInspected : endEnvironment.containerInspect stop.id = .ok inspect
  startHandled : handleEvent startEnvironment before start = .ok started
  betweenHandled : between.foldlM (fun c e => handleEvent e.1 c e.2) started = .ok ended
  foreign : ∀ e ∈ between, ∀ other hostnames own,
    e.1.containerInspect e.2.id = .ok other → getHostnames e.1.settings other = .ok hostnames →
    getHostnames atStart inspect = .ok own → List.Disjoint hostnames own

namespace Life

variable {inspect : ContainerJSON} {atStart atEnd : Settings}

/-- The end is handled, and none of the names registered at the start is left. -/
def Undone (life : Life inspect atStart atEnd) : Prop :=
  ∀ hostnames, getHostnames atStart inspect = .ok hostnames →
    ∃ c, handleEvent life.endEnvironment life.ended life.stop = .ok c ∧
      ∀ h ∈ hostnames, Recency.contains c h = false

end Life

/-- The names the settings added at the start are names at the end as well, by the settings
or because the container has them anyway. -/
def Covered (inspect : ContainerJSON) (atStart atEnd : Settings) : Prop :=
  ∀ added, containerNames atStart inspect = .ok added →
    ∃ addedAtEnd, containerNames atEnd inspect = .ok addedAtEnd ∧
      ∀ h ∈ added, h ∈ ownNames inspect ∨ h ∈ addedAtEnd

namespace Life

variable {inspect : ContainerJSON} {atStart atEnd : Settings} (life : Life inspect atStart atEnd)

theorem mustInspectContainer_end :
    life.endEnvironment.mustInspectContainer life.stop.id = .ok inspect := by
  rw [Environment.mustInspectContainer, life.endInspected]

/-- The end of the container removes the names it has then. -/
theorem handleEvent_end {hostnames : List GoString}
    (declared : getHostnames atEnd inspect = .ok hostnames) :
    handleEvent life.endEnvironment life.ended life.stop =
      .ok (removeHostnames life.ended hostnames) := by
  rw [← life.endSettings] at declared
  rw [← handleDecoded_self, handleDecoded_of_declared life.mustInspectContainer_end declared]
  rcases life.stops with dies | stops
  · rw [dies]
  · rw [stops]

theorem handleEvent_end_of_error {failure : Failure}
    (fails : getHostnames atEnd inspect = .error failure) :
    handleEvent life.endEnvironment life.ended life.stop = .error failure := by
  rw [← life.endSettings] at fails
  rw [← handleDecoded_self]
  exact handleDecoded_of_undeclared life.mustInspectContainer_end fails

end Life

theorem contains_removeHostnames {c : Registry} {hosts : List GoString} {h : GoString} :
    Recency.contains (removeHostnames c hosts) h = false ↔
      h ∈ hosts ∨ Recency.contains c h = false := by
  unfold Recency.contains
  rw [peek_removeHostnames]
  split_ifs with member
  · simp [member]
  · simp [member]

theorem Covered.undone {inspect : ContainerJSON} {atStart atEnd : Settings}
    (covered : Covered inspect atStart atEnd) (life : Life inspect atStart atEnd) :
    life.Undone := by
  intro hostnames declared
  obtain ⟨added, names, rfl⟩ := getHostnames_eq_ok declared
  obtain ⟨addedAtEnd, namesAtEnd, among⟩ := covered added names
  have declaredAtEnd : getHostnames atEnd inspect = .ok (ownNames inspect ++ addedAtEnd) := by
    rw [getHostnames_eq, namesAtEnd]
    rfl
  refine ⟨_, life.handleEvent_end declaredAtEnd, fun h member => ?_⟩
  rw [contains_removeHostnames, List.mem_append]
  rcases List.mem_append.mp member with own | addedMember
  · exact Or.inl (Or.inl own)
  · exact Or.inl (among h addedMember)

/-- As long as the names the settings added are registered when the container ends. -/
theorem Life.undone_iff {inspect : ContainerJSON} {atStart atEnd : Settings}
    (life : Life inspect atStart atEnd)
    (registered : ∀ added, containerNames atStart inspect = .ok added →
      ∀ h ∈ added, Recency.contains life.ended h = true) :
    life.Undone ↔ Covered inspect atStart atEnd := by
  refine ⟨fun undone added names => ?_, fun covered => covered.undone life⟩
  have declared : getHostnames atStart inspect = .ok (ownNames inspect ++ added) := by
    rw [getHostnames_eq, names]
    rfl
  obtain ⟨c, handled, absent⟩ := undone _ declared
  cases declaredAtEnd : getHostnames atEnd inspect with
  | error failure =>
      rw [life.handleEvent_end_of_error declaredAtEnd] at handled
      cases handled
  | ok hostnames =>
      rw [life.handleEvent_end declaredAtEnd] at handled
      cases handled
      obtain ⟨addedAtEnd, namesAtEnd, rfl⟩ := getHostnames_eq_ok declaredAtEnd
      refine ⟨addedAtEnd, namesAtEnd, fun h member => ?_⟩
      have gone := absent h (List.mem_append_right _ member)
      rw [contains_removeHostnames, registered added names h member] at gone
      simpa using gone

/-! ### Every container and all settings -/

/-- A daemon that knows one container. -/
def soloEnvironment (settings : Settings) (inspect : ContainerJSON) : Environment where
  settings := settings
  containerInspect := fun _ => .ok inspect
  mustNetworkConnect := fun _ => .ok ()
  findBestIpForNetworks := fun _ _ => "172.17.0.2".toList

theorem handleEvent_solo_start {settings : Settings} {inspect : ContainerJSON} {own : List GoString}
    (declared : getHostnames settings inspect = .ok own) (c : Registry) :
    handleEvent (soloEnvironment settings inspect) c (event "start" "a") =
      .ok (putHostnames c own "172.17.0.2".toList) := by
  rw [← handleDecoded_self]
  exact handleDecoded_of_declared (e := soloEnvironment settings inspect) rfl declared

/-- Its start, and its end right after. -/
def soloLife (inspect : ContainerJSON) (atStart atEnd : Settings) {own : List GoString}
    (declared : getHostnames atStart inspect = .ok own) : Life inspect atStart atEnd where
  before := Recency.empty
  startEnvironment := soloEnvironment atStart inspect
  start := event "start" "a"
  started := putHostnames Recency.empty own "172.17.0.2".toList
  between := []
  ended := putHostnames Recency.empty own "172.17.0.2".toList
  endEnvironment := soloEnvironment atEnd inspect
  stop := event "die" "a"
  startSettings := rfl
  endSettings := rfl
  same := rfl
  starts := by decide
  stops := by decide
  startInspected := rfl
  endInspected := rfl
  startHandled := handleEvent_solo_start declared _
  betweenHandled := rfl
  foreign := by simp

/-- The names put last are registered, also in a full registry. -/
theorem contains_putHostnames_added {own added : List GoString} {settings : Settings}
    {inspect : ContainerJSON} (names : containerNames settings inspect = .ok added) (c : Registry)
    (ip : GoString) :
    ∀ h ∈ added, Recency.contains (putHostnames c (own ++ added) ip) h = true := by
  have positive : 0 < 43690 := by decide
  have two : 1 < 43690 := by decide
  intro h member
  rw [putHostnames, List.foldl_append]
  generalize own.foldl (fun c host => Cache.LRUCache.put c host ip) c = c'
  apply Option.isSome_iff_ne_none.mpr
  rcases containerNames_cases names with rfl | ⟨name, rfl⟩ | ⟨name, service, rfl⟩
  · cases member
  · cases List.mem_singleton.mp member
    show Recency.peek (Recency.add c' h ip) h ≠ none
    rw [Recency.peek_add_self positive]
    simp
  · show Recency.peek (Recency.add (Recency.add c' name ip) service ip) h ≠ none
    rcases List.mem_cons.mp member with rfl | last
    · exact Recency.peek_add_add two _ _ _ _
    · cases List.mem_singleton.mp last
      rw [Recency.peek_add_self positive]
      simp

/-- For a container and the settings at its start and at its end: every name the start
registered is gone after the end, whatever happens in between, if and only if the names the
settings added at the start are names of the container at the end as well. -/
theorem stop_undoes_start_iff (inspect : ContainerJSON) (atStart atEnd : Settings) :
    (∀ life : Life inspect atStart atEnd, life.Undone) ↔ Covered inspect atStart atEnd := by
  constructor
  · intro undone added names
    have declared : getHostnames atStart inspect = .ok (ownNames inspect ++ added) := by
      rw [getHostnames_eq, names]
      rfl
    have covered := ((soloLife inspect atStart atEnd declared).undone_iff ?_).mp (undone _)
    · exact covered added names
    · intro other names'
      rw [names] at names'
      cases names'
      exact contains_putHostnames_added names _ _
  · exact fun covered life => covered.undone life

/-- Container names are registered when `/a` starts, and no longer when it dies: its name
stays. -/
theorem container_name_outlives_container :
    let inspect : ContainerJSON :=
      { id := "a".toList, name := "/a".toList, config := { hostname := "web".toList } }
    let registering : Settings := ⟨true, "docker".toList⟩
    let notRegistering : Settings := ⟨false, "docker".toList⟩
    (∃ started ended,
      handleEvent (soloEnvironment registering inspect) Recency.empty (event "start" "a") =
        .ok started ∧
      handleEvent (soloEnvironment notRegistering inspect) started (event "die" "a") = .ok ended ∧
      Recency.contains ended "web".toList = false ∧
      Recency.contains ended "a.docker".toList = true) ∧
      ¬ ∀ life : Life inspect registering notRegistering, life.Undone := by
  intro inspect registering notRegistering
  refine ⟨⟨_, _, rfl, rfl, by decide, by decide⟩, fun undone => ?_⟩
  have declared : getHostnames registering inspect = .ok ["web".toList, "a.docker".toList] := by
    decide
  obtain ⟨c, handled, absent⟩ := undone (soloLife inspect registering notRegistering declared) _
    declared
  have gone := absent "a.docker".toList (by simp)
  cases handled
  have present : Recency.contains (removeHostnames
      (putHostnames Recency.empty ["web".toList, "a.docker".toList] "172.17.0.2".toList)
      ["web".toList]) "a.docker".toList = true := by decide
  exact Bool.noConfusion (gone.symm.trans present)

end DnsProxyServer.Docker
