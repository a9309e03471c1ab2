/-
Module: DnsProxyServer.Docker.BestIp
Purpose: Which address of a container is chosen, for every order in which its networks are
  met and every outcome of the sort; and when it does not depend on that order.
Trusted boundary: translation of FindBestIpForNetworks of
  docker/dockernetwork/dockernetwork.go; sort.Sort gives some permutation that is ordered
Main exports: DriverSort, Daemon.findBestIpForNetworksBy, Reordered, Addressed, OnBridge,
  FollowsPreference, best_ip_follows_preference, Deciding, best_ip_ignores_order_iff,
  two_bridge_networks_answer_by_order
-/
import DnsProxyServer.Docker.Network
import DnsProxyServer.Lib.FirstMatch

namespace DnsProxyServer.Docker

/-! ### Runs -/

/-- What `sort.Sort` may do with `CompleteNetworkByDriver`. -/
structure DriverSort where
  sort : List CompleteNetwork → List CompleteNetwork
  perm : ∀ completeNetworks, (sort completeNetworks).Perm completeNetworks
  sorted : ∀ completeNetworks, (sort completeNetworks).Pairwise CompleteNetwork.notAfter

theorem CompleteNetwork.notAfter_refl (a : CompleteNetwork) : a.notAfter a := Nat.le_refl _

instance : Std.Total CompleteNetwork.notAfter := ⟨fun _ _ => Nat.le_total _ _⟩

instance : IsTrans CompleteNetwork CompleteNetwork.notAfter := ⟨fun _ _ _ => Nat.le_trans⟩

/-- The sort by insertion, which is what `sort.Sort` does with fewer than twelve elements. -/
def insertionByDriver : DriverSort where
  sort := byDriver
  perm := List.perm_insertionSort _
  sorted := List.pairwise_insertionSort _

/-- `FindBestIpForNetworks`, with the sort left open. -/
def Daemon.findBestIpForNetworksBy (daemon : Daemon) (driverSort : DriverSort)
    (container : NetworkedContainer) (preferredNetworks : List GoString) :
    Except Failure GoString :=
  match findOnNetworks container.networkSettings.networks preferredNetworks with
  | some ip => .ok ip
  | none => do
      let completeNetworks ←
        daemon.constructCompleteNetwork (mapValues container.networkSettings.networks)
      match firstIpAddress (driverSort.sort completeNetworks) with
      | some ip => return ip
      | none => return container.networkSettings.ipAddress

theorem findBestIpForNetworksBy_insertion (daemon : Daemon) :
    daemon.findBestIpForNetworksBy insertionByDriver = daemon.findBestIpForNetworks := rfl

/-- The same container, with its networks met in another order. -/
def Reordered (container container' : NetworkedContainer) : Prop :=
  container'.toContainerJSON = container.toContainerJSON ∧
    container'.networkSettings.networks.Perm container.networkSettings.networks ∧
    container'.networkSettings.ipAddress = container.networkSettings.ipAddress

/-- An endpoint of the container that has an address. -/
def Addressed (container : NetworkedContainer) (settings : EndpointSettings) : Prop :=
  some settings ∈ mapValues container.networkSettings.networks ∧ settings.ipAddress ≠ []

/-- The network of the endpoint has the driver `bridge`. -/
def OnBridge (daemon : Daemon) (settings : EndpointSettings) : Prop :=
  ∃ network, daemon.networkList ("id=^".toList ++ settings.networkID) = .ok [network] ∧
    network.driver = "bridge".toList

/-- No preferred network has an address. -/
def NonePreferred (container : NetworkedContainer) (preferredNetworks : List GoString) : Prop :=
  ∀ name ∈ preferredNetworks, getIPFromNetworksMap container.networkSettings.networks name = []

theorem Reordered.getIPFromNetworksMap {container container' : NetworkedContainer}
    (reordered : Reordered container container') (key : GoString) :
    getIPFromNetworksMap container'.networkSettings.networks key =
      getIPFromNetworksMap container.networkSettings.networks key := by
  unfold Docker.getIPFromNetworksMap
  rw [FirstMatch.lookup_perm reordered.2.1 container'.networkSettings.nodup]

theorem Reordered.findOnNetworks {container container' : NetworkedContainer}
    (reordered : Reordered container container') (preferredNetworks : List GoString) :
    findOnNetworks container'.networkSettings.networks preferredNetworks =
      findOnNetworks container.networkSettings.networks preferredNetworks := by
  induction preferredNetworks with
  | nil => rfl
  | cons name rest inductionHypothesis =>
      rw [Docker.findOnNetworks, Docker.findOnNetworks, reordered.getIPFromNetworksMap,
        inductionHypothesis]

theorem Reordered.mem_mapValues {container container' : NetworkedContainer}
    (reordered : Reordered container container') {endpoint : Option EndpointSettings} :
    endpoint ∈ mapValues container'.networkSettings.networks ↔
      endpoint ∈ mapValues container.networkSettings.networks :=
  (reordered.2.1.map Prod.snd).mem_iff

/-! ### The networks as the daemon describes them -/

theorem firstIpAddress_eq_find? (completeNetworks : List CompleteNetwork) :
    firstIpAddress completeNetworks =
      (completeNetworks.find? fun c => c.ipAddress ≠ []).map CompleteNetwork.ipAddress := by
  induction completeNetworks with
  | nil => rfl
  | cons network rest inductionHypothesis =>
      rw [firstIpAddress, inductionHypothesis]
      by_cases empty : network.ipAddress = []
      · simp [empty]
      · simp [empty]

/-- A network that is described is a bridge network when it comes first in the sort. -/
theorem onBridge_iff {daemon : Daemon} {settings : EndpointSettings} {complete : CompleteNetwork}
    (described : daemon.completeNetwork (some settings) = .ok complete) :
    OnBridge daemon settings ↔ getDriverOrder complete.driver = 0 := by
  rw [Daemon.completeNetwork] at described
  split at described
  · cases described
  · rename_i network found
    cases described
    have listed := findNetwork_eq_ok.mp found
    unfold OnBridge getDriverOrder
    constructor
    · rintro ⟨network', listed', bridge⟩
      cases listed.symm.trans listed'
      exact if_pos bridge
    · intro first
      refine ⟨network, listed, ?_⟩
      by_contra other
      rw [if_neg other] at first
      cases first

theorem getDriverOrder_le_one (driver : GoString) : getDriverOrder driver ≤ 1 := by
  unfold getDriverOrder
  split_ifs <;> decide

/-- The complete networks are those of the endpoints. -/
theorem mem_complete_iff {daemon : Daemon} {endpoints : List (Option EndpointSettings)}
    {completeNetworks : List CompleteNetwork}
    (constructed : daemon.constructCompleteNetwork endpoints = .ok completeNetworks)
    {complete : CompleteNetwork} :
    complete ∈ completeNetworks ↔
      ∃ endpoint ∈ endpoints, daemon.completeNetwork endpoint = .ok complete := by
  constructor
  · exact Traverse.exists_of_mem_mapM constructed complete
  · rintro ⟨endpoint, member, described⟩
    have each := Traverse.mapM_eq_ok_iff.mp constructed
    clear constructed
    induction each with
    | nil => cases member
    | cons first _ inductionHypothesis =>
        rcases List.mem_cons.mp member with rfl | later
        · cases first.symm.trans described
          exact List.mem_cons_self
        · exact List.mem_cons_of_mem _ (inductionHypothesis later)

/-- Whatever the sort does, the network that is chosen has an address, and no network that
the order puts before it has one. -/
theorem firstIpAddress_sort_eq_some {driverSort : DriverSort}
    {completeNetworks : List CompleteNetwork} {ip : GoString}
    (chosen : firstIpAddress (driverSort.sort completeNetworks) = some ip) :
    ∃ complete ∈ completeNetworks, complete.ipAddress = ip ∧ ip ≠ [] ∧
      ∀ other ∈ completeNetworks, other.ipAddress ≠ [] → complete.notAfter other := by
  rw [firstIpAddress_eq_find?, Option.map_eq_some_iff] at chosen
  obtain ⟨complete, found, rfl⟩ := chosen
  have same := driverSort.perm completeNetworks
  refine ⟨complete, same.subset (List.mem_of_find?_eq_some found), rfl, ?_, ?_⟩
  · simpa using List.find?_some found
  · intro other member present
    exact FirstMatch.rel_of_find?_sorted CompleteNetwork.notAfter_refl
      (driverSort.sorted completeNetworks) found (same.symm.subset member) (by simpa using present)

theorem firstIpAddress_sort_eq_none {driverSort : DriverSort}
    {completeNetworks : List CompleteNetwork}
    (none : firstIpAddress (driverSort.sort completeNetworks) = none) :
    ∀ complete ∈ completeNetworks, complete.ipAddress = [] := by
  rw [firstIpAddress_eq_find?, Option.map_eq_none_iff, List.find?_eq_none] at none
  intro complete member
  simpa using none complete ((driverSort.perm completeNetworks).symm.subset member)

theorem exists_endpoint_of_mem {daemon : Daemon} {endpoints : List (Option EndpointSettings)}
    {completeNetworks : List CompleteNetwork}
    (constructed : daemon.constructCompleteNetwork endpoints = .ok completeNetworks)
    {complete : CompleteNetwork} (member : complete ∈ completeNetworks) :
    ∃ settings, some settings ∈ endpoints ∧
      daemon.completeNetwork (some settings) = .ok complete ∧
      complete.ipAddress = settings.ipAddress := by
  obtain ⟨endpoint, endpointMember, described⟩ := (mem_complete_iff constructed).mp member
  obtain ⟨settings, rfl, same⟩ := completeNetwork_eq_ok described
  exact ⟨settings, endpointMember, described, same⟩

theorem exists_complete_of_mem {daemon : Daemon} {endpoints : List (Option EndpointSettings)}
    {completeNetworks : List CompleteNetwork}
    (constructed : daemon.constructCompleteNetwork endpoints = .ok completeNetworks)
    {settings : EndpointSettings} (member : some settings ∈ endpoints) :
    ∃ complete ∈ completeNetworks, daemon.completeNetwork (some settings) = .ok complete ∧
      complete.ipAddress = settings.ipAddress := by
  have described := constructCompleteNetwork_ok_iff.mp ⟨_, constructed⟩ _ member
  obtain ⟨complete, read⟩ := described_iff.mp described
  obtain ⟨settings', same, address⟩ := completeNetwork_eq_ok read
  cases same
  exact ⟨complete, (mem_complete_iff constructed).mpr ⟨_, member, read⟩, read, address⟩

/-! ### Among which addresses the choice is -/

/-- The endpoint has an address and is on a bridge network, or no other that has one is. -/
def Deciding (daemon : Daemon) (container : NetworkedContainer) (settings : EndpointSettings) :
    Prop :=
  Addressed container settings ∧
    (OnBridge daemon settings ∨ ∀ other, Addressed container other → ¬ OnBridge daemon other)

variable {daemon : Daemon} {driverSort : DriverSort} {container container' : NetworkedContainer}
  {preferredNetworks : List GoString} {ip : GoString}

/-- Without a preferred network that has an address, a deciding endpoint is chosen, or the
default address when no endpoint has one. -/
theorem deciding_of_findBestIp (reordered : Reordered container container')
    (nonePreferred : NonePreferred container preferredNetworks)
    (returned : daemon.findBestIpForNetworksBy driverSort container' preferredNetworks = .ok ip) :
    (∃ settings, Deciding daemon container settings ∧ ip = settings.ipAddress) ∨
      (∀ settings, ¬ Addressed container settings) ∧
        ip = container.networkSettings.ipAddress := by
  rw [Daemon.findBestIpForNetworksBy, reordered.findOnNetworks,
    findOnNetworks_eq_none.mpr nonePreferred] at returned
  cases constructed : daemon.constructCompleteNetwork
      (mapValues container'.networkSettings.networks) with
  | error failure =>
      rw [constructed] at returned
      cases returned
  | ok completeNetworks =>
      rw [constructed] at returned
      cases chosen : firstIpAddress (driverSort.sort completeNetworks) with
      | none =>
          simp only [bind, Except.bind, chosen, pure, Except.pure] at returned
          cases returned
          refine Or.inr ⟨fun settings addressed => ?_, reordered.2.2⟩
          obtain ⟨complete, member, -, same⟩ :=
            exists_complete_of_mem constructed (reordered.mem_mapValues.mpr addressed.1)
          exact addressed.2 (same.symm.trans (firstIpAddress_sort_eq_none chosen _ member))
      | some found =>
          simp only [bind, Except.bind, chosen, pure, Except.pure] at returned
          cases returned
          obtain ⟨complete, member, rfl, present, before⟩ := firstIpAddress_sort_eq_some chosen
          obtain ⟨settings, among, described, same⟩ := exists_endpoint_of_mem constructed member
          rw [same] at present
          refine Or.inl ⟨settings, ⟨⟨reordered.mem_mapValues.mp among, present⟩, ?_⟩, same⟩
          by_cases bridge : OnBridge daemon settings
          · exact Or.inl bridge
          · refine Or.inr fun other addressed otherBridge => bridge ?_
            obtain ⟨complete', member', described', same'⟩ :=
              exists_complete_of_mem constructed (reordered.mem_mapValues.mpr addressed.1)
            have order := before complete' member' (same' ▸ addressed.2)
            rw [CompleteNetwork.notAfter, (onBridge_iff described').mp otherBridge] at order
            exact (onBridge_iff described).mpr (Nat.le_zero.mp order)

/-- The order of preference, with the address of the container last. -/
structure FollowsPreference (daemon : Daemon) (container : NetworkedContainer)
    (preferredNetworks : List GoString) (ip : GoString) : Prop where
  preferred : ∀ before name later, preferredNetworks = before ++ name :: later →
    NonePreferred container before →
    getIPFromNetworksMap container.networkSettings.networks name ≠ [] →
      ip = getIPFromNetworksMap container.networkSettings.networks name
  bridge : NonePreferred container preferredNetworks →
    (∃ settings, Addressed container settings ∧ OnBridge daemon settings) →
      ∃ settings, Addressed container settings ∧ OnBridge daemon settings ∧
        ip = settings.ipAddress
  other : NonePreferred container preferredNetworks →
    (∀ settings, Addressed container settings → ¬ OnBridge daemon settings) →
    (∃ settings, Addressed container settings) →
      ∃ settings, Addressed container settings ∧ ip = settings.ipAddress
  default : NonePreferred container preferredNetworks →
    (∀ settings, ¬ Addressed container settings) → ip = container.networkSettings.ipAddress
  empty : ip = [] →
    (∀ settings, some settings ∈ mapValues container.networkSettings.networks →
      settings.ipAddress = []) ∧ container.networkSettings.ipAddress = []

theorem findOnNetworks_append {networks : List (GoString × Option EndpointSettings)}
    {before later : List GoString} {name : GoString}
    (none : ∀ earlier ∈ before, getIPFromNetworksMap networks earlier = [])
    (present : getIPFromNetworksMap networks name ≠ []) :
    findOnNetworks networks (before ++ name :: later) =
      some (getIPFromNetworksMap networks name) := by
  induction before with
  | nil => rw [List.nil_append, findOnNetworks, if_pos present]
  | cons first rest inductionHypothesis =>
      have empty := none first List.mem_cons_self
      rw [List.cons_append, findOnNetworks, if_neg (not_not.mpr empty)]
      exact inductionHypothesis fun earlier member => none earlier (List.mem_cons_of_mem _ member)

theorem findOnNetworks_ne_nil {networks : List (GoString × Option EndpointSettings)}
    (found : findOnNetworks networks preferredNetworks = some ip) : ip ≠ [] := by
  induction preferredNetworks with
  | nil => cases found
  | cons name rest inductionHypothesis =>
      rw [findOnNetworks] at found
      split_ifs at found with present
      · cases found
        exact present
      · exact inductionHypothesis found

theorem followsPreference_of_found
    (found : findOnNetworks container.networkSettings.networks preferredNetworks = some ip) :
    FollowsPreference daemon container preferredNetworks ip := by
  have notNone : ¬ NonePreferred container preferredNetworks := fun nonePreferred => by
    cases found.symm.trans (findOnNetworks_eq_none.mpr nonePreferred)
  refine ⟨?_, ?_, ?_, ?_, ?_⟩
  · rintro before name later rfl none present
    exact Option.some.inj (found.symm.trans (findOnNetworks_append none present))
  · exact fun nonePreferred => absurd nonePreferred notNone
  · exact fun nonePreferred => absurd nonePreferred notNone
  · exact fun nonePreferred => absurd nonePreferred notNone
  · exact fun empty => absurd empty (findOnNetworks_ne_nil found)

theorem followsPreference_of_deciding (nonePreferred : NonePreferred container preferredNetworks)
    (chosen : (∃ settings, Deciding daemon container settings ∧ ip = settings.ipAddress) ∨
      (∀ settings, ¬ Addressed container settings) ∧ ip = container.networkSettings.ipAddress) :
    FollowsPreference daemon container preferredNetworks ip := by
  rcases chosen with ⟨settings, ⟨addressed, decides⟩, same⟩ | ⟨none, same⟩
  · refine ⟨?_, ?_, ?_, ?_, ?_⟩
    · rintro before name later rfl - present
      exact absurd (nonePreferred name (by simp)) present
    · rintro - ⟨other, otherAddressed, otherBridge⟩
      refine ⟨settings, addressed, decides.resolve_right fun noneOnBridge => ?_, same⟩
      exact noneOnBridge other otherAddressed otherBridge
    · exact fun _ _ _ => ⟨settings, addressed, same⟩
    · exact fun _ none => absurd addressed (none settings)
    · exact fun empty => absurd (same.symm.trans empty) addressed.2
  · refine ⟨?_, ?_, ?_, ?_, ?_⟩
    · rintro before name later rfl - present
      exact absurd (nonePreferred name (by simp)) present
    · rintro - ⟨other, addressed, -⟩
      exact absurd addressed (none other)
    · rintro - - ⟨other, addressed⟩
      exact absurd addressed (none other)
    · exact fun _ _ => same
    · intro empty
      refine ⟨fun settings member => ?_, same.symm.trans empty⟩
      by_contra present
      exact none settings ⟨member, present⟩

/-- When the networks are needed, an address is returned exactly when they are described. -/
theorem exists_returned_iff (nonePreferred : NonePreferred container preferredNetworks) :
    (∃ ip, daemon.findBestIpForNetworksBy driverSort container preferredNetworks = .ok ip) ↔
      ∀ endpoint ∈ mapValues container.networkSettings.networks, Described daemon endpoint := by
  rw [← constructCompleteNetwork_ok_iff, Daemon.findBestIpForNetworksBy,
    findOnNetworks_eq_none.mpr nonePreferred]
  cases daemon.constructCompleteNetwork (mapValues container.networkSettings.networks) with
  | error failure => simp [bind, Except.bind]
  | ok completeNetworks =>
      cases chosen : firstIpAddress (driverSort.sort completeNetworks) with
      | none => simp [bind, Except.bind, pure, Except.pure, chosen]
      | some ip => simp [bind, Except.bind, pure, Except.pure, chosen]

theorem Reordered.nonePreferred (reordered : Reordered container container')
    (nonePreferred : NonePreferred container preferredNetworks) :
    NonePreferred container' preferredNetworks := fun name member =>
  (reordered.getIPFromNetworksMap name).trans (nonePreferred name member)

/-- In every order of the networks, and whatever the sort does, the address that is returned
follows the order of preference. -/
theorem best_ip_follows_preference
    (described : ∀ endpoint ∈ mapValues container.networkSettings.networks,
      Described daemon endpoint)
    (reordered : Reordered container container') :
    ∃ ip, daemon.findBestIpForNetworksBy driverSort container' preferredNetworks = .ok ip ∧
      FollowsPreference daemon container preferredNetworks ip := by
  cases found : findOnNetworks container.networkSettings.networks preferredNetworks with
  | some ip =>
      refine ⟨ip, ?_, followsPreference_of_found found⟩
      rw [Daemon.findBestIpForNetworksBy, reordered.findOnNetworks, found]
  | none =>
      have nonePreferred := findOnNetworks_eq_none.mp found
      have described' : ∀ endpoint ∈ mapValues container'.networkSettings.networks,
          Described daemon endpoint :=
        fun endpoint member => described endpoint (reordered.mem_mapValues.mp member)
      have nonePreferred' := reordered.nonePreferred nonePreferred
      obtain ⟨ip, returned⟩ := (exists_returned_iff nonePreferred').mpr described'
      have chosen := deciding_of_findBestIp reordered nonePreferred returned
      exact ⟨ip, returned, followsPreference_of_deciding nonePreferred chosen⟩

/-! ### When the order decides -/

/-- A deciding network goes before all that have an address. -/
theorem notAfter_of_deciding {endpoints : List (Option EndpointSettings)}
    {completeNetworks : List CompleteNetwork}
    (constructed : daemon.constructCompleteNetwork endpoints = .ok completeNetworks)
    (among : ∀ endpoint ∈ endpoints, endpoint ∈ mapValues container.networkSettings.networks)
    {settings : EndpointSettings} (deciding : Deciding daemon container settings)
    {complete : CompleteNetwork}
    (described : daemon.completeNetwork (some settings) = .ok complete) :
    ∀ other ∈ completeNetworks, other.ipAddress ≠ [] → complete.notAfter other := by
  intro other member present
  unfold CompleteNetwork.notAfter
  rcases deciding.2 with bridge | noneOnBridge
  · rw [(onBridge_iff described).mp bridge]
    exact Nat.zero_le _
  · obtain ⟨settings', member', described', same⟩ := exists_endpoint_of_mem constructed member
    have notBridge := noneOnBridge settings' ⟨among _ member', same ▸ present⟩
    rw [onBridge_iff described'] at notBridge
    have low := getDriverOrder_le_one complete.driver
    omega

/-- Met first, a deciding endpoint is chosen. -/
theorem exists_order_of_deciding (nonePreferred : NonePreferred container preferredNetworks)
    (described : ∀ endpoint ∈ mapValues container.networkSettings.networks,
      Described daemon endpoint)
    {settings : EndpointSettings} (deciding : Deciding daemon container settings) :
    ∃ container', Reordered container container' ∧
      daemon.findBestIpForNetworksBy insertionByDriver container' preferredNetworks =
        .ok settings.ipAddress := by
  obtain ⟨⟨name, endpoint⟩, member, rfl⟩ := List.mem_map.mp deciding.1.1
  have first := List.perm_cons_erase member
  generalize container.networkSettings.networks.erase (name, some settings) = others at first
  have nodup : (((name, some settings) :: others).map Prod.fst).Nodup :=
    (first.map Prod.fst).nodup_iff.mp container.networkSettings.nodup
  have reordered : Reordered container { container with networkSettings :=
      { networks := (name, some settings) :: others
        ipAddress := container.networkSettings.ipAddress
        nodup := nodup } } := ⟨rfl, first.symm, rfl⟩
  refine ⟨_, reordered, ?_⟩
  have among : ∀ endpoint ∈ mapValues others,
      endpoint ∈ mapValues container.networkSettings.networks :=
    fun endpoint later => reordered.mem_mapValues.mp (List.mem_cons_of_mem _ later)
  obtain ⟨complete, read⟩ := described_iff.mp (described _ deciding.1.1)
  obtain ⟨completeNetworks, constructed⟩ := constructCompleteNetwork_ok_iff.mpr
    fun endpoint later => described endpoint (among endpoint later)
  have whole : daemon.constructCompleteNetwork (mapValues ((name, some settings) :: others)) =
      .ok (complete :: completeNetworks) :=
    Traverse.mapM_eq_ok_iff.mpr (.cons read (Traverse.mapM_eq_ok_iff.mp constructed))
  obtain ⟨settings', same, address⟩ := completeNetwork_eq_ok read
  cases same
  have found : (byDriver (complete :: completeNetworks)).find? (fun c => c.ipAddress ≠ []) =
      some complete := by
    apply FirstMatch.find?_insertionSort_cons
    · simpa [address] using deciding.1.2
    · intro other later present
      have addressed : other.ipAddress ≠ [] := by simpa using present
      exact notAfter_of_deciding constructed among deciding read other later addressed
  have chosen : firstIpAddress (insertionByDriver.sort (complete :: completeNetworks)) =
      some settings.ipAddress := by
    rw [firstIpAddress_eq_find?, ← address]
    exact congrArg _ found
  rw [Daemon.findBestIpForNetworksBy, reordered.findOnNetworks,
    findOnNetworks_eq_none.mpr nonePreferred]
  simp only [whole, bind, Except.bind, chosen, pure, Except.pure]

/-- All runs that return, in whatever orders they meet the networks, return the same address. -/
def IgnoresOrder (daemon : Daemon) (container : NetworkedContainer)
    (preferredNetworks : List GoString) : Prop :=
  ∀ driverSort container₁ container₂ ip₁ ip₂,
    Reordered container container₁ → Reordered container container₂ →
    daemon.findBestIpForNetworksBy driverSort container₁ preferredNetworks = .ok ip₁ →
    daemon.findBestIpForNetworksBy driverSort container₂ preferredNetworks = .ok ip₂ → ip₁ = ip₂

theorem ignoresOrder_of_preferred {name : GoString} (member : name ∈ preferredNetworks)
    (present : getIPFromNetworksMap container.networkSettings.networks name ≠ []) :
    IgnoresOrder daemon container preferredNetworks := by
  intro driverSort container₁ container₂ ip₁ ip₂ reordered₁ reordered₂ returned₁ returned₂
  cases found : findOnNetworks container.networkSettings.networks preferredNetworks with
  | none => exact absurd (findOnNetworks_eq_none.mp found name member) present
  | some ip =>
      rw [Daemon.findBestIpForNetworksBy, reordered₁.findOnNetworks, found] at returned₁
      rw [Daemon.findBestIpForNetworksBy, reordered₂.findOnNetworks, found] at returned₂
      cases returned₁
      cases returned₂
      rfl

theorem ignoresOrder_of_agree (nonePreferred : NonePreferred container preferredNetworks)
    (agree : ∀ settings settings', Deciding daemon container settings →
      Deciding daemon container settings' → settings.ipAddress = settings'.ipAddress) :
    IgnoresOrder daemon container preferredNetworks := by
  intro driverSort container₁ container₂ ip₁ ip₂ reordered₁ reordered₂ returned₁ returned₂
  rcases deciding_of_findBestIp reordered₁ nonePreferred returned₁ with
    ⟨settings₁, deciding₁, rfl⟩ | ⟨none, rfl⟩
  · rcases deciding_of_findBestIp reordered₂ nonePreferred returned₂ with
      ⟨settings₂, deciding₂, rfl⟩ | ⟨none, -⟩
    · exact agree _ _ deciding₁ deciding₂
    · exact absurd deciding₁.1 (none settings₁)
  · rcases deciding_of_findBestIp reordered₂ nonePreferred returned₂ with
      ⟨settings₂, deciding₂, -⟩ | ⟨-, rfl⟩
    · exact absurd deciding₂.1 (none settings₂)
    · rfl

/-- The order of the networks does not matter exactly when a preferred one has an address, when
some network is not described, so that no run returns, or when all deciding endpoints have the
same address. -/
theorem best_ip_ignores_order_iff :
    IgnoresOrder daemon container preferredNetworks ↔
      (∃ name ∈ preferredNetworks,
        getIPFromNetworksMap container.networkSettings.networks name ≠ []) ∨
      (∃ endpoint ∈ mapValues container.networkSettings.networks, ¬ Described daemon endpoint) ∨
      ∀ settings settings', Deciding daemon container settings →
        Deciding daemon container settings' → settings.ipAddress = settings'.ipAddress := by
  by_cases preferred : ∃ name ∈ preferredNetworks,
      getIPFromNetworksMap container.networkSettings.networks name ≠ []
  · obtain ⟨name, member, present⟩ := preferred
    exact iff_of_true (ignoresOrder_of_preferred member present)
      (Or.inl ⟨name, member, present⟩)
  have nonePreferred : NonePreferred container preferredNetworks := by
    simpa [NonePreferred] using preferred
  by_cases described : ∀ endpoint ∈ mapValues container.networkSettings.networks,
      Described daemon endpoint
  · constructor
    · intro ignores
      refine Or.inr (Or.inr fun settings settings' deciding deciding' => ?_)
      obtain ⟨container₁, reordered₁, returned₁⟩ :=
        exists_order_of_deciding nonePreferred described deciding
      obtain ⟨container₂, reordered₂, returned₂⟩ :=
        exists_order_of_deciding nonePreferred described deciding'
      exact ignores _ _ _ _ _ reordered₁ reordered₂ returned₁ returned₂
    · rintro (preferred' | ⟨endpoint, member, unknown⟩ | agree)
      · exact absurd preferred' preferred
      · exact absurd (described endpoint member) unknown
      · exact ignoresOrder_of_agree nonePreferred agree
  · refine iff_of_true ?_ (Or.inr (Or.inl (by simpa using described)))
    intro driverSort container₁ container₂ ip₁ ip₂ reordered₁ _ returned₁ _
    have nonePreferred₁ := reordered₁.nonePreferred nonePreferred
    have described₁ := (exists_returned_iff nonePreferred₁).mp ⟨ip₁, returned₁⟩
    exact absurd (fun endpoint member =>
      described₁ endpoint (reordered₁.mem_mapValues.mpr member)) described

/-! ### Containers on several networks -/

/-- The network 124 has the driver `bridge`, the others `overlay`. -/
def mixedDaemon : Daemon where
  containerList := .ok []
  containerInspect := fun _ => .error "Error: No such container".toList
  networkList := fun filter => .ok [{
    driver := if filter = "id=^124".toList then "bridge".toList else "overlay".toList
    ipamConfig := [] }]

def network1 : GoString × Option EndpointSettings :=
  ("network-1".toList, some { networkID := "123".toList, ipAddress := "192.168.0.1".toList })

def network2 : GoString × Option EndpointSettings :=
  ("network-2".toList, some { networkID := "124".toList, ipAddress := "192.168.0.2".toList })

def network3 : GoString × Option EndpointSettings :=
  ("network-3".toList, some { networkID := "124".toList, ipAddress := "192.168.0.3".toList })

def nginx : ContainerJSON where
  id := "a".toList
  name := "/nginx-container".toList
  config := {}

def onBoth : NetworkedContainer :=
  { nginx with networkSettings := { networks := [network1, network2], ipAddress := [] } }

def onBothReversed : NetworkedContainer :=
  { nginx with networkSettings := { networks := [network2, network1], ipAddress := [] } }

theorem best_ip_follows_preference_onBoth :
    mixedDaemon.findBestIpForNetworksBy insertionByDriver onBothReversed
        [dpsNetwork, "bridge".toList] = .ok "192.168.0.2".toList ∧
      FollowsPreference mixedDaemon onBoth [dpsNetwork, "bridge".toList]
        "192.168.0.2".toList := by
  have described : ∀ endpoint ∈ mapValues onBoth.networkSettings.networks,
      Described mixedDaemon endpoint := by
    intro endpoint member
    rcases List.mem_cons.mp member with rfl | member
    · exact ⟨_, _, rfl, rfl⟩
    · rw [List.mem_singleton.mp member]
      exact ⟨_, _, rfl, rfl⟩
  have reordered : Reordered onBoth onBothReversed := ⟨rfl, List.Perm.swap _ _ _, rfl⟩
  obtain ⟨ip, returned, follows⟩ : ∃ ip,
      mixedDaemon.findBestIpForNetworksBy insertionByDriver onBothReversed
        [dpsNetwork, "bridge".toList] = .ok ip ∧
      FollowsPreference mixedDaemon onBoth [dpsNetwork, "bridge".toList] ip :=
    best_ip_follows_preference described reordered
  have chosen : mixedDaemon.findBestIpForNetworksBy insertionByDriver onBothReversed
      [dpsNetwork, "bridge".toList] = .ok "192.168.0.2".toList := rfl
  cases chosen.symm.trans returned
  exact ⟨chosen, follows⟩

def onTwoBridges : NetworkedContainer :=
  { nginx with networkSettings := { networks := [network2, network3], ipAddress := [] } }

def onTwoBridgesReversed : NetworkedContainer :=
  { nginx with networkSettings := { networks := [network3, network2], ipAddress := [] } }

/-- The order in which the map is met decides between two bridge networks. -/
theorem two_bridge_networks_answer_by_order :
    mixedDaemon.findBestIpForNetworks onTwoBridges [dpsNetwork, "bridge".toList] =
        .ok "192.168.0.2".toList ∧
      mixedDaemon.findBestIpForNetworks onTwoBridgesReversed [dpsNetwork, "bridge".toList] =
        .ok "192.168.0.3".toList ∧
      ¬ IgnoresOrder mixedDaemon onTwoBridges [dpsNetwork, "bridge".toList] := by
  have first : mixedDaemon.findBestIpForNetworks onTwoBridges [dpsNetwork, "bridge".toList] =
      .ok "192.168.0.2".toList := rfl
  have second : mixedDaemon.findBestIpForNetworks onTwoBridgesReversed
      [dpsNetwork, "bridge".toList] = .ok "192.168.0.3".toList := rfl
  refine ⟨first, second, fun ignores => ?_⟩
  have same := ignores insertionByDriver onTwoBridges onTwoBridgesReversed _ _
    ⟨rfl, List.Perm.refl _, rfl⟩ ⟨rfl, List.Perm.swap _ _ _, rfl⟩ first second
  exact absurd same (by decide)

end DnsProxyServer.Docker
