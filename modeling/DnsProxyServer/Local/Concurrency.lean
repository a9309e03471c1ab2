/-
Module: DnsProxyServer.Local.Concurrency
Purpose: Requests served at the same time, their loads and saves interleaved: what
  the stored configuration is made of, and which updates are lost.
Trusted boundary: each load and each save is one atomic step
Main exports: serveAll, read_or_whole, concurrent_requests_serialize,
  concurrent_update_is_lost
-/
import DnsProxyServer.Local.Refinement

namespace DnsProxyServer.Local

open LoadStore (Access Event System Overwritten after servePrefix serial)

/-- What each client asks, as a function of the file it loads. -/
def serveAll {ι : Type} (requests : ι → Clocks × Request) (i : ι) : ConfFile → FileAccess Unit :=
  (requests i).2.serve (requests i).1

/-! ### A request is its load and at most one save more -/

theorem saveConfiguration_saves (c : Configuration) : (saveConfiguration c).saves.length ≤ 1 := by
  unfold saveConfiguration
  split <;> simp [Access.ofExcept, Access.save]

theorem loadConfiguration_saves (clock : Clock) (file : ConfFile) :
    (loadConfiguration clock file).saves.length ≤ 1 := by
  unfold loadConfiguration
  split
  · exact saveConfiguration_saves _
  · simp [Access.ofExcept]
  · split
    · simp [Access.ofExcept]
    · simp only [setHostnameIds]
      split_ifs
      · exact saveConfiguration_saves _
      · simp [Access.ofExcept]

theorem saveConfiguration_saves_of_error {c : Configuration} {failure : Failure}
    (fails : (saveConfiguration c).result = .error failure) : (saveConfiguration c).saves = [] := by
  unfold saveConfiguration at fails ⊢
  split at fails
  · rfl
  · simp [Access.save] at fails

/-- A failed operation has saved nothing but what its load saved. -/
theorem withConfiguration_saves (change : Configuration → Except Failure Configuration)
    (clock : Clock) (file : ConfFile) :
    ∃ more, more.length ≤ 1 ∧
      (withConfiguration change clock file).saves =
        (loadConfiguration clock file).saves ++ more ∧
      ∀ failure, (withConfiguration change clock file).result = .error failure → more = [] := by
  unfold withConfiguration
  cases result : (loadConfiguration clock file).result with
  | error failure =>
      rw [Access.bind_of_error result]
      exact ⟨[], by simp, by simp, fun _ _ => rfl⟩
  | ok conf =>
      rw [Access.bind_of_ok result]
      cases change conf with
      | error failure => exact ⟨[], by simp, rfl, fun _ _ => rfl⟩
      | ok changed =>
          have once := saveConfiguration_saves changed
          cases saved : (saveConfiguration changed).result with
          | error failure =>
              refine ⟨_, ?_, rfl, fun _ _ => ?_⟩
              · simpa only [Access.bind, saved] using once
              · simpa only [Access.bind, saved] using saveConfiguration_saves_of_error saved
          | ok conf' =>
              refine ⟨_, ?_, rfl, fun failure fails => ?_⟩
              · simpa [Access.bind, saved, Access.ofExcept] using once
              · simp [Access.bind, saved, Access.ofExcept] at fails

theorem Request.read_saves (clocks : Clocks) (file : ConfFile) :
    (Request.read.serve clocks file).saves = (loadConfiguration clocks.load file).saves := by
  simp only [Request.serve, Request.operation, Access.bind, Access.ofExcept]
  split <;> simp

theorem Request.serve_saves (clocks : Clocks) (request : Request) (file : ConfFile) :
    ∃ more, more.length ≤ 1 ∧
      (request.serve clocks file).saves = (Request.read.serve clocks file).saves ++ more ∧
      ∀ failure, (request.serve clocks file).result = .error failure → more = [] := by
  cases calls : request.operation clocks with
  | none =>
      have reads : Request.read.operation clocks = none := rfl
      exact ⟨[], by simp, by simp only [Request.serve, calls, reads, List.append_nil],
        fun _ _ => rfl⟩
  | some operation =>
      rw [Request.read_saves]
      simp only [Request.serve, calls, Operation.perform_eq]
      exact withConfiguration_saves _ _ _

/-- A nonempty part of a request's saves is the whole of a successful request, or
the saves of its `LoadConfiguration`. -/
theorem read_or_whole (clocks : Clocks) (request : Request) (file : ConfFile) {k : Nat}
    (positive : 0 < k) :
    ∃ part : Request, part.next clocks file = servePrefix (request.serve clocks) k file ∧
      (part = .read ∨ part = request ∧ (request.serve clocks file).saves.length ≤ k ∧
        (request.serve clocks file).result = .ok ()) ∧
      ((request.serve clocks file).saves.length ≤ k →
        (request.serve clocks file).result = .ok () → part = request) := by
  obtain ⟨more, one, saves, failed⟩ := Request.serve_saves clocks request file
  have readOnce := loadConfiguration_saves clocks.load file
  rw [← Request.read_saves] at readOnce
  by_cases all : (request.serve clocks file).saves.length ≤ k
  · have whole : servePrefix (request.serve clocks) k file = request.next clocks file := by
      rw [servePrefix, List.take_of_length_le all, Request.next]
    cases result : (request.serve clocks file).result with
    | ok done => exact ⟨request, whole.symm, Or.inr ⟨rfl, all, rfl⟩, fun _ _ => rfl⟩
    | error failure =>
        refine ⟨.read, ?_, Or.inl rfl, fun _ success => absurd success (by simp)⟩
        rw [whole, Request.next, Request.next, saves, failed failure result, List.append_nil]
  · refine ⟨.read, ?_, Or.inl rfl, fun whole => absurd whole all⟩
    have lengths := congrArg List.length saves
    rw [List.length_append] at lengths
    have exactly : (Request.read.serve clocks file).saves.length = k := by omega
    rw [servePrefix, saves, List.take_left' exactly, Request.next]

/-! ### Any interleaving -/

section Interleavings

variable {ι : Type} {requests : ι → Clocks × Request}

/-- Serving some requests one at a time; each entry names the client and what it is
served. -/
def serveSerially (requests : ι → Clocks × Request) (file : ConfFile)
    (served : List (ι × Request)) : ConfFile :=
  served.foldl (fun file entry => entry.2.next (requests entry.1).1 file) file

/-- The parts a value is made of, as requests served one at a time: the ones that
are whole are those of clients that have returned success. -/
theorem served_of_parts {file : ConfFile} {system : System ι ConfFile}
    {p : LoadStore.Provenance ι} {parts : List (ι × Nat)}
    (explains : LoadStore.Explains (serveAll requests) file system p)
    (valid : LoadStore.Parts (serveAll requests) file system parts) :
    ∃ served : List (ι × Request),
      served.map Prod.fst = parts.map Prod.fst ∧ (served.map Prod.fst).Nodup ∧
      (∀ entry ∈ served, entry.2 = .read ∨ entry.2 = (requests entry.1).2 ∧
        system.returned (serveAll requests) entry.1 = some (.ok ())) ∧
      serveSerially requests file served = serial (serveAll requests) file parts ∧
      ∀ i k value saved, (i, k) ∈ parts → system.clients i = .loaded value saved →
        (serveAll requests i value).saves.length ≤ k →
          (serveAll requests i value).result = .ok () → (i, (requests i).2) ∈ served := by
  induction valid with
  | nil => exact ⟨[], rfl, by simp, by simp, rfl, by simp⟩
  | @snoc parts i k saved before fresh positive made loaded inductionHypothesis =>
      obtain ⟨served, names, nodup, each, run, wholes⟩ := inductionHypothesis
      obtain ⟨part, same, kind, isWhole⟩ := read_or_whole (requests i).1 (requests i).2
        (serial (serveAll requests) file parts) positive
      refine ⟨served ++ [(i, part)], by simp [names], ?_, ?_, ?_, ?_⟩
      · rw [List.map_append, List.nodup_append]
        refine ⟨nodup, by simp, fun j member j' single => ?_⟩
        obtain rfl : j' = i := by simpa using single
        rintro rfl
        exact fresh (names ▸ member)
      · intro entry member
        rcases List.mem_append.mp member with old | new
        · exact each entry old
        · obtain rfl := List.mem_singleton.mp new
          refine kind.imp id fun ⟨isRequest, all, success⟩ => ⟨isRequest, ?_⟩
          have returned := LoadStore.returned_of_saved explains loaded (Nat.le_trans all made)
          exact returned.trans (congrArg some success)
      · rw [LoadStore.serial_append_singleton, serveSerially, List.foldl_append]
        change part.next (requests i).1 (serveSerially requests file served) = _
        rw [run, same]
        rfl
      · intro j k' value saved' member isLoaded all success
        rcases List.mem_append.mp member with old | new
        · exact List.mem_append_left _ (wholes j k' value saved' old isLoaded all success)
        · obtain ⟨rfl, rfl⟩ := Prod.mk.inj (List.mem_singleton.mp new)
          obtain ⟨rfl, -⟩ := LoadStore.Client.loaded.inj (loaded.symm.trans isLoaded)
          simp [isWhole all success]

/-- A mutating request that returned success has made a save. -/
theorem saves_of_success {clocks : Clocks} {request : Request} {file : ConfFile}
    (mutates : request ≠ .read) (success : (request.serve clocks file).result = .ok ()) :
    0 < (request.serve clocks file).saves.length := by
  have calls : ∃ operation, request.operation clocks = some operation := by
    cases request <;> first | exact absurd rfl mutates | exact ⟨_, rfl⟩
  obtain ⟨operation, calls⟩ := calls
  simp only [Request.serve, calls, Operation.perform_eq, withConfiguration] at success ⊢
  cases result : (loadConfiguration clocks.load file).result with
  | error failure => simp [Access.bind_of_error result] at success
  | ok conf =>
      rw [Access.bind_of_ok result] at success ⊢
      cases changed : operation.change conf with
      | error failure => simp [changed, Access.ofExcept] at success
      | ok conf' =>
          simp only [changed, saveConfiguration] at success ⊢
          cases written : confVO conf'.withEnvs with
          | error failure => simp [written, Access.bind, Access.ofExcept] at success
          | ok d => simp [Access.bind, Access.save, Access.ofExcept]

variable [DecidableEq ι]

/-- Whatever the interleaving, the stored configuration is that of a serial run of
some of the requests that returned success and of the `LoadConfiguration` of some
others, each client at most once; and a change reported as successful is in it,
unless a request that had loaded before its save saved after it. -/
theorem concurrent_requests_serialize (file : ConfFile) {events : List (Event ι)}
    {final : System ι ConfFile}
    (ran : Runs.run (LoadStore.step (serveAll requests)) (System.initial file) events =
      some final) :
    ∃ served : List (ι × Request), (served.map Prod.fst).Nodup ∧
      (∀ entry ∈ served, entry.2 = .read ∨ entry.2 = (requests entry.1).2 ∧
        final.returned (serveAll requests) entry.1 = some (.ok ())) ∧
      final.store = serveSerially requests file served ∧
      ∀ i, (requests i).2 ≠ .read → final.returned (serveAll requests) i = some (.ok ()) →
        (i, (requests i).2) ∈ served ∨ Overwritten events i := by
  have explains := LoadStore.explains_run ran
  obtain ⟨served, -, nodup, each, run, wholes⟩ := served_of_parts explains explains.storeParts
  refine ⟨served, nodup, each, (run.trans explains.store).symm, fun i mutates success => ?_⟩
  obtain ⟨value, loaded, all, result⟩ := LoadStore.saved_of_returned explains success
  have positive := saves_of_success mutates result.symm
  by_cases overwritten : Overwritten events i
  · exact Or.inr overwritten
  · refine Or.inl (wholes i _ value _ (LoadStore.mem_provenance ran ?_ overwritten) loaded
      (Nat.le_of_eq all.symm) result.symm)
    by_contra never
    have unsaved := LoadStore.saved_foldl_of_not_mem never LoadStore.Provenance.initial
    rw [LoadStore.provenance, unsaved] at all
    exact absurd all (Nat.ne_of_lt positive)

end Interleavings

/-! ### Two requests at the same time -/

def stillClocks : Clocks := ⟨stillClock, stillClock, stillClock⟩

/-- The file of the default configuration. -/
def defaultFile : ConfFile := after .missing (loadConfiguration stillClock .missing).saves

def hostOf (name : GoString) : Vo.HostnameV1 where
  id := []
  hostname := name
  ip := { b0 := 10, b3 := 1 }
  target := []
  ttl := 60
  type := EntryType.A

/-- Two clients that add `a.com` and `b.com`. -/
def addTwo (second : Bool) : Clocks × Request :=
  (stillClocks, .postHostname (hostOf (if second then "b.com".toList else "a.com".toList)))

/-- One after the other, nothing is lost. -/
theorem sequential_requests_serialize :
    ∃ final, Runs.run (LoadStore.step (serveAll addTwo)) (System.initial defaultFile)
        [.load false, .save false, .load true, .save true] = some final ∧
      ∃ served : List (Bool × Request), (served.map Prod.fst).Nodup ∧
        (∀ entry ∈ served, entry.2 = .read ∨ entry.2 = (addTwo entry.1).2 ∧
          final.returned (serveAll addTwo) entry.1 = some (.ok ())) ∧
        final.store = serveSerially addTwo defaultFile served ∧
        ∀ i, (addTwo i).2 ≠ .read → final.returned (serveAll addTwo) i = some (.ok ()) →
          (i, (addTwo i).2) ∈ served ∨
            Overwritten [.load false, .save false, .load true, .save true] i :=
  ⟨_, rfl, concurrent_requests_serialize defaultFile rfl⟩

/-- Both clients load before either saves: both get success, and the stored
configuration is that of neither order of the two requests. -/
theorem concurrent_update_is_lost :
    ∃ final, Runs.run (LoadStore.step (serveAll addTwo)) (System.initial defaultFile)
        [.load false, .load true, .save false, .save true] = some final ∧
      (∀ i, final.returned (serveAll addTwo) i = some (.ok ())) ∧
      final.store ≠ serveSerially addTwo defaultFile
        [(false, (addTwo false).2), (true, (addTwo true).2)] ∧
      final.store ≠ serveSerially addTwo defaultFile
        [(true, (addTwo true).2), (false, (addTwo false).2)] :=
  ⟨_, rfl, by decide, by decide, by decide⟩

end DnsProxyServer.Local
