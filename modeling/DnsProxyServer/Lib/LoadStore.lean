/-
Module: DnsProxyServer.Lib.LoadStore
Purpose: Requests on one shared value that load it once and then save it some
  number of times, served one at a time or with their loads and saves interleaved.
Trusted boundary: none
Main exports: LoadStore.Access, LoadStore.after, LoadStore.serial, LoadStore.step,
  LoadStore.provenance, LoadStore.explains_run, LoadStore.Overwritten,
  LoadStore.mem_provenance
-/
import DnsProxyServer.Lib.Runs
import Mathlib.Logic.Function.Basic
import Mathlib.Data.List.Nodup

namespace LoadStore

/-- What a request does once it has loaded: the values it saves, in order, and
what it returns. -/
structure Access (S ε α : Type*) where
  saves : List S
  result : Except ε α
deriving DecidableEq

namespace Access

variable {S ε α β : Type*}

/-- Sequencing; an error ends the request, and its saves stay made. -/
def bind (x : Access S ε α) (f : α → Access S ε β) : Access S ε β :=
  match x.result with
  | .error e => { saves := x.saves, result := .error e }
  | .ok a => { saves := x.saves ++ (f a).saves, result := (f a).result }

/-- A computation that saves nothing. -/
def ofExcept (result : Except ε α) : Access S ε α := { saves := [], result := result }

def save (s : S) (a : α) : Access S ε α := { saves := [s], result := .ok a }

theorem bind_of_ok {x : Access S ε α} {a : α} (ok : x.result = .ok a) (f : α → Access S ε β) :
    x.bind f = { saves := x.saves ++ (f a).saves, result := (f a).result } := by
  simp only [bind, ok]

theorem bind_of_error {x : Access S ε α} {e : ε} (error : x.result = .error e)
    (f : α → Access S ε β) : x.bind f = { saves := x.saves, result := .error e } := by
  simp only [bind, error]

end Access

section Serial

variable {S ε α : Type*}

/-- The shared value after the saves. -/
def after (s : S) (saves : List S) : S := saves.foldl (fun _ saved => saved) s

@[simp] theorem after_nil (s : S) : after s [] = s := rfl

@[simp] theorem after_append_singleton (s saved : S) (saves : List S) :
    after s (saves ++ [saved]) = saved := by
  simp [after]

theorem after_append (s : S) (first later : List S) :
    after s (first ++ later) = after (after s first) later := List.foldl_append

/-- The shared value after the first saves of a request served alone. -/
def servePrefix (request : S → Access S ε α) (k : Nat) (s : S) : S :=
  after s ((request s).saves.take k)

/-- Some requests, each up to some number of its saves, served one at a time. -/
def serial {ι : Type*} (requests : ι → S → Access S ε α) (s : S) (parts : List (ι × Nat)) : S :=
  parts.foldl (fun s part => servePrefix (requests part.1) part.2 s) s

end Serial

section Interleaved

variable {ι S ε α : Type*}

/-- A client that has loaded holds the value it loaded and has made some of its
saves. -/
inductive Client (S : Type*) where
  | waiting
  | loaded (value : S) (saved : Nat)
deriving DecidableEq

structure System (ι S : Type*) where
  store : S
  clients : ι → Client S

inductive Event (ι : Type*) where
  | load (i : ι)
  | save (i : ι)
deriving DecidableEq

def System.initial (s : S) : System ι S where
  store := s
  clients := fun _ => .waiting

variable [DecidableEq ι] (requests : ι → S → Access S ε α)

/-- One load or one save, each atomic. -/
def step (system : System ι S) : Event ι → Option (System ι S)
  | .load i =>
      match system.clients i with
      | .waiting =>
          some { system with clients := Function.update system.clients i (.loaded system.store 0) }
      | .loaded _ _ => none
  | .save i =>
      match system.clients i with
      | .waiting => none
      | .loaded value saved =>
          ((requests i value).saves[saved]?).map fun s =>
            { store := s
              clients := Function.update system.clients i (.loaded value (saved + 1)) }

/-- A client has returned when all its saves are made; this is what it returned. -/
def System.returned (system : System ι S) (i : ι) : Option (Except ε α) :=
  match system.clients i with
  | .waiting => none
  | .loaded value saved =>
      if saved = (requests i value).saves.length then some (requests i value).result else none

/-- Which requests, and how much of each, the shared value and the value each
client loaded are made of. -/
structure Provenance (ι : Type*) where
  store : List (ι × Nat)
  clients : ι → List (ι × Nat)
  saved : ι → Nat

def Provenance.initial : Provenance ι where
  store := []
  clients := fun _ => []
  saved := fun _ => 0

def Provenance.next (p : Provenance ι) : Event ι → Provenance ι
  | .load i => { p with clients := Function.update p.clients i p.store }
  | .save i =>
      { p with
        store := p.clients i ++ [(i, p.saved i + 1)]
        saved := Function.update p.saved i (p.saved i + 1) }

def provenance (events : List (Event ι)) : Provenance ι :=
  events.foldl Provenance.next Provenance.initial

/-- Parts of requests that make up a value: each part is of a client that loaded
the value the parts before it make up, and no client comes twice. -/
inductive Parts (s : S) (system : System ι S) : List (ι × Nat) → Prop where
  | nil : Parts s system []
  | snoc {parts : List (ι × Nat)} {i : ι} {k saved : Nat} (before : Parts s system parts)
      (fresh : i ∉ parts.map Prod.fst) (positive : 0 < k) (made : k ≤ saved)
      (loaded : system.clients i = .loaded (serial requests s parts) saved) :
      Parts s system (parts ++ [(i, k)])

/-- What ties the provenance to a state reached from the value `s`. -/
structure Explains (s : S) (system : System ι S) (p : Provenance ι) : Prop where
  store : serial requests s p.store = system.store
  storeParts : Parts requests s system p.store
  value : ∀ i value saved, system.clients i = .loaded value saved →
    serial requests s (p.clients i) = value
  saved : ∀ i value saved, system.clients i = .loaded value saved → p.saved i = saved
  parts : ∀ i, system.clients i ≠ .waiting → Parts requests s system (p.clients i)
  absent : ∀ i, system.clients i ≠ .waiting → i ∉ (p.clients i).map Prod.fst
  unsaved : ∀ i, system.clients i = .waiting → p.saved i = 0
  bounded : ∀ i value saved, system.clients i = .loaded value saved →
    saved ≤ (requests i value).saves.length

variable {requests}

omit [DecidableEq ι] in
theorem serial_append_singleton (s : S) (parts : List (ι × Nat)) (part : ι × Nat) :
    serial requests s (parts ++ [part]) =
      servePrefix (requests part.1) part.2 (serial requests s parts) := by
  simp [serial]

/-- The value after a save is the value loaded with one more save made. -/
theorem servePrefix_succ {request : S → Access S ε α} {value s : S} {saved : Nat}
    (next : (request value).saves[saved]? = some s) :
    servePrefix request (saved + 1) value = s := by
  rw [servePrefix, List.take_add_one, next]
  exact after_append_singleton _ _ _

/-! ### What one step does -/

theorem step_load {system system' : System ι S} {i : ι}
    (stepped : step requests system (.load i) = some system') :
    system.clients i = .waiting ∧ system' = { system with
      clients := Function.update system.clients i (.loaded system.store 0) } := by
  simp only [step] at stepped
  split at stepped
  · exact ⟨‹_›, (Option.some.inj stepped).symm⟩
  · exact absurd stepped (by simp)

theorem step_save {system system' : System ι S} {i : ι}
    (stepped : step requests system (.save i) = some system') :
    ∃ value saved s, system.clients i = .loaded value saved ∧
      (requests i value).saves[saved]? = some s ∧ system' = {
        store := s
        clients := Function.update system.clients i (.loaded value (saved + 1)) } := by
  simp only [step] at stepped
  split at stepped
  · exact absurd stepped (by simp)
  · rename_i value saved loaded
    obtain ⟨s, next, rfl⟩ := Option.map_eq_some_iff.mp stepped
    exact ⟨value, saved, s, loaded, next, rfl⟩

/-- A client keeps the value it loaded, and the saves it made. -/
theorem loaded_of_step {system system' : System ι S} {event : Event ι}
    (stepped : step requests system event = some system') {i : ι} {value : S} {saved : Nat}
    (loaded : system.clients i = .loaded value saved) :
    ∃ saved', saved ≤ saved' ∧ system'.clients i = .loaded value saved' := by
  cases event with
  | load j =>
      obtain ⟨waiting, rfl⟩ := step_load stepped
      have other : i ≠ j := fun same => by simp [same ▸ loaded] at waiting
      exact ⟨saved, Nat.le_refl _, by simp only [Function.update_of_ne other, loaded]⟩
  | save j =>
      obtain ⟨value', saved', s, loaded', -, rfl⟩ := step_save stepped
      by_cases same : i = j
      · subst same
        obtain ⟨rfl, rfl⟩ := Client.loaded.inj (loaded.symm.trans loaded')
        exact ⟨saved + 1, Nat.le_succ _, by simp only [Function.update_self]⟩
      · exact ⟨saved, Nat.le_refl _, by simp only [Function.update_of_ne same, loaded]⟩

theorem ne_waiting_of_step {system system' : System ι S} {event : Event ι}
    (stepped : step requests system event = some system') {i : ι}
    (loaded : system.clients i ≠ .waiting) : system'.clients i ≠ .waiting := by
  cases client : system.clients i with
  | waiting => exact absurd client loaded
  | loaded value saved =>
      obtain ⟨saved', -, still⟩ := loaded_of_step stepped client
      simp [still]

theorem Parts.of_step {s : S} {system system' : System ι S} {event : Event ι}
    {parts : List (ι × Nat)} (valid : Parts requests s system parts)
    (stepped : step requests system event = some system') : Parts requests s system' parts := by
  induction valid with
  | nil => exact .nil
  | snoc before fresh positive made loaded inductionHypothesis =>
      obtain ⟨saved', more, still⟩ := loaded_of_step stepped loaded
      exact .snoc inductionHypothesis fresh positive (Nat.le_trans made more) still

omit [DecidableEq ι] in
theorem Parts.ne_waiting {s : S} {system : System ι S} {parts : List (ι × Nat)}
    (valid : Parts requests s system parts) {i : ι} (member : i ∈ parts.map Prod.fst) :
    system.clients i ≠ .waiting := by
  induction valid with
  | nil => simp at member
  | snoc before fresh positive made loaded inductionHypothesis =>
      rw [List.map_append, List.mem_append] at member
      rcases member with old | new
      · exact inductionHypothesis old
      · obtain rfl := List.mem_singleton.mp new
        simp [loaded]

/-! ### The shared value is a serial run -/

omit [DecidableEq ι] in
theorem explains_initial (s : S) : Explains requests s (System.initial s) Provenance.initial where
  store := rfl
  storeParts := .nil
  value := fun i value saved loaded => by simp [System.initial] at loaded
  saved := fun i value saved loaded => by simp [System.initial] at loaded
  parts := fun i loaded => absurd rfl loaded
  absent := fun i loaded => absurd rfl loaded
  unsaved := fun _ _ => rfl
  bounded := fun i value saved loaded => by simp [System.initial] at loaded

theorem Explains.load {s : S} {system system' : System ι S} {p : Provenance ι} {i : ι}
    (explains : Explains requests s system p)
    (stepped : step requests system (.load i) = some system') :
    Explains requests s system' (p.next (.load i)) := by
  obtain ⟨waiting, equation⟩ := step_load stepped
  have storeParts := explains.storeParts.of_step stepped
  have absent : i ∉ p.store.map Prod.fst :=
    fun member => explains.storeParts.ne_waiting member waiting
  subst equation
  refine ⟨explains.store, storeParts, ?_, ?_, ?_, ?_, ?_, ?_⟩
  · intro j value saved loaded
    by_cases same : j = i
    · subst same
      simp only [Function.update_self, Client.loaded.injEq] at loaded
      simp [Provenance.next, explains.store, loaded.1]
    · simp only [Function.update_of_ne same] at loaded
      simpa [Provenance.next, same] using explains.value j value saved loaded
  · intro j value saved loaded
    by_cases same : j = i
    · subst same
      simp only [Function.update_self, Client.loaded.injEq] at loaded
      simp [Provenance.next, explains.unsaved j waiting, loaded.2]
    · simp only [Function.update_of_ne same] at loaded
      exact explains.saved j value saved loaded
  · intro j loaded
    by_cases same : j = i
    · subst same
      simpa [Provenance.next] using storeParts
    · simp only [ne_eq, Function.update_of_ne same] at loaded
      simpa [Provenance.next, same] using (explains.parts j loaded).of_step stepped
  · intro j loaded
    by_cases same : j = i
    · subst same
      simpa [Provenance.next] using absent
    · simp only [ne_eq, Function.update_of_ne same] at loaded
      simpa [Provenance.next, same] using explains.absent j loaded
  · intro j waits
    by_cases same : j = i
    · subst same
      simp at waits
    · simp only [Function.update_of_ne same] at waits
      exact explains.unsaved j waits
  · intro j value saved loaded
    by_cases same : j = i
    · subst same
      simp only [Function.update_self, Client.loaded.injEq] at loaded
      omega
    · simp only [Function.update_of_ne same] at loaded
      exact explains.bounded j value saved loaded

theorem Explains.save {s : S} {system system' : System ι S} {p : Provenance ι} {i : ι}
    (explains : Explains requests s system p)
    (stepped : step requests system (.save i) = some system') :
    Explains requests s system' (p.next (.save i)) := by
  obtain ⟨value, saved, stored, loaded, next, equation⟩ := step_save stepped
  have isLoaded : system.clients i ≠ .waiting := by simp [loaded]
  have newParts : Parts requests s system' (p.clients i ++ [(i, p.saved i + 1)]) := by
    refine .snoc ((explains.parts i isLoaded).of_step stepped) (explains.absent i isLoaded)
      (Nat.succ_pos _) (Nat.le_refl _) ?_
    rw [explains.value i value saved loaded, explains.saved i value saved loaded, equation]
    simp
  have keepsLoaded : ∀ j, system'.clients j ≠ .waiting → system.clients j ≠ .waiting := by
    intro j
    subst equation
    by_cases same : j = i <;> simp [same, loaded]
  refine ⟨?_, newParts, ?_, ?_, ?_, ?_, ?_, ?_⟩
  · subst equation
    simp only [Provenance.next, serial_append_singleton, explains.value i value saved loaded,
      explains.saved i value saved loaded, servePrefix_succ next]
  · intro j value' saved' loaded'
    subst equation
    by_cases same : j = i
    · subst same
      simp only [Function.update_self, Client.loaded.injEq] at loaded'
      simpa [Provenance.next, loaded'.1] using explains.value j value saved loaded
    · simp only [Function.update_of_ne same] at loaded'
      exact explains.value j value' saved' loaded'
  · intro j value' saved' loaded'
    subst equation
    by_cases same : j = i
    · subst same
      simp only [Function.update_self, Client.loaded.injEq] at loaded'
      simp [Provenance.next, explains.saved j value saved loaded, loaded'.2]
    · simp only [Function.update_of_ne same] at loaded'
      simpa [Provenance.next, same] using explains.saved j value' saved' loaded'
  · exact fun j loaded' => (explains.parts j (keepsLoaded j loaded')).of_step stepped
  · exact fun j loaded' => explains.absent j (keepsLoaded j loaded')
  · intro j waits
    subst equation
    by_cases same : j = i
    · subst same
      simp at waits
    · simp only [Function.update_of_ne same] at waits
      simpa [Provenance.next, same] using explains.unsaved j waits
  · intro j value' saved' loaded'
    subst equation
    by_cases same : j = i
    · subst same
      simp only [Function.update_self, Client.loaded.injEq] at loaded'
      obtain ⟨rfl, rfl⟩ := loaded'
      exact (List.getElem?_eq_some_iff.mp next).1
    · simp only [Function.update_of_ne same] at loaded'
      exact explains.bounded j value' saved' loaded'

theorem Explains.run {s : S} {system final : System ι S} {p : Provenance ι}
    {events : List (Event ι)} (explains : Explains requests s system p)
    (ran : Runs.run (step requests) system events = some final) :
    Explains requests s final (events.foldl Provenance.next p) := by
  induction events generalizing system p with
  | nil =>
      cases ran
      exact explains
  | cons event events inductionHypothesis =>
      obtain ⟨middle, stepped, later⟩ := Runs.run_cons.mp ran
      cases event with
      | load i => exact inductionHypothesis (explains.load stepped) later
      | save i => exact inductionHypothesis (explains.save stepped) later

/-- Whatever the interleaving, the provenance of the shared value explains it:
the value is what a serial run of those parts of those requests gives. -/
theorem explains_run {s : S} {events : List (Event ι)} {final : System ι S}
    (ran : Runs.run (step requests) (System.initial s) events = some final) :
    Explains requests s final (provenance events) :=
  (explains_initial s).run ran

/-! ### What survives -/

/-- The last save of a client is undone by a client that had loaded before it. -/
def Overwritten (events : List (Event ι)) (i : ι) : Prop :=
  ∃ before after j, events = before ++ .save i :: after ∧ .save i ∉ after ∧
    .save j ∈ after ∧ .load j ∉ after

/-- A client loads once. -/
theorem not_mem_load {system final : System ι S} {events : List (Event ι)} {i : ι}
    (ran : Runs.run (step requests) system events = some final)
    (loaded : system.clients i ≠ .waiting) : .load i ∉ events := by
  induction events generalizing system with
  | nil => simp
  | cons event events inductionHypothesis =>
      obtain ⟨middle, stepped, later⟩ := Runs.run_cons.mp ran
      intro member
      rcases List.mem_cons.mp member with rfl | inLater
      · exact loaded (step_load stepped).1
      · exact inductionHypothesis later (ne_waiting_of_step stepped loaded) inLater

/-- A part stays in the provenance when every later save is of a client that
loaded a value made of it. -/
theorem mem_store_of_run {part : ι × Nat} {system final : System ι S} {p : Provenance ι}
    {events : List (Event ι)} (ran : Runs.run (step requests) system events = some final)
    (member : part ∈ p.store)
    (reloads : ∀ j, .save j ∈ events → .load j ∈ events ∨ part ∈ p.clients j) :
    part ∈ (events.foldl Provenance.next p).store := by
  induction events generalizing system p with
  | nil => exact member
  | cons event events inductionHypothesis =>
      obtain ⟨middle, stepped, later⟩ := Runs.run_cons.mp ran
      cases event with
      | load i =>
          refine inductionHypothesis later member fun j saves => ?_
          by_cases same : j = i
          · exact Or.inr (by simpa [Provenance.next, same] using member)
          · rcases reloads j (by simp [saves]) with loads | made
            · exact Or.inl (by simpa [same] using loads)
            · exact Or.inr (by simpa [Provenance.next, same] using made)
      | save i =>
          obtain ⟨value, saved, s, loaded, -, -⟩ := step_save stepped
          have made : part ∈ p.clients i := by
            rcases reloads i (by simp) with loads | made
            · exact absurd loads (not_mem_load ran (by simp [loaded]))
            · exact made
          refine inductionHypothesis later (List.mem_append_left _ made) fun j saves => ?_
          rcases reloads j (by simp [saves]) with loads | made
          · exact Or.inl (by simpa using loads)
          · exact Or.inr made

theorem saved_foldl_of_not_mem {events : List (Event ι)} {i : ι} (absent : .save i ∉ events)
    (p : Provenance ι) : (events.foldl Provenance.next p).saved i = p.saved i := by
  induction events generalizing p with
  | nil => rfl
  | cons event events inductionHypothesis =>
      obtain ⟨differs, later⟩ := not_or.mp (fun member => absent (List.mem_cons.mpr member))
      rw [List.foldl_cons, inductionHypothesis later]
      cases event with
      | load j => rfl
      | save j =>
          have other : i ≠ j := fun same => differs (by rw [same])
          simp [Provenance.next, other]

omit [DecidableEq ι] in
private theorem last_occurrence {event : Event ι} {events : List (Event ι)}
    (member : event ∈ events) :
    ∃ before after, events = before ++ event :: after ∧ event ∉ after := by
  obtain ⟨after, before, equation, absent⟩ :=
    List.eq_append_cons_of_mem (List.mem_reverse.mpr member)
  refine ⟨before.reverse, after.reverse, ?_, by simpa using absent⟩
  rw [← List.reverse_reverse events, equation]
  simp

/-- A client that has saved and was not overwritten is in the provenance of the
shared value, with all it has saved. -/
theorem mem_provenance {s : S} {events : List (Event ι)} {final : System ι S} {i : ι}
    (ran : Runs.run (step requests) (System.initial s) events = some final)
    (saves : .save i ∈ events) (kept : ¬ Overwritten events i) :
    (i, (provenance events).saved i) ∈ (provenance events).store := by
  obtain ⟨before, after, rfl, last⟩ := last_occurrence saves
  obtain ⟨middle, -, later⟩ := Runs.run_append.mp ran
  obtain ⟨saved, -, rest⟩ := Runs.run_cons.mp later
  simp only [provenance, List.foldl_append, List.foldl_cons]
  rw [saved_foldl_of_not_mem last]
  refine mem_store_of_run rest (by simp [Provenance.next]) fun j later => Or.inl ?_
  exact not_not.mp fun loads => kept ⟨before, after, j, rfl, last, later, loads⟩

omit [DecidableEq ι] in
/-- A client that has returned has made all its saves. -/
theorem saved_of_returned {s : S} {system : System ι S} {p : Provenance ι} {i : ι}
    {result : Except ε α} (explains : Explains requests s system p)
    (returned : system.returned requests i = some result) :
    ∃ value, system.clients i = .loaded value (requests i value).saves.length ∧
      p.saved i = (requests i value).saves.length ∧ result = (requests i value).result := by
  unfold System.returned at returned
  split at returned
  · exact absurd returned (by simp)
  · rename_i value saved loaded
    split_ifs at returned with all
    refine ⟨value, all ▸ loaded, ?_, (Option.some.inj returned).symm⟩
    rw [explains.saved i value saved loaded, all]

omit [DecidableEq ι] in
/-- A client that has made all its saves has returned. -/
theorem returned_of_saved {s : S} {system : System ι S} {p : Provenance ι} {i : ι} {value : S}
    {saved : Nat} (explains : Explains requests s system p)
    (loaded : system.clients i = .loaded value saved)
    (all : (requests i value).saves.length ≤ saved) :
    system.returned requests i = some (requests i value).result := by
  have exactly := Nat.le_antisymm (explains.bounded i value saved loaded) all
  simp only [System.returned, loaded, exactly, if_true]

end Interleaved

end LoadStore
