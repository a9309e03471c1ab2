/-
Module: DnsProxyServer.Cache.PutIfAbsent
Purpose: PutIfAbsent of the LRU cache, whose found branch reads the value in a second call,
  among other calls on the cache: on which runs it is atomic.
Trusted boundary: translation of PutIfAbsent of cache/lru/lru.go over the vendored LRU,
  each call of which is one step
Main exports: LRUCache.containsOrAdd, PutStage, putStep, putCalls, PutStage.Returns, Kept,
  Unreplaced, StoredBy, FoundWith, put_if_absent_is_atomic, removed_key_returns_nil
-/
import DnsProxyServer.Cache.Timed
import DnsProxyServer.Lib.Interleaving
import Mathlib.Data.Fintype.Basic

namespace DnsProxyServer.Cache

open Interleaving (Calls Event State)

variable {κ υ : Type} [DecidableEq κ] {size : Nat}

/-! ### The calls -/

/-- Whether the key was there; the value is added when it was not. -/
def LRUCache.containsOrAdd (c : LRUCache κ υ size) (key : κ) (value : υ) :
    Bool × LRUCache κ υ size :=
  if Recency.contains c key then (true, c) else (false, Recency.add c key value)

/-- Where a call of `PutIfAbsent` stands. One that found the key has what was there then
noted, which the code does not keep. -/
inductive PutStage (κ υ : Type) where
  | idle
  | found (key : κ) (value : υ) (before : Option υ)
  | stored (key : κ) (value : υ)
  | read (key : κ) (value : υ) (before result : Option υ)

inductive PutInput (κ υ : Type) where
  | putIfAbsent (key : κ) (value : υ)
  | get

/-- The calls of other goroutines that are one step. -/
inductive PutOther (κ υ : Type) where
  | put (key : κ) (value : υ)
  | get (key : κ)
  | remove (key : κ)
  | clear

/-- One call of the vendored LRU. -/
def putStep (stage : PutStage κ υ) (input : PutInput κ υ) (c : LRUCache κ υ size) :
    Option (PutStage κ υ × LRUCache κ υ size) :=
  match stage, input with
  | .idle, .putIfAbsent key value =>
      some (if (LRUCache.containsOrAdd c key value).1 then .found key value (Recency.peek c key)
        else .stored key value, (LRUCache.containsOrAdd c key value).2)
  | .found key value before, .get =>
      some (.read key value before (LRUCache.get c key).1, (LRUCache.get c key).2)
  | _, _ => none

def putCalls (κ υ : Type) [DecidableEq κ] (size : Nat) :
    Calls (LRUCache κ υ size) (PutStage κ υ) (PutInput κ υ) (PutOther κ υ) where
  own := putStep
  outside other c :=
    match other with
    | .put key value => LRUCache.put c key value
    | .get key => (LRUCache.get c key).2
    | .remove key => LRUCache.remove c key
    | .clear => LRUCache.clear c

abbrev PutState (κ υ : Type) (size : Nat) (ι : Type) :=
  State (LRUCache κ υ size) (PutStage κ υ) ι

abbrev PutEvent (κ υ ι : Type) := Event ι (PutInput κ υ) (PutOther κ υ)

/-- No call is in flight; the cache holds anything. -/
def PutState.initial (c : LRUCache κ υ size) (ι : Type) : PutState κ υ size ι where
  shared := c
  stage := fun _ => .idle

/-- The call was for this key and value, and returned this result, `none` for nil. -/
def PutStage.Returns (key : κ) (value : υ) (result : Option υ) : PutStage κ υ → Prop
  | .stored key' value' => key' = key ∧ value' = value ∧ result = none
  | .read key' value' _ result' => key' = key ∧ value' = value ∧ result' = result
  | _ => False

/-- The steps are those of `PutIfAbsent`, when nothing comes between them. -/
theorem putIfAbsent_alone (c : LRUCache κ υ size) (key : κ) (value : υ) :
    ∃ inputs stage, (putCalls κ υ size).alone (.idle, c) (.putIfAbsent key value :: inputs) =
        some (stage, (LRUCache.putIfAbsent c key value).2) ∧
      stage.Returns key value (LRUCache.putIfAbsent c key value).1 := by
  by_cases present : Recency.contains c key = true
  · refine ⟨[.get], .read key value (Recency.peek c key) (Recency.peek c key), ?_, rfl, rfl, ?_⟩
    · simp [Calls.alone, Runs.run, putCalls, putStep, LRUCache.containsOrAdd,
        LRUCache.putIfAbsent, LRUCache.get, present]
    · simp [LRUCache.putIfAbsent, LRUCache.get, present]
  · refine ⟨[], .stored key value, ?_, rfl, rfl, ?_⟩
    · simp [Calls.alone, Runs.run, putCalls, putStep, LRUCache.containsOrAdd,
        LRUCache.putIfAbsent, present]
    · simp [LRUCache.putIfAbsent, present]

/-- What the steps can do. -/
inductive PutTransition : PutStage κ υ → PutInput κ υ → LRUCache κ υ size → PutStage κ υ →
    LRUCache κ υ size → Prop
  | found {key : κ} {value before : υ} {c : LRUCache κ υ size} :
      Recency.peek c key = some before →
        PutTransition .idle (.putIfAbsent key value) c (.found key value (some before)) c
  | stored {key : κ} {value : υ} {c : LRUCache κ υ size} : Recency.peek c key = none →
      PutTransition .idle (.putIfAbsent key value) c (.stored key value) (Recency.add c key value)
  | read {key : κ} {value : υ} {before : Option υ} {c : LRUCache κ υ size} :
      PutTransition (.found key value before) .get c
        (.read key value before (Recency.peek c key)) (Recency.touch c key)

theorem transition_of_putStep {stage stage' : PutStage κ υ} {input : PutInput κ υ}
    {c c' : LRUCache κ υ size} (taken : putStep stage input c = some (stage', c')) :
    PutTransition stage input c stage' c' := by
  unfold putStep at taken
  split at taken
  · rename_i key value
    unfold LRUCache.containsOrAdd Recency.contains at taken
    cases under : Recency.peek c key with
    | some before =>
        simp only [under, Option.isSome_some, if_true] at taken
        cases taken
        exact .found under
    | none =>
        simp only [under, Option.isSome_none, Bool.false_eq_true, if_false] at taken
        cases taken
        exact .stored under
  · cases taken
    exact .read
  · cases taken

/-! ### What comes between -/

/-- The key a call has found and not read yet. -/
def PutStage.awaits : PutStage κ υ → Option κ
  | .found key _ _ => some key
  | _ => none

section Conditions

variable {ι : Type} (s : PutState κ υ size ι)

/-- Putting the key pushes no awaited one out. -/
def KeepsAwaited (key : κ) : Prop :=
  ∀ j, ∀ awaited ∈ (s.stage j).awaits, s.shared.evicted key ≠ some awaited

/-- A key that a call awaits is not removed, cleared away, or pushed out by another. -/
def Kept : PutEvent κ υ ι → Prop
  | .own _ (.putIfAbsent key _) => KeepsAwaited s key
  | .outside (.put key _) => KeepsAwaited s key
  | .outside (.remove key) => ∀ j, (s.stage j).awaits ≠ some key
  | .outside .clear => ∀ j, (s.stage j).awaits = none
  | _ => True

/-- No other value is put under a key that a call awaits. -/
def Unreplaced : PutEvent κ υ ι → Prop
  | .outside (.put key value) => ∀ j, (s.stage j).awaits = some key →
      Recency.peek s.shared key = some value
  | _ => True

instance [Fintype ι] (key : κ) : Decidable (KeepsAwaited s key) :=
  inferInstanceAs (Decidable (∀ j, ∀ awaited ∈ (s.stage j).awaits,
    s.shared.evicted key ≠ some awaited))

instance [Fintype ι] (e : PutEvent κ υ ι) : Decidable (Kept s e) := by
  unfold Kept
  split <;> infer_instance

instance [Fintype ι] [DecidableEq υ] (e : PutEvent κ υ ι) : Decidable (Unreplaced s e) := by
  unfold Unreplaced
  split <;> infer_instance

end Conditions

/-- A call of `PutIfAbsent` changes nothing under a key that is there. -/
theorem peek_putStep {stage stage' : PutStage κ υ} {input : PutInput κ υ}
    {c c' : LRUCache κ υ size} (taken : putStep stage input c = some (stage', c')) {awaited : κ}
    (present : Recency.contains c awaited = true)
    (stays : ∀ key value, input = .putIfAbsent key value → c.evicted key ≠ some awaited) :
    Recency.peek c' awaited = Recency.peek c awaited := by
  cases transition_of_putStep taken with
  | found under => rfl
  | stored absent =>
      rename_i key value
      have other : awaited ≠ key := by
        rintro rfl
        simp [Recency.contains, absent] at present
      rw [Recency.peek_add_of_ne other, if_neg (stays key value rfl)]
  | read => exact Recency.peek_touch c _ awaited

/-- What an awaited key has under it after a step of others. -/
theorem peek_outside {ι : Type} {s : PutState κ υ size ι} {other : PutOther κ υ}
    (kept : Kept s (.outside other)) {j : ι} {awaited : κ}
    (awaits : (s.stage j).awaits = some awaited) (positive : 0 < size) :
    Recency.peek ((putCalls κ υ size).outside other s.shared) awaited =
        Recency.peek s.shared awaited ∨
      ∃ value, other = .put awaited value ∧
        Recency.peek ((putCalls κ υ size).outside other s.shared) awaited = some value := by
  cases other with
  | put key value =>
      by_cases same : awaited = key
      · subst same
        exact Or.inr ⟨value, rfl, Recency.peek_add_self positive awaited value⟩
      · refine Or.inl ((Recency.peek_add_of_ne same value).trans ?_)
        rw [if_neg (kept j awaited awaits)]
  | get key => exact Or.inl (Recency.peek_touch s.shared key awaited)
  | remove key =>
      have other : awaited ≠ key := fun same => kept j (same ▸ awaits)
      refine Or.inl ((Recency.peek_remove s.shared key awaited).trans ?_)
      rw [if_neg other]
  | clear => exact absurd (awaits.symm.trans (kept j)) (by simp)

/-! ### What a call relies on -/

/-- The key it has found is there, and what it read was something. -/
def Finds : PutStage κ υ → LRUCache κ υ size → Prop
  | .found key _ _, c => Recency.contains c key = true
  | .read _ _ _ result, _ => result ≠ none
  | _, _ => True

/-- What it found is what it reads. -/
def FindsSame : PutStage κ υ → LRUCache κ υ size → Prop
  | .found key _ before, c => Recency.peek c key = before
  | .read _ _ before result, _ => result = before
  | _, _ => True

theorem finds_own (stage : PutStage κ υ) (input : PutInput κ υ) (c : LRUCache κ υ size)
    (stage' : PutStage κ υ) (c' : LRUCache κ υ size)
    (taken : putStep stage input c = some (stage', c')) (finds : Finds stage c) :
    Finds stage' c' := by
  cases transition_of_putStep taken with
  | found under => exact Recency.contains_iff.mpr ⟨_, under⟩
  | stored absent => trivial
  | read =>
      obtain ⟨v, present⟩ := Recency.contains_iff.mp finds
      simp [Finds, present]

theorem findsSame_own (stage : PutStage κ υ) (input : PutInput κ υ) (c : LRUCache κ υ size)
    (stage' : PutStage κ υ) (c' : LRUCache κ υ size)
    (taken : putStep stage input c = some (stage', c')) (same : FindsSame stage c) :
    FindsSame stage' c' := by
  cases transition_of_putStep taken with
  | found under => exact under
  | stored absent => trivial
  | read => exact same

theorem relies_own (stage : PutStage κ υ) (input : PutInput κ υ) (c : LRUCache κ υ size)
    (stage' : PutStage κ υ) (c' : LRUCache κ υ size)
    (taken : putStep stage input c = some (stage', c'))
    (relied : Finds stage c ∧ FindsSame stage c) :
    Finds stage' c' ∧ FindsSame stage' c' :=
  ⟨finds_own _ _ _ _ _ taken relied.1, findsSame_own _ _ _ _ _ taken relied.2⟩

/-- Nothing but what is under an awaited key matters to a call. -/
theorem finds_of_peek {stage : PutStage κ υ} {c c' : LRUCache κ υ size}
    (same : ∀ key, stage.awaits = some key → Recency.contains c' key = true)
    (finds : Finds stage c) : Finds stage c' := by
  cases stage with
  | found key value before => exact same key rfl
  | read key value before result => exact finds
  | idle => trivial
  | stored key value => trivial

theorem findsSame_of_peek {stage : PutStage κ υ} {c c' : LRUCache κ υ size}
    (same : ∀ key, stage.awaits = some key → Recency.peek c' key = Recency.peek c key)
    (findsSame : FindsSame stage c) : FindsSame stage c' := by
  cases stage with
  | found key value before => exact (same key rfl).trans findsSame
  | read key value before result => exact findsSame
  | idle => trivial
  | stored key value => trivial

theorem Finds.present {stage : PutStage κ υ} {c : LRUCache κ υ size} (finds : Finds stage c)
    {key : κ} (awaits : stage.awaits = some key) : Recency.contains c key = true := by
  cases stage with
  | found key' value before =>
      cases awaits
      exact finds
  | idle => cases awaits
  | stored key' value => cases awaits
  | read key' value before result => cases awaits

variable {ι : Type} {s : PutState κ υ size ι} {e : PutEvent κ υ ι}

/-- A kept key is there after the step, with what was under it or what was put. -/
theorem spares_of_kept [DecidableEq ι] (positive : 0 < size) (kept : Kept s e) :
    (putCalls κ υ size).Spares Finds s e := by
  cases e with
  | own i input =>
      intro stage c' taken j _ finds
      refine finds_of_peek (fun key awaits => ?_) finds
      have present := finds.present awaits
      refine (Recency.contains_congr (peek_putStep taken present ?_)).trans present
      rintro key' value rfl
      exact kept j key awaits
  | outside other =>
      intro j finds
      refine finds_of_peek (fun key awaits => ?_) finds
      rcases peek_outside kept awaits positive with same | ⟨value, -, put⟩
      · exact (Recency.contains_congr same).trans (finds.present awaits)
      · exact Recency.contains_iff.mpr ⟨value, put⟩

theorem spares_of_unreplaced [DecidableEq ι] (positive : 0 < size)
    (undisturbed : Kept s e ∧ Unreplaced s e) :
    (putCalls κ υ size).Spares (fun stage c => Finds stage c ∧ FindsSame stage c) s e := by
  obtain ⟨kept, unreplaced⟩ := undisturbed
  have spared := spares_of_kept positive kept
  cases e with
  | own i input =>
      intro stage c' taken j other relied
      refine ⟨spared stage c' taken j other relied.1, ?_⟩
      refine findsSame_of_peek (fun key awaits => ?_) relied.2
      refine peek_putStep taken (relied.1.present awaits) ?_
      rintro key' value rfl
      exact kept j key awaits
  | outside other =>
      intro j relied
      refine ⟨spared j relied.1, findsSame_of_peek (fun key awaits => ?_) relied.2⟩
      rcases peek_outside kept awaits positive with same | ⟨value, rfl, put⟩
      · exact same
      · exact put.trans (unreplaced j awaits).symm

/-! ### Runs -/

section Runs

variable [DecidableEq ι] (c : LRUCache κ υ size) (i : ι) (events : List (PutEvent κ υ ι)) (key : κ)
  (value : υ)

/-- A step of the call put its value under the key, which was not there. -/
def StoredBy : Prop :=
  ∃ earlier later t t', events = earlier ++ .own i (.putIfAbsent key value) :: later ∧
    Runs.run (putCalls κ υ size).step (PutState.initial c ι) earlier = some t ∧
    (putCalls κ υ size).step t (.own i (.putIfAbsent key value)) = some t' ∧
    Recency.peek t.shared key = none ∧ Recency.peek t'.shared key = some value

/-- When the call looked for the key it was there, with this under it. -/
def FoundWith (w : υ) : Prop :=
  ∃ earlier later t, events = earlier ++ .own i (.putIfAbsent key value) :: later ∧
    Runs.run (putCalls κ υ size).step (PutState.initial c ι) earlier = some t ∧
    t.stage i = .idle ∧ Recency.peek t.shared key = some w

/-- When the call read the key it was there, with this under it. -/
def ReadWith (w : υ) : Prop :=
  ∃ earlier later t before, events = earlier ++ .own i .get :: later ∧
    Runs.run (putCalls κ υ size).step (PutState.initial c ι) earlier = some t ∧
    t.stage i = .found key value before ∧ Recency.peek t.shared key = some w

variable {c i events key value}

/-- A call that has stored its value did so in one of its steps. -/
theorem storedBy_of_run {s : PutState κ υ size ι} (positive : 0 < size)
    (ran : Runs.run (putCalls κ υ size).step (PutState.initial c ι) events = some s)
    (stored : s.stage i = .stored key value) : StoredBy c i events key value := by
  have idle : ¬ (PutState.initial c ι).stage i = .stored key value := nofun
  obtain ⟨earlier, input, later, t, stage, shared, rfl, ranEarlier, taken, -, last⟩ :=
    Interleaving.exists_own_step (Q := (· = .stored key value)) ran idle stored
  subst last
  generalize at' : t.stage i = before at taken
  cases transition_of_putStep taken with
  | stored absent =>
      rw [← at'] at taken
      exact ⟨earlier, later, t, _, rfl, ranEarlier, Calls.step_own.mpr ⟨_, _, taken, rfl⟩, absent,
        Recency.peek_add_self positive key value⟩

/-- No step of a call follows the one that stored its value. -/
theorem stored_of_storedBy {s : PutState κ υ size ι}
    (ran : Runs.run (putCalls κ υ size).step (PutState.initial c ι) events = some s)
    (storedBy : StoredBy c i events key value) : s.stage i = .stored key value := by
  obtain ⟨earlier, later, t, t', rfl, ranEarlier, taken, absent, -⟩ := storedBy
  obtain ⟨u, first, rest⟩ := Runs.run_append.mp ran
  cases ranEarlier.symm.trans first
  obtain ⟨u', next, ranLater⟩ := Runs.run_cons.mp rest
  cases taken.symm.trans next
  obtain ⟨stage, shared, own, rfl⟩ := Calls.step_own.mp taken
  refine Interleaving.stage_of_final (fun input shared => rfl) ranLater ?_
  refine (Function.update_self i stage t.stage).trans ?_
  generalize t.stage i = before at own
  cases transition_of_putStep own with
  | found under => exact absurd (absent.symm.trans under) (by simp)
  | stored _ => rfl

/-- A call that awaits a key found it with what is noted. -/
theorem foundWith_of_run {s : PutState κ υ size ι} {w : υ}
    (ran : Runs.run (putCalls κ υ size).step (PutState.initial c ι) events = some s)
    (found : s.stage i = .found key value (some w)) : FoundWith c i events key value w := by
  have idle : ¬ (PutState.initial c ι).stage i = .found key value (some w) := nofun
  obtain ⟨earlier, input, later, t, stage, shared, rfl, ranEarlier, taken, -, last⟩ :=
    Interleaving.exists_own_step (Q := (· = .found key value (some w))) ran idle found
  generalize at' : t.stage i = before at taken
  cases transition_of_putStep taken with
  | found under =>
      cases last
      exact ⟨earlier, later, t, rfl, ranEarlier, at', under⟩
  | stored absent => cases last
  | read => cases last

/-- A call that has read the key awaited it before, and read what was there. -/
theorem exists_read_of_run {s : PutState κ υ size ι} {before result : Option υ}
    (ran : Runs.run (putCalls κ υ size).step (PutState.initial c ι) events = some s)
    (read : s.stage i = .read key value before result) :
    ∃ earlier later t, events = earlier ++ .own i .get :: later ∧
      Runs.run (putCalls κ υ size).step (PutState.initial c ι) earlier = some t ∧
      t.stage i = .found key value before ∧ Recency.peek t.shared key = result := by
  have idle : ¬ (PutState.initial c ι).stage i = .read key value before result := nofun
  obtain ⟨earlier, input, later, t, stage, shared, rfl, ranEarlier, taken, -, last⟩ :=
    Interleaving.exists_own_step (Q := (· = .read key value before result)) ran idle read
  generalize at' : t.stage i = stage' at taken
  cases transition_of_putStep taken with
  | found under => cases last
  | stored absent => cases last
  | read =>
      injection last with sameKey sameValue sameBefore under
      subst sameKey sameValue sameBefore
      exact ⟨earlier, later, t, rfl, ranEarlier, at', under⟩

omit [DecidableEq ι] in
theorem finds_initial : (PutState.initial c ι).Relied Finds := fun _ => trivial

omit [DecidableEq ι] in
theorem relies_initial :
    (PutState.initial c ι).Relied fun stage c => Finds stage c ∧ FindsSame stage c :=
  fun _ => ⟨trivial, trivial⟩

/-- In every run in which no awaited key goes, a call returns nil exactly when it stored its
value, and otherwise a value that was there when it was read; it is the one that was there
when the key was found if no awaited key is given another. -/
theorem put_if_absent_is_atomic {s : PutState κ υ size ι} {result : Option υ}
    (positive : 0 < size)
    (kept : Runs.AllSteps (putCalls κ υ size).step Kept (PutState.initial c ι) events)
    (ran : Runs.run (putCalls κ υ size).step (PutState.initial c ι) events = some s)
    (returned : (s.stage i).Returns key value result) :
    (result = none ↔ StoredBy c i events key value) ∧
      ∀ w, result = some w → ReadWith c i events key value w ∧
        (Runs.AllSteps (putCalls κ υ size).step Unreplaced (PutState.initial c ι) events →
          FoundWith c i events key value w) := by
  cases at' : s.stage i with
  | idle =>
      rw [at'] at returned
      exact absurd returned id
  | found key' value' before =>
      rw [at'] at returned
      exact absurd returned id
  | stored key' value' =>
      rw [at'] at returned
      obtain ⟨rfl, rfl, rfl⟩ := returned
      exact ⟨iff_of_true rfl (storedBy_of_run positive ran at'), nofun⟩
  | read key' value' before result' =>
      rw [at'] at returned
      obtain ⟨rfl, rfl, rfl⟩ := returned
      have finds := Interleaving.relied_of_run finds_own
        (fun t e kept => spares_of_kept positive kept) kept ran finds_initial i
      rw [at'] at finds
      -- a call that stored ends there, and never reads
      have notStored : ¬ StoredBy c i events key' value' := fun storedBy => by
        cases at'.symm.trans (stored_of_storedBy ran storedBy)
      refine ⟨iff_of_false finds notStored, ?_⟩
      rintro w rfl
      obtain ⟨earlier, later, t, rfl, ranEarlier, found, under⟩ := exists_read_of_run ran at'
      refine ⟨⟨earlier, later, t, before, rfl, ranEarlier, found, under⟩, fun unreplaced => ?_⟩
      have same := (Interleaving.relied_of_run relies_own
        (fun t e undisturbed => spares_of_unreplaced positive undisturbed)
        (kept.and unreplaced) ran relies_initial i).2
      rw [at'] at same
      cases same
      obtain ⟨before', after', u, rfl, ranBefore, idle, there⟩ := foundWith_of_run ranEarlier found
      exact ⟨before', after' ++ .own i .get :: later, u, by simp, ranBefore, idle, there⟩

end Runs

/-! ### Two calls on an empty cache -/

def web : GoString := "web".toList
def api : GoString := "api".toList
def oldAddress : GoString := "172.17.0.2".toList
def newAddress : GoString := "172.17.0.3".toList

def smallCache : LRUCache GoString GoString 2 := Recency.empty

/-- One call finds its key and reads it before it is removed; the other stores. -/
def separateCalls : List (PutEvent GoString GoString Bool) :=
  [.outside (.put web oldAddress), .own false (.putIfAbsent web newAddress),
    .own true (.putIfAbsent api newAddress), .own false .get, .outside (.remove web)]

theorem put_if_absent_is_atomic_separateCalls :
    ∃ s, Runs.run (putCalls GoString GoString 2).step (PutState.initial smallCache Bool)
        separateCalls = some s ∧
      (s.stage false).Returns web newAddress (some oldAddress) ∧
      FoundWith smallCache false separateCalls web newAddress oldAddress ∧
      (s.stage true).Returns api newAddress none ∧
      StoredBy smallCache true separateCalls api newAddress := by
  have kept : Runs.AllSteps (putCalls GoString GoString 2).step Kept
      (PutState.initial smallCache Bool) separateCalls := by
    decide +kernel
  have unreplaced : Runs.AllSteps (putCalls GoString GoString 2).step Unreplaced
      (PutState.initial smallCache Bool) separateCalls := by
    decide +kernel
  have reached : ∃ s, Runs.run (putCalls GoString GoString 2).step
      (PutState.initial smallCache Bool) separateCalls = some s ∧
      (s.stage false).Returns web newAddress (some oldAddress) ∧
      (s.stage true).Returns api newAddress none :=
    ⟨_, rfl, ⟨rfl, rfl, rfl⟩, rfl, rfl, rfl⟩
  obtain ⟨s, ran, found, stored⟩ := reached
  have first := put_if_absent_is_atomic (by decide) kept ran found
  have second := put_if_absent_is_atomic (by decide) kept ran stored
  exact ⟨s, ran, found, (first.2 oldAddress rfl).2 unreplaced, stored, second.1.mp rfl⟩

/-- The key is removed after it was found. -/
def removedKey : List (PutEvent GoString GoString Bool) :=
  [.outside (.put web oldAddress), .own false (.putIfAbsent web newAddress),
    .outside (.remove web), .own false .get]

/-- The call returns nil and has stored nothing. -/
theorem removed_key_returns_nil :
    ∃ s, Runs.run (putCalls GoString GoString 2).step (PutState.initial smallCache Bool)
        removedKey = some s ∧
      (s.stage false).Returns web newAddress none ∧
      ¬ StoredBy smallCache false removedKey web newAddress := by
  have reached : ∃ s, Runs.run (putCalls GoString GoString 2).step
      (PutState.initial smallCache Bool) removedKey = some s ∧
      s.stage false = .read web newAddress (some oldAddress) none := ⟨_, rfl, rfl⟩
  obtain ⟨s, ran, read⟩ := reached
  refine ⟨s, ran, ?_, fun storedBy => ?_⟩
  · rw [read]
    exact ⟨rfl, rfl, rfl⟩
  · cases read.symm.trans (stored_of_storedBy ran storedBy)

end DnsProxyServer.Cache
