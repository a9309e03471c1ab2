/-
Module: DnsProxyServer.Cache.Expiry
Purpose: Get, GetTimeValue and PutTTL of the cache whose entries expire, interleaved: on
  which runs an entry that has not expired goes only when it is removed, cleared away or
  pushed out.
Trusted boundary: translation of cache/timed/timecache.go; each call of the delegate cache
  is one step, and so is each look at the clock
Main exports: ExpiryStage, expiryStep, expiryCalls, NotOvertaken, RemovedOnPurpose,
  KeepsFresh, fresh_entries_stay_iff, stale_reader_drops_fresh_entry
-/
import DnsProxyServer.Cache.Contract
import DnsProxyServer.Cache.PutIfAbsent

namespace DnsProxyServer.Cache

open Interleaving (Calls Event State)

variable {κ υ : Type} [DecidableEq κ] {size : Nat}

/-! ### The calls -/

/-- Where a call of `Get`, `GetTimeValue` or `PutTTL` stands. -/
inductive ExpiryStage (κ υ : Type) where
  | idle
  | got (key : κ) (entry : Option (Stored υ))
  | expired (key : κ)
  | returned (result : Option (TimedValue υ))
  | wrapped (key : κ) (entry : TimedValue υ)
  | put

/-- `Get` and `GetTimeValue` take the same steps. -/
inductive ExpiryInput (κ υ : Type) where
  | get (key : κ)
  | putTTL (key : κ) (value : υ) (ttl : Int)
  | next

/-- What is one step of others: a call that only passes on to the delegate, or time going by. -/
inductive ExpiryOther (κ υ : Type) where
  | putIfAbsent (key : κ) (value : υ)
  | remove (key : κ)
  | clear
  | advance (n : Nat)

/-- One call of the delegate cache, or one look at the clock. -/
def expiryStep (stage : ExpiryStage κ υ) (input : ExpiryInput κ υ) (s : TimedState κ υ size) :
    Option (ExpiryStage κ υ × TimedState κ υ size) :=
  match stage, input with
  | .idle, .get key =>
      some (.got key (LRUCache.get s.cache key).1, { s with cache := (LRUCache.get s.cache key).2 })
  | .got key (some (.timed v)), .next =>
      some (if v.isValid s.now then .returned (some v) else .expired key, s)
  | .got _ _, .next => some (.returned none, s)
  | .expired key, .next => some (.returned none, { s with cache := s.cache.remove key })
  | .idle, .putTTL key value ttl =>
      some (.wrapped key
        { value := value, creation := s.now, timeout := (ttl * second).bmod 18446744073709551616 },
        s)
  | .wrapped key entry, .next =>
      some (.put, { s with cache := LRUCache.put s.cache key (.timed entry) })
  | _, _ => none

def expiryCalls (κ υ : Type) [DecidableEq κ] (size : Nat) :
    Calls (TimedState κ υ size) (ExpiryStage κ υ) (ExpiryInput κ υ) (ExpiryOther κ υ) where
  own := expiryStep
  outside other s :=
    match other with
    | .putIfAbsent key value => { s with cache := (s.cache.putIfAbsent key value).2 }
    | .remove key => { s with cache := s.cache.remove key }
    | .clear => { s with cache := s.cache.clear }
    | .advance n => { s with now := s.now + n }

abbrev ExpiryState (κ υ : Type) (size : Nat) (ι : Type) :=
  State (TimedState κ υ size) (ExpiryStage κ υ) ι

abbrev ExpiryEvent (κ υ ι : Type) := Event ι (ExpiryInput κ υ) (ExpiryOther κ υ)

/-- No call is in flight; the cache holds anything, at any time. -/
def ExpiryState.initial (start : TimedState κ υ size) (ι : Type) : ExpiryState κ υ size ι where
  shared := start
  stage := fun _ => .idle

/-- The steps are those of `GetTimeValue`, when nothing comes between them. -/
theorem getTimeValue_alone (s : TimedState κ υ size) (key : κ) :
    ∃ inputs, (expiryCalls κ υ size).alone (.idle, s) (.get key :: inputs) =
      some (.returned (s.cache.getTimeValue s.now key).1,
        { s with cache := (s.cache.getTimeValue s.now key).2 }) := by
  cases under : Recency.peek s.cache key with
  | none =>
      refine ⟨[.next], ?_⟩
      simp [Calls.alone, Runs.run, expiryCalls, expiryStep, LRUCache.get,
        TimedCache.getTimeValue, under]
  | some entry =>
      cases entry with
      | plain value =>
          refine ⟨[.next], ?_⟩
          simp [Calls.alone, Runs.run, expiryCalls, expiryStep, LRUCache.get,
            TimedCache.getTimeValue, under]
      | timed v =>
          by_cases valid : v.isValid s.now = true
          · refine ⟨[.next], ?_⟩
            simp [Calls.alone, Runs.run, expiryCalls, expiryStep, LRUCache.get,
              TimedCache.getTimeValue, under, valid]
          · refine ⟨[.next, .next], ?_⟩
            simp [Calls.alone, Runs.run, expiryCalls, expiryStep, LRUCache.get,
              TimedCache.getTimeValue, TimedCache.remove, under, valid]

/-- `Get` returns the value of what `GetTimeValue` does, and leaves the same cache. -/
theorem get_eq_getTimeValue (c : TimedCache κ υ size) (now : Int) (key : κ) :
    c.get now key =
      ((c.getTimeValue now key).1.map TimedValue.value, (c.getTimeValue now key).2) := by
  unfold TimedCache.get TimedCache.getTimeValue
  generalize LRUCache.get c key = read
  obtain ⟨found, c'⟩ := read
  cases found with
  | none => rfl
  | some entry =>
      cases entry with
      | plain value => rfl
      | timed v =>
          dsimp only
          split_ifs <;> rfl

theorem putTTL_alone (s : TimedState κ υ size) (key : κ) (value : υ) (ttl : Int) :
    (expiryCalls κ υ size).alone (.idle, s) [.putTTL key value ttl, .next] =
      some (.put, { s with cache := s.cache.putTTL64 s.now key value ttl }) := rfl

/-- What the steps can do. -/
inductive ExpiryTransition : ExpiryStage κ υ → ExpiryInput κ υ → TimedState κ υ size →
    ExpiryStage κ υ → TimedState κ υ size → Prop
  | got {key : κ} {s : TimedState κ υ size} :
      ExpiryTransition .idle (.get key) s (.got key (Recency.peek s.cache key))
        { s with cache := Recency.touch s.cache key }
  | valid {key : κ} {v : TimedValue υ} {s : TimedState κ υ size} : v.isValid s.now = true →
      ExpiryTransition (.got key (some (.timed v))) .next s (.returned (some v)) s
  | expired {key : κ} {v : TimedValue υ} {s : TimedState κ υ size} : v.isValid s.now = false →
      ExpiryTransition (.got key (some (.timed v))) .next s (.expired key) s
  | missed {key : κ} {entry : Option (Stored υ)} {s : TimedState κ υ size} :
      ExpiryTransition (.got key entry) .next s (.returned none) s
  | removed {key : κ} {s : TimedState κ υ size} :
      ExpiryTransition (.expired key) .next s (.returned none)
        { s with cache := Recency.remove s.cache key }
  | wrapped {key : κ} {value : υ} {ttl : Int} {entry : TimedValue υ} {s : TimedState κ υ size} :
      ExpiryTransition .idle (.putTTL key value ttl) s (.wrapped key entry) s
  | put {key : κ} {entry : TimedValue υ} {s : TimedState κ υ size} :
      ExpiryTransition (.wrapped key entry) .next s .put
        { s with cache := Recency.add s.cache key (.timed entry) }

theorem transition_of_expiryStep {stage stage' : ExpiryStage κ υ} {input : ExpiryInput κ υ}
    {s s' : TimedState κ υ size} (taken : expiryStep stage input s = some (stage', s')) :
    ExpiryTransition stage input s stage' s' := by
  unfold expiryStep at taken
  split at taken
  · cases taken
    exact .got
  · split_ifs at taken with valid
    · cases taken
      exact .valid valid
    · cases taken
      exact .expired (by simpa using valid)
  · cases taken
    exact .missed
  · cases taken
    exact .removed
  · cases taken
    exact .wrapped
  · cases taken
    exact .put
  · cases taken

/-! ### Entries that have not expired -/

/-- Whether the key has an entry that has not expired. -/
def hasUnexpired (s : TimedState κ υ size) (key : κ) : Bool :=
  match Recency.peek s.cache key with
  | some (.timed v) => v.isValid s.now
  | _ => false

theorem hasUnexpired_iff {s : TimedState κ υ size} {key : κ} :
    hasUnexpired s key = true ↔ ∃ v, Unexpired s key v := by
  unfold hasUnexpired Unexpired
  split
  · rename_i v under
    constructor
    · exact fun valid => ⟨v, under, valid⟩
    · rintro ⟨w, under', valid⟩
      cases under.symm.trans under'
      exact valid
  · rename_i notTimed
    constructor
    · exact fun absurdity => absurd absurdity (by decide)
    · rintro ⟨w, under, -⟩
      exact absurd under (notTimed w)

theorem not_unexpired {s : TimedState κ υ size} {key : κ} (none : hasUnexpired s key = false)
    (v : TimedValue υ) : ¬ Unexpired s key v := fun unexpired => by
  rw [hasUnexpired_iff.mpr ⟨v, unexpired⟩] at none
  cases none

/-- What has expired stays so. -/
theorem isValid_of_later {v : TimedValue υ} {now : Int} {n : Nat}
    (valid : v.isValid (now + n) = true) : v.isValid now = true := by
  unfold TimedValue.isValid timeSub minInt64 maxInt64 at *
  rw [decide_eq_true_eq] at *
  omega

/-- An entry that has not expired after a step of a call had not before it, or was put by it. -/
theorem unexpired_of_expiryStep {stage stage' : ExpiryStage κ υ} {input : ExpiryInput κ υ}
    {s s' : TimedState κ υ size} (taken : expiryStep stage input s = some (stage', s')) {key : κ}
    {v : TimedValue υ} (unexpired : Unexpired s' key v) :
    Unexpired s key v ∨ stage = .wrapped key v ∧ input = .next ∧ v.isValid s.now = true := by
  obtain ⟨under, valid⟩ := unexpired
  cases transition_of_expiryStep taken with
  | got => exact Or.inl ⟨(Recency.peek_touch _ _ key).symm.trans under, valid⟩
  | valid _ => exact Or.inl ⟨under, valid⟩
  | expired _ => exact Or.inl ⟨under, valid⟩
  | missed => exact Or.inl ⟨under, valid⟩
  | removed =>
      rw [Recency.peek_remove] at under
      split_ifs at under
      exact Or.inl ⟨under, valid⟩
  | wrapped => exact Or.inl ⟨under, valid⟩
  | put =>
      rcases Recency.peek_of_peek_add under with ⟨rfl, same⟩ | ⟨-, before⟩
      · cases same
        exact Or.inr ⟨rfl, rfl, valid⟩
      · exact Or.inl ⟨before, valid⟩

/-- No step of others puts an entry that can expire. -/
theorem unexpired_of_outside {s : TimedState κ υ size} {other : ExpiryOther κ υ} {key : κ}
    {v : TimedValue υ} (unexpired : Unexpired ((expiryCalls κ υ size).outside other s) key v) :
    Unexpired s key v := by
  obtain ⟨under, valid⟩ := unexpired
  cases other with
  | putIfAbsent key' value =>
      refine ⟨?_, valid⟩
      simp only [expiryCalls, TimedCache.putIfAbsent, LRUCache.putIfAbsent] at under
      split_ifs at under
      · exact (Recency.peek_touch _ _ key).symm.trans under
      · have old := Recency.peek_of_peek_add under
        exact (old.resolve_left fun raw => by cases raw.2).2
  | remove key' =>
      simp only [expiryCalls, TimedCache.remove, LRUCache.remove, Recency.peek_remove] at under
      split_ifs at under
      exact ⟨under, valid⟩
  | clear => exact absurd under (by simp [expiryCalls, TimedCache.clear, LRUCache.clear])
  | advance n => exact ⟨under, isValid_of_later valid⟩

/-! ### What comes between -/

/-- The key of the expired entry a call has found, which it removes next. -/
def ExpiryStage.removes : ExpiryStage κ υ → Option κ
  | .expired key => some key
  | _ => none

section Conditions

variable {ι : Type} (s : ExpiryState κ υ size ι)

/-- When a call finds that what it has read is expired, nothing that is not has been put
under the key since; and while a call is about to remove a key, nothing that has not expired
is put under it. -/
def NotOvertaken : ExpiryEvent κ υ ι → Prop
  | .own i .next =>
      match s.stage i with
      | .got key (some (.timed v)) =>
          v.isValid s.shared.now = true ∨ hasUnexpired s.shared key = false
      | .wrapped key entry =>
          entry.isValid s.shared.now = false ∨ ∀ j, (s.stage j).removes ≠ some key
      | _ => True
  | _ => True

instance [Fintype ι] (e : ExpiryEvent κ υ ι) : Decidable (NotOvertaken s e) := by
  unfold NotOvertaken
  split
  · split <;> infer_instance
  · infer_instance

/-- The step removes the key, clears the cache, or puts a key that pushes this one out. -/
def RemovedOnPurpose (key : κ) : ExpiryEvent κ υ ι → Prop
  | .own i .next => ∃ key' entry, s.stage i = .wrapped key' entry ∧
      s.shared.cache.evicted key' = some key
  | .outside (.putIfAbsent key' _) => s.shared.cache.evicted key' = some key
  | .outside (.remove key') => key' = key
  | .outside .clear => True
  | _ => False

/-- Whatever comes next, an entry that has not expired goes only on purpose. -/
def KeepsFresh [DecidableEq ι] : Prop :=
  ∀ e s' key v, (expiryCalls κ υ size).step s e = some s' → Unexpired s.shared key v →
    Recency.peek s'.shared.cache key = none → RemovedOnPurpose s key e

/-- No call is about to remove a key whose entry has not expired. -/
def RemovesExpired : Prop :=
  ∀ i key, (s.stage i).removes = some key → hasUnexpired s.shared key = false

end Conditions

variable {ι : Type} [DecidableEq ι] {s s' : ExpiryState κ υ size ι} {e : ExpiryEvent κ υ ι}

/-- A call that is about to remove a key has found what it read to be expired. -/
theorem removes_of_transition {stage stage' : ExpiryStage κ υ} {input : ExpiryInput κ υ}
    {t t' : TimedState κ υ size} {key : κ} (taken : ExpiryTransition stage input t stage' t')
    (removes : stage'.removes = some key) :
    t' = t ∧ input = .next ∧ ∃ v, stage = .got key (some (.timed v)) ∧ v.isValid t.now = false := by
  cases taken with
  | expired stale =>
      cases removes
      exact ⟨rfl, rfl, _, rfl, stale⟩
  | got => cases removes
  | valid _ => cases removes
  | missed => cases removes
  | removed => cases removes
  | wrapped => cases removes
  | put => cases removes

/-- A step that overtakes no call leaves none about to remove an entry that has not expired. -/
theorem removesExpired_step (notOvertaken : NotOvertaken s e)
    (taken : (expiryCalls κ υ size).step s e = some s') (before : RemovesExpired s) :
    RemovesExpired s' := by
  intro j key removes
  rw [← Bool.not_eq_true, hasUnexpired_iff]
  rintro ⟨v, unexpired⟩
  cases e with
  | outside other =>
      cases taken
      exact not_unexpired (before j key removes) v (unexpired_of_outside unexpired)
  | own i input =>
      obtain ⟨stage, shared, own, rfl⟩ := Calls.step_own.mp taken
      by_cases same : j = i
      · subst same
        simp only [Function.update_self] at removes
        obtain ⟨rfl, rfl, w, at', stale⟩ :=
          removes_of_transition (transition_of_expiryStep own) removes
        simp only [NotOvertaken, at', stale, Bool.false_eq_true, false_or] at notOvertaken
        exact not_unexpired notOvertaken v unexpired
      · simp only [Function.update_of_ne same] at removes
        rcases unexpired_of_expiryStep own unexpired with unexpired | ⟨at', rfl, fresh⟩
        · exact not_unexpired (before j key removes) v unexpired
        · simp only [NotOvertaken, at', fresh, Bool.true_eq_false, false_or] at notOvertaken
          exact notOvertaken j removes

/-- The next step of a call that is overtaken removes an entry that has not expired. -/
theorem notOvertaken_of_removesExpired (positive : 0 < size)
    (after : ∀ s', (expiryCalls κ υ size).step s e = some s' → RemovesExpired s') :
    NotOvertaken s e := by
  unfold NotOvertaken
  split
  · rename_i i
    split
    · rename_i key v at'
      by_contra overtaken
      obtain ⟨stale, unexpired⟩ := not_or.mp overtaken
      have own : expiryStep (s.stage i) .next s.shared = some (.expired key, s.shared) := by
        simp [at', expiryStep, stale]
      have stepped : (expiryCalls κ υ size).step s (.own i .next) = some _ :=
        Calls.step_own.mpr ⟨_, _, own, rfl⟩
      exact unexpired (after _ stepped i key (by simp [ExpiryStage.removes]))
    · rename_i key entry at'
      by_contra overtaken
      obtain ⟨fresh, removing⟩ := not_or.mp overtaken
      rw [Bool.not_eq_false] at fresh
      obtain ⟨j, removes⟩ := not_forall_not.mp removing
      have own : expiryStep (s.stage i) .next s.shared = some (.put,
          { s.shared with cache := LRUCache.put s.shared.cache key (.timed entry) }) := by
        simp [at', expiryStep]
      have other : j ≠ i := by
        rintro rfl
        simp [at', ExpiryStage.removes] at removes
      have none := after _ (Calls.step_own.mpr ⟨_, _, own, rfl⟩) j key
        (by simpa [Function.update_of_ne other] using removes)
      exact not_unexpired none entry ⟨Recency.peek_add_self positive key _, fresh⟩
    · trivial
  · trivial

/-- A step of a call that leaves nothing under a key with an entry that has not expired
pushed it out, or was about to remove it. -/
theorem gone_of_transition {stage stage' : ExpiryStage κ υ} {input : ExpiryInput κ υ}
    {t t' : TimedState κ υ size} {key : κ} {v : Stored υ} (positive : 0 < size)
    (taken : ExpiryTransition stage input t stage' t') (under : Recency.peek t.cache key = some v)
    (gone : Recency.peek t'.cache key = none) :
    stage.removes = some key ∨ input = .next ∧ ∃ key' entry, stage = .wrapped key' entry ∧
      t.cache.evicted key' = some key := by
  cases taken with
  | got =>
      rw [Recency.peek_touch, under] at gone
      cases gone
  | valid _ => cases under.symm.trans gone
  | expired _ => cases under.symm.trans gone
  | missed => cases under.symm.trans gone
  | removed =>
      rename_i key'
      rw [Recency.peek_remove, under] at gone
      split_ifs at gone with same
      exact Or.inl (congrArg some same.symm)
  | wrapped => cases under.symm.trans gone
  | put =>
      rename_i key' entry
      exact Or.inr ⟨rfl, key', entry, rfl, Recency.evicted_of_add positive under gone⟩

theorem gone_of_outside {t : TimedState κ υ size} {other : ExpiryOther κ υ} {key : κ}
    {v : Stored υ} (positive : 0 < size) (under : Recency.peek t.cache key = some v)
    (gone : Recency.peek ((expiryCalls κ υ size).outside other t).cache key = none) :
    other = .remove key ∨ other = .clear ∨
      ∃ key' value, other = .putIfAbsent key' value ∧ t.cache.evicted key' = some key := by
  cases other with
  | putIfAbsent key' value =>
      refine Or.inr (Or.inr ⟨key', value, rfl, ?_⟩)
      simp only [expiryCalls, TimedCache.putIfAbsent, LRUCache.putIfAbsent] at gone
      split_ifs at gone
      · rw [LRUCache.get, Recency.peek_touch, under] at gone
        cases gone
      · exact Recency.evicted_of_add positive under gone
  | remove key' =>
      simp only [expiryCalls, TimedCache.remove, LRUCache.remove, Recency.peek_remove,
        under] at gone
      split_ifs at gone with same
      exact Or.inl (congrArg _ same.symm)
  | clear => exact Or.inr (Or.inl rfl)
  | advance n => cases under.symm.trans gone

theorem keepsFresh_iff (positive : 0 < size) : KeepsFresh s ↔ RemovesExpired s := by
  constructor
  · intro keeps i key removes
    rw [← Bool.not_eq_true, hasUnexpired_iff]
    rintro ⟨v, unexpired⟩
    obtain at' : s.stage i = .expired key := by
      cases at' : s.stage i <;> simp [at', ExpiryStage.removes] at removes
      rw [removes]
    have own : expiryStep (s.stage i) .next s.shared =
        some (.returned none, { s.shared with cache := s.shared.cache.remove key }) := by
      simp [at', expiryStep]
    obtain ⟨key', entry, wrapped, -⟩ := keeps (.own i .next) _ key v
      (Calls.step_own.mpr ⟨_, _, own, rfl⟩) unexpired (by simp [TimedCache.remove, LRUCache.remove])
    cases at'.symm.trans wrapped
  · intro removesExpired e s' key v taken unexpired gone
    cases e with
    | own i input =>
        obtain ⟨stage, shared, own, rfl⟩ := Calls.step_own.mp taken
        rcases gone_of_transition positive (transition_of_expiryStep own) unexpired.1 gone with
          removes | ⟨rfl, pushed⟩
        · exact absurd unexpired (not_unexpired (removesExpired i key removes) v)
        · exact pushed
    | outside other =>
        cases taken
        rcases gone_of_outside positive unexpired.1 gone with rfl | rfl | ⟨key', value, rfl, pushed⟩
        · rfl
        · trivial
        · exact pushed

/-! ### Runs -/

/-- In every state that a run comes to, an entry that has not expired goes next only on
purpose, exactly when no step of the run overtakes a call that has read an older one. -/
theorem fresh_entries_stay_iff (positive : 0 < size) (start : TimedState κ υ size)
    (events : List (ExpiryEvent κ υ ι)) :
    (∀ before later s, events = before ++ later →
        Runs.run (expiryCalls κ υ size).step (ExpiryState.initial start ι) before = some s →
          KeepsFresh s) ↔
      Runs.AllSteps (expiryCalls κ υ size).step NotOvertaken (ExpiryState.initial start ι)
        events := by
  simp only [keepsFresh_iff positive]
  refine (Runs.allSteps_iff (fun s e before => ⟨fun notOvertaken s' taken => ?_, ?_⟩) ?_).symm
  · exact removesExpired_step notOvertaken taken before
  · exact notOvertaken_of_removesExpired positive
  · intro i key removes
    cases removes

/-! ### A reader and a writer -/

/-- The address put at the start for a second is there, and two seconds have gone by. -/
def staleCache : TimedState GoString GoString 2 where
  cache := TimedCache.putTTL64 Recency.empty 0 web oldAddress 1
  now := 2 * second

/-- The reader has removed the old address before the writer puts the new one. -/
def readThenPut : List (ExpiryEvent GoString GoString Bool) :=
  [.own false (.get web), .own true (.putTTL web newAddress 5), .own false .next,
    .own false .next, .own true .next, .outside (.advance 1000000000)]

theorem fresh_entries_stay_readThenPut :
    ∃ s, Runs.run (expiryCalls GoString GoString 2).step (ExpiryState.initial staleCache Bool)
        readThenPut = some s ∧ hasUnexpired s.shared web = true ∧ KeepsFresh s := by
  have notOvertaken : Runs.AllSteps (expiryCalls GoString GoString 2).step NotOvertaken
      (ExpiryState.initial staleCache Bool) readThenPut := by
    decide +kernel
  have reached : ∃ s, Runs.run (expiryCalls GoString GoString 2).step
      (ExpiryState.initial staleCache Bool) readThenPut = some s ∧
      hasUnexpired s.shared web = true := ⟨_, rfl, by decide +kernel⟩
  obtain ⟨s, ran, fresh⟩ := reached
  exact ⟨s, ran, fresh, (fresh_entries_stay_iff (by decide) staleCache readThenPut).mpr
    notOvertaken readThenPut [] s (by simp) ran⟩

/-- The reader has found the old address expired when the writer puts the new one. -/
def putBeforeRemove : List (ExpiryEvent GoString GoString Bool) :=
  [.own false (.get web), .own false .next, .own true (.putTTL web newAddress 5),
    .own true .next]

/-- The reader removes the new address. -/
theorem stale_reader_drops_fresh_entry :
    ∃ s s' v, Runs.run (expiryCalls GoString GoString 2).step (ExpiryState.initial staleCache Bool)
        putBeforeRemove = some s ∧
      (expiryCalls GoString GoString 2).step s (.own false .next) = some s' ∧
      Unexpired s.shared web v ∧ v.value = newAddress ∧
      Recency.peek s'.shared.cache web = none ∧ ¬ RemovedOnPurpose s web (.own false .next) := by
  refine ⟨_, _, ⟨2000000000, 5000000000, newAddress⟩, rfl, rfl, ⟨?_, ?_⟩, rfl, ?_, ?_⟩
  · decide +kernel
  · decide +kernel
  · decide +kernel
  · rintro ⟨key', entry, wrapped, -⟩
    cases wrapped

end DnsProxyServer.Cache
