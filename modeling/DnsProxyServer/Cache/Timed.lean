/-
Module: DnsProxyServer.Cache.Timed
Purpose: The LRU cache and, over it, the cache whose entries expire.
Trusted boundary: translation of cache/lru/lru.go, cache/timed/timecache.go and
  cache/timed/timedvalue.go over the vendored LRU; each call is one atomic step
Main exports: LRUCache, LRUCache.putIfAbsent, TimedValue, TimedValue.isValid,
  TimedCache, TimedCache.getTimeValue, TimedCache.putTTL,
  TimedCache.getTimeValue_eq_some, TimedCache.peek_getTimeValue,
  TimedCache.peek_putTTL
-/
import DnsProxyServer.Lib.Recency
import DnsProxyServer.Go.Text

namespace DnsProxyServer.Cache

variable {κ υ : Type} [DecidableEq κ] {size : Nat}

/-! ### Package lru -/

abbrev LRUCache (κ υ : Type) (size : Nat) := Recency κ υ size

namespace LRUCache

def containsKey (c : LRUCache κ υ size) (key : κ) : Bool := Recency.contains c key

/-- The value, `none` for nil, and the cache with the key used last. -/
def get (c : LRUCache κ υ size) (key : κ) : Option υ × LRUCache κ υ size :=
  (Recency.peek c key, Recency.touch c key)

def put (c : LRUCache κ υ size) (key : κ) (value : υ) : LRUCache κ υ size :=
  Recency.add c key value

/-- The value found, `none` when the passed value was put. -/
def putIfAbsent (c : LRUCache κ υ size) (key : κ) (value : υ) : Option υ × LRUCache κ υ size :=
  if Recency.contains c key then get c key else (none, Recency.add c key value)

def clear (c : LRUCache κ υ size) : LRUCache κ υ size := Recency.purge c

def remove (c : LRUCache κ υ size) (key : κ) : LRUCache κ υ size := Recency.remove c key

/-- What `PutIfAbsent` returns is what is under the key. -/
theorem putIfAbsent_fst (c : LRUCache κ υ size) (key : κ) (value : υ) :
    (putIfAbsent c key value).1 = Recency.peek c key := by
  unfold putIfAbsent
  split_ifs with present
  · rfl
  · have absent : Recency.peek c key = none := by simpa [Recency.contains] using present
    exact absent.symm

theorem peek_putIfAbsent_self (positive : 0 < size) (c : LRUCache κ υ size) (key : κ) (value : υ) :
    Recency.peek (putIfAbsent c key value).2 key =
      if containsKey c key then Recency.peek c key else some value := by
  unfold putIfAbsent containsKey get
  split_ifs
  · exact Recency.peek_touch c key key
  · exact Recency.peek_add_self positive key value

theorem containsKey_putIfAbsent_self (positive : 0 < size) (c : LRUCache κ υ size) (key : κ)
    (value : υ) : containsKey (putIfAbsent c key value).2 key = true := by
  have entry := peek_putIfAbsent_self positive c key value
  split_ifs at entry with present
  · exact (Recency.contains_congr entry).trans present
  · exact Recency.contains_iff.mpr ⟨value, entry⟩

end LRUCache

/-! ### Package timed -/

/-- Nanoseconds in a second. -/
def second : Int := 1000000000

/-- `now.Sub(creation)`, which stays within an `int64`. -/
def timeSub (now creation : Int) : Int := max minInt64 (min maxInt64 (now - creation))

structure TimedValue (υ : Type) where
  creation : Int
  timeout : Int
  value : υ
deriving DecidableEq

def TimedValue.isValid (t : TimedValue υ) (now : Int) : Bool :=
  decide (t.timeout > timeSub now t.creation)

/-- What the delegate cache holds: `PutTTL` wraps its value, `PutIfAbsent` does not. -/
inductive Stored (υ : Type) where
  | timed (v : TimedValue υ)
  | plain (value : υ)
deriving DecidableEq

abbrev TimedCache (κ υ : Type) (size : Nat) := LRUCache κ (Stored υ) size

namespace TimedCache

/-- The entry when it has not expired; an expired one is removed. -/
def getTimeValue (c : TimedCache κ υ size) (now : Int) (key : κ) :
    Option (TimedValue υ) × TimedCache κ υ size :=
  match LRUCache.get c key with
  | (some (.timed v), c) => if v.isValid now then (some v, c) else (none, LRUCache.remove c key)
  | (_, c) => (none, c)

def putTTL (c : TimedCache κ υ size) (now : Int) (key : κ) (value : υ) (ttl : Int) :
    TimedCache κ υ size :=
  LRUCache.put c key (.timed { value := value, creation := now, timeout := ttl * second })

def remove (c : TimedCache κ υ size) (key : κ) : TimedCache κ υ size := LRUCache.remove c key

def clear (c : TimedCache κ υ size) : TimedCache κ υ size := LRUCache.clear c

/-- An entry that is served is in the cache and has not expired. -/
theorem getTimeValue_eq_some {c : TimedCache κ υ size} {now : Int} {key : κ} {v : TimedValue υ}
    (served : (c.getTimeValue now key).1 = some v) :
    Recency.peek c key = some (.timed v) ∧ v.isValid now = true := by
  unfold getTimeValue LRUCache.get at served
  split at served
  · rename_i found c' read
    split_ifs at served with valid
    cases served
    exact ⟨(Prod.mk.inj read).1, valid⟩
  · exact absurd served (by simp)

/-- Looking up loses at most the key looked up, and puts nothing. -/
theorem peek_getTimeValue {c : TimedCache κ υ size} {now : Int} {key key' : κ} {v : Stored υ}
    (found : Recency.peek (c.getTimeValue now key).2 key' = some v) :
    Recency.peek c key' = some v := by
  unfold getTimeValue LRUCache.get at found
  split at found
  · rename_i timed c' read
    obtain rfl := (Prod.mk.inj read).2
    split_ifs at found
    · simpa using found
    · rw [LRUCache.remove, Recency.peek_remove] at found
      split_ifs at found
      simpa using found
  · rename_i c' notTimed read
    obtain rfl := (Prod.mk.inj read).2
    simpa using found

/-- After a lookup that serves nothing no timed entry is left under the key. -/
theorem peek_of_getTimeValue_eq_none {c : TimedCache κ υ size} {now : Int} {key : κ}
    (miss : (c.getTimeValue now key).1 = none) (v : TimedValue υ) :
    Recency.peek (c.getTimeValue now key).2 key ≠ some (.timed v) := by
  unfold getTimeValue LRUCache.get at miss ⊢
  split at miss
  · rename_i timed c' read
    split_ifs at miss ⊢
    simp [LRUCache.remove]
  · rename_i c' notTimed read
    obtain ⟨found, rfl⟩ := Prod.mk.inj read
    intro present
    rw [Recency.peek_touch] at present
    exact notTimed v (found.symm.trans present)

/-- What is found after `PutTTL` was put by it or was there before. -/
theorem peek_putTTL {c : TimedCache κ υ size} {now ttl : Int} {key key' : κ} {value : υ}
    {v : Stored υ} (found : Recency.peek (c.putTTL now key value ttl) key' = some v) :
    (key' = key ∧ v = .timed { value := value, creation := now, timeout := ttl * second }) ∨
      Recency.peek c key' = some v :=
  (Recency.peek_of_peek_add found).imp id And.right

end TimedCache

end DnsProxyServer.Cache
