/-
Module: DnsProxyServer.Cache.Contract
Purpose: The cache whose entries expire against the contract of PutIfAbsent: after every
  history of its operations, when the next PutIfAbsent does what the contract says.
Trusted boundary: translation of cache/timed/timecache.go over the LRU cache; a value that
  is passed in is not itself a TimedValue
Main exports: TimedCache.get, TimedCache.putTTL64, TimedCache.putIfAbsent, TimedOp,
  TimedState, TimedState.run, Unexpired, HonoursContract, honours_contract_iff,
  raw_value_is_never_served
-/
import DnsProxyServer.Cache.Timed

namespace DnsProxyServer.Cache

variable {κ υ : Type} [DecidableEq κ] {size : Nat}

/-! ### The operations -/

namespace TimedCache

def get (c : TimedCache κ υ size) (now : Int) (key : κ) : Option υ × TimedCache κ υ size :=
  match LRUCache.get c key with
  | (some (.timed v), c) =>
      if v.isValid now then (some v.value, c) else (none, LRUCache.remove c key)
  | (_, c) => (none, c)

/-- `PutTTL` with the product of `int64`, which wraps. -/
def putTTL64 (c : TimedCache κ υ size) (now : Int) (key : κ) (value : υ) (ttl : Int) :
    TimedCache κ υ size :=
  LRUCache.put c key (.timed
    { value := value, creation := now, timeout := (ttl * second).bmod 18446744073709551616 })

/-- A TTL of up to 292 years does not wrap. -/
theorem putTTL64_eq (c : TimedCache κ υ size) (now : Int) (key : κ) (value : υ) {ttl : Int}
    (low : minInt64 ≤ ttl * second) (high : ttl * second ≤ maxInt64) :
    c.putTTL64 now key value ttl = c.putTTL now key value ttl := by
  have fits : (ttl * second).bmod 18446744073709551616 = ttl * second := by
    apply Int.bmod_eq_of_le
    · exact low
    · unfold maxInt64 at high
      omega
  rw [putTTL64, putTTL, fits]

/-- The delegate stores the value as it is, and returns what it has stored. -/
def putIfAbsent (c : TimedCache κ υ size) (key : κ) (value : υ) :
    Option (Stored υ) × TimedCache κ υ size :=
  LRUCache.putIfAbsent c key (.plain value)

end TimedCache

/-! ### Histories -/

inductive TimedOp (κ υ : Type) where
  | put (key : κ) (value : υ)
  | putTTL (key : κ) (value : υ) (ttl : Int)
  | putIfAbsent (key : κ) (value : υ)
  | get (key : κ)
  | getTimeValue (key : κ)
  | remove (key : κ)
  | clear
  | advance (n : Nat)

structure TimedState (κ υ : Type) (size : Nat) where
  cache : TimedCache κ υ size
  now : Int

namespace TimedState

def new (now : Int) : TimedState κ υ size where
  cache := Recency.empty
  now := now

def apply (defaultTTL : Int) (s : TimedState κ υ size) : TimedOp κ υ → TimedState κ υ size
  | .put key value => { s with cache := s.cache.putTTL64 s.now key value defaultTTL }
  | .putTTL key value ttl => { s with cache := s.cache.putTTL64 s.now key value ttl }
  | .putIfAbsent key value => { s with cache := (s.cache.putIfAbsent key value).2 }
  | .get key => { s with cache := (s.cache.get s.now key).2 }
  | .getTimeValue key => { s with cache := (s.cache.getTimeValue s.now key).2 }
  | .remove key => { s with cache := s.cache.remove key }
  | .clear => { s with cache := s.cache.clear }
  | .advance n => { s with now := s.now + n }

/-- The state after a history. -/
def run (defaultTTL : Int) (s : TimedState κ υ size) (history : List (TimedOp κ υ)) :
    TimedState κ υ size :=
  history.foldl (apply defaultTTL) s

end TimedState

/-! ### The contract -/

/-- The key has this entry, which has not expired. -/
def Unexpired (s : TimedState κ υ size) (key : κ) (v : TimedValue υ) : Prop :=
  Recency.peek s.cache key = some (.timed v) ∧ v.isValid s.now = true

/-- `PutIfAbsent` puts when the key has no entry that has not expired, and then `Get` serves
the value for the default TTL; else it returns the value of the entry, which is served until
it expires. -/
structure HonoursContract (defaultTTL : Int) (s : TimedState κ υ size) (key : κ) (value : υ) :
    Prop where
  puts : (∀ v, ¬ Unexpired s key v) → (s.cache.putIfAbsent key value).1 = none ∧
    ∀ elapsed : Nat, (elapsed : Int) < defaultTTL * second →
      ((s.cache.putIfAbsent key value).2.get (s.now + elapsed) key).1 = some value
  finds : ∀ v, Unexpired s key v →
    (s.cache.putIfAbsent key value).1 = some (.plain v.value) ∧
    ∀ elapsed : Nat, v.isValid (s.now + elapsed) = true →
      ((s.cache.putIfAbsent key value).2.get (s.now + elapsed) key).1 = some v.value

/-- What is under the key is returned as it is stored. -/
theorem putIfAbsent_eq_peek (c : TimedCache κ υ size) (key : κ) (value : υ) :
    (c.putIfAbsent key value).1 = Recency.peek c key := LRUCache.putIfAbsent_fst c key _

/-- A raw value is not served. -/
theorem get_of_not_timed {c : TimedCache κ υ size} {key : κ}
    (notTimed : ∀ v, Recency.peek c key ≠ some (.timed v)) (now : Int) :
    (c.get now key).1 = none := by
  unfold TimedCache.get LRUCache.get
  split
  · rename_i v c' read
    exact absurd (Prod.mk.inj read).1 (notTimed v)
  · rfl

/-- A key that was absent has the raw value after `PutIfAbsent`, or nothing. -/
theorem get_putIfAbsent_of_absent {c : TimedCache κ υ size} {key : κ}
    (absent : Recency.peek c key = none) (value : υ) (now : Int) :
    ((c.putIfAbsent key value).2.get now key).1 = none := by
  apply get_of_not_timed
  intro v found
  have missing : Recency.contains c key = false := by simp [Recency.contains, absent]
  simp only [TimedCache.putIfAbsent, LRUCache.putIfAbsent, missing, Bool.false_eq_true,
    if_false] at found
  rcases Recency.peek_of_peek_add found with ⟨-, raw⟩ | ⟨other, -⟩
  · cases raw
  · exact other rfl

/-- An entry with a positive TTL is put as a raw value, which `Get` never serves; and what
is under a key is returned with its time stamps, expired or not. -/
theorem absent_of_honoursContract {defaultTTL : Int} {s : TimedState κ υ size} {key : κ}
    {value : υ} (honours : HonoursContract defaultTTL s key value) :
    Recency.peek s.cache key = none ∧ defaultTTL ≤ 0 := by
  by_cases unexpired : ∃ v, Unexpired s key v
  · obtain ⟨v, entry⟩ := unexpired
    have returned := (honours.finds v entry).1
    rw [putIfAbsent_eq_peek, entry.1] at returned
    cases returned
  · obtain ⟨returned, served⟩ := honours.puts (not_exists.mp unexpired)
    rw [putIfAbsent_eq_peek] at returned
    refine ⟨returned, ?_⟩
    by_contra positive
    have immediately : ((0 : Nat) : Int) < defaultTTL * second := by
      unfold second
      omega
    have now := served 0 immediately
    rw [get_putIfAbsent_of_absent returned] at now
    cases now

theorem honoursContract_of_absent {defaultTTL : Int} {s : TimedState κ υ size} {key : κ}
    (absent : Recency.peek s.cache key = none) (expired : defaultTTL ≤ 0) (value : υ) :
    HonoursContract defaultTTL s key value where
  puts _ := by
    refine ⟨(putIfAbsent_eq_peek s.cache key value).trans absent, fun elapsed young => ?_⟩
    unfold second at young
    omega
  finds v entry := absurd (absent.symm.trans entry.1) (by simp)

/-- After every history, exactly a key that nothing is stored under has the contract
honoured, and only when new entries expire at once. -/
theorem honours_contract_iff (defaultTTL start : Int) (history : List (TimedOp κ υ)) (key : κ)
    (value : υ) :
    HonoursContract defaultTTL ((TimedState.new start).run defaultTTL history :
        TimedState κ υ size) key value ↔
      Recency.peek ((TimedState.new start).run defaultTTL history : TimedState κ υ size).cache
          key = none ∧ defaultTTL ≤ 0 :=
  ⟨absent_of_honoursContract, fun holds => honoursContract_of_absent holds.1 holds.2 value⟩

/-- A cache with a default TTL of half a minute, after a `Put` of this address for `web`. -/
def afterPut : TimedState GoString GoString 4096 :=
  (TimedState.new 0).run 30 [.put "web".toList "172.17.0.2".toList]

/-- In the empty cache `PutIfAbsent` returns nil, and `Get` does not serve the value; after a
`Put` it returns a TimedValue. -/
theorem raw_value_is_never_served :
    (TimedCache.putIfAbsent (Recency.empty : TimedCache GoString GoString 4096) "web".toList
        "172.17.0.2".toList).1 = none ∧
      ((TimedCache.putIfAbsent (Recency.empty : TimedCache GoString GoString 4096) "web".toList
        "172.17.0.2".toList).2.get 0 "web".toList).1 = none ∧
      ¬ HonoursContract 30 (TimedState.new 0 : TimedState GoString GoString 4096) "web".toList
        "172.17.0.2".toList ∧
      (afterPut.cache.putIfAbsent "web".toList "172.17.0.3".toList).1 = some (.timed
        { creation := 0, timeout := 30 * second, value := "172.17.0.2".toList }) ∧
      ¬ HonoursContract 30 afterPut "web".toList "172.17.0.3".toList := by
  refine ⟨rfl, rfl, fun honours => ?_, rfl, fun honours => ?_⟩
  · exact absurd (absent_of_honoursContract honours).2 (by decide)
  · exact absurd (absent_of_honoursContract honours).2 (by decide)

end DnsProxyServer.Cache
