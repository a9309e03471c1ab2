/-
Module: DnsProxyServer.Proxy.Ttl
Purpose: The TTLs of the answers: how long the records of a cached message are served
  and with which TTL, and when a TTL survives its way from the configuration to the
  header of an answer.
Trusted boundary: translation of proxy/cache.go with the two clock readings of a served
  message apart, and with the wrapping arithmetic of int64
Main exports: wrapInt64, doSolveAt, doSolveAt_self, StoredAt, RespectsTtls,
  respectsTtls_iff, ExactTtls, exactTtls_iff
-/
import DnsProxyServer.Proxy.CacheSolver

namespace DnsProxyServer.Proxy

open Local
open Cache (TimedCache TimedValue Stored LRUCache second timeSub)

/-! ### Two clock readings -/

/-- The result of an `int64` operation whose exact value is `n`. -/
def wrapInt64 (n : Int) : Int :=
  (n + 9223372036854775808) % 18446744073709551616 - 9223372036854775808

/-- `doSolve` with the reading `checked` of `GetTimeValue` and its own reading `now`. -/
def doSolveAt (cache : SolverCache) (checked now : Int) (hostname : GoString) :
    Option Msg × SolverCache :=
  match cache.getTimeValue checked hostname with
  | (some tvalue, cache) =>
      let msg := tvalue.value
      let ttl := getTtl msg
      let leftTime := wrapInt64 (wrapInt64 ((ttl.toNat : Int) * second) -
        timeSub now tvalue.creation)
      (some (msg.setTtls (toUInt32 (leftTime.tdiv second))), cache)
  | (none, cache) => (none, cache)

theorem wrapInt64_eq {n : Int} (low : minInt64 ≤ n) (high : n ≤ maxInt64) : wrapInt64 n = n := by
  unfold wrapInt64
  unfold minInt64 at low
  unfold maxInt64 at high
  omega

/-- A TTL in nanoseconds fits an `int64`. -/
theorem ttl_nanoseconds (ttl : UInt32) :
    0 ≤ (ttl.toNat : Int) * second ∧ (ttl.toNat : Int) * second ≤ 4294967295000000000 := by
  have small : ttl.toNat < 2 ^ 32 := ttl.toNat_lt
  unfold second
  omega

theorem timeSub_bounds {creation now : Int} (ordered : creation ≤ now) :
    0 ≤ timeSub now creation ∧ timeSub now creation ≤ maxInt64 := by
  simp only [timeSub, minInt64, maxInt64]
  omega

/-- Nothing overflows when the message was stored before it is served. -/
theorem leftTime_exact (ttl : UInt32) {creation now : Int} (ordered : creation ≤ now) :
    wrapInt64 ((ttl.toNat : Int) * second) = (ttl.toNat : Int) * second ∧
      wrapInt64 ((ttl.toNat : Int) * second - timeSub now creation) =
        (ttl.toNat : Int) * second - timeSub now creation := by
  obtain ⟨low, high⟩ := ttl_nanoseconds ttl
  obtain ⟨young, old⟩ := timeSub_bounds ordered
  unfold maxInt64 at old
  constructor
  · apply wrapInt64_eq
    · unfold minInt64
      omega
    · unfold maxInt64
      omega
  · apply wrapInt64_eq
    · unfold minInt64
      omega
    · unfold maxInt64
      omega

/-- With one reading for both, and entries that are not from the future, it is
`doSolve`. -/
theorem doSolveAt_self {cache : SolverCache} {now : Int} {hostname : GoString}
    (ordered : ∀ tvalue, Recency.peek cache hostname = some (.timed tvalue) →
      tvalue.creation ≤ now) :
    doSolveAt cache now now hostname = doSolve cache now hostname := by
  unfold doSolveAt doSolve
  cases read : TimedCache.getTimeValue cache now hostname with
  | mk served cache' =>
      cases served with
      | none => rfl
      | some tvalue =>
          have found := TimedCache.getTimeValue_eq_some (congrArg Prod.fst read)
          obtain ⟨product, difference⟩ :=
            leftTime_exact (getTtl tvalue.value) (ordered tvalue found.1)
          simp only [product, difference]

/-! ### What is served of a stored message -/

/-- The entry of the key is the one that storing the message at this time made. -/
def StoredAt (cache : SolverCache) (hostname : GoString) (stored : Int) (msg : Msg) : Prop :=
  ∃ earlier, Recency.peek cache hostname =
    Recency.peek (storeAnswer earlier stored hostname (.returned (some msg) none)).2 hostname

theorem StoredAt.peek {cache : SolverCache} {hostname : GoString} {stored : Int} {msg : Msg}
    (entry : StoredAt cache hostname stored msg) :
    Recency.peek cache hostname = some (.timed {
      value := msg, creation := stored, timeout := (getTtl msg).toNat * second }) := by
  obtain ⟨earlier, same⟩ := entry
  rw [same]
  exact Recency.peek_add_self (by decide) _ _

theorem storedAt_store (cache : SolverCache) (hostname : GoString) (stored : Int) (msg : Msg) :
    StoredAt (storeAnswer cache stored hostname (.returned (some msg) none)).2 hostname stored
      msg :=
  ⟨cache, rfl⟩

theorem doSolveAt_of_storedAt {cache : SolverCache} {hostname : GoString} {stored : Int}
    {msg : Msg} (entry : StoredAt cache hostname stored msg) (checked now : Int) :
    (doSolveAt cache checked now hostname).1 =
      if (getTtl msg).toNat * second > timeSub checked stored then
        some (msg.setTtls (toUInt32 ((wrapInt64 (wrapInt64 ((getTtl msg).toNat * second) -
          timeSub now stored)).tdiv second)))
      else none := by
  have valid : TimedValue.isValid
      { value := msg, creation := stored, timeout := (getTtl msg).toNat * second } checked =
        decide ((getTtl msg).toNat * second > timeSub checked stored) := rfl
  unfold doSolveAt TimedCache.getTimeValue LRUCache.get
  rw [entry.peek]
  simp only [valid, decide_eq_true_eq]
  split_ifs <;> rfl

/-- The age is what is compared, as a TTL is shorter than the longest duration. -/
theorem ttl_gt_timeSub_iff (ttl : UInt32) {stored checked : Int} (ordered : stored ≤ checked) :
    (ttl.toNat : Int) * second > timeSub checked stored ↔
      checked - stored < (ttl.toNat : Int) * second := by
  obtain ⟨low, high⟩ := ttl_nanoseconds ttl
  simp only [timeSub, minInt64, maxInt64]
  omega

theorem toUInt32_toNat (n : Int) : ((toUInt32 n).toNat : Int) = n % 4294967296 := by
  have value : (toUInt32 n).toNat = (n % 4294967296).toNat % 2 ^ 32 := UInt32.toNat_ofNat'
  omega

/-- Whole seconds of a time that is not a second or more in the past. -/
theorem tdiv_second_bounds {n ttl : Int} (low : -second < n) (high : n ≤ ttl * second) :
    0 ≤ n.tdiv second ∧ n.tdiv second ≤ ttl := by
  unfold second at low high ⊢
  rcases Int.le_total 0 n with positive | negative
  · rw [Int.tdiv_eq_ediv_of_nonneg positive]
    omega
  · have same : n.tdiv 1000000000 = -((-n) / 1000000000) := by
      rw [← Int.tdiv_eq_ediv_of_nonneg (by omega), Int.neg_tdiv, Int.neg_neg]
    omega

theorem tdiv_second_neg {n : Int} (past : n ≤ -second) : n.tdiv second < 0 := by
  unfold second at past ⊢
  have same : n.tdiv 1000000000 = -((-n) / 1000000000) := by
    rw [← Int.tdiv_eq_ediv_of_nonneg (by omega), Int.neg_tdiv, Int.neg_neg]
  omega

theorem RR.setTtl_header_ttl (ttl : UInt32) (rr : RR) : (rr.setTtl ttl).header.ttl = ttl := by
  cases rr <;> rfl

/-! ### Every record's own TTL -/

/-- A record is served for less than its TTL, and with at most what is left of it. -/
def RespectsTtls (hostname : GoString) (stored : Int) (msg : Msg) : Prop :=
  ∀ cache now served, StoredAt cache hostname stored msg → stored ≤ now →
    (doSolve cache now hostname).1 = some served →
    ∀ (i : Nat) (rr rr' : RR), msg.answer[i]? = some rr → served.answer[i]? = some rr' →
      (rr'.header.ttl.toNat : Int) ≤ rr.header.ttl.toNat - (now - stored) / second ∧
        now - stored < rr.header.ttl.toNat * second

theorem doSolve_of_storedAt {cache : SolverCache} {hostname : GoString} {stored now : Int}
    {msg : Msg} (entry : StoredAt cache hostname stored msg) (ordered : stored ≤ now) :
    (doSolve cache now hostname).1 =
      if now - stored < (getTtl msg).toNat * second then
        some (msg.setTtls (toUInt32 (((getTtl msg).toNat * second - (now - stored)).tdiv second)))
      else none := by
  have created : ∀ tvalue, Recency.peek cache hostname = some (.timed tvalue) →
      tvalue.creation ≤ now := by
    intro tvalue found
    rw [entry.peek] at found
    cases found
    exact ordered
  obtain ⟨product, difference⟩ := leftTime_exact (getTtl msg) ordered
  rw [← doSolveAt_self created, doSolveAt_of_storedAt entry]
  simp only [ttl_gt_timeSub_iff _ ordered, product, difference]
  split_ifs with young
  · have exact : timeSub now stored = now - stored := by
      obtain ⟨-, high⟩ := ttl_nanoseconds (getTtl msg)
      simp only [timeSub, minInt64, maxInt64]
      omega
    rw [exact]
  · rfl

/-- What is left of the first TTL, as it is written into the records. -/
theorem left_of_ttl (ttl : UInt32) {elapsed : Int} (nonneg : 0 ≤ elapsed)
    (young : elapsed < ttl.toNat * second) :
    ((toUInt32 (((ttl.toNat : Int) * second - elapsed).tdiv second)).toNat : Int) ≤
      ttl.toNat - elapsed / second := by
  have small : ttl.toNat < 2 ^ 32 := ttl.toNat_lt
  rw [toUInt32_toNat]
  unfold second at young ⊢
  rw [Int.tdiv_eq_ediv_of_nonneg (by omega)]
  omega

/-- A message that is asked for as soon as it is stored is served with its first TTL. -/
theorem doSolve_at_once {cache : SolverCache} {hostname : GoString} {stored : Int} {msg : Msg}
    (entry : StoredAt cache hostname stored msg) (lasting : getTtl msg ≠ 0) :
    (doSolve cache stored hostname).1 = some (msg.setTtls (getTtl msg)) := by
  have positive : 0 < (getTtl msg).toNat := by
    apply Nat.pos_of_ne_zero
    intro none
    exact lasting (UInt32.toNat_inj.mp none)
  have small : (getTtl msg).toNat < 2 ^ 32 := (getTtl msg).toNat_lt
  have fresh : stored - stored < (getTtl msg).toNat * second := by
    unfold second
    omega
  have whole : (((getTtl msg).toNat : Int) * second - (stored - stored)).tdiv second =
      (getTtl msg).toNat := by
    rw [Int.sub_self, Int.sub_zero]
    exact Int.mul_tdiv_cancel _ (by decide)
  have same : toUInt32 ((getTtl msg).toNat : Int) = getTtl msg := by
    apply UInt32.toNat_inj.mp
    have value := toUInt32_toNat (getTtl msg).toNat
    omega
  rw [doSolve_of_storedAt entry (Int.le_refl stored), if_pos fresh, whole, same]

/-- The records of a stored message are served by their own TTLs if and only if none has
a TTL shorter than the first one, or the first one is zero and nothing is served. -/
theorem respectsTtls_iff (hostname : GoString) (stored : Int) (msg : Msg) :
    RespectsTtls hostname stored msg ↔
      getTtl msg = 0 ∨ ∀ rr ∈ msg.answer, getTtl msg ≤ rr.header.ttl := by
  constructor
  · intro respects
    by_cases zero : getTtl msg = 0
    · exact Or.inl zero
    · right
      intro rr member
      obtain ⟨i, found⟩ := List.mem_iff_getElem?.mp member
      have entry := storedAt_store Recency.empty hostname stored msg
      have copied : (msg.setTtls (getTtl msg)).answer[i]? = some (rr.setTtl (getTtl msg)) := by
        simp [Msg.setTtls, found]
      have bound := (respects _ stored _ entry (Int.le_refl stored) (doSolve_at_once entry zero)
        i rr _ found copied).1
      rw [RR.setTtl_header_ttl, Int.sub_self, Int.zero_ediv] at bound
      rw [UInt32.le_iff_toNat_le]
      omega
  · intro condition cache now served entry ordered serves i rr rr' found found'
    rw [doSolve_of_storedAt entry ordered] at serves
    split_ifs at serves with young
    cases serves
    simp only [Msg.setTtls, List.getElem?_map, found, Option.map_some] at found'
    cases found'
    have longer : (getTtl msg).toNat ≤ rr.header.ttl.toNat := by
      rcases condition with zero | longer
      · simp [zero]
      · exact UInt32.le_iff_toNat_le.mp (longer rr (List.mem_of_getElem? found))
    have left := left_of_ttl (getTtl msg) (by omega) young
    rw [RR.setTtl_header_ttl]
    constructor
    · omega
    · unfold second at young ⊢
      omega

/-- A CNAME of a day and an address of a minute: the address is served after an hour,
with the TTL of the CNAME. -/
theorem short_ttl_is_stretched :
    let msg : Msg := { answer := [
      .cname ⟨"a.com.".toList, typeCNAME, classINET, 86400⟩ "b.com.".toList,
      .a ⟨"b.com.".toList, typeA, classINET, 60⟩ { b0 := 6 }] }
    let cache := (storeAnswer Recency.empty 0 "a.com.-1".toList (.returned (some msg) none)).2
    (doSolve cache 3600000000000 "a.com.-1".toList).1 = some (msg.setTtls 82800) ∧
      ¬ RespectsTtls "a.com.-1".toList 0 msg := by
  intro msg cache
  have serves : (doSolve cache 3600000000000 "a.com.-1".toList).1 = some (msg.setTtls 82800) := by
    have left : toUInt32 (((getTtl msg).toNat * second - (3600000000000 - 0)).tdiv second) =
        82800 := by decide
    rw [doSolve_of_storedAt (storedAt_store _ _ _ msg) (by decide), if_pos (by decide), left]
  refine ⟨serves, fun respects => ?_⟩
  have bound := (respects cache 3600000000000 _ (storedAt_store _ _ _ _) (by decide) serves 1 _ _
    rfl rfl).2
  exact absurd bound (by decide)

/-! ### From the configuration to the header -/

/-- The header holds the exact number of seconds, and no more than was configured. -/
def ExactTtl (ttl : UInt32) (seconds configured : Int) : Prop :=
  (ttl.toNat : Int) = seconds ∧ (ttl.toNat : Int) ≤ max 0 configured

/-- Nothing wraps from the record to the headers: those of its first answer, and those
of the answers served later from the cache, where no `int64` overflows. -/
structure ExactTtls (question : Question) (hostname : Hostname) (stored checked now : Int)
    (answer : Msg) : Prop where
  first : ∀ rr ∈ answer.answer, ExactTtl rr.header.ttl hostname.ttl hostname.ttl
  cached : ∀ cache served, StoredAt cache (getHostnameKey question) stored answer →
    (doSolveAt cache checked now (getHostnameKey question)).1 = some served →
    ∀ rr ∈ served.answer, ExactTtl rr.header.ttl
      ((hostname.ttl * second - (now - stored)).tdiv second) hostname.ttl
  noOverflow : wrapInt64 ((getTtl answer).toNat * second) = (getTtl answer).toNat * second ∧
    wrapInt64 ((getTtl answer).toNat * second - timeSub now stored) =
      (getTtl answer).toNat * second - timeSub now stored

/-- The local solver answers a record with one record of its TTL. -/
theorem answer_of_hostname {question : Question} {hostname : Hostname} {answer : Msg}
    (answers : getAMsg question hostname = .ok answer ∨ getCnameMsg question hostname = answer) :
    ∃ rr, answer.answer = [rr] ∧ rr.header.ttl = toUInt32 hostname.ttl := by
  rcases answers with address | cname
  · unfold getAMsg at address
    cases read : toIpByteArray {} hostname.ip with
    | error failure => simp [read, bind, Except.bind] at address
    | ok ipArray =>
        simp only [read, bind, Except.bind, pure, Except.pure] at address
        cases address
        exact ⟨_, rfl, rfl⟩
  · subst cname
    exact ⟨_, rfl, rfl⟩

theorem exactTtl_configured_iff (ttl : Int) :
    ExactTtl (toUInt32 ttl) ttl ttl ↔ 0 ≤ ttl ∧ ttl < 4294967296 := by
  rw [ExactTtl, toUInt32_toNat]
  omega

/-- Until a second after the end a header holds what is left of the TTL. -/
theorem exactTtl_left {ttl age : Int} (fits : ttl < 4294967296) (nonneg : 0 ≤ age)
    (young : age < (ttl + 1) * second) :
    ExactTtl (toUInt32 ((ttl * second - age).tdiv second)) ((ttl * second - age).tdiv second)
      ttl := by
  have bounds : 0 ≤ (ttl * second - age).tdiv second ∧
      (ttl * second - age).tdiv second ≤ ttl := by
    apply tdiv_second_bounds
    · unfold second at young ⊢
      omega
    · omega
  rw [ExactTtl, toUInt32_toNat]
  omega

/-- After that no header does, as what is left is negative. -/
theorem ExactTtl.young {value : UInt32} {ttl age configured : Int}
    (exact : ExactTtl value ((ttl * second - age).tdiv second) configured) :
    age < (ttl + 1) * second := by
  by_contra late
  have negative : (ttl * second - age).tdiv second < 0 := by
    apply tdiv_second_neg
    unfold second at late ⊢
    omega
  have held := exact.1
  omega

/-- A TTL comes through unchanged if and only if it fits the header and the second
reading is not a second or more after the end of the entry that the first found valid. -/
theorem exactTtls_iff {question : Question} {hostname : Hostname} {answer : Msg}
    {stored checked now : Int}
    (answers : getAMsg question hostname = .ok answer ∨ getCnameMsg question hostname = answer)
    (ordered : stored ≤ checked) (later : checked ≤ now) :
    ExactTtls question hostname stored checked now answer ↔
      (0 ≤ hostname.ttl ∧ hostname.ttl < 4294967296) ∧
        (checked - stored < hostname.ttl * second →
          now - stored < (hostname.ttl + 1) * second) := by
  obtain ⟨rr, one, ttlEq⟩ := answer_of_hostname answers
  have first : getTtl answer = toUInt32 hostname.ttl := by simp only [getTtl, one, ttlEq]
  have overflow := leftTime_exact (getTtl answer) (Int.le_trans ordered later)
  have serves := fun cache (entry : StoredAt cache (getHostnameKey question) stored answer) =>
    doSolveAt_of_storedAt entry checked now
  simp only [ttl_gt_timeSub_iff _ ordered, overflow] at serves
  constructor
  · intro exact
    have range := (exactTtl_configured_iff _).mp (ttlEq ▸ exact.first rr (by simp [one]))
    have ttl := (exactTtl_configured_iff _).mpr range
    refine ⟨range, fun valid => ?_⟩
    have entry := storedAt_store Recency.empty (getHostnameKey question) stored answer
    have served := serves _ entry
    rw [first, ttl.1, if_pos valid] at served
    have value := exact.cached _ _ entry served _
      (List.mem_map_of_mem (one ▸ List.mem_singleton_self rr))
    exact value.young
  · rintro ⟨range, pause⟩
    have ttl := (exactTtl_configured_iff _).mpr range
    constructor
    · intro rr' member
      rw [one] at member
      cases List.mem_singleton.mp member
      rw [ttlEq]
      exact ttl
    · intro cache served entry served' rr' member
      rw [serves cache entry, first, ttl.1] at served'
      split_ifs at served' with valid
      cases served'
      obtain ⟨source, -, rfl⟩ := List.mem_map.mp member
      have young := pause valid
      have age : timeSub now stored = now - stored := by
        unfold second at young
        simp only [timeSub, minInt64, maxInt64]
        omega
      rw [RR.setTtl_header_ttl, age]
      exact exactTtl_left range.2 (by omega) young
    · exact overflow

/-- A CNAME record with this TTL. -/
def recordOfTtl (ttl : Int) : Hostname where
  id := 1
  hostname := "a.com".toList
  ip := "0.0.0.0".toList
  target := "b.com".toList
  ttl := ttl
  type := EntryType.CNAME

def questionOfA : Question := ⟨"a.com.".toList, typeA, classINET⟩

/-- A minute, read again a nanosecond after it was found valid. -/
theorem exactTtls_minute :
    ExactTtls questionOfA (recordOfTtl 60) 0 5000000000 5000000001
        (getCnameMsg questionOfA (recordOfTtl 60)) ↔
      (0 ≤ (recordOfTtl 60).ttl ∧ (recordOfTtl 60).ttl < 4294967296) ∧
        ((5000000000 : Int) - 0 < (recordOfTtl 60).ttl * second →
          (5000000001 : Int) - 0 < ((recordOfTtl 60).ttl + 1) * second) :=
  exactTtls_iff (Or.inr rfl) (by decide) (by decide)

/-- A negative TTL becomes one of 136 years, and so does a TTL of a second when two
seconds pass between the readings. -/
theorem ttl_wraps :
    ((getCnameMsg questionOfA (recordOfTtl (-1))).answer.map fun rr => rr.header.ttl) =
        [4294967295] ∧
      ¬ ExactTtls questionOfA (recordOfTtl (-1)) 0 0 0
        (getCnameMsg questionOfA (recordOfTtl (-1))) ∧
      ∃ cache served, StoredAt cache (getHostnameKey questionOfA) 0
          (getCnameMsg questionOfA (recordOfTtl 1)) ∧
        (doSolveAt cache 500000000 2500000000 (getHostnameKey questionOfA)).1 = some served ∧
        (served.answer.map fun rr => rr.header.ttl) = [4294967295] ∧
        ¬ ExactTtls questionOfA (recordOfTtl 1) 0 500000000 2500000000
          (getCnameMsg questionOfA (recordOfTtl 1)) := by
  refine ⟨by decide, fun exact => ?_, ?_⟩
  · have value := (exact.first _ (List.mem_singleton_self _)).1
    exact absurd value (by decide)
  · have entry := storedAt_store Recency.empty (getHostnameKey questionOfA) 0
      (getCnameMsg questionOfA (recordOfTtl 1))
    have serves := doSolveAt_of_storedAt entry 500000000 2500000000
    rw [if_pos (by decide)] at serves
    refine ⟨_, _, entry, serves, by decide, fun exact => ?_⟩
    have value := (exact.cached _ _ entry serves _ (List.mem_singleton_self _)).1
    exact absurd value (by decide)

end DnsProxyServer.Proxy
