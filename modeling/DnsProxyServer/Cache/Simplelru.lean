/-
Module: DnsProxyServer.Cache.Simplelru
Purpose: The vendored LRU, a map into a linked list of entries, and that over any sequence of
  cache calls it answers what the store of recent entries answers.
Trusted boundary: translation of lru.go and simplelru/lru.go of the vendored golang-lru and of
  the calls cache/lru/lru.go makes on them; container/list is a list of pointers, a call is
  one atomic step, and there is no eviction callback
Main exports: Simplelru.LRU, Simplelru.LRU.add, Simplelru.LRU.get, Simplelru.LRU.keys,
  Simplelru.Call, Simplelru.LRU.serve, Simplelru.Linked, Simplelru.Implements,
  Simplelru.simplelru_refines_recency
-/
import DnsProxyServer.Cache.Timed
import DnsProxyServer.Lib.FirstMatch

namespace DnsProxyServer.Cache.Simplelru

open Recency (without)

/-! ### The linked list and the map -/

/-- A pointer `*list.Element`. -/
abbrev Element := Nat

structure Entry (κ υ : Type) where
  key : κ
  value : υ

/-- `evictList` has its front first; `value` is what an element points to, and `fresh` is
the element that is allocated next. -/
structure LRU (κ υ : Type) where
  size : Int
  evictList : List Element
  items : List (κ × Element)
  value : Element → Option (Entry κ υ)
  fresh : Element

variable {κ υ : Type} [DecidableEq κ]

def newLRU (size : Int) : Except Failure (LRU κ υ) :=
  if size ≤ 0 then .error (.error "Must provide a positive size".toList)
  else .ok { size := size, evictList := [], items := [], value := fun _ => none, fresh := 0 }

/-- `evictList.MoveToFront`, which leaves the list as it is when the element is not in it. -/
def moveToFront (evictList : List Element) (ent : Element) : List Element :=
  if ent ∈ evictList then ent :: evictList.erase ent else evictList

namespace LRU

/-- `ent.Value.(*entry)`. -/
def entry (c : LRU κ υ) (ent : Element) : Except Failure (Entry κ υ) :=
  match c.value ent with
  | some kv => .ok kv
  | none => .error (.panic .typeAssertion)

/-- The loop deletes each key it meets. -/
def purge (c : LRU κ υ) : LRU κ υ :=
  { c with
    items := c.items.foldl (fun items item => without item.1 items) c.items
    evictList := [] }

def removeElement (c : LRU κ υ) (e : Element) : Except Failure (LRU κ υ) := do
  let kv ← c.entry e
  return { c with evictList := c.evictList.erase e, items := without kv.key c.items }

def removeOldest (c : LRU κ υ) : Except Failure (LRU κ υ) :=
  match c.evictList.getLast? with
  | some ent => c.removeElement ent
  | none => .ok c

/-- Also returns whether an eviction occurred. -/
def add (c : LRU κ υ) (key : κ) (value : υ) : Except Failure (Bool × LRU κ υ) :=
  match c.items.lookup key with
  | some ent => do
      let kv ← c.entry ent
      return (false, { c with
        evictList := moveToFront c.evictList ent
        value := Function.update c.value ent (some { kv with value := value }) })
  | none => do
      let c : LRU κ υ := { c with
        evictList := c.fresh :: c.evictList
        items := (key, c.fresh) :: without key c.items
        value := Function.update c.value c.fresh (some { key := key, value := value })
        fresh := c.fresh + 1 }
      if (c.evictList.length : Int) > c.size then
        let c ← c.removeOldest
        return (true, c)
      else return (false, c)

/-- The value is `none` when the key is not there. -/
def get (c : LRU κ υ) (key : κ) : Except Failure (Option υ × LRU κ υ) :=
  match c.items.lookup key with
  | some ent => do
      let kv ← c.entry ent
      return (some kv.value, { c with evictList := moveToFront c.evictList ent })
  | none => .ok (none, c)

def contains (c : LRU κ υ) (key : κ) : Bool := (c.items.lookup key).isSome

/-- Also returns whether the key was contained. -/
def remove (c : LRU κ υ) (key : κ) : Except Failure (Bool × LRU κ υ) :=
  match c.items.lookup key with
  | some ent => do
      let c ← c.removeElement ent
      return (true, c)
  | none => .ok (false, c)

/-- The loop of `Keys`, from the back of the list on. -/
def fillKeys (c : LRU κ υ) : List Element → Nat → List (Option κ) →
    Except Failure (List (Option κ))
  | [], _, keys => .ok keys
  | ent :: rest, i, keys => do
      let kv ← c.entry ent
      if i < keys.length then c.fillKeys rest (i + 1) (keys.set i (some kv.key))
      else .error (.panic .indexOutOfRange)

/-- The slice has a nil for each item of the map before the loop fills it. -/
def keys (c : LRU κ υ) : Except Failure (List (Option κ)) :=
  c.fillKeys c.evictList.reverse 0 (List.replicate c.items.length none)

def len (c : LRU κ υ) : Nat := c.evictList.length

/-- Returns whether the key was found. -/
def containsOrAdd (c : LRU κ υ) (key : κ) (value : υ) : Except Failure (Bool × LRU κ υ) :=
  if c.contains key then .ok (true, c)
  else do
    let (_, c) ← c.add key value
    return (false, c)

end LRU

/-! ### The calls of package lru -/

/-- The methods of `cache.Cache`. -/
inductive Call (κ υ : Type) where
  | containsKey (key : κ)
  | get (key : κ)
  | put (key : κ) (value : υ)
  | putIfAbsent (key : κ) (value : υ)
  | clear
  | remove (key : κ)
  | keySet
  | size

inductive Reply (κ υ : Type) where
  | done
  | flag (b : Bool)
  | value (v : Option υ)
  | keys (keys : List (Option κ))
  | count (n : Nat)
deriving DecidableEq

def LRU.call (c : LRU κ υ) : Call κ υ → Except Failure (Reply κ υ × LRU κ υ)
  | .containsKey key => .ok (.flag (c.contains key), c)
  | .get key => do
      let (v, c) ← c.get key
      return (.value v, c)
  | .put key value => do
      let (_, c) ← c.add key value
      return (.done, c)
  | .putIfAbsent key value => do
      let (ok, c) ← c.containsOrAdd key value
      if ok then
        let (v, c) ← c.get key
        return (.value v, c)
      else return (.value none, c)
  | .clear => .ok (.done, c.purge)
  | .remove key => do
      let (_, c) ← c.remove key
      return (.done, c)
  | .keySet => do
      let keys ← c.keys
      return (.keys keys, c)
  | .size => .ok (.count c.len, c)

/-- The replies to a sequence of calls. -/
def LRU.serve (c : LRU κ υ) : List (Call κ υ) → Except Failure (List (Reply κ υ) × LRU κ υ)
  | [] => .ok ([], c)
  | call :: calls => do
      let (reply, c) ← c.call call
      let (replies, c) ← c.serve calls
      return (reply :: replies, c)

variable {size : Nat}

/-- The calls on the store of recent entries; the keys are listed from the oldest on. -/
def recentCall (c : LRUCache κ υ size) : Call κ υ → Reply κ υ × LRUCache κ υ size
  | .containsKey key => (.flag (c.containsKey key), c)
  | .get key => (.value (c.get key).1, (c.get key).2)
  | .put key value => (.done, c.put key value)
  | .putIfAbsent key value => (.value (c.putIfAbsent key value).1, (c.putIfAbsent key value).2)
  | .clear => (.done, c.clear)
  | .remove key => (.done, LRUCache.remove c key)
  | .keySet => (.keys ((c.entries.map Prod.fst).reverse.map some), c)
  | .size => (.count c.entries.length, c)

def recentServe (c : LRUCache κ υ size) :
    List (Call κ υ) → List (Reply κ υ) × LRUCache κ υ size
  | [] => ([], c)
  | call :: calls =>
      let (reply, c) := recentCall c call
      let (replies, c) := recentServe c calls
      (reply :: replies, c)

/-! ### The map leads into the list -/

/-- The list has these nodes, an element with the key and value it points to, and the map
leads from each key to its element. -/
structure Linked (l : LRU κ υ) (nodes : List (Element × κ × υ)) : Prop where
  evictList : l.evictList = nodes.map Prod.fst
  elements : (nodes.map Prod.fst).Nodup
  keys : (nodes.map fun node => node.2.1).Nodup
  allocated : ∀ node ∈ nodes, node.1 < l.fresh
  value : ∀ node ∈ nodes, l.value node.1 = some ⟨node.2.1, node.2.2⟩
  items : ∀ key e, l.items.lookup key = some e ↔ ∃ v, (e, key, v) ∈ nodes
  itemKeys : (l.items.map Prod.fst).Nodup

/-- The nodes without that of a key. -/
def others (k : κ) (nodes : List (Element × κ × υ)) : List (Element × κ × υ) :=
  nodes.filter fun node => node.2.1 ≠ k

theorem mem_others {k : κ} {nodes : List (Element × κ × υ)} {node : Element × κ × υ} :
    node ∈ others k nodes ↔ node ∈ nodes ∧ node.2.1 ≠ k := by
  simp [others]

theorem others_map_snd (k : κ) (nodes : List (Element × κ × υ)) :
    (others k nodes).map Prod.snd = without k (nodes.map Prod.snd) := by
  simp [others, without, List.filter_map, Function.comp_def]

namespace Linked

variable {l : LRU κ υ} {nodes : List (Element × κ × υ)} {e : Element} {k : κ} {v : υ}

/-- A node has the element exactly when it has the key. -/
theorem same_iff (linked : Linked l nodes) (member : (e, k, v) ∈ nodes)
    {node : Element × κ × υ} (also : node ∈ nodes) : node.1 = e ↔ node.2.1 = k := by
  constructor
  · intro same
    rw [List.inj_on_of_nodup_map linked.elements also member same]
  · intro same
    rw [List.inj_on_of_nodup_map linked.keys also member same]

theorem entry_eq (linked : Linked l nodes) (member : (e, k, v) ∈ nodes) :
    l.entry e = .ok ⟨k, v⟩ := by
  unfold LRU.entry
  rw [linked.value _ member]

/-- Taking an element out of the list takes out the node of its key. -/
theorem erase_eq (linked : Linked l nodes) (member : (e, k, v) ∈ nodes) :
    l.evictList.erase e = (others k nodes).map Prod.fst := by
  rw [linked.evictList, linked.elements.erase_eq_filter, List.filter_map, others]
  apply congrArg
  apply List.filter_congr
  intro node also
  by_cases here : node.1 = e
  · simp [here, (linked.same_iff member also).mp here]
  · simp [here, mt (linked.same_iff member also).mpr here]

theorem others_keys (linked : Linked l nodes) (k : κ) :
    ((others k nodes).map fun node => node.2.1).Nodup :=
  linked.keys.sublist (List.filter_sublist.map _)

theorem others_elements (linked : Linked l nodes) (k : κ) :
    ((others k nodes).map Prod.fst).Nodup :=
  linked.elements.sublist (List.filter_sublist.map _)

theorem removeElement (linked : Linked l nodes) (member : (e, k, v) ∈ nodes) :
    ∃ l', l.removeElement e = .ok l' ∧ l'.size = l.size ∧ Linked l' (others k nodes) := by
  refine ⟨{ l with evictList := l.evictList.erase e, items := without k l.items }, ?_, rfl, ?_⟩
  · simp only [LRU.removeElement, linked.entry_eq member]
    rfl
  · constructor
    · exact linked.erase_eq member
    · exact linked.others_elements k
    · exact linked.others_keys k
    · exact fun node also => linked.allocated node (mem_others.mp also).1
    · exact fun node also => linked.value node (mem_others.mp also).1
    · intro key e'
      rw [Recency.lookup_without]
      split_ifs with same
      · simp [mem_others, same]
      · simp [linked.items, mem_others, same]
    · exact Recency.nodup_without linked.itemKeys

/-- An element that is used, with the value it then has, comes to the front. -/
theorem use (linked : Linked l nodes) (member : (e, k, v) ∈ nodes) (w : υ) :
    Linked { l with
      evictList := moveToFront l.evictList e
      value := Function.update l.value e (some ⟨k, w⟩) } ((e, k, w) :: others k nodes) := by
  have inList : e ∈ l.evictList := by
    rw [linked.evictList]
    exact List.mem_map_of_mem member
  have apart : ∀ node ∈ others k nodes, node.1 ≠ e := by
    intro node also same
    rw [mem_others] at also
    exact also.2 ((linked.same_iff member also.1).mp same)
  constructor
  · simp only [moveToFront, if_pos inList, linked.erase_eq member, List.map_cons]
  · rw [List.map_cons, List.nodup_cons]
    refine ⟨?_, linked.others_elements k⟩
    intro again
    obtain ⟨node, also, same⟩ := List.mem_map.mp again
    exact apart node also same
  · rw [List.map_cons, List.nodup_cons]
    refine ⟨?_, linked.others_keys k⟩
    simp [others]
  · intro node also
    rcases List.mem_cons.mp also with rfl | later
    · exact linked.allocated (e, k, v) member
    · exact linked.allocated node (mem_others.mp later).1
  · intro node also
    rcases List.mem_cons.mp also with rfl | later
    · simp
    · simp only [Function.update_of_ne (apart node later)]
      exact linked.value node (mem_others.mp later).1
  · intro key e'
    rw [linked.items]
    by_cases same : key = k
    · subst same
      simp only [List.mem_cons, Prod.mk.injEq, true_and, mem_others, ne_eq, not_true_eq_false,
        and_false, or_false]
      constructor
      · rintro ⟨v', also⟩
        exact ⟨w, (linked.same_iff member also).mpr rfl, rfl⟩
      · rintro ⟨-, rfl, -⟩
        exact ⟨v, member⟩
    · simp [mem_others, same]
  · exact linked.itemKeys

/-- A key that the map does not lead from gets a new element, in front. -/
theorem push (linked : Linked l nodes) (absent : l.items.lookup k = none) (v : υ) :
    Linked { l with
      evictList := l.fresh :: l.evictList
      items := (k, l.fresh) :: without k l.items
      value := Function.update l.value l.fresh (some ⟨k, v⟩)
      fresh := l.fresh + 1 } ((l.fresh, k, v) :: nodes) := by
  have apart : ∀ node ∈ nodes, node.1 ≠ l.fresh := fun node also =>
    Nat.ne_of_lt (linked.allocated node also)
  have unlisted : ∀ node ∈ nodes, node.2.1 ≠ k := by
    intro node also same
    have found := (linked.items k node.1).mpr ⟨node.2.2, by rw [← same]; exact also⟩
    cases absent.symm.trans found
  constructor
  · rw [List.map_cons, linked.evictList]
  · rw [List.map_cons, List.nodup_cons]
    refine ⟨?_, linked.elements⟩
    intro again
    obtain ⟨node, also, same⟩ := List.mem_map.mp again
    exact apart node also same
  · rw [List.map_cons, List.nodup_cons]
    refine ⟨?_, linked.keys⟩
    intro again
    obtain ⟨node, also, same⟩ := List.mem_map.mp again
    exact unlisted node also same
  · intro node also
    rcases List.mem_cons.mp also with rfl | later
    · exact Nat.lt_succ_self _
    · exact Nat.lt_succ_of_lt (linked.allocated node later)
  · intro node also
    rcases List.mem_cons.mp also with rfl | later
    · simp
    · simp only [Function.update_of_ne (apart node later)]
      exact linked.value node later
  · intro key e'
    by_cases same : key = k
    · subst same
      simp only [List.lookup_cons_self, Option.some.injEq, List.mem_cons, Prod.mk.injEq, true_and]
      constructor
      · rintro rfl
        exact ⟨v, Or.inl ⟨rfl, rfl⟩⟩
      · rintro ⟨v', ⟨rfl, -⟩ | also⟩
        · rfl
        · exact absurd rfl (unlisted _ also)
    · rw [Recency.lookup_cons_ne same, Recency.lookup_without, if_neg same, linked.items]
      simp [same]
  · rw [List.map_cons, List.nodup_cons]
    exact ⟨Recency.not_mem_without k _, Recency.nodup_without linked.itemKeys⟩

/-- The map has as many items as the list has nodes. -/
theorem items_length (linked : Linked l nodes) : l.items.length = nodes.length := by
  have perm : (l.items.map Prod.fst).Perm (nodes.map fun node => node.2.1) := by
    apply (List.perm_ext_iff_of_nodup linked.itemKeys linked.keys).mpr
    intro key
    constructor
    · intro listed
      obtain ⟨e, found⟩ := Option.ne_none_iff_exists'.mp (Recency.lookup_ne_none_of_mem listed)
      obtain ⟨v, member⟩ := (linked.items key e).mp found
      exact List.mem_map.mpr ⟨_, member, rfl⟩
    · intro member
      obtain ⟨node, also, rfl⟩ := List.mem_map.mp member
      exact Recency.mem_keys_of_lookup ((linked.items node.2.1 node.1).mpr ⟨node.2.2, also⟩)
  simpa using perm.length_eq

end Linked

/-! ### Each call -/

/-- The list has the entries of the store, in the same order. -/
structure Implements (l : LRU κ υ) (c : LRUCache κ υ size) : Prop where
  size : l.size = size
  linked : ∃ nodes, Linked l nodes ∧ nodes.map Prod.snd = c.entries

namespace Linked

variable {l : LRU κ υ} {nodes : List (Element × κ × υ)} {c : LRUCache κ υ size}

theorem peek_iff (entries : nodes.map Prod.snd = c.entries) {key : κ} {v : υ} :
    Recency.peek c key = some v ↔ ∃ e, (e, key, v) ∈ nodes := by
  rw [Recency.peek, FirstMatch.lookup_eq_some_iff_mem c.nodup, ← entries]
  simp

/-- The map leads from the keys of the store. -/
theorem lookup_cases (linked : Linked l nodes) (entries : nodes.map Prod.snd = c.entries)
    (key : κ) :
    (∃ e v, l.items.lookup key = some e ∧ (e, key, v) ∈ nodes ∧ Recency.peek c key = some v) ∨
      l.items.lookup key = none ∧ Recency.peek c key = none := by
  cases found : l.items.lookup key with
  | some e =>
      obtain ⟨v, member⟩ := (linked.items key e).mp found
      exact Or.inl ⟨e, v, rfl, member, (peek_iff entries).mpr ⟨e, member⟩⟩
  | none =>
      apply Or.inr
      constructor
      · rfl
      · cases under : Recency.peek c key with
        | none => rfl
        | some v =>
            obtain ⟨e, member⟩ := (peek_iff entries).mp under
            cases found.symm.trans ((linked.items key e).mpr ⟨v, member⟩)

/-- The oldest node is the last one. -/
theorem removeOldest {init : List (Element × κ × υ)} {oldest : Element × κ × υ}
    (linked : Linked l (init ++ [oldest])) :
    ∃ l', l.removeOldest = .ok l' ∧ l'.size = l.size ∧ Linked l' init := by
  have last : l.evictList.getLast? = some oldest.1 := by
    rw [linked.evictList]
    simp
  have kept : others oldest.2.1 (init ++ [oldest]) = init := by
    have keys := linked.keys
    rw [List.map_append, List.nodup_append] at keys
    rw [others, List.filter_append, List.filter_eq_self.mpr]
    · simp
    · intro node member
      have apart := keys.2.2 node.2.1 (List.mem_map_of_mem member) oldest.2.1 (by simp)
      exact decide_eq_true apart
  have removed := linked.removeElement (e := oldest.1) (k := oldest.2.1) (v := oldest.2.2)
    (by simp)
  rw [kept] at removed
  unfold LRU.removeOldest
  rw [last]
  exact removed

end Linked

namespace Implements

variable {l : LRU κ υ} {c : LRUCache κ υ size}

theorem contains_eq (implements : Implements l c) (key : κ) :
    l.contains key = LRUCache.containsKey c key := by
  obtain ⟨nodes, linked, entries⟩ := implements.linked
  unfold LRU.contains LRUCache.containsKey Recency.contains
  rcases linked.lookup_cases entries key with ⟨e, v, found, -, under⟩ | ⟨found, under⟩
  · rw [found, under]
    rfl
  · rw [found, under]
    rfl

/-- A key that is there comes to the front; a new one pushes out the oldest when the list
has become too long. -/
theorem add (implements : Implements l c) (key : κ) (value : υ) :
    ∃ evict l', l.add key value = .ok (evict, l') ∧ Implements l' (Recency.add c key value) := by
  obtain ⟨nodes, linked, entries⟩ := implements.linked
  unfold LRU.add
  rcases linked.lookup_cases entries key with ⟨e, v, found, member, under⟩ | ⟨found, under⟩
  · have present : key ∈ c.entries.map Prod.fst := Recency.mem_keys_of_lookup under
    simp only [found, linked.entry_eq member]
    refine ⟨false, _, rfl, implements.size, _, linked.use member value, ?_⟩
    rw [List.map_cons, others_map_snd, entries, Recency.entries_add_of_mem present]
  · have absent : key ∉ c.entries.map Prod.fst := fun present =>
      Recency.peek_ne_none_iff.mpr present under
    have pushed := linked.push found value
    have added : (Recency.add c key value).entries =
        (((l.fresh, key, value) :: nodes).map Prod.snd).take size := by
      rw [Recency.entries_add_of_not_mem absent, List.map_cons, entries]
    have length : nodes.length = c.entries.length := by rw [← entries, List.length_map]
    have bounded := c.bounded
    simp only [found]
    split_ifs with tooLong
    · rw [List.length_cons, linked.evictList, List.length_map, implements.size] at tooLong
      rcases List.eq_nil_or_concat' ((l.fresh, key, value) :: nodes) with none | ⟨init, oldest, split⟩
      · cases none
      · rw [split] at pushed added
        have whole : init.length = size := by
          have lengths := congrArg List.length split
          rw [List.length_cons, List.length_append, List.length_singleton] at lengths
          omega
        obtain ⟨l', removed, sizes, rest⟩ := pushed.removeOldest
        rw [removed]
        refine ⟨true, l', rfl, sizes.trans implements.size, init, rest, ?_⟩
        rw [added, List.map_append, List.take_left']
        rw [List.length_map, whole]
    · rw [List.length_cons, linked.evictList, List.length_map, implements.size] at tooLong
      refine ⟨false, _, rfl, implements.size, _, pushed, ?_⟩
      rw [added, List.take_of_length_le]
      rw [List.length_map, List.length_cons]
      omega

theorem get (implements : Implements l c) (key : κ) :
    ∃ l', l.get key = .ok (Recency.peek c key, l') ∧ Implements l' (Recency.touch c key) := by
  obtain ⟨nodes, linked, entries⟩ := implements.linked
  unfold LRU.get Recency.touch
  rcases linked.lookup_cases entries key with ⟨e, v, found, member, under⟩ | ⟨found, under⟩
  · have present : key ∈ c.entries.map Prod.fst := Recency.mem_keys_of_lookup under
    have used := linked.use member v
    rw [← linked.value _ member, Function.update_eq_self] at used
    simp only [found, linked.entry_eq member, under]
    refine ⟨_, rfl, implements.size, _, used, ?_⟩
    rw [List.map_cons, others_map_snd, entries, Recency.entries_add_of_mem present]
  · simp only [found, under]
    exact ⟨l, rfl, implements⟩

theorem remove (implements : Implements l c) (key : κ) :
    ∃ found l', l.remove key = .ok (found, l') ∧ Implements l' (Recency.remove c key) := by
  obtain ⟨nodes, linked, entries⟩ := implements.linked
  unfold LRU.remove
  rcases linked.lookup_cases entries key with ⟨e, v, found, member, under⟩ | ⟨found, under⟩
  · obtain ⟨l', removed, sizes, rest⟩ := linked.removeElement member
    simp only [found, removed]
    refine ⟨true, l', rfl, sizes.trans implements.size, _, rest, ?_⟩
    rw [others_map_snd, entries]
    rfl
  · have absent : key ∉ c.entries.map Prod.fst := fun present =>
      Recency.peek_ne_none_iff.mpr present under
    have same : without key c.entries = c.entries := by
      apply List.filter_eq_self.mpr
      intro entry member
      apply decide_eq_true
      rintro rfl
      exact absent (List.mem_map_of_mem member)
    simp only [found]
    refine ⟨false, l, rfl, implements.size, nodes, linked, ?_⟩
    rw [entries]
    exact same.symm

/-- The loop over the map empties it. -/
theorem purge (implements : Implements l c) : Implements l.purge (Recency.purge c) := by
  have emptied : ∀ items rest : List (κ × Element),
      (∀ item ∈ rest, item.1 ∈ items.map Prod.fst) →
        items.foldl (fun rest item => without item.1 rest) rest = [] := by
    intro items
    induction items with
    | nil =>
        intro rest among
        apply List.eq_nil_iff_forall_not_mem.mpr
        intro item member
        cases among item member
    | cons first items inductionHypothesis =>
        intro rest among
        apply inductionHypothesis
        intro item member
        obtain ⟨inRest, differs⟩ := List.mem_filter.mp member
        rcases List.mem_cons.mp (among item inRest) with same | later
        · exact absurd same (of_decide_eq_true differs)
        · exact later
  have none : l.purge.items = [] := emptied l.items l.items fun _ => List.mem_map_of_mem
  refine ⟨implements.size, [], ?_, rfl⟩
  constructor
  · rfl
  · exact List.nodup_nil
  · exact List.nodup_nil
  · simp
  · simp
  · simp [none]
  · simp [none]

/-- The slice is as long as the list, and is filled from the back. -/
theorem fillKeys_eq {nodes : List (Element × κ × υ)} (linked : Linked l nodes) :
    ∀ (left : List (Element × κ × υ)) (filled : List (Option κ)), left ⊆ nodes →
      l.fillKeys (left.map Prod.fst) filled.length
          (filled ++ List.replicate left.length none) =
        .ok (filled ++ left.map fun node => some node.2.1) := by
  intro left
  induction left with
  | nil =>
      intro filled _
      simp [LRU.fillKeys]
  | cons node left inductionHypothesis =>
      intro filled among
      have here : node ∈ nodes := among List.mem_cons_self
      have entry : l.entry node.1 = .ok ⟨node.2.1, node.2.2⟩ := linked.entry_eq here
      have next := inductionHypothesis (filled ++ [some node.2.1])
        (List.subset_of_cons_subset among)
      have inside : filled.length < (filled ++ List.replicate (node :: left).length none).length := by
        simp
      have written : (filled ++ List.replicate (node :: left).length none).set filled.length
          (some node.2.1) = (filled ++ [some node.2.1]) ++ List.replicate left.length none := by
        simp [List.replicate_succ]
      simp only [List.map_cons, LRU.fillKeys, entry, bind, Except.bind, if_pos inside, written]
      rw [List.length_append, List.length_singleton] at next
      rw [next, List.append_assoc]
      rfl

theorem keys_eq (implements : Implements l c) :
    l.keys = .ok ((c.entries.map Prod.fst).reverse.map some) := by
  obtain ⟨nodes, linked, entries⟩ := implements.linked
  have filled := fillKeys_eq linked nodes.reverse [] (by simp)
  unfold LRU.keys
  rw [linked.evictList, linked.items_length, ← List.map_reverse]
  simpa [← entries, Function.comp_def] using filled

theorem len_eq (implements : Implements l c) : l.len = c.entries.length := by
  obtain ⟨nodes, linked, entries⟩ := implements.linked
  rw [LRU.len, linked.evictList, ← entries, List.length_map, List.length_map]

/-- Each call is answered as the store answers it. -/
theorem call (implements : Implements l c) (call : Call κ υ) :
    ∃ l', l.call call = .ok ((recentCall c call).1, l') ∧ Implements l' (recentCall c call).2 := by
  cases call with
  | containsKey key =>
      refine ⟨l, ?_, implements⟩
      rw [LRU.call, implements.contains_eq]
      rfl
  | get key =>
      obtain ⟨l', got, implements'⟩ := implements.get key
      refine ⟨l', ?_, implements'⟩
      rw [LRU.call, got]
      rfl
  | put key value =>
      obtain ⟨evict, l', added, implements'⟩ := implements.add key value
      refine ⟨l', ?_, implements'⟩
      rw [LRU.call, added]
      rfl
  | putIfAbsent key value =>
      simp only [LRU.call, LRU.containsOrAdd, recentCall, LRUCache.putIfAbsent,
        implements.contains_eq, LRUCache.containsKey]
      split_ifs with present
      · obtain ⟨l', got, implements'⟩ := implements.get key
        refine ⟨l', ?_, implements'⟩
        simp only [bind, Except.bind, if_true, got]
        rfl
      · obtain ⟨evict, l', added, implements'⟩ := implements.add key value
        refine ⟨l', ?_, implements'⟩
        simp only [bind, Except.bind, added]
        rfl
  | clear => exact ⟨l.purge, rfl, implements.purge⟩
  | remove key =>
      obtain ⟨found, l', removed, implements'⟩ := implements.remove key
      refine ⟨l', ?_, implements'⟩
      rw [LRU.call, removed]
      rfl
  | keySet =>
      refine ⟨l, ?_, implements⟩
      rw [LRU.call, implements.keys_eq]
      rfl
  | size =>
      refine ⟨l, ?_, implements⟩
      rw [LRU.call, implements.len_eq]
      rfl

theorem serve (implements : Implements l c) (calls : List (Call κ υ)) :
    ∃ l', l.serve calls = .ok ((recentServe c calls).1, l') ∧
      Implements l' (recentServe c calls).2 := by
  induction calls generalizing l c with
  | nil => exact ⟨l, rfl, implements⟩
  | cons first calls inductionHypothesis =>
      obtain ⟨t, answered, next⟩ := implements.call first
      obtain ⟨l', later, last⟩ := inductionHypothesis next
      refine ⟨l', ?_, last⟩
      simp only [LRU.serve, answered, later, bind, Except.bind]
      rfl

end Implements

/-- For every size the constructor accepts and every sequence of calls: no call panics, each
is answered as the store of recent entries answers it, and in the end the list and the map
hold the entries of that store. -/
theorem simplelru_refines_recency (positive : 0 < size) (calls : List (Call κ υ)) :
    ∃ start l, newLRU (size : Int) = .ok start ∧
      start.serve calls =
        .ok ((recentServe (Recency.empty : LRUCache κ υ size) calls).1, l) ∧
      Implements l (recentServe (Recency.empty : LRUCache κ υ size) calls).2 := by
  have accepted : ¬ (size : Int) ≤ 0 := by omega
  have start : Implements (⟨size, [], [], fun _ => none, 0⟩ : LRU κ υ)
      (Recency.empty : LRUCache κ υ size) := by
    refine ⟨rfl, [], ?_, rfl⟩
    constructor <;> simp
  obtain ⟨l, served, implements⟩ := start.serve calls
  refine ⟨_, l, ?_, served, implements⟩
  rw [newLRU, if_neg accepted]

/-- In a store for two, the third key pushes out the one that was not read again. -/
def threeKeys : List (Call GoString Nat) :=
  [.put "a".toList 1, .put "b".toList 2, .get "a".toList, .put "c".toList 3, .keySet,
    .containsKey "b".toList, .putIfAbsent "c".toList 4]

theorem simplelru_refines_recency_threeKeys :
    ∃ start l, newLRU ((2 : Nat) : Int) = .ok start ∧
      start.serve threeKeys = .ok ([.done, .done, .value (some 1), .done,
        .keys [some "a".toList, some "c".toList], .flag false, .value (some 3)], l) := by
  obtain ⟨start, l, built, served, -⟩ := simplelru_refines_recency (show 0 < 2 by decide) threeKeys
  exact ⟨start, l, built, served⟩

end DnsProxyServer.Cache.Simplelru
