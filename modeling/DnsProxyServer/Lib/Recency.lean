/-
Module: DnsProxyServer.Lib.Recency
Purpose: A bounded store that forgets its least recently used entry, and when it
  behaves as a map that forgets nothing.
Trusted boundary: none
Main exports: Recency, Recency.peek, Recency.touch, Recency.add, Recency.remove,
  Recency.purge, Recency.peek_add_of_room, Recency.evicted, Recency.peek_add_of_ne,
  Recency.peek_add_add, Recency.room_of_keys, Recency.Behind, Recency.Behind.peek,
  Recency.Behind.add, Recency.Behind.touch, Recency.Behind.remove, Recency.entries_touch,
  Recency.touch_all, Recency.SameBut, Recency.SameBut.add, Recency.SameBut.touch
-/
import Mathlib.Data.List.Induction
import Mathlib.Data.List.Nodup
import Mathlib.Data.List.Perm.Subperm

/-- Entries with the most recently used first; keys are distinct and at most `size`. -/
structure Recency (κ υ : Type*) (size : Nat) where
  entries : List (κ × υ)
  nodup : (entries.map Prod.fst).Nodup
  bounded : entries.length ≤ size

namespace Recency

variable {κ υ : Type*} [DecidableEq κ] {size : Nat}

/-! ### Association lists -/

def without (k : κ) (l : List (κ × υ)) : List (κ × υ) := l.filter fun entry => entry.1 ≠ k

theorem lookup_cons_ne {k k' : κ} (differs : k' ≠ k) (v : υ) (l : List (κ × υ)) :
    ((k, v) :: l).lookup k' = l.lookup k' := by
  have notSame : (k' == k) = false := by simpa using differs
  simp [List.lookup_cons, notSame]

theorem lookup_without (k k' : κ) (l : List (κ × υ)) :
    (without k l).lookup k' = if k' = k then none else l.lookup k' := by
  induction l with
  | nil => simp [without]
  | cons entry rest inductionHypothesis =>
      obtain ⟨x, v⟩ := entry
      by_cases dropped : x = k
      · have shorter : without k ((x, v) :: rest) = without k rest := by simp [without, dropped]
        rw [shorter, inductionHypothesis]
        split_ifs with same
        · rfl
        · rw [lookup_cons_ne fun hit => same (hit.trans dropped)]
      · have kept : without k ((x, v) :: rest) = (x, v) :: without k rest := by
          simp [without, dropped]
        rw [kept]
        by_cases hit : k' = x
        · subst hit
          simp [dropped]
        · rw [lookup_cons_ne hit, lookup_cons_ne hit, inductionHypothesis]

theorem mem_keys_of_lookup {l : List (κ × υ)} {k : κ} {v : υ} (found : l.lookup k = some v) :
    k ∈ l.map Prod.fst := by
  induction l with
  | nil => simp at found
  | cons entry rest inductionHypothesis =>
      obtain ⟨x, w⟩ := entry
      by_cases hit : k = x
      · simp [hit]
      · rw [lookup_cons_ne hit] at found
        exact List.mem_cons_of_mem _ (inductionHypothesis found)

theorem lookup_ne_none_of_mem {l : List (κ × υ)} {k : κ} (member : k ∈ l.map Prod.fst) :
    l.lookup k ≠ none := by
  induction l with
  | nil => simp at member
  | cons entry rest inductionHypothesis =>
      obtain ⟨x, w⟩ := entry
      by_cases hit : k = x
      · simp [hit]
      · rw [lookup_cons_ne hit]
        exact inductionHypothesis (List.mem_of_ne_of_mem hit member)

/-- Cutting entries off the end can only lose keys. -/
theorem lookup_take {l : List (κ × υ)} {k : κ} {v : υ} :
    ∀ {n : Nat}, (l.take n).lookup k = some v → l.lookup k = some v := by
  induction l with
  | nil => simp
  | cons entry rest inductionHypothesis =>
      intro n found
      obtain ⟨x, w⟩ := entry
      cases n with
      | zero => simp at found
      | succ n =>
          rw [List.take_succ_cons] at found
          by_cases hit : k = x
          · subst hit
            simpa using found
          · rw [lookup_cons_ne hit] at found ⊢
            exact inductionHypothesis found

theorem nodup_without {k : κ} {l : List (κ × υ)} (nodup : (l.map Prod.fst).Nodup) :
    ((without k l).map Prod.fst).Nodup :=
  nodup.sublist (List.filter_sublist.map Prod.fst)

theorem not_mem_without (k : κ) (l : List (κ × υ)) : k ∉ (without k l).map Prod.fst := by
  simp [without]

theorem length_without_lt {k : κ} {l : List (κ × υ)} (member : k ∈ l.map Prod.fst) :
    (without k l).length < l.length := by
  obtain ⟨entry, entryMember, rfl⟩ := List.mem_map.mp member
  exact List.length_filter_lt_length_iff_exists.mpr ⟨entry, entryMember, by simp⟩

/-! ### Operations -/

def empty : Recency κ υ size where
  entries := []
  nodup := List.nodup_nil
  bounded := Nat.zero_le _

/-- The value under a key, its recency unchanged. -/
def peek (c : Recency κ υ size) (k : κ) : Option υ := c.entries.lookup k

def contains (c : Recency κ υ size) (k : κ) : Bool := (c.peek k).isSome

/-- Put a value under a key, in front; a new key in a full store pushes the last
entry out. -/
def add (c : Recency κ υ size) (k : κ) (v : υ) : Recency κ υ size :=
  if member : k ∈ c.entries.map Prod.fst then
    { entries := (k, v) :: without k c.entries
      nodup := List.nodup_cons.mpr ⟨not_mem_without k _, nodup_without c.nodup⟩
      bounded := Nat.le_trans (length_without_lt member) c.bounded }
  else
    { entries := ((k, v) :: c.entries).take size
      nodup := (List.nodup_cons.mpr ⟨member, c.nodup⟩).sublist
        ((List.take_sublist size _).map Prod.fst)
      bounded := List.length_take_le _ _ }

/-- Make a key the most recently used one. -/
def touch (c : Recency κ υ size) (k : κ) : Recency κ υ size :=
  match c.peek k with
  | none => c
  | some v => c.add k v

def remove (c : Recency κ υ size) (k : κ) : Recency κ υ size where
  entries := without k c.entries
  nodup := nodup_without c.nodup
  bounded := Nat.le_trans (List.length_filter_le _ _) c.bounded

def purge (_ : Recency κ υ size) : Recency κ υ size := empty

@[simp] theorem peek_empty (k : κ) : (empty : Recency κ υ size).peek k = none := rfl

@[simp] theorem peek_purge (c : Recency κ υ size) (k : κ) : c.purge.peek k = none := rfl

@[simp] theorem peek_remove (c : Recency κ υ size) (k k' : κ) :
    (c.remove k).peek k' = if k' = k then none else c.peek k' :=
  lookup_without k k' c.entries

theorem contains_iff {c : Recency κ υ size} {k : κ} :
    c.contains k = true ↔ ∃ v, c.peek k = some v := Option.isSome_iff_exists

theorem contains_congr {c c' : Recency κ υ size} {k : κ} (same : c'.peek k = c.peek k) :
    c'.contains k = c.contains k := congrArg Option.isSome same

theorem peek_ne_none_iff {c : Recency κ υ size} {k : κ} :
    c.peek k ≠ none ↔ k ∈ c.entries.map Prod.fst := by
  refine ⟨fun found => ?_, lookup_ne_none_of_mem⟩
  obtain ⟨v, value⟩ := Option.ne_none_iff_exists'.mp found
  exact mem_keys_of_lookup value

/-- Adding a key that is there, or with room left, loses nothing. -/
theorem peek_add_of_room {c : Recency κ υ size} {k : κ}
    (room : c.peek k ≠ none ∨ c.entries.length < size) (v : υ) (k' : κ) :
    (c.add k v).peek k' = if k' = k then some v else c.peek k' := by
  have cons : ∀ l : List (κ × υ), ((k, v) :: l).lookup k' =
      if k' = k then some v else l.lookup k' := by
    intro l
    split_ifs with same
    · rw [same, List.lookup_cons_self]
    · exact lookup_cons_ne same v l
  by_cases member : k ∈ c.entries.map Prod.fst
  · simp only [add, dif_pos member, peek, cons, lookup_without]
    split_ifs <;> rfl
  · have fits : ((k, v) :: c.entries).length ≤ size :=
      room.resolve_left fun found => member (peek_ne_none_iff.mp found)
    simp only [add, dif_neg member, peek, List.take_of_length_le fits, cons]

/-- What is found after an `add` was put by it or was there before. -/
theorem peek_of_peek_add {c : Recency κ υ size} {k k' : κ} {v v' : υ}
    (found : (c.add k v).peek k' = some v') :
    (k' = k ∧ v' = v) ∨ (k' ≠ k ∧ c.peek k' = some v') := by
  have first : ∀ l : List (κ × υ), ((k, v) :: l).lookup k' = some v' →
      (k' = k ∧ v' = v) ∨ (k' ≠ k ∧ l.lookup k' = some v') := by
    intro l hit
    by_cases same : k' = k
    · rw [same, List.lookup_cons_self] at hit
      exact Or.inl ⟨same, (Option.some.inj hit).symm⟩
    · exact Or.inr ⟨same, by rwa [lookup_cons_ne same] at hit⟩
  unfold add peek at found
  split_ifs at found with member
  · refine (first _ found).imp id fun ⟨differs, later⟩ => ⟨differs, ?_⟩
    rwa [lookup_without, if_neg differs] at later
  · exact first _ (lookup_take found)

/-- The key a new entry pushes out: the last one, when the key is not there and the store
is full. -/
def evicted (c : Recency κ υ size) (k : κ) : Option κ :=
  if k ∈ c.entries.map Prod.fst ∨ c.entries.length < size then none
  else (c.entries.map Prod.fst).getLast?

theorem lookup_dropLast {l : List (κ × υ)} (nodup : (l.map Prod.fst).Nodup) (k : κ) :
    l.dropLast.lookup k = if (l.map Prod.fst).getLast? = some k then none else l.lookup k := by
  induction l with
  | nil => simp
  | cons entry rest inductionHypothesis =>
      obtain ⟨x, v⟩ := entry
      cases rest with
      | nil =>
          by_cases hit : k = x
          · simp [hit]
          · rw [lookup_cons_ne hit]
            simp
      | cons next rest =>
          rw [List.map_cons, List.nodup_cons] at nodup
          have later := inductionHypothesis nodup.2
          have last : (((x, v) :: next :: rest).map Prod.fst).getLast? =
              ((next :: rest).map Prod.fst).getLast? := by
            simp [List.getLast?_cons_cons]
          rw [List.dropLast_cons_cons, last]
          by_cases hit : k = x
          · have notLast : ((next :: rest).map Prod.fst).getLast? ≠ some k := fun same =>
              nodup.1 (hit ▸ List.mem_of_getLast? same)
            rw [if_neg notLast, hit, List.lookup_cons_self, List.lookup_cons_self]
          · rw [lookup_cons_ne hit, lookup_cons_ne hit, later]

/-- What an `add` leaves under the other keys. -/
theorem peek_add_of_ne {c : Recency κ υ size} {k k' : κ} (differs : k' ≠ k) (v : υ) :
    (c.add k v).peek k' = if c.evicted k = some k' then none else c.peek k' := by
  by_cases room : k ∈ c.entries.map Prod.fst ∨ c.entries.length < size
  · have added := peek_add_of_room (room.imp peek_ne_none_iff.mpr id) v k'
    rw [added, if_neg differs, evicted, if_pos room, if_neg (by simp)]
  · obtain ⟨absent, full⟩ := not_or.mp room
    have length : c.entries.length = size := Nat.le_antisymm c.bounded (Nat.not_lt.mp full)
    rw [evicted, if_neg room, peek, peek, ← lookup_dropLast c.nodup]
    cases size with
    | zero =>
        have none : c.entries = [] := List.length_eq_zero_iff.mp length
        simp [add, none]
    | succ n =>
        have shorter : c.entries.take n = c.entries.dropLast := by
          rw [List.dropLast_eq_take, length, Nat.add_sub_cancel]
        simp only [add, dif_neg absent, List.take_succ_cons]
        rw [lookup_cons_ne differs, shorter]

theorem peek_add_self {c : Recency κ υ size} (positive : 0 < size) (k : κ) (v : υ) :
    (c.add k v).peek k = some v := by
  unfold add
  split_ifs
  · simp [peek]
  · obtain ⟨n, rfl⟩ := Nat.exists_eq_succ_of_ne_zero (Nat.ne_of_gt positive)
    simp [peek]

/-- A key stays when another is put that does not push it out. -/
theorem contains_add {c : Recency κ υ size} (positive : 0 < size) {k kept : κ} (v : υ)
    (stays : c.evicted k ≠ some kept) (present : c.contains kept = true) :
    (c.add k v).contains kept = true := by
  by_cases same : kept = k
  · subst same
    exact contains_iff.mpr ⟨v, peek_add_self positive kept v⟩
  · refine (contains_congr ?_).trans present
    rw [peek_add_of_ne same, if_neg stays]

/-- What a put takes away is what it pushes out. -/
theorem evicted_of_add {c : Recency κ υ size} (positive : 0 < size) {k gone : κ} {v v' : υ}
    (under : c.peek gone = some v') (absent : (c.add k v).peek gone = none) :
    c.evicted k = some gone := by
  by_contra stays
  have kept := contains_add positive v stays (contains_iff.mpr ⟨v', under⟩)
  obtain ⟨_, there⟩ := contains_iff.mp kept
  cases there.symm.trans absent

/-- The key added last is in front. -/
theorem entries_add {c : Recency κ υ size} (positive : 0 < size) (k : κ) (v : υ) :
    ∃ rest, (c.add k v).entries = (k, v) :: rest := by
  unfold add
  split_ifs
  · exact ⟨_, rfl⟩
  · obtain ⟨n, rfl⟩ := Nat.exists_eq_succ_of_ne_zero (Nat.ne_of_gt positive)
    exact ⟨_, List.take_succ_cons⟩

/-- The next key does not push it out when there is room for two. -/
theorem peek_add_add {c : Recency κ υ size} (two : 1 < size) (k k' : κ) (v v' : υ) :
    ((c.add k v).add k' v').peek k ≠ none := by
  by_cases same : k = k'
  · subst same
    rw [peek_add_self (by omega)]
    simp
  · obtain ⟨rest, front⟩ := entries_add (c := c) (by omega) k v
    have found : ∀ l : List (κ × υ), ((k', v') :: (k, v) :: l).lookup k ≠ none := by
      intro l
      rw [lookup_cons_ne same, List.lookup_cons_self]
      simp
    unfold peek
    generalize c.add k v = first at front ⊢
    unfold add
    split_ifs with member
    · have kept : without k' ((k, v) :: rest) = (k, v) :: without k' rest := by
        simp [without, same]
      simp only [front, kept]
      exact found _
    · obtain ⟨n, rfl⟩ := Nat.exists_eq_add_of_lt two
      simp only [front]
      rw [show 1 + n + 1 = n + 1 + 1 by omega, List.take_succ_cons, List.take_succ_cons]
      exact found _

@[simp] theorem peek_touch (c : Recency κ υ size) (k k' : κ) :
    (c.touch k).peek k' = c.peek k' := by
  unfold touch
  split
  · rfl
  · rename_i v found
    rw [peek_add_of_room (Or.inl (by simp [found]))]
    split_ifs with same
    · rw [same, found]
    · rfl

/-- A store whose keys are among few names has room for another of the names. -/
theorem room_of_keys {c : Recency κ υ size} {names : List κ} (few : names.length ≤ size)
    (keys : ∀ k, c.peek k ≠ none → k ∈ names) {k : κ} (named : k ∈ names) :
    c.peek k ≠ none ∨ c.entries.length < size := by
  by_cases member : k ∈ c.entries.map Prod.fst
  · exact Or.inl (peek_ne_none_iff.mpr member)
  · refine Or.inr (Nat.lt_of_lt_of_le ?_ few)
    have nodup : (k :: c.entries.map Prod.fst).Nodup := List.nodup_cons.mpr ⟨member, c.nodup⟩
    have among : k :: c.entries.map Prod.fst ⊆ names := by
      intro x inside
      rcases List.mem_cons.mp inside with rfl | later
      · exact named
      · exact keys x (peek_ne_none_iff.mpr later)
    have lengths := (List.subperm_of_subset nodup among).length_le
    simpa [Nat.succ_le_iff] using lengths

/-! ### Since the last use of a key -/

theorem entries_add_of_mem {c : Recency κ υ size} {k : κ} (member : k ∈ c.entries.map Prod.fst)
    (v : υ) : (c.add k v).entries = (k, v) :: without k c.entries := by
  rw [add, dif_pos member]

theorem entries_add_of_not_mem {c : Recency κ υ size} {k : κ}
    (absent : k ∉ c.entries.map Prod.fst) (v : υ) :
    (c.add k v).entries = ((k, v) :: c.entries).take size := by
  rw [add, dif_neg absent]

theorem without_append_cons {k k' : κ} (differs : k' ≠ k) (v : υ) (front back : List (κ × υ)) :
    without k' (front ++ (k, v) :: back) = without k' front ++ (k, v) :: without k' back := by
  have stays : k ≠ k' := Ne.symm differs
  simp [without, List.filter_append, stays]

/-- The key is there with the value, and the keys in front of it are among those used. -/
def Behind (c : Recency κ υ size) (k : κ) (v : υ) (used : List κ) : Prop :=
  ∃ front back, c.entries = front ++ (k, v) :: back ∧ ∀ entry ∈ front, entry.1 ∈ used

theorem behind_add_self (positive : 0 < size) (c : Recency κ υ size) (k : κ) (v : υ)
    (used : List κ) : Behind (c.add k v) k v used := by
  obtain ⟨rest, front⟩ := entries_add (c := c) positive k v
  exact ⟨[], rest, front, by simp⟩

namespace Behind

variable {c : Recency κ υ size} {k k' : κ} {v : υ} {used : List κ}

theorem peek (behind : Behind c k v used) : c.peek k = some v := by
  obtain ⟨front, back, entries, -⟩ := behind
  have absent : ∀ entry ∈ front, entry.1 ≠ k := by
    intro entry member same
    have nodup := c.nodup
    rw [entries, List.map_append, List.nodup_append] at nodup
    exact nodup.2.2 entry.1 (List.mem_map_of_mem member) k (by simp) same
  unfold Recency.peek
  rw [entries]
  clear entries
  induction front with
  | nil => simp
  | cons entry front inductionHypothesis =>
      obtain ⟨x, w⟩ := entry
      rw [List.cons_append, lookup_cons_ne (Ne.symm (absent (x, w) (by simp)))]
      exact inductionHypothesis fun other member => absent other (by simp [member])

/-- Using another key puts it in front; the key is pushed out only when the keys used since
are as many as the store holds. -/
theorem add (behind : Behind c k v used) (differs : k' ≠ k) (named : k' ∈ used)
    (few : used.length < size) (v' : υ) : Behind (c.add k' v') k v used := by
  obtain ⟨front, back, entries, among⟩ := behind
  by_cases member : k' ∈ c.entries.map Prod.fst
  · refine ⟨(k', v') :: without k' front, without k' back, ?_, ?_⟩
    · rw [entries_add_of_mem member, entries, without_append_cons differs]
      rfl
    · intro entry inFront
      rcases List.mem_cons.mp inFront with rfl | later
      · exact named
      · exact among entry (List.mem_of_mem_filter later)
  · have nodup : (k' :: front.map Prod.fst).Nodup := by
      have keys := c.nodup
      rw [entries, List.map_append] at keys member
      rw [List.nodup_cons]
      exact ⟨fun inFront => member (List.mem_append_left _ inFront), (List.nodup_append.mp keys).1⟩
    have subset : k' :: front.map Prod.fst ⊆ used := by
      intro x inside
      rcases List.mem_cons.mp inside with rfl | later
      · exact named
      · obtain ⟨entry, inFront, rfl⟩ := List.mem_map.mp later
        exact among entry inFront
    have short : (k' :: front.map Prod.fst).length < size :=
      Nat.lt_of_le_of_lt (List.subperm_of_subset nodup subset).length_le few
    rw [List.length_cons, List.length_map] at short
    obtain ⟨room, whole⟩ := Nat.exists_eq_add_of_lt short
    refine ⟨(k', v') :: front, back.take room, ?_, ?_⟩
    · rw [entries_add_of_not_mem member, entries]
      have length : ((k', v') :: front).length = front.length + 1 := rfl
      rw [← List.cons_append, List.take_append, length, List.take_of_length_le (by simp; omega)]
      have left : size - (front.length + 1) = room + 1 := by omega
      rw [left, List.take_succ_cons]
    · intro entry inFront
      rcases List.mem_cons.mp inFront with rfl | later
      · exact named
      · exact among entry later

theorem touch (behind : Behind c k v used) (named : k' ≠ k → k' ∈ used)
    (few : used.length < size) : Behind (c.touch k') k v used := by
  unfold Recency.touch
  split
  · exact behind
  · rename_i v' found
    by_cases same : k' = k
    · subst same
      cases found.symm.trans behind.peek
      exact behind_add_self (by omega) c _ _ used
    · exact behind.add same (named same) few v'

theorem remove (behind : Behind c k v used) (differs : k' ≠ k) :
    Behind (c.remove k') k v used := by
  obtain ⟨front, back, entries, among⟩ := behind
  refine ⟨without k' front, without k' back, ?_, ?_⟩
  · exact (congrArg (without k') entries).trans (without_append_cons differs v front back)
  · intro entry inFront
    exact among entry (List.mem_of_mem_filter inFront)

end Behind

/-! ### The order of use -/

omit [DecidableEq κ] in
theorem eq_of_entries {c c' : Recency κ υ size} (same : c.entries = c'.entries) : c = c' := by
  cases c
  cases c'
  cases same
  rfl

omit [DecidableEq κ] in
theorem not_mem_of_place {c : Recency κ υ size} {front back : List (κ × υ)} {k : κ} {v : υ}
    (place : c.entries = front ++ (k, v) :: back) :
    k ∉ front.map Prod.fst ∧ k ∉ back.map Prod.fst := by
  have nodup := c.nodup
  rw [place, List.map_append, List.map_cons, List.nodup_middle, List.nodup_cons,
    List.mem_append, not_or] at nodup
  exact nodup.1

theorem without_of_not_mem {k : κ} {l : List (κ × υ)} (absent : k ∉ l.map Prod.fst) :
    without k l = l := by
  apply List.filter_eq_self.mpr
  intro entry member
  exact decide_eq_true fun same => absent (same ▸ List.mem_map_of_mem member)

theorem peek_of_place {c : Recency κ υ size} {front back : List (κ × υ)} {k : κ} {v : υ}
    (place : c.entries = front ++ (k, v) :: back) : c.peek k = some v := by
  have behind : Behind c k v (front.map Prod.fst) :=
    ⟨front, back, place, fun _ member => List.mem_map_of_mem member⟩
  exact behind.peek

/-- Touching a key moves its entry to the front. -/
theorem entries_touch {c : Recency κ υ size} {front back : List (κ × υ)} {k : κ} {v : υ}
    (place : c.entries = front ++ (k, v) :: back) :
    (c.touch k).entries = (k, v) :: (front ++ back) := by
  obtain ⟨notFront, notBack⟩ := not_mem_of_place place
  have member : k ∈ c.entries.map Prod.fst := by
    rw [place]
    simp
  have left : without k c.entries = front ++ back := by
    rw [place, without, List.filter_append, List.filter_cons_of_neg (by simp)]
    exact congrArg₂ _ (without_of_not_mem notFront) (without_of_not_mem notBack)
  simp only [touch, peek_of_place place, entries_add_of_mem member, left]

/-- The key added last is already in front. -/
theorem touch_add_self (positive : 0 < size) (c : Recency κ υ size) (k : κ) (v : υ) :
    (c.add k v).touch k = c.add k v := by
  obtain ⟨rest, added⟩ := entries_add (c := c) positive k v
  have place : (c.add k v).entries = [] ++ (k, v) :: rest := added
  apply eq_of_entries
  rw [entries_touch place, added]
  rfl

/-- Touching the last entries, the last one first, brings them to the front in their order. -/
theorem entries_touch_last (last : List (κ × υ)) :
    ∀ {c : Recency κ υ size} {front : List (κ × υ)}, c.entries = front ++ last →
      ((last.map Prod.fst).reverse.foldl touch c).entries = last ++ front := by
  induction last using List.reverseRecOn with
  | nil =>
      intro c front place
      simpa using place
  | append_singleton before entry inductionHypothesis =>
      intro c front place
      obtain ⟨k, v⟩ := entry
      have moved : (c.touch k).entries = ((k, v) :: front) ++ before := by
        have place' : c.entries = (front ++ before) ++ (k, v) :: [] := by simpa using place
        rw [entries_touch place']
        simp
      rw [List.map_append, List.reverse_append]
      simpa using inductionHypothesis moved

/-- Touching every key, the least recently used one first, changes nothing. -/
theorem touch_all (c : Recency κ υ size) :
    (c.entries.map Prod.fst).reverse.foldl touch c = c := by
  have place : c.entries = [] ++ c.entries := rfl
  apply eq_of_entries
  rw [entries_touch_last c.entries place, List.append_nil]

/-! ### But for one key -/

theorem without_cons_self (k : κ) (v : υ) (l : List (κ × υ)) :
    without k ((k, v) :: l) = without k l := by
  simp [without]

theorem without_cons_ne {k k' : κ} (differs : k' ≠ k) (v : υ) (l : List (κ × υ)) :
    without k ((k', v) :: l) = (k', v) :: without k l := by
  simp [without, differs]

theorem without_comm (k k' : κ) (l : List (κ × υ)) :
    without k (without k' l) = without k' (without k l) :=
  List.filter_comm _ _ _

theorem entries_add_of_room {c : Recency κ υ size} {k : κ}
    (room : c.peek k ≠ none ∨ c.entries.length < size) (v : υ) :
    (c.add k v).entries = (k, v) :: without k c.entries := by
  by_cases member : k ∈ c.entries.map Prod.fst
  · exact entries_add_of_mem member v
  · have fits : ((k, v) :: c.entries).length ≤ size :=
      room.resolve_left fun found => member (peek_ne_none_iff.mp found)
    rw [entries_add_of_not_mem member, List.take_of_length_le fits, without_of_not_mem member]

/-- The same entries in the same order, but for one key. -/
def SameBut (k : κ) (c c' : Recency κ υ size) : Prop :=
  without k c.entries = without k c'.entries

namespace SameBut

variable {c c' : Recency κ υ size} {k k' : κ}

theorem peek (same : SameBut k c c') (differs : k' ≠ k) : c.peek k' = c'.peek k' := by
  have found := congrArg (List.lookup k') same
  rwa [lookup_without, lookup_without, if_neg differs, if_neg differs] at found

theorem add (same : SameBut k c c') (differs : k' ≠ k)
    (room : c.peek k' ≠ none ∨ c.entries.length < size)
    (room' : c'.peek k' ≠ none ∨ c'.entries.length < size) (v : υ) :
    SameBut k (c.add k' v) (c'.add k' v) := by
  unfold SameBut
  rw [entries_add_of_room room, entries_add_of_room room', without_cons_ne differs,
    without_cons_ne differs, without_comm, same, without_comm]

theorem add_left (same : SameBut k c c') (room : c.peek k ≠ none ∨ c.entries.length < size)
    (v : υ) : SameBut k (c.add k v) c' := by
  unfold SameBut
  rw [entries_add_of_room room, without_cons_self, without_comm, same]
  exact without_of_not_mem (not_mem_without k _)

/-- Putting the key itself under the same value makes up for the difference. -/
theorem add_self (same : SameBut k c c') (room : c.peek k ≠ none ∨ c.entries.length < size)
    (room' : c'.peek k ≠ none ∨ c'.entries.length < size) (v : υ) :
    c.add k v = c'.add k v := by
  apply eq_of_entries
  rw [entries_add_of_room room, entries_add_of_room room', same]

theorem touch_left (same : SameBut k c c') : SameBut k (c.touch k) c' := by
  unfold Recency.touch
  split
  · exact same
  · rename_i v found
    exact same.add_left (Or.inl (by rw [found]; simp)) v

theorem symm (same : SameBut k c c') : SameBut k c' c := Eq.symm same

theorem touch (same : SameBut k c c') (k' : κ) : SameBut k (c.touch k') (c'.touch k') := by
  by_cases differs : k' = k
  · subst differs
    exact same.touch_left.symm.touch_left.symm
  · have values := same.peek differs
    unfold Recency.touch
    cases found : c'.peek k' with
    | none =>
        rw [found] at values
        simp only [values]
        exact same
    | some v =>
        rw [found] at values
        simp only [values]
        exact same.add differs (Or.inl (by rw [values]; simp)) (Or.inl (by rw [found]; simp)) v

end SameBut

end Recency
