import Mathlib.Data.List.AList
import Mathlib.Data.List.Dedup

set_option autoImplicit false

namespace MorphReth

-- A keyed cache with a capacity and a queue of its keys by first insertion.
-- Writing a present key keeps its place; a new key may push out the oldest.
structure FifoCache (α β : Type) [DecidableEq α] where
  entries : AList (fun _ : α => β)
  order : List α
  tracked : order.Perm entries.keys

namespace FifoCache

variable {α β : Type} [DecidableEq α]

def empty : FifoCache α β := ⟨∅, [], List.Perm.nil⟩

def lookup (cache : FifoCache α β) (key : α) : Option β :=
  cache.entries.lookup key

def evict (capacity : Nat) : AList (fun _ : α => β) → List α → AList (fun _ : α => β) × List α
  | entries, [] => (entries, [])
  | entries, oldest :: order =>
      if capacity < entries.keys.length then evict capacity (entries.erase oldest) order
      else (entries, oldest :: order)

variable (capacity : Nat) (entries : AList (fun _ : α => β))

theorem evict_tracked (order : List α) (tracked : order.Perm entries.keys) :
    (evict capacity entries order).2.Perm (evict capacity entries order).1.keys := by
  induction order generalizing entries with
  | nil => exact tracked
  | cons oldest order hypothesis =>
      rw [evict]
      split
      · apply hypothesis
        rw [AList.keys_erase]
        simpa using tracked.erase oldest
      · exact tracked

variable (cache : FifoCache α β)

theorem insert_tracked (key : α) (value : β) (present : key ∈ cache.entries) : cache.order.Perm (cache.entries.insert key value).keys := by
  rw [AList.keys_insert]
  exact cache.tracked.trans (List.perm_cons_erase present)

theorem append_tracked (key : α) (value : β) (absent : key ∉ cache.entries) :
    (cache.order ++ [key]).Perm (cache.entries.insert key value).keys := by
  rw [AList.keys_insert, List.erase_of_not_mem absent]
  exact (List.perm_append_comm).trans (List.Perm.cons key cache.tracked)

def insert (capacity : Nat) (cache : FifoCache α β) (key : α) (value : β) : FifoCache α β :=
  if present : key ∈ cache.entries then
    ⟨cache.entries.insert key value, cache.order, insert_tracked cache key value present⟩
  else
    let kept := evict capacity (cache.entries.insert key value) (cache.order ++ [key])
    ⟨kept.1, kept.2, evict_tracked capacity _ _ (append_tracked cache key value present)⟩

theorem insert_new (key : α) (value : β) (absent : key ∉ cache.entries) :
    (insert capacity cache key value).entries = (evict capacity (cache.entries.insert key value) (cache.order ++ [key])).1 ∧
      (insert capacity cache key value).order = (evict capacity (cache.entries.insert key value) (cache.order ++ [key])).2 := by
  rw [insert, dif_neg absent]
  exact ⟨rfl, rfl⟩

theorem filter_tracked (key : α) : (cache.order.filter (· != key)).Perm (cache.entries.erase key).keys := by
  rw [AList.keys_erase, cache.entries.keys_nodup.erase_eq_filter]
  exact cache.tracked.filter _

def remove (cache : FifoCache α β) (key : α) : FifoCache α β :=
  ⟨cache.entries.erase key, cache.order.filter (· != key), filter_tracked cache key⟩

-- A present key and what was inserted after it.
structure Queued (cache : FifoCache α β) (key : α) (value : β) (others : List α) : Prop where
  value : cache.lookup key = some value
  position : ∃ before after, cache.order = before ++ key :: after ∧ ∀ other ∈ after, other ∈ others

-- Only what stands before the key is evicted while the key and everything
-- after it fit.
theorem evict_keeps (before after : List α) (key : α) (tracked : (before ++ key :: after).Perm entries.keys)
    (fits : after.length < capacity) :
    (∃ kept, (evict capacity entries (before ++ key :: after)).2 = kept ++ key :: after) ∧
      (evict capacity entries (before ++ key :: after)).1.lookup key = entries.lookup key := by
  induction before generalizing entries with
  | nil =>
      have length := tracked.length_eq
      simp only [List.nil_append, List.length_cons] at length
      rw [List.nil_append, evict, if_neg (by omega)]
      exact ⟨⟨[], rfl⟩, rfl⟩
  | cons oldest before hypothesis =>
      have nodup := tracked.nodup_iff.mpr entries.keys_nodup
      have different : key ≠ oldest := by
        intro same
        rw [List.cons_append, List.nodup_cons] at nodup
        exact nodup.1 (by rw [← same]; simp)
      rw [List.cons_append, evict]
      split
      · have erased : (before ++ key :: after).Perm (entries.erase oldest).keys := by
          rw [AList.keys_erase]
          simpa using tracked.erase oldest
        obtain ⟨position, value⟩ := hypothesis (entries.erase oldest) erased
        exact ⟨position, value.trans (AList.lookup_erase_ne different)⟩
      · exact ⟨⟨oldest :: before, rfl⟩, rfl⟩

theorem queued_insert_new (key : α) (value : β) (room : 0 < capacity) (absent : key ∉ cache.entries) :
    Queued (insert capacity cache key value) key value [] := by
  obtain ⟨⟨kept, position⟩, found⟩ := evict_keeps capacity (cache.entries.insert key value) cache.order [] key
    (append_tracked cache key value absent) room
  refine ⟨?_, kept, [], ?_, fun _ impossible => by cases impossible⟩
  · rw [lookup, (insert_new capacity cache key value absent).1]
    exact found.trans (AList.lookup_insert cache.entries)
  · rw [(insert_new capacity cache key value absent).2]
    exact position

theorem queued_overwrite (key : α) (old value : β) (others : List α) (queued : Queued cache key old others) :
    Queued (insert capacity cache key value) key value others := by
  have present : key ∈ cache.entries := by
    rw [← AList.lookup_isSome]
    change (cache.lookup key).isSome = true
    rw [queued.value]
    rfl
  refine ⟨?_, ?_⟩
  · rw [lookup, insert, dif_pos present]
    exact AList.lookup_insert cache.entries
  · rw [insert, dif_pos present]
    exact queued.position

theorem queued_insert_other (key other : α) (value otherValue : β) (others : List α) (queued : Queued cache key value others)
    (different : other ≠ key) (few : (other :: others).dedup.length < capacity) :
    Queued (insert capacity cache other otherValue) key value (other :: others) := by
  obtain ⟨before, after, shape, recorded⟩ := queued.position
  by_cases present : other ∈ cache.entries
  · refine ⟨?_, before, after, ?_, fun x member => List.mem_cons_of_mem other (recorded x member)⟩
    · rw [lookup, insert, dif_pos present]
      exact (AList.lookup_insert_ne different.symm).trans queued.value
    · rw [insert, dif_pos present]
      exact shape
  · have tracked := append_tracked cache other otherValue present
    have nodup := tracked.nodup_iff.mpr (AList.keys_nodup _)
    rw [shape, List.append_assoc, List.cons_append] at tracked nodup
    have afterNodup : (after ++ [other]).Nodup := (List.nodup_cons.mp (List.nodup_append.mp nodup).2.1).2
    have inOthers : ∀ x ∈ after ++ [other], x ∈ other :: others := by
      intro x member
      rcases List.mem_append.mp member with older | newest
      · exact List.mem_cons_of_mem other (recorded x older)
      · rw [List.mem_singleton.mp newest]
        exact List.mem_cons_self
    have fits : (after ++ [other]).length < capacity := by
      have bound := (List.subperm_of_subset afterNodup (fun x member => List.mem_dedup.mpr (inOthers x member))).length_le
      omega
    obtain ⟨⟨kept, position⟩, found⟩ := evict_keeps capacity (cache.entries.insert other otherValue) before (after ++ [other]) key tracked fits
    refine ⟨?_, kept, after ++ [other], ?_, inOthers⟩
    · rw [lookup, (insert_new capacity cache other otherValue present).1, shape, List.append_assoc, List.cons_append]
      exact found.trans ((AList.lookup_insert_ne different.symm).trans queued.value)
    · rw [(insert_new capacity cache other otherValue present).2, shape, List.append_assoc, List.cons_append]
      exact position

theorem queued_remove_other (key other : α) (value : β) (others : List α) (queued : Queued cache key value others) (different : other ≠ key) :
    Queued (remove cache other) key value others := by
  obtain ⟨before, after, shape, recorded⟩ := queued.position
  refine ⟨?_, before.filter (· != other), after.filter (· != other), ?_, ?_⟩
  · exact (AList.lookup_erase_ne different.symm).trans queued.value
  · have kept : (key != other) = true := by simpa using different.symm
    change cache.order.filter (· != other) = _
    rw [shape, List.filter_append, List.filter_cons, if_pos kept]
  · intro x member
    exact recorded x (List.mem_of_mem_filter member)

theorem evict_fits (order : List α) (fits : entries.keys.length ≤ capacity) : evict capacity entries order = (entries, order) := by
  cases order with
  | nil => rfl
  | cons oldest order => rw [evict, if_neg (by omega)]

-- One entry too many costs exactly the oldest.
theorem evict_oldest (oldest : α) (order : List α) (present : oldest ∈ entries) (crowded : entries.keys.length = capacity + 1) :
    evict capacity entries (oldest :: order) = (entries.erase oldest, order) := by
  have length : (entries.erase oldest).keys.length = capacity := by
    rw [AList.keys_erase, List.length_erase_of_mem present, crowded, Nat.add_sub_cancel]
  rw [evict, if_pos (by omega), evict_fits capacity _ order (Nat.le_of_eq length)]

theorem evict_absent (order : List α) (key : α) (absent : key ∉ entries) : key ∉ (evict capacity entries order).1 := by
  induction order generalizing entries with
  | nil => exact absent
  | cons oldest order hypothesis =>
      rw [evict]
      split
      · apply hypothesis
        intro member
        exact absent (AList.mem_erase.mp member).2
      · exact absent

theorem absent_insert_other (key other : α) (value : β) (absent : key ∉ cache.entries) (different : other ≠ key) :
    key ∉ (insert capacity cache other value).entries := by
  have notInserted : key ∉ cache.entries.insert other value := by
    intro member
    rcases (AList.mem_insert cache.entries).mp member with same | older
    · exact different same.symm
    · exact absent older
  by_cases present : other ∈ cache.entries
  · rw [insert, dif_pos present]
    exact notInserted
  · rw [(insert_new capacity cache other value present).1]
    exact evict_absent capacity _ _ key notInserted

theorem absent_remove (key other : α) (absent : key ∉ cache.entries) : key ∉ (remove cache other).entries := by
  intro member
  exact absent (AList.mem_erase.mp member).2

theorem queued_weaken (key : α) (value : β) (others more : List α) (subset : ∀ x ∈ others, x ∈ more)
    (queued : Queued cache key value others) : Queued cache key value more := by
  obtain ⟨before, after, shape, recorded⟩ := queued.position
  exact ⟨queued.value, before, after, shape, fun x member => subset x (recorded x member)⟩

end FifoCache

end MorphReth
