import Mathlib.Data.List.Sort

set_option autoImplicit false

namespace MorphReth

-- The first row passing a test comes before the others that pass it.
theorem find_first {α : Type} (before : α → α → Prop) (rows : List α) (ordered : rows.Pairwise before) (test : α → Bool) (row : α)
    (found : rows.find? test = some row) : ∀ other ∈ rows, test other = true → other = row ∨ before row other := by
  induction rows with
  | nil => cases found
  | cons first rest ih =>
      obtain ⟨ahead, restOrdered⟩ := List.pairwise_cons.mp ordered
      intro other member passes
      by_cases hit : test first = true
      · rw [List.find?_cons_of_pos hit] at found
        cases found
        exact (List.mem_cons.mp member).imp id (ahead other)
      · rw [List.find?_cons_of_neg hit] at found
        cases List.mem_cons.mp member with
        | inl same =>
            rw [same] at passes
            exact absurd passes hit
        | inr later => exact ih restOrdered found other later passes

-- A key-value table in key order, as an ordered store keeps it.
structure Table (κ ν : Type) [LinearOrder κ] where
  rows : List (κ × ν)
  sorted : rows.Pairwise (fun earlier later => earlier.1 < later.1)

namespace Table

variable {κ ν : Type} [LinearOrder κ]

def empty : Table κ ν where
  rows := []
  sorted := List.Pairwise.nil

def get (table : Table κ ν) (key : κ) : Option ν :=
  (table.rows.find? (fun row => row.1 = key)).map (fun row => row.2)

def put (table : Table κ ν) (key : κ) (value : ν) : Table κ ν where
  rows := table.rows.filter (fun row => row.1 < key) ++ (key, value) :: table.rows.filter (fun row => key < row.1)
  sorted := by
    rw [List.pairwise_append, List.pairwise_cons]
    refine ⟨table.sorted.filter _, ⟨?_, table.sorted.filter _⟩, ?_⟩
    · intro row above
      exact of_decide_eq_true (List.mem_filter.mp above).2
    · intro row below later member
      have less : row.1 < key := of_decide_eq_true (List.mem_filter.mp below).2
      cases List.mem_cons.mp member with
      | inl same =>
          rw [same]
          exact less
      | inr above => exact lt_trans less (of_decide_eq_true (List.mem_filter.mp above).2)

def delete (table : Table κ ν) (key : κ) : Table κ ν where
  rows := table.rows.filter (fun row => row.1 ≠ key)
  sorted := table.sorted.filter _

-- The rows a cursor walks that is positioned at the first key not below the
-- given one.
def seek (table : Table κ ν) (key : κ) : List (κ × ν) :=
  table.rows.filter (fun row => key ≤ row.1)

variable (table : Table κ ν)

theorem mem_unique (key : κ) (left right : ν) (inLeft : (key, left) ∈ table.rows) (inRight : (key, right) ∈ table.rows) : left = right := by
  have distinct : (table.rows.map Prod.fst).Nodup := List.pairwise_map.mpr (table.sorted.imp ne_of_lt)
  exact congrArg Prod.snd (List.inj_on_of_nodup_map distinct inLeft inRight rfl)

theorem get_eq_some (key : κ) (value : ν) : table.get key = some value ↔ (key, value) ∈ table.rows := by
  rw [get, Option.map_eq_some_iff]
  constructor
  · intro found
    obtain ⟨⟨rowKey, rowValue⟩, hit, rfl⟩ := found
    have same : rowKey = key := by simpa using List.find?_some hit
    rw [← same]
    exact List.mem_of_find?_eq_some hit
  · intro member
    have present : (table.rows.find? (fun row => row.1 = key)).isSome :=
      List.find?_isSome.mpr ⟨(key, value), member, decide_eq_true rfl⟩
    obtain ⟨⟨rowKey, rowValue⟩, hit⟩ := Option.isSome_iff_exists.mp present
    have same : rowKey = key := by simpa using List.find?_some hit
    have inRows := List.mem_of_find?_eq_some hit
    rw [same] at inRows
    exact ⟨(rowKey, rowValue), hit, mem_unique table key rowValue value inRows member⟩

theorem ext_rows (left right : Table κ ν) (same : left.rows = right.rows) : left = right := by
  cases left
  cases right
  cases same
  rfl

theorem ext_get (left right : Table κ ν) (same : ∀ key, left.get key = right.get key) : left = right := by
  have : Std.Irrefl (fun earlier later : κ × ν => earlier.1 < later.1) := ⟨fun row => lt_irrefl row.1⟩
  have : Std.Antisymm (fun earlier later : κ × ν => earlier.1 < later.1) := ⟨fun _ _ less more => absurd less (lt_asymm more)⟩
  apply ext_rows
  apply left.sorted.eq_of_mem_iff right.sorted
  intro row
  rw [← get_eq_some, ← get_eq_some, same]

theorem put_last (key : κ) (value : ν) (last : ∀ row ∈ table.rows, row.1 < key) :
    (table.put key value).rows = table.rows ++ [(key, value)] := by
  have below : table.rows.filter (fun row => row.1 < key) = table.rows := by simpa using last
  have above : table.rows.filter (fun row => key < row.1) = [] := by simpa using fun left right member => le_of_lt (last (left, right) member)
  simp only [put, below, above]

@[simp] theorem get_empty (key : κ) : (empty : Table κ ν).get key = none :=
  rfl

theorem get_put (key : κ) (value : ν) (other : κ) :
    (table.put key value).get other = if other = key then some value else table.get other := by
  apply Option.ext
  intro found
  rw [get_eq_some]
  change (other, found) ∈ _ ++ _ :: _ ↔ _
  rw [List.mem_append, List.mem_cons, List.mem_filter, List.mem_filter, decide_eq_true_eq, decide_eq_true_eq]
  by_cases same : other = key
  · subst same
    simp [eq_comm]
  · rw [if_neg same, get_eq_some]
    have apart := lt_or_gt_of_ne same
    simp only [Prod.mk.injEq, same, false_and, false_or]
    tauto

theorem get_delete (key other : κ) : (table.delete key).get other = if other = key then none else table.get other := by
  apply Option.ext
  intro found
  rw [get_eq_some]
  change (other, found) ∈ List.filter _ _ ↔ _
  rw [List.mem_filter, decide_eq_true_eq]
  by_cases same : other = key
  · simp [same]
  · rw [if_neg same, get_eq_some]
    simp [same]

theorem find_least (test : κ × ν → Bool) (row : κ × ν) (found : table.rows.find? test = some row) :
    row ∈ table.rows ∧ test row = true ∧ ∀ other ∈ table.rows, test other = true → row.1 ≤ other.1 := by
  refine ⟨List.mem_of_find?_eq_some found, List.find?_some found, fun other member passes => ?_⟩
  cases find_first _ table.rows table.sorted test row found other member passes with
  | inl same => rw [same]
  | inr later => exact le_of_lt later

theorem find_greatest (test : κ × ν → Bool) (row : κ × ν) (found : table.rows.reverse.find? test = some row) :
    row ∈ table.rows ∧ test row = true ∧ ∀ other ∈ table.rows, test other = true → other.1 ≤ row.1 := by
  refine ⟨List.mem_reverse.mp (List.mem_of_find?_eq_some found), List.find?_some found, fun other member passes => ?_⟩
  cases find_first _ table.rows.reverse (List.pairwise_reverse.mpr table.sorted) test row found other (List.mem_reverse.mpr member) passes with
  | inl same => rw [same]
  | inr earlier => exact le_of_lt earlier

theorem get_foldl_delete (keys : List κ) (table : Table κ ν) (other : κ) :
    (keys.foldl delete table).get other = if other ∈ keys then none else table.get other := by
  induction keys generalizing table with
  | nil => simp
  | cons key rest ih =>
      rw [List.foldl_cons, ih, get_delete]
      by_cases inRest : other ∈ rest
      · simp [inRest]
      · by_cases same : other = key
        · simp [same]
        · simp [inRest, same]

def mapValues {μ : Type} (change : ν → μ) (table : Table κ ν) : Table κ μ where
  rows := table.rows.map (fun row => (row.1, change row.2))
  sorted := List.pairwise_map.mpr table.sorted

theorem get_map_values {μ : Type} (change : ν → μ) (table : Table κ ν) (key : κ) :
    (table.mapValues change).get key = (table.get key).map change := by
  rw [get, mapValues, List.find?_map, get, Option.map_map, Option.map_map]
  rfl

section PutAll

variable {α : Type} (key : α → κ) (value : α → ν)

def putAll (entries : List α) (table : Table κ ν) : Table κ ν :=
  entries.foldl (fun table entry => table.put (key entry) (value entry)) table

theorem get_put_all_absent (entries : List α) (table : Table κ ν) (other : κ) (absent : ∀ entry ∈ entries, key entry ≠ other) :
    (putAll key value entries table).get other = table.get other := by
  induction entries generalizing table with
  | nil => rfl
  | cons entry rest ih =>
      change (putAll key value rest (table.put (key entry) (value entry))).get other = _
      rw [ih _ (fun later member => absent later (List.mem_cons_of_mem _ member)), get_put,
        if_neg (absent entry List.mem_cons_self).symm]

theorem get_put_all_present (entries : List α) (table : Table κ ν) (other : κ) (expected : ν)
    (agreed : ∀ entry ∈ entries, key entry = other → value entry = expected)
    (present : (∃ entry ∈ entries, key entry = other) ∨ table.get other = some expected) :
    (putAll key value entries table).get other = some expected := by
  induction entries generalizing table with
  | nil =>
      cases present with
      | inl found =>
          obtain ⟨entry, member, _⟩ := found
          cases member
      | inr stored => exact stored
  | cons entry rest ih =>
      apply ih _ (fun later member => agreed later (List.mem_cons_of_mem _ member))
      by_cases same : key entry = other
      · right
        rw [get_put, if_pos same.symm, agreed entry List.mem_cons_self same]
      · cases present with
        | inl found =>
            obtain ⟨hit, member, hitKey⟩ := found
            cases List.mem_cons.mp member with
            | inl first =>
                rw [first] at hitKey
                exact absurd hitKey same
            | inr later => exact .inl ⟨hit, later, hitKey⟩
        | inr stored =>
            right
            rw [get_put, if_neg (Ne.symm same), stored]

-- Entries that agree wherever they share a key act as one lookup in front of
-- the table.
theorem get_put_all (entries : List α) (table : Table κ ν) (other : κ) (found : Option ν)
    (looked : ∀ hit, found = some hit ↔ ∃ entry ∈ entries, key entry = other ∧ value entry = hit) :
    (putAll key value entries table).get other = found.or (table.get other) := by
  cases found with
  | none =>
      rw [Option.none_or, get_put_all_absent]
      intro entry member same
      cases (looked (value entry)).mpr ⟨entry, member, same, rfl⟩
  | some hit =>
      obtain ⟨entry, member, same, _⟩ := (looked hit).mp rfl
      apply get_put_all_present key value entries table other hit _ (.inl ⟨entry, member, same⟩)
      intro later laterMember laterSame
      exact (Option.some.inj ((looked (value later)).mpr ⟨later, laterMember, laterSame, rfl⟩)).symm

end PutAll

end Table

-- A walk that stops at the first row failing a test sees every row passing it
-- when the passing rows come first.
theorem take_while_eq_filter {α : Type} (test : α → Bool) (rows : List α)
    (first : rows.Pairwise (fun earlier later => test later = true → test earlier = true)) : rows.takeWhile test = rows.filter test := by
  induction rows with
  | nil => rfl
  | cons row rest ih =>
      obtain ⟨ahead, restFirst⟩ := List.pairwise_cons.mp first
      by_cases passes : test row = true
      · rw [List.takeWhile_cons_of_pos passes, List.filter_cons_of_pos passes, ih restFirst]
      · have none : rest.filter test = [] := by
          rw [List.filter_eq_nil_iff]
          intro later member laterPasses
          exact passes (ahead later member laterPasses)
        rw [List.takeWhile_cons_of_neg passes, List.filter_cons_of_neg passes, none]

end MorphReth
