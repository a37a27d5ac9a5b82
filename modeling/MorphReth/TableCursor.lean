import MorphReth.DupCursor

set_option autoImplicit false

namespace MorphReth

namespace Table

variable {κ ν : Type} [LinearOrder κ]

theorem find_of_least (table : Table κ ν) (test : κ × ν → Bool) (row : κ × ν) (member : row ∈ table.rows) (passes : test row = true)
    (least : ∀ other ∈ table.rows, test other = true → row.1 ≤ other.1) : table.rows.find? test = some row := by
  obtain ⟨found, hit⟩ := Option.isSome_iff_exists.mp (List.find?_isSome.mpr ⟨row, member, passes⟩)
  obtain ⟨foundMember, foundPasses, foundLeast⟩ := table.find_least test found hit
  have sameKey : found.1 = row.1 := le_antisymm (foundLeast row member passes) (least found foundMember foundPasses)
  have same : found = row := by
    apply Prod.ext sameKey
    exact table.mem_unique row.1 found.2 row.2 (sameKey ▸ foundMember) member
  rw [hit, same]

-- The rows behind a position, all of them when there is none yet.
def after (table : Table κ ν) (position : Option κ) : List (κ × ν) :=
  table.rows.filter (fun row => position.all (fun place => place < row.1))

theorem after_first (table : Table κ ν) (position : Option κ) (first : κ × ν) (rest : List (κ × ν))
    (split : table.after position = first :: rest) : table.after (some first.1) = rest := by
  have behind : ∀ row : κ × ν, decide (first.1 < row.1) = true → position.all (fun place => decide (place < row.1)) = true := by
    have member : first ∈ table.after position := split ▸ List.mem_cons_self
    have firstBehind := (List.mem_filter.mp member).2
    intro row above
    rw [Option.all_eq_true] at firstBehind ⊢
    intro place here
    exact decide_eq_true (lt_trans (of_decide_eq_true (firstBehind place here)) (of_decide_eq_true above))
  have narrowed : table.after (some first.1) = (table.after position).filter (fun row => first.1 < row.1) := by
    rw [after, after, List.filter_filter]
    apply List.filter_congr
    intro row _
    by_cases above : first.1 < row.1
    · simp [above, behind row (decide_eq_true above)]
    · simp [above]
  have ordered : (first :: rest).Pairwise (fun earlier later => earlier.1 < later.1) := split ▸ table.sorted.filter _
  rw [narrowed, split, List.filter_cons_of_neg (by simp), List.filter_eq_self]
  intro row member
  exact decide_eq_true ((List.pairwise_cons.mp ordered).1 row member)

-- A table that was walked up to some row goes on with the remaining ones.
theorem after_last (table : Table κ ν) (done rest : List (κ × ν)) (split : table.rows = done ++ rest) :
    table.after (done.getLast?.map Prod.fst) = rest := by
  rcases List.eq_nil_or_concat done with rfl | ⟨done, last, rfl⟩
  · simp [after, split]
  · rw [List.concat_eq_append] at split ⊢
    have ordered := table.sorted
    rw [split, List.pairwise_append] at ordered
    obtain ⟨doneOrdered, _, apart⟩ := ordered
    rw [List.pairwise_append] at doneOrdered
    have none : (done ++ [last]).filter (fun row => last.1 < row.1) = [] := by
      rw [List.filter_eq_nil_iff]
      intro row member above
      have below : row.1 ≤ last.1 := by
        cases List.mem_append.mp member with
        | inl earlier => exact le_of_lt (doneOrdered.2.2 row earlier last List.mem_cons_self)
        | inr same => rw [List.mem_singleton.mp same]
      exact absurd (of_decide_eq_true above) (not_lt_of_ge below)
    have all : rest.filter (fun row => last.1 < row.1) = rest := by
      rw [List.filter_eq_self]
      intro row member
      exact decide_eq_true (apart last (by simp) row member)
    rw [after, split, List.getLast?_append, List.filter_append]
    simp only [List.getLast?_singleton, Option.some_or, Option.map_some, Option.all_some, none, all, List.nil_append]

end Table

-- A cursor over a table with one row for a key. It stands on a row or nowhere,
-- and a move that finds no row leaves it where it is.
structure TableCursor (κ ν : Type) [LinearOrder κ] where
  table : Table κ ν
  position : Option κ

namespace TableCursor

section Plain

variable {κ ν : Type} [LinearOrder κ]

def move (cursor : TableCursor κ ν) (target : Option (κ × ν)) : Option (κ × ν) × TableCursor κ ν :=
  (target, { cursor with position := (target.map Prod.fst).or cursor.position })

def seek (cursor : TableCursor κ ν) (key : κ) : Option (κ × ν) × TableCursor κ ν :=
  cursor.move (cursor.table.rows.find? (fun row => key ≤ row.1))

def next (cursor : TableCursor κ ν) : Option (κ × ν) × TableCursor κ ν :=
  cursor.move (cursor.table.rows.find? (fun row => cursor.position.all (fun place => place < row.1)))

theorem moved_nowhere (cursor after : TableCursor κ ν) (target : Option (κ × ν)) (moved : cursor.move target = (none, after)) :
    after = cursor := by
  cases target with
  | none =>
      cases moved
      rfl
  | some row => cases moved

theorem seek_present (table : Table κ ν) (position : Option κ) (key : κ) (value : ν) (present : table.get key = some value) :
    (TableCursor.mk table position).seek key = (some (key, value), ⟨table, some key⟩) := by
  have found : table.rows.find? (fun row => decide (key ≤ row.1)) = some (key, value) := by
    apply table.find_of_least _ _ ((table.get_eq_some key value).mp present) (decide_eq_true (le_refl key))
    intro other _ passes
    exact of_decide_eq_true passes
  rw [seek, found]
  rfl

-- Any iterator that yields the next row each time hands out the rows behind its
-- position.
theorem drain_after (table : Table κ ν) (step : TableCursor κ ν → Option (κ × ν) × TableCursor κ ν)
    (steps : ∀ position, step ⟨table, position⟩ = next ⟨table, position⟩) (fuel : Nat) (position : Option κ)
    (enough : (table.after position).length < fuel) : drain step fuel ⟨table, position⟩ = table.after position := by
  induction fuel generalizing position with
  | zero => cases enough
  | succ fuel ih =>
      have found : table.rows.find? (fun row => position.all (fun place => decide (place < row.1))) = (table.after position).head? := by
        rw [Table.after, List.head?_filter]
      rw [drain, steps, next, found]
      cases split : table.after position with
      | nil => rfl
      | cons first rest =>
          have onward := table.after_first position first rest split
          rw [split, List.length_cons] at enough
          have later := ih (some first.1) (by rw [onward]; exact Nat.lt_of_succ_lt_succ enough)
          rw [onward] at later
          simp only [List.head?_cons, move, Option.map_some, Option.some_or, later]

end Plain

section Dup

variable {κ σ ν : Type} [LinearOrder κ] [LinearOrder σ]

-- The table read as one with several rows for the first part of its keys.
def seekKey (cursor : TableCursor (κ ×ₗ σ) ν) (key : κ) : Option ((κ ×ₗ σ) × ν) × TableCursor (κ ×ₗ σ) ν :=
  cursor.move (cursor.table.rows.find? (fun row => key ≤ (ofLex row.1).1))

def seekByKeySubkey (cursor : TableCursor (κ ×ₗ σ) ν) (key : κ) (subkey : σ) : Option ((κ ×ₗ σ) × ν) × TableCursor (κ ×ₗ σ) ν :=
  cursor.move (cursor.table.rows.find? (fun row => (ofLex row.1).1 = key && subkey ≤ (ofLex row.1).2))

def nextDup (cursor : TableCursor (κ ×ₗ σ) ν) : Option ((κ ×ₗ σ) × ν) × TableCursor (κ ×ₗ σ) ν :=
  cursor.move (cursor.position.bind (fun place =>
    cursor.table.rows.find? (fun row => (ofLex row.1).1 = (ofLex place).1 && (ofLex place).2 < (ofLex row.1).2)))

def nextNoDup (cursor : TableCursor (κ ×ₗ σ) ν) : Option ((κ ×ₗ σ) × ν) × TableCursor (κ ×ₗ σ) ν :=
  cursor.move (cursor.table.rows.find? (fun row => cursor.position.all (fun place => (ofLex place).1 < (ofLex row.1).1)))

variable (table : Table (κ ×ₗ σ) ν) (position : Option (κ ×ₗ σ))

theorem seek_by_key_subkey_present (key : κ) (subkey : σ) (value : ν) (present : table.get (toLex (key, subkey)) = some value) :
    (TableCursor.mk table position).seekByKeySubkey key subkey = (some (toLex (key, subkey), value), ⟨table, some (toLex (key, subkey))⟩) := by
  have found : table.rows.find? (fun row => decide ((ofLex row.1).1 = key) && decide (subkey ≤ (ofLex row.1).2)) =
      some (toLex (key, subkey), value) := by
    apply table.find_of_least _ _ ((table.get_eq_some _ value).mp present) (by simp)
    intro other _ passes
    rw [Bool.and_eq_true, decide_eq_true_eq, decide_eq_true_eq] at passes
    exact Prod.Lex.le_iff.mpr (.inr ⟨passes.1.symm, passes.2⟩)
  rw [seekByKeySubkey, found]
  rfl

-- The rows of the present key come first, then the first row of the next key.
theorem next_of_dup (row : (κ ×ₗ σ) × ν) (after : TableCursor (κ ×ₗ σ) ν)
    (moved : (TableCursor.mk table position).nextDup = (some row, after)) : next ⟨table, position⟩ = (some row, after) := by
  cases position with
  | none => cases moved
  | some place =>
      have found : table.rows.find? (fun row => decide ((ofLex row.1).1 = (ofLex place).1) && decide ((ofLex place).2 < (ofLex row.1).2)) =
        some row := congrArg Prod.fst moved
      obtain ⟨member, passes, least⟩ := table.find_least _ row found
      rw [Bool.and_eq_true, decide_eq_true_eq, decide_eq_true_eq] at passes
      have behind : place < row.1 := Prod.Lex.lt_iff.mpr (.inr ⟨passes.1.symm, passes.2⟩)
      have same : table.rows.find? (fun other => (some place).all (fun place => decide (place < other.1))) = some row := by
        apply table.find_of_least _ row member (by simpa using behind)
        intro other otherMember otherPasses
        have otherBehind : place < other.1 := by simpa using otherPasses
        rcases Prod.Lex.lt_iff.mp otherBehind with laterKey | ⟨sameKey, laterSubkey⟩
        · exact le_of_lt (Prod.Lex.lt_iff.mpr (.inl (passes.1 ▸ laterKey)))
        · exact least other otherMember (by simp [sameKey, laterSubkey])
      rw [← moved, next, nextDup, Option.bind_some, found, same]

theorem seek_key_of_next_no_dup (row : (κ ×ₗ σ) × ν) (after : TableCursor (κ ×ₗ σ) ν)
    (noDup : (TableCursor.mk table position).nextDup.1 = none) (moved : (TableCursor.mk table position).nextNoDup = (some row, after)) :
    after.seekKey (ofLex row.1).1 = next ⟨table, position⟩ := by
  have found : table.rows.find? (fun row => position.all (fun place => decide ((ofLex place).1 < (ofLex row.1).1))) = some row :=
    congrArg Prod.fst moved
  obtain ⟨member, passes, least⟩ := table.find_least _ row found
  rw [Option.all_eq_true] at passes
  have sought : table.rows.find? (fun other => decide ((ofLex row.1).1 ≤ (ofLex other.1).1)) = some row := by
    apply table.find_of_least _ row member (by simp)
    intro other otherMember otherPasses
    apply least other otherMember
    rw [Option.all_eq_true]
    intro place here
    exact decide_eq_true (lt_of_lt_of_le (of_decide_eq_true (passes place here)) (of_decide_eq_true otherPasses))
  have next : table.rows.find? (fun other => position.all (fun place => decide (place < other.1))) = some row := by
    apply table.find_of_least _ row member
    · rw [Option.all_eq_true]
      intro place here
      exact decide_eq_true (Prod.Lex.lt_iff.mpr (.inl (of_decide_eq_true (passes place here))))
    · intro other otherMember otherPasses
      apply least other otherMember
      rw [Option.all_eq_true] at otherPasses ⊢
      intro place here
      have behind : place < other.1 := of_decide_eq_true (otherPasses place here)
      rcases Prod.Lex.lt_iff.mp behind with laterKey | ⟨sameKey, laterSubkey⟩
      · exact decide_eq_true laterKey
      · rw [Option.mem_def.mp here] at noDup
        have nothing := List.find?_eq_none.mp noDup other otherMember
        simp [sameKey, laterSubkey] at nothing
  have reached : after = ⟨table, some row.1⟩ := by
    have moves : (TableCursor.mk table position).move (some row) = (some row, after) := by rw [← moved, nextNoDup, found]
    exact (congrArg Prod.snd moves).symm
  rw [reached, seekKey, sought, TableCursor.next, next]
  rfl

theorem next_none_of_dup (noDup : (TableCursor.mk table position).nextDup.1 = none)
    (noKey : (TableCursor.mk table position).nextNoDup.1 = none) : next ⟨table, position⟩ = (none, ⟨table, position⟩) := by
  have nothing : table.rows.find? (fun other => position.all (fun place => decide (place < other.1))) = none := by
    rw [List.find?_eq_none]
    intro other member passes
    have noLaterKey := List.find?_eq_none.mp noKey other member
    cases position with
    | none => exact noLaterKey rfl
    | some place =>
        have noLaterDup := List.find?_eq_none.mp noDup other member
        have behind : place < other.1 := by simpa using passes
        rcases Prod.Lex.lt_iff.mp behind with laterKey | ⟨sameKey, laterSubkey⟩
        · exact noLaterKey (by simpa using laterKey)
        · exact noLaterDup (by simp [sameKey, laterSubkey])
  rw [next, nothing]
  rfl

end Dup

end TableCursor

end MorphReth
