import MorphReth.Proofs.Cursor

set_option autoImplicit false

namespace MorphReth.Proofs

theorem bottom_path (path : Nibbles) : (default : Nibbles) ≤ path :=
  le_of_not_gt (fun less => (by cases less))

theorem bottom_hash (hash : B256) : (default : B256) ≤ hash :=
  Nat.zero_le hash.toNat

section Versioned

variable {κ ν : Type} [LinearOrder κ]

-- What a table holds for a key at a block: the greatest version not above it,
-- with a tombstone read as nothing.
def viewAt (table : HistoryTable κ ν) (block : Nat) (key : κ) : Option ν :=
  (latest (table.versions key) block).join

def Holds (table : HistoryTable κ ν) (key : κ) : Prop :=
  ∃ version value, table.versions key version = some value

variable (table : HistoryTable κ ν)

theorem view_of_absent (block : Nat) (key : κ) (absent : ¬Holds table key) : viewAt table block key = none := by
  have nothing : latest (table.versions key) block = none := by
    rw [latest_eq_none]
    intro version _
    rw [Option.eq_none_iff_forall_ne_some]
    exact fun value stored => absent ⟨version, value, stored⟩
  rw [viewAt, nothing]
  rfl

theorem first_key_none (test : κ → Bool) (missing : table.first (fun other _ => test other) = none) (key : κ) (passes : test key = true) :
    ¬Holds table key := by
  rintro ⟨version, value, stored⟩
  cases (table.first_none _ missing key version passes).symm.trans stored

theorem first_key_some (test : κ → Bool) (row : DupRow κ (Option ν)) (hit : table.first (fun other _ => test other) = some row) :
    table.versions row.key row.subkey = some row.value ∧ test row.key = true ∧ ∀ key, test key = true → key < row.key → ¬Holds table key := by
  obtain ⟨stored, passes, least⟩ := table.first_some _ _ hit
  refine ⟨stored, passes, fun key keyPasses less holds => ?_⟩
  obtain ⟨version, value, present⟩ := holds
  cases least key version value present keyPasses with
  | inl more => exact lt_asymm less more
  | inr same => exact absurd same.1.symm (ne_of_lt less)

-- Rows a walk starting at a key can still meet.
def rowsFrom (table : HistoryTable κ ν) (key : κ) : Nat :=
  (table.rows.filter (fun entry => key ≤ (ofLex entry.1).1)).length

theorem rows_from_fewer (low high : κ) (less : low < high) (holds : Holds table low) : rowsFrom table high < rowsFrom table low := by
  obtain ⟨version, value, stored⟩ := holds
  have split : table.rows.filter (fun entry => high ≤ (ofLex entry.1).1) =
      (table.rows.filter (fun entry => low ≤ (ofLex entry.1).1)).filter (fun entry => high ≤ (ofLex entry.1).1) := by
    rw [List.filter_filter]
    refine List.filter_congr fun entry _ => ?_
    by_cases above : high ≤ (ofLex entry.1).1
    · simp [above, le_trans (le_of_lt less) above]
    · simp [above]
  rw [rowsFrom, split]
  refine List.length_filter_lt_length_iff_exists.mpr ⟨(toLex (low, version), value), ?_, ?_⟩
  · exact List.mem_filter.mpr ⟨(table.mem_rows _ _ _).mp stored, by simp⟩
  · exact fun passes => absurd (of_decide_eq_true passes) (not_le_of_gt less)

-- A call keeps the table and the bound.
structure Kept (before after : BlockNumberVersionedCursor κ ν) : Prop where
  table : after.cursor.table = before.cursor.table
  bound : after.maxBlockNumber = before.maxBlockNumber

namespace BlockNumberVersionedCursor

structure LatestVersion (before : BlockNumberVersionedCursor κ ν) (key : κ) (result : Option (DupRow κ (Option ν)))
    (after : BlockNumberVersionedCursor κ ν) : Prop where
  value : result.map DupRow.value = latest (before.cursor.table.versions key) before.maxBlockNumber
  sameKey : ∀ row, result = some row → row.key = key
  kept : Kept before after
  standing : Holds before.cursor.table key → after.cursor.AtKey key

-- A live entry handed out, with the cursor standing on its key.
structure Yields (before : BlockNumberVersionedCursor κ ν) (test : κ → Prop) (result : Option (κ × ν))
    (after : BlockNumberVersionedCursor κ ν) : Prop where
  first : FirstLive (viewAt before.cursor.table before.maxBlockNumber) test result
  kept : Kept before after
  standing : ∀ key value, result = some (key, value) → after.cursor.AtKey key

variable (self : BlockNumberVersionedCursor κ ν)

theorem latest_of_row_above (key : κ) (subkey : Nat) (value : Option ν)
    (sought : self.cursor.table.first (fun other version => decide (other = key) && decide (self.maxBlockNumber ≤ version)) =
      some ⟨key, subkey, value⟩) (stored : self.cursor.table.versions key subkey = some value) (reached : self.maxBlockNumber ≤ subkey)
    (nearest : ∀ version other, self.cursor.table.versions key version = some other → self.maxBlockNumber ≤ version → subkey ≤ version) :
    self.LatestVersion key (self.latestVersionForKey key).1 (self.latestVersionForKey key).2 := by
  by_cases beyond : self.maxBlockNumber < subkey
  · -- the row found is too new, so the answer is the row before it
    cases previous : self.cursor.table.last (fun other version => decide (other = key) && decide (version < subkey)) with
    | none =>
        have call : self.latestVersionForKey key = (none, { self with cursor := (self.cursor.move (some ⟨key, subkey, value⟩)).2 }) := by
          simp [latestVersionForKey, DupCursor.seekByKeySubkey, sought, DupCursor.move, beyond, DupCursor.prevDup, previous]
        rw [call]
        refine ⟨?_, fun row found => (by cases found), ⟨rfl, rfl⟩, fun _ => ⟨subkey, value, rfl, stored⟩⟩
        refine ((latest_eq_none _ _).mpr fun version within => ?_).symm
        exact self.cursor.table.last_none _ previous key version (by simp; omega)
    | some row =>
        obtain ⟨rowStored, passes, greatest⟩ := self.cursor.table.last_some _ _ previous
        rw [Bool.and_eq_true, decide_eq_true_eq, decide_eq_true_eq] at passes
        obtain ⟨rowKey, older⟩ := passes
        have call : self.latestVersionForKey key =
            (some row, { self with cursor := ((self.cursor.move (some ⟨key, subkey, value⟩)).2.move (some row)).2 }) := by
          simp [latestVersionForKey, DupCursor.seekByKeySubkey, sought, DupCursor.move, beyond, DupCursor.prevDup, previous]
        rw [rowKey] at rowStored
        have within : row.subkey ≤ self.maxBlockNumber := by
          by_contra above
          have := nearest row.subkey row.value rowStored (by omega)
          omega
        rw [call]
        refine ⟨?_, fun found same => (by cases same; exact rowKey), ⟨rfl, rfl⟩,
          fun _ => ⟨row.subkey, row.value, by rw [← rowKey]; rfl, rowStored⟩⟩
        refine ((latest_eq_some _ _ _).mpr ⟨row.subkey, within, rowStored, fun later above atMost => ?_⟩).symm
        rw [Option.eq_none_iff_forall_ne_some]
        intro other present
        cases greatest key later other present (by simp; omega) with
        | inl less => exact absurd rowKey.symm (ne_of_lt less)
        | inr same => omega
  · have exactly : subkey = self.maxBlockNumber := by omega
    have call : self.latestVersionForKey key =
        (some ⟨key, subkey, value⟩, { self with cursor := (self.cursor.move (some ⟨key, subkey, value⟩)).2 }) := by
      simp [latestVersionForKey, DupCursor.seekByKeySubkey, sought, DupCursor.move, beyond]
    rw [call]
    refine ⟨?_, fun found same => (by cases same; rfl), ⟨rfl, rfl⟩, fun _ => ⟨subkey, value, rfl, stored⟩⟩
    rw [← exactly]
    exact (latest_present _ _ _ stored).symm

theorem latest_of_no_row_above (key : κ)
    (sought : self.cursor.table.first (fun other version => decide (other = key) && decide (self.maxBlockNumber ≤ version)) = none) :
    self.LatestVersion key (self.latestVersionForKey key).1 (self.latestVersionForKey key).2 := by
  have below : ∀ version value, self.cursor.table.versions key version = some value → version < self.maxBlockNumber := by
    intro version value present
    by_contra above
    cases (self.cursor.table.first_none _ sought key version (by simp; omega)).symm.trans present
  cases present : self.cursor.table.first (fun other _ => decide (other = key)) with
  | none =>
      have call : self.latestVersionForKey key = (none, self) := by
        simp [latestVersionForKey, DupCursor.seekByKeySubkey, sought, DupCursor.move, DupCursor.seekExact, present]
      have nothing : ∀ version, self.cursor.table.versions key version = none :=
        fun version => self.cursor.table.first_none _ present key version (by simp)
      rw [call]
      refine ⟨((latest_eq_none _ _).mpr fun version _ => nothing version).symm, fun row found => (by cases found), ⟨rfl, rfl⟩, ?_⟩
      rintro ⟨version, value, stored⟩
      cases (nothing version).symm.trans stored
  | some head =>
      obtain ⟨headStored, headPasses, _⟩ := self.cursor.table.first_some _ _ present
      have headKey : head.key = key := by simpa using headPasses
      cases final : self.cursor.table.last (fun other _ => decide (other = key)) with
      | none => cases (self.cursor.table.last_none _ final _ _ (by simpa using headKey)).symm.trans headStored
      | some row =>
          obtain ⟨rowStored, passes, greatest⟩ := self.cursor.table.last_some _ _ final
          have rowKey : row.key = key := by simpa using passes
          have call : self.latestVersionForKey key =
              (some ⟨key, row.subkey, row.value⟩, { self with cursor := ((self.cursor.move (some head)).2.move (some row)).2 }) := by
            simp [latestVersionForKey, DupCursor.seekByKeySubkey, sought, DupCursor.move, DupCursor.seekExact, present, DupCursor.lastDup,
              headKey, final]
          rw [rowKey] at rowStored
          rw [call]
          refine ⟨?_, fun found same => (by cases same; rfl), ⟨rfl, rfl⟩, fun _ => ⟨row.subkey, row.value, by rw [← rowKey]; rfl, rowStored⟩⟩
          refine ((latest_eq_some _ _ _).mpr ⟨row.subkey, Nat.le_of_lt (below _ _ rowStored), rowStored, fun later above _ => ?_⟩).symm
          rw [Option.eq_none_iff_forall_ne_some]
          intro other stored
          cases greatest key later other stored (by simp) with
          | inl less => exact absurd rowKey.symm (ne_of_lt less)
          | inr same => omega

theorem latest_version_for_key (key : κ) : self.LatestVersion key (self.latestVersionForKey key).1 (self.latestVersionForKey key).2 := by
  cases sought : self.cursor.table.first (fun other version => decide (other = key) && decide (self.maxBlockNumber ≤ version)) with
  | none => exact self.latest_of_no_row_above key sought
  | some row =>
      obtain ⟨stored, passes, least⟩ := self.cursor.table.first_some _ _ sought
      rw [Bool.and_eq_true, decide_eq_true_eq, decide_eq_true_eq] at passes
      obtain ⟨rowKey, subkey, value⟩ := row
      obtain ⟨rfl, reached⟩ := passes
      refine self.latest_of_row_above rowKey subkey value sought stored reached (fun version other present above => ?_)
      cases least rowKey version other present (by simp [above]) with
      | inl less => exact absurd rfl (ne_of_lt less)
      | inr same => exact same.2

theorem seek_exact_view (key : κ) :
    (self.seekExact key).1 = (viewAt self.cursor.table self.maxBlockNumber key).map (fun value => (key, value)) ∧
      Kept self (self.seekExact key).2 ∧ (Holds self.cursor.table key → (self.seekExact key).2.cursor.AtKey key) := by
  obtain ⟨value, sameKey, kept, standing⟩ := self.latest_version_for_key key
  refine ⟨?_, kept, standing⟩
  rw [seekExact, viewAt, ← value]
  cases found : (self.latestVersionForKey key).1 with
  | none => rfl
  | some row =>
      rw [Option.bind_some, sameKey row found, Option.map_some]
      rfl

theorem kept_trans (middle after : BlockNumberVersionedCursor κ ν) (first : Kept self middle) (second : Kept middle after) :
    Kept self after :=
  ⟨second.table.trans first.table, second.bound.trans first.bound⟩

theorem yields_of_kept (middle after : BlockNumberVersionedCursor κ ν) (test : κ → Prop) (result : Option (κ × ν)) (kept : Kept self middle)
    (yields : middle.Yields test result after) : self.Yields test result after := by
  refine ⟨?_, self.kept_trans middle after kept yields.kept, yields.standing⟩
  rw [← kept.table, ← kept.bound]
  exact yields.first

-- Keys between the place of a walk and the next row hold nothing.
theorem yields_extend (after : BlockNumberVersionedCursor κ ν) (test : κ → Prop) (nextKey : κ) (result : Option (κ × ν))
    (nothing : ∀ key, test key → key < nextKey → viewAt self.cursor.table self.maxBlockNumber key = none)
    (covered : ∀ key, nextKey ≤ key → test key) (yields : self.Yields (fun key => nextKey ≤ key) result after) :
    self.Yields test result after := by
  refine ⟨first_live_widen _ _ _ _ covered (fun key passes below => ?_) yields.first, yields.kept, yields.standing⟩
  exact nothing key passes (lt_of_not_ge below)

-- By induction on the fuel: a key without a live version is left for the next
-- distinct key, and fewer rows remain from there.
theorem next_live_from (fuel : Nat) (firstKey : κ) (holds : Holds self.cursor.table firstKey)
    (enough : rowsFrom self.cursor.table firstKey ≤ fuel) :
    self.Yields (fun key => firstKey ≤ key) (nextLiveFrom fuel self firstKey).1 (nextLiveFrom fuel self firstKey).2 := by
  induction fuel generalizing self firstKey with
  | zero =>
      obtain ⟨version, value, stored⟩ := holds
      have member : (toLex (firstKey, version), value) ∈ self.cursor.table.rows.filter (fun entry => firstKey ≤ (ofLex entry.1).1) :=
        List.mem_filter.mpr ⟨(self.cursor.table.mem_rows _ _ _).mp stored, by simp⟩
      rw [List.length_eq_zero_iff.mp (Nat.le_zero.mp enough)] at member
      cases member
  | succ fuel ih =>
      obtain ⟨result, kept, standing⟩ := self.seek_exact_view firstKey
      cases held : viewAt self.cursor.table self.maxBlockNumber firstKey with
      | some value =>
          rw [held, Option.map_some] at result
          have call : nextLiveFrom (fuel + 1) self firstKey = (some (firstKey, value), (self.seekExact firstKey).2) := by
            simp only [nextLiveFrom, result]
          rw [call]
          refine ⟨⟨le_refl _, held, fun other reached less => absurd reached (not_le_of_gt less)⟩, kept, fun key found same => ?_⟩
          cases same
          exact standing holds
      | none =>
          rw [held, Option.map_none] at result
          obtain ⟨subkey, stored, position, present⟩ := standing holds
          cases moved : self.cursor.table.first (fun other _ => decide (firstKey < other)) with
          | none =>
              have call : nextLiveFrom (fuel + 1) self firstKey = (none, (self.seekExact firstKey).2) := by
                simp [nextLiveFrom, result, DupCursor.nextNoDup, position, kept.table, moved, DupCursor.move_none]
              rw [call]
              refine ⟨fun key reached => ?_, kept, fun key value same => (by cases same)⟩
              cases lt_or_eq_of_le reached with
              | inl more => exact view_of_absent _ _ _ (first_key_none _ _ moved key (decide_eq_true more))
              | inr same =>
                  rw [← same]
                  exact held
          | some row =>
              obtain ⟨rowStored, passes, between⟩ := first_key_some _ _ _ moved
              have more : firstKey < row.key := of_decide_eq_true passes
              have rowHolds : Holds self.cursor.table row.key := ⟨row.subkey, row.value, rowStored⟩
              let onward : BlockNumberVersionedCursor κ ν :=
                { (self.seekExact firstKey).2 with cursor := ((self.seekExact firstKey).2.cursor.move (some row)).2 }
              have call : nextLiveFrom (fuel + 1) self firstKey = nextLiveFrom fuel onward row.key := by
                simp [nextLiveFrom, result, DupCursor.nextNoDup, position, kept.table, moved, DupCursor.move, onward]
              have onwardKept : Kept self onward := ⟨kept.table, kept.bound⟩
              have fewer := rows_from_fewer self.cursor.table firstKey row.key more holds
              rw [call]
              refine self.yields_extend _ _ row.key _ (fun key reached less => ?_) (fun key above => le_trans (le_of_lt more) above)
                (self.yields_of_kept onward _ _ _ onwardKept (ih onward row.key (by rw [onwardKept.table]; exact rowHolds)
                  (by rw [onwardKept.table]; omega)))
              cases lt_or_eq_of_le reached with
              | inl above => exact view_of_absent _ _ _ (between key (decide_eq_true above) less)
              | inr same =>
                  rw [← same]
                  exact held

theorem rows_from_visits (key : κ) : rowsFrom self.cursor.table key ≤ self.visits :=
  List.length_filter_le _ _

-- A walk that starts on the first row passing a test yields the first live key
-- passing it.
theorem yields_from_row (test : κ → Bool) (row : DupRow κ (Option ν)) (hit : self.cursor.table.first (fun other _ => test other) = some row)
    (upward : ∀ low high, test low = true → low ≤ high → test high = true) :
    self.Yields (fun key => test key = true)
      (nextLiveFrom self.visits { self with cursor := (self.cursor.move (some row)).2 } row.key).1
      (nextLiveFrom self.visits { self with cursor := (self.cursor.move (some row)).2 } row.key).2 := by
  obtain ⟨stored, passes, between⟩ := first_key_some _ _ _ hit
  refine self.yields_extend _ _ row.key _ (fun key keyPasses less => view_of_absent _ _ _ (between key keyPasses less))
    (fun key above => upward row.key key passes above) ?_
  exact self.yields_of_kept { self with cursor := (self.cursor.move (some row)).2 } _ _ _ ⟨rfl, rfl⟩
    (next_live_from _ self.visits row.key ⟨row.subkey, row.value, stored⟩ (self.rows_from_visits row.key))

theorem yields_nothing (test : κ → Bool) (missing : self.cursor.table.first (fun other _ => test other) = none) :
    self.Yields (fun key => test key = true) none { self with cursor := (self.cursor.move none).2 } :=
  ⟨fun key passes => view_of_absent _ _ _ (first_key_none _ _ missing key passes), ⟨rfl, rfl⟩, fun key value same => (by cases same)⟩

theorem seek_yields (startKey : κ) : self.Yields (fun key => startKey ≤ key) (self.seek startKey).1 (self.seek startKey).2 := by
  have yields : self.Yields (fun key => decide (startKey ≤ key) = true) (self.seek startKey).1 (self.seek startKey).2 := by
    rw [seek, DupCursor.seek]
    cases hit : self.cursor.table.first (fun other _ => decide (startKey ≤ other)) with
    | none => exact self.yields_nothing _ hit
    | some row => exact self.yields_from_row _ row hit (fun low high passes more => by simp at passes ⊢; exact le_trans passes more)
  simpa only [decide_eq_true_eq] using yields

theorem next_yields [Inhabited κ] (place : κ) (here : self.cursor.AtKey place) :
    self.Yields (fun key => place < key) self.next.1 self.next.2 := by
  have positioned : self.isPositioned = true := self.cursor.current_of_at_key place here
  obtain ⟨subkey, value, position, stored⟩ := here
  have yields : self.Yields (fun key => decide (place < key) = true) self.next.1 self.next.2 := by
    rw [next, if_pos positioned, DupCursor.nextNoDup, position]
    simp only [Option.all_some]
    cases hit : self.cursor.table.first (fun other _ => decide (place < other)) with
    | none => exact self.yields_nothing _ hit
    | some row => exact self.yields_from_row _ row hit (fun low high passes more => by simp at passes ⊢; exact lt_of_lt_of_le passes more)
  simpa only [decide_eq_true_eq] using yields

end BlockNumberVersionedCursor

end Versioned

section Plain

variable {κ ν : Type} [LinearOrder κ] (table : HistoryTable κ ν) (block : Nat)

-- A cursor over a table at a block, standing on a key.
structure Standing (place : κ) (state : BlockNumberVersionedCursor κ ν) : Prop where
  table : state.cursor.table = table
  bound : state.maxBlockNumber = block
  here : state.cursor.AtKey place

theorem standing_holds (place : κ) (state : BlockNumberVersionedCursor κ ν) (standing : Standing table block place state) :
    Holds table place := by
  obtain ⟨subkey, value, _, stored⟩ := standing.here
  rw [standing.table] at stored
  exact ⟨subkey, value, stored⟩

theorem next_from_standing [Inhabited κ] (place : κ) (state : BlockNumberVersionedCursor κ ν) (standing : Standing table block place state) :
    FirstLive (viewAt table block) (fun key => place < key) state.next.1 ∧
      ∀ key value, state.next.1 = some (key, value) → Standing table block key state.next.2 := by
  obtain ⟨first, kept, moved⟩ := state.next_yields place standing.here
  rw [standing.table, standing.bound] at first
  exact ⟨first, fun key value found => ⟨kept.table.trans standing.table, kept.bound.trans standing.bound, moved key value found⟩⟩

theorem new_seek (startKey : κ) :
    FirstLive (viewAt table block) (fun key => startKey ≤ key) ((BlockNumberVersionedCursor.new table block).seek startKey).1 ∧
      ∀ key value, ((BlockNumberVersionedCursor.new table block).seek startKey).1 = some (key, value) →
        Standing table block key ((BlockNumberVersionedCursor.new table block).seek startKey).2 := by
  obtain ⟨first, kept, moved⟩ := (BlockNumberVersionedCursor.new table block).seek_yields startKey
  exact ⟨first, fun key value found => ⟨kept.table, kept.bound, moved key value found⟩⟩

theorem table_walks_up [Inhabited κ] :
    WalksUp BlockNumberVersionedCursor.next (viewAt table block) (fun state place => Standing table block place state)
      (rowsFrom table) where
  step state place standing := next_from_standing table block place state standing
  fewer state place key standing less :=
    rows_from_fewer table place key less (standing_holds table block place state standing)

theorem rows_from_bound (key : κ) : rowsFrom table key < table.rows.length + 1 :=
  Nat.lt_succ_of_le (List.length_filter_le _ _)

-- The entries that a walk over a whole table hands out.
theorem drain_table [Inhabited κ] (least : ∀ key : κ, default ≤ key) :
    Lists (viewAt table block) (fun key => default ≤ key)
      (drain BlockNumberVersionedCursor.next (table.rows.length + 2) (BlockNumberVersionedCursor.new table block)) := by
  obtain ⟨first, moved⟩ := new_seek table block default
  exact drain_from _ _ _ _ (table_walks_up table block) _ (fun _ high _ _ => least high) (table.rows.length + 1) _ first moved
    (rows_from_bound table)

end Plain

section AddressBound

variable {σ ν : Type}

theorem of_address_some (address : B256) (result : Option (AddressKey σ × ν)) (sub : σ) (value : ν)
    (found : ofAddress address result = some (sub, value)) : result = some (toLex (address, sub), value) := by
  cases result with
  | none => cases found
  | some entry =>
      rw [ofAddress, Option.bind_some] at found
      split at found
      · next same =>
          cases found
          rw [← same]
          rfl
      · cases found

variable [LinearOrder σ]

theorem of_address_first (view : AddressKey σ → Option ν) (address : B256) (test : AddressKey σ → Prop)
    (above : ∀ key, test key → address ≤ (ofLex key).1) (result : Option (AddressKey σ × ν)) (first : FirstLive view test result) :
    FirstLive (fun sub => view (toLex (address, sub))) (fun sub => test (toLex (address, sub))) (ofAddress address result) := by
  cases result with
  | none => exact fun sub passes => first _ passes
  | some entry =>
      obtain ⟨key, value⟩ := entry
      obtain ⟨passes, held, least⟩ := first
      by_cases same : (ofLex key).1 = address
      · subst same
        rw [ofAddress, Option.bind_some, if_pos rfl]
        exact ⟨passes, held, fun sub subPasses less => least _ subPasses (Prod.Lex.lt_iff.mpr (.inr ⟨rfl, less⟩))⟩
      · rw [ofAddress, Option.bind_some, if_neg same]
        intro sub subPasses
        refine least _ subPasses (Prod.Lex.lt_iff.mpr (.inl ?_))
        exact lt_of_le_of_ne (above key passes) (Ne.symm same)

variable (table : HistoryTable (AddressKey σ) ν) (block : Nat) (address : B256)

-- The part of a view below an address.
def addressView (sub : σ) : Option ν :=
  viewAt table block (toLex (address, sub))

theorem address_next [Inhabited σ] (place : σ) (state : BlockNumberVersionedCursor (AddressKey σ) ν)
    (standing : Standing table block (toLex (address, place)) state) :
    FirstLive (addressView table block address) (fun sub => place < sub) (ofAddress address state.next.1) ∧
      ∀ sub value, ofAddress address state.next.1 = some (sub, value) → Standing table block (toLex (address, sub)) state.next.2 := by
  obtain ⟨first, moved⟩ := next_from_standing table block _ state standing
  refine ⟨?_, fun sub value found => moved _ value (of_address_some address _ sub value found)⟩
  have bound := of_address_first _ address _ (fun key above => Prod.Lex.monotone_fst (toLex (address, place)) key (le_of_lt above)) _ first
  change FirstLive (fun sub => viewAt table block (toLex (address, sub))) _ _
  simpa only [Prod.Lex.toLex_lt_toLex, lt_irrefl, false_or, true_and] using bound

theorem address_seek (startSub : σ) :
    FirstLive (addressView table block address) (fun sub => startSub ≤ sub)
        (ofAddress address ((BlockNumberVersionedCursor.new table block).seek (toLex (address, startSub))).1) ∧
      ∀ sub value, ofAddress address ((BlockNumberVersionedCursor.new table block).seek (toLex (address, startSub))).1 = some (sub, value) →
        Standing table block (toLex (address, sub)) ((BlockNumberVersionedCursor.new table block).seek (toLex (address, startSub))).2 := by
  obtain ⟨first, moved⟩ := new_seek table block (toLex (address, startSub))
  refine ⟨?_, fun sub value found => moved _ value (of_address_some address _ sub value found)⟩
  have bound := of_address_first _ address _ (fun key above => Prod.Lex.monotone_fst (toLex (address, startSub)) key above) _ first
  change FirstLive (fun sub => viewAt table block (toLex (address, sub))) _ _
  simpa only [Prod.Lex.toLex_le_toLex, lt_irrefl, false_or, true_and] using bound

theorem address_fewer (place sub : σ) (state : BlockNumberVersionedCursor (AddressKey σ) ν)
    (standing : Standing table block (toLex (address, place)) state) (less : place < sub) :
    rowsFrom table (toLex (address, sub)) < rowsFrom table (toLex (address, place)) :=
  rows_from_fewer table _ _ (Prod.Lex.toLex_lt_toLex.mpr (.inr ⟨rfl, less⟩))
    (standing_holds table block _ state standing)

end AddressBound

end MorphReth.Proofs
