import MorphReth.Consensus.Validation

set_option autoImplicit false

namespace MorphReth.Consensus

open Rlp Transaction

def l1Indices (txs : List MorphTxEnvelope) : List Nat :=
  txs.filterMap (fun tx => tx.queueIndex.map BitVec.toNat)

def leadingL1 (txs : List MorphTxEnvelope) : List MorphTxEnvelope :=
  txs.takeWhile MorphTxEnvelope.isL1Msg

theorem l1_indices_cons_l1 (tx : MorphTxEnvelope) (txs : List MorphTxEnvelope) (index : U64) (found : tx.queueIndex = some index) :
    l1Indices (tx :: txs) = index.toNat :: l1Indices txs := by
  rw [l1Indices, List.filterMap_cons_some (by rw [found]; rfl)]
  rfl

theorem l1_indices_cons_l2 (tx : MorphTxEnvelope) (txs : List MorphTxEnvelope) (isL2 : ¬tx.isL1Msg = true) :
    l1Indices (tx :: txs) = l1Indices txs := by
  rw [l1Indices, List.filterMap_cons_none]
  · rfl
  · rw [queue_index_of_l2_tx tx (by simpa using isL2)]
    rfl

structure L1Step (scan : L1Scan) (index : U64) (next : L1Scan) : Prop where
  before : scan.sawL2Transaction = false
  order : ∀ prev, scan.prevQueueIndex = some prev → index.toNat = prev.toNat + 1
  after : next = { scan with prevQueueIndex := some index, l1MsgCount := scan.l1MsgCount + 1 }

theorem check_queue_order_ok (prev : Option U64) (index : U64) (accepted : checkQueueOrder prev index = .ok ()) (last : U64)
    (present : prev = some last) : index.toNat = last.toNat + 1 := by
  rw [present, checkQueueOrder] at accepted
  cases added : checkedAdd last 1 with
  | none => rw [added] at accepted; cases accepted
  | some expected =>
      rw [added, reject_if_ok, not_not] at accepted
      rw [accepted, checked_add_some last 1 expected added]
      rfl

theorem scan_tx_l1 (scan next : L1Scan) (tx : MorphTxEnvelope) (isL1 : tx.isL1Msg = true) (accepted : scanTx scan tx = .ok next) :
    ∃ index, tx.queueIndex = some index ∧ L1Step scan index next := by
  rw [scanTx, if_pos isL1, bind_ok] at accepted
  obtain ⟨_, first, accepted⟩ := accepted
  rw [reject_if_ok, Bool.not_eq_true] at first
  obtain ⟨index, found⟩ := queue_index_of_l1_msg tx isL1
  rw [found] at accepted
  obtain ⟨_, order, same⟩ := (bind_ok _ _ _).mp accepted
  cases same
  exact ⟨index, found, first, check_queue_order_ok scan.prevQueueIndex index order, rfl⟩

theorem scan_tx_l2 (scan next : L1Scan) (tx : MorphTxEnvelope) (isL2 : ¬tx.isL1Msg = true) (accepted : scanTx scan tx = .ok next) :
    next = { scan with sawL2Transaction := true } := by
  rw [scanTx, if_neg isL2] at accepted
  exact (Except.ok.inj accepted).symm

variable (txs : List MorphTxEnvelope)

theorem scan_after_l2 (scan final : L1Scan) (saw : scan.sawL2Transaction = true) (accepted : scanTxs scan txs = .ok final) :
    l1Indices txs = [] ∧ final = scan := by
  induction txs generalizing scan with
  | nil =>
      cases accepted
      exact ⟨rfl, rfl⟩
  | cons tx txs hypothesis =>
      obtain ⟨next, step, rest⟩ := (bind_ok _ _ _).mp accepted
      by_cases isL1 : tx.isL1Msg = true
      · obtain ⟨_, _, done⟩ := scan_tx_l1 scan next tx isL1 step
        rw [done.before] at saw
        cases saw
      · have same : next = scan := by
          rw [scan_tx_l2 scan next tx isL1 step, ← saw]
        rw [l1_indices_cons_l2 tx txs isL1]
        rw [same] at rest
        exact hypothesis scan saw rest

-- The indices a scan has accepted: one run of consecutive numbers that
-- continues the previous index, all of it before the first L2 transaction.
structure ScanResult (scan final : L1Scan) (txs : List MorphTxEnvelope) : Prop where
  run : ∃ first, l1Indices txs = List.range' first (l1Indices txs).length ∧
    (∀ prev, scan.prevQueueIndex = some prev → l1Indices txs ≠ [] → first = prev.toNat + 1)
  count : final.l1MsgCount = scan.l1MsgCount + (l1Indices txs).length
  last : final.prevQueueIndex.map BitVec.toNat = ((l1Indices txs).getLast?).or (scan.prevQueueIndex.map BitVec.toNat)
  leading : l1Indices (leadingL1 txs) = l1Indices txs

theorem scan_result_l1 (scan next final : L1Scan) (tx : MorphTxEnvelope) (txs : List MorphTxEnvelope) (index : U64)
    (isL1 : tx.isL1Msg = true) (found : tx.queueIndex = some index) (step : L1Step scan index next)
    (rest : ScanResult next final txs) : ScanResult scan final (tx :: txs) := by
  obtain ⟨⟨first, run, continues⟩, count, last, leading⟩ := rest
  rw [step.after] at count last continues
  refine ⟨⟨index.toNat, ?_, fun prev present _ => step.order prev present⟩, ?_, ?_, ?_⟩
  · rw [l1_indices_cons_l1 tx txs index found, List.length_cons, List.range'_succ]
    congr 1
    by_cases empty : l1Indices txs = []
    · rw [empty]
      rfl
    · rw [continues index rfl empty] at run
      exact run
  · rw [count, l1_indices_cons_l1 tx txs index found, List.length_cons]
    simp only
    omega
  · rw [last, l1_indices_cons_l1 tx txs index found]
    cases reached : (l1Indices txs).getLast? with
    | none => simp [List.getLast?_cons, reached]
    | some value => simp [List.getLast?_cons, reached]
  · rw [leadingL1, List.takeWhile_cons_of_pos isL1, l1_indices_cons_l1 tx _ index found, l1_indices_cons_l1 tx txs index found]
    congr 1

theorem scan_result (scan final : L1Scan) (before : scan.sawL2Transaction = false) (accepted : scanTxs scan txs = .ok final) :
    ScanResult scan final txs := by
  induction txs generalizing scan with
  | nil =>
      cases accepted
      exact ⟨⟨0, rfl, fun _ _ absurdity => absurd rfl absurdity⟩, rfl, rfl, rfl⟩
  | cons tx txs hypothesis =>
      obtain ⟨next, step, rest⟩ := (bind_ok _ _ _).mp accepted
      by_cases isL1 : tx.isL1Msg = true
      · obtain ⟨index, found, done⟩ := scan_tx_l1 scan next tx isL1 step
        have nextBefore : next.sawL2Transaction = false := by
          rw [done.after]
          exact before
        exact scan_result_l1 scan next final tx txs index isL1 found done (hypothesis next nextBefore rest)
      · -- Nothing but L2 transactions may follow.
        have saw := scan_tx_l2 scan next tx isL1 step
        obtain ⟨empty, same⟩ := scan_after_l2 txs next final (by rw [saw]) rest
        have none : l1Indices (tx :: txs) = [] := by
          rw [l1_indices_cons_l2 tx txs isL1, empty]
        rw [same, saw]
        refine ⟨⟨0, by rw [none]; rfl, fun _ _ nonempty => absurd none nonempty⟩, by rw [none]; rfl, by rw [none]; rfl, ?_⟩
        rw [leadingL1, List.takeWhile_cons_of_neg isL1, none]
        rfl

structure InBlockLaw (txs : List MorphTxEnvelope) (headerNext : U64) : Prop where
  run : ∃ first, l1Indices txs = List.range' first (l1Indices txs).length ∧
    (l1Indices txs ≠ [] → headerNext.toNat = first + (l1Indices txs).length)
  leading : l1Indices (leadingL1 txs) = l1Indices txs

theorem check_header_index_jade (headerNext : U64) (scan : L1Scan) (last : U64) (counted : 0 < scan.l1MsgCount)
    (present : scan.prevQueueIndex = some last) (accepted : checkHeaderIndex headerNext true scan = .ok ()) :
    headerNext.toNat = last.toNat + 1 := by
  rw [checkHeaderIndex, if_pos counted, present] at accepted
  simp only at accepted
  cases added : checkedAdd last 1 with
  | none => rw [added] at accepted; cases accepted
  | some expected =>
      rw [added] at accepted
      simp only [if_true] at accepted
      split at accepted
      · cases accepted
      · next same =>
          rw [not_not] at same
          rw [same, checked_add_some last 1 expected added]
          rfl

theorem in_block_law (headerNext : U64) (accepted : validateL1MessagesInBlock txs headerNext true = .ok ()) :
    InBlockLaw txs headerNext := by
  obtain ⟨final, scanned, checked⟩ := (bind_ok _ _ _).mp accepted
  obtain ⟨⟨first, run, _⟩, count, last, leading⟩ := scan_result txs L1Scan.start final rfl scanned
  refine ⟨⟨first, run, ?_⟩, leading⟩
  intro nonempty
  have positive := List.length_pos_of_ne_nil nonempty
  have lastIndex : (l1Indices txs).getLast? = some (first + (l1Indices txs).length - 1) := by
    rw [run, List.getLast?_range', List.length_range', if_neg (by omega)]
  rw [lastIndex] at last
  obtain ⟨found, present, same⟩ := Option.map_eq_some_iff.mp last
  have exact_ := check_header_index_jade headerNext final found (by rw [count]; simp only [L1Scan.start]; omega) present checked
  rw [exact_, same]
  omega

-- L1 messages come before every other transaction.
def L1First (txs : List MorphTxEnvelope) : Prop :=
  ∃ messages others, txs = messages ++ others ∧ (∀ tx ∈ messages, tx.isL1Msg = true) ∧ ∀ tx ∈ others, tx.isL1Msg = false

theorem L1First.append (txs others : List MorphTxEnvelope) (ordered : L1First txs) (l2 : ∀ tx ∈ others, tx.isL1Msg = false) :
    L1First (txs ++ others) := by
  obtain ⟨messages, rest, rfl, isL1, isL2⟩ := ordered
  refine ⟨messages, rest ++ others, List.append_assoc _ _ _, isL1, ?_⟩
  intro tx member
  rcases List.mem_append.mp member with earlier | later
  · exact isL2 tx earlier
  · exact l2 tx later

theorem l1_indices_append (txs others : List MorphTxEnvelope) : l1Indices (txs ++ others) = l1Indices txs ++ l1Indices others :=
  List.filterMap_append

theorem l1_indices_of_l2 (l2 : ∀ tx ∈ txs, tx.isL1Msg = false) : l1Indices txs = [] := by
  rw [l1Indices, List.filterMap_eq_nil_iff]
  intro tx member
  rw [queue_index_of_l2_tx tx (l2 tx member)]
  rfl

theorem scan_l2_accepts (scan : L1Scan) (l2 : ∀ tx ∈ txs, tx.isL1Msg = false) : ∃ final, scanTxs scan txs = .ok final := by
  induction txs generalizing scan with
  | nil => exact ⟨scan, rfl⟩
  | cons tx txs hypothesis =>
      obtain ⟨final, rest⟩ := hypothesis { scan with sawL2Transaction := true } (fun tx member => l2 tx (List.mem_cons_of_mem _ member))
      have step : scanTx scan tx = .ok { scan with sawL2Transaction := true } := by
        rw [scanTx, if_neg (by rw [l2 tx List.mem_cons_self]; decide)]
      exact ⟨final, by rw [scanTxs, step]; exact rest⟩

theorem checked_succ (index next : U64) (fits : next.toNat = index.toNat + 1) : checkedAdd index 1 = some next := by
  have width := next.isLt
  have sum : index.toNat + (1 : U64).toNat < 2 ^ 64 := by
    change index.toNat + 1 < 2 ^ 64
    omega
  rw [checkedAdd, if_pos sum, Option.some.injEq]
  apply BitVec.eq_of_toNat_eq
  rw [BitVec.toNat_add, Nat.mod_eq_of_lt sum, fits]
  rfl

theorem check_queue_order_accepts (prev : Option U64) (index : U64) (follows : ∀ last, prev = some last → index.toNat = last.toNat + 1) :
    checkQueueOrder prev index = .ok () := by
  cases prev with
  | none => rfl
  | some last =>
      rw [checkQueueOrder, checked_succ last index (follows last rfl), reject_if_ok, not_not]

-- The other direction of the scan: one run of consecutive indices in front of
-- the L2 transactions is accepted.
theorem scan_accepts (messages others : List MorphTxEnvelope) (scan : L1Scan) (first : Nat) (l1 : ∀ tx ∈ messages, tx.isL1Msg = true)
    (l2 : ∀ tx ∈ others, tx.isL1Msg = false) (run : l1Indices messages = List.range' first (l1Indices messages).length)
    (before : scan.sawL2Transaction = false) (follows : ∀ last, scan.prevQueueIndex = some last → first = last.toNat + 1) :
    ∃ final, scanTxs scan (messages ++ others) = .ok final := by
  induction messages generalizing scan first with
  | nil => exact scan_l2_accepts others scan l2
  | cons tx messages hypothesis =>
      have isL1 := l1 tx List.mem_cons_self
      obtain ⟨index, found⟩ := queue_index_of_l1_msg tx isL1
      rw [l1_indices_cons_l1 tx messages index found, List.length_cons, List.range'_succ, List.cons.injEq] at run
      have order := check_queue_order_accepts scan.prevQueueIndex index (fun last present => run.1.trans (follows last present))
      have step : scanTx scan tx = .ok { scan with prevQueueIndex := some index, l1MsgCount := scan.l1MsgCount + 1 } := by
        rw [scanTx, if_pos isL1, found]
        simp only [before, rejectIf, Bool.false_eq_true, if_false, order]
        rfl
      obtain ⟨final, rest⟩ := hypothesis { scan with prevQueueIndex := some index, l1MsgCount := scan.l1MsgCount + 1 } (first + 1)
        (fun tx member => l1 tx (List.mem_cons_of_mem _ member)) run.2 before (fun last present => by cases present; omega)
      exact ⟨final, by rw [List.cons_append, scanTxs, step]; exact rest⟩

theorem l1_messages_accepted (headerNext : U64) (first : Nat) (isJade : Bool) (ordered : L1First txs)
    (run : l1Indices txs = List.range' first (l1Indices txs).length) (next : headerNext.toNat = first + (l1Indices txs).length) :
    validateL1MessagesInBlock txs headerNext isJade = .ok () := by
  obtain ⟨messages, others, rfl, l1, l2⟩ := ordered
  have same : l1Indices (messages ++ others) = l1Indices messages := by
    rw [l1_indices_append, l1_indices_of_l2 others l2, List.append_nil]
  obtain ⟨final, scanned⟩ := scan_accepts messages others L1Scan.start first l1 l2 (same ▸ run) rfl (fun last absent => by cases absent)
  obtain ⟨_, count, last, _⟩ := scan_result _ L1Scan.start final rfl scanned
  rw [validateL1MessagesInBlock, scanned]
  change checkHeaderIndex headerNext isJade final = .ok ()
  rw [checkHeaderIndex]
  split
  · next counted =>
      have positive : 0 < (l1Indices (messages ++ others)).length := by
        simp only [count, L1Scan.start, Nat.zero_add] at counted
        exact counted
      rw [run, List.getLast?_range', if_neg (by omega)] at last
      obtain ⟨index, present, value⟩ := Option.map_eq_some_iff.mp last
      rw [present]
      simp only [checked_succ index headerNext (by omega), ne_eq, not_true_eq_false, BitVec.lt_irrefl, ite_self, if_false]
  · rfl

end MorphReth.Consensus
