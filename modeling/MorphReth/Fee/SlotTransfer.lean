import MorphReth.UndoLog
import MorphReth.Fee.Settlement

set_option autoImplicit false

namespace MorphReth.Fee.Checkpointed

open Rlp UndoLog

inductive EvmError where
  | database (message : String)
  | transaction (error : MorphInvalidTransaction)
  deriving DecidableEq

-- The journal entry of a storage write: the value the slot had before.
structure StorageChanged where
  address : Address
  key : U256
  hadValue : U256

def writeSlot (storage : Storage) (account : Address) (slot value : U256) : Storage :=
  fun address key => if address = account ∧ key = slot then value else storage address key

def StorageChanged.undo (entry : StorageChanged) (storage : Storage) : Storage :=
  writeSlot storage entry.address entry.key entry.hadValue

abbrev RevmJournal := Logged Storage StorageChanged

abbrev JournalM := EStateM EvmError RevmJournal

def writeLogged (log : RevmJournal) (account : Address) (slot value : U256) : RevmJournal :=
  log.record ⟨account, slot, log.state account slot⟩ (writeSlot log.state account slot value)

-- Any access of the journal may have to go to the database and fail there.
def databaseAccess (fault : Option String) : JournalM Unit :=
  match fault with
  | some message => throw (.database message)
  | none => pure ()

def loadAccountMut (fault : Option String) : JournalM Unit :=
  databaseAccess fault

def sload (fault : Option String) (account : Address) (slot : U256) : JournalM U256 := do
  databaseAccess fault
  let log ← get
  pure (log.state account slot)

def sstore (fault : Option String) (account : Address) (slot value : U256) : JournalM Unit := do
  databaseAccess fault
  modify (fun log => writeLogged log account slot value)

def orFail {α : Type} (value : Option α) (error : MorphInvalidTransaction) : JournalM α :=
  match value with
  | some value => pure value
  | none => throw (.transaction error)

-- Which of the five accesses of one transfer fail, if they are reached.
structure DatabaseFaults where
  account : Option String
  fromRead : Option String
  toRead : Option String
  fromWrite : Option String
  toWrite : Option String

def DatabaseFaults.clear : DatabaseFaults := ⟨none, none, none, none, none⟩

section Transfer

variable (keccak256 : Bytes → U256) (faults : DatabaseFaults) (source target token : Address) (tokenAmount tokenBalanceSlot : U256)

def moveBalance : JournalM (U256 × U256) := do
  let fromStorageSlot := computeMappingSlotForAddress keccak256 tokenBalanceSlot source
  let fromBalance ← sload faults.fromRead token fromStorageSlot
  let newFromBalance ← orFail (checkedSub fromBalance tokenAmount) (.insufficientTokenBalance tokenAmount fromBalance)
  let toStorageSlot := computeMappingSlotForAddress keccak256 tokenBalanceSlot target
  if fromStorageSlot = toStorageSlot then pure (fromStorageSlot, toStorageSlot)
  else
    let toBalance ← sload faults.toRead token toStorageSlot
    let newToBalance ← orFail (checkedAdd toBalance tokenAmount) (.tokenTransferFailed "recipient token balance overflow")
    sstore faults.fromWrite token fromStorageSlot newFromBalance
    sstore faults.toWrite token toStorageSlot newToBalance
    pure (fromStorageSlot, toStorageSlot)

-- The token account is loaded ahead of the checkpoint. Touching it marks the
-- account and changes no value.
def transferErc20WithSlot : JournalM (U256 × U256) := do
  loadAccountMut faults.account
  withCheckpoint StorageChanged.undo (moveBalance keccak256 faults source target token tokenAmount tokenBalanceSlot)

end Transfer

section Operations

variable (fault : Option String)

theorem database_access_ok (before after : RevmJournal) (value : Unit) :
    databaseAccess fault before = .ok value after ↔ fault = none ∧ after = before := by
  cases fault with
  | none =>
      constructor
      · intro passed
        cases passed
        exact ⟨rfl, rfl⟩
      · rintro ⟨_, same⟩
        rw [same]
        rfl
  | some message =>
      constructor
      · intro impossible
        cases impossible
      · rintro ⟨impossible, _⟩
        cases impossible

theorem access_bind_ok {α : Type} (fault : Option String) (next : Unit → JournalM α) (value : α) (before after : RevmJournal) :
    (databaseAccess fault >>= next) before = .ok value after ↔ fault = none ∧ next () before = .ok value after := by
  rw [program_bind_ok]
  constructor
  · rintro ⟨_, staged, passed, onward⟩
    obtain ⟨clear, same⟩ := (database_access_ok fault before staged _).mp passed
    rw [same] at onward
    exact ⟨clear, onward⟩
  · rintro ⟨clear, onward⟩
    exact ⟨(), before, (database_access_ok fault before before ()).mpr ⟨clear, rfl⟩, onward⟩

theorem sload_ok (account : Address) (slot value : U256) (before after : RevmJournal) :
    sload fault account slot before = .ok value after ↔ fault = none ∧ value = before.state account slot ∧ after = before := by
  rw [sload, access_bind_ok]
  constructor
  · rintro ⟨clear, read⟩
    cases read
    exact ⟨clear, rfl, rfl⟩
  · rintro ⟨clear, read, same⟩
    rw [read, same]
    exact ⟨clear, rfl⟩

theorem sstore_ok (account : Address) (slot written : U256) (value : Unit) (before after : RevmJournal) :
    sstore fault account slot written before = .ok value after ↔ fault = none ∧ after = writeLogged before account slot written := by
  rw [sstore, access_bind_ok]
  constructor
  · rintro ⟨clear, wrote⟩
    cases wrote
    exact ⟨clear, rfl⟩
  · rintro ⟨clear, wrote⟩
    rw [wrote]
    exact ⟨clear, rfl⟩

theorem or_fail_ok {α : Type} (found : Option α) (error : MorphInvalidTransaction) (value : α) (before after : RevmJournal) :
    orFail found error before = .ok value after ↔ found = some value ∧ after = before := by
  cases found with
  | none =>
      constructor
      · intro impossible
        cases impossible
      · rintro ⟨impossible, _⟩
        cases impossible
  | some found =>
      constructor
      · intro passed
        cases passed
        exact ⟨rfl, rfl⟩
      · rintro ⟨same, unchanged⟩
        cases same
        rw [unchanged]
        rfl

theorem write_slot_undone (storage : Storage) (account : Address) (slot value : U256) :
    StorageChanged.undo ⟨account, slot, storage account slot⟩ (writeSlot storage account slot value) = storage := by
  funext address key
  simp only [StorageChanged.undo, writeSlot]
  split
  · next same => rw [same.1, same.2]
  · rfl

theorem database_access_undoable : Undoable StorageChanged.undo (databaseAccess fault) := by
  cases fault with
  | none => exact undoable_pure ()
  | some message => exact undoable_throw (EvmError.database message)

theorem sload_undoable (account : Address) (slot : U256) : Undoable StorageChanged.undo (sload fault account slot) :=
  undoable_bind _ _ (database_access_undoable fault) (fun _ before => extends_refl before)

theorem sstore_undoable (account : Address) (slot value : U256) : Undoable StorageChanged.undo (sstore fault account slot value) :=
  undoable_bind _ _ (database_access_undoable fault)
    (fun _ before => extends_record before _ _ (write_slot_undone before.state account slot value))

theorem or_fail_undoable {α : Type} (found : Option α) (error : MorphInvalidTransaction) :
    Undoable StorageChanged.undo (orFail found error) := by
  cases found with
  | none => exact undoable_throw (EvmError.transaction error)
  | some value => exact undoable_pure value

end Operations

section Outcome

variable (keccak256 : Bytes → U256) (faults : DatabaseFaults) (source target token : Address) (tokenAmount tokenBalanceSlot : U256)

theorem move_balance_undoable :
    Undoable StorageChanged.undo (moveBalance keccak256 faults source target token tokenAmount tokenBalanceSlot) := by
  rw [moveBalance]
  refine undoable_bind _ _ (sload_undoable _ _ _) (fun fromBalance => ?_)
  refine undoable_bind _ _ (or_fail_undoable _ _) (fun newFromBalance => ?_)
  dsimp only
  split
  · exact undoable_pure _
  · refine undoable_bind _ _ (sload_undoable _ _ _) (fun toBalance => ?_)
    refine undoable_bind _ _ (or_fail_undoable _ _) (fun newToBalance => ?_)
    refine undoable_bind _ _ (sstore_undoable _ _ _ _) (fun _ => ?_)
    exact undoable_bind _ _ (sstore_undoable _ _ _ _) (fun _ => undoable_pure _)

-- What a successful transfer needs and leaves, as the pure transfer of the fee
-- handler computes it.
theorem move_balance_ok (before after : RevmJournal) (slots : U256 × U256)
    (moved : moveBalance keccak256 faults source target token tokenAmount tokenBalanceSlot before = .ok slots after) (journal : Journal)
    (same : journal.storage = before.state) :
    slots = (computeMappingSlotForAddress keccak256 tokenBalanceSlot source, computeMappingSlotForAddress keccak256 tokenBalanceSlot target) ∧
      ∃ written, Fee.transferErc20WithSlot keccak256 journal source target token tokenAmount tokenBalanceSlot = .ok written ∧
        after.state = written.storage := by
  simp only [moveBalance, program_bind_ok, sload_ok, or_fail_ok] at moved
  obtain ⟨fromBalance, _, ⟨_, read, unread⟩, newFromBalance, _, ⟨subtracted, unchanged⟩, moved⟩ := moved
  rw [unchanged, unread] at moved
  rw [read, ← same] at subtracted
  rw [Fee.transferErc20WithSlot]
  simp only [subtracted]
  split at moved
  · next shared =>
      cases moved
      rw [if_pos shared]
      exact ⟨rfl, journal, rfl, same.symm⟩
  · next distinct =>
      simp only [program_bind_ok, sload_ok, or_fail_ok, sstore_ok] at moved
      obtain ⟨toBalance, _, ⟨_, read, unread⟩, newToBalance, _, ⟨added, unchanged⟩, _, _, ⟨_, first⟩, _, _, ⟨_, second⟩, final⟩ := moved
      rw [read, ← same] at added
      cases final
      refine ⟨rfl, ?_⟩
      simp only [if_neg distinct, added]
      refine ⟨_, rfl, ?_⟩
      rw [second, first, unchanged, unread]
      simp only [writeLogged, Logged.record, Journal.sstore, same]
      rfl

theorem move_balance_succeeds (before : RevmJournal) (journal : Journal) (same : journal.storage = before.state) (written : Journal)
    (transferred : Fee.transferErc20WithSlot keccak256 journal source target token tokenAmount tokenBalanceSlot = .ok written) :
    ∃ slots after, moveBalance keccak256 .clear source target token tokenAmount tokenBalanceSlot before = .ok slots after := by
  simp only [Fee.transferErc20WithSlot, same] at transferred
  simp only [moveBalance, program_bind_ok, sload_ok, or_fail_ok]
  generalize computeMappingSlotForAddress keccak256 tokenBalanceSlot source = fromSlot at *
  generalize computeMappingSlotForAddress keccak256 tokenBalanceSlot target = toSlot at *
  split at transferred
  · cases transferred
  · next newFromBalance subtracted =>
      split at transferred
      · next shared =>
          refine ⟨(fromSlot, toSlot), before, _, _, ⟨rfl, rfl, rfl⟩, newFromBalance, before, ⟨subtracted, rfl⟩, ?_⟩
          rw [if_pos shared]
          rfl
      · next distinct =>
          split at transferred
          · cases transferred
          · next newToBalance added =>
              refine ⟨(fromSlot, toSlot), writeLogged (writeLogged before token fromSlot newFromBalance) token toSlot newToBalance, _, _,
                ⟨rfl, rfl, rfl⟩,
                newFromBalance, before, ⟨subtracted, rfl⟩, ?_⟩
              simp only [if_neg distinct, program_bind_ok, sload_ok, or_fail_ok, sstore_ok]
              exact ⟨_, _, ⟨rfl, rfl, rfl⟩, newToBalance, _, ⟨added, rfl⟩, (), _, ⟨rfl, rfl⟩, (), _, ⟨rfl, rfl⟩, rfl⟩

theorem transfer_ok (before after : RevmJournal) (slots : U256 × U256) :
    transferErc20WithSlot keccak256 faults source target token tokenAmount tokenBalanceSlot before = .ok slots after ↔
      faults.account = none ∧
        ∃ staged, moveBalance keccak256 faults source target token tokenAmount tokenBalanceSlot { before with depth := before.depth + 1 } =
          .ok slots staged ∧ after = { staged with depth := staged.depth - 1 } := by
  rw [transferErc20WithSlot, loadAccountMut, access_bind_ok, checkpoint_ok]

theorem transfer_error (before after : RevmJournal) (error : EvmError)
    (failed : transferErc20WithSlot keccak256 faults source target token tokenAmount tokenBalanceSlot before = .error error after) :
    after = before := by
  cases account : faults.account with
  | some message =>
      simp only [transferErc20WithSlot, loadAccountMut, account] at failed
      cases failed
      rfl
  | none =>
      simp only [transferErc20WithSlot, loadAccountMut, account] at failed
      exact (checkpoint_error _ (move_balance_undoable keccak256 faults source target token tokenAmount tokenBalanceSlot) before after error
        failed).1

end Outcome

structure Transferred (token : Address) (fromSlot toSlot : U256) (amount : Nat) (before after : Storage) : Prop where
  shared : fromSlot = toSlot → after = before
  moved : fromSlot ≠ toSlot → Moved token fromSlot toSlot amount before after
  total : (after token fromSlot).toNat + (after token toSlot).toNat = (before token fromSlot).toNat + (before token toSlot).toNat
  others : ∀ account slot, ¬(account = token ∧ (slot = fromSlot ∨ slot = toSlot)) → after account slot = before account slot

theorem transferred_of_pure (keccak256 : Bytes → U256) (journal written : Journal) (source target token : Address)
    (amount balanceSlot : U256)
    (transferred : Fee.transferErc20WithSlot keccak256 journal source target token amount balanceSlot = .ok written) :
    Transferred token (computeMappingSlotForAddress keccak256 balanceSlot source) (computeMappingSlotForAddress keccak256 balanceSlot target)
      amount.toNat journal.storage written.storage := by
  by_cases same : computeMappingSlotForAddress keccak256 balanceSlot source = computeMappingSlotForAddress keccak256 balanceSlot target
  · have unchanged : written.storage = journal.storage := by
      simp only [Fee.transferErc20WithSlot, if_pos same] at transferred
      split at transferred
      · cases transferred
      · cases transferred
        rfl
    rw [unchanged]
    exact ⟨fun _ => rfl, fun distinct => absurd same distinct, rfl, fun _ _ _ => rfl⟩
  · have moved := transfer_with_slot_moves keccak256 journal source target token amount balanceSlot written same transferred
    refine ⟨fun shared => absurd shared same, fun _ => moved, ?_, moved.others⟩
    rw [moved.credited, ← moved.debited]
    omega

theorem pure_transfer_ok (keccak256 : Bytes → U256) (journal : Journal) (source target token : Address) (amount balanceSlot : U256) :
    (∃ written, Fee.transferErc20WithSlot keccak256 journal source target token amount balanceSlot = .ok written) ↔
      amount.toNat ≤ (journal.storage token (computeMappingSlotForAddress keccak256 balanceSlot source)).toNat ∧
        (computeMappingSlotForAddress keccak256 balanceSlot source ≠ computeMappingSlotForAddress keccak256 balanceSlot target →
          (journal.storage token (computeMappingSlotForAddress keccak256 balanceSlot target)).toNat + amount.toNat < 2 ^ 256) := by
  simp only [Fee.transferErc20WithSlot, checkedSub, checkedAdd]
  constructor
  · rintro ⟨written, transferred⟩
    by_cases enough : amount.toNat ≤ (journal.storage token (computeMappingSlotForAddress keccak256 balanceSlot source)).toNat
    · refine ⟨enough, fun distinct => ?_⟩
      by_contra overflows
      simp only [if_pos enough, if_neg distinct, if_neg overflows] at transferred
      cases transferred
    · simp only [if_neg enough] at transferred
      cases transferred
  · rintro ⟨enough, fits⟩
    simp only [if_pos enough]
    by_cases same : computeMappingSlotForAddress keccak256 balanceSlot source = computeMappingSlotForAddress keccak256 balanceSlot target
    · simp only [if_pos same]
      exact ⟨journal, rfl⟩
    · simp only [if_neg same, if_pos (fits same)]
      exact ⟨_, rfl⟩

-- A fault may stop the transfer at any access, between the two writes included.
theorem slot_transfer_atomic (keccak256 : Bytes → U256) (source target token : Address) (tokenAmount tokenBalanceSlot : U256)
    (before : RevmJournal) :
    let fromSlot := computeMappingSlotForAddress keccak256 tokenBalanceSlot source
    let toSlot := computeMappingSlotForAddress keccak256 tokenBalanceSlot target
    (∀ faults slots after, transferErc20WithSlot keccak256 faults source target token tokenAmount tokenBalanceSlot before = .ok slots after →
        slots = (fromSlot, toSlot) ∧ Transferred token fromSlot toSlot tokenAmount.toNat before.state after.state) ∧
      (∀ faults error after, transferErc20WithSlot keccak256 faults source target token tokenAmount tokenBalanceSlot before = .error error after →
        after.state = before.state) ∧
      ((∃ slots after, transferErc20WithSlot keccak256 .clear source target token tokenAmount tokenBalanceSlot before = .ok slots after) ↔
        tokenAmount.toNat ≤ (before.state token fromSlot).toNat ∧
          (fromSlot ≠ toSlot → (before.state token toSlot).toNat + tokenAmount.toNat < 2 ^ 256)) := by
  intro fromSlot toSlot
  let journal : Journal := ⟨before.state, fun _ => 0, fun _ => 0⟩
  refine ⟨?_, ?_, ?_⟩
  · intro faults slots after succeeded
    obtain ⟨_, staged, moved, final⟩ :=
      (transfer_ok keccak256 faults source target token tokenAmount tokenBalanceSlot before after slots).mp succeeded
    obtain ⟨slotsSame, written, transferred, state⟩ :=
      move_balance_ok keccak256 faults source target token tokenAmount tokenBalanceSlot _ staged slots moved journal rfl
    have result := transferred_of_pure keccak256 journal written source target token tokenAmount tokenBalanceSlot transferred
    rw [← state] at result
    rw [final]
    exact ⟨slotsSame, result⟩
  · intro faults error after failed
    rw [transfer_error keccak256 faults source target token tokenAmount tokenBalanceSlot before after error failed]
  · rw [← pure_transfer_ok keccak256 journal]
    constructor
    · rintro ⟨slots, after, succeeded⟩
      obtain ⟨_, staged, moved, _⟩ := (transfer_ok keccak256 .clear source target token tokenAmount tokenBalanceSlot before after slots).mp succeeded
      obtain ⟨_, written, transferred, _⟩ :=
        move_balance_ok keccak256 .clear source target token tokenAmount tokenBalanceSlot _ staged slots moved journal rfl
      exact ⟨written, transferred⟩
    · rintro ⟨written, transferred⟩
      obtain ⟨slots, staged, moved⟩ := move_balance_succeeds keccak256 source target token tokenAmount tokenBalanceSlot
        { before with depth := before.depth + 1 } journal rfl written transferred
      exact ⟨slots, _, (transfer_ok keccak256 .clear source target token tokenAmount tokenBalanceSlot before _ slots).mpr ⟨rfl, staged, moved, rfl⟩⟩

end MorphReth.Fee.Checkpointed
