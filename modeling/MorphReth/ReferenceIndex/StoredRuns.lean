import MorphReth.ReferenceIndex.Branches
import MorphReth.ReferenceIndex.StoredRefinement

set_option autoImplicit false

namespace MorphReth.ReferenceIndex

open Rlp

-- The transactions the runtime and the queries run against the index tables.
inductive IndexCommand where
  | commitBatch (jadeFirstBlock expectedStart : Nat) (blocks : List CanonicalBlock) (finalized : Option Nat)
  | rollbackBatch (ancestor : Option Nat) (batchSize : Nat)
  | query (query : ReferenceQuery) (canonicalTip : CanonicalTip)
  | readBlockHash (blockNumber : Nat)

inductive IndexReply where
  | written (references : Nat)
  | rolledBack (again : Bool)
  | page (results : List ReferenceTransactionResult)
  | hash (value : Option B256)
  deriving DecidableEq, Repr

def StoredDb.perform (db : StoredDb) : IndexCommand → Except StoredError (StoredDb × IndexReply)
  | .commitBatch jadeFirstBlock expectedStart blocks finalized =>
      (db.commitCanonicalBatch jadeFirstBlock expectedStart blocks finalized).map (fun after => (after.1, .written after.2))
  | .rollbackBatch ancestor batchSize =>
      (db.rollbackBatch ancestor batchSize).map (fun after => (after.getD db, .rolledBack after.isSome))
  | .query query canonicalTip => (db.queryAt query canonicalTip).map (fun results => (db, .page results))
  | .readBlockHash blockNumber => (db.indexedBlockHash blockNumber).map (fun value => (db, .hash value))

def ReferenceIndexDb.perform (db : ReferenceIndexDb) : IndexCommand → Except ReferenceIndexError (ReferenceIndexDb × IndexReply)
  | .commitBatch jadeFirstBlock expectedStart blocks finalized =>
      (commitCanonicalBatch db jadeFirstBlock expectedStart blocks finalized).map (fun after => (after.1, .written after.2))
  | .rollbackBatch ancestor batchSize =>
      let after := rollbackBatch db ancestor batchSize
      .ok (after.getD db, .rolledBack after.isSome)
  | .query query canonicalTip => (db.queryAt query canonicalTip).map (fun results => (db, .page results))
  | .readBlockHash blockNumber => .ok (db, .hash (db.indexedBlockHash blockNumber))

-- A failed transaction is not committed.
def serve {σ ε : Type} (perform : σ → IndexCommand → Except ε (σ × IndexReply)) (db : σ) : List IndexCommand → List (Except ε IndexReply) × σ
  | [] => ([], db)
  | command :: rest => match perform db command with
      | .ok (after, reply) => (.ok reply :: (serve perform after rest).1, (serve perform after rest).2)
      | .error error => (.error error :: (serve perform db rest).1, (serve perform db rest).2)

def IndexCommand.InRange : IndexCommand → Prop
  | .commitBatch _ _ blocks _ => ∀ block ∈ blocks, block.InRange
  | .readBlockHash blockNumber => InU64 blockNumber
  | .rollbackBatch _ _ | .query _ _ => True

theorem simulates_map {α β γ δ : Type} {related : α → β → Prop} {mapped : γ → δ → Prop} {stored : Except StoredError α}
    {typed : Except ReferenceIndexError β} (simulates : Simulates related stored typed) (change : α → γ) (other : β → δ)
    (keeps : ∀ bytes value, related bytes value → mapped (change bytes) (other value)) :
    Simulates mapped (stored.map change) (typed.map other) := by
  cases simulates with
  | ok bytes value same => exact .ok _ _ (keeps bytes value same)
  | error error => exact .error error

theorem command_simulates (command : IndexCommand) (inRange : command.InRange) {stored : StoredDb} {db : ReferenceIndexDb}
    (stores : Stores stored db) :
    Simulates (fun bytes typed => Stores bytes.1 typed.1 ∧ bytes.2 = typed.2) (stored.perform command) (db.perform command) := by
  cases command with
  | commitBatch jadeFirstBlock expectedStart blocks finalized =>
      refine simulates_map (commit_simulates stores jadeFirstBlock expectedStart blocks finalized inRange) _ _ ?_
      intro bytes typed same
      exact ⟨same.1, congrArg IndexReply.written same.2⟩
  | rollbackBatch ancestor batchSize =>
      obtain ⟨result, rolled, same⟩ := rollback_simulates stores ancestor batchSize
      simp only [StoredDb.perform, ReferenceIndexDb.perform, rolled]
      generalize rollbackBatch db ancestor batchSize = typed at same
      cases same with
      | none => exact .ok _ _ ⟨stores, rfl⟩
      | some kept => exact .ok _ _ ⟨kept, rfl⟩
  | query query canonicalTip =>
      exact simulates_map (query_simulates stores query canonicalTip) _ _ (fun _ _ same => ⟨stores, congrArg IndexReply.page same⟩)
  | readBlockHash blockNumber =>
      simp only [StoredDb.perform, ReferenceIndexDb.perform, stored_block_hash stores blockNumber inRange]
      exact .ok _ _ ⟨stores, rfl⟩

theorem run_simulates (commands : List IndexCommand) (inRange : ∀ command ∈ commands, command.InRange) {stored : StoredDb}
    {db : ReferenceIndexDb} (stores : Stores stored db) :
    (serve StoredDb.perform stored commands).1 = (serve ReferenceIndexDb.perform db commands).1.map (Except.mapError .index) ∧
      Stores (serve StoredDb.perform stored commands).2 (serve ReferenceIndexDb.perform db commands).2 := by
  induction commands generalizing stored db with
  | nil => exact ⟨rfl, stores⟩
  | cons command rest ih =>
      have first := command_simulates command (inRange command List.mem_cons_self) stores
      have later : ∀ other ∈ rest, other.InRange := fun other member => inRange other (List.mem_cons_of_mem _ member)
      generalize bytesStep : stored.perform command = bytesResult at first
      generalize typedStep : db.perform command = typedResult at first
      simp only [serve, bytesStep, typedStep]
      cases first with
      | ok bytes typed same =>
          obtain ⟨kept, reply⟩ := same
          have done := ih later kept
          dsimp only
          rw [done.1, reply]
          exact ⟨rfl, done.2⟩
      | error error =>
          have done := ih later stores
          dsimp only
          rw [done.1]
          exact ⟨rfl, done.2⟩

-- Whatever runs on the files from an empty database on is answered as the
-- typed tables answer it, and no row ever fails to decode.
theorem stored_index_answers_as_typed (commands : List IndexCommand) (inRange : ∀ command ∈ commands, command.InRange) :
    (serve StoredDb.perform StoredDb.new commands).1 =
        (serve ReferenceIndexDb.perform ReferenceIndexDb.new commands).1.map (Except.mapError .index) ∧
      Stores (serve StoredDb.perform StoredDb.new commands).2 (serve ReferenceIndexDb.perform ReferenceIndexDb.new commands).2 :=
  run_simulates commands inRange stores_new

-- One block with one reference is indexed, queried and rolled back.
def sampleCommands : List IndexCommand :=
  [.commitBatch 300 300 [⟨300, 11, 1000, [referencingTx 7 9]⟩] none, .query sampleQuery ⟨300, 11, 1000⟩,
    .rollbackBatch none 512, .query sampleQuery ⟨300, 11, 1000⟩]

theorem stored_index_answers_as_typed_sample :
    (serve StoredDb.perform StoredDb.new sampleCommands).1 =
      [.ok (.written 1), .ok (.page [⟨9, 300, 1000, 0⟩]), .ok (.rolledBack true), .error (.index .indexBehind)] := by
  refine (stored_index_answers_as_typed sampleCommands ?_).1.trans (by decide +kernel)
  have small : ∀ value, value < 3000 → InU64 value := by
    intro value less
    rw [InU64]
    omega
  simp only [sampleCommands, List.forall_mem_cons, IndexCommand.InRange, List.not_mem_nil, false_imp_iff, implies_true, and_true]
  exact ⟨small _ (by decide), small _ (by decide), small _ (by decide)⟩

end MorphReth.ReferenceIndex
