import MorphReth.Checks
import MorphReth.Receipts.Wire

set_option autoImplicit false

namespace MorphReth.Consensus

open Rlp Receipts

-- alloy's receipt codecs, the bloom bits of one log, and the ordered trie.
structure ReceiptHashing where
  codecs : ReceiptCodecs
  logBloom : Log → Bloom
  orderedTrieRoot : List Bytes → B256

namespace ReceiptHashing

variable (hashing : ReceiptHashing)

def logsBloom (logs : List Log) : Bloom :=
  logs.foldl (fun bloom log => bloom ||| hashing.logBloom log) 0

def bloom (receipt : MorphReceipt) : Bloom :=
  hashing.logsBloom receipt.asReceipt.logs

def calculateReceiptRoot (receiptsWithBloom : List (MorphReceipt × Bloom)) : B256 :=
  hashing.orderedTrieRoot (receiptsWithBloom.map (fun entry => entry.1.eip2718EncodeWithBloom hashing.codecs entry.2))

def receiptRootNoMemo (receipts : List MorphReceipt) : B256 :=
  calculateReceiptRootNoMemo hashing.codecs hashing.logsBloom hashing.orderedTrieRoot receipts

end ReceiptHashing

inductive PostExecutionError where
  | blockGasUsed (got expected : U64) (gasSpentByTx : List (Nat × U64))
  | bodyReceiptRootDiff (got expected : B256)
  | bodyBloomLogDiff (got expected : Bloom)
  deriving DecidableEq, Repr

def verifyReceiptsPrecomputed (expectedReceiptsRoot : B256) (expectedLogsBloom : Bloom) (receiptsRoot : B256) (logsBloom : Bloom) :
    Except PostExecutionError Unit := do
  rejectIf (receiptsRoot ≠ expectedReceiptsRoot) (.bodyReceiptRootDiff receiptsRoot expectedReceiptsRoot)
  rejectIf (logsBloom ≠ expectedLogsBloom) (.bodyBloomLogDiff logsBloom expectedLogsBloom)

def verifyReceipts (hashing : ReceiptHashing) (expectedReceiptsRoot : B256) (expectedLogsBloom : Bloom) (receipts : List MorphReceipt) :
    Except PostExecutionError Unit := do
  let receiptsWithBloom := receipts.map (fun receipt => (receipt, hashing.bloom receipt))
  let receiptsRoot := hashing.calculateReceiptRoot receiptsWithBloom
  let logsBloom := receiptsWithBloom.foldl (fun bloom entry => bloom ||| entry.2) 0
  rejectIf (receiptsRoot ≠ expectedReceiptsRoot) (.bodyReceiptRootDiff receiptsRoot expectedReceiptsRoot)
  rejectIf (logsBloom ≠ expectedLogsBloom) (.bodyBloomLogDiff logsBloom expectedLogsBloom)

def gasSpentByTransactions (receipts : List MorphReceipt) : List (Nat × U64) :=
  receipts.zipIdx.map (fun entry => (entry.2, entry.1.asReceipt.cumulativeGasUsed))

def lastCumulativeGasUsed (receipts : List MorphReceipt) : U64 :=
  (receipts.getLast?.map (fun receipt => receipt.asReceipt.cumulativeGasUsed)).getD 0

def validateBlockPostExecution (hashing : ReceiptHashing) (block : SealedBlock) (receipts : List MorphReceipt)
    (receiptRootBloom : Option (B256 × Bloom)) : Except PostExecutionError Unit := do
  let cumulativeGasUsed := lastCumulativeGasUsed receipts
  rejectIf (block.header.gasUsed ≠ cumulativeGasUsed)
    (.blockGasUsed cumulativeGasUsed block.header.gasUsed (gasSpentByTransactions receipts))
  match receiptRootBloom with
  | some (receiptsRoot, logsBloom) =>
      verifyReceiptsPrecomputed block.header.receiptsRoot block.header.logsBloom receiptsRoot logsBloom
  | none => verifyReceipts hashing block.header.receiptsRoot block.header.logsBloom receipts

section Blooms

variable (hashing : ReceiptHashing)

theorem fold_or (blooms : List Bloom) (start : Bloom) : blooms.foldl (· ||| ·) start = start ||| blooms.foldl (· ||| ·) 0 := by
  induction blooms generalizing start with
  | nil => simp
  | cons bloom rest ih =>
      rw [List.foldl_cons, List.foldl_cons, ih, ih (0 ||| bloom)]
      simp [BitVec.or_assoc]

theorem logs_bloom_eq (logs : List Log) : hashing.logsBloom logs = (logs.map hashing.logBloom).foldl (· ||| ·) 0 := by
  rw [ReceiptHashing.logsBloom, List.foldl_map]

theorem logs_bloom_append (logs others : List Log) :
    hashing.logsBloom (logs ++ others) = hashing.logsBloom logs ||| hashing.logsBloom others := by
  simp only [logs_bloom_eq, List.map_append, List.foldl_append]
  exact fold_or _ _

theorem logs_bloom_union (receipts : List MorphReceipt) :
    hashing.logsBloom (receipts.flatMap (fun receipt => receipt.asReceipt.logs)) = (receipts.map hashing.bloom).foldl (· ||| ·) 0 := by
  induction receipts with
  | nil => rfl
  | cons receipt rest ih =>
      rw [List.flatMap_cons, logs_bloom_append, ih, List.map_cons, List.foldl_cons, fold_or _ (0 ||| hashing.bloom receipt)]
      simp [ReceiptHashing.bloom]

theorem receipt_root_eq (receipts : List MorphReceipt) :
    hashing.calculateReceiptRoot (receipts.map (fun receipt => (receipt, hashing.bloom receipt))) = hashing.receiptRootNoMemo receipts := by
  rw [ReceiptHashing.calculateReceiptRoot, ReceiptHashing.receiptRootNoMemo, calculateReceiptRootNoMemo, List.map_map]
  rfl

-- Checking with a root and bloom computed beforehand is checking the receipts.
theorem precomputed_agrees (expectedReceiptsRoot : B256) (expectedLogsBloom : Bloom) (receipts : List MorphReceipt) :
    verifyReceiptsPrecomputed expectedReceiptsRoot expectedLogsBloom (hashing.receiptRootNoMemo receipts)
        (hashing.logsBloom (receipts.flatMap (fun receipt => receipt.asReceipt.logs))) =
      verifyReceipts hashing expectedReceiptsRoot expectedLogsBloom receipts := by
  have blooms : (receipts.map (fun receipt => (receipt, hashing.bloom receipt))).foldl (fun bloom entry => bloom ||| entry.2) 0 =
      hashing.logsBloom (receipts.flatMap (fun receipt => receipt.asReceipt.logs)) := by
    rw [logs_bloom_union, List.foldl_map, List.foldl_map]
  simp only [verifyReceiptsPrecomputed, verifyReceipts, receipt_root_eq, blooms]

end Blooms

end MorphReth.Consensus
