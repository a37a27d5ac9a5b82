import MorphReth.Rlp.Digits
import MorphReth.Rlp.Header
import MorphReth.Rlp.Codec
import MorphReth.Rlp.Items
import MorphReth.Rlp.Lists
import MorphReth.Transaction.TxMorph
import MorphReth.Transaction.Wire
import MorphReth.Transaction.WireFields
import MorphReth.Transaction.WireSigned
import MorphReth.Transaction.Signing
import MorphReth.Consensus.Block
import MorphReth.Checks
import MorphReth.Consensus.Validation
import MorphReth.Consensus.L1Chain
import MorphReth.Engine.WithdrawRoot
import MorphReth.Engine.WithdrawRootCheck
import MorphReth.Fee.Handler
import MorphReth.Rounding
import MorphReth.Fee.Settlement
import MorphReth.ParentChain
import MorphReth.ReferenceIndex.Db
import MorphReth.Runs
import MorphReth.ReferenceIndex.Reader
import MorphReth.ReferenceIndex.Rows
import MorphReth.ReferenceIndex.Branch
import MorphReth.ReferenceIndex.Consistency
import MorphReth.ReferenceIndex.Safety
import MorphReth.ReferenceIndex.Queries
import MorphReth.ReferenceIndex.Branches
import MorphReth.ReferenceIndex.Turns
import MorphReth.ReferenceIndex.Exactness
import MorphReth.ReferenceIndex.Rebuild
import MorphReth.DupCursor
import MorphReth.Proofs.Cursor
import MorphReth.Proofs.Views
import MorphReth.Proofs.Walks
import MorphReth.Proofs.Store
import MorphReth.Proofs.History
import MorphReth.VersionedTable
import MorphReth.Proofs.Writes
import MorphReth.Proofs.Deletes
import MorphReth.Proofs.Refinement
import MorphReth.Proofs.Simulation
import MorphReth.Proofs.Snapshots
import MorphReth.ProofsExEx.Chain
import MorphReth.ProofsExEx.SyncTarget
import MorphReth.ProofsExEx.System
import MorphReth.ProofsExEx.StateProvider
import MorphReth.ProofsExEx.Settled
import MorphReth.ProofsExEx.Canonical
import MorphReth.ProofsExEx.Mdbx
import MorphReth.Consensus.HashBinding
import MorphReth.Engine.Api
import MorphReth.Engine.BlockTags
import MorphReth.Fee.L1BlockInfo
import MorphReth.Fee.Hooks
import MorphReth.Fee.EthSettlement
import MorphReth.Transaction.EnvelopeWire
import MorphReth.Evm.Block
import MorphReth.Loops
import MorphReth.TxPool.Admission
import MorphReth.Payload.Builder
import MorphReth.Payload.Progress
import MorphReth.Payload.GasPools
import MorphReth.Payload.Derivation
import MorphReth.Payload.Sequencing
import MorphReth.Engine.L2Blocks
import MorphReth.Engine.Reimport
import MorphReth.ProofsExEx.Outstanding
import MorphReth.ProofsExEx.Consistent
import MorphReth.ProofsExEx.CatchUp
import MorphReth.Proofs.Enumeration
import MorphReth.Transactions
import MorphReth.Proofs.BatchSession
import MorphReth.Proofs.Reachable
import MorphReth.Proofs.Inverses
import MorphReth.Proofs.Window
import MorphReth.Proofs.Replay
import MorphReth.Fee.TrueFee
import MorphReth.Proofs.Pruning
import MorphReth.Rpc.GasAllowance
import MorphReth.Rlp.Lengths
import MorphReth.Simulation.TxEnv
import MorphReth.Simulation.L1FeeBound
import MorphReth.Interrupts
import MorphReth.Proofs.Initialize
import MorphReth.Proofs.Resumption
import MorphReth.Fee.SlotTransfer
import MorphReth.Transaction.Announced
import MorphReth.Engine.ExpectationRuns
import MorphReth.Payload.GasLimitRamp
import MorphReth.Payload.PayloadId
import MorphReth.Receipts.Wire
import MorphReth.Grouping
import MorphReth.Receipts.RoundTrip
import MorphReth.RollingBudget
import MorphReth.TxPool.Maintenance
import MorphReth.TxPool.AffordablePrefix
import MorphReth.Proofs.Live
import MorphReth.Proofs.Collected
import MorphReth.Consensus.PostExecution
import MorphReth.Evm.ReceiptBuilder
import MorphReth.Payload.Reexecution
import MorphReth.Holdings
import MorphReth.Fee.CallMode
import MorphReth.Fee.BlockSupply
import MorphReth.Interleaving
import MorphReth.Engine.Imports
import MorphReth.Engine.ImportRuns
import MorphReth.Engine.SequentialImports
import MorphReth.ReferenceIndex.Rpc
import MorphReth.Eventually
import MorphReth.ReferenceIndex.CatchUp
import MorphReth.ReferenceIndex.RunLoop
import MorphReth.ReferenceIndex.QuietRuns
import MorphReth.ReferenceIndex.FairRuns
import MorphReth.TxPool.Spending
import MorphReth.TxPool.MaintainedRuns
import MorphReth.ByteKeys
import MorphReth.EncodedTable
import MorphReth.ReferenceIndex.Tables
import MorphReth.ReferenceIndex.Stored
import MorphReth.ReferenceIndex.StoredRefinement
import MorphReth.ReferenceIndex.StoredRuns
