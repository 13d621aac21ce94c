import ShelfLibrary.Disk.Directory
import ShelfLibrary.Store.Fault
import ShelfLibrary.Store.Memory
import ShelfLibrary.Proofs.Table
import ShelfLibrary.Proofs.Path
import ShelfLibrary.Proofs.Plan
import ShelfLibrary.Proofs.Result
import ShelfLibrary.Proofs.Namespace
import ShelfLibrary.Proofs.Invariant
import ShelfLibrary.Proofs.Memory
import ShelfLibrary.Proofs.Operations
import ShelfLibrary.Proofs.Transaction
import ShelfLibrary.Proofs.Calendar
import ShelfLibrary.Proofs.Decimal
import ShelfLibrary.Proofs.Decoder
import ShelfLibrary.Proofs.Disk
import ShelfLibrary.Proofs.Opening
import ShelfLibrary.Proofs.Evaluation
import ShelfLibrary.Proofs.Failures
import ShelfLibrary.Proofs.Entries
import ShelfLibrary.Proofs.Recovery
import ShelfLibrary.Proofs.Agreement
import ShelfLibrary.Proofs.Rollback
import ShelfLibrary.Proofs.Extension
import ShelfLibrary.Proofs.Halting
import ShelfLibrary.Proofs.Live
import ShelfLibrary.Proofs.Survival
import ShelfLibrary.Proofs.Conforming
import ShelfLibrary.Proofs.QueryDocument
import ShelfLibrary.Proofs.QueryReaders
import ShelfLibrary.Proofs.Validation
import ShelfLibrary.Proofs.Prediction
import ShelfLibrary.Proofs.Order
import ShelfLibrary.Proofs.Timestamp
import ShelfLibrary.Proofs.ShelfDocument
import ShelfLibrary.Proofs.Pipeline
import ShelfLibrary.Proofs.Merging
import ShelfLibrary.Proofs.Comparison
import ShelfLibrary.Proofs.Confinement
import ShelfLibrary.Proofs.Naming
import ShelfLibrary.Proofs.Resolution
import ShelfLibrary.Proofs.Writing
import ShelfLibrary.Proofs.Subtree
import ShelfLibrary.Proofs.Sparing
import ShelfLibrary.Proofs.Alternation
import ShelfLibrary.Proofs.Ancestry
import ShelfLibrary.Proofs.Registry
import ShelfLibrary.Proofs.Coverage
import ShelfLibrary.Proofs.Descendants
import ShelfLibrary.Proofs.Grammar
import ShelfLibrary.Proofs.Slots
import ShelfLibrary.Proofs.Framing
