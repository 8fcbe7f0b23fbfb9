import FusionGuards.CommandLine.Arguments
import FusionGuards.CommandLine.Filter
import FusionGuards.CommandLine.Run
import FusionGuards.Compliance
import FusionGuards.Double
import FusionGuards.Double.Decimal
import FusionGuards.Event
import FusionGuards.Fuser.Basic
import FusionGuards.Fuser.Codec
import FusionGuards.Fuser.Config
import FusionGuards.Fuser.Dispatch
import FusionGuards.Fuser.Enablement
import FusionGuards.Fuser.Environment
import FusionGuards.Gradient
import FusionGuards.Guard.Basic
import FusionGuards.Guard.Codec
import FusionGuards.Guard.Evaluation
import FusionGuards.Guard.Fault
import FusionGuards.Guard.Value
import FusionGuards.Json
import FusionGuards.Json.Reader
import FusionGuards.Json.Record
import FusionGuards.Json.Token
import FusionGuards.Json.Writer
import FusionGuards.Main
import FusionGuards.Proofs.Accounting
import FusionGuards.Proofs.Admission
import FusionGuards.Proofs.Assignment
import FusionGuards.Proofs.Blame
import FusionGuards.Proofs.Broadcast
import FusionGuards.Proofs.Collapse
import FusionGuards.Proofs.Compliance
import FusionGuards.Proofs.Construction
import FusionGuards.Proofs.Dispatch
import FusionGuards.Proofs.Enablement
import FusionGuards.Proofs.Entry
import FusionGuards.Proofs.Equality
import FusionGuards.Proofs.Fields
import FusionGuards.Proofs.FirstRead
import FusionGuards.Proofs.Gate
import FusionGuards.Proofs.History
import FusionGuards.Proofs.Indexing
import FusionGuards.Proofs.Inference
import FusionGuards.Proofs.Layout
import FusionGuards.Proofs.Ledger
import FusionGuards.Proofs.Malformed
import FusionGuards.Proofs.MemoryFormat
import FusionGuards.Proofs.Nesting
import FusionGuards.Proofs.Number
import FusionGuards.Proofs.Overlay
import FusionGuards.Proofs.Pairing
import FusionGuards.Proofs.Permutation
import FusionGuards.Proofs.Product
import FusionGuards.Proofs.Recording
import FusionGuards.Proofs.Reference
import FusionGuards.Proofs.Rejection
import FusionGuards.Proofs.Relaxation
import FusionGuards.Proofs.Rendering
import FusionGuards.Proofs.Reshape
import FusionGuards.Proofs.Resolution
import FusionGuards.Proofs.RowMajor
import FusionGuards.Proofs.Saturation
import FusionGuards.Proofs.Soundness
import FusionGuards.Proofs.Spelling
import FusionGuards.Proofs.Squeeze
import FusionGuards.Proofs.Stored
import FusionGuards.Proofs.Suspension
import FusionGuards.Proofs.UnitAxes
import FusionGuards.Proofs.Verdict
import FusionGuards.Proofs.Walk
import FusionGuards.Report
import FusionGuards.Tensor.Basic
import FusionGuards.Tensor.Codec
import FusionGuards.Tensor.ElementType
import FusionGuards.Tensor.Listing
import FusionGuards.Tensor.Signature
import FusionGuards.Tensor.Walk
import FusionGuards.Text.Alphanumeric
import FusionGuards.Text.Characters
import FusionGuards.Text.Pattern
import FusionGuards.Toml.Reader
import FusionGuards.Toml.Scalar
import FusionGuards.Toml.Table
import FusionGuards.Toml.Text
import FusionGuards.View.Check
import FusionGuards.View.Constraint
import FusionGuards.View.Inference
import FusionGuards.Word
