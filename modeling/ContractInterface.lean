import ContractInterface.Json.Reading
import ContractInterface.Digest.Pin
import ContractInterface.Version.Support
import ContractInterface.Schema.Outline
import ContractInterface.Shape.Resolution
import ContractInterface.Shape.Conformance
import ContractInterface.Json.DecodeError
import ContractInterface.Json.Decoding
import ContractInterface.Json.Record
import ContractInterface.Document.Basic
import ContractInterface.Document.Decoding
import ContractInterface.Document.Encoding
import ContractInterface.Document.Loading
import ContractInterface.Call.Config
import ContractInterface.Call.Contract
import ContractInterface.Call.Dispatch
import ContractInterface.Proofs.Outcomes
import ContractInterface.Proofs.Schema.Reach
import ContractInterface.Proofs.Shape.Traversal
import ContractInterface.Proofs.Shape.Expansion
import ContractInterface.Proofs.Shape.Memo
import ContractInterface.Proofs.Json.Equality
import ContractInterface.Proofs.Json.Order
import ContractInterface.Proofs.Json.Alike
import ContractInterface.Proofs.Json.Respect
import ContractInterface.Proofs.Json.TagOrder
import ContractInterface.Proofs.Json.SameValue
import ContractInterface.Proofs.Json.Fits
import ContractInterface.Proofs.Document.Order
import ContractInterface.Proofs.Document.Reordering
import ContractInterface.Proofs.Shape.Acceptance
import ContractInterface.Proofs.Shape.Meaning
import ContractInterface.Proofs.Call.Synthesis
import ContractInterface.Proofs.Call.Run
import ContractInterface.Proofs.Call.Construction
import ContractInterface.Document.Equality
import ContractInterface.Proofs.Double.Rounding
import ContractInterface.Proofs.Double.Shortest
import ContractInterface.Proofs.Json.NumberText
import ContractInterface.Proofs.Json.RoundTrip
import ContractInterface.Proofs.Json.Inverse
import ContractInterface.Proofs.Json.Reordered
import ContractInterface.Proofs.Document.Fits
import ContractInterface.Proofs.Document.Equality
import ContractInterface.Proofs.Document.RoundTrip
import ContractInterface.Proofs.Shape.Alike
import ContractInterface.Proofs.Schema.Alike
import ContractInterface.Proofs.Schema.Reordering
import ContractInterface.Proofs.Shape.Reordering
import ContractInterface.Proofs.Call.Reordering
import ContractInterface.Proofs.Schema.Reading
import ContractInterface.Proofs.Call.Conforming
import ContractInterface.Proofs.Schema.TypeList
import ContractInterface.Proofs.Shape.Inlining
import ContractInterface.Proofs.Shape.Tightened
import ContractInterface.Proofs.Schema.Tightened
import ContractInterface.Proofs.Schema.Keywords
import ContractInterface.Proofs.Schema.Unrepeated
import ContractInterface.Proofs.Shape.Merging
import ContractInterface.Proofs.Shape.Normal
import ContractInterface.Proofs.Shape.Conjunction
import ContractInterface.Proofs.Call.Switches
import ContractInterface.Proofs.Shape.Agreement
import ContractInterface.Proofs.Shape.Policy
import ContractInterface.Proofs.Shape.Scope
import ContractInterface.Proofs.Shape.Containment
import ContractInterface.Proofs.Shape.Validation
import ContractInterface.Proofs.Shape.Location
import ContractInterface.Proofs.Shape.Widening
import ContractInterface.Proofs.Double.Value
import ContractInterface.Proofs.Json.NumberValue
import ContractInterface.Proofs.Shape.Equality
import ContractInterface.Proofs.Shape.IntegerFormat
import ContractInterface.Proofs.Double.Nearest
import ContractInterface.Proofs.Shape.Bound
import ContractInterface.Proofs.Schema.Malformed
import ContractInterface.Proofs.Schema.Edits
import ContractInterface.Proofs.Schema.Recognition
import ContractInterface.Proofs.Shape.Requiredness
import ContractInterface.Proofs.Schema.Congruence
import ContractInterface.Proofs.Schema.Pointers
import ContractInterface.Proofs.Shape.Spelling
import ContractInterface.Proofs.Document.Definitions
import ContractInterface.Proofs.Call.Options
import ContractInterface.Proofs.Shape.Following
import ContractInterface.Proofs.Document.Pinning
import ContractInterface.Proofs.Version.Text
import ContractInterface.Proofs.Version.Support
import ContractInterface.Proofs.Document.Outline
import ContractInterface.Call.Trace
import ContractInterface.Proofs.Shape.Flattening
import ContractInterface.Proofs.Schema.Skipped
import ContractInterface.Proofs.Call.Trace
