import FlatMessage.Json.Printer
import FlatMessage.Naming.Scope
import FlatMessage.Compiler.Standalone
import FlatMessage.Main
import FlatMessage.Calendar.Iso
import FlatMessage.Proofs.DirectReading
import FlatMessage.Proofs.Truncation.Local
import FlatMessage.Proofs.Unambiguous.Decoding
import FlatMessage.Proofs.Objects.History
import FlatMessage.Proofs.Loading.ModelSets
import FlatMessage.Proofs.Distinct.Artifacts
import FlatMessage.Proofs.Orders.Runs
import FlatMessage.Proofs.Streaming.LateBinding
import FlatMessage.Proofs.Separators.Unseen
import FlatMessage.Proofs.Common.Types
import FlatMessage.Proofs.Conformance.Encoding
import FlatMessage.Proofs.Confined.Runs
import FlatMessage.Proofs.Lookups.Messages
import FlatMessage.Proofs.Filters.Runs
import FlatMessage.Proofs.Escaping.ReadingBack
import FlatMessage.Proofs.Bindings.Linked
import FlatMessage.Proofs.Bindings.Trees
import FlatMessage.Proofs.Bindings.Arena
import FlatMessage.Proofs.Bindings.Unfolding
import FlatMessage.Proofs.Bindings.Paths
import FlatMessage.Proofs.Bindings.Finding
import FlatMessage.Proofs.Rendering.Faults
import FlatMessage.Proofs.Building.Faults
import FlatMessage.Proofs.Building.Coverage
import FlatMessage.Proofs.Flushing.Runs
import FlatMessage.Proofs.Lookups.ModelSets
import FlatMessage.Proofs.Rendering.Decimals
import FlatMessage.Proofs.Rendering.Integers
import FlatMessage.Proofs.PropertyLists
import FlatMessage.Proofs.Spelling.NormalForms
import FlatMessage.Proofs.Elements.Documents
