import Exposure.Discovery.Context
import Exposure.Main
import Exposure.Proofs.Json.Members
import Exposure.Proofs.Purpose.Address
import Exposure.Proofs.Purpose.Shape
import Exposure.Proofs.Purpose.Nodes
import Exposure.Proofs.Purpose.Selection
import Exposure.Proofs.Purpose.Registration
import Exposure.Proofs.Purpose.Log
import Exposure.Proofs.Purpose.Retrieval
import Exposure.Proofs.Purpose.Faultless
import Exposure.Proofs.Purpose.Rediscovery
import Exposure.Proofs.Record.RoundTrip
import Exposure.Proofs.Artifact.Acceptance
import Exposure.Proofs.Artifact.Encoding
import Exposure.Proofs.Discovery.Consistency
import Exposure.Proofs.Symbol.Hydration
import Exposure.Proofs.Symbol.Navigation
import Exposure.Proofs.Json.Reading
import Exposure.Proofs.Artifact.Loading
import Exposure.Proofs.Symbol.Usability
import Exposure.Proofs.Purpose.Growth
import Exposure.Proofs.Index.Building
import Exposure.Proofs.Artifact.Persistence
import Exposure.Proofs.Discovery.Isolation
import Exposure.Proofs.FileSystem.Change
import Exposure.Proofs.FileSystem.Writing
import Exposure.Proofs.Scan.Below
import Exposure.Proofs.Scan.Roots
import Exposure.Proofs.Verification.Repetition
import Exposure.Proofs.Symbol.Answers
import Exposure.Proofs.Discovery.Views
import Exposure.Proofs.Discovery.OutputNames
import Exposure.Proofs.Module.Effect
import Exposure.Proofs.Module.Statement
import Exposure.Proofs.Module.Provenance
import Exposure.Proofs.Discovery.Resolution
import Exposure.Proofs.Artifact.Normalization
import Exposure.Proofs.Artifact.WellFormed
import Exposure.Proofs.Symbol.Ownership
import Exposure.Proofs.Artifact.Atomicity
import Exposure.Proofs.Discovery.LiveClasses
import Exposure.Proofs.Purpose.Interleaving
import Exposure.Proofs.Artifact.Rejection
import Exposure.Proofs.Discovery.OutputRule
import Exposure.Proofs.Source.LogicalLine
import Exposure.Proofs.Source.TextualCheck
import Exposure.Proofs.Module.RelativeImport
import Exposure.Proofs.Class.PrivateName
import Exposure.Proofs.Discovery.MethodLookup
import Exposure.Proofs.Doc.Document
import Exposure.Proofs.CommandLine.Settings
import Exposure.Proofs.Verification.Comparison
import Exposure.Proofs.Scan.NestedIgnore
import Exposure.Proofs.Source.Aliases
import Exposure.Proofs.Module.FileStem
import Exposure.Proofs.Symbol.Termination
import Exposure.Proofs.Class.Lineage
