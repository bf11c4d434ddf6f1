import Conversion.Builder
import Conversion.Builtin.Registrars
import Conversion.Options.Decoding
import Conversion.Proofs.Builder.Assembly
import Conversion.Proofs.Builder.Discovery
import Conversion.Proofs.Builtin.Commuting
import Conversion.Proofs.Builtin.Coverage
import Conversion.Proofs.Builtin.Reading
import Conversion.Proofs.Builtin.RoundTrip
import Conversion.Proofs.Builtin.Standard
import Conversion.Proofs.Builtin.Truth
import Conversion.Proofs.Hierarchy.Assignability
import Conversion.Proofs.Hierarchy.CanonicalOrder
import Conversion.Proofs.Hierarchy.Interleaving
import Conversion.Proofs.Hierarchy.LastDeclaration
import Conversion.Proofs.Hierarchy.Levels
import Conversion.Proofs.Hierarchy.Reachability
import Conversion.Proofs.Hierarchy.Termination
import Conversion.Proofs.Numeric.IntReading
import Conversion.Proofs.Numeric.IntSpelling
import Conversion.Proofs.Registry.Agreement
import Conversion.Proofs.Registry.Ambiguity
import Conversion.Proofs.Registry.Announcing
import Conversion.Proofs.Registry.Consistency
import Conversion.Proofs.Registry.Declaring
import Conversion.Proofs.Registry.Diagnostics
import Conversion.Proofs.Registry.History
import Conversion.Proofs.Registry.Iterating
import Conversion.Proofs.Registry.Locality
import Conversion.Proofs.Registry.Observation
import Conversion.Proofs.Registry.Operation
import Conversion.Proofs.Registry.Ordering
import Conversion.Proofs.Registry.Priority
import Conversion.Proofs.Registry.Racing
import Conversion.Proofs.Registry.Reachable
import Conversion.Proofs.Registry.Refusing
import Conversion.Proofs.Registry.Registration
import Conversion.Proofs.Registry.Replaying
import Conversion.Proofs.Registry.Reporting
import Conversion.Proofs.Registry.Requests
import Conversion.Proofs.Registry.Resolution
import Conversion.Proofs.Registry.RuleConversion
import Conversion.Proofs.Registry.Sharing
import Conversion.Proofs.Registry.Sources
import Conversion.Proofs.Registry.Stopping
import Conversion.Proofs.Registry.Subtyping
import Conversion.Proofs.Registry.Tracing
import Conversion.Proofs.Registry.TypedConversion
import Conversion.Proofs.Registry.Visibility
import Conversion.Proofs.Table.Account
import Conversion.Proofs.Table.Entries
import Conversion.Proofs.Table.Filing
import Conversion.Proofs.Table.Log
import Conversion.Proofs.Table.Steps
import Conversion.Proofs.Text.Trimming
import Conversion.Registry.Converting
import Conversion.Registry.Iteration
