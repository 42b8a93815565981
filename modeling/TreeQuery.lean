import TreeQuery.Json.Printer
import TreeQuery.Main
import TreeQuery.Workspace
import TreeQuery.Proofs.Template.Boundary
import TreeQuery.Proofs.Template.Decomposition
import TreeQuery.Proofs.Template.Assembly
import TreeQuery.Proofs.Engine.Parse
import TreeQuery.Proofs.Engine.Registration
import TreeQuery.Proofs.Document.Ancestry
import TreeQuery.Proofs.Document.Order
import TreeQuery.Proofs.Document.Tags
import TreeQuery.Proofs.Native.Chains
import TreeQuery.Proofs.Native.Grammar
import TreeQuery.Proofs.Native.Readers
import TreeQuery.Proofs.Native.Unambiguity
import TreeQuery.Proofs.Native.Blanks
import TreeQuery.Proofs.Native.Layout
import TreeQuery.Proofs.Native.Canonical
import TreeQuery.Proofs.Native.Seams
import TreeQuery.Proofs.Native.Questions
import TreeQuery.Proofs.Native.Rejection
import TreeQuery.Proofs.Native.Interchange
import TreeQuery.Proofs.Evaluation.Search
import TreeQuery.Proofs.Properties.Writes
import TreeQuery.Proofs.Text.CharClasses
import TreeQuery.Proofs.Text.Lowercase
import TreeQuery.Proofs.Text.Lines
import TreeQuery.Proofs.Pseudo.Standard
import TreeQuery.Proofs.Pseudo.TextTests
import TreeQuery.Proofs.Engine.Candidates
import TreeQuery.Proofs.Engine.FirstMatch
import TreeQuery.Proofs.Engine.Repetition
import TreeQuery.Proofs.Engine.Union
import TreeQuery.Proofs.Engine.Carrier
import TreeQuery.Proofs.Engine.Smuggling
import TreeQuery.Proofs.Engine.FirstAlternative
import TreeQuery.Proofs.Engine.Dispatch
import TreeQuery.Proofs.Engine.Conjunction
import TreeQuery.Proofs.Engine.Confinement
import TreeQuery.Proofs.Engine.Nesting
import TreeQuery.Proofs.Engine.WrittenValue
import TreeQuery.Proofs.Engine.NativeQuestion
import TreeQuery.Proofs.Context.Closest
import TreeQuery.Proofs.Context.Nearest
import TreeQuery.Proofs.Context.Identity
import TreeQuery.Proofs.CommandLine.Output
import TreeQuery.Proofs.Json.Rendering
import TreeQuery.Proofs.Json.Records
import TreeQuery.Proofs.Engine.JoinedAlternatives
import TreeQuery.Proofs.Workspace.Configuration
import TreeQuery.Proofs.Workspace.Provenance
import TreeQuery.Proofs.Engine.Failure
import TreeQuery.Proofs.Workspace.Failure
