import GuardedUi.Main
import GuardedUi.Proofs.Generation.History
import GuardedUi.Proofs.Guard.Inverse
import GuardedUi.Proofs.Command.Settling
import GuardedUi.Proofs.Command.Refusing
import GuardedUi.Proofs.Emit.StyleSetup
import GuardedUi.Proofs.Emit.Definitions
import GuardedUi.Proofs.Emit.Relevance
import GuardedUi.Proofs.Emit.Edit
import GuardedUi.Proofs.Generation.Totality
import GuardedUi.Proofs.Emit.Declarations
import GuardedUi.Proofs.Json.Literal
import GuardedUi.Proofs.Json.Sorting
import GuardedUi.Proofs.Json.Reading
import GuardedUi.Proofs.Json.Writing
import GuardedUi.Proofs.Model.Property
import GuardedUi.Proofs.Model.Agreement
import GuardedUi.Proofs.Model.Widget
import GuardedUi.Proofs.Model.Layout
import GuardedUi.Proofs.Guard.Pairing
import GuardedUi.Proofs.Guard.Splicing
import GuardedUi.Proofs.Guard.Finding
import GuardedUi.Proofs.Guard.Writing
import GuardedUi.Proofs.Name.Symbol
import GuardedUi.Proofs.Emit.Order
import GuardedUi.Proofs.Command.Session
import GuardedUi.Proofs.Name.Entry
import GuardedUi.Proofs.Name.Normal
import GuardedUi.Proofs.Name.Suffix
import GuardedUi.Proofs.Emit.Literal
