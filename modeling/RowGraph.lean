import RowGraph.Main
import RowGraph.Memory
import RowGraph.Registry.Listing
import RowGraph.Proofs.Text.Reading
import RowGraph.Proofs.Text.Trimming
import RowGraph.Proofs.Pattern.Grammar
import RowGraph.Proofs.Load.Settlement
import RowGraph.Proofs.Cypher.BareWord
import RowGraph.Proofs.Cypher.Reader
import RowGraph.Proofs.Cypher.NodeReader
import RowGraph.Proofs.Pattern.Links
import RowGraph.Proofs.Row.Lookup
import RowGraph.Proofs.Relationship.Endpoints
import RowGraph.Proofs.Relationship.Statements
import RowGraph.Proofs.Keyed
import RowGraph.Proofs.Value.Coerce
import RowGraph.Proofs.Registry.Lookup
import RowGraph.Proofs.Registry.Insertion
import RowGraph.Proofs.Registry.History
import RowGraph.Proofs.Store.Introspection
import RowGraph.Proofs.Mapping.Registration
import RowGraph.Proofs.Relationship.KeyAgreement
import RowGraph.Proofs.Load.Plan
import RowGraph.Proofs.Load.Run
import RowGraph.Proofs.Load.Course
import RowGraph.Proofs.Load.Tally
import RowGraph.Proofs.Load.FailFast
import RowGraph.Proofs.Load.Interleaving
import RowGraph.Proofs.Load.Account
import RowGraph.Proofs.Store.References
import RowGraph.Proofs.Relationship.CompositeKey
import RowGraph.Proofs.Load.Preview
import RowGraph.Proofs.Registry.Order
import RowGraph.Proofs.Relationship.Growth
import RowGraph.Proofs.Load.Order
import RowGraph.Proofs.Load.Faults
import RowGraph.Proofs.Store.Rows
import RowGraph.Proofs.Mapping.Lacks
import RowGraph.Proofs.Relationship.Nulls
import RowGraph.Proofs.Pattern.Forms
import RowGraph.Proofs.Relationship.Independence
import RowGraph.Proofs.Store.Cell
import RowGraph.Proofs.Store.Rebinding
import RowGraph.Proofs.Store.OwnKey
import RowGraph.Proofs.Decimal.Rounding
import RowGraph.Proofs.Decimal.Integers
import RowGraph.Proofs.Value.WholeNumbers
import RowGraph.Proofs.Value.TextKeys
import RowGraph.Proofs.Store.ReadBack
import RowGraph.Proofs.Cypher.Distinct
import RowGraph.Proofs.Store.Constraints
import RowGraph.Proofs.Load.Blame
import RowGraph.Proofs.Pattern.Aliases
import RowGraph.Proofs.Schema.History
import RowGraph.Proofs.Pattern.Position
import RowGraph.Proofs.Row.Order
import RowGraph.Proofs.Display.Groups
import RowGraph.Proofs.Display.Lines
import RowGraph.Proofs.Display.Alignment
