import StarQuery.Crosstab.Whole
import StarQuery.Json.Reader
import StarQuery.Naming.Plural
import StarQuery.Query.Request
import StarQuery.Settings.Source
import StarQuery.Proofs.Crosstab.Document
import StarQuery.Proofs.Crosstab.Keys
import StarQuery.Proofs.Crosstab.Observed
import StarQuery.Proofs.Crosstab.Sorted
import StarQuery.Proofs.Model.Declarations
import StarQuery.Proofs.Model.Registration
import StarQuery.Proofs.Query.Conditions
import StarQuery.Proofs.Query.FilterValues
import StarQuery.Proofs.Query.FiniteFloats
import StarQuery.Proofs.Query.Frame
import StarQuery.Proofs.Query.Interleaving
import StarQuery.Proofs.Query.Legality
import StarQuery.Proofs.Query.LiveCells
import StarQuery.Proofs.Query.Members
import StarQuery.Proofs.Query.Names
import StarQuery.Proofs.Query.Paths
import StarQuery.Proofs.Query.Prevailing
import StarQuery.Proofs.Query.Qualifiers
import StarQuery.Proofs.Query.Ranges
import StarQuery.Proofs.Query.Reached
import StarQuery.Proofs.Query.References
import StarQuery.Proofs.Query.Refusals
import StarQuery.Proofs.Query.Routing
import StarQuery.Proofs.Query.Shapes
import StarQuery.Proofs.Query.Spellings
import StarQuery.Proofs.Settings.Expansion
import StarQuery.Proofs.Sql.Paging
import StarQuery.Proofs.Sql.Quoting
import StarQuery.Proofs.Sql.Rendering
import StarQuery.Proofs.Sql.TextLiterals
