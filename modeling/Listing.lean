import Listing.Text.Case
import Listing.Text.Quoted
import Listing.Binary64.Layout
import Listing.Binary64.Reader
import Listing.Instant.Printer
import Listing.Instant.Reader
import Listing.Uuid
import Listing.Value.Printer
import Listing.Schema.Basic
import Listing.Json.Reader
import Listing.Operand
import Listing.Path
import Listing.Request.Page
import Listing.Compile.Term
import Listing.Query.Builder
import Listing.Diagnostics
import Listing.Request.Reader
import Listing.Request.Printer
import Listing.Proofs.Binary64.Alike
import Listing.Proofs.Value.Alike
import Listing.Proofs.Coercion.Alike
import Listing.Proofs.Compile.Alike
import Listing.Proofs.Cache
import Listing.Proofs.Compile.Fetch
import Listing.Proofs.Binary64.Rounding
import Listing.Proofs.Coercion.Conformance
import Listing.Proofs.Compile.Drain
import Listing.Proofs.Engine.Registry
import Listing.Proofs.Engine.Run
import Listing.Proofs.Engine.Transparency
import Listing.Proofs.Query.Pages
import Listing.Proofs.Value.SortOrder
import Listing.Proofs.Value.Typed
import Listing.Proofs.Predicate.Comparison
import Listing.Proofs.Query.Calls
import Listing.Proofs.Engine.Survey
import Listing.Proofs.Query.Accounting
import Listing.Proofs.Engine.Session
import Listing.Proofs.Request.Wire
import Listing.Proofs.Binary64.Exact
import Listing.Proofs.Coercion.Exact
import Listing.Proofs.Compile.Membership
import Listing.Proofs.Compile.Forms
import Listing.Proofs.Query.Redundancy
import Listing.Proofs.Schema.Lookup
import Listing.Proofs.Path.Resolution
import Listing.Proofs.Compile.Precedence
import Listing.Proofs.Engine.Search
import Listing.Proofs.Coercion.HostRules
import Listing.Proofs.Request.Spelling
import Listing.Proofs.Coercion.Printed
import Listing.Proofs.Compile.Laziness
import Listing.Proofs.Path.Reading
import Listing.Proofs.Request.Dotted
