import ProductGraph.Main
import ProductGraph.Proofs.Consistency.Bounds
import ProductGraph.Proofs.Consistency.Cycle
import ProductGraph.Proofs.Consistency.Eligibility
import ProductGraph.Proofs.Consistency.Hierarchy
import ProductGraph.Proofs.Consistency.Numeric
import ProductGraph.Proofs.Consistency.Order
import ProductGraph.Proofs.Consistency.Pattern
import ProductGraph.Proofs.Consistency.Specialized
import ProductGraph.Proofs.Consistency.Supported
import ProductGraph.Proofs.Document.Canonical
import ProductGraph.Proofs.Document.JsonLd.Carried
import ProductGraph.Proofs.Document.JsonLd.Null
import ProductGraph.Proofs.Document.JsonLd.Passes
import ProductGraph.Proofs.Document.JsonLd.RoundTrip
import ProductGraph.Proofs.Document.JsonLd.Spellings
import ProductGraph.Proofs.Document.Kind
import ProductGraph.Proofs.Document.Xml.Description
import ProductGraph.Proofs.Document.Xml.Leaves
import ProductGraph.Proofs.Document.Xml.Legible
import ProductGraph.Proofs.Document.Xml.RoundTrip
import ProductGraph.Proofs.Graph.Descent
import ProductGraph.Proofs.Graph.Index
import ProductGraph.Proofs.Item.Identity
import ProductGraph.Proofs.Item.Readable
import ProductGraph.Proofs.Markup.Outermost
import ProductGraph.Proofs.Markup.PlainText
import ProductGraph.Proofs.Markup.Tidy
import ProductGraph.Proofs.Package.Accounts
import ProductGraph.Proofs.Package.Reachable
import ProductGraph.Proofs.Package.Session
import ProductGraph.Proofs.Text.Wrap
import ProductGraph.Proofs.Time.Pattern
