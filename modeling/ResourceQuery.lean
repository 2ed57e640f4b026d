import ResourceQuery.Main
import ResourceQuery.Session.Basic
import ResourceQuery.Proofs.Find.Conflict
import ResourceQuery.Proofs.Find.Document
import ResourceQuery.Proofs.Find.Kept
import ResourceQuery.Proofs.Find.Options
import ResourceQuery.Proofs.Find.Paging
import ResourceQuery.Proofs.Find.Projection
import ResourceQuery.Proofs.Find.Regrouping
import ResourceQuery.Proofs.Find.Soundness
import ResourceQuery.Proofs.Operator.Plain
import ResourceQuery.Proofs.Operator.WellFormed
import ResourceQuery.Proofs.Query.Comparators
import ResourceQuery.Proofs.Query.Grammar
import ResourceQuery.Proofs.Query.Names
import ResourceQuery.Proofs.Query.Precedence
import ResourceQuery.Proofs.Query.Return
import ResourceQuery.Proofs.Query.Spelling
import ResourceQuery.Proofs.Query.Quoted
import ResourceQuery.Proofs.Query.Rendered
import ResourceQuery.Proofs.Query.Comparison
import ResourceQuery.Proofs.Literal.Epoch
import ResourceQuery.Proofs.Literal.Limits
import ResourceQuery.Proofs.Literal.Partial
import ResourceQuery.Proofs.Query.Failure
import ResourceQuery.Proofs.Query.Escaped
import ResourceQuery.Proofs.Session.Push
import ResourceQuery.Proofs.Session.PlainForm
import ResourceQuery.Proofs.Session.Walk
