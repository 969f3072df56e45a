import TableGraph.Proofs.Document.Alone
import TableGraph.Proofs.Document.Filling
import TableGraph.Proofs.Document.RequiredValues
import TableGraph.Proofs.Document.RoundTrip
import TableGraph.Proofs.Document.Values
import TableGraph.Proofs.Http.FailedStatus
import TableGraph.Proofs.Operation.BuiltNodes
import TableGraph.Proofs.Variables.Numbering
import TableGraph.Sample.Actions
import TableGraph.ArrayLiteral
import TableGraph.Proofs.Operation.DistinctUpdates
import TableGraph.Proofs.Operation.ListArguments
import TableGraph.Proofs.Text.Utf8
import TableGraph.Http.Written
import TableGraph.Proofs.Http.Numbers
import TableGraph.Proofs.Http.Chunks
import TableGraph.Proofs.Http.Heads
import TableGraph.Proofs.Http.Messages
import TableGraph.Proofs.Http.CutBodies
import TableGraph.Proofs.Http.Addresses
import TableGraph.Proofs.Operation.Resolution
import TableGraph.Proofs.Http.Hosts
import TableGraph.Proofs.Operation.Relations
import TableGraph.Proofs.Operation.Filters
import TableGraph.Proofs.Operation.PrimaryKeys
import TableGraph.Proofs.Aggregate.Projection
import TableGraph.Proofs.Aggregate.SingleValues
import TableGraph.Proofs.Answer.Missing
import TableGraph.Proofs.Http.Delays
