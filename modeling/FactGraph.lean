import FactGraph.Attachment
import FactGraph.Batch
import FactGraph.Binding
import FactGraph.Command.File
import FactGraph.Command.Invocation
import FactGraph.Command.Run
import FactGraph.Command.Stdout
import FactGraph.Command.Usage
import FactGraph.Command.Word
import FactGraph.Dump.Basic
import FactGraph.Dump.Fault
import FactGraph.Dump.Reader
import FactGraph.Endpoints.Basic
import FactGraph.Endpoints.Construct
import FactGraph.Endpoints.Resolve
import FactGraph.Endpoints.Shape
import FactGraph.Fact.Basic
import FactGraph.Fact.Criteria
import FactGraph.Fact.Document
import FactGraph.Fact.Record
import FactGraph.Json.Agreement
import FactGraph.Json.Basic
import FactGraph.Json.Display
import FactGraph.Json.Number
import FactGraph.Json.Reader
import FactGraph.Main
import FactGraph.Number.Binary64
import FactGraph.Number.Notation
import FactGraph.Number.Numeral
import FactGraph.Number.Shortest
import FactGraph.Object
import FactGraph.Proofs.AuditMeaning
import FactGraph.Proofs.AuditRows
import FactGraph.Proofs.BatchContents
import FactGraph.Proofs.BatchParts
import FactGraph.Proofs.CanonicalBindings
import FactGraph.Proofs.CanonicalReadings
import FactGraph.Proofs.CodePoints
import FactGraph.Proofs.DocumentedKeys
import FactGraph.Proofs.DumpContents
import FactGraph.Proofs.DumpLayout
import FactGraph.Proofs.EncodedEndpoints
import FactGraph.Proofs.EntryNumbers
import FactGraph.Proofs.FactHistories
import FactGraph.Proofs.FaultOrder
import FactGraph.Proofs.FirstFault
import FactGraph.Proofs.FloatRange
import FactGraph.Proofs.Histories
import FactGraph.Proofs.IdText
import FactGraph.Proofs.JoinedDumps
import FactGraph.Proofs.LaterObjects
import FactGraph.Proofs.LineFeeds
import FactGraph.Proofs.LoadFaults
import FactGraph.Proofs.OwnData
import FactGraph.Proofs.PlacedObjects
import FactGraph.Proofs.PrintedObjects
import FactGraph.Proofs.Printing
import FactGraph.Proofs.Reading
import FactGraph.Proofs.RecordEndpoints
import FactGraph.Proofs.Reindexing
import FactGraph.Proofs.Resolution
import FactGraph.Proofs.ResolutionEffects
import FactGraph.Proofs.RoundTrip
import FactGraph.Proofs.RunEndings
import FactGraph.Proofs.ShownFact
import FactGraph.Proofs.StoredOrder
import FactGraph.Proofs.Updates
import FactGraph.Proofs.Views
import FactGraph.Proofs.WriteBack
import FactGraph.Proofs.WriterRuns
import FactGraph.Proofs.WrittenDump
import FactGraph.Proofs.WrittenRecord
import FactGraph.Published
import FactGraph.Report
import FactGraph.SortedSet
import FactGraph.Stores.Basic
import FactGraph.Stores.Reading
import FactGraph.Table
import FactGraph.Text.Basic
import FactGraph.Text.Blank
import FactGraph.Text.Digit
import FactGraph.Text.Printable
import FactGraph.Text.Quoted
import FactGraph.Text.Utf8
import FactGraph.Uuid.Basic
import FactGraph.Uuid.Reader
