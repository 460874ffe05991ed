import DocIndex.Display
import DocIndex.Session
import DocIndex.Settings.File
import DocIndex.Source.Choice
import DocIndex.Source.Folder
import DocIndex.Proofs.Markup.Escaping
import DocIndex.Proofs.PartitionFile.Quotation
import DocIndex.Proofs.Expression.Layout
import DocIndex.Proofs.PartitionFile.Tokens
import DocIndex.Proofs.Key.Characters
import DocIndex.Proofs.Partition.Routing
import DocIndex.Proofs.Record.Reading
import DocIndex.Proofs.PartitionFile.Rows
import DocIndex.Proofs.PartitionFile.Binding
import DocIndex.Proofs.Entry.Sorting
import DocIndex.Proofs.PartitionFile.Collection
import DocIndex.Proofs.PartitionFile.RoundTrip
import DocIndex.Proofs.Query.Filtering
import DocIndex.Proofs.Index.Partitioned
import DocIndex.Proofs.SearchBox.Polling
import DocIndex.Proofs.SearchBox.Accounting
import DocIndex.Proofs.SearchBox.Selecting
import DocIndex.Proofs.SearchBox.Staleness
import DocIndex.Proofs.Index.Bookkeeping
import DocIndex.Proofs.Index.Answers
import DocIndex.Proofs.Index.Provenance
import DocIndex.Proofs.Store.Writes
import DocIndex.Proofs.Index.Run
import DocIndex.Proofs.Index.Queue
import DocIndex.Proofs.Index.Waiting
import DocIndex.Proofs.Session.Run
import DocIndex.Proofs.Session.Shown
import DocIndex.Proofs.Index.Fetching
import DocIndex.Proofs.SearchBox.Awaiting
import DocIndex.Proofs.Session.Progress
import DocIndex.Proofs.SearchBox.Coherence
import DocIndex.Proofs.SearchBox.Pacing
import DocIndex.Proofs.Index.Agreement
import DocIndex.Proofs.PartitionFile.Isolation
import DocIndex.Proofs.Store.History
import DocIndex.Proofs.Index.Cached
import DocIndex.Proofs.SearchBox.Arrival
import DocIndex.Proofs.Text.Lowering
import DocIndex.Proofs.Key.Beginning
import DocIndex.Proofs.Index.Typing
import DocIndex.Proofs.SearchBox.Display
import DocIndex.Proofs.Record.Parts
import DocIndex.Proofs.Outcomes
import DocIndex.Proofs.PartitionFile.Resaving
import DocIndex.Proofs.PartitionFile.Choosing
import DocIndex.Proofs.Text.Encoding
import DocIndex.Proofs.Text.Lowered
import DocIndex.Proofs.Key.Reading
import DocIndex.Proofs.Key.PrefixCode
import DocIndex.Proofs.SearchBox.Quiescence
import DocIndex.Proofs.Session.Settling
import DocIndex.Proofs.Index.Containment
import DocIndex.Proofs.PartitionFile.LineEnds
import DocIndex.Proofs.Source.Transport
import DocIndex.Proofs.Decimal.Rounding
import DocIndex.Proofs.Json.Fields
import DocIndex.Proofs.Settings.Chosen
import DocIndex.Proofs.Settings.Saving
import DocIndex.Proofs.SearchBox.Marking
import DocIndex.Proofs.Record.Scopes
import DocIndex.Proofs.Record.Layouts
import DocIndex.Proofs.Text.Decoding
import DocIndex.Proofs.Key.Faults
import DocIndex.Proofs.PartitionFile.Structure
