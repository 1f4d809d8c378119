import Sift.Builder.Query
import Sift.Builder.Store
import Sift.Builder.Update
import Sift.Catalog
import Sift.Declaration.Source
import Sift.Executor.Recorder
import Sift.Json.Reader
import Sift.Postgres.Server
import Sift.Proofs.Builder.Assignment
import Sift.Proofs.Builder.Projection
import Sift.Proofs.Catalog
import Sift.Proofs.Clipping
import Sift.Proofs.Cursor.Offset
import Sift.Proofs.Declaration.Views
import Sift.Proofs.Disclosure
import Sift.Proofs.Document.Chronology
import Sift.Proofs.Document.NullTests
import Sift.Proofs.Document.Paging
import Sift.Proofs.Document.Regex
import Sift.Proofs.Freshness
import Sift.Proofs.Mapping
import Sift.Proofs.Postgres.Batch
import Sift.Proofs.Postgres.Cell
import Sift.Proofs.Record.History
import Sift.Proofs.RoundTrip
import Sift.Proofs.SharedFilter
import Sift.Proofs.Sql.Constants
import Sift.Proofs.Sql.Identifier
import Sift.Proofs.Sql.Insertion
import Sift.Proofs.Sql.Like
import Sift.Proofs.Sql.Reading
import Sift.Proofs.Uniformity
