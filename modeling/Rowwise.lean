import Rowwise.Main
import Rowwise.Server.Router
import Rowwise.Table.Input
import Rowwise.Proofs.Table.Writing
import Rowwise.Proofs.Table.Splitting
import Rowwise.Proofs.Pattern.Grammar
import Rowwise.Proofs.Pattern.Interpretation
import Rowwise.Proofs.Pattern.Determinism
import Rowwise.Proofs.Cache.Entries
import Rowwise.Proofs.Cache.Interleaving
import Rowwise.Proofs.Cache.Recency
import Rowwise.Proofs.Job.Agreement
import Rowwise.Proofs.Job.Projection
import Rowwise.Proofs.Pattern.Document
import Rowwise.Proofs.Json.Brackets
import Rowwise.Proofs.Job.Header
import Rowwise.Proofs.Charset.Unmarked
import Rowwise.Proofs.Server.Upload
import Rowwise.Proofs.Machine.Render
import Rowwise.Proofs.Pattern.Columns
import Rowwise.Proofs.Log.Accounting
import Rowwise.Proofs.Table.Newlines
import Rowwise.Proofs.Table.HeaderRow
import Rowwise.Proofs.Pattern.Concatenation
import Rowwise.Proofs.Table.Tabs
import Rowwise.Proofs.Text.Escapes
import Rowwise.Proofs.Pattern.Calls
import Rowwise.Proofs.Pattern.Uris
import Rowwise.Proofs.Number.Rounding
import Rowwise.Proofs.Pattern.Ranges
import Rowwise.Proofs.Pattern.Occurrences
import Rowwise.Proofs.Table.FirstLine
import Rowwise.Proofs.Text.Units
import Rowwise.Proofs.Charset.Marked
import Rowwise.Proofs.Cache.Overtaking
import Rowwise.Proofs.Pattern.RandomRange
import Rowwise.Proofs.Regex.Runs
import Rowwise.Proofs.Regex.Sets
import Rowwise.Proofs.Regex.Footprint
import Rowwise.Proofs.Regex.Words
import Rowwise.Proofs.Text.Title
import Rowwise.Proofs.Pattern.Titles
