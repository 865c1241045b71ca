import Columnar.Main
import Columnar.Proofs.Catalog.IndexedJoin
import Columnar.Proofs.CommandLine.Filter
import Columnar.Proofs.CommandLine.Join
import Columnar.Proofs.CommandLine.Show
import Columnar.Proofs.Comparison
import Columnar.Proofs.Csv.RoundTrip
import Columnar.Proofs.IndexScan
import Columnar.Proofs.Inference
import Columnar.Proofs.Join.Association
import Columnar.Proofs.Join.Exchange
import Columnar.Proofs.Join.Partition
import Columnar.Proofs.Join.Projection
import Columnar.Proofs.Join.Rearrangement
import Columnar.Proofs.Join.Selection
import Columnar.Proofs.KeyEquality
import Columnar.Proofs.QueryAlgebra
import Columnar.Proofs.Ragged
import Columnar.Proofs.Replay
import Columnar.Proofs.Session.History
import Columnar.Proofs.Binary64.Nearest
