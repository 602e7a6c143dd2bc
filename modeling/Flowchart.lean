import Flowchart.Compile.Request
import Flowchart.Document.Dump
import Flowchart.Document.Reading
import Flowchart.Graph.Dump
import Flowchart.Graph.Lint
import Flowchart.Graph.Normalize
import Flowchart.Json.Inline
import Flowchart.Json.Printer
import Flowchart.Json.Reader
import Flowchart.Palette
import Flowchart.Proofs.Agreement
import Flowchart.Proofs.Coverage
import Flowchart.Proofs.DocumentRoundTrip
import Flowchart.Proofs.Editor
import Flowchart.Proofs.Equivariance
import Flowchart.Proofs.FollowedPart
import Flowchart.Proofs.GraphRoundTrip
import Flowchart.Proofs.Handles
import Flowchart.Proofs.LetterCase
import Flowchart.Proofs.Malformed
import Flowchart.Proofs.Normalize
import Flowchart.Proofs.Origins
import Flowchart.Proofs.PathIndependence
import Flowchart.Proofs.Reordering
import Flowchart.Proofs.Resolution
import Flowchart.Proofs.Rewording
import Flowchart.Proofs.Schema
import Flowchart.Proofs.ScriptPath
import Flowchart.Proofs.Service
import Flowchart.Proofs.Settings
import Flowchart.Proofs.Shape
import Flowchart.Proofs.Stranded
import Flowchart.Proofs.Termination
import Flowchart.Proofs.Unconnected
import Flowchart.Proofs.WellFormed
import Flowchart.Service.Answer
import Flowchart.Settings.Origins
