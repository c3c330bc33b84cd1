import Handout.Pattern
import Handout.Marker
import Handout.Plan
import Handout.Path
import Handout.Store
import Handout.Encoding
import Handout.Data
import Handout.ErrorReport
import Handout.Yaml.Document
import Handout.Config.Sources
import Handout.Log.Setup
import Handout.World
import Handout.Session
import Handout.Discovery
import Handout.Processing
import Handout.Run
import Handout.CommandLine
import Handout.Main
import Handout.Marker.LineScan
import Handout.Proofs.Matching
import Handout.Proofs.Removal
import Handout.Proofs.Scan
import Handout.Proofs.Blocks
import Handout.Proofs.Segments
import Handout.Proofs.Settled
import Handout.Proofs.Gone
import Handout.Proofs.Breaks
import Handout.Proofs.Resolution
import Handout.Proofs.Discovery
import Handout.Proofs.Runs
import Handout.Proofs.Refusals
import Handout.Proofs.Preservation
import Handout.Proofs.Frame
import Handout.Proofs.Again
import Handout.Proofs.Unchanged
import Handout.Proofs.Shapes
import Handout.Proofs.Independence
import Handout.Proofs.Calls
import Handout.Proofs.Command
import Handout.Proofs.Layers
import Handout.Proofs.Variables
import Handout.Proofs.NormalForm
import Handout.Proofs.Items
import Handout.Proofs.Verbatim
import Handout.Proofs.Offences
import Handout.Proofs.Reports
import Handout.Proofs.Locality
import Handout.Proofs.Depth
import Handout.Proofs.Failures
import Handout.Proofs.Arguments
import Handout.Proofs.Roots
import Handout.Proofs.Events
import Handout.Proofs.Scopes
