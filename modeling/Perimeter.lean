import Perimeter.Ascending
import Perimeter.Ident
import Perimeter.Text.Blank
import Perimeter.Text.Case
import Perimeter.Text.Split
import Perimeter.Policy
import Perimeter.Route.Services
import Perimeter.Listener.Batch
import Perimeter.Listener.Priority
import Perimeter.Stack
import Perimeter.Listener.Planner
import Perimeter.Digest.Sha256
import Perimeter.Plan
import Perimeter.Decimal.Reader
import Perimeter.Decimal.Shortest
import Perimeter.Json.Reader
import Perimeter.Json.Writer
import Perimeter.Yaml.Writer
import Perimeter.Encoding.Plan
import Perimeter.Decoding.Input
import Perimeter.Settings.Load
import Perimeter.Regex.Program
import Perimeter.Regex.Reader
import Perimeter.Filter.Basic
import Perimeter.EnvFile.Basic
import Perimeter.Main
import Perimeter.Proofs.Pattern
import Perimeter.Proofs.Listener.Routing
import Perimeter.Proofs.Listener.Liveness
import Perimeter.Proofs.Firewall
import Perimeter.Proofs.Stack
import Perimeter.Proofs.Policy
import Perimeter.Proofs.Secondary
import Perimeter.Proofs.Listener.Names
import Perimeter.Proofs.Topology
import Perimeter.Proofs.Extension
import Perimeter.Proofs.Settings
import Perimeter.Proofs.Plan
import Perimeter.Proofs.Admission
import Perimeter.Proofs.Listener.Order
import Perimeter.Proofs.Listener.Atomicity
import Perimeter.Proofs.Listener.Layout
import Perimeter.Proofs.Deployment.Order
import Perimeter.Proofs.References
import Perimeter.Proofs.AllowLists
import Perimeter.Proofs.Deployment.Progress
import Perimeter.Proofs.Certificate
import Perimeter.Proofs.Listener.Twin
import Perimeter.Proofs.Shapes
import Perimeter.Proofs.EntryPoint
import Perimeter.Proofs.Net.Number
import Perimeter.Proofs.Net.Reading
import Perimeter.Proofs.Encoding.Parts
import Perimeter.Proofs.Encoding.Plan
import Perimeter.Proofs.Listener.Removal
import Perimeter.Proofs.Decoding
import Perimeter.Proofs.Enforcement
import Perimeter.Proofs.Route
import Perimeter.Proofs.Deployment.Stability
import Perimeter.Proofs.Net.RoundTrip
import Perimeter.Proofs.Chunking
import Perimeter.Proofs.Stack.Run
import Perimeter.Proofs.Policy.Steps
import Perimeter.Proofs.Firewall.Sets
import Perimeter.Proofs.Firewall.Leaves
import Perimeter.Proofs.Settings.Limits
import Perimeter.Proofs.Settings.Paths
import Perimeter.Proofs.Settings.Leaves
import Perimeter.Proofs.Settings.Layers
import Perimeter.Proofs.Decimal
import Perimeter.Proofs.Settings.Texts
