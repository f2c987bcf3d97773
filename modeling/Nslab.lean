import Nslab.Library.Document
import Nslab.Library.IpAddress
import Nslab.Library.Digest
import Nslab.Naming
import Nslab.Tc
import Nslab.Plan.RoundTrip
import Nslab.Plan.Mtu
import Nslab.Library.Normal
import Nslab.Manifest.Frozen
import Nslab.Library.JsonText
import Nslab.Library.Collections
import Nslab.Plan.Interfaces
import Nslab.Backend.Matching
import Nslab.Backend.Sysctls
import Nslab.Inspector.Differences
import Nslab.Backend.Tbf
import Nslab.Backend.BridgeVlans
import Nslab.Backend.RuleEcho
import Nslab.Backend.RouteEcho
import Nslab.Backend.References
import Nslab.Backend.ExecDiscipline
import Nslab.Routing.Agreement
import Nslab.StateOutcome
import Nslab.StateLoad
import Nslab.Backend.VethCleanup
import Nslab.TcCodec
import Nslab.Backend.Wiring
import Nslab.Plan.DeviceMtu
import Nslab.Graph.LayoutApart
import Nslab.Lifecycle.Authority
import Nslab.Lifecycle.Files
