import Labelgate.Go
import Labelgate.Types
import Labelgate.Storage
import Labelgate.Operator.PublicIP
import Labelgate.World
import Labelgate.Frame
import Labelgate.Cloudflare.Credentials
import Labelgate.Cloudflare.DNS
import Labelgate.Cloudflare.Duration
import Labelgate.Labels.Parser
import Labelgate.Labels.Order
import Labelgate.Labels.Accepted
import Labelgate.Cloudflare.Tunnel
import Labelgate.Cloudflare.Access
import Labelgate.Operator.DNS
import Labelgate.Operator.Tunnel
import Labelgate.Operator.TunnelSkip
import Labelgate.Operator.Access
import Labelgate.Reconciler.Conflicts
import Labelgate.Reconciler.Pass
import Labelgate.Reconciler.Ledger
import Labelgate.Reconciler.Cleanup
import Labelgate.Reconciler.Orphans
import Labelgate.Reconciler.Declared
import Labelgate.Reconciler.Loop
import Labelgate.Agent.Server
import Labelgate.Config
