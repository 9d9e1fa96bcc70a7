import Labelgate.Go

/-!
# The data model

The parsed label declarations that the reconciler consumes (`types/dns.go`, `types/tunnel.go`,
`types/access.go`, `types/container.go`): DNS services, tunnel services with their origin
options, named access-policy templates and the bindings resolved from them, and the parsed
container that carries them. Go pointers are values here; Go maps are association lists, whose
order is the order in which a `range` over the map visits them.
-/

namespace Labelgate

/-! ## Parsed declarations -/

/-- `types.DNSService`: one DNS record declared by the labels of a container. -/
structure DNSService where
  serviceName : String
  hostname : String
  type : String
  target : String
  proxied : Bool
  ttl : Int
  credential : String
  cleanup : Bool
  comment : String := ""
  access : String := ""
  priority : Int := 0
  weight : Int := 0
  port : Int := 0
  flags : Int := 0
  tag : String := ""
deriving DecidableEq, Repr

/-- `types.DefaultDNSService`: the values a DNS service starts from before its labels apply. -/
def defaultDNSService : DNSService :=
  { serviceName := "", hostname := "", type := "A", target := "auto", proxied := true, ttl := 0,
    credential := "default", cleanup := true }

/-- `types.OriginRequestConfig`: the origin options of a tunnel ingress rule. -/
structure OriginRequestConfig where
  connectTimeout : String := ""
  tlsTimeout : String := ""
  tcpKeepAlive : String := ""
  keepAliveConnections : Int := 0
  keepAliveTimeout : String := ""
  noTLSVerify : Bool := false
  originServerName : String := ""
  caPool : String := ""
  httpHostHeader : String := ""
  noHappyEyeballs : Bool := false
  disableChunkedEncoding : Bool := false
  proxyType : String := ""
deriving DecidableEq, Repr

/-- `types.TunnelService`: one public hostname routed through a tunnel. -/
structure TunnelService where
  serviceName : String
  hostname : String
  service : String
  tunnel : String
  path : String := ""
  credential : String := "default"
  cleanup : Bool := true
  access : String := ""
  originRequest : Option OriginRequestConfig := none
deriving DecidableEq, Repr

/-- `types.DefaultTunnelService`: the values a tunnel service starts from before its labels
apply. -/
def defaultTunnelService : TunnelService :=
  { serviceName := "", hostname := "", service := "", tunnel := "default" }

/-- `types.TunnelIngress`: a rule as the tunnel operator pushes it. -/
structure TunnelIngress where
  hostname : String
  path : String
  service : String
  originRequest : Option OriginRequestConfig
deriving DecidableEq, Repr

/-- `types.IngressRule`: a rule as `GetTunnelConfiguration` reads it back. -/
structure IngressRule where
  hostname : String
  path : String
  service : String
  originRequest : Option OriginRequestConfig
deriving DecidableEq, Repr

/-- `types.AccessRule`: a selector and its values. -/
structure AccessRule where
  selector : String
  values : List String
deriving DecidableEq, Repr

/-- `types.AccessPolicy`: one policy of an access-policy template (`include` is a Lean keyword,
so the three rule lists are `includeRules`, `requireRules` and `excludeRules`). -/
structure AccessPolicy where
  decision : String
  name : String := ""
  includeRules : List AccessRule := []
  requireRules : List AccessRule := []
  excludeRules : List AccessRule := []
deriving DecidableEq, Repr

/-- `types.AccessPolicyDef`: a named, hostname-agnostic access-policy template. -/
structure AccessPolicyDef where
  name : String
  appName : String := ""
  sessionDuration : String := "24h"
  policies : List AccessPolicy := [{ decision := "allow" }]
deriving DecidableEq, Repr

/-- `types.ResolvedAccessBinding`: a template bound to the hostname that references it. -/
structure ResolvedAccessBinding where
  hostname : String
  policyDef : AccessPolicyDef
  containerID : String
  containerName : String
  serviceName : String
  agentID : String
  cleanup : Bool
  credential : String
deriving DecidableEq, Repr

/-- `types.ContainerInfo`, with the fields the reconciler reads. -/
structure ContainerInfo where
  id : String
  name : String
  labels : List (String × String) := []
  networks : List (String × String) := []
deriving DecidableEq, Repr

/-- `types.ParsedContainer`: a container with the services its labels declare. -/
structure ParsedContainer where
  info : ContainerInfo
  dnsServices : List DNSService
  tunnelServices : List TunnelService
  accessPolicies : List (String × AccessPolicyDef)
  agentID : String
deriving DecidableEq, Repr

/-- `types.DNSRecord`: a DNS record as the Cloudflare client reads and writes it. -/
structure DNSRecord where
  id : String
  zoneID : String
  zoneName : String := ""
  name : String
  type : String
  content : String
  proxied : Bool
  ttl : Int
  priority : Int := 0
  comment : String := ""
deriving DecidableEq, Repr

end Labelgate
