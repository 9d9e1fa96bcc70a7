import Labelgate.Cloudflare.Duration

/-!
# The label parser

`labels.Parser` (`pkg/labels/parser.go`) and `Reconciler.parseContainer`, which turn a
container's labels into the services the reconciler works on. `Parse` keeps the labels
`<prefix>.<kind>.<service>.<property>` of the kinds `dns`, `tunnel` and `access`, refuses
reserved and malformed service names, and groups the rest by service. It then parses each group:
an access-policy template for each `access` service; a DNS or tunnel service for each `dns` or
`tunnel` service other than `default`, whose labels apply before the service's own. A service
that fails its checks is dropped with an error, which the reconciler only logs.

Every Go map of the parser is a `GoMap` in the order a `range` over it visits it; the groups
are visited in the order their first label is.

Each group holds exactly the labels of its kind and service (`groupLabels_fromLabels`), so what
a parsed service carries can be traced to the labels. What no label sets comes from the
defaults: `DefaultDNSService` names the credential `default`, so a DNS service names a credential
whether or not a label does (`credential_of_mem_parse`).
-/

namespace Labelgate

namespace Labels

/-! ## Values -/

/-- `parseBool`: the usual spellings of true and false, else the default. -/
def parseBool (s : String) (dflt : Bool) : Bool :=
  match toLower (GoTime.trimSpace s) with
  | "true" | "1" | "yes" | "on" => true
  | "false" | "0" | "no" | "off" => false
  | _ => dflt

/-- `parseInt`: `strconv.Atoi` of the trimmed text, else the default. -/
def parseInt (s : String) (dflt : Int) : Int := (GoTime.parseInt (GoTime.trimSpace s)).getD dflt

/-- `splitAndTrim`: the non-empty trimmed pieces between commas. -/
def splitAndTrim (s : String) : List String :=
  ((splitOn s ',').map GoTime.trimSpace).filter (· ≠ "")

example : parseBool " Yes " false = true ∧ parseInt "300" 0 = 300 ∧ parseInt "5m" 7 = 7 ∧
    splitAndTrim "a@x.com, ,b@x.com" = ["a@x.com", "b@x.com"] := by decide

/-! ## Service names -/

/-- `reservedNames`. -/
def reservedNames : List String :=
  ["hostname", "service", "type", "target", "proxied", "ttl", "cleanup", "credential", "tunnel",
    "path", "origin", "access", "default", "priority", "weight", "port", "flags", "tag", "comment"]

/-- A character of `[a-z0-9]`. -/
def isNameChar (c : Char) : Bool := ('a' ≤ c && c ≤ 'z') || ('0' ≤ c && c ≤ '9')

/-- `serviceNamePattern`, `^[a-z0-9]([a-z0-9-]*[a-z0-9])?$`. -/
def matchesServiceName (s : String) : Bool :=
  match s.toList with
  | [] => false
  | c :: rest =>
    isNameChar c && rest.all (fun d => isNameChar d || d = '-') &&
      (rest.getLast?.map isNameChar).getD true

example : matchesServiceName "web-1" ∧ ¬matchesServiceName "web-" ∧ ¬matchesServiceName "Web" := by
  decide

/-! ## DNS services -/

/-- `applyDNSDefaults`: the keys of `labelgate.dns.default.*` that apply to every DNS service. -/
def applyDNSDefaults (svc : DNSService) (defaults : GoMap String) : DNSService :=
  let svc := match defaults.lookup "type" with
    | some v => { svc with type := toUpper v }
    | none => svc
  let svc := match defaults.lookup "target" with
    | some v => { svc with target := v }
    | none => svc
  let svc := match defaults.lookup "proxied" with
    | some v => { svc with proxied := parseBool v svc.proxied }
    | none => svc
  let svc := match defaults.lookup "ttl" with
    | some v => { svc with ttl := parseInt v svc.ttl }
    | none => svc
  let svc := match defaults.lookup "credential" with
    | some v => { svc with credential := v }
    | none => svc
  match defaults.lookup "cleanup" with
  | some v => { svc with cleanup := parseBool v svc.cleanup }
  | none => svc

/-- One service-specific label of `parseDNSService`. -/
def applyDNSProperty (svc : DNSService) (key value : String) : DNSService :=
  match key with
  | "hostname" => { svc with hostname := value }
  | "type" => { svc with type := toUpper value }
  | "target" => { svc with target := value }
  | "proxied" => { svc with proxied := parseBool value svc.proxied }
  | "ttl" => { svc with ttl := parseInt value svc.ttl }
  | "credential" => { svc with credential := value }
  | "cleanup" => { svc with cleanup := parseBool value svc.cleanup }
  | "comment" => { svc with comment := value }
  | "access" => { svc with access := value }
  | "priority" => { svc with priority := parseInt value svc.priority }
  | "weight" => { svc with weight := parseInt value svc.weight }
  | "port" => { svc with port := parseInt value svc.port }
  | "flags" => { svc with flags := parseInt value svc.flags }
  | "tag" => { svc with tag := value }
  | _ => svc

/-- The record types `parseDNSService` accepts. -/
def validDNSTypes : List String := ["A", "AAAA", "CNAME", "TXT", "MX", "SRV", "CAA"]

/-- The service `parseDNSService` builds before its checks: `DefaultDNSService`, then the
defaults, then the service's labels. -/
def buildDNSService (serviceName : String) (props : GoMap String)
    (defaults : Option (GoMap String)) : DNSService :=
  let svc : DNSService := { defaultDNSService with serviceName }
  let svc := match defaults with
    | some d => applyDNSDefaults svc d
    | none => svc
  props.foldl (fun svc kv => applyDNSProperty svc kv.1 kv.2) svc

/-- `parseDNSService`: the service its labels build, if it has a hostname and a known record
type. -/
def parseDNSService (serviceName : String) (props : GoMap String)
    (defaults : Option (GoMap String)) : Except String DNSService :=
  let svc := buildDNSService serviceName props defaults
  if svc.hostname = "" then .error ("DNS service " ++ serviceName ++ ": hostname is required")
  else if svc.type ∉ validDNSTypes then
    .error ("DNS service " ++ serviceName ++ ": invalid record type: " ++ svc.type)
  else .ok svc

/-! ## Tunnel services -/

/-- `applyTunnelDefaults`. -/
def applyTunnelDefaults (svc : TunnelService) (defaults : GoMap String) : TunnelService :=
  let svc := match defaults.lookup "tunnel" with
    | some v => { svc with tunnel := v }
    | none => svc
  let svc := match defaults.lookup "credential" with
    | some v => { svc with credential := v }
    | none => svc
  match defaults.lookup "cleanup" with
  | some v => { svc with cleanup := parseBool v svc.cleanup }
  | none => svc

/-- `applyOriginProperty`. -/
def applyOriginProperty (origin : OriginRequestConfig) (key value : String) : OriginRequestConfig :=
  match key with
  | "connect_timeout" => { origin with connectTimeout := value }
  | "tls_timeout" => { origin with tlsTimeout := value }
  | "tcp_keepalive" => { origin with tcpKeepAlive := value }
  | "keep_alive_connections" => { origin with keepAliveConnections := parseInt value 0 }
  | "keep_alive_timeout" => { origin with keepAliveTimeout := value }
  | "no_tls_verify" => { origin with noTLSVerify := parseBool value false }
  | "origin_server_name" => { origin with originServerName := value }
  | "ca_pool" => { origin with caPool := value }
  | "http_host_header" => { origin with httpHostHeader := value }
  | "no_happy_eyeballs" => { origin with noHappyEyeballs := parseBool value false }
  | "disable_chunked_encoding" => { origin with disableChunkedEncoding := parseBool value false }
  | "proxy_type" => { origin with proxyType := value }
  | _ => origin

/-- One service-specific label of `parseTunnelService`: an `origin.*` label goes to the origin
options, created empty by the first one. -/
def applyTunnelProperty (st : TunnelService × Option OriginRequestConfig) (key value : String) :
    TunnelService × Option OriginRequestConfig :=
  let (svc, origin) := st
  if hasPrefix key "origin." then
    (svc, some (applyOriginProperty (origin.getD {}) (trimPrefix key "origin.") value))
  else
    let svc := match key with
      | "hostname" => { svc with hostname := value }
      | "service" => { svc with service := value }
      | "tunnel" => { svc with tunnel := value }
      | "path" => { svc with path := value }
      | "credential" => { svc with credential := value }
      | "cleanup" => { svc with cleanup := parseBool value svc.cleanup }
      | "access" => { svc with access := value }
      | _ => svc
    (svc, origin)

/-- `parseTunnelService`. -/
def parseTunnelService (serviceName : String) (props : GoMap String)
    (defaults : Option (GoMap String)) : Except String TunnelService :=
  let svc : TunnelService := { defaultTunnelService with serviceName }
  let svc := match defaults with
    | some d => applyTunnelDefaults svc d
    | none => svc
  let (svc, origin) := props.foldl (fun st kv => applyTunnelProperty st kv.1 kv.2) (svc, none)
  let svc := match origin with
    | some o => { svc with originRequest := some o }
    | none => svc
  if svc.hostname = "" then .error ("Tunnel service " ++ serviceName ++ ": hostname is required")
  else if svc.service = "" then .error ("Tunnel service " ++ serviceName ++ ": service is required")
  else .ok svc

/-! ## Access-policy templates -/

/-- `types.ValidAccessSelectors`. -/
def validAccessSelectors : List String :=
  ["emails", "emails_ending_in", "ip_ranges", "country", "everyone", "service_token",
    "access_groups", "certificate", "login_methods"]

/-- `parseAccessRule`: `everyone` and `certificate` take no values, the others at least one. -/
def parseAccessRule (policyName ruleType selector value : String) : Except String AccessRule :=
  if selector ∉ validAccessSelectors then
    .error ("access policy " ++ policyName ++ ": invalid " ++ ruleType ++ " selector: " ++ selector)
  else if selector = "everyone" ∨ selector = "certificate" then .ok ⟨selector, []⟩
  else
    let values := splitAndTrim value
    if values = [] then
      .error ("access policy " ++ policyName ++ ": " ++ ruleType ++ "." ++ selector ++
        " requires at least one value")
    else .ok ⟨selector, values⟩

/-- One label of `parseAccessPolicyDef`, on the template and its one policy; the first invalid
label ends the parse. -/
def applyAccessProperty (policyName : String) (st : AccessPolicyDef × AccessPolicy)
    (key value : String) : Except String (AccessPolicyDef × AccessPolicy) :=
  let (d, policy) := st
  if key = "app_name" then .ok ({ d with appName := value }, policy)
  else if key = "session_duration" then .ok ({ d with sessionDuration := value }, policy)
  else if key = "policy.decision" then
    let decision := toLower (GoTime.trimSpace value)
    if decision ∈ ["allow", "block", "bypass", "service_auth"] then .ok (d, { policy with decision })
    else .error ("access policy " ++ policyName ++ ": invalid decision: " ++ value ++
      " (must be allow, block, bypass, or service_auth)")
  else if key = "policy.name" then .ok (d, { policy with name := value })
  else if hasPrefix key "policy.include." then do
    let rule ← parseAccessRule policyName "include" (trimPrefix key "policy.include.") value
    pure (d, { policy with includeRules := policy.includeRules ++ [rule] })
  else if hasPrefix key "policy.require." then do
    let rule ← parseAccessRule policyName "require" (trimPrefix key "policy.require.") value
    pure (d, { policy with requireRules := policy.requireRules ++ [rule] })
  else if hasPrefix key "policy.exclude." then do
    let rule ← parseAccessRule policyName "exclude" (trimPrefix key "policy.exclude.") value
    pure (d, { policy with excludeRules := policy.excludeRules ++ [rule] })
  else .ok (d, policy)

/-- `parseAccessPolicyDef`: `DefaultAccessPolicyDef`'s one `allow` policy, edited by the labels;
`allow` and `block` need an include rule. -/
def parseAccessPolicyDef (policyName : String) (props : GoMap String) :
    Except String AccessPolicyDef := do
  let (d, policy) ← props.foldlM (fun st kv => applyAccessProperty policyName st kv.1 kv.2)
    ({ name := policyName }, { decision := "allow" })
  if (policy.decision = "allow" ∨ policy.decision = "block") ∧ policy.includeRules = [] then
    throw ("access policy " ++ policyName ++ ": " ++ policy.decision ++
      " decision requires at least one include rule")
  pure { d with policies := [policy] }

/-! ## Parse -/

/-- The labels of one kind: property to value, by service name. -/
abbrev LabelGroups := GoMap (GoMap String)

/-- `m[service][property] = value`, making the service's map on its first label. -/
def LabelGroups.add (m : LabelGroups) (service property value : String) : LabelGroups :=
  m.insert service (((m.lookup service).getD []).insert property value)

/-- What the first loop of `Parse` gathers: the labels of each kind by service, and the errors of
refused service names. -/
structure Grouped where
  dns : LabelGroups := []
  tunnel : LabelGroups := []
  access : LabelGroups := []
  errors : List String := []
deriving DecidableEq, Repr

end Labels

open Labels

/-- `labels.Parser`. -/
structure Parser where
  labelPrefix : String
deriving DecidableEq, Repr

/-- `NewParser`: the prefix `labelgate` unless another is given. -/
def newParser (labelPrefix : String) : Parser :=
  ⟨if labelPrefix = "" then "labelgate" else labelPrefix⟩

/-- `labels.ParseResult`. -/
structure ParseResult where
  dnsServices : List DNSService
  tunnelServices : List TunnelService
  accessPolicies : GoMap AccessPolicyDef
  errors : List String
deriving DecidableEq, Repr

namespace Parser

variable (p : Parser)

/-- One label of the first loop of `Parse`: labels without the prefix or with fewer than three
parts are skipped, a reserved or malformed service name is an error, and the label is filed under
its kind and service (an unknown kind is dropped). -/
def groupLabel (g : Grouped) (key value : String) : Grouped :=
  if !hasPrefix key (p.labelPrefix ++ ".") then g
  else
    match splitN3 (trimPrefix key (p.labelPrefix ++ ".")) '.' with
    | none => g
    | some (labelType, serviceName, property) =>
      if serviceName ∈ reservedNames ∧ serviceName ≠ "default" then
        { g with errors := g.errors ++ ["reserved service name: " ++ serviceName] }
      else if serviceName ≠ "default" ∧ matchesServiceName serviceName = false then
        { g with errors := g.errors ++ ["invalid service name: " ++ serviceName ++
          " (must be lowercase alphanumeric with hyphens)"] }
      else
        match labelType with
        | "dns" => { g with dns := g.dns.add serviceName property value }
        | "tunnel" => { g with tunnel := g.tunnel.add serviceName property value }
        | "access" => { g with access := g.access.add serviceName property value }
        | _ => g

/-- The first loop of `Parse`. -/
def groupLabels (labels : GoMap String) : Grouped :=
  labels.foldl (fun g kv => p.groupLabel g kv.1 kv.2) {}

end Parser

namespace Labels

/-- The loop of `Parse` over the access groups: a template for each but `default`. -/
def parseAccessPolicies (access : LabelGroups) (errors : List String) :
    GoMap AccessPolicyDef × List String :=
  access.foldl (fun (acc, errs) (name, props) =>
    if name = "default" then (acc, errs)
    else match parseAccessPolicyDef name props with
      | .ok d => (acc.insert name d, errs)
      | .error e => (acc, errs ++ [e])) ([], errors)

/-- The loop of `Parse` over the DNS groups other than `default`. -/
def parseDNSServices (dns : LabelGroups) (defaults : Option (GoMap String))
    (errors : List String) : List DNSService × List String :=
  dns.foldl (fun (svcs, errs) (name, props) =>
    match parseDNSService name props defaults with
    | .ok s => (svcs ++ [s], errs)
    | .error e => (svcs, errs ++ [e])) ([], errors)

/-- The loop of `Parse` over the tunnel groups other than `default`. -/
def parseTunnelServices (tunnel : LabelGroups) (defaults : Option (GoMap String))
    (errors : List String) : List TunnelService × List String :=
  tunnel.foldl (fun (svcs, errs) (name, props) =>
    match parseTunnelService name props defaults with
    | .ok s => (svcs ++ [s], errs)
    | .error e => (svcs, errs ++ [e])) ([], errors)

end Labels

namespace Parser

variable (p : Parser)

/-- `Parser.Parse`. -/
def parse (labels : GoMap String) : ParseResult :=
  let g := p.groupLabels labels
  let (policies, errors) := parseAccessPolicies g.access g.errors
  let (dnsServices, errors) := parseDNSServices (g.dns.erase "default") (g.dns.lookup "default") errors
  let (tunnelServices, errors) :=
    parseTunnelServices (g.tunnel.erase "default") (g.tunnel.lookup "default") errors
  ⟨dnsServices, tunnelServices, policies, errors⟩

/-- `Reconciler.parseContainer`: the parse of the container's labels, or nothing when they
declare no service and no template. Hostname conflicts within the container are only logged. -/
def parseContainer (container : ContainerInfo) (agentID : String) : Option ParsedContainer :=
  let result := p.parse container.labels
  if result.dnsServices = [] ∧ result.tunnelServices = [] ∧ result.accessPolicies = [] then none
  else some ⟨container, result.dnsServices, result.tunnelServices, result.accessPolicies, agentID⟩

/-! ## What the groups hold -/

/-- The label `<prefix>.<kind>.<service>.<property>`. -/
def labelKey (kind service property : String) : String :=
  p.labelPrefix ++ "." ++ kind ++ "." ++ service ++ "." ++ property

/-- The label a group entry was filed from is the label of its kind, service and property. -/
theorem key_eq_labelKey {key labelType serviceName property : String}
    (hpfx : hasPrefix key (p.labelPrefix ++ ".") = true)
    (hsplit : splitN3 (trimPrefix key (p.labelPrefix ++ ".")) '.' =
      some (labelType, serviceName, property)) :
    key = p.labelKey labelType serviceName property := by
  rw [eq_append_trimPrefix hpfx, splitN3_eq_some hsplit]
  apply String.ext
  simp only [labelKey, String.data_append, List.append_assoc]

/-- Every entry of the groups of a kind is a label of the map, under its kind, service and
property. -/
def FromLabels (labels : GoMap String) (kind : String) (m : LabelGroups) : Prop :=
  ∀ service props, (service, props) ∈ m → ∀ kv ∈ props, (p.labelKey kind service kv.1, kv.2) ∈ labels

theorem FromLabels.add {labels : GoMap String} {kind : String} {m : LabelGroups}
    (hm : p.FromLabels labels kind m) {service property value : String}
    (hkv : (p.labelKey kind service property, value) ∈ labels) :
    p.FromLabels labels kind (m.add service property value) := by
  intro service' props' hmem kv hkv'
  rcases GoMap.mem_insert hmem with heq | hmem
  · obtain ⟨rfl, rfl⟩ := Prod.mk.inj heq
    rcases GoMap.mem_insert hkv' with rfl | hold
    · exact hkv
    · cases hl : m.lookup service' with
      | none => simp [hl] at hold
      | some l =>
        rw [hl, Option.getD_some] at hold
        exact hm _ _ (GoMap.mem_of_lookup_eq_some hl) kv hold
  · exact hm _ _ hmem kv hkv'

/-- The groups of all three kinds come from the labels. -/
def GroupedFrom (labels : GoMap String) (g : Grouped) : Prop :=
  p.FromLabels labels "dns" g.dns ∧ p.FromLabels labels "tunnel" g.tunnel ∧
    p.FromLabels labels "access" g.access

theorem groupLabel_from {labels : GoMap String} {g : Grouped} (hg : p.GroupedFrom labels g)
    {key value : String} (hkv : (key, value) ∈ labels) :
    p.GroupedFrom labels (p.groupLabel g key value) := by
  unfold groupLabel
  split
  · exact hg
  rename_i hpfx
  split
  · exact hg
  rename_i labelType serviceName property hsplit
  rw [p.key_eq_labelKey (by simpa using hpfx) hsplit] at hkv
  split_ifs
  · exact hg
  · exact hg
  · split
    · exact ⟨hg.1.add p hkv, hg.2⟩
    · exact ⟨hg.1, hg.2.1.add p hkv, hg.2.2⟩
    · exact ⟨hg.1, hg.2.1, hg.2.2.add p hkv⟩
    · exact hg

/-- After the first loop of `Parse`, each group holds exactly labels of its kind and service. -/
theorem groupLabels_fromLabels (labels : GoMap String) : p.GroupedFrom labels (p.groupLabels labels) := by
  suffices ∀ l : GoMap String, (∀ kv ∈ l, kv ∈ labels) → ∀ g, p.GroupedFrom labels g →
      p.GroupedFrom labels (l.foldl (fun g kv => p.groupLabel g kv.1 kv.2) g) from
    this labels (fun _ h => h) {} ⟨nofun, nofun, nofun⟩
  intro l
  induction l with
  | nil => exact fun _ _ hg => hg
  | cons kv l ih =>
    intro hl g hg
    exact ih (fun x hx => hl x (List.mem_cons_of_mem _ hx)) _
      (p.groupLabel_from hg (hl kv (List.mem_cons_self _ _)))

end Parser

namespace Labels

/-! ## Parsed DNS services -/

/-- The DNS services of `Parse` are the groups whose service passes its checks, in the order of
the groups. -/
theorem parseDNSServices_fst (dns : LabelGroups) (defaults : Option (GoMap String))
    (errors : List String) :
    (parseDNSServices dns defaults errors).1 =
      dns.filterMap fun np => (parseDNSService np.1 np.2 defaults).toOption := by
  suffices ∀ acc : List DNSService × List String, (dns.foldl (fun (svcs, errs) (name, props) =>
      match parseDNSService name props defaults with
      | .ok s => (svcs ++ [s], errs)
      | .error e => (svcs, errs ++ [e])) acc).1 =
      acc.1 ++ dns.filterMap fun np => (parseDNSService np.1 np.2 defaults).toOption from
    this ([], errors)
  induction dns with
  | nil => simp
  | cons np dns ih =>
    intro acc
    rw [List.foldl_cons, ih, List.filterMap_cons]
    cases h : parseDNSService np.1 np.2 defaults <;> simp [h, Except.toOption]

theorem parseDNSService_eq_ok {serviceName : String} {props : GoMap String}
    {defaults : Option (GoMap String)} {s : DNSService}
    (h : parseDNSService serviceName props defaults = .ok s) :
    s = buildDNSService serviceName props defaults ∧ s.type ∈ validDNSTypes := by
  simp only [parseDNSService] at h
  split_ifs at h with h1 h2
  cases h
  exact ⟨rfl, h2⟩

/-- What every label keeps, the labels of a service keep. -/
theorem foldl_applyDNSProperty {P : DNSService → Prop} {props : GoMap String}
    (hstep : ∀ svc, ∀ kv ∈ props, P svc → P (applyDNSProperty svc kv.1 kv.2)) {svc : DNSService}
    (h : P svc) : P (props.foldl (fun svc kv => applyDNSProperty svc kv.1 kv.2) svc) := by
  induction props generalizing svc with
  | nil => exact h
  | cons kv props ih =>
    exact ih (fun s x hx => hstep s x (List.mem_cons_of_mem _ hx))
      (hstep svc kv (List.mem_cons_self _ _) h)

theorem applyDNSProperty_serviceName (svc : DNSService) (key value : String) :
    (applyDNSProperty svc key value).serviceName = svc.serviceName := by
  unfold applyDNSProperty
  split <;> rfl

theorem applyDNSDefaults_serviceName (svc : DNSService) (defaults : GoMap String) :
    (applyDNSDefaults svc defaults).serviceName = svc.serviceName := by
  unfold applyDNSDefaults
  split <;> split <;> split <;> split <;> split <;> split <;> rfl

@[simp]
theorem buildDNSService_serviceName (serviceName : String) (props : GoMap String)
    (defaults : Option (GoMap String)) :
    (buildDNSService serviceName props defaults).serviceName = serviceName := by
  unfold buildDNSService
  refine foldl_applyDNSProperty (P := (·.serviceName = serviceName))
    (fun svc _ _ h => (applyDNSProperty_serviceName svc _ _).trans h) ?_
  cases defaults
  · rfl
  · exact applyDNSDefaults_serviceName _ _

theorem applyDNSProperty_credential (svc : DNSService) {key : String} (h : key ≠ "credential")
    (value : String) : (applyDNSProperty svc key value).credential = svc.credential := by
  unfold applyDNSProperty
  split <;> first | rfl | exact absurd rfl h

theorem applyDNSDefaults_credential (svc : DNSService) {defaults : GoMap String}
    (h : defaults.lookup "credential" = none) :
    (applyDNSDefaults svc defaults).credential = svc.credential := by
  unfold applyDNSDefaults
  simp only [h]
  split <;> split <;> split <;> split <;> split <;> rfl

/-- Without a `credential` label of its own or among the defaults, a service keeps the credential
of `DefaultDNSService`. -/
theorem buildDNSService_credential (serviceName : String) {props : GoMap String}
    (hprops : ∀ kv ∈ props, kv.1 ≠ "credential") {defaults : Option (GoMap String)}
    (hdefaults : ∀ d, defaults = some d → d.lookup "credential" = none) :
    (buildDNSService serviceName props defaults).credential = "default" := by
  unfold buildDNSService
  refine foldl_applyDNSProperty (P := (·.credential = "default"))
    (fun svc kv hkv h => (applyDNSProperty_credential svc (hprops kv hkv) _).trans h) ?_
  cases defaults with
  | none => rfl
  | some d => exact applyDNSDefaults_credential _ (hdefaults d rfl)

end Labels

namespace Parser

variable (p : Parser)

/-- A DNS service of `Parse` is the service of a group other than `default` that passes its
checks, with the `default` group as its defaults. -/
theorem mem_parse_dnsServices {labels : GoMap String} {s : DNSService}
    (hs : s ∈ (p.parse labels).dnsServices) :
    ∃ props, (s.serviceName, props) ∈ (p.groupLabels labels).dns ∧ s.serviceName ≠ "default" ∧
      parseDNSService s.serviceName props ((p.groupLabels labels).dns.lookup "default") = .ok s := by
  simp only [parse, parseDNSServices_fst, List.mem_filterMap] at hs
  obtain ⟨⟨name, props⟩, hmem, hok⟩ := hs
  have hok : parseDNSService name props ((p.groupLabels labels).dns.lookup "default") = .ok s := by
    revert hok; cases parseDNSService _ _ _ <;> simp [Except.toOption]
  have hname : s.serviceName = name := by simp [(parseDNSService_eq_ok hok).1]
  subst hname
  obtain ⟨hmem, hne⟩ := List.mem_filter.1 hmem
  exact ⟨props, hmem, by simpa using hne, hok⟩

/-- Every record type of a parsed DNS service is one `parseDNSService` accepts. -/
theorem type_mem_of_mem_parse {labels : GoMap String} {s : DNSService}
    (hs : s ∈ (p.parse labels).dnsServices) : s.type ∈ Labels.validDNSTypes :=
  have ⟨_, _, _, hok⟩ := p.mem_parse_dnsServices hs
  (Labels.parseDNSService_eq_ok hok).2

/-- A parsed DNS service whose labels name no credential, for itself or in `dns.default`, names the
credential `default`. -/
theorem credential_of_mem_parse {labels : GoMap String} {s : DNSService}
    (hs : s ∈ (p.parse labels).dnsServices)
    (hown : ∀ kv ∈ labels, kv.1 ≠ p.labelKey "dns" s.serviceName "credential")
    (hdefault : ∀ kv ∈ labels, kv.1 ≠ p.labelKey "dns" "default" "credential") :
    s.credential = "default" := by
  obtain ⟨props, hmem, -, hok⟩ := p.mem_parse_dnsServices hs
  have hfrom := (p.groupLabels_fromLabels labels).1
  rw [(Labels.parseDNSService_eq_ok hok).1]
  refine Labels.buildDNSService_credential _ (fun kv hkv heq => ?_) (fun d hd => ?_)
  · exact hown _ (hfrom _ _ hmem kv hkv) (by rw [heq])
  · cases hc : d.lookup "credential" with
    | none => rfl
    | some v =>
      exact absurd rfl (hdefault _ (hfrom _ _ (GoMap.mem_of_lookup_eq_some hd) ("credential", v)
        (GoMap.mem_of_lookup_eq_some hc)))

end Parser

end Labelgate
