import Labelgate.Cloudflare.DNS
import Labelgate.Cloudflare.Duration

/-!
# The tunnel client

`cloudflare.TunnelClient` (`cloudflare/tunnel.go`): a tunnel's ingress configuration is one
list that the API replaces whole. `updateTunnelConfiguration` sends the rules converted by
`convertOriginRequestToParams`, followed by an `http_status:404` catch-all unless the last rule
already has no hostname; the remote stores what is sent, and `getTunnelConfiguration` reads it
back through `convertGetResponseOriginRequest`, where an absent field reads as its zero value.

`AddIngressRule` and `RemoveIngressRule` read the list, edit it, and push back every rule they
keep as read. Options that `convertOriginRequestToParams` sent survive that trip when their
durations are at most what `time.ParseDuration` reads (`OriginRequestParams.Sendable`): a
duration read back as `"<n>s"` parses to `n` again. So the two edits leave every other rule this
program pushed as it was, whatever fails (`ingressRule_edits_keep_rules`).
-/

namespace Labelgate

/-- `convertOriginRequestToParams`: a field is sent when it is set, a duration when it parses to
a positive number of seconds. -/
def convertOriginRequestToParams (o : OriginRequestConfig) : OriginRequestParams :=
  let secs (s : String) : Option Int :=
    if s ≠ "" ∧ parseDurationToSeconds s > 0 then some (parseDurationToSeconds s) else none
  let str (s : String) : Option String := if s ≠ "" then some s else none
  let flag (b : Bool) : Option Bool := if b then some true else none
  { connectTimeout := secs o.connectTimeout
    tlsTimeout := secs o.tlsTimeout
    tcpKeepAlive := secs o.tcpKeepAlive
    keepAliveConnections := if o.keepAliveConnections > 0 then some o.keepAliveConnections else none
    keepAliveTimeout := secs o.keepAliveTimeout
    noTLSVerify := flag o.noTLSVerify
    originServerName := str o.originServerName
    caPool := str o.caPool
    httpHostHeader := str o.httpHostHeader
    noHappyEyeballs := flag o.noHappyEyeballs
    disableChunkedEncoding := flag o.disableChunkedEncoding
    proxyType := str o.proxyType }

/-- `convertGetResponseOriginRequest`: durations come back as `"<n>s"`; a configuration whose
fields are all zero is `nil`. -/
def convertGetResponseOriginRequest (p : OriginRequestParams) : Option OriginRequestConfig :=
  let dur (v : Option Int) : String := if v.getD 0 > 0 then toString (v.getD 0) ++ "s" else ""
  let cfg : OriginRequestConfig :=
    { connectTimeout := dur p.connectTimeout
      tlsTimeout := dur p.tlsTimeout
      tcpKeepAlive := dur p.tcpKeepAlive
      keepAliveConnections := if p.keepAliveConnections.getD 0 > 0 then p.keepAliveConnections.getD 0 else 0
      keepAliveTimeout := dur p.keepAliveTimeout
      noTLSVerify := p.noTLSVerify.getD false
      originServerName := p.originServerName.getD ""
      caPool := p.caPool.getD ""
      httpHostHeader := p.httpHostHeader.getD ""
      noHappyEyeballs := p.noHappyEyeballs.getD false
      disableChunkedEncoding := p.disableChunkedEncoding.getD false
      proxyType := p.proxyType.getD "" }
  if cfg = {} then none else some cfg

/-- The parameters `UpdateTunnelConfiguration` sends for one rule. -/
def ingressParams (rule : TunnelIngress) : IngressParams :=
  { hostname := if rule.hostname ≠ "" then some rule.hostname else none
    path := if rule.path ≠ "" then some rule.path else none
    service := rule.service
    originRequest := rule.originRequest.map convertOriginRequestToParams }

/-- The whole list `UpdateTunnelConfiguration` sends: the rules, then the catch-all unless the
last rule has no hostname. -/
def configParams (ingresses : List TunnelIngress) : List IngressParams :=
  let params := ingresses.map ingressParams
  match ingresses.getLast? with
  | some last => if last.hostname ≠ "" then params ++ [⟨none, none, "http_status:404", none⟩] else params
  | none => params ++ [⟨none, none, "http_status:404", none⟩]

/-- A rule of the configuration as `GetTunnelConfiguration` reads it. -/
def ingressRuleOf (p : IngressParams) : IngressRule :=
  { hostname := p.hostname.getD "", path := p.path.getD "", service := p.service,
    originRequest := convertGetResponseOriginRequest (p.originRequest.getD {}) }

@[simp] theorem ingressRuleOf_ingressParams_hostname (i : TunnelIngress) :
    (ingressRuleOf (ingressParams i)).hostname = i.hostname := by
  by_cases h : i.hostname = "" <;> simp [ingressRuleOf, ingressParams, h]

@[simp] theorem ingressRuleOf_ingressParams_path (i : TunnelIngress) :
    (ingressRuleOf (ingressParams i)).path = i.path := by
  by_cases h : i.path = "" <;> simp [ingressRuleOf, ingressParams, h]

/-- A rule with a hostname read back from a pushed list is one of the pushed rules: the catch-all
has no hostname. -/
theorem mem_configParams {ingresses : List TunnelIngress} {rule : IngressRule}
    (h : rule ∈ (configParams ingresses).map ingressRuleOf) (hh : rule.hostname ≠ "") :
    ∃ i ∈ ingresses, rule.hostname = i.hostname ∧ rule.path = i.path := by
  have hcatch : ∀ p ∈ [(⟨none, none, "http_status:404", none⟩ : IngressParams)],
      (ingressRuleOf p).hostname = "" := by simp [ingressRuleOf]
  obtain ⟨p, hp, rfl⟩ := List.mem_map.1 h
  have hp : p ∈ ingresses.map ingressParams ∨ (ingressRuleOf p).hostname = "" := by
    unfold configParams at hp
    split at hp
    · split at hp
      · exact (List.mem_append.1 hp).imp_right (hcatch p)
      · exact .inl hp
    · exact (List.mem_append.1 hp).imp_right (hcatch p)
  rcases hp with hp | hp
  · obtain ⟨i, hi, rfl⟩ := List.mem_map.1 hp
    exact ⟨i, hi, by simp, by simp⟩
  · exact absurd hp hh

theorem ingressParams_mem_configParams {ingresses : List TunnelIngress} {i : TunnelIngress}
    (hi : i ∈ ingresses) : ingressParams i ∈ configParams ingresses := by
  have hmem := List.mem_map_of_mem ingressParams hi
  unfold configParams
  split
  · split <;> simp [hmem]
  · simp [hmem]

/-! ## Read back and sent again -/

/-- Origin options that survive a read-back: each duration a positive number of seconds that
`time.ParseDuration` can read back, each count positive, each flag set, each text non-empty. -/
structure OriginRequestParams.Sendable (p : OriginRequestParams) : Prop where
  durations : ∀ v ∈ [p.connectTimeout, p.tlsTimeout, p.tcpKeepAlive, p.keepAliveTimeout],
    ∀ n ∈ v, 0 < n ∧ n ≤ 9223372036
  keepAliveConnections : ∀ n ∈ p.keepAliveConnections, 0 < n
  flags : ∀ v ∈ [p.noTLSVerify, p.noHappyEyeballs, p.disableChunkedEncoding], ∀ b ∈ v, b = true
  texts : ∀ v ∈ [p.originServerName, p.caPool, p.httpHostHeader, p.proxyType], ∀ s ∈ v, s ≠ ""

/-! Each option sent, read back and sent again. -/

/-- A duration is sent as whole seconds `n` and read back as `"<n>s"`, which parses to `n` again
when `time.ParseDuration` can hold it. -/
theorem secs_dur_readBack {v : Option Int} (hv : ∀ n ∈ v, 0 < n ∧ n ≤ 9223372036) :
    (let s := if v.getD 0 > 0 then toString (v.getD 0) ++ "s" else ""
      if s ≠ "" ∧ parseDurationToSeconds s > 0 then some (parseDurationToSeconds s) else none) = v := by
  cases v with
  | none => rfl
  | some n =>
    obtain ⟨hpos, hle⟩ := hv n rfl
    have hne : toString n ++ "s" ≠ "" := fun he => by simpa using congrArg String.data he
    simp [hpos, hne, parseDurationToSeconds_secondsString hpos hle]

theorem count_readBack {v : Option Int} (hv : ∀ n ∈ v, 0 < n) :
    (let k := if v.getD 0 > 0 then v.getD 0 else 0
      if k > 0 then some k else none) = v := by
  cases v with
  | none => rfl
  | some n => simp [hv n rfl]

theorem flag_readBack {v : Option Bool} (hv : ∀ b ∈ v, b = true) :
    (if v.getD false then some true else none) = v := by
  cases v with
  | none => rfl
  | some b => simp [hv b rfl]

theorem text_readBack {v : Option String} (hv : ∀ s ∈ v, s ≠ "") :
    (if v.getD "" ≠ "" then some (v.getD "") else none) = v := by
  cases v with
  | none => rfl
  | some s => simp [hv s rfl]

theorem convertOriginRequestToParams_cfg {p : OriginRequestParams} (hp : p.Sendable) :
    ∃ cfg, convertGetResponseOriginRequest p = (if cfg = {} then none else some cfg) ∧
      convertOriginRequestToParams cfg = p := by
  refine ⟨_, rfl, ?_⟩
  obtain ⟨hd, hk, hf, ht⟩ := hp
  simp only [List.forall_mem_cons, List.not_mem_nil, false_imp_iff, implies_true, and_true] at hd hf ht
  simp only [convertOriginRequestToParams]
  rw [secs_dur_readBack hd.1, secs_dur_readBack hd.2.1, secs_dur_readBack hd.2.2.1,
    secs_dur_readBack hd.2.2.2, count_readBack hk, flag_readBack hf.1, flag_readBack hf.2.1,
    flag_readBack hf.2.2, text_readBack ht.1, text_readBack ht.2.1, text_readBack ht.2.2.1,
    text_readBack ht.2.2.2]

theorem convertGetResponseOriginRequest_empty : convertGetResponseOriginRequest {} = none := by
  decide

theorem convertOriginRequestToParams_empty : convertOriginRequestToParams {} = {} := by
  decide

/-- Options that survive a read-back are sent again as they were, unless they send nothing. -/
theorem convertOriginRequestToParams_readBack {p : OriginRequestParams} (hp : p.Sendable) :
    (convertGetResponseOriginRequest p).map convertOriginRequestToParams = (some p).filter (· != {}) := by
  obtain ⟨cfg, heq, hback⟩ := convertOriginRequestToParams_cfg hp
  by_cases hc : cfg = {}
  · subst hc
    rw [convertOriginRequestToParams_empty] at hback
    subst hback
    rw [convertGetResponseOriginRequest_empty]
    rfl
  · have hne : p ≠ {} := by
      rintro rfl
      rw [convertGetResponseOriginRequest_empty, if_neg hc] at heq
      cases heq
    rw [heq, if_neg hc, Option.map_some', hback]
    simp [Option.filter, hne]

/-- What `convertOriginRequestToParams` sends survives a read-back when its durations can be read
back. -/
theorem sendable_convertOriginRequestToParams (o : OriginRequestConfig)
    (hdur : ∀ s ∈ [o.connectTimeout, o.tlsTimeout, o.tcpKeepAlive, o.keepAliveTimeout],
      parseDurationToSeconds s ≤ 9223372036) :
    (convertOriginRequestToParams o).Sendable := by
  have secs : ∀ s, parseDurationToSeconds s ≤ 9223372036 → ∀ n ∈ (if s ≠ "" ∧ parseDurationToSeconds s > 0
      then some (parseDurationToSeconds s) else none), 0 < n ∧ n ≤ 9223372036 := by
    intro s hs n hn
    split_ifs at hn with h
    · cases hn; exact ⟨h.2, hs⟩
    · cases hn
  simp only [List.forall_mem_cons, List.not_mem_nil, false_imp_iff, implies_true, and_true] at hdur
  refine ⟨?_, ?_, ?_, ?_⟩ <;> simp only [convertOriginRequestToParams, List.forall_mem_cons,
    List.not_mem_nil, false_imp_iff, implies_true, and_true]
  · exact ⟨secs _ hdur.1, secs _ hdur.2.1, secs _ hdur.2.2.1, secs _ hdur.2.2.2⟩
  all_goals simp

/-- A rule that a read-back gives back as it was pushed: its origin options, if any, send
something, and their durations are at most what `time.ParseDuration` reads. -/
def TunnelIngress.ReadsBack (i : TunnelIngress) : Prop :=
  ∀ o ∈ i.originRequest, convertOriginRequestToParams o ≠ {} ∧
    ∀ s ∈ [o.connectTimeout, o.tlsTimeout, o.tcpKeepAlive, o.keepAliveTimeout],
      parseDurationToSeconds s ≤ 9223372036

instance : DecidablePred TunnelIngress.ReadsBack := fun _ => inferInstanceAs (Decidable (∀ o ∈ _, _))

/-- `AddIngressRule` and `RemoveIngressRule` push a rule they keep as read back; a rule that reads
back pushes the same parameters again. -/
theorem ingressParams_resend {i : TunnelIngress} (hi : i.ReadsBack) :
    ingressParams ⟨(ingressRuleOf (ingressParams i)).hostname, (ingressRuleOf (ingressParams i)).path,
      (ingressRuleOf (ingressParams i)).service, (ingressRuleOf (ingressParams i)).originRequest⟩ =
      ingressParams i := by
  rw [ingressRuleOf_ingressParams_hostname, ingressRuleOf_ingressParams_path]
  obtain ⟨hostname, path, service, _ | o⟩ := i
  · simp [ingressParams, ingressRuleOf, convertGetResponseOriginRequest_empty]
  · obtain ⟨hne, hdur⟩ := hi o rfl
    have hback := convertOriginRequestToParams_readBack (sendable_convertOriginRequestToParams o hdur)
    simp [ingressParams, ingressRuleOf, hback, Option.filter, hne]

/-- The rules stored for a tunnel, none when it has no configuration. -/
def Cloud.ingressOf (c : Cloud) (tunnelID : String) : List IngressParams :=
  ((c.tunnels.find? (·.1 == tunnelID)).map (·.2)).getD []

@[simp] theorem Cloud.ingressOf_push (c : Cloud) (tunnelID : String) (params : List IngressParams) :
    { c with tunnels := (tunnelID, params) :: c.tunnels.filter (·.1 != tunnelID) }.ingressOf tunnelID =
      params := by
  simp [Cloud.ingressOf]

theorem Cloud.ingressOf_push_ne (c : Cloud) {tunnelID tunnelID' : String} (h : tunnelID ≠ tunnelID')
    (params : List IngressParams) :
    { c with tunnels := (tunnelID, params) :: c.tunnels.filter (·.1 != tunnelID) }.ingressOf tunnelID' =
      c.ingressOf tunnelID' := by
  simp only [Cloud.ingressOf, List.find?_cons, beq_false_of_ne h, List.find?_filter]
  congr 3
  funext p
  by_cases hp : p.1 = tunnelID' <;> simp [hp, Ne.symm h]

/-- `cloudflare.TunnelClient`: a client and the account it acts in. -/
structure TunnelClient where
  client : String
  accountID : String
deriving DecidableEq, Repr

/-- `types.TunnelConfiguration`. -/
structure TunnelConfiguration where
  tunnelID : String
  ingress : List IngressRule
deriving DecidableEq, Repr

section Client

variable (env : Env) (t : TunnelClient)

/-- `TunnelClient.GetTunnelConfiguration`. -/
def getTunnelConfiguration (tunnelID : String) : Op TunnelConfiguration := do
  if t.accountID = "" then throw "account ID is required for tunnel operations"
  wrapErr "failed to get tunnel configuration: " (remoteCall env)
  pure ⟨tunnelID, ((← get).cloud.ingressOf tunnelID).map ingressRuleOf⟩

theorem run_getTunnelConfiguration (tunnelID : String) (w : World) (hacct : t.accountID ≠ "") :
    (getTunnelConfiguration env t tunnelID).run.run w =
      (if env.remoteFails w.remoteTick then .error "failed to get tunnel configuration: remote call failed"
        else .ok ⟨tunnelID, (w.cloud.ingressOf tunnelID).map ingressRuleOf⟩,
        { w with remoteTick := w.remoteTick + 1 }) := by
  by_cases h : env.remoteFails w.remoteTick <;> simp [getTunnelConfiguration, run_bind, hacct, h]

/-- `TunnelClient.UpdateTunnelConfiguration`: replaces the tunnel's whole rule list. -/
def updateTunnelConfiguration (tunnelID : String) (ingresses : List TunnelIngress) : Op Unit := do
  if t.accountID = "" then throw "account ID is required for tunnel operations"
  let params := configParams ingresses
  wrapErr "failed to update tunnel configuration: " (issue env (.tunnelUpdate tunnelID params))
  modifyCloud fun c => { c with tunnels := (tunnelID, params) :: c.tunnels.filter (·.1 != tunnelID) }

theorem run_updateTunnelConfiguration (tunnelID : String) (ingresses : List TunnelIngress)
    (w : World) (hacct : t.accountID ≠ "") (hok : env.remoteFails w.remoteTick = false) :
    (updateTunnelConfiguration env t tunnelID ingresses).run.run w =
      (.ok (), { w with cloud := { w.cloud with tunnels := (tunnelID, configParams ingresses) ::
                                     w.cloud.tunnels.filter (·.1 != tunnelID) },
                        calls := w.calls ++ [.tunnelUpdate tunnelID (configParams ingresses)],
                        remoteTick := w.remoteTick + 1 }) := by
  simp [updateTunnelConfiguration, run_bind, hacct, hok]

/-- `TunnelClient.AddIngressRule`: reads the configuration, replaces or appends the rule with the
same hostname and path, and pushes the list without its catch-all. -/
def addIngressRule (tunnelID : String) (rule : TunnelIngress) : Op Unit := do
  let config ← wrapErr "failed to get current configuration: " (getTunnelConfiguration env t tunnelID)
  let kept := config.ingress.filter (·.hostname != "")
  let found := kept.any fun e => e.hostname == rule.hostname && e.path == rule.path
  let ingresses := kept.map fun e =>
    if e.hostname = rule.hostname ∧ e.path = rule.path then rule
    else ⟨e.hostname, e.path, e.service, e.originRequest⟩
  updateTunnelConfiguration env t tunnelID (if found then ingresses else ingresses ++ [rule])

/-- `TunnelClient.RemoveIngressRule`: drops every rule with the hostname, whatever its path. -/
def removeIngressRule (tunnelID hostname : String) : Op Unit := do
  let config ← wrapErr "failed to get current configuration: " (getTunnelConfiguration env t tunnelID)
  let kept := config.ingress.filter (·.hostname != "")
  if !kept.any (·.hostname == hostname) then return
  updateTunnelConfiguration env t tunnelID
    ((kept.filter (·.hostname != hostname)).map fun e => ⟨e.hostname, e.path, e.service, e.originRequest⟩)

/-- A push to another tunnel, or one without an account, leaves a tunnel's rules as they are. -/
theorem keeps_updateTunnelConfiguration {tunnelID tunnelID' : String}
    (h : tunnelID ≠ tunnelID' ∨ t.accountID = "") (ingresses : List TunnelIngress) :
    Frame (Keeps fun w => w.cloud.ingressOf tunnelID') (updateTunnelConfiguration env t tunnelID ingresses) :=
  fun w => by
    by_cases ha : t.accountID = ""
    · simp [Keeps, updateTunnelConfiguration, ha]
    · have hne := h.resolve_right ha
      by_cases hf : env.remoteFails w.remoteTick
      · simp [Keeps, updateTunnelConfiguration, run_bind, ha, hf]
      · simp [Keeps, updateTunnelConfiguration, run_bind, ha, hf, Cloud.ingressOf_push_ne _ hne]

theorem cloudKeeps_getTunnelConfiguration {β : Type} (g : Cloud → β) (tunnelID : String) :
    Frame (Keeps fun w => g w.cloud) (getTunnelConfiguration env t tunnelID) := fun w => by
  by_cases ha : t.accountID = ""
  · simp [Keeps, getTunnelConfiguration, ha]
  · by_cases hf : env.remoteFails w.remoteTick <;> simp [Keeps, run_getTunnelConfiguration env t _ _ ha, hf]

/-- A push either leaves the tunnel's rules as they were or stores the list it sends. -/
theorem ingressOf_updateTunnelConfiguration (tunnelID : String) (ingresses : List TunnelIngress)
    (w : World) :
    ((updateTunnelConfiguration env t tunnelID ingresses).run.run w).2.cloud.ingressOf tunnelID =
        w.cloud.ingressOf tunnelID ∨
      ((updateTunnelConfiguration env t tunnelID ingresses).run.run w).2.cloud.ingressOf tunnelID =
        configParams ingresses := by
  by_cases ha : t.accountID = ""
  · simp [updateTunnelConfiguration, ha]
  by_cases hf : env.remoteFails w.remoteTick
  · simp [updateTunnelConfiguration, run_bind, ha, hf]
  · simp [run_updateTunnelConfiguration env t _ _ w ha (by simpa using hf)]

/-- `AddIngressRule` and `RemoveIngressRule` keep every other rule this program pushed and can
read back: whatever fails, its parameters are still stored afterwards, unchanged. -/
theorem ingressRule_edits_keep_rules (tunnelID : String) {i : TunnelIngress} (w : World)
    (hi : ingressParams i ∈ w.cloud.ingressOf tunnelID) (hh : i.hostname ≠ "")
    (hread : i.ReadsBack) :
    (∀ rule : TunnelIngress, ¬(i.hostname = rule.hostname ∧ i.path = rule.path) →
      ingressParams i ∈ ((addIngressRule env t tunnelID rule).run.run w).2.cloud.ingressOf tunnelID) ∧
    ∀ hostname, i.hostname ≠ hostname →
      ingressParams i ∈ ((removeIngressRule env t tunnelID hostname).run.run w).2.cloud.ingressOf tunnelID := by
  have hkept : ingressRuleOf (ingressParams i) ∈
      ((w.cloud.ingressOf tunnelID).map ingressRuleOf).filter (·.hostname != "") :=
    List.mem_filter.2 ⟨List.mem_map_of_mem _ hi, by simpa using hh⟩
  constructor
  · intro rule hkey
    by_cases ha : t.accountID = ""
    · simpa [addIngressRule, getTunnelConfiguration, ha] using hi
    rw [addIngressRule, run_bind, run_wrapErr, run_getTunnelConfiguration env t _ _ ha]
    by_cases hf : env.remoteFails w.remoteTick
    · simpa [hf] using hi
    simp only [hf, Bool.false_eq_true, if_false, Except.mapError]
    rcases ingressOf_updateTunnelConfiguration env t tunnelID _ { w with remoteTick := w.remoteTick + 1 }
      with h | h <;> rw [h]
    · exact hi
    · rw [← ingressParams_resend hread]
      apply ingressParams_mem_configParams
      have hmem := List.mem_map_of_mem (fun e : IngressRule =>
        if e.hostname = rule.hostname ∧ e.path = rule.path then rule
        else (⟨e.hostname, e.path, e.service, e.originRequest⟩ : TunnelIngress)) hkept
      simp only [ingressRuleOf_ingressParams_hostname, ingressRuleOf_ingressParams_path, if_neg hkey] at hmem
      split <;> simp [hmem]
  · intro hostname hne
    by_cases ha : t.accountID = ""
    · simpa [removeIngressRule, getTunnelConfiguration, ha] using hi
    rw [removeIngressRule, run_bind, run_wrapErr, run_getTunnelConfiguration env t _ _ ha]
    by_cases hf : env.remoteFails w.remoteTick
    · simpa [hf] using hi
    simp only [hf, Bool.false_eq_true, if_false, Except.mapError]
    split
    · exact hi
    simp only [run_bind, run_pure]
    rcases ingressOf_updateTunnelConfiguration env t tunnelID _ { w with remoteTick := w.remoteTick + 1 }
      with h | h <;> rw [h]
    · exact hi
    · rw [← ingressParams_resend hread]
      apply ingressParams_mem_configParams
      exact List.mem_map_of_mem _ (List.mem_filter.2 ⟨hkept, by simpa using hne⟩)

/-- A rule routing `app.example.com`, with a 30-second connect timeout. -/
def timedAppRule : TunnelIngress :=
  ⟨"app.example.com", "", "http://app:8080", some { connectTimeout := "30s" }⟩

/-- The example account, whose tunnel `tun-1` holds `timedAppRule` and the catch-all. -/
def timedAppAccount : World :=
  { exampleAccount with cloud := { exampleAccount.cloud with tunnels := [("tun-1", configParams [timedAppRule])] } }

/-- Adding or removing `api.example.com` pushes the `app.example.com` rule again as it was. -/
theorem timedAppRule_kept_by_edits :
    ingressParams timedAppRule ∈ ((addIngressRule (exampleEnv (fun _ => false) 100) ⟨"default", "account-1"⟩
        "tun-1" ⟨"api.example.com", "", "http://api:9000", none⟩).run.run timedAppAccount).2.cloud.ingressOf
        "tun-1" ∧
      ingressParams timedAppRule ∈ ((removeIngressRule (exampleEnv (fun _ => false) 100) ⟨"default", "account-1"⟩
        "tun-1" "api.example.com").run.run timedAppAccount).2.cloud.ingressOf "tun-1" :=
  have h := ingressRule_edits_keep_rules (exampleEnv (fun _ => false) 100) ⟨"default", "account-1"⟩ "tun-1"
    timedAppAccount (by decide) (by decide) (by decide)
  ⟨h.1 _ (by decide), h.2 _ (by decide)⟩

end Client

end Labelgate
