import Labelgate.Operator.DNS

/-!
# The tunnel operator

`tunnel.TunnelOperatorImpl` (`operator/tunnel/tunnel.go`). `reconcileTunnelOp` groups the
desired tunnel services by the tunnel name their labels give and runs `reconcileTunnel` on each
group: it resolves the name to a tunnel ID, keys the group's services by `hostname:path` (first
wins), skips the push when `ingressConfigEqual` finds the remote list equal, and otherwise
replaces the tunnel's whole list with the group's rules. After a push it ensures a CNAME to the
tunnel for each hostname (`autoCreateDNS` is always on: nothing calls `SetAutoCreateDNS`), saves
the group's rows `active` and orphans the tunnel's other rows. Rows of tunnels no group reached
are orphaned at the end.

Each group's push replaces the tunnel's list, and nothing else writes it, so without failures a
tunnel ends the pass with the rules of the last group that resolves to it: a group naming the
tunnel by its name and another naming it by its ID overwrite each other, and the rule of a row
that no group declares any more is gone, whether or not its row disables cleanup
(`Reconciler.Orphans`).
-/

namespace Labelgate

/-- `desiredTunnel`. -/
structure DesiredTunnel where
  container : ParsedContainer
  service : TunnelService
deriving DecidableEq, Repr

/-- The ledger key of a tunnel service within its tunnel, `hostname:path`. -/
def tunnelKey (svc : TunnelService) : String := svc.hostname ++ ":" ++ svc.path

/-- `originRequestEqual`: both `nil`, or both set with equal fields. -/
def originRequestEqual (a b : Option OriginRequestConfig) : Bool :=
  match a, b with
  | none, none => true
  | some a, some b => a == b
  | _, _ => false

/-- The key `ingressConfigEqual` gives a remote rule, `hostname:path`. -/
def IngressRule.key (rule : IngressRule) : String := rule.hostname ++ ":" ++ rule.path

/-- The key `ingressConfigEqual` gives a pushed rule, `hostname:path`. -/
def TunnelIngress.key (d : TunnelIngress) : String := d.hostname ++ ":" ++ d.path

/-- `ingressConfigEqual`: the remote rules with a hostname, keyed by `hostname:path`, match the
desired list in number and, key by key, in service and origin options. -/
def ingressConfigEqual (current : Option TunnelConfiguration) (desired : List TunnelIngress) : Bool :=
  match current with
  | none => desired.isEmpty
  | some current =>
    let currentRules := current.ingress.filter (·.hostname != "")
    if currentRules.length ≠ desired.length then false
    else
      let currentMap : GoMap IngressRule := currentRules.foldl (fun m rule => m.insert rule.key rule) []
      desired.all fun d =>
        match currentMap.lookup d.key with
        | none => false
        | some c => c.service == d.service && originRequestEqual c.originRequest d.originRequest

/-- When `ingressConfigEqual` accepts a remote list, each rule's key is the key of a remote rule
with a hostname. -/
theorem keys_subset_of_ingressConfigEqual {cfg : TunnelConfiguration} {desired : List TunnelIngress}
    (h : ingressConfigEqual (some cfg) desired) :
    desired.map TunnelIngress.key ⊆ (cfg.ingress.filter (·.hostname != "")).map IngressRule.key := by
  simp only [ingressConfigEqual] at h
  split at h
  · cases h
  · intro k hk
    obtain ⟨d, hd, rfl⟩ := List.mem_map.1 hk
    have hsome := List.all_eq_true.1 h d hd
    split at hsome
    · cases hsome
    · rename_i c hc
      rw [GoMap.lookup_foldl_insert, GoMap.lookup_nil, Option.or_none] at hc
      exact List.mem_map.2 ⟨c, List.mem_reverse.1 (List.mem_of_find?_eq_some hc),
        by simpa using List.find?_some hc⟩

/-- When `ingressConfigEqual` accepts a remote list against rules of distinct keys, every remote
rule with a hostname has the key of one of the rules: the lists have as many rules, and each
rule's key is among the remote ones. -/
theorem key_mem_of_ingressConfigEqual {cfg : TunnelConfiguration} {desired : List TunnelIngress}
    (hnodup : (desired.map TunnelIngress.key).Nodup) (h : ingressConfigEqual (some cfg) desired)
    {rule : IngressRule} (hrule : rule ∈ cfg.ingress) (hh : rule.hostname ≠ "") :
    rule.key ∈ desired.map TunnelIngress.key := by
  have hlen : (cfg.ingress.filter (·.hostname != "")).length = desired.length := by
    simp only [ingressConfigEqual] at h
    split at h
    · cases h
    · exact not_not.1 ‹_›
  have hperm := (List.subperm_of_subset hnodup (keys_subset_of_ingressConfigEqual h)).perm_of_length_le
    (by simp [hlen])
  exact hperm.mem_iff.2 (List.mem_map.2 ⟨rule, List.mem_filter.2 ⟨hrule, by simpa using hh⟩, rfl⟩)

/-- The groups of `Reconcile`: tunnel services by the tunnel name of their labels, `default`
when empty. -/
def tunnelGroups (desired : List ParsedContainer) : GoMap (List DesiredTunnel) :=
  desired.foldl (fun m c => c.tunnelServices.foldl (fun m svc =>
    let name := if svc.tunnel = "" then "default" else svc.tunnel
    m.insert name (((m.lookup name).getD []) ++ [⟨c, svc⟩])) m) []

/-- One service of the dedupe loop of `reconcileTunnel`: the first service of a key is kept, and
its rule appended. -/
def addDesired (acc : GoMap DesiredTunnel × List TunnelIngress) (d : DesiredTunnel) :
    GoMap DesiredTunnel × List TunnelIngress :=
  if (acc.1.lookup (tunnelKey d.service)).isSome then acc
  else (acc.1.insert (tunnelKey d.service) d,
    acc.2 ++ [⟨d.service.hostname, d.service.path, d.service.service, d.service.originRequest⟩])

/-- The desired map of `reconcileTunnel` (first service per `hostname:path`) and the rules it
pushes, in the group's order. -/
def desiredIngress (desired : List DesiredTunnel) : GoMap DesiredTunnel × List TunnelIngress :=
  desired.foldl addDesired ([], [])

/-- The dedupe loop keeps the keys of its map and of its rules the same, without repetition. -/
def DedupeInv (acc : GoMap DesiredTunnel × List TunnelIngress) : Prop :=
  (acc.2.map TunnelIngress.key).Nodup ∧ ∀ k, (acc.1.lookup k).isSome ↔ k ∈ acc.2.map TunnelIngress.key

theorem dedupeInv_addDesired {acc : GoMap DesiredTunnel × List TunnelIngress} (h : DedupeInv acc)
    (d : DesiredTunnel) : DedupeInv (addDesired acc d) := by
  unfold addDesired
  split
  · exact h
  · rename_i hnew
    have hk : tunnelKey d.service ∉ acc.2.map TunnelIngress.key := fun hk => hnew ((h.2 _).2 hk)
    refine ⟨?_, fun k => ?_⟩
    · rw [List.map_append, List.map_singleton]
      exact h.1.append (List.nodup_singleton _) (List.disjoint_singleton.2 hk)
    · simp only [GoMap.lookup_insert, List.map_append, List.map_singleton, List.mem_append,
        List.mem_singleton]
      by_cases hkk : tunnelKey d.service = k
      · rw [if_pos hkk]
        exact ⟨fun _ => .inr hkk.symm, fun _ => rfl⟩
      · rw [if_neg hkk, h.2 k]
        exact ⟨Or.inl, fun h => h.resolve_right fun h' => hkk h'.symm⟩

/-- The rules `reconcileTunnel` pushes have pairwise distinct keys. -/
theorem desiredIngress_keys_nodup (desired : List DesiredTunnel) :
    ((desiredIngress desired).2.map TunnelIngress.key).Nodup := by
  suffices ∀ acc, DedupeInv acc → DedupeInv (desired.foldl addDesired acc) from
    (this ([], []) ⟨List.nodup_nil, by simp⟩).1
  induction desired with
  | nil => exact fun _ h => h
  | cons d l ih => exact fun acc h => ih _ (dedupeInv_addDesired h d)

/-- Every rule `reconcileTunnel` pushes is the rule of one of the group's services. -/
theorem mem_desiredIngress {desired : List DesiredTunnel} {i : TunnelIngress}
    (h : i ∈ (desiredIngress desired).2) : ∃ d ∈ desired, i.key = tunnelKey d.service := by
  suffices ∀ acc, i ∈ (desired.foldl addDesired acc).2 → i ∈ acc.2 ∨ ∃ d ∈ desired, i.key = tunnelKey d.service
    from (this ([], []) h).resolve_left (List.not_mem_nil _)
  clear h
  induction desired with
  | nil => exact fun _ => .inl
  | cons d l ih =>
    intro acc hi
    rcases ih (addDesired acc d) hi with hi | ⟨d', hd', hk⟩
    · unfold addDesired at hi
      split at hi
      · exact .inl hi
      · rcases List.mem_append.1 hi with hi | hi
        · exact .inl hi
        · exact .inr ⟨d, List.mem_cons_self _ _, by rw [List.mem_singleton.1 hi]; rfl⟩
    · exact .inr ⟨d', List.mem_cons_of_mem _ hd', hk⟩

/-- The current map of `Reconcile`: the listed rows by tunnel ID, then by `hostname:path`. -/
def currentByTunnel (resources : List ManagedResource) : GoMap (GoMap ManagedResource) :=
  resources.foldl (fun m r =>
    m.insert r.tunnelID (((m.lookup r.tunnelID).getD []).insert (r.hostname ++ ":" ++ r.path) r)) []

/-- The row `reconcileTunnel` saves for a desired service, in `status` with `lastError`. -/
def tunnelResource (tunnelID : String) (d : DesiredTunnel) (status : ResourceStatus)
    (lastError : String) : ManagedResource :=
  { resourceType := .tunnelIngress, tunnelID, hostname := d.service.hostname,
    service := d.service.service, path := d.service.path, containerID := d.container.info.id,
    containerName := d.container.info.name, serviceName := d.service.serviceName,
    agentID := d.container.agentID, status, lastError, cleanupEnabled := d.service.cleanup }

section Operator

variable (env : Env) (cm : CredentialManager)

/-- `ensureTunnelDNSRecords`: a proxied CNAME `<tunnelID>.cfargotunnel.com` for each hostname,
rewriting an existing CNAME that points elsewhere; every failure is logged and skipped. -/
def ensureTunnelDNSRecords (tunnelID : String) (desired : GoMap DesiredTunnel) : Op Unit := do
  let tunnelTarget := tunnelID ++ ".cfargotunnel.com"
  for (_, d) in desired do
    let hostname := d.service.hostname
    if hostname = "" then continue
    if (cm.getClientForHostname hostname "").toOption.isNone then continue
    match ← observe (getRecordByName env hostname "CNAME") with
    | .ok (some existing) =>
      if existing.content = tunnelTarget then continue
      let _ ← observe (updateRecord env
        { existing with type := "CNAME", content := tunnelTarget, proxied := true })
    | _ =>
      let _ ← observe (createRecord env
        { id := "", zoneID := "", name := hostname, type := "CNAME", content := tunnelTarget,
          proxied := true, ttl := 1 })

/-- The CNAME pass touches no tunnel configuration, no application and no policy. -/
theorem cloudKeeps_ensureTunnelDNSRecords {β : Type} (g : Cloud → β)
    (hg : ∀ c (records : List DNSRecord), g { c with records } = g c) (tunnelID : String)
    (desired : GoMap DesiredTunnel) :
    Frame (Keeps fun w => g w.cloud) (ensureTunnelDNSRecords env cm tunnelID desired) := by
  unfold ensureTunnelDNSRecords; dsimp only
  with_reducible repeat' first
    | apply Frame.bind
    | apply Frame.ite
    | apply Frame.forIn
    | apply Frame.observe
    | intro _
    | split
    | exact frame_pure _
    | exact cloudKeeps_getRecordByName env g _ _
    | exact cloudKeeps_updateRecord env g hg _
    | exact cloudKeeps_createRecord env g hg _

/-- The push of `reconcileTunnel`: the group's rules replace the tunnel's list unless
`ingressConfigEqual` finds the remote list equal; a failed read counts as a change. -/
def pushIngresses (tunnelClient : TunnelClient) (tunnelID : String) (ingresses : List TunnelIngress) :
    Op (Except String Unit) := do
  let configChanged ← match ← observe (getTunnelConfiguration env tunnelClient tunnelID) with
    | .ok currentConfig => pure !(ingressConfigEqual (some currentConfig) ingresses)
    | .error _ => pure true
  if configChanged then observe (updateTunnelConfiguration env tunnelClient tunnelID ingresses)
  else pure (.ok ())

/-- The ledger side of `reconcileTunnel` after the push: on a failed push the group's rows are
marked `error`; otherwise the CNAMEs are ensured, the group's rows saved `active` and the tunnel's
other rows orphaned. Returns the current map it leaves behind and the push's error. -/
def recordTunnel (tunnelID : String) (desiredMap : GoMap DesiredTunnel)
    (byTunnel : GoMap (GoMap ManagedResource)) (pushed : Except String Unit) :
    Op (GoMap (GoMap ManagedResource) × Except String Unit) := do
  let mut current := (byTunnel.lookup tunnelID).getD []
  match pushed with
  | .error err =>
    for (key, d) in desiredMap do
      match current.lookup key with
      | some existing =>
        let _ ← observe (updateResourceError env existing.id .error err)
        current := current.erase key
      | none => let _ ← saveResource env (tunnelResource tunnelID d .error err)
    let byTunnel := if (byTunnel.lookup tunnelID).isSome then byTunnel.insert tunnelID current
      else byTunnel
    pure (byTunnel, .error err)
  | .ok _ =>
    ensureTunnelDNSRecords env cm tunnelID desiredMap
    for (key, d) in desiredMap do
      match current.lookup key with
      | some existing =>
        let _ ← saveResource env
          { existing with service := d.service.service, cleanupEnabled := d.service.cleanup,
                          agentID := d.container.agentID, status := .active, lastError := "" }
        current := current.erase key
      | none => let _ ← saveResource env (tunnelResource tunnelID d .active "")
    for (_, resource) in current do
      if resource.status ≠ .orphaned then
        let _ ← observe (updateResourceStatus env resource.id .orphaned)
    pure (byTunnel.erase tunnelID, .ok ())

/-- `reconcileTunnel`: one group, with the current map it leaves behind and its error. -/
def reconcileTunnel (tunnelName : String) (desired : List DesiredTunnel)
    (byTunnel : GoMap (GoMap ManagedResource)) :
    Op (GoMap (GoMap ManagedResource) × Except String Unit) := do
  match cm.getTunnelClient tunnelName with
  | .error e => pure (byTunnel, .error e)
  | .ok (_, none) => pure (byTunnel, .error ("tunnel credential not found: " ++ tunnelName))
  | .ok (client, some tunnelCred) =>
    let (desiredMap, ingresses) := desiredIngress desired
    let pushed ← pushIngresses env ⟨client, tunnelCred.accountID⟩ tunnelCred.tunnelID ingresses
    recordTunnel env cm tunnelCred.tunnelID desiredMap byTunnel pushed

/-- A tunnel's stored rules carry exactly the keys of `ingresses`: every rule with a hostname has
one of them, and each of them has a rule. -/
structure RulesOf (params : List IngressParams) (ingresses : List TunnelIngress) : Prop where
  sound : ∀ rule ∈ params.map ingressRuleOf, rule.hostname ≠ "" →
    rule.key ∈ ingresses.map TunnelIngress.key
  complete : ∀ i ∈ ingresses, ∃ rule ∈ params.map ingressRuleOf, rule.key = i.key

/-- Without failures the push succeeds and leaves the tunnel with rules of exactly the pushed
keys: either it pushed them, or the remote list it read was equal to them. -/
theorem pushIngresses_rules (hfail : ∀ n, env.remoteFails n = false) (t : TunnelClient)
    (tunnelID : String) (ingresses : List TunnelIngress)
    (hnodup : (ingresses.map TunnelIngress.key).Nodup) (w : World) (hacct : t.accountID ≠ "") :
    ∃ w', (pushIngresses env t tunnelID ingresses).run.run w = (.ok (.ok ()), w') ∧
      RulesOf (w'.cloud.ingressOf tunnelID) ingresses := by
  by_cases heq : ingressConfigEqual (some ⟨tunnelID, (w.cloud.ingressOf tunnelID).map ingressRuleOf⟩)
    ingresses
  · refine ⟨{ w with remoteTick := w.remoteTick + 1 }, by
      simp [pushIngresses, run_bind, run_getTunnelConfiguration env t _ _ hacct, hfail, heq],
      fun rule hrule hh => key_mem_of_ingressConfigEqual hnodup heq hrule hh, fun i hi => ?_⟩
    obtain ⟨rule, hrule, hkey⟩ :=
      List.mem_map.1 (keys_subset_of_ingressConfigEqual heq (List.mem_map_of_mem _ hi))
    exact ⟨rule, (List.mem_filter.1 hrule).1, hkey⟩
  · refine ⟨_, by simp [pushIngresses, run_bind, run_getTunnelConfiguration env t _ _ hacct, hfail, heq,
      run_updateTunnelConfiguration env t _ _ _ hacct]; rfl, fun rule hrule hh => ?_, fun i hi => ?_⟩
    · obtain ⟨i, hi, hhost, hpath⟩ := mem_configParams (by simpa using hrule) hh
      exact List.mem_map.2 ⟨i, hi, by simp [IngressRule.key, TunnelIngress.key, hhost, hpath]⟩
    · simp only [Cloud.ingressOf_push]
      exact ⟨_, List.mem_map_of_mem _ (ingressParams_mem_configParams hi),
        by simp [IngressRule.key, TunnelIngress.key]⟩

/-- The ledger side touches no tunnel configuration, no application and no policy. -/
theorem cloudKeeps_recordTunnel {β : Type} (g : Cloud → β)
    (hg : ∀ c (records : List DNSRecord), g { c with records } = g c) (tunnelID : String)
    (desiredMap : GoMap DesiredTunnel) (byTunnel : GoMap (GoMap ManagedResource))
    (pushed : Except String Unit) :
    Frame (Keeps fun w => g w.cloud) (recordTunnel env cm tunnelID desiredMap byTunnel pushed) := by
  unfold recordTunnel; dsimp only
  with_reducible repeat' first
    | apply Frame.bind
    | apply Frame.ite
    | apply Frame.forIn
    | apply Frame.observe
    | intro _
    | split
    | exact frame_pure _
    | exact cloudKeeps_saveResource env g _
    | exact cloudKeeps_updateResourceError env g _ _ _
    | exact cloudKeeps_updateResourceStatus env g _ _
    | exact cloudKeeps_ensureTunnelDNSRecords env cm g hg _ _

/-- With every remote call succeeding, the tunnel a group resolves to ends with rules of exactly
the group's keys: whatever other rule it held, an orphaned service's included, is gone. -/
theorem reconcileTunnel_rules (hfail : ∀ n, env.remoteFails n = false) (tunnelName : String)
    (desired : List DesiredTunnel) (byTunnel : GoMap (GoMap ManagedResource)) (w : World)
    (client : String) (tunnelCred : TunnelCredential)
    (hclient : cm.getTunnelClient tunnelName = .ok (client, some tunnelCred))
    (hacct : tunnelCred.accountID ≠ "") :
    RulesOf ((((reconcileTunnel env cm tunnelName desired byTunnel).run.run w).2.cloud.ingressOf
      tunnelCred.tunnelID)) (desiredIngress desired).2 := by
  obtain ⟨w1, h1, hrules⟩ := pushIngresses_rules env hfail ⟨client, tunnelCred.accountID⟩
    tunnelCred.tunnelID _ (desiredIngress_keys_nodup desired) w hacct
  have hkeep := cloudKeeps_recordTunnel env cm (·.ingressOf tunnelCred.tunnelID) (fun _ _ => rfl)
    tunnelCred.tunnelID (desiredIngress desired).1 byTunnel (.ok ()) w1
  simp only [Keeps] at hkeep
  simp only [reconcileTunnel, hclient, run_bind_ok h1]
  rw [hkeep]
  exact hrules

/-- The tunnel a group name resolves to through `GetTunnelClient`, when its credential has an
account to push in. -/
def resolvedTunnel (tunnelName : String) : Option String :=
  match cm.getTunnelClient tunnelName with
  | .ok (_, some tunnelCred) => if tunnelCred.accountID ≠ "" then some tunnelCred.tunnelID else none
  | _ => none

theorem resolvedTunnel_eq_some {tunnelName tunnelID : String}
    (h : resolvedTunnel cm tunnelName = some tunnelID) :
    ∃ client tunnelCred, cm.getTunnelClient tunnelName = .ok (client, some tunnelCred) ∧
      tunnelCred.tunnelID = tunnelID ∧ tunnelCred.accountID ≠ "" := by
  unfold resolvedTunnel at h
  split at h
  · split at h
    · cases h
      exact ⟨_, _, ‹_›, rfl, ‹_›⟩
    · cases h
  · cases h

/-! ## Which group's rules a tunnel ends with -/

theorem keeps_pushIngresses (t : TunnelClient) {tunnelID tunnelID' : String}
    (h : tunnelID ≠ tunnelID' ∨ t.accountID = "") (ingresses : List TunnelIngress) :
    Frame (Keeps fun w => w.cloud.ingressOf tunnelID') (pushIngresses env t tunnelID ingresses) := by
  unfold pushIngresses
  with_reducible repeat' first
    | apply Frame.bind
    | apply Frame.ite
    | apply Frame.observe
    | intro _
    | split
    | exact frame_pure _
    | exact cloudKeeps_getTunnelConfiguration env t (·.ingressOf tunnelID') _
    | exact keeps_updateTunnelConfiguration env t h _

/-- A group that does not resolve to a tunnel leaves its rules as they are. -/
theorem keeps_reconcileTunnel {tunnelName tunnelID : String}
    (h : resolvedTunnel cm tunnelName ≠ some tunnelID) (desired : List DesiredTunnel)
    (byTunnel : GoMap (GoMap ManagedResource)) :
    Frame (Keeps fun w => w.cloud.ingressOf tunnelID) (reconcileTunnel env cm tunnelName desired byTunnel) := by
  unfold reconcileTunnel
  split
  · exact frame_pure _
  · exact frame_pure _
  · rename_i client tunnelCred hc
    have h' : tunnelCred.tunnelID ≠ tunnelID ∨ tunnelCred.accountID = "" := by
      by_contra hcon
      push_neg at hcon
      exact h (by simp [resolvedTunnel, hc, hcon.1, hcon.2])
    exact (keeps_pushIngresses env _ h' _).bind fun _ =>
      cloudKeeps_recordTunnel env cm (·.ingressOf tunnelID) (fun _ _ => rfl) _ _ _ _

theorem total_ensureTunnelDNSRecords (tunnelID : String) (desired : GoMap DesiredTunnel) :
    Total (ensureTunnelDNSRecords env cm tunnelID desired) := by
  unfold ensureTunnelDNSRecords; dsimp only
  with_reducible repeat' first
    | apply Total.bind
    | apply Total.ite
    | apply Total.forIn
    | intro _
    | split
    | exact total_pure _
    | exact total_observe _

/-- A push logs its errors and never fails. -/
theorem total_pushIngresses (t : TunnelClient) (tunnelID : String) (ingresses : List TunnelIngress) :
    Total (pushIngresses env t tunnelID ingresses) := by
  unfold pushIngresses
  with_reducible repeat' first
    | apply Total.bind
    | apply Total.ite
    | intro _
    | split
    | exact total_pure _
    | exact total_observe _

/-- A group's pass logs its errors and never fails. -/
theorem total_reconcileTunnel (tunnelName : String) (desired : List DesiredTunnel)
    (byTunnel : GoMap (GoMap ManagedResource)) :
    Total (reconcileTunnel env cm tunnelName desired byTunnel) := by
  unfold reconcileTunnel recordTunnel; dsimp only
  with_reducible repeat' first
    | apply Total.bind
    | apply Total.ite
    | apply Total.forIn
    | intro _
    | split
    | exact total_pure _
    | exact total_observe _
    | exact total_pushIngresses env _ _ _
    | exact total_saveResource env _
    | exact total_ensureTunnelDNSRecords env cm _ _

/-- One group of the loop of `Reconcile`: `reconcileTunnel`, whose error is only logged. -/
def reconcileGroup (byTunnel : GoMap (GoMap ManagedResource)) (group : String × List DesiredTunnel) :
    Op (GoMap (GoMap ManagedResource)) :=
  Prod.fst <$> reconcileTunnel env cm group.1 group.2 byTunnel

/-- The last loop of `Reconcile`: the rows of tunnels no group reached are orphaned. -/
def orphanTunnels (byTunnel : GoMap (GoMap ManagedResource)) : Op Unit := do
  for (_, tunnelResources) in byTunnel do
    for (_, resource) in tunnelResources do
      if resource.status ≠ .orphaned then
        let _ ← observe (updateResourceStatus env resource.id .orphaned)

theorem cloudKeeps_orphanTunnels {β : Type} (g : Cloud → β) (byTunnel : GoMap (GoMap ManagedResource)) :
    Frame (Keeps fun w => g w.cloud) (orphanTunnels env byTunnel) := by
  unfold orphanTunnels
  with_reducible repeat' first
    | apply Frame.bind
    | apply Frame.ite
    | apply Frame.forIn
    | apply Frame.observe
    | intro _
    | split
    | exact frame_pure _
    | exact cloudKeeps_updateResourceStatus env g _ _

/-- `TunnelOperatorImpl.Reconcile`. -/
def reconcileTunnelOp (desired : List ParsedContainer) : Op Unit := do
  let resources ← wrapErr "failed to list tunnel resources: "
    (listResources env .tunnelIngress [.active, .error, .orphaned])
  let byTunnel ← (tunnelGroups desired).foldlM (reconcileGroup env cm) (currentByTunnel resources)
  orphanTunnels env byTunnel

/-- The services of the last group, in the order `Reconcile` visits the groups, whose name
resolves to the tunnel. -/
def lastGroupFor (tunnelID : String) (groups : GoMap (List DesiredTunnel)) :
    Option (List DesiredTunnel) :=
  ((groups.filter fun g => resolvedTunnel cm g.1 = some tunnelID).getLast?).map (·.2)

theorem lastGroupFor_cons (tunnelID : String) (g : String × List DesiredTunnel)
    (groups : GoMap (List DesiredTunnel)) :
    lastGroupFor cm tunnelID (g :: groups) = (lastGroupFor cm tunnelID groups).or
      (if resolvedTunnel cm g.1 = some tunnelID then some g.2 else none) := by
  unfold lastGroupFor
  by_cases hg : resolvedTunnel cm g.1 = some tunnelID
  · rw [List.filter_cons_of_pos (by simpa using hg), List.getLast?_cons]
    cases (groups.filter fun g => resolvedTunnel cm g.1 = some tunnelID).getLast? <;> simp [hg]
  · rw [List.filter_cons_of_neg (by simpa using hg)]
    simp [hg]

theorem lastGroupFor_eq_none {tunnelID : String} {groups : GoMap (List DesiredTunnel)}
    (h : lastGroupFor cm tunnelID groups = none) :
    ∀ g ∈ groups, resolvedTunnel cm g.1 ≠ some tunnelID := by
  intro g hg hres
  simp only [lastGroupFor, Option.map_eq_none', List.getLast?_eq_none_iff,
    List.filter_eq_nil_iff] at h
  exact h g hg (by simpa using hres)

/-- Groups none of which resolves to a tunnel leave its rules alone. -/
theorem keeps_foldlM_reconcileGroup {tunnelID : String} {groups : GoMap (List DesiredTunnel)}
    (hnone : ∀ g ∈ groups, resolvedTunnel cm g.1 ≠ some tunnelID)
    (byTunnel : GoMap (GoMap ManagedResource)) :
    Frame (Keeps fun w => w.cloud.ingressOf tunnelID) (groups.foldlM (reconcileGroup env cm) byTunnel) :=
  Frame.foldlM (fun b a ha => (keeps_reconcileTunnel env cm (hnone a ha) a.2 b).map Prod.fst) byTunnel

/-- Without failures, a tunnel ends the groups' loop with rules of exactly the keys of the last
group that resolves to it: each group's push replaces the whole list, and the groups after it
leave the tunnel alone. -/
theorem foldlM_reconcileGroup_rules (hfail : ∀ n, env.remoteFails n = false) (tunnelID : String)
    (services : List DesiredTunnel) (groups : GoMap (List DesiredTunnel))
    (hlast : lastGroupFor cm tunnelID groups = some services) (byTunnel : GoMap (GoMap ManagedResource))
    (w : World) :
    RulesOf ((((groups.foldlM (reconcileGroup env cm) byTunnel).run.run w).2.cloud.ingressOf
      tunnelID)) (desiredIngress services).2 := by
  induction groups generalizing byTunnel w with
  | nil => simp [lastGroupFor] at hlast
  | cons g rest ih =>
    have htotal : Total (reconcileGroup env cm byTunnel g) :=
      (total_reconcileTunnel env cm g.1 g.2 byTunnel).map Prod.fst
    obtain ⟨b1, hrun⟩ := htotal.run_foldlM_cons rest w
    rw [hrun]
    rw [lastGroupFor_cons] at hlast
    cases hrest : lastGroupFor cm tunnelID rest with
    | some s' =>
      rw [hrest] at hlast
      cases hlast
      exact ih hrest _ _
    | none =>
      rw [hrest, Option.none_or] at hlast
      have hg : resolvedTunnel cm g.1 = some tunnelID := by
        by_contra hg; simp [hg] at hlast
      simp only [hg, if_true, Option.some.injEq] at hlast
      subst hlast
      have hkeep := keeps_foldlM_reconcileGroup env cm (lastGroupFor_eq_none cm hrest) b1
        ((reconcileGroup env cm byTunnel g).run.run w).2
      simp only [Keeps] at hkeep
      rw [hkeep]
      obtain ⟨client, tunnelCred, hc, rfl, hacct⟩ := resolvedTunnel_eq_some cm hg
      simpa [reconcileGroup] using reconcileTunnel_rules env cm hfail g.1 g.2 byTunnel w client
        tunnelCred hc hacct

theorem lastGroupFor_mem {tunnelID : String} {groups : GoMap (List DesiredTunnel)}
    {services : List DesiredTunnel} (h : lastGroupFor cm tunnelID groups = some services) :
    ∃ name, (name, services) ∈ groups := by
  obtain ⟨g, hg, rfl⟩ := Option.map_eq_some'.1 h
  exact ⟨g.1, (List.mem_filter.1 (List.mem_of_getLast?_eq_some hg)).1⟩

/-- Once its listing succeeds, the operator's pass leaves each tunnel with the rules the groups'
loop left it with: the last loop writes only the ledger. -/
theorem reconcileTunnelOp_ingressOf (desired : List ParsedContainer) (w : World)
    (hlist : env.storeFails w.storeTick = false) (tunnelID : String) :
    ∃ byTunnel w1, ((reconcileTunnelOp env cm desired).run.run w).2.cloud.ingressOf tunnelID =
      (((tunnelGroups desired).foldlM (reconcileGroup env cm) byTunnel).run.run w1).2.cloud.ingressOf
        tunnelID := by
  obtain ⟨resources, w1, h1⟩ : ∃ resources w1, (wrapErr "failed to list tunnel resources: "
      (listResources env .tunnelIngress [.active, .error, .orphaned])).run.run w =
        (.ok resources, w1) := ⟨_, _, by rw [run_wrapErr, run_listResources, hlist]; rfl⟩
  obtain ⟨b, hb⟩ := Total.foldlM (fun b a _ => (total_reconcileTunnel env cm a.1 a.2 b).map Prod.fst)
    (currentByTunnel resources) w1 (f := reconcileGroup env cm)
  have h2 : ((tunnelGroups desired).foldlM (reconcileGroup env cm) (currentByTunnel resources)).run.run w1 =
      (.ok b, _) := Prod.ext hb rfl
  refine ⟨currentByTunnel resources, w1, ?_⟩
  rw [reconcileTunnelOp, run_bind_ok h1, run_bind_ok h2]
  exact cloudKeeps_orphanTunnels env (·.ingressOf tunnelID) b _

/-- Without failures, a tunnel ends the operator's pass with rules of exactly the keys of the last
group that resolves to it. -/
theorem reconcileTunnelOp_rules (hfail : ∀ n, env.remoteFails n = false)
    (desired : List ParsedContainer) (w : World) (hlist : env.storeFails w.storeTick = false)
    (tunnelID : String) (services : List DesiredTunnel)
    (hlast : lastGroupFor cm tunnelID (tunnelGroups desired) = some services) :
    RulesOf (((reconcileTunnelOp env cm desired).run.run w).2.cloud.ingressOf tunnelID)
      (desiredIngress services).2 := by
  obtain ⟨byTunnel, w1, heq⟩ := reconcileTunnelOp_ingressOf env cm desired w hlist tunnelID
  rw [heq]
  exact foldlM_reconcileGroup_rules env cm hfail tunnelID services _ hlast byTunnel w1

/-- A container with one tunnel service for `hostname` on `tunnel`. -/
def tunnelContainer (id hostname tunnel : String) (cleanup : Bool) : ParsedContainer :=
  { info := { id, name := id }, dnsServices := [],
    tunnelServices := [{ serviceName := id, hostname, service := "http://" ++ id ++ ":80", tunnel, cleanup }],
    accessPolicies := [], agentID := "" }

/-- `docs.example.com` on the default tunnel, with cleanup disabled. -/
def docsContainer : ParsedContainer := tunnelContainer "docs" "docs.example.com" "" false

/-- `blog.example.com` on the default tunnel. -/
def blogContainer : ParsedContainer := tunnelContainer "blog" "blog.example.com" "" true

/-- The same service, naming the default tunnel by its ID. -/
def blogByID : ParsedContainer := tunnelContainer "blog" "blog.example.com" "tun-1" true

/-- A pass of the tunnel operator in which every call succeeds. -/
def tunnelPass (desired : List ParsedContainer) (w : World) : World :=
  ((reconcileTunnelOp (exampleEnv (fun _ => false) 100) singleAccountCredentials desired).run.run w).2

/-- Without failures, a tunnel ends the operator's pass with rules of the keys of the last group
that resolves to it, whatever the groups before it declared. -/
theorem reconcileTunnelOp_rules_of_last_group (hfail : ∀ n, env.remoteFails n = false)
    (desired : List ParsedContainer) (w : World) (hlist : env.storeFails w.storeTick = false)
    (tunnelID : String) (services : List DesiredTunnel)
    (hlast : lastGroupFor cm tunnelID (tunnelGroups desired) = some services) :
    ∀ rule ∈ ((((reconcileTunnelOp env cm desired).run.run w).2.cloud.ingressOf tunnelID).map
        ingressRuleOf), rule.hostname ≠ "" →
      rule.key ∈ (desiredIngress services).2.map TunnelIngress.key := by
  exact (reconcileTunnelOp_rules env cm hfail desired w hlist tunnelID services hlast).sound

/-- `docs` names the default tunnel by its name, `blog` by its ID: both groups resolve to `tun-1`,
and the tunnel ends with `blog`'s rule only. -/
theorem blogByID_shadows_docs :
    resolvedTunnel singleAccountCredentials "default" = some "tun-1" ∧
      resolvedTunnel singleAccountCredentials "tun-1" = some "tun-1" ∧
      "docs.example.com:" ∉
        (desiredIngress (blogByID.tunnelServices.map (⟨blogByID, ·⟩))).2.map TunnelIngress.key ∧
      ∀ rule ∈ ((tunnelPass [docsContainer, blogByID] exampleAccount).cloud.ingressOf "tun-1").map
          ingressRuleOf, rule.hostname ≠ "" →
        rule.key ∈ (desiredIngress (blogByID.tunnelServices.map (⟨blogByID, ·⟩))).2.map TunnelIngress.key := by
  unfold tunnelPass
  exact ⟨rfl, rfl, by decide, reconcileTunnelOp_rules_of_last_group (exampleEnv (fun _ => false) 100)
    singleAccountCredentials (fun _ => rfl) [docsContainer, blogByID] exampleAccount rfl "tun-1" _ rfl⟩

/-- `listTunnelCredentials`: tunnel names to the credential `GetTunnelCredential` finds. -/
def listTunnelCredentials : GoMap TunnelCredential :=
  cm.listTunnels.foldl (fun m name =>
    match cm.getTunnelCredential name with
    | .ok cred => m.insert name cred
    | .error _ => m) []

/-- `RemoveIngressRule` (the operator's `Delete`): removes every rule with the row's hostname
from its tunnel, then the row. -/
def removeIngressRuleOp (resource : ManagedResource) : Op Unit := do
  let tunnelName :=
    (((listTunnelCredentials cm).find? (·.2.tunnelID == resource.tunnelID)).map (·.1)).getD ""
  if tunnelName = "" then throw ("tunnel not found for resource: " ++ resource.tunnelID)
  match cm.getTunnelClient tunnelName with
  | .error e => throw e
  | .ok (_, none) => throw ("tunnel credential not found: " ++ tunnelName)
  | .ok (client, some tunnelCred) =>
    removeIngressRule env ⟨client, tunnelCred.accountID⟩ tunnelCred.tunnelID resource.hostname
    deleteResource env resource.id

end Operator

end Labelgate
