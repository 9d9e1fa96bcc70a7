import Labelgate.Reconciler.Conflicts

/-!
# The reconcile pass

`Reconciler.reconcile` and the orphan scheduler (`reconciler/reconciler.go`). A pass reads the
desired state, filters hostname conflicts, runs the DNS and tunnel operators on the filtered
list and the Access operator on the bindings resolved from it, each failure recorded and none
stopping the others, and then processes orphans: `processOrphanedCleanups` deletes, remotely
and from the ledger, the orphaned rows with `cleanup_enabled` whose last update is older than
the remove delay; `cleanupExpiredOrphans`, when an orphan TTL is set, drops from the ledger only
the orphaned rows without `cleanup_enabled` older than the TTL. Each of the two reads the clock
for its own cutoff. `runPasses` strings passes together over one world.

The pass deduplicates DNS keys, tunnel keys, bound hostnames and policy names first-wins, in the
order it visits the Go maps of containers and agents, so two containers declaring one record
decide its address by that order; without such duplicates, every order gives each key the same
owner.
-/

namespace Labelgate

/-- The reconciler's configuration: the credential router its operators share, the remove delay
and the orphan TTL (`0` disables it), in seconds. All three operators are configured. -/
structure ReconcilerConfig where
  creds : CredentialManager
  removeDelay : Int
  orphanTTL : Int

/-- The reconciler as `main` builds it from `DefaultConfig`'s sync settings: a remove delay of
30 minutes and no orphan TTL. -/
def defaultReconcilerConfig (creds : CredentialManager) : ReconcilerConfig :=
  { creds, removeDelay := 30 * 60, orphanTTL := 0 }

/-- The reconciler's in-memory desired state: the local containers by ID and each agent's
containers by agent ID. -/
structure DesiredSources where
  containers : GoMap ParsedContainer
  agentData : GoMap (List ParsedContainer)
deriving DecidableEq, Repr

section Pass

variable (env : Env) (cfg : ReconcilerConfig)

/-- The operator's `Delete` for a row of each kind. -/
def deleteOrphan (resource : ManagedResource) : Op Unit :=
  match resource.resourceType with
  | .dns => deleteDNSRecord env cfg.creds resource
  | .tunnelIngress => removeIngressRuleOp env cfg.creds resource
  | .accessApp => removeAccess env cfg.creds resource

/-- `processOrphanedCleanups`: deletes each cleanup-enabled orphan past the remove delay;
failures are logged and skipped. -/
def processOrphanedCleanups : Op Unit := do
  let cutoff := (← timeNow env) - cfg.removeDelay
  match ← observe (listOrphanedForCleanup env cutoff) with
  | .error _ => pure ()
  | .ok resources =>
    for resource in resources do
      let _ ← observe (deleteOrphan env cfg resource)

/-- `cleanupExpiredOrphans`: drops from the ledger each orphan without cleanup past the TTL; the
remote resource is left alone. -/
def cleanupExpiredOrphans : Op Unit := do
  let cutoff := (← timeNow env) - cfg.orphanTTL
  match ← observe (listExpiredOrphans env cutoff) with
  | .error _ => pure ()
  | .ok expired =>
    for resource in expired do
      let _ ← observe (deleteResource env resource.id)

/-- `Reconciler.reconcile`: returns the errors it joins into `lastSyncError`; the clock reading it
stores in `lastSyncTime` is its last. -/
def reconcile (src : DesiredSources) : Op (List String) := do
  let desired := filterHostnameConflicts (getDesiredState src.containers src.agentData)
  let mut errs : List String := []
  if let .error e ← observe (reconcileDNS env cfg.creds desired) then
    errs := errs ++ ["dns: " ++ e]
  if let .error e ← observe (reconcileTunnelOp env cfg.creds desired) then
    errs := errs ++ ["tunnel: " ++ e]
  if let .error e ← observe (reconcileBindings env cfg.creds (resolveAccessReferences desired)) then
    errs := errs ++ ["access: " ++ e]
  processOrphanedCleanups env cfg
  if cfg.orphanTTL > 0 then cleanupExpiredOrphans env cfg
  let _lastSyncTime ← timeNow env
  pure errs

end Pass

/-- The world after one pass. -/
def reconcileStep (cfg : ReconcilerConfig) (env : Env) (src : DesiredSources) (w : World) : World :=
  ((reconcile env cfg src).run.run w).2

/-- The world after a run of passes, each with its environment and desired state. -/
def runPasses (cfg : ReconcilerConfig) : List (Env × DesiredSources) → World → World
  | [], w => w
  | (env, src) :: rest, w => runPasses cfg rest (reconcileStep cfg env src w)

/-! ## Enumeration order -/

/-- The containers a pass hands to its operators. -/
def desiredOf (src : DesiredSources) : List ParsedContainer :=
  filterHostnameConflicts (getDesiredState src.containers src.agentData)

/-- When no key is declared twice (a DNS `hostname:type`, a `hostname:path` within one tunnel name,
a referenced hostname, a policy name), neither the order in which the pass visits the containers
and agent maps nor the order of each container's own lists decides ownership: the DNS operator is
given the same owning container and service for each key, each tunnel group the same owner for
each of its keys, the Access operator the same bindings, and each policy name resolves to the
same definition. -/
theorem desiredOwners_independent_of_order {src src' : DesiredSources}
    (horder : SameUpToOrder (getDesiredState src.containers src.agentData)
      (getDesiredState src'.containers src'.agentData))
    (hdns : (((getDesiredState src.containers src.agentData).flatMap (·.dnsServices)).map dnsKey).Nodup)
    (htun : (((getDesiredState src.containers src.agentData).flatMap (·.tunnelServices)).map fun svc =>
      (tunnelNameOf svc, tunnelKey svc)).Nodup)
    (hrefs : ((((getDesiredState src.containers src.agentData).flatMap accessReferences).filter
      (·.access ≠ "")).map (·.hostname)).Nodup)
    (hpol : (((getDesiredState src.containers src.agentData).flatMap (·.accessPolicies)).map
      (·.1)).Nodup) :
    (∀ k, ((desiredDNSMap (desiredOf src)).lookup k).map DesiredDNS.owner =
        ((desiredDNSMap (desiredOf src')).lookup k).map DesiredDNS.owner) ∧
      (∀ name k,
        ((desiredIngress (((tunnelGroups (desiredOf src)).lookup name).getD [])).1.lookup k).map
            DesiredTunnel.owner =
          ((desiredIngress (((tunnelGroups (desiredOf src')).lookup name).getD [])).1.lookup k).map
            DesiredTunnel.owner) ∧
      (resolveAccessReferences (desiredOf src)).Perm (resolveAccessReferences (desiredOf src')) ∧
      ∀ name, (globalPolicies (desiredOf src)).lookup name =
        (globalPolicies (desiredOf src')).lookup name := by
  have hp := horder.filterHostnameConflicts
  have hpol' : (((desiredOf src).flatMap (·.accessPolicies)).map (·.1)).Nodup := by
    rwa [desiredOf, flatMap_filterHostnameConflicts (·.accessPolicies) fun _ _ => rfl]
  refine ⟨lookup_desiredDNSMap_reordered hp ?_, lookup_desiredIngress_reordered hp ?_,
    resolveAccessReferences_reordered hp ?_ hpol', lookup_globalPolicies_reordered hp hpol'⟩
  · rwa [desiredOf, flatMap_filterHostnameConflicts (·.dnsServices) fun _ _ => rfl]
  · exact htun.sublist ((flatMap_filterHostnameConflicts_sublist _
      (fun _ _ => List.filter_sublist _) _).map _)
  · exact hrefs.sublist (((flatMap_filterHostnameConflicts_sublist _
      (fun _ _ => ((List.filter_sublist _).map _).append (List.Sublist.refl _)) _).filter _).map _)

/-- A local container `id` declaring the `A` record of `hostname` at `target`. -/
def dnsContainer (id hostname target : String) : ParsedContainer :=
  { info := { id, name := id },
    dnsServices := [{ defaultDNSService with serviceName := id, hostname, target }],
    tunnelServices := [], accessPolicies := [], agentID := "" }

/-- The `A` record of `www.example.com` at `192.0.2.1`, declared by `web`. -/
def wwwService : DNSService :=
  { defaultDNSService with serviceName := "www", hostname := "www.example.com", target := "192.0.2.1" }

/-- The containers `web` and `api`; `web` declares `web.example.com`, then `www.example.com`. -/
def webAndApi : DesiredSources :=
  ⟨[("web", { dnsContainer "web" "web.example.com" "192.0.2.1" with
        dnsServices := (dnsContainer "web" "web.example.com" "192.0.2.1").dnsServices ++ [wwwService] }),
    ("api", dnsContainer "api" "api.example.com" "192.0.2.2")], []⟩

/-- The same containers, the map visited in the other order and the labels of `web` parsed in
the other order. -/
def apiAndWeb : DesiredSources :=
  ⟨[("api", dnsContainer "api" "api.example.com" "192.0.2.2"),
    ("web", { dnsContainer "web" "web.example.com" "192.0.2.1" with
        dnsServices := wwwService :: (dnsContainer "web" "web.example.com" "192.0.2.1").dnsServices })],
    []⟩

theorem desiredOwners_web_api :
    SameUpToOrder (getDesiredState webAndApi.containers webAndApi.agentData)
        (getDesiredState apiAndWeb.containers apiAndWeb.agentData) ∧
      (∀ k, ((desiredDNSMap (desiredOf webAndApi)).lookup k).map DesiredDNS.owner =
        ((desiredDNSMap (desiredOf apiAndWeb)).lookup k).map DesiredDNS.owner) ∧
      (∀ name k,
        ((desiredIngress (((tunnelGroups (desiredOf webAndApi)).lookup name).getD [])).1.lookup k).map
            DesiredTunnel.owner =
          ((desiredIngress (((tunnelGroups (desiredOf apiAndWeb)).lookup name).getD [])).1.lookup k).map
            DesiredTunnel.owner) ∧
      (resolveAccessReferences (desiredOf webAndApi)).Perm (resolveAccessReferences (desiredOf apiAndWeb)) ∧
      ∀ name, (globalPolicies (desiredOf webAndApi)).lookup name =
        (globalPolicies (desiredOf apiAndWeb)).lookup name :=
  have horder : SameUpToOrder (getDesiredState webAndApi.containers webAndApi.agentData)
      (getDesiredState apiAndWeb.containers apiAndWeb.agentData) :=
    ⟨_, .swap _ _ _, by decide⟩
  ⟨horder, desiredOwners_independent_of_order horder (by decide) (by decide) (by decide) (by decide)⟩

end Labelgate
