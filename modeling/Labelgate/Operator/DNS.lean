import Labelgate.Cloudflare.Access
import Labelgate.Labels.Parser

/-!
# The DNS operator

`dns.DNSOperatorImpl` (`operator/dns/dns.go`). `reconcileDNS` keys the desired services by
`hostname:type`, first declaration winning; creates a record for each key the ledger lacks,
saving an `error` row when that fails; updates a record when its row is in `error` or
`orphaned` or `needsUpdate` reports drift; and marks every other DNS row `orphaned`.
`createDNSRecord` adopts an existing record on "already exists"; `updateDNSRecord` recovers a
missing record ID by looking the record up by name; `deleteDNSRecord` treats a missing record as
deleted.

Three of these decisions rest on less than they need. The rollback of a create whose row the
ledger refuses deletes the record the call holds, which is the adopted one when the record
existed before. `needsUpdate` reads a TTL of `0` as "nothing to compare", where the update sends
it as automatic. And `isNotFoundError` searches the whole error text, which quotes the record's
IDs.

The services come from the label parser, and two of its choices reach the records. Every parsed
DNS service names a credential, `default` when no label names one, so create and update select
their credential by name while delete selects its client by zone. And the parser accepts the
type `SRV`, for which neither record encoder has a body.
-/

namespace Labelgate

/-- `desiredDNS`: the container and service that own a desired key. -/
structure DesiredDNS where
  container : ParsedContainer
  service : DNSService
deriving DecidableEq, Repr

/-- `isAlreadyExistsError`. -/
def isAlreadyExistsError (err : String) : Bool := strContains err "already exists"

/-- `isNotFoundError`. -/
def isNotFoundError (err : String) : Bool :=
  strContains err "Record does not exist" || strContains err "404"

/-- `needsUpdate`: drift of the target (unless `auto`), the proxied flag, a non-zero TTL or the
service name. -/
def needsUpdate (current : ManagedResource) (desired : DNSService) : Bool :=
  (desired.target != "auto" && desired.target != current.content) ||
    desired.proxied != current.proxied ||
    (desired.ttl != current.ttl && desired.ttl != 0) ||
    desired.serviceName != current.serviceName

/-- The ledger key of a DNS service, `hostname:type`. -/
def dnsKey (svc : DNSService) : String := svc.hostname ++ ":" ++ svc.type

/-- The desired map of `Reconcile`: each `hostname:type` key goes to the first container and
service that declare it. -/
def desiredDNSMap (desired : List ParsedContainer) : GoMap DesiredDNS :=
  desired.foldl (fun m c => c.dnsServices.foldl (fun m svc => m.insertNew (dnsKey svc) ⟨c, svc⟩) m) []

/-- The current map of `Reconcile`: the listed rows by `hostname:record_type`. -/
def currentDNSMap (resources : List ManagedResource) : GoMap ManagedResource :=
  resources.foldl (fun m r => m.insert (r.hostname ++ ":" ++ r.recordType) r) []

section Operator

variable (env : Env) (cm : CredentialManager)

/-- `resolveTarget`: the public address for `auto` and the empty target, the container's first
network address for `container`, the target itself otherwise. -/
def resolveTarget (target : String) (container : ContainerInfo) : Op String :=
  match target with
  | "auto" | "" => liftExcept env.publicIP
  | "container" =>
    match container.networks with
    | (_, ip) :: _ => pure ip
    | [] => throw "container has no network IP"
  | t => pure t

/-- A target other than `auto`, `""` and `container` is used as it is. -/
theorem resolveTarget_literal {target : String} (h : target ∉ ["auto", "", "container"])
    (container : ContainerInfo) : resolveTarget env target container = pure target := by
  simp only [List.mem_cons, List.mem_singleton, List.not_mem_nil, or_false, not_or] at h
  unfold resolveTarget
  split <;> simp_all

/-- `CreateDNSRecord`. -/
def createDNSRecord (container : ContainerInfo) (service : DNSService) : Op ManagedResource := do
  let _client ← liftExcept ((cm.getClientForHostname service.hostname service.credential).mapError
    ("failed to get client: " ++ ·))
  let target ← wrapErr "failed to resolve target: " (resolveTarget env service.target container)
  let zoneID ← getZoneID env service.hostname
  let record : DNSRecord :=
    { id := "", zoneID, name := service.hostname, type := service.type, content := target,
      proxied := service.proxied, ttl := service.ttl, priority := service.priority,
      comment := "Managed by labelgate [container:" ++ container.name ++ " service:" ++
        service.serviceName ++ "]" }
  let created ← match ← observe (createRecord env record) with
    | .ok r => pure r
    | .error err =>
      if isAlreadyExistsError err then
        match ← observe (getRecordByName env service.hostname service.type) with
        | .ok (some existing) => pure existing
        | _ => throw err
      else throw err
  let (resource, saved) ← saveResource env
    { resourceType := .dns, cfid := created.id, zoneID, hostname := service.hostname,
      recordType := service.type, content := target, proxied := service.proxied,
      ttl := service.ttl, containerID := container.id, containerName := container.name,
      serviceName := service.serviceName, status := .active, cleanupEnabled := service.cleanup }
  match saved with
  | .error e =>
    let _ ← observe (deleteRecord env zoneID created.id)
    throw ("failed to save resource: " ++ e)
  | .ok _ => pure resource

/-- When the account already has a record of the service's name and type in its zone,
`CreateDNSRecord` adopts it; if the ledger then refuses the row, the rollback deletes the adopted
record, which the call did not create. The call fails, the ledger is as it was, and the account
has lost a record it held before the call. -/
theorem createDNSRecord_rollback_deletes_adopted (container : ContainerInfo) (service : DNSService)
    (w : World) (existing : DNSRecord)
    (hclient : (cm.getClientForHostname service.hostname service.credential).isOk)
    (htarget : service.target ∉ ["auto", "", "container"])
    (htype : service.type ∈ ["A", "AAAA", "CNAME", "TXT", "MX", "CAA"])
    (hzone : (matchZoneForHostname w.cloud.zones service.hostname).2 ≠ "")
    (hexisting : w.cloud.records.find? (fun r =>
      r.zoneID == (matchZoneForHostname w.cloud.zones service.hostname).2 &&
        r.name == service.hostname && r.type == service.type) = some existing)
    (hok : ∀ n, env.remoteFails n = false) (hsave : env.storeFails w.storeTick = true) :
    let r := (createDNSRecord env cm container service).run.run w
    (∃ e, r.1 = .error e) ∧ r.2.store = w.store ∧ existing ∈ w.cloud.records ∧
      existing ∉ r.2.cloud.records := by
  obtain ⟨client, hc⟩ := exists_eq_ok_of_isOk hclient
  have hmem := List.mem_of_find?_eq_some hexisting
  have hpred := List.find?_some hexisting
  simp only [Bool.and_eq_true, beq_iff_eq] at hpred
  have hex : w.cloud.records.any fun r => r.name == service.hostname && r.type == service.type :=
    List.any_eq_true.2 ⟨existing, hmem, by simp [hpred.1.2, hpred.2]⟩
  have hany : w.cloud.records.any fun r => r.id == existing.id &&
      r.zoneID == (matchZoneForHostname w.cloud.zones service.hostname).2 :=
    List.any_eq_true.2 ⟨existing, hmem, by simp [hpred.1.1]⟩
  have hadopt : isAlreadyExistsError
      "failed to create DNS record: 81058: An identical record already exists." = true := by decide
  simp only [createDNSRecord, run_bind, hc, run_liftExcept, mapError_ok, run_wrapErr, run_pure,
    resolveTarget_literal env htarget, run_getZoneID, hok, hzone, Bool.false_eq_true, ite_false,
    run_observe]
  rw [run_createRecord_exists env _ _ hzone (buildRecordBody_isOk htype) (hok _) hex]
  simp only [hadopt, if_true, run_observe, run_bind]
  rw [run_getRecordByName env _ _ _ (hok _) (hok _) ?_]
  · simp [hexisting, run_bind, run_saveResource, hsave, run_deleteRecord, hok, hany, hmem]
  · exact hzone

/-- A record for `web.example.com` made by hand, before labelgate saw the container. -/
def manualRecord : DNSRecord :=
  { id := "rec-manual", zoneID := "zone-1", name := "web.example.com", type := "A",
    content := "192.0.2.10", proxied := false, ttl := 1 }

/-- A service declaring that record: `web.example.com` at `192.0.2.10`. -/
def staticWeb : DNSService :=
  { defaultDNSService with serviceName := "web", hostname := "web.example.com", target := "192.0.2.10" }

/-- With the ledger refusing every statement, the create adopts the hand-made record and its
rollback deletes it. -/
theorem locked_ledger_deletes_manual_record :
    let w := { exampleAccount with cloud := { exampleAccount.cloud with records := [manualRecord] } }
    let r := (createDNSRecord { exampleEnv (fun _ => false) 100 with storeFails := fun _ => true }
      singleAccountCredentials { id := "c1", name := "web" } staticWeb).run.run w
    (∃ e, r.1 = .error e) ∧ r.2.store = w.store ∧ manualRecord ∈ w.cloud.records ∧
      manualRecord ∉ r.2.cloud.records :=
  createDNSRecord_rollback_deletes_adopted _ _ _ _ _ _ (by decide) (by decide) (by decide)
    (by decide) (by decide) (fun _ => rfl) rfl

/-- `UpdateDNSRecord`. -/
def updateDNSRecord (resource : ManagedResource) (service : DNSService) : Op Unit := do
  let _client ← liftExcept (cm.getClientForHostname service.hostname service.credential)
  let mut resource := resource
  if resource.cfid = "" ∨ resource.zoneID = "" then
    match ← observe (getRecordByName env service.hostname service.type) with
    | .ok (some existing) => resource := { resource with cfid := existing.id, zoneID := existing.zoneID }
    | _ => throw ("cannot update: record not found in Cloudflare and no CFID in storage for " ++
        service.hostname)
  let target ← if service.target = "auto" ∨ service.target = "" then liftExcept env.publicIP
    else pure service.target
  let _ ← updateRecord env
    { id := resource.cfid, zoneID := resource.zoneID, name := service.hostname, type := service.type,
      content := target, proxied := service.proxied, ttl := service.ttl, priority := service.priority }
  let (_, saved) ← saveResource env
    { resource with content := target, proxied := service.proxied, ttl := service.ttl,
                    serviceName := service.serviceName, cleanupEnabled := service.cleanup }
  liftExcept saved

/-- Without a record ID, `UpdateDNSRecord` can only find the record by name: when the account has
no record of that name and type, it fails having changed nothing but the remote counter. -/
theorem updateDNSRecord_without_record (resource : ManagedResource) (service : DNSService)
    (w : World) (hcfid : resource.cfid = "")
    (hmissing : ∀ r ∈ w.cloud.records, ¬(r.name = service.hostname ∧ r.type = service.type)) :
    ∃ err w', (updateDNSRecord env cm resource service).run.run w = (.error err, w') ∧
      w'.cloud = w.cloud ∧ w'.store = w.store ∧ w'.calls = w.calls := by
  cases hc : cm.getClientForHostname service.hostname service.credential with
  | error e => exact ⟨e, w, by simp [updateDNSRecord, run_bind, hc], rfl, rfl, rfl⟩
  | ok client =>
    obtain ⟨hw, hfound⟩ := getRecordByName_spec env service.hostname service.type w
    rcases hr : (getRecordByName env service.hostname service.type).run.run w with ⟨r, w1⟩
    rw [hr] at hw hfound
    dsimp only at hw hfound
    obtain ⟨e, rfl⟩ | rfl : (∃ e, r = .error e) ∨ r = .ok none := by
      rcases r with e | _ | existing
      · exact .inl ⟨e, rfl⟩
      · exact .inr rfl
      · obtain ⟨hmem, hname, htype⟩ := hfound existing rfl
        exact absurd ⟨hname, htype⟩ (hmissing existing hmem)
    all_goals
      refine ⟨"cannot update: record not found in Cloudflare and no CFID in storage for " ++
        service.hostname, w1, ?_, by rw [hw]; exact ⟨rfl, rfl, rfl⟩⟩
      simp [updateDNSRecord, run_bind, hc, hcfid, hr]

/-- With a record ID and a zone, and a target that is not the public address, `UpdateDNSRecord`
sends the target as the label states it and issues exactly one call, an update. -/
theorem updateDNSRecord_calls (resource : ManagedResource) (service : DNSService) (w : World)
    (hclient : (cm.getClientForHostname service.hostname service.credential).isOk)
    (hcfid : resource.cfid ≠ "") (hzone : resource.zoneID ≠ "")
    (htarget : service.target ≠ "auto" ∧ service.target ≠ "")
    (htype : service.type ∈ ["A", "AAAA", "CNAME", "TXT", "MX", "CAA"]) :
    ((updateDNSRecord env cm resource service).run.run w).2.calls =
      w.calls ++ [.dnsUpdate resource.zoneID resource.cfid] := by
  obtain ⟨client, hc⟩ := exists_eq_ok_of_isOk hclient
  have hcalls := updateRecord_calls env
    { id := resource.cfid, zoneID := resource.zoneID, name := service.hostname,
      type := service.type, content := service.target, proxied := service.proxied,
      ttl := service.ttl, priority := service.priority } w hcfid hzone (buildRecordBody_isOk htype)
  simp only [updateDNSRecord, run_bind, hc, run_liftExcept, run_pure, hcfid, hzone, htarget, or_self,
    if_false]
  split <;> rename_i h <;> rw [h] at hcalls
  · split <;> rename_i h' <;>
    · have := congrArg (·.2.calls) h'
      simp only [saveResource_calls] at this
      rw [← this, hcalls]
  · exact hcalls

/-- `needsUpdate` reads a TTL of `0` as "no TTL to compare", but `UpdateDNSRecord` sends it as
automatic (`1`): when a service's TTL label is dropped and nothing else drifted, the pass skips a
record whose TTL the update would have reset, and the remote keeps the old TTL. -/
theorem needsUpdate_skips_ttl_reset (resource : ManagedResource) (service : DNSService) (w : World)
    (hclient : (cm.getClientForHostname service.hostname service.credential).isOk)
    (hcfid : resource.cfid ≠ "") (hzone : resource.zoneID ≠ "")
    (htarget : service.target ≠ "auto" ∧ service.target ≠ "")
    (htype : service.type ∈ ["A", "AAAA", "CNAME", "TXT", "MX", "CAA"])
    (hrecord : w.cloud.records.any fun r => r.id == resource.cfid && r.zoneID == resource.zoneID)
    (hok : env.remoteFails w.remoteTick = false)
    (hsame : service.target = resource.content ∧ service.proxied = resource.proxied ∧
      service.serviceName = resource.serviceName)
    (hauto : service.ttl = 0) (httl : 1 < resource.ttl) :
    needsUpdate resource service = false ∧
      ∀ r ∈ ((updateDNSRecord env cm resource service).run.run w).2.cloud.records,
        r.id = resource.cfid → r.ttl = 1 ∧ r.ttl ≠ resource.ttl := by
  obtain ⟨client, hc⟩ := exists_eq_ok_of_isOk hclient
  refine ⟨by simp [needsUpdate, hsame, hauto], ?_⟩
  let record : DNSRecord :=
    { id := resource.cfid, zoneID := resource.zoneID, name := service.hostname, type := service.type,
      content := service.target, proxied := service.proxied, ttl := service.ttl,
      priority := service.priority }
  obtain ⟨b, hb⟩ := exists_eq_ok_of_isOk (@buildRecordBody_isOk record htype)
  have hbttl : b.ttl = 1 := by simpa [record, hauto] using buildRecordBody_ttl hb
  have hrun := run_updateRecord env record w hcfid hzone hb hok hrecord
  simp only [updateDNSRecord, run_bind, hc, run_liftExcept, run_pure, hcfid, hzone, or_self, if_false,
    htarget.1, htarget.2]
  have hmap : ∀ r ∈ w.cloud.records.map fun r =>
      if r.id = resource.cfid then b.toRecord resource.cfid resource.zoneID else r,
      r.id = resource.cfid → r.ttl = 1 ∧ r.ttl ≠ resource.ttl := by
    simp only [List.mem_map]
    rintro _ ⟨r, -, rfl⟩ hid
    by_cases h : r.id = resource.cfid
    · simp only [h, if_true, RecordBody.toRecord, hbttl, true_and]; omega
    · simp only [h, if_false] at hid
  rw [hrun]
  dsimp only
  intro r hr hid
  split at hr <;> rename_i heq <;>
  · have hcloud := congrArg (·.2.cloud) heq
    simp only [saveResource_cloud] at hcloud
    rw [← hcloud] at hr
    exact hmap r hr hid

/-- The row `CreateDNSRecord` saved for `staticWeb` while it still had a `ttl` label of 300. -/
def ttlRow : ManagedResource :=
  { id := "uuid-0", resourceType := .dns, cfid := "rec-0", zoneID := "zone-1",
    hostname := "web.example.com", recordType := "A", content := "192.0.2.10", proxied := true,
    ttl := 300, serviceName := "web", status := .active, cleanupEnabled := true }

/-- Once the label is gone, the pass skips the record, whose TTL stays 300 where an update would
have made it automatic. -/
theorem dropped_ttl_label_skipped :
    let w := { exampleAccount with
      cloud := { exampleAccount.cloud with
        records := [{ id := "rec-0", zoneID := "zone-1", name := "web.example.com", type := "A",
                      content := "192.0.2.10", proxied := true, ttl := 300 }] } }
    needsUpdate ttlRow staticWeb = false ∧
      ∀ r ∈ ((updateDNSRecord (exampleEnv (fun _ => false) 200) singleAccountCredentials ttlRow
        staticWeb).run.run w).2.cloud.records, r.id = ttlRow.cfid → r.ttl = 1 ∧ r.ttl ≠ ttlRow.ttl :=
  needsUpdate_skips_ttl_reset _ _ _ _ _ (by decide) (by decide) (by decide) ⟨by decide, by decide⟩
    (by decide) (by decide) rfl ⟨rfl, rfl, rfl⟩ rfl (by decide)

/-- `DeleteDNSRecord`: the record, then the row; a missing record counts as deleted. -/
def deleteDNSRecord (resource : ManagedResource) : Op Unit := do
  let _client ← liftExcept (cm.getClientForHostname resource.hostname "")
  match ← observe (deleteRecord env resource.zoneID resource.cfid) with
  | .error err => if !isNotFoundError err then throw err
  | .ok _ => pure ()
  deleteResource env resource.id

/-- The failure text of a delete names the record's IDs, so `isNotFoundError` takes any failure
of the call for "already gone" when an ID contains `404`: the delete of such a record fails on
the remote, yet `DeleteDNSRecord` reports success, drops the row, and leaves the record. -/
theorem deleteDNSRecord_drops_row_on_failure (resource : ManagedResource) (w : World)
    (hclient : (cm.getClientForHostname resource.hostname "").isOk)
    (hid : strContains resource.cfid "404" = true) (hfail : env.remoteFails w.remoteTick = true)
    (hstore : env.storeFails w.storeTick = false) :
    let r := (deleteDNSRecord env cm resource).run.run w
    r.1 = .ok () ∧ r.2.cloud = w.cloud ∧ r.2.store = w.store.delete resource.id := by
  obtain ⟨client, hc⟩ := exists_eq_ok_of_isOk hclient
  have hnotfound : isNotFoundError ("failed to delete DNS record: DELETE \"" ++
      recordURL resource.zoneID resource.cfid ++ "\": " ++ "remote call failed") = true := by
    simp only [isNotFoundError, recordURL, Bool.or_eq_true]
    exact .inr (strContains_append_left (strContains_append_left (strContains_append_right
      (strContains_append_right hid))))
  simp [deleteDNSRecord, run_bind, hc, run_deleteRecord, hfail, hnotfound, hstore]

/-- An orphaned row whose record ID, a 32-digit hexadecimal ID as Cloudflare's are, contains
`404`. -/
def hexRow : ManagedResource :=
  { id := "uuid-0", resourceType := .dns, cfid := "9f3c404b7e21d6a8c5f0e1b2a3d4c5e6",
    zoneID := "zone-1", hostname := "web.example.com", recordType := "A",
    content := "203.0.113.7", proxied := true, serviceName := "web", status := .orphaned,
    cleanupEnabled := true }

/-- The account that holds `hexRow`'s record, and the ledger that holds the row. -/
def hexAccount : World :=
  { cloud := { zones := [("example.com", "zone-1")],
               records := [{ id := hexRow.cfid, zoneID := "zone-1", name := "web.example.com",
                             type := "A", content := "203.0.113.7", proxied := true, ttl := 1 }] },
    store := ⟨[hexRow], by decide, by decide⟩ }

/-- A delete of that record refused by the remote (here every call fails) drops the row and keeps
the record. -/
theorem hexRow_dropped_record_kept :
    let r := (deleteDNSRecord (exampleEnv (fun _ => true) 100) singleAccountCredentials hexRow).run.run
      hexAccount
    r.1 = .ok () ∧ r.2.cloud = hexAccount.cloud ∧ r.2.store = hexAccount.store.delete hexRow.id :=
  deleteDNSRecord_drops_row_on_failure _ _ _ _ (by decide) (by decide) rfl rfl

/-- The `error` row saved when a create fails. -/
def dnsErrorResource (d : DesiredDNS) (err : String) : ManagedResource :=
  { resourceType := .dns, hostname := d.service.hostname, recordType := d.service.type,
    content := d.service.target, proxied := d.service.proxied, ttl := d.service.ttl,
    containerID := d.container.info.id, containerName := d.container.info.name,
    serviceName := d.service.serviceName, agentID := d.container.agentID, status := .error,
    lastError := err, cleanupEnabled := d.service.cleanup }

/-- One desired key of `Reconcile`: create when the ledger lacks it, else patch the agent ID
and update on `error`, `orphaned` or drift. -/
def reconcileDNSKey (current : Option ManagedResource) (d : DesiredDNS) : Op Unit := do
  match current with
  | none =>
    match ← observe (createDNSRecord env cm d.container.info d.service) with
    | .error err => let _ ← saveResource env (dnsErrorResource d err)
    | .ok resource =>
      if d.container.agentID ≠ "" then
        let _ ← saveResource env { resource with agentID := d.container.agentID }
  | some current =>
    let current ← if current.agentID ≠ d.container.agentID then
        (·.1) <$> saveResource env { current with agentID := d.container.agentID }
      else pure current
    if current.status = .error ∨ current.status = .orphaned ∨ needsUpdate current d.service then
      match ← observe (updateDNSRecord env cm current d.service) with
      | .error err => let _ ← observe (updateResourceError env current.id .error err)
      | .ok _ =>
        if current.lastError ≠ "" ∨ current.status ≠ .active then
          let _ ← observe (updateResourceError env current.id .active "")

/-- A row that a failed create saved in `error` has no record ID, and while the account has no
record of its name and type no later pass repairs it: the retry goes through `updateDNSRecord`,
which fails, so the key's processing issues no call, leaves the account as it was, and keeps the
status and record ID of every row. -/
theorem reconcileDNSKey_error_row_not_repaired (current : ManagedResource) (d : DesiredDNS)
    (w : World) (hmem : current ∈ w.store.rows) (hcfid : current.cfid = "")
    (hstatus : current.status = .error) (hagent : current.agentID = d.container.agentID)
    (hmissing : ∀ r ∈ w.cloud.records, ¬(r.name = d.service.hostname ∧ r.type = d.service.type)) :
    let w' := ((reconcileDNSKey env cm (some current) d).run.run w).2
    w'.cloud = w.cloud ∧ w'.calls = w.calls ∧
      w'.store.rows.map (fun r => (r.id, r.status, r.cfid)) =
        w.store.rows.map (fun r => (r.id, r.status, r.cfid)) := by
  obtain ⟨err, w1, hupd, hcloud, hstore, hcalls⟩ :=
    updateDNSRecord_without_record env cm current d.service w hcfid hmissing
  simp [reconcileDNSKey, run_bind, hagent, hstatus, hupd]
  split
  · exact ⟨hcloud, hcalls, by rw [hstore]⟩
  · have hrow : ∀ r ∈ w.store.rows, r.id = current.id → r.status = .error :=
      fun r hr hid => Store.eq_of_id_eq hr hmem hid ▸ hstatus
    exact ⟨hcloud, hcalls, by rw [hstore, Store.setError_map_of_status _ _ _ _ _ hrow]⟩

/-- The local container `web` and its one DNS service: an `A` record for `web.example.com` at the
public address, proxied, with cleanup. -/
def webDNS : DesiredDNS :=
  let svc : DNSService :=
    { defaultDNSService with serviceName := "web", hostname := "web.example.com" }
  ⟨{ info := { id := "c1", name := "web" }, dnsServices := [svc], tunnelServices := [],
     accessPolicies := [], agentID := "" }, svc⟩

/-- The world after processing `webDNS` on `exampleAccount` when remote call 1 (the create, after
the zone listing) fails. -/
def webFailedCreate : World :=
  ((reconcileDNSKey (exampleEnv (· == 1) 100) singleAccountCredentials none webDNS).run.run
    exampleAccount).2

/-- The row the failed create leaves. -/
def webErrorRow : ManagedResource :=
  { dnsErrorResource webDNS "failed to create DNS record: remote call failed" with
    id := "uuid-0", createdAt := 100, updatedAt := 100 }

/-- After the failed create, the ledger holds an `error` row without record ID, and a second pass
without failures does not repair it. -/
theorem webDNS_create_failure_not_repaired :
    webFailedCreate.store.rows = [webErrorRow] ∧ webErrorRow.cfid = "" ∧
      webErrorRow.status = .error ∧
      let w' := ((reconcileDNSKey (exampleEnv (fun _ => false) 200) singleAccountCredentials
        (some webErrorRow) webDNS).run.run webFailedCreate).2
      w'.cloud = webFailedCreate.cloud ∧ w'.calls = webFailedCreate.calls ∧
        w'.store.rows.map (fun r => (r.id, r.status, r.cfid)) =
          webFailedCreate.store.rows.map (fun r => (r.id, r.status, r.cfid)) :=
  have hrows : webFailedCreate.store.rows = [webErrorRow] := by decide
  ⟨hrows, rfl, rfl, reconcileDNSKey_error_row_not_repaired _ _ _ _ _
    (hrows ▸ List.mem_singleton_self _) rfl rfl rfl (by decide)⟩

/-- A service whose target is `container` is updated on every pass: `needsUpdate` compares the
label's literal `container` with the address the row holds, so a pass on an unchanged desired
state issues an update call, which sends the literal itself as the record's content. -/
theorem reconcileDNSKey_container_target_updates (current : ManagedResource) (d : DesiredDNS)
    (w : World) (htarget : d.service.target = "container") (hcontent : current.content ≠ "container")
    (hcfid : current.cfid ≠ "") (hzone : current.zoneID ≠ "")
    (hagent : current.agentID = d.container.agentID)
    (hclient : (cm.getClientForHostname d.service.hostname d.service.credential).isOk)
    (htype : d.service.type ∈ ["A", "AAAA", "CNAME", "TXT", "MX", "CAA"]) :
    ((reconcileDNSKey env cm (some current) d).run.run w).2.calls =
      w.calls ++ [.dnsUpdate current.zoneID current.cfid] := by
  have hcalls := updateDNSRecord_calls env cm current d.service w hclient hcfid hzone
    (by simp [htarget]) htype
  have hneeds : needsUpdate current d.service = true := by
    simp [needsUpdate, htarget, Ne.symm hcontent]
  simp only [reconcileDNSKey, run_bind, hagent, ne_eq, not_true_eq_false, if_false, run_pure, hneeds,
    or_true, if_true, run_observe]
  generalize (updateDNSRecord env cm current d.service).run.run w = p at hcalls ⊢
  rcases p with ⟨_ | _, w1⟩ <;> dsimp only at hcalls ⊢
  · simp only [run_bind, run_observe, run_updateResourceError, run_pure]
    split <;> exact hcalls
  · split
    · simp only [run_bind, run_observe, run_updateResourceError, run_pure]
      split <;> exact hcalls
    · exact hcalls

/-- The local container `app`, on one network at `172.18.0.5`, and its one DNS service: an `A`
record for `app.example.com` at the container's address. -/
def appDNS : DesiredDNS :=
  let svc : DNSService := { defaultDNSService with serviceName := "app", hostname := "app.example.com",
                                                   target := "container" }
  ⟨{ info := { id := "c2", name := "app", networks := [("bridge", "172.18.0.5")] },
     dnsServices := [svc], tunnelServices := [], accessPolicies := [], agentID := "" }, svc⟩

/-- The world after a first pass on `appDNS` in which every call succeeds. -/
def appCreated : World :=
  ((reconcileDNSKey (exampleEnv (fun _ => false) 100) singleAccountCredentials none appDNS).run.run
    exampleAccount).2

/-- The row the first pass saves: the record it created holds the container's address. -/
def appRow : ManagedResource :=
  { id := "uuid-1", resourceType := .dns, cfid := "rec-0", zoneID := "zone-1",
    hostname := "app.example.com", recordType := "A", content := "172.18.0.5", proxied := true,
    ttl := 0, containerID := "c2", containerName := "app", serviceName := "app", status := .active,
    cleanupEnabled := true, createdAt := 100, updatedAt := 100 }

/-- A second pass on the same desired state, against the unchanged account, issues an update. -/
theorem appDNS_second_pass_updates :
    appCreated.store.rows = [appRow] ∧
      ((reconcileDNSKey (exampleEnv (fun _ => false) 200) singleAccountCredentials (some appRow)
        appDNS).run.run appCreated).2.calls = appCreated.calls ++ [.dnsUpdate "zone-1" "rec-0"] :=
  ⟨by decide, reconcileDNSKey_container_target_updates _ _ _ _ _ rfl (by decide) (by decide)
    (by decide) rfl (by decide) (by decide)⟩

/-- `DNSOperatorImpl.Reconcile`. -/
def reconcileDNS (desired : List ParsedContainer) : Op Unit := do
  let resources ← wrapErr "failed to list DNS resources: "
    (listResources env .dns [.active, .error, .orphaned])
  let mut currentMap := currentDNSMap resources
  for (key, d) in desiredDNSMap desired do
    reconcileDNSKey env cm (currentMap.lookup key) d
    currentMap := currentMap.erase key
  for (_, resource) in currentMap do
    if resource.status ≠ .orphaned then
      let _ ← observe (updateResourceStatus env resource.id .orphaned)

end Operator

/-! ## Services parsed from labels -/

/-- The labels of one service, `web.example.com`, with no credential label. -/
def webLabels : GoMap String := [("labelgate.dns.web.hostname", "web.example.com")]

/-- The service the default parser reads from `webLabels`. -/
def webService : DNSService :=
  { defaultDNSService with serviceName := "web", hostname := "web.example.com" }

/-- A root token and a named credential for the zone `example.com`. -/
def zoneCredentials : CredentialManager :=
  ⟨[⟨"default", "root-token", [], true⟩, ⟨"zone-a", "token-a", ["example.com"], false⟩], [],
    some ⟨"default", "root-token", [], true⟩⟩

example : newCredentialManager
    { apiToken := "root-token", credentials := [("zone-a", ⟨"token-a", ["example.com"]⟩)] } =
      .ok zoneCredentials := rfl

/-- A DNS service whose labels name no credential still names one: the parser starts it from
`DefaultDNSService`, whose credential is `default`. Create and update therefore select the
credential by that name, and what they select is the same for every hostname: the zones of the
credentials are never consulted. -/
theorem parsed_dns_credential_ignores_zones (p : Parser) (labels : GoMap String) (s : DNSService)
    (hs : s ∈ (p.parse labels).dnsServices)
    (hown : ∀ kv ∈ labels, kv.1 ≠ p.labelKey "dns" s.serviceName "credential")
    (hdefault : ∀ kv ∈ labels, kv.1 ≠ p.labelKey "dns" "default" "credential") :
    s.credential = "default" ∧
      ∀ (cm : CredentialManager) (hostname : String),
        cm.getCredentialForZone s.hostname s.credential = cm.getCredentialForZone hostname "default" := by
  have hc := p.credential_of_mem_parse hs hown hdefault
  exact ⟨hc, fun cm hostname => by simp [hc, CredentialManager.getCredentialForZone]⟩

/-- For `web.example.com`, zone matching would select `zone-a`; the parsed service gets the root
credential. -/
theorem webService_gets_root_credential :
    webService ∈ ((newParser "").parse webLabels).dnsServices ∧
      (webService.credential = "default" ∧
        ∀ (cm : CredentialManager) (hostname : String),
          cm.getCredentialForZone webService.hostname webService.credential =
            cm.getCredentialForZone hostname "default") ∧
      zoneCredentials.getCredentialForZone webService.hostname "" =
        .ok ⟨"zone-a", "token-a", ["example.com"], false⟩ ∧
      zoneCredentials.getCredentialForZone webService.hostname webService.credential =
        .ok ⟨"default", "root-token", [], true⟩ :=
  have hs : webService ∈ ((newParser "").parse webLabels).dnsServices := by decide
  ⟨hs, parsed_dns_credential_ignores_zones _ _ _ hs (by decide) (by decide), rfl, rfl⟩

/-- `DeleteDNSRecord` selects its client by zone alone, where create and update selected it by
the service's credential. When a credential whose zones cover the hostname is not the one the
service names, the delete runs with another client than the create did. -/
theorem delete_client_differs_from_create (cm : CredentialManager) (s : DNSService) (c : Credential)
    (hzone : cm.credentials.find? (matchZone · s.hostname) = some c) (htoken : c.apiToken ≠ "")
    (hname : c.name ≠ s.credential) (hexplicit : s.credential ≠ "") :
    cm.getClientForHostname s.hostname "" = .ok c.name ∧
      ∀ client, cm.getClientForHostname s.hostname s.credential = .ok client → client ≠ c.name := by
  refine ⟨cm.getClientForHostname_eq_ok.2 ⟨c, cm.getCredentialForZone_zone hzone, htoken, rfl⟩, ?_⟩
  intro client h
  obtain ⟨c', hc', -, rfl⟩ := cm.getClientForHostname_eq_ok.1 h
  rw [cm.getCredentialForZone_name hexplicit hc']
  exact hname.symm

/-- The parsed `webService` is created with the root credential's client and deleted with
`zone-a`'s. -/
theorem webService_deleted_with_zone_client :
    zoneCredentials.getClientForHostname webService.hostname "" = .ok "zone-a" ∧
      ∀ client, zoneCredentials.getClientForHostname webService.hostname webService.credential =
        .ok client → client ≠ "zone-a" :=
  delete_client_differs_from_create _ _ ⟨"zone-a", "token-a", ["example.com"], false⟩ (by decide)
    (by decide) (by decide) (by decide)

/-- The labels of an `SRV` service: the parser takes the type in any case. -/
def sipLabels : GoMap String :=
  [("labelgate.dns.sip.hostname", "_sip._tcp.example.com"), ("labelgate.dns.sip.type", "srv")]

/-- The service the default parser reads from `sipLabels`. -/
def sipService : DNSService :=
  { defaultDNSService with serviceName := "sip", hostname := "_sip._tcp.example.com", type := "SRV" }

/-- The record types the parser accepts and the encoders can write differ by `SRV` alone: a
record built from a parsed service has a body, for create and for update, exactly when the service
is not of type `SRV`. -/
theorem parsed_service_has_body_iff_not_srv (p : Parser) (labels : GoMap String) (s : DNSService)
    (hs : s ∈ (p.parse labels).dnsServices) (record : DNSRecord) (htype : record.type = s.type) :
    ((buildRecordBody record).isOk ∧ (buildUpdateRecordBody record).isOk) ↔ s.type ≠ "SRV" := by
  have hvalid := p.type_mem_of_mem_parse hs
  simp only [buildUpdateRecordBody, and_self]
  constructor
  · intro hok hsrv
    simp [buildRecordBody, htype, hsrv, Except.isOk, Except.toBool] at hok
  · intro hsrv
    apply buildRecordBody_isOk
    simp only [Labels.validDNSTypes, List.mem_cons, List.mem_singleton, List.not_mem_nil,
      or_false] at hvalid ⊢
    rw [htype]
    rcases hvalid with h | h | h | h | h | h | h <;> simp [h] at hsrv ⊢

/-- The record `CreateDNSRecord` builds for `sipService` in the zone `zone-1`. -/
def sipRecord : DNSRecord :=
  { id := "", zoneID := "zone-1", name := sipService.hostname, type := sipService.type,
    content := "203.0.113.7", proxied := true, ttl := 0,
    comment := "Managed by labelgate [container:sip service:sip]" }

/-- The record `CreateDNSRecord` builds for the parsed `SRV` service has no body. -/
theorem sipService_has_no_body :
    sipService ∈ ((newParser "").parse sipLabels).dnsServices ∧
      ¬((buildRecordBody sipRecord).isOk ∧ (buildUpdateRecordBody sipRecord).isOk) :=
  have hs : sipService ∈ ((newParser "").parse sipLabels).dnsServices := by decide
  ⟨hs, mt (parsed_service_has_body_iff_not_srv _ _ _ hs sipRecord rfl).1 (by decide)⟩

end Labelgate
