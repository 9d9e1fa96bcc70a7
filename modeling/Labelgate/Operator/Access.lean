import Labelgate.Operator.Tunnel

/-!
# The Access operator

`access.AccessOperatorImpl` (`operator/access/access.go`). `reconcileBindings` keys the resolved
bindings by hostname; a hostname with a row (in any of `active`, `error`, `orphaned`) goes through
`updateAccess`, which calls `ensureAccessForHostname` with the row's application ID; a hostname
without one goes through `ensureAccess`, which first probes for an application it did not create
and refuses to overwrite one. Rows of hostnames no longer bound are orphaned.

The account of both paths is the `default` tunnel's (`getTunnelClient "default"`); the client's
own account ID, their fallback, is the same value, since only `GetTunnelClient` sets it.

A failed `ensureAccess` saves an `error` row without application ID. Every later pass sends that
hostname through `updateAccess`, which then creates an application without probing and discards
its ID: each pass adds one application for the domain, the row is marked `active` and still
links none.
-/

namespace Labelgate

/-- The account of a tunnel credential, `""` without one. -/
def tunnelAccount (tunnelCred : Option TunnelCredential) : String :=
  match tunnelCred with
  | some t => t.accountID
  | none => ""

/-- The `error` row saved when `ensureAccess` fails. -/
def accessErrorResource (binding : ResolvedAccessBinding) (err : String) : ManagedResource :=
  { resourceType := .accessApp, hostname := binding.hostname, containerID := binding.containerID,
    containerName := binding.containerName, serviceName := binding.serviceName,
    agentID := binding.agentID, status := .error, lastError := err,
    cleanupEnabled := binding.cleanup }

section Operator

variable (env : Env) (cm : CredentialManager)

/-- `EnsureAccess`: the create path, with the probe for an application it did not create. -/
def ensureAccess (binding : ResolvedAccessBinding) : Op ManagedResource := do
  let (client, tunnelCred) ← liftExcept ((cm.getTunnelClient "default").mapError
    ("failed to get client for access: " ++ ·))
  let accountID := tunnelAccount tunnelCred
  if accountID = "" then throw "account ID is required for access operations"
  let accessClient : AccessClient := ⟨client, accountID⟩
  match ← observe (findExistingAccessApp env accessClient binding.hostname) with
  | .error _ => pure ()
  | .ok (existingAppID, existingAppName) =>
    if existingAppID ≠ "" then
      throw ("access application \"" ++ existingAppName ++ "\" (ID: " ++ existingAppID ++
        ") already exists for hostname " ++ binding.hostname ++
        ", not managed by labelgate â€” refusing to overwrite")
  let appID ← ensureAccessForHostname env accessClient binding.hostname binding.policyDef ""
  let (resource, saved) ← saveResource env
    { resourceType := .accessApp, hostname := binding.hostname, cfid := appID,
      accessAppID := appID, accountID, containerID := binding.containerID,
      containerName := binding.containerName, serviceName := binding.serviceName,
      agentID := binding.agentID, status := .active, cleanupEnabled := binding.cleanup }
  match saved with
  | .error e => throw ("failed to save access resource: " ++ e)
  | .ok _ => pure resource

/-- `updateAccess`: the update path, through the row's application ID. -/
def updateAccess (existing : ManagedResource) (binding : ResolvedAccessBinding) : Op Unit := do
  let (client, tunnelCred) ← liftExcept ((cm.getTunnelClient "default").mapError
    ("failed to get client for access: " ++ ·))
  let accountID := if existing.accountID ≠ "" then existing.accountID else tunnelAccount tunnelCred
  let _ ← ensureAccessForHostname env ⟨client, accountID⟩ binding.hostname binding.policyDef
    existing.accessAppID
  let (_, saved) ← saveResource env
    { existing with containerID := binding.containerID, containerName := binding.containerName,
                    serviceName := binding.serviceName, agentID := binding.agentID,
                    cleanupEnabled := binding.cleanup }
  liftExcept saved

/-- Without failures, `updateAccess` on a listed row without application ID creates an application
for the binding's hostname, without probing for one the domain already has, and drops the ID it
gets back: the row is saved in place with the application ID and status it had. -/
theorem updateAccess_without_app (hfail : ∀ n, env.remoteFails n = false)
    (hstore : ∀ n, env.storeFails n = false) (existing : ManagedResource)
    (binding : ResolvedAccessBinding) (w : World) (hid : existing.accessAppID = "")
    (client : String) (tunnelCred : Option TunnelCredential)
    (hclient : cm.getTunnelClient "default" = .ok (client, tunnelCred))
    (hacct : tunnelAccount tunnelCred ≠ "") (hmem : existing ∈ w.store.rows) :
    ∃ app new w', (updateAccess env cm existing binding).run.run w = (.ok (), w') ∧
      app.domain = binding.hostname ∧ .appCreate binding.hostname ∈ new ∧
      w'.cloud.apps = w.cloud.apps ++ [app] ∧ w'.calls = w.calls ++ new ∧
      w'.store.rows.map (fun r => (r.id, r.key, r.accessAppID, r.status)) =
        w.store.rows.map (fun r => (r.id, r.key, r.accessAppID, r.status)) := by
  have hacct' : (if existing.accountID ≠ "" then existing.accountID else tunnelAccount tunnelCred) ≠ "" := by
    split <;> assumption
  obtain ⟨app, w1, new, h1, hdomain, happs, hcalls, hnew, hstore1⟩ := ensureAccessForHostname_creates env
    ⟨client, if existing.accountID ≠ "" then existing.accountID else tunnelAccount tunnelCred⟩
    hfail binding.hostname binding.policyDef hid w hacct'
  have h0 : (liftExcept ((cm.getTunnelClient "default").mapError
      ("failed to get client for access: " ++ ·)) : Op _).run.run w = (.ok (client, tunnelCred), w) := by
    simp [hclient]
  have hmem1 : existing ∈ w1.store.rows := hstore1 ▸ hmem
  rw [updateAccess, run_bind_ok h0]
  dsimp only
  set R : ManagedResource :=
    { existing with containerID := binding.containerID, containerName := binding.containerName,
                    serviceName := binding.serviceName, agentID := binding.agentID,
                    cleanupEnabled := binding.cleanup }
  rw [run_bind_ok h1, run_bind, run_saveResource]
  obtain ⟨s', hs'⟩ := Store.save_ok_of_mem hmem1
    (r := R.stamp (if R.id = "" then "uuid-" ++ toString w1.fresh else R.id) env.now w1.clockTick) rfl
  simp only [hstore, Bool.false_eq_true, if_false, hs']
  refine ⟨app, new, _, rfl, hdomain, hnew, happs, hcalls, ?_⟩
  rw [← hstore1]
  exact Store.save_map_eq hmem1 (by rfl) hs' _ (by rfl)

/-- One hostname of the create-or-update loop of `ReconcileBindings`: the update of the hostname's
row, or the create when it has none. Returns the current map without the hostname. -/
def reconcileBinding (currentMap : GoMap ManagedResource) (hostname : String)
    (binding : ResolvedAccessBinding) : Op (GoMap ManagedResource) := do
  match currentMap.lookup hostname with
  | some existing =>
    match ← observe (updateAccess env cm existing binding) with
    | .error err => let _ ← observe (updateResourceError env existing.id .error err)
    | .ok _ =>
      if existing.lastError ≠ "" ∨ existing.status ≠ .active then
        let _ ← observe (updateResourceError env existing.id .active "")
    pure (currentMap.erase hostname)
  | none =>
    match ← observe (ensureAccess env cm binding) with
    | .error err => let _ ← saveResource env (accessErrorResource binding err)
    | .ok _ => pure ()
    pure currentMap

/-- The step of a hostname whose listed row has no application ID: the update path creates an
application that no row records, and the row ends active. -/
theorem reconcileBinding_unlinked (hfail : ∀ n, env.remoteFails n = false)
    (hstore : ∀ n, env.storeFails n = false) (m : GoMap ManagedResource)
    (binding : ResolvedAccessBinding) (existing : ManagedResource) (w : World)
    (hlookup : m.lookup binding.hostname = some existing) (hid : existing.accessAppID = "")
    (client : String) (tunnelCred : Option TunnelCredential)
    (hclient : cm.getTunnelClient "default" = .ok (client, tunnelCred))
    (hacct : tunnelAccount tunnelCred ≠ "") (hmem : existing ∈ w.store.rows) :
    ∃ app new w', (reconcileBinding env cm m binding.hostname binding).run.run w =
        (.ok (m.erase binding.hostname), w') ∧
      app.domain = binding.hostname ∧ .appCreate binding.hostname ∈ new ∧
      w'.cloud.apps = w.cloud.apps ++ [app] ∧ w'.calls = w.calls ++ new ∧
      w'.store.rows.map (fun r => (r.key, r.accessAppID)) =
        w.store.rows.map (fun r => (r.key, r.accessAppID)) ∧
      ∃ r, w'.store.find? existing.id = some r ∧ r.key = existing.key ∧ r.status = .active := by
  obtain ⟨app, new, w1, h1, hdomain, hnew, happs, hcalls, hcols⟩ :=
    updateAccess_without_app env cm hfail hstore existing binding w hid client tunnelCred hclient hacct hmem
  obtain ⟨r1, hr1, hr1eq⟩ := List.mem_map.1 (hcols ▸ List.mem_map_of_mem
    (fun r : ManagedResource => (r.id, r.key, r.accessAppID, r.status)) hmem)
  simp only [Prod.mk.injEq] at hr1eq
  obtain ⟨hid1, hkey1, -, hst1⟩ := hr1eq
  have happIDs : w1.store.rows.map (fun r => (r.key, r.accessAppID)) =
      w.store.rows.map (fun r => (r.key, r.accessAppID)) := by
    simpa [List.map_map, Function.comp_def] using congrArg (List.map fun t => (t.2.1, t.2.2.1)) hcols
  refine ⟨app, new, ?_⟩
  simp only [reconcileBinding, hlookup, run_bind, run_observe, h1]
  by_cases hc : existing.lastError ≠ "" ∨ existing.status ≠ .active
  · simp only [hc, if_true, run_bind, run_observe, run_updateResourceError, hstore,
      Bool.false_eq_true, if_false, run_pure]
    refine ⟨_, rfl, hdomain, hnew, happs, hcalls, ?_,
      { r1 with status := .active, lastError := "", updatedAt := env.now w1.clockTick }, ?_, hkey1, rfl⟩
    · rw [Store.setError_map _ _ _ _ _ (fun r => (r.key, r.accessAppID)) fun _ _ _ _ => rfl, happIDs]
    · rw [← hid1]
      exact Store.find?_of_mem (Store.mem_setError hr1 _ _ _)
  · simp only [hc, if_false, run_bind, run_pure]
    refine ⟨_, rfl, hdomain, hnew, happs, hcalls, happIDs, r1, hid1 ▸ Store.find?_of_mem hr1, hkey1, ?_⟩
    rw [hst1]
    exact not_not.1 (not_or.1 hc).2

/-- The orphan loop of `ReconcileBindings`: the rows of hostnames no longer bound. -/
def orphanAccess (currentMap : GoMap ManagedResource) : Op Unit := do
  for (_, resource) in currentMap do
    if resource.status ≠ .orphaned then
      let _ ← observe (updateResourceStatus env resource.id .orphaned)

/-- The orphan loop changes only the status of the rows it visits: it issues no call and leaves the
remote account, every key and application ID, and the row of any id it does not visit as they
were. -/
theorem orphanAccess_keeps (m : GoMap ManagedResource) (i : String) (hm : ∀ p ∈ m, p.2.id ≠ i) :
    Frame (Keeps fun w => (w.calls, w.cloud, w.store.rows.map (fun r => (r.key, r.accessAppID)),
      w.store.find? i)) (orphanAccess env m) := by
  refine (Frame.forIn ?_ _).bind fun _ => frame_pure _
  rintro ⟨_, resource⟩ hp _ w
  by_cases hs : resource.status = .orphaned
  · simp [hs, Keeps]
  · by_cases hf : env.storeFails w.storeTick
    · simp [hs, hf, Keeps, run_bind]
    · simp [hs, hf, Keeps, run_bind, Store.find?_setStatus _ (hm _ hp),
        Store.setStatus_map _ _ _ _ (fun r => (r.key, r.accessAppID)) fun _ _ _ => rfl]

/-- `AccessOperatorImpl.ReconcileBindings`. -/
def reconcileBindings (bindings : List ResolvedAccessBinding) : Op Unit := do
  let desiredMap := bindings.foldl (fun (m : GoMap ResolvedAccessBinding) b => m.insert b.hostname b) []
  let resources ← wrapErr "failed to list access resources: "
    (listResources env .accessApp [.active, .error, .orphaned])
  let currentMap ← desiredMap.foldlM (fun m (hostname, binding) => reconcileBinding env cm m hostname binding)
    (resources.foldl (fun (m : GoMap ManagedResource) r => m.insert r.hostname r) [])
  orphanAccess env currentMap

/-- The state a refused `EnsureAccess` leaves for a hostname: a listed access row, and no access
row of the hostname that records an application. -/
structure UnlinkedRow (hostname : String) (s : Store) : Prop where
  listed : ∃ r ∈ s.rows, r.resourceType = .accessApp ∧ r.hostname = hostname ∧
    r.status ∈ [.active, .error, .orphaned]
  unlinked : ∀ r ∈ s.rows, r.resourceType = .accessApp → r.hostname = hostname → r.accessAppID = ""

/-- Which rows of a hostname link an application is read off the column of keys and application
IDs. -/
theorem UnlinkedRow.unlinked_of_cols {hostname : String} {s s' : Store} (h : UnlinkedRow hostname s)
    (hcols : s'.rows.map (fun r => (r.key, r.accessAppID)) =
      s.rows.map (fun r => (r.key, r.accessAppID))) :
    ∀ r ∈ s'.rows, r.resourceType = .accessApp → r.hostname = hostname → r.accessAppID = "" := by
  intro r hr htype hhost
  obtain ⟨r0, hr0, hr0eq⟩ := List.mem_map.1 (hcols ▸ List.mem_map_of_mem
    (fun r : ManagedResource => (r.key, r.accessAppID)) hr)
  simp only [ManagedResource.key, Prod.mk.injEq] at hr0eq
  rw [← hr0eq.2]
  exact h.unlinked r0 hr0 (hr0eq.1.1.trans htype) (hr0eq.1.2.1.trans hhost)

/-- A pass over one binding whose hostname has an unlinked row: the pass creates an application
for the hostname, records its ID in no row, and leaves the hostname's row active and still
unlinked. -/
theorem reconcileBindings_unlinked (hfail : ∀ n, env.remoteFails n = false)
    (hstore : ∀ n, env.storeFails n = false) (binding : ResolvedAccessBinding) (w : World)
    (client : String) (tunnelCred : Option TunnelCredential)
    (hclient : cm.getTunnelClient "default" = .ok (client, tunnelCred))
    (hacct : tunnelAccount tunnelCred ≠ "") (hw : UnlinkedRow binding.hostname w.store) :
    ∃ app new, app.domain = binding.hostname ∧ .appCreate binding.hostname ∈ new ∧
      let w' := ((reconcileBindings env cm [binding]).run.run w).2
      w'.cloud.apps = w.cloud.apps ++ [app] ∧ w'.calls = w.calls ++ new ∧
      w'.store.rows.map (fun r => (r.key, r.accessAppID)) =
        w.store.rows.map (fun r => (r.key, r.accessAppID)) ∧
      (∃ r ∈ w'.store.rows, r.resourceType = .accessApp ∧ r.hostname = binding.hostname ∧
        r.status = .active) ∧ UnlinkedRow binding.hostname w'.store := by
  obtain ⟨row, hrow, htype, hhost, hstatus⟩ := hw.listed
  obtain ⟨resources, hlist, hlisted⟩ :=
    listResources_ok env .accessApp [.active, .error, .orphaned] w (hstore _)
  set current := resources.foldl (fun (m : GoMap ManagedResource) r => m.insert r.hostname r) []
  obtain ⟨existing, hlookup⟩ := Option.isSome_iff_exists.1 (hhost ▸
    GoMap.isSome_lookup_foldl_insert ManagedResource.hostname ((hlisted row).2 ⟨hrow, htype, hstatus⟩))
  obtain ⟨hexres, hexhost⟩ := GoMap.lookup_foldl_insert_eq_some hlookup
  obtain ⟨hexmem, hextype, -⟩ := (hlisted _).1 hexres
  obtain ⟨app, new, w2, h2, hdomain, hnew, happs, hcalls, hcols, r, hr, hrkey, hract⟩ :=
    reconcileBinding_unlinked env cm hfail hstore current binding existing
      { w with storeTick := w.storeTick + 1 } hlookup (hw.unlinked _ hexmem hextype hexhost) client
      tunnelCred hclient hacct hexmem
  have hids : ∀ p ∈ current.erase binding.hostname, p.2.id ≠ existing.id := by
    intro p hp heq
    obtain ⟨hp, hne⟩ := List.mem_filter.1 hp
    rcases GoMap.mem_foldl_insert _ _ _ hp with h | ⟨hpres, hpkey⟩
    · cases h
    · have := Store.eq_of_id_eq ((hlisted _).1 hpres).1 hexmem heq
      simp [hpkey, this, hexhost] at hne
  have hkeep := orphanAccess_keeps env _ _ hids w2
  simp only [Keeps, Prod.mk.injEq] at hkeep
  obtain ⟨hk1, hk2, hk3, hk4⟩ := hkeep
  have hrun : ((reconcileBindings env cm [binding]).run.run w).2 =
      ((orphanAccess env (current.erase binding.hostname)).run.run w2).2 := by
    rw [reconcileBindings]
    dsimp only
    rw [run_bind_ok (by rw [run_wrapErr, hlist]; rfl), show [binding].foldl (fun (m : GoMap ResolvedAccessBinding) b =>
      m.insert b.hostname b) [] = [(binding.hostname, binding)] from rfl]
    simp only [List.foldlM_cons, List.foldlM_nil, bind_pure]
    rw [run_bind_ok h2]
  have hr' : r ∈ ((reconcileBindings env cm [binding]).run.run w).2.store.rows :=
    hrun ▸ (Store.mem_of_find? (hk4.trans hr)).1
  simp only [ManagedResource.key, Prod.mk.injEq] at hrkey
  have hcols' := hrun ▸ hk3.trans hcols
  exact ⟨app, new, hdomain, hnew, by rw [hrun, hk2, happs], by rw [hrun, hk1, hcalls], hcols',
    ⟨r, hr', hrkey.1.trans hextype, hrkey.2.1.trans hexhost, hract⟩,
    ⟨⟨r, hr', hrkey.1.trans hextype, hrkey.2.1.trans hexhost, by simp [hract]⟩,
      hw.unlinked_of_cols hcols'⟩⟩

/-- `k` passes of `ReconcileBindings` over the same bindings. -/
def reconcileBindingsPasses (bindings : List ResolvedAccessBinding) : Nat → World → World
  | 0, w => w
  | k + 1, w => reconcileBindingsPasses bindings k ((reconcileBindings env cm bindings).run.run w).2

section Unlinked

variable (hfail : ∀ n, env.remoteFails n = false) (hstore : ∀ n, env.storeFails n = false)
  (binding : ResolvedAccessBinding) (client : String) (tunnelCred : Option TunnelCredential)
  (hclient : cm.getTunnelClient "default" = .ok (client, tunnelCred))
  (hacct : tunnelAccount tunnelCred ≠ "")

include hfail hstore hclient hacct

/-- Once a hostname's row is unlinked, every later pass creates an application for the hostname,
whatever applications its domain already has, and leaves the row active. -/
theorem reconcileBindings_recreates_unlinked (k : Nat) (w : World)
    (hw : UnlinkedRow binding.hostname w.store) :
    let w' := reconcileBindingsPasses env cm [binding] k w
    w.calls.count (.appCreate binding.hostname) + k ≤ w'.calls.count (.appCreate binding.hostname) ∧
      (0 < k → ∃ r ∈ w'.store.rows, r.resourceType = .accessApp ∧
        r.hostname = binding.hostname ∧ r.status = .active) := by
  induction k generalizing w with
  | zero => exact ⟨le_refl _, fun h => absurd h (lt_irrefl 0)⟩
  | succ k ih =>
    obtain ⟨_, new, -, hnew, -, hcalls, -, hactive, hw'⟩ :=
      reconcileBindings_unlinked env cm hfail hstore binding w client tunnelCred hclient hacct hw
    obtain ⟨hcount, hrow⟩ := ih _ hw'
    refine ⟨?_, fun _ => ?_⟩
    · have : 0 < new.count (.appCreate binding.hostname) := List.count_pos_iff.2 hnew
      simp only [reconcileBindingsPasses, hcalls, List.count_append] at hcount ⊢
      omega
    · cases k with
      | zero => exact hactive
      | succ k => exact hrow (Nat.succ_pos k)

/-- Once a hostname's row is unlinked, every pass adds an application for the hostname and no pass
records one: the applications of the domain grow by one per pass while every row keeps its
application ID. -/
theorem reconcileBindings_accumulates_untracked_apps (k : Nat) (w : World)
    (hw : UnlinkedRow binding.hostname w.store) :
    let w' := reconcileBindingsPasses env cm [binding] k w
    (w'.cloud.apps.filter (·.domain = binding.hostname)).length =
        (w.cloud.apps.filter (·.domain = binding.hostname)).length + k ∧
      w'.store.rows.map (·.accessAppID) = w.store.rows.map (·.accessAppID) := by
  induction k generalizing w with
  | zero => exact ⟨rfl, rfl⟩
  | succ k ih =>
    obtain ⟨app, -, hdomain, -, happs, -, hcols, -, hw'⟩ :=
      reconcileBindings_unlinked env cm hfail hstore binding w client tunnelCred hclient hacct hw
    obtain ⟨hlen, hids⟩ := ih _ hw'
    simp only [reconcileBindingsPasses] at hlen hids ⊢
    rw [hlen, happs, List.filter_append, List.length_append]
    refine ⟨by simp [hdomain]; omega, hids.trans ?_⟩
    simpa [List.map_map, Function.comp_def] using congrArg (List.map (·.2)) hcols

end Unlinked

/-- A binding of the template `sso` to `app.example.com`. -/
def ssoBinding : ResolvedAccessBinding :=
  { hostname := "app.example.com", policyDef := { name := "sso" }, containerID := "c3",
    containerName := "app", serviceName := "app", agentID := "", cleanup := true, credential := "" }

/-- `exampleAccount` with an application for `app.example.com` that labelgate did not create. -/
def foreignAppAccount : World :=
  { exampleAccount with
    cloud := { exampleAccount.cloud with apps := [⟨"app-foreign", "app.example.com", "legacy", "24h", []⟩] } }

/-- The world after a first pass over `ssoBinding`, whose `EnsureAccess` refuses to overwrite the
foreign application. -/
def refusedAccess : World :=
  ((reconcileBindings (exampleEnv (fun _ => false) 100) singleAccountCredentials [ssoBinding]).run.run
    foreignAppAccount).2

/-- The row that pass saves. -/
def refusedRow : ManagedResource :=
  { accessErrorResource ssoBinding ("access application \"legacy\" (ID: app-foreign) already exists " ++
      "for hostname app.example.com, not managed by labelgate â€” refusing to overwrite")
    with id := "uuid-0", createdAt := 100, updatedAt := 100 }

theorem refusedAccess_unlinked : UnlinkedRow ssoBinding.hostname refusedAccess.store := by
  have hrows : refusedAccess.store.rows = [refusedRow] := by decide
  exact ⟨⟨refusedRow, hrows ▸ List.mem_singleton_self _, rfl, rfl, by decide⟩,
    fun r hr _ _ => by rw [hrows, List.mem_singleton] at hr; exact hr ▸ rfl⟩

/-- The refused pass leaves the foreign application and an error row; the two passes after it each
create an application for `app.example.com`. -/
theorem refusedAccess_recreated :
    foreignAppAccount.cloud.apps.map (·.domain) = ["app.example.com"] ∧
      refusedAccess.store.rows = [refusedRow] ∧
      let w' := reconcileBindingsPasses (exampleEnv (fun _ => false) 200) singleAccountCredentials
        [ssoBinding] 2 refusedAccess
      refusedAccess.calls.count (.appCreate ssoBinding.hostname) + 2 ≤
          w'.calls.count (.appCreate ssoBinding.hostname) ∧
        (0 < 2 → ∃ r ∈ w'.store.rows, r.resourceType = .accessApp ∧
          r.hostname = ssoBinding.hostname ∧ r.status = .active) :=
  ⟨rfl, by decide, reconcileBindings_recreates_unlinked (exampleEnv (fun _ => false) 200)
    singleAccountCredentials (fun _ => rfl) (fun _ => rfl) ssoBinding _ _ rfl (by decide) 2 refusedAccess
    refusedAccess_unlinked⟩

/-- Over the same two passes, two applications for `app.example.com` appear and no row records
either. -/
theorem refusedAccess_untracked_apps :
    let w' := reconcileBindingsPasses (exampleEnv (fun _ => false) 200) singleAccountCredentials
      [ssoBinding] 2 refusedAccess
    (w'.cloud.apps.filter (·.domain = ssoBinding.hostname)).length =
        (refusedAccess.cloud.apps.filter (·.domain = ssoBinding.hostname)).length + 2 ∧
      w'.store.rows.map (·.accessAppID) = refusedAccess.store.rows.map (·.accessAppID) :=
  reconcileBindings_accumulates_untracked_apps (exampleEnv (fun _ => false) 200)
    singleAccountCredentials (fun _ => rfl) (fun _ => rfl) ssoBinding _ _ rfl (by decide) 2 refusedAccess
    refusedAccess_unlinked


/-- `RemoveAccess` (the operator's `Delete`): the application and its policies, then the row; a
row without an application ID is only dropped. -/
def removeAccess (resource : ManagedResource) : Op Unit := do
  if resource.accessAppID = "" then
    deleteResource env resource.id
  else
    let (client, tunnelCred) ← liftExcept ((cm.getTunnelClient "default").mapError
      ("failed to get client for access: " ++ ·))
    let accountID := if resource.accountID ≠ "" then resource.accountID else tunnelAccount tunnelCred
    wrapErr "failed to delete access app: "
      (deleteAccessApplication env ⟨client, accountID⟩ resource.accessAppID)
    deleteResource env resource.id

end Operator

end Labelgate
