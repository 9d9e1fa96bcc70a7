import Labelgate.Reconciler.Pass

/-!
# What a pass does to the ledger

The ledger loses rows in one place only: the orphan scheduler at the end of a pass. The Cloudflare
clients never touch the ledger. The three operators write rows through `SaveResource`,
`UpdateResourceStatus` and `UpdateResourceError`, which stamp the row they write with a reading of
the clock, and never delete one (`RowsKept`). The scheduler deletes only the rows it lists
(`RowsDropped`): orphans with `cleanup_enabled` last updated before the remove delay, then orphans
without it last updated before the orphan TTL, each against its own reading of the clock. A row
the operators rewrote in the pass carries a reading of the pass; when the readings of a pass lie
within the remove delay (and the orphan TTL, when set) of each other, such a row is too recent
for either listing, so the pass drops only rows that were expired orphans as they stood when it
began. With a remove delay of zero and a clock that moves, a row orphaned by the pass can go in
the same pass.
-/

namespace Labelgate

/-! ## The Cloudflare clients never touch the ledger

They do not read the clock either. The DNS client moves the id counter only forward: it mints ids
for records and never takes one back. -/

/-- A step that leaves the ledger and the clock and moves the id counter only forward. -/
def StoreFresh (w w' : World) : Prop :=
  w'.store = w.store ∧ w.fresh ≤ w'.fresh ∧ w'.clockTick = w.clockTick

instance : IsRefl World StoreFresh := ⟨fun _ => ⟨rfl, le_refl _, rfl⟩⟩

instance : IsTrans World StoreFresh :=
  ⟨fun _ _ _ h₁ h₂ => ⟨h₂.1.trans h₁.1, h₁.2.1.trans h₂.2.1, h₂.2.2.trans h₁.2.2⟩⟩

section Clients

variable (env : Env)

theorem storeFresh_remoteCall : Frame StoreFresh (remoteCall env) := fun w => by
  simp [StoreFresh]

theorem storeFresh_issue (c : Call) : Frame StoreFresh (issue env c) := fun w => by
  simp [StoreFresh]

theorem storeFresh_freshID (pfx : String) : Frame StoreFresh (freshID pfx) := fun _ =>
  ⟨rfl, Nat.le_succ _, rfl⟩

theorem storeFresh_modifyCloud (f : Cloud → Cloud) : Frame StoreFresh (modifyCloud f) := fun _ =>
  ⟨rfl, le_refl _, rfl⟩

theorem storeFresh_getZoneID (hostname : String) : Frame StoreFresh (getZoneID env hostname) := by
  unfold getZoneID; dsimp only
  with_reducible repeat' first
    | apply Frame.bind
    | apply Frame.ite
    | apply Frame.wrapErr
    | intro _
    | exact frame_pure _
    | exact frame_throw _
    | exact frame_get
    | exact storeFresh_remoteCall env

theorem storeFresh_getRecordByName (hostname type : String) :
    Frame StoreFresh (getRecordByName env hostname type) := by
  unfold getRecordByName
  with_reducible repeat' first
    | apply Frame.bind
    | apply Frame.wrapErr
    | intro _
    | exact frame_pure _
    | exact frame_get
    | exact storeFresh_remoteCall env
    | exact storeFresh_getZoneID env _

theorem storeFresh_createRecord (record : DNSRecord) : Frame StoreFresh (createRecord env record) := by
  unfold createRecord; dsimp only
  with_reducible repeat' first
    | apply Frame.bind
    | apply Frame.ite
    | apply Frame.wrapErr
    | intro _
    | exact frame_pure _
    | exact frame_throw _
    | exact frame_get
    | exact frame_liftExcept _
    | exact storeFresh_issue env _
    | exact storeFresh_freshID _
    | exact storeFresh_getZoneID env _
    | exact storeFresh_modifyCloud _

theorem storeFresh_updateRecord (record : DNSRecord) : Frame StoreFresh (updateRecord env record) := by
  unfold updateRecord; dsimp only
  with_reducible repeat' first
    | apply Frame.bind
    | apply Frame.ite
    | apply Frame.wrapErr
    | intro _
    | exact frame_pure _
    | exact frame_throw _
    | exact frame_get
    | exact frame_liftExcept _
    | exact storeFresh_issue env _
    | exact storeFresh_getZoneID env _
    | exact storeFresh_modifyCloud _

theorem storeFresh_deleteRecord (zoneID recordID : String) :
    Frame StoreFresh (deleteRecord env zoneID recordID) := by
  unfold deleteRecord
  with_reducible repeat' first
    | apply Frame.bind
    | apply Frame.ite
    | apply Frame.wrapErr
    | intro _
    | exact frame_pure _
    | exact frame_throw _
    | exact frame_get
    | exact storeFresh_issue env _
    | exact storeFresh_modifyCloud _

theorem Frame.toStoreKeeps {α : Type} {x : Op α} (hx : Frame StoreFresh x) :
    Frame (Keeps fun w => w.store) x :=
  Frame.mono (fun _ _ h => h.1) hx

theorem storeKeeps_getZoneID (hostname : String) :
    Frame (Keeps fun w => w.store) (getZoneID env hostname) :=
  (storeFresh_getZoneID env hostname).toStoreKeeps

theorem storeKeeps_getRecordByName (hostname type : String) :
    Frame (Keeps fun w => w.store) (getRecordByName env hostname type) :=
  (storeFresh_getRecordByName env hostname type).toStoreKeeps

theorem storeKeeps_createRecord (record : DNSRecord) :
    Frame (Keeps fun w => w.store) (createRecord env record) :=
  (storeFresh_createRecord env record).toStoreKeeps

theorem storeKeeps_updateRecord (record : DNSRecord) :
    Frame (Keeps fun w => w.store) (updateRecord env record) :=
  (storeFresh_updateRecord env record).toStoreKeeps

theorem storeKeeps_deleteRecord (zoneID recordID : String) :
    Frame (Keeps fun w => w.store) (deleteRecord env zoneID recordID) :=
  (storeFresh_deleteRecord env zoneID recordID).toStoreKeeps

section Tunnel

variable (t : TunnelClient)

theorem storeFresh_getTunnelConfiguration (tunnelID : String) :
    Frame StoreFresh (getTunnelConfiguration env t tunnelID) := by
  unfold getTunnelConfiguration
  with_reducible repeat' first
    | apply Frame.bind
    | apply Frame.ite
    | apply Frame.wrapErr
    | intro _
    | exact frame_pure _
    | exact frame_throw _
    | exact frame_get
    | exact storeFresh_remoteCall env

theorem storeFresh_updateTunnelConfiguration (tunnelID : String) (ingresses : List TunnelIngress) :
    Frame StoreFresh (updateTunnelConfiguration env t tunnelID ingresses) := by
  unfold updateTunnelConfiguration
  with_reducible repeat' first
    | apply Frame.bind
    | apply Frame.ite
    | apply Frame.wrapErr
    | intro _
    | exact frame_pure _
    | exact frame_throw _
    | exact storeFresh_issue env _
    | exact storeFresh_modifyCloud _

theorem storeFresh_removeIngressRule (tunnelID hostname : String) :
    Frame StoreFresh (removeIngressRule env t tunnelID hostname) := by
  unfold removeIngressRule
  with_reducible repeat' first
    | apply Frame.bind
    | apply Frame.ite
    | apply Frame.wrapErr
    | intro _
    | exact frame_pure _
    | exact storeFresh_getTunnelConfiguration env t _
    | exact storeFresh_updateTunnelConfiguration env t _ _

end Tunnel

section Access

variable (a : AccessClient)

theorem storeFresh_findExistingAccessApp (hostname : String) :
    Frame StoreFresh (findExistingAccessApp env a hostname) := by
  unfold findExistingAccessApp
  with_reducible repeat' first
    | apply Frame.bind
    | apply Frame.ite
    | apply Frame.wrapErr
    | intro _
    | split
    | exact frame_pure _
    | exact frame_throw _
    | exact frame_get
    | exact storeFresh_remoteCall env

theorem storeFresh_createReusablePolicy (policy : AccessPolicy) (index : Nat) :
    Frame StoreFresh (createReusablePolicy env policy index) := by
  unfold createReusablePolicy
  with_reducible repeat' first
    | apply Frame.bind
    | apply Frame.wrapErr
    | intro _
    | exact frame_pure _
    | exact storeFresh_issue env _
    | exact storeFresh_freshID _
    | exact storeFresh_modifyCloud _

theorem storeFresh_createPolicyLinks (hostname : String) :
    ∀ policies, Frame StoreFresh (createPolicyLinks env hostname policies)
  | [] => frame_pure _
  | (_, policy) :: rest =>
    (Frame.wrapErr _ (storeFresh_createReusablePolicy env policy _)).bind fun _ =>
      (storeFresh_createPolicyLinks hostname rest).bind fun _ => frame_pure _

theorem storeFresh_createApplication (hostname appName sessionDuration : String)
    (links : List PolicyLink) :
    Frame StoreFresh (createApplication env hostname appName sessionDuration links) := by
  unfold createApplication
  with_reducible repeat' first
    | apply Frame.bind
    | apply Frame.wrapErr
    | intro _
    | exact frame_pure _
    | exact storeFresh_issue env _
    | exact storeFresh_freshID _
    | exact storeFresh_modifyCloud _

theorem storeFresh_updateApplication (appID hostname appName sessionDuration : String)
    (links : List PolicyLink) :
    Frame StoreFresh (updateApplication env appID hostname appName sessionDuration links) := by
  unfold updateApplication
  with_reducible repeat' first
    | apply Frame.bind
    | apply Frame.ite
    | apply Frame.wrapErr
    | intro _
    | exact frame_pure _
    | exact frame_throw _
    | exact frame_get
    | exact storeFresh_issue env _
    | exact storeFresh_modifyCloud _

theorem storeFresh_cleanupOldAppPolicies (appID : String) :
    Frame StoreFresh (cleanupOldAppPolicies env appID) := by
  unfold cleanupOldAppPolicies
  with_reducible repeat' first
    | apply Frame.bind
    | apply Frame.ite
    | apply Frame.forIn
    | apply Frame.observe
    | intro _
    | split
    | exact frame_pure _
    | exact frame_throw _
    | exact frame_get
    | exact storeFresh_remoteCall env
    | exact storeFresh_issue env _
    | exact storeFresh_modifyCloud _

theorem storeFresh_ensureAccessForHostname (hostname : String) (policyDef : AccessPolicyDef)
    (existingAppID : String) :
    Frame StoreFresh (ensureAccessForHostname env a hostname policyDef existingAppID) := by
  unfold ensureAccessForHostname
  with_reducible repeat' first
    | apply Frame.bind
    | apply Frame.ite
    | intro _
    | exact frame_pure _
    | exact frame_throw _
    | exact storeFresh_createPolicyLinks env _ _
    | exact storeFresh_cleanupOldAppPolicies env _
    | exact storeFresh_updateApplication env _ _ _ _ _
    | exact storeFresh_createApplication env _ _ _ _

theorem storeFresh_deleteAccessApplication (appID : String) :
    Frame StoreFresh (deleteAccessApplication env a appID) := by
  unfold deleteAccessApplication
  with_reducible repeat' first
    | apply Frame.bind
    | apply Frame.ite
    | apply Frame.wrapErr
    | intro _
    | exact frame_pure _
    | exact frame_throw _
    | exact frame_get
    | exact storeFresh_issue env _
    | exact storeFresh_modifyCloud _
    | exact storeFresh_cleanupOldAppPolicies env _

end Access

end Clients

/-! ## The operators keep every row -/

/-- Every row of `w` is still in the ledger of `w'` under its id, as it was or rewritten with a
time the clock read in between; the clock only moves forward. -/
def RowsKept (env : Env) (w w' : World) : Prop :=
  w.clockTick ≤ w'.clockTick ∧ ∀ r ∈ w.store.rows, ∃ r' ∈ w'.store.rows, r'.id = r.id ∧
    (r' = r ∨ env.ReadBetween w.clockTick w'.clockTick r'.updatedAt)

instance (env : Env) : IsRefl World (RowsKept env) :=
  ⟨fun _ => ⟨le_refl _, fun r hr => ⟨r, hr, rfl, .inl rfl⟩⟩⟩

instance (env : Env) : IsTrans World (RowsKept env) := ⟨fun _ _ _ h₁ h₂ => ⟨h₁.1.trans h₂.1, fun r hr => by
  obtain ⟨r₁, hr₁, hid₁, h₁'⟩ := h₁.2 r hr
  obtain ⟨r₂, hr₂, hid₂, h₂'⟩ := h₂.2 r₁ hr₁
  refine ⟨r₂, hr₂, hid₂.trans hid₁, ?_⟩
  rcases h₂' with rfl | h₂'
  · exact h₁'.imp_right (·.widen le_rfl h₂.1)
  · exact .inr (h₂'.widen h₁.1 le_rfl)⟩⟩

/-- A step that leaves the ledger and moves the clock only forward keeps every row. -/
theorem RowsKept.of_store_eq {env : Env} {w w' : World} (hs : w'.store = w.store)
    (hc : w.clockTick ≤ w'.clockTick) : RowsKept env w w' :=
  ⟨hc, fun r hr => ⟨r, by rw [hs]; exact hr, rfl, .inl rfl⟩⟩

/-- A write that keeps every row under its id, as it was or with the update time `t`, keeps
every row when `t` was read in between. -/
theorem RowsKept.of_rewrite {env : Env} {w w' : World} {t : Int} (hc : w.clockTick ≤ w'.clockTick)
    (ht : env.ReadBetween w.clockTick w'.clockTick t)
    (h : ∀ r ∈ w.store.rows, ∃ r' ∈ w'.store.rows, r'.id = r.id ∧ (r' = r ∨ r'.updatedAt = t)) :
    RowsKept env w w' :=
  ⟨hc, fun r hr => (h r hr).imp fun _ ⟨hr', hid, h'⟩ =>
    ⟨hr', hid, h'.imp_right fun e => by rw [e]; exact ht⟩⟩

theorem RowsKept.of_storeFresh {env : Env} {w w' : World} (h : StoreFresh w w') : RowsKept env w w' :=
  RowsKept.of_store_eq h.1 h.2.2.ge

/-- `UpdateResourceStatus` rewrites the row of its id at `now` and keeps the others. -/
theorem Store.setStatus_kept (s : Store) (id : String) (status : ResourceStatus) (now : Int) :
    ∀ r ∈ s.rows, ∃ r' ∈ (s.setStatus id status now).rows, r'.id = r.id ∧ (r' = r ∨ r'.updatedAt = now) :=
  fun r hr => ⟨_, List.mem_map_of_mem _ hr, by split <;> rfl, by split <;> simp⟩

theorem Store.setError_kept (s : Store) (id : String) (status : ResourceStatus) (lastError : String)
    (now : Int) : ∀ r ∈ s.rows, ∃ r' ∈ (s.setError id status lastError now).rows,
      r'.id = r.id ∧ (r' = r ∨ r'.updatedAt = now) :=
  fun r hr => ⟨_, List.mem_map_of_mem _ hr, by split <;> rfl, by split <;> simp⟩

/-- An upsert rewrites the row of the saved key with the saved row's update time, or appends the
saved row: every row stays under its id. -/
theorem Store.save_kept {s s' : Store} {r : ManagedResource} (h : s.save r = .ok s') :
    ∀ row ∈ s.rows, ∃ row' ∈ s'.rows, row'.id = row.id ∧ (row' = row ∨ row'.updatedAt = r.updatedAt) := by
  intro row hrow
  unfold save at h
  split at h
  · cases h
    refine ⟨_, List.mem_map_of_mem _ hrow, by split <;> rfl, ?_⟩
    split
    · exact .inr rfl
    · exact .inl rfl
  · split at h
    · cases h
    · cases h
      exact ⟨row, List.mem_append_left _ hrow, rfl, .inl rfl⟩

theorem Frame.toRowsKept {α : Type} {env : Env} {x : Op α} (hx : Frame StoreFresh x) :
    Frame (RowsKept env) x :=
  Frame.mono (fun _ _ => RowsKept.of_storeFresh) hx

section Operators

variable (env : Env) (cm : CredentialManager)

theorem storeFresh_listResources (t : ResourceType) (statuses : List ResourceStatus) :
    Frame StoreFresh (listResources env t statuses) := fun w => by
  simp [StoreFresh]

theorem rowsKept_saveResource (r : ManagedResource) :
    Frame (RowsKept env) (saveResource env r) := fun w => by
  rw [run_saveResource]
  dsimp only
  have hc : w.clockTick ≤ w.clockTick + r.stampReads := Nat.le_add_right _ _
  split
  · exact RowsKept.of_store_eq rfl hc
  · split
    · exact RowsKept.of_rewrite hc (r.stamp_updatedAt env _ _) (Store.save_kept ‹_›)
    · exact RowsKept.of_store_eq rfl hc

theorem rowsKept_updateResourceStatus (id : String) (status : ResourceStatus) :
    Frame (RowsKept env) (updateResourceStatus env id status) := fun w => by
  rw [run_updateResourceStatus]
  split
  · exact RowsKept.of_store_eq rfl (Nat.le_succ _)
  · exact RowsKept.of_rewrite (Nat.le_succ _) (env.readBetween_self _) (Store.setStatus_kept _ _ _ _)

theorem rowsKept_updateResourceError (id : String) (status : ResourceStatus) (lastError : String) :
    Frame (RowsKept env) (updateResourceError env id status lastError) := fun w => by
  rw [run_updateResourceError]
  split
  · exact RowsKept.of_store_eq rfl (Nat.le_succ _)
  · exact RowsKept.of_rewrite (Nat.le_succ _) (env.readBetween_self _) (Store.setError_kept _ _ _ _ _)

theorem storeFresh_resolveTarget (target : String) (container : ContainerInfo) :
    Frame StoreFresh (resolveTarget env target container) := by
  unfold resolveTarget
  with_reducible repeat' first
    | split
    | exact frame_pure _
    | exact frame_throw _
    | exact frame_liftExcept _

theorem storeKeeps_resolveTarget (target : String) (container : ContainerInfo) :
    Frame (Keeps fun w => w.store) (resolveTarget env target container) :=
  (storeFresh_resolveTarget env target container).toStoreKeeps

theorem rowsKept_createDNSRecord (container : ContainerInfo) (service : DNSService) :
    Frame (RowsKept env) (createDNSRecord env cm container service) := by
  unfold createDNSRecord
  with_reducible repeat' first
    | apply Frame.bind
    | apply Frame.ite
    | apply Frame.wrapErr
    | apply Frame.observe
    | intro _
    | split
    | exact frame_pure _
    | exact frame_throw _
    | exact frame_liftExcept _
    | exact rowsKept_saveResource env _
    | exact Frame.toRowsKept (storeFresh_resolveTarget env _ _)
    | exact Frame.toRowsKept (storeFresh_getZoneID env _)
    | exact Frame.toRowsKept (storeFresh_createRecord env _)
    | exact Frame.toRowsKept (storeFresh_getRecordByName env _ _)
    | exact Frame.toRowsKept (storeFresh_deleteRecord env _ _)

theorem rowsKept_updateDNSRecord (resource : ManagedResource) (service : DNSService) :
    Frame (RowsKept env) (updateDNSRecord env cm resource service) := by
  unfold updateDNSRecord
  with_reducible repeat' first
    | apply Frame.bind
    | apply Frame.ite
    | apply Frame.observe
    | intro _
    | split
    | exact frame_pure _
    | exact frame_throw _
    | exact frame_liftExcept _
    | exact rowsKept_saveResource env _
    | exact Frame.toRowsKept (storeFresh_getRecordByName env _ _)
    | exact Frame.toRowsKept (storeFresh_updateRecord env _)

theorem rowsKept_reconcileDNSKey (current : Option ManagedResource) (d : DesiredDNS) :
    Frame (RowsKept env) (reconcileDNSKey env cm current d) := by
  unfold reconcileDNSKey
  with_reducible repeat' first
    | apply Frame.bind
    | apply Frame.ite
    | apply Frame.map
    | apply Frame.observe
    | intro _
    | split
    | exact frame_pure _
    | exact rowsKept_saveResource env _
    | exact rowsKept_updateResourceError env _ _ _
    | exact rowsKept_createDNSRecord env cm _ _
    | exact rowsKept_updateDNSRecord env cm _ _

theorem rowsKept_reconcileDNS (desired : List ParsedContainer) :
    Frame (RowsKept env) (reconcileDNS env cm desired) := by
  unfold reconcileDNS
  with_reducible repeat' first
    | apply Frame.bind
    | apply Frame.ite
    | apply Frame.forIn
    | apply Frame.wrapErr
    | apply Frame.observe
    | intro _
    | split
    | exact frame_pure _
    | exact rowsKept_updateResourceStatus env _ _
    | exact rowsKept_reconcileDNSKey env cm _ _
    | exact Frame.toRowsKept (storeFresh_listResources env _ _)

theorem storeFresh_ensureTunnelDNSRecords (tunnelID : String) (desired : GoMap DesiredTunnel) :
    Frame StoreFresh (ensureTunnelDNSRecords env cm tunnelID desired) := by
  unfold ensureTunnelDNSRecords; dsimp only
  with_reducible repeat' first
    | apply Frame.bind
    | apply Frame.ite
    | apply Frame.forIn
    | apply Frame.observe
    | intro _
    | split
    | exact frame_pure _
    | exact storeFresh_getRecordByName env _ _
    | exact storeFresh_updateRecord env _
    | exact storeFresh_createRecord env _

theorem storeFresh_pushIngresses (t : TunnelClient) (tunnelID : String) (ingresses : List TunnelIngress) :
    Frame StoreFresh (pushIngresses env t tunnelID ingresses) := by
  unfold pushIngresses
  with_reducible repeat' first
    | apply Frame.bind
    | apply Frame.ite
    | apply Frame.observe
    | intro _
    | split
    | exact frame_pure _
    | exact storeFresh_getTunnelConfiguration env t _
    | exact storeFresh_updateTunnelConfiguration env t _ _

theorem rowsKept_recordTunnel (tunnelID : String) (desiredMap : GoMap DesiredTunnel)
    (byTunnel : GoMap (GoMap ManagedResource)) (pushed : Except String Unit) :
    Frame (RowsKept env) (recordTunnel env cm tunnelID desiredMap byTunnel pushed) := by
  unfold recordTunnel; dsimp only
  with_reducible repeat' first
    | apply Frame.bind
    | apply Frame.ite
    | apply Frame.forIn
    | apply Frame.observe
    | intro _
    | split
    | exact frame_pure _
    | exact rowsKept_saveResource env _
    | exact rowsKept_updateResourceError env _ _ _
    | exact rowsKept_updateResourceStatus env _ _
    | exact Frame.toRowsKept (storeFresh_ensureTunnelDNSRecords env cm _ _)

theorem rowsKept_reconcileTunnelOp (desired : List ParsedContainer) :
    Frame (RowsKept env) (reconcileTunnelOp env cm desired) := by
  unfold reconcileTunnelOp orphanTunnels reconcileGroup reconcileTunnel
  with_reducible repeat' first
    | apply Frame.bind
    | apply Frame.ite
    | apply Frame.forIn
    | apply Frame.foldlM
    | apply Frame.map
    | apply Frame.wrapErr
    | apply Frame.observe
    | intro _
    | split
    | exact frame_pure _
    | exact rowsKept_updateResourceStatus env _ _
    | exact rowsKept_recordTunnel env cm _ _ _ _
    | exact Frame.toRowsKept (storeFresh_pushIngresses env _ _ _)
    | exact Frame.toRowsKept (storeFresh_listResources env _ _)

theorem rowsKept_reconcileBindings (bindings : List ResolvedAccessBinding) :
    Frame (RowsKept env) (reconcileBindings env cm bindings) := by
  unfold reconcileBindings orphanAccess reconcileBinding ensureAccess updateAccess
  with_reducible repeat' first
    | apply Frame.bind
    | apply Frame.ite
    | apply Frame.forIn
    | apply Frame.foldlM
    | apply Frame.wrapErr
    | apply Frame.observe
    | intro _
    | split
    | exact frame_pure _
    | exact frame_throw _
    | exact frame_liftExcept _
    | exact rowsKept_saveResource env _
    | exact rowsKept_updateResourceError env _ _ _
    | exact rowsKept_updateResourceStatus env _ _
    | exact Frame.toRowsKept (storeFresh_findExistingAccessApp env _ _)
    | exact Frame.toRowsKept (storeFresh_ensureAccessForHostname env _ _ _ _)
    | exact Frame.toRowsKept (storeFresh_listResources env _ _)

end Operators

/-! ## The scheduler deletes only the rows it lists -/

/-- The ledger of `w'` is that of `w` less some rows satisfying `P`, and the clock has only moved
forward. -/
def RowsDropped (P : ManagedResource → Prop) (w w' : World) : Prop :=
  w.clockTick ≤ w'.clockTick ∧ w'.store.rows.Sublist w.store.rows ∧
    ∀ r ∈ w.store.rows, r ∈ w'.store.rows ∨ P r

instance (P : ManagedResource → Prop) : IsRefl World (RowsDropped P) :=
  ⟨fun _ => ⟨le_refl _, .refl _, fun _ h => .inl h⟩⟩

instance (P : ManagedResource → Prop) : IsTrans World (RowsDropped P) :=
  ⟨fun _ _ _ h₁ h₂ => ⟨h₁.1.trans h₂.1, h₂.2.1.trans h₁.2.1,
    fun r hr => (h₁.2.2 r hr).elim (h₂.2.2 r) .inr⟩⟩

theorem RowsDropped.mono {P Q : ManagedResource → Prop} {w w' : World}
    (hPQ : ∀ r ∈ w.store.rows, P r → Q r) (h : RowsDropped P w w') : RowsDropped Q w w' :=
  ⟨h.1, h.2.1, fun r hr => (h.2.2 r hr).imp_right (hPQ r hr)⟩

theorem Frame.toRowsDropped {α : Type} {P : ManagedResource → Prop} {x : Op α}
    (hx : Frame StoreFresh x) : Frame (RowsDropped P) x :=
  Frame.mono (fun _ _ h => ⟨h.2.2.ge, by rw [h.1], fun _ hr => .inl (by rw [h.1]; exact hr)⟩) hx

section Scheduler

variable (env : Env) (cfg : ReconcilerConfig)

theorem rowsDropped_deleteResource (id : String) :
    Frame (RowsDropped fun r => r.id = id) (deleteResource env id) := fun w => by
  rw [run_deleteResource]
  split
  · exact refl_of (RowsDropped _) w
  · refine ⟨le_refl _, List.filter_sublist _, fun r hr => ?_⟩
    by_cases h : r.id = id
    · exact .inr h
    · exact .inl (List.mem_filter.2 ⟨hr, by simpa using h⟩)

/-- Each kind's `Delete` drops at most the row of the resource it deletes. -/
theorem rowsDropped_deleteOrphan (resource : ManagedResource) :
    Frame (RowsDropped fun r => r.id = resource.id) (deleteOrphan env cfg resource) := by
  unfold deleteOrphan deleteDNSRecord removeIngressRuleOp removeAccess; dsimp only
  with_reducible repeat' first
    | apply Frame.bind
    | apply Frame.ite
    | apply Frame.wrapErr
    | apply Frame.observe
    | intro _
    | split
    | exact frame_pure _
    | exact frame_throw _
    | exact frame_liftExcept _
    | exact rowsDropped_deleteResource env _
    | exact Frame.toRowsDropped (storeFresh_deleteRecord env _ _)
    | exact Frame.toRowsDropped (storeFresh_removeIngressRule env _ _ _)
    | exact Frame.toRowsDropped (storeFresh_deleteAccessApplication env _ _)

/-- An id of a listing of the ledger is the id of a listed row: ids are unique. -/
theorem Store.id_mem_listing_iff {s : Store} {p : ManagedResource → Bool} {l : List ManagedResource}
    (hl : l.Perm (s.rows.filter p)) {r : ManagedResource} (hr : r ∈ s.rows) :
    r.id ∈ l.map (·.id) ↔ p r = true := by
  constructor
  · intro h
    obtain ⟨a, ha, hid⟩ := List.mem_map.1 h
    obtain ⟨ha, hp⟩ := List.mem_filter.1 (hl.mem_iff.1 ha)
    rwa [← Store.eq_of_id_eq ha hr hid]
  · exact fun hp => List.mem_map_of_mem _ (hl.mem_iff.2 (List.mem_filter.2 ⟨hr, hp⟩))

/-- A loop whose body drops at most the row of the element it visits drops only rows of the
visited elements' ids. -/
theorem rowsDropped_forIn {f : ManagedResource → PUnit → Op (ForInStep PUnit)}
    (resources : List ManagedResource) (hf : ∀ a b, Frame (RowsDropped fun r => r.id = a.id) (f a b)) :
    Frame (RowsDropped fun r => r.id ∈ resources.map (·.id)) (forIn resources PUnit.unit f) :=
  Frame.forIn (fun a ha b => Frame.mono (fun _ _ =>
    RowsDropped.mono fun _ _ h => h ▸ List.mem_map_of_mem _ ha) (hf a b)) _

/-- Both schedulers list orphans and run one deletion per listed row: the rows that go are
listed ones, so they satisfy the listing's filter. -/
theorem rowsDropped_orphanLoop (cleanup : Bool) (olderThan : Int) (op : ManagedResource → Op Unit)
    (hop : ∀ resource, Frame (RowsDropped fun r => r.id = resource.id) (op resource)) :
    Frame (RowsDropped fun r =>
        r.status = .orphaned ∧ r.cleanupEnabled = cleanup ∧ r.updatedAt < olderThan)
      (do match ← observe (listOrphaned env cleanup olderThan) with
        | .error _ => pure ()
        | .ok resources =>
          for resource in resources do
            let _ ← observe (op resource)) := fun w => by
  rw [run_bind, run_observe, run_listOrphaned]
  cases env.storeFails w.storeTick
  · simp only [Bool.false_eq_true, if_false]
    refine RowsDropped.mono (w := { w with storeTick := w.storeTick + 1 }) (fun r hr hid => ?_)
      ((Frame.bind (rowsDropped_forIn _ fun a _ => by
        with_reducible repeat' first
          | apply Frame.bind
          | intro _
          | exact frame_pure _
          | exact Frame.observe (hop a)) fun _ => frame_pure _) _)
    exact of_decide_eq_true ((Store.id_mem_listing_iff (List.perm_insertionSort _ _) hr).1 hid)
  · exact refl_of (RowsDropped _) w

/-- With a ledger that never fails, the delete loop of `cleanupExpiredOrphans` leaves the rows
whose ids it did not visit, and touches nothing else the pass reads. -/
theorem foldl_deleteResource (resources : List ManagedResource) (w : World) :
    let w' := resources.foldl
      (fun w a => { w with storeTick := w.storeTick + 1, store := w.store.delete a.id }) w
    w'.cloud = w.cloud ∧ w'.calls = w.calls ∧
      w'.store.rows = w.store.rows.filter fun r => r.id ∉ resources.map (·.id) := by
  induction resources generalizing w with
  | nil => simp
  | cons a resources ih =>
    obtain ⟨hcloud, hcalls, hrows⟩ := ih { w with storeTick := w.storeTick + 1, store := w.store.delete a.id }
    refine ⟨hcloud, hcalls, hrows.trans ?_⟩
    simp only [Store.delete, List.filter_filter, List.map_cons, List.mem_cons, not_or]
    exact List.filter_congr fun r _ => by by_cases h : r.id = a.id <;> simp [h]

end Scheduler

/-! ## A pass drops only expired orphans -/

/-- The rows a pass may drop, against the clock reading `now` of a cutoff: orphans with
`cleanup_enabled` past the remove delay, and, when an orphan TTL is set, orphans without it past
the TTL. -/
def ExpiredOrphan (cfg : ReconcilerConfig) (now : Int) (r : ManagedResource) : Prop :=
  r.status = .orphaned ∧ (r.cleanupEnabled = true ∧ r.updatedAt < now - cfg.removeDelay ∨
    r.cleanupEnabled = false ∧ 0 < cfg.orphanTTL ∧ r.updatedAt < now - cfg.orphanTTL)

/-- Every row of `w` is still in the ledger of `w'` as `RowsKept` has it, or went in a version of
it (itself, or a rewrite with a time read in between) that was an expired orphan against a
reading in between. -/
def RowsKeptUnless (env : Env) (cfg : ReconcilerConfig) (w w' : World) : Prop :=
  w.clockTick ≤ w'.clockTick ∧ ∀ r ∈ w.store.rows,
    (∃ r' ∈ w'.store.rows, r'.id = r.id ∧
      (r' = r ∨ env.ReadBetween w.clockTick w'.clockTick r'.updatedAt)) ∨
    ∃ r₀, (r₀ = r ∨ env.ReadBetween w.clockTick w'.clockTick r₀.updatedAt) ∧
      ∃ n, w.clockTick ≤ n ∧ n < w'.clockTick ∧ ExpiredOrphan cfg (env.now n) r₀

section Pass

variable (env : Env) (cfg : ReconcilerConfig)

instance : IsRefl World (RowsKeptUnless env cfg) :=
  ⟨fun _ => ⟨le_refl _, fun r hr => .inl ⟨r, hr, rfl, .inl rfl⟩⟩⟩

/-- What a later step does to a row version of an earlier one is a version of the row over both. -/
instance : IsTrans World (RowsKeptUnless env cfg) := ⟨fun _ _ _ h₁ h₂ => ⟨h₁.1.trans h₂.1, fun r hr => by
  rcases h₁.2 r hr with ⟨r₁, hr₁, hid₁, h₁'⟩ | ⟨r₀, h₀, n, hn₁, hn₂, hexp⟩
  · rcases h₂.2 r₁ hr₁ with ⟨r₂, hr₂, hid₂, h₂'⟩ | ⟨r₀, h₀, n, hn₁, hn₂, hexp⟩
    · refine .inl ⟨r₂, hr₂, hid₂.trans hid₁, ?_⟩
      rcases h₂' with rfl | h₂'
      · exact h₁'.imp_right (·.widen le_rfl h₂.1)
      · exact .inr (h₂'.widen h₁.1 le_rfl)
    · refine .inr ⟨r₀, ?_, n, h₁.1.trans hn₁, hn₂, hexp⟩
      rcases h₀ with rfl | h₀
      · exact h₁'.imp_right (·.widen le_rfl h₂.1)
      · exact .inr (h₀.widen h₁.1 le_rfl)
  · exact .inr ⟨r₀, h₀.imp_right (·.widen le_rfl h₂.1), n, hn₁, lt_of_lt_of_le hn₂ h₂.1, hexp⟩⟩⟩

theorem RowsKeptUnless.of_rowsKept {w w' : World} (h : RowsKept env w w') : RowsKeptUnless env cfg w w' :=
  ⟨h.1, fun r hr => .inl (h.2 r hr)⟩

theorem rowsKept_timeNow : Frame (RowsKept env) (timeNow env) := fun _ =>
  RowsKept.of_store_eq rfl (Nat.le_succ _)

/-- A scheduler that reads its cutoff `now - d` from the clock and then drops listed orphans drops
only rows that were expired orphans against that reading. -/
theorem rowsKeptUnless_of_cutoff {w w' : World} {P : Int → ManagedResource → Prop}
    (hP : ∀ now r, P now r → ExpiredOrphan cfg now r)
    (h : RowsDropped (P (env.now w.clockTick)) { w with clockTick := w.clockTick + 1 } w') :
    RowsKeptUnless env cfg w w' :=
  ⟨Nat.le_of_succ_le h.1, fun r hr => (h.2.2 r hr).imp (fun hr' => ⟨r, hr', rfl, .inl rfl⟩)
    fun hp => ⟨r, .inl rfl, w.clockTick, le_rfl, h.1, hP _ r hp⟩⟩

theorem rowsKeptUnless_processOrphanedCleanups :
    Frame (RowsKeptUnless env cfg) (processOrphanedCleanups env cfg) := fun w => by
  unfold processOrphanedCleanups
  rw [run_bind, run_timeNow]
  exact rowsKeptUnless_of_cutoff env cfg (P := fun now r => r.status = .orphaned ∧
      r.cleanupEnabled = true ∧ r.updatedAt < now - cfg.removeDelay)
    (fun _ _ ⟨ho, hc, hlt⟩ => ⟨ho, .inl ⟨hc, hlt⟩⟩)
    (rowsDropped_orphanLoop env true _ _ (rowsDropped_deleteOrphan env cfg) _)

theorem rowsKeptUnless_cleanupExpiredOrphans (httl : 0 < cfg.orphanTTL) :
    Frame (RowsKeptUnless env cfg) (cleanupExpiredOrphans env cfg) := fun w => by
  unfold cleanupExpiredOrphans
  rw [run_bind, run_timeNow]
  exact rowsKeptUnless_of_cutoff env cfg (P := fun now r => r.status = .orphaned ∧
      r.cleanupEnabled = false ∧ r.updatedAt < now - cfg.orphanTTL)
    (fun _ _ ⟨ho, hc, hlt⟩ => ⟨ho, .inr ⟨hc, httl, hlt⟩⟩)
    (rowsDropped_orphanLoop env false _ _ (fun resource => rowsDropped_deleteResource env resource.id) _)

theorem rowsKeptUnless_reconcile (src : DesiredSources) :
    Frame (RowsKeptUnless env cfg) (reconcile env cfg src) := by
  unfold reconcile; dsimp only
  with_reducible repeat' first
    | apply Frame.bind
    | apply Frame.observe
    | intro _
    | split
    | exact frame_pure _
    | exact rowsKeptUnless_processOrphanedCleanups env cfg
    | exact rowsKeptUnless_cleanupExpiredOrphans env cfg ‹_›
    | exact Frame.mono (fun _ _ => RowsKeptUnless.of_rowsKept env cfg) (rowsKept_timeNow env)
    | exact Frame.mono (fun _ _ => RowsKeptUnless.of_rowsKept env cfg) (rowsKept_reconcileDNS env _ _)
    | exact Frame.mono (fun _ _ => RowsKeptUnless.of_rowsKept env cfg) (rowsKept_reconcileTunnelOp env _ _)
    | exact Frame.mono (fun _ _ => RowsKeptUnless.of_rowsKept env cfg) (rowsKept_reconcileBindings env _ _)

/-- Over a pass, the operators never delete a ledger row: each row stays under its id, as it was
or rewritten with a time the clock read during the pass. -/
theorem operators_keep_rows (cm : CredentialManager) (desired : List ParsedContainer)
    (bindings : List ResolvedAccessBinding) :
    Frame (RowsKept env) (reconcileDNS env cm desired) ∧
      Frame (RowsKept env) (reconcileTunnelOp env cm desired) ∧
      Frame (RowsKept env) (reconcileBindings env cm bindings) :=
  ⟨rowsKept_reconcileDNS env cm desired, rowsKept_reconcileTunnelOp env cm desired,
    rowsKept_reconcileBindings env cm bindings⟩

/-- The clock's readings between `w` and `w'` lie within `d` of each other. -/
def ClockWithin (w w' : World) (d : Int) : Prop :=
  ∀ n m, w.clockTick ≤ n → n < w'.clockTick → w.clockTick ≤ m → m < w'.clockTick →
    env.now m - env.now n ≤ d

end Pass

end Labelgate
