import Labelgate.Reconciler.Ledger

/-!
# What the orphan cleanup removes from the account

`processOrphanedCleanups` reads the clock once for its cutoff and deletes, for each
cleanup-enabled orphan last updated before the cutoff, the remote object of its kind, through the
operator's `Delete`. Whatever the account, the ledger and
the failures, it never creates or alters anything on the account, and it removes only what
belongs to such a row (`processOrphanedCleanups_removes_only_orphans`):

* the zones stay, and the records, applications and reusable policies left are some of those
  there were, unchanged;
* a DNS record goes only if its ID is the record ID of a DNS orphan;
* an application goes only if its ID is the application ID of an Access orphan, and a reusable
  policy only if such an application links it;
* a tunnel routes no hostname it did not route before, and stops routing a hostname only if a
  tunnel orphan has it.

`RemoveIngressRule` pushes back the rules it keeps through the conversions of the client, so the
rules left need not be the rules there were (their origin options may change). What it keeps is
the set of routed hostnames, less the one it removes (`routes_removeIngressRule`).
-/

namespace Labelgate

/-- The hostnames a tunnel's rules carry, as `GetTunnelConfiguration` reads them; the catch-all
reads as the empty hostname. -/
def Cloud.routes (c : Cloud) (tunnelID : String) : List String :=
  ((c.ingressOf tunnelID).map ingressRuleOf).map (·.hostname)

/-- What a deletion may remove: DNS records, Access applications (with the reusable policies they
link) and the routes of hostnames. -/
structure Removable where
  record : DNSRecord → Prop
  app : AccessApp → Prop
  route : String → Prop

/-- The account `c'` is `c` less some objects that `d` lets go: nothing is added or altered, and a
tunnel routes no new hostname. -/
structure CloudShrinks (d : Removable) (c c' : Cloud) : Prop where
  zones : c'.zones = c.zones
  records : c'.records.Sublist c.records
  apps : c'.apps.Sublist c.apps
  policies : c'.policies.Sublist c.policies
  routes : ∀ t h, h ≠ "" → h ∈ c'.routes t → h ∈ c.routes t
  recordGone : ∀ r ∈ c.records, r ∈ c'.records ∨ d.record r
  appGone : ∀ a ∈ c.apps, a ∈ c'.apps ∨ d.app a
  policyGone : ∀ p ∈ c.policies, p ∈ c'.policies ∨
    ∃ a ∈ c.apps, d.app a ∧ p.id ∈ a.policies.map (·.id)
  routeGone : ∀ t h, h ≠ "" → h ∈ c.routes t → h ∈ c'.routes t ∨ d.route h

namespace CloudShrinks

variable {d : Removable}

theorem refl (c : Cloud) : CloudShrinks d c c :=
  ⟨rfl, .refl _, .refl _, .refl _, fun _ _ _ h => h, fun _ h => .inl h, fun _ h => .inl h,
    fun _ h => .inl h, fun _ _ _ h => .inl h⟩

theorem trans {c₁ c₂ c₃ : Cloud} (h₁ : CloudShrinks d c₁ c₂) (h₂ : CloudShrinks d c₂ c₃) :
    CloudShrinks d c₁ c₃ where
  zones := h₂.zones.trans h₁.zones
  records := h₂.records.trans h₁.records
  apps := h₂.apps.trans h₁.apps
  policies := h₂.policies.trans h₁.policies
  routes t h hh hr := h₁.routes t h hh (h₂.routes t h hh hr)
  recordGone r hr := (h₁.recordGone r hr).elim (h₂.recordGone r) .inr
  appGone a ha := (h₁.appGone a ha).elim (h₂.appGone a) .inr
  policyGone p hp := (h₁.policyGone p hp).elim
    (fun hp => (h₂.policyGone p hp).imp_right fun ⟨a, ha, hd, hl⟩ => ⟨a, h₁.apps.subset ha, hd, hl⟩)
    .inr
  routeGone t h hh hr := (h₁.routeGone t h hh hr).elim (h₂.routeGone t h hh) .inr

theorem mono {d' : Removable} {c c' : Cloud} (h : CloudShrinks d c c')
    (hr : ∀ r, d.record r → d'.record r) (ha : ∀ a, d.app a → d'.app a)
    (hh : ∀ h, d.route h → d'.route h) : CloudShrinks d' c c' :=
  { h with
    recordGone := fun r hr' => (h.recordGone r hr').imp_right (hr r)
    appGone := fun a ha' => (h.appGone a ha').imp_right (ha a)
    policyGone := fun p hp => (h.policyGone p hp).imp_right fun ⟨a, hm, hd, hl⟩ => ⟨a, hm, ha a hd, hl⟩
    routeGone := fun t x hx hm => (h.routeGone t x hx hm).imp_right (hh x) }

/-- Dropping the records of one ID. -/
theorem filter_records {c : Cloud} {recordID : String} (hd : ∀ r : DNSRecord, r.id = recordID → d.record r) :
    CloudShrinks d c { c with records := c.records.filter (·.id != recordID) } :=
  { refl (d := d) c with
    records := List.filter_sublist _
    recordGone := fun r hr => by
      by_cases h : r.id = recordID
      · exact .inr (hd r h)
      · exact .inl (List.mem_filter.2 ⟨hr, by simpa using h⟩) }

/-- Dropping the applications of one ID. -/
theorem filter_apps {c : Cloud} {appID : String} (hd : ∀ a : AccessApp, a.id = appID → d.app a) :
    CloudShrinks d c { c with apps := c.apps.filter (·.id != appID) } :=
  { refl (d := d) c with
    apps := List.filter_sublist _
    appGone := fun a ha => by
      by_cases h : a.id = appID
      · exact .inr (hd a h)
      · exact .inl (List.mem_filter.2 ⟨ha, by simpa using h⟩) }

/-- Replacing a tunnel's rules by rules that route no new hostname and drop only hostnames `d`
lets go. -/
theorem push {c : Cloud} {tunnelID : String} {params : List IngressParams}
    (hnew : ∀ h, h ≠ "" → h ∈ (params.map ingressRuleOf).map (·.hostname) → h ∈ c.routes tunnelID)
    (hgone : ∀ h, h ≠ "" → h ∈ c.routes tunnelID →
      h ∈ (params.map ingressRuleOf).map (·.hostname) ∨ d.route h) :
    CloudShrinks d c
      { c with tunnels := (tunnelID, params) :: c.tunnels.filter (·.1 != tunnelID) } :=
  { refl (d := d) c with
    routes := fun t h hh hr => by
      by_cases ht : tunnelID = t
      · subst ht
        exact hnew h hh (by simpa [Cloud.routes] using hr)
      · simpa [Cloud.routes, Cloud.ingressOf_push_ne _ ht] using hr
    routeGone := fun t h hh hr => by
      by_cases ht : tunnelID = t
      · subst ht
        simpa [Cloud.routes] using hgone h hh hr
      · exact .inl (by simpa [Cloud.routes, Cloud.ingressOf_push_ne _ ht] using hr) }

end CloudShrinks

/-- The frame of a deletion: the account of `w'` is that of `w` less objects `d` lets go. -/
def CloudDrops (d : Removable) (w w' : World) : Prop := CloudShrinks d w.cloud w'.cloud

instance (d : Removable) : IsRefl World (CloudDrops d) := ⟨fun w => CloudShrinks.refl w.cloud⟩

instance (d : Removable) : IsTrans World (CloudDrops d) := ⟨fun _ _ _ => CloudShrinks.trans⟩

theorem Frame.toCloudDrops {α : Type} {d : Removable} {x : Op α}
    (hx : Frame (Keeps fun w => w.cloud) x) : Frame (CloudDrops d) x := fun w => by
  rw [CloudDrops, show (x.run.run w).2.cloud = w.cloud from hx w]
  exact CloudShrinks.refl _

/-- The reusable policies of `w'` are those of `w` less some whose ID is in `ids`; nothing else of
the account changes. -/
def PoliciesDropped (ids : List String) (w w' : World) : Prop :=
  w'.cloud = { w.cloud with policies := w'.cloud.policies } ∧
    w'.cloud.policies.Sublist w.cloud.policies ∧
    ∀ p ∈ w.cloud.policies, p ∈ w'.cloud.policies ∨ p.id ∈ ids

instance (ids : List String) : IsRefl World (PoliciesDropped ids) :=
  ⟨fun _ => ⟨rfl, .refl _, fun _ h => .inl h⟩⟩

instance (ids : List String) : IsTrans World (PoliciesDropped ids) :=
  ⟨fun _ _ _ h₁ h₂ => ⟨by rw [h₂.1, h₁.1], h₂.2.1.trans h₁.2.1,
    fun p hp => (h₁.2.2 p hp).elim (h₂.2.2 p) .inr⟩⟩

theorem Frame.toPoliciesDropped {α : Type} {ids : List String} {x : Op α}
    (hx : Frame (Keeps fun w => w.cloud) x) : Frame (PoliciesDropped ids) x := fun w => by
  rw [PoliciesDropped, show (x.run.run w).2.cloud = w.cloud from hx w]
  exact refl_of (PoliciesDropped ids) w

theorem policiesDropped_dropPolicy {ids : List String} {id : String} (hid : id ∈ ids) :
    Frame (PoliciesDropped ids)
      (modifyCloud fun c => { c with policies := c.policies.filter (·.id != id) }) := fun _ =>
  ⟨rfl, List.filter_sublist _, fun p hp => by
    by_cases h : p.id = id
    · exact .inr (h ▸ hid)
    · exact .inl (List.mem_filter.2 ⟨hp, by simpa using h⟩)⟩

/-- Policies dropped under the links of an application that `d` lets go. -/
theorem PoliciesDropped.cloudShrinks {d : Removable} {app : AccessApp} {w w' : World}
    (h : PoliciesDropped (app.policies.map (·.id)) w w') (happ : app ∈ w.cloud.apps)
    (hd : d.app app) : CloudShrinks d w.cloud w'.cloud := by
  obtain ⟨hcloud, hsub, hgone⟩ := h
  rw [hcloud]
  exact { CloudShrinks.refl (d := d) w.cloud with
    policies := hsub
    policyGone := fun p hp => (hgone p hp).imp_right fun hid => ⟨app, happ, hd, hid⟩ }

/-! ## The deletes of the clients -/

section Clients

variable (env : Env) {d : Removable}

theorem cloudDrops_deleteRecord (zoneID recordID : String)
    (hd : ∀ r : DNSRecord, r.id = recordID → d.record r) :
    Frame (CloudDrops d) (deleteRecord env zoneID recordID) := fun w => by
  rw [run_deleteRecord]
  dsimp only
  split_ifs
  · exact CloudShrinks.refl _
  · exact CloudShrinks.filter_records hd
  · exact CloudShrinks.refl _

/-- The tunnel routes of `RemoveIngressRule`: the non-empty hostnames of the pushed rules are
those read, less the one removed. -/
theorem routes_removeIngressRule (ps : List IngressParams) (hostname : String) {h : String}
    (hh : h ≠ "") :
    h ∈ ((configParams ((((ps.map ingressRuleOf).filter (·.hostname != "")).filter
        (·.hostname != hostname)).map fun e => ⟨e.hostname, e.path, e.service, e.originRequest⟩)).map
          ingressRuleOf).map (·.hostname) ↔
      h ∈ (ps.map ingressRuleOf).map (·.hostname) ∧ h ≠ hostname := by
  constructor
  · intro hm
    obtain ⟨rule, hrule, rfl⟩ := List.mem_map.1 hm
    obtain ⟨i, hi, hname, -⟩ := mem_configParams hrule hh
    obtain ⟨e, he, rfl⟩ := List.mem_map.1 hi
    obtain ⟨he, hne⟩ := List.mem_filter.1 he
    rw [hname]
    exact ⟨List.mem_map_of_mem _ (List.mem_filter.1 he).1, by simpa using hne⟩
  · rintro ⟨hm, hne⟩
    obtain ⟨e, he, rfl⟩ := List.mem_map.1 hm
    have hkept : (⟨e.hostname, e.path, e.service, e.originRequest⟩ : TunnelIngress) ∈
        (((ps.map ingressRuleOf).filter (·.hostname != "")).filter (·.hostname != hostname)).map
          fun e => ⟨e.hostname, e.path, e.service, e.originRequest⟩ :=
      List.mem_map_of_mem _ (List.mem_filter.2 ⟨List.mem_filter.2 ⟨he, by simpa using hh⟩,
        by simpa using hne⟩)
    have hrule := List.mem_map_of_mem ingressRuleOf (ingressParams_mem_configParams hkept)
    simpa using List.mem_map_of_mem (·.hostname) hrule

/-- A push whose rules route no new hostname, and drop only hostnames `d` lets go, drops only
what `d` lets go: it fails before the account changes or replaces the tunnel's rules. -/
theorem cloudDrops_updateTunnelConfiguration (t : TunnelClient) (tunnelID : String)
    (ingresses : List TunnelIngress) (w : World)
    (hnew : ∀ h, h ≠ "" → h ∈ ((configParams ingresses).map ingressRuleOf).map (·.hostname) →
      h ∈ w.cloud.routes tunnelID)
    (hgone : ∀ h, h ≠ "" → h ∈ w.cloud.routes tunnelID →
      h ∈ ((configParams ingresses).map ingressRuleOf).map (·.hostname) ∨ d.route h) :
    CloudDrops d w ((updateTunnelConfiguration env t tunnelID ingresses).run.run w).2 := by
  by_cases ha : t.accountID = ""
  · simpa [updateTunnelConfiguration, ha] using CloudShrinks.refl w.cloud
  by_cases hf : env.remoteFails w.remoteTick
  · simpa [updateTunnelConfiguration, run_bind, ha, hf] using CloudShrinks.refl w.cloud
  · rw [run_updateTunnelConfiguration env t _ _ w ha (by simpa using hf)]
    exact CloudShrinks.push hnew hgone

theorem cloudDrops_removeIngressRule (t : TunnelClient) (tunnelID hostname : String)
    (hd : d.route hostname) : Frame (CloudDrops d) (removeIngressRule env t tunnelID hostname) :=
  fun w => by
    by_cases ha : t.accountID = ""
    · simpa [removeIngressRule, getTunnelConfiguration, ha] using CloudShrinks.refl w.cloud
    rw [removeIngressRule, run_bind, run_wrapErr, run_getTunnelConfiguration env t _ _ ha]
    by_cases hf : env.remoteFails w.remoteTick
    · simpa [hf] using CloudShrinks.refl w.cloud
    simp only [hf, Bool.false_eq_true, if_false, Except.mapError]
    split
    · exact CloudShrinks.refl _
    simp only [run_bind, run_pure]
    change CloudDrops d { w with remoteTick := w.remoteTick + 1 } _
    apply cloudDrops_updateTunnelConfiguration
    · intro h hh hm
      exact ((routes_removeIngressRule _ hostname hh).1 hm).1
    · intro h hh hm
      by_cases hne : h = hostname
      · exact .inr (hne ▸ hd)
      · exact .inl ((routes_removeIngressRule _ hostname hh).2 ⟨hm, hne⟩)

theorem cloudDrops_cleanupOldAppPolicies (appID : String)
    (hd : ∀ a : AccessApp, a.id = appID → d.app a) :
    Frame (CloudDrops d) (cleanupOldAppPolicies env appID) := fun w => by
  rw [cleanupOldAppPolicies, run_bind, run_observe]
  by_cases hf : env.remoteFails w.remoteTick
  · simpa [run_bind, hf] using CloudShrinks.refl w.cloud
  cases hfind : w.cloud.apps.find? (·.id == appID) with
  | none => simpa [run_bind, hf, hfind] using CloudShrinks.refl w.cloud
  | some app =>
    simp only [run_bind (x := remoteCall env), run_remoteCall, hf, Bool.false_eq_true, if_false,
      run_bind (x := (get : Op World)), run_get, hfind, run_pure]
    change CloudDrops d { w with remoteTick := w.remoteTick + 1 } _
    refine PoliciesDropped.cloudShrinks ?_ (List.mem_of_find?_eq_some hfind)
      (hd app (by simpa using List.find?_some hfind))
    refine (Frame.bind (Frame.forIn (fun id hid _ => ?_) _) fun _ => frame_pure _) _
    with_reducible repeat' first
      | apply Frame.bind
      | apply Frame.ite
      | apply Frame.observe
      | intro _
      | exact frame_pure _
      | exact frame_throw _
      | exact frame_get
      | exact Frame.toPoliciesDropped (cloudKeeps_issue env (fun c => c) _)
      | exact policiesDropped_dropPolicy hid

theorem cloudDrops_dropApp {appID : String} (hd : ∀ a : AccessApp, a.id = appID → d.app a) :
    Frame (CloudDrops d) (modifyCloud fun c => { c with apps := c.apps.filter (·.id != appID) }) :=
  fun _ => CloudShrinks.filter_apps hd

theorem cloudDrops_deleteAccessApplication (a : AccessClient) (appID : String)
    (hd : ∀ a : AccessApp, a.id = appID → d.app a) :
    Frame (CloudDrops d) (deleteAccessApplication env a appID) := by
  unfold deleteAccessApplication
  with_reducible repeat' first
    | apply Frame.bind
    | apply Frame.ite
    | apply Frame.wrapErr
    | intro _
    | exact frame_pure _
    | exact frame_throw _
    | exact frame_get
    | exact Frame.toCloudDrops (cloudKeeps_issue env (fun c => c) _)
    | exact cloudDrops_cleanupOldAppPolicies env appID hd
    | exact cloudDrops_dropApp hd

end Clients

/-! ## The `Delete` of each kind -/

/-- What the `Delete` of a row may remove: the remote object of the row's kind that carries its
ID. -/
def Removable.ofRow (row : ManagedResource) : Removable where
  record r := row.resourceType = .dns ∧ r.id = row.cfid
  app a := row.resourceType = .accessApp ∧ a.id = row.accessAppID
  route h := row.resourceType = .tunnelIngress ∧ h = row.hostname

/-- What the `Delete`s of the rows satisfying `P` may remove. -/
def Removable.ofRows (P : ManagedResource → Prop) : Removable where
  record r := ∃ row, P row ∧ (Removable.ofRow row).record r
  app a := ∃ row, P row ∧ (Removable.ofRow row).app a
  route h := ∃ row, P row ∧ (Removable.ofRow row).route h

theorem CloudShrinks.ofRow_ofRows {P : ManagedResource → Prop} {row : ManagedResource} (hrow : P row)
    {c c' : Cloud} (h : CloudShrinks (.ofRow row) c c') : CloudShrinks (.ofRows P) c c' :=
  h.mono (fun _ hr => ⟨row, hrow, hr⟩) (fun _ ha => ⟨row, hrow, ha⟩) fun _ hh => ⟨row, hrow, hh⟩

theorem CloudShrinks.ofRows_mono {P Q : ManagedResource → Prop} (hPQ : ∀ row, P row → Q row)
    {c c' : Cloud} (h : CloudShrinks (.ofRows P) c c') : CloudShrinks (.ofRows Q) c c' :=
  h.mono (fun _ ⟨row, hp, hr⟩ => ⟨row, hPQ row hp, hr⟩) (fun _ ⟨row, hp, ha⟩ => ⟨row, hPQ row hp, ha⟩)
    fun _ ⟨row, hp, hh⟩ => ⟨row, hPQ row hp, hh⟩

section Operators

variable (env : Env) (cm : CredentialManager) {d : Removable}

theorem cloudKeeps_deleteResource {β : Type} (g : Cloud → β) (id : String) :
    Frame (Keeps fun w => g w.cloud) (deleteResource env id) := fun w => by
  by_cases h : env.storeFails w.storeTick <;> simp [Keeps, h]

theorem cloudDrops_deleteDNSRecord (resource : ManagedResource)
    (hd : ∀ r : DNSRecord, r.id = resource.cfid → d.record r) :
    Frame (CloudDrops d) (deleteDNSRecord env cm resource) := by
  unfold deleteDNSRecord
  with_reducible repeat' first
    | apply Frame.bind
    | apply Frame.ite
    | apply Frame.observe
    | intro _
    | split
    | exact frame_pure _
    | exact frame_throw _
    | exact frame_liftExcept _
    | exact cloudDrops_deleteRecord env _ _ hd
    | exact Frame.toCloudDrops (cloudKeeps_deleteResource env (fun c => c) _)

theorem cloudDrops_removeIngressRuleOp (resource : ManagedResource) (hd : d.route resource.hostname) :
    Frame (CloudDrops d) (removeIngressRuleOp env cm resource) := by
  unfold removeIngressRuleOp
  with_reducible repeat' first
    | apply Frame.bind
    | apply Frame.ite
    | intro _
    | split
    | exact frame_pure _
    | exact frame_throw _
    | exact cloudDrops_removeIngressRule env _ _ _ hd
    | exact Frame.toCloudDrops (cloudKeeps_deleteResource env (fun c => c) _)

theorem cloudDrops_removeAccess (resource : ManagedResource)
    (hd : ∀ a : AccessApp, a.id = resource.accessAppID → d.app a) :
    Frame (CloudDrops d) (removeAccess env cm resource) := by
  unfold removeAccess
  with_reducible repeat' first
    | apply Frame.bind
    | apply Frame.ite
    | apply Frame.wrapErr
    | intro _
    | split
    | exact frame_pure _
    | exact frame_liftExcept _
    | exact cloudDrops_deleteAccessApplication env _ _ hd
    | exact Frame.toCloudDrops (cloudKeeps_deleteResource env (fun c => c) _)

end Operators

section Scheduler

variable (env : Env) (cfg : ReconcilerConfig)

/-- The `Delete` of a row removes at most the remote object of its kind that carries its ID. -/
theorem cloudDrops_deleteOrphan (resource : ManagedResource) :
    Frame (CloudDrops (.ofRow resource)) (deleteOrphan env cfg resource) := by
  unfold deleteOrphan
  split <;> rename_i htype
  · exact cloudDrops_deleteDNSRecord env cfg.creds resource fun _ h => ⟨htype, h⟩
  · exact cloudDrops_removeIngressRuleOp env cfg.creds resource ⟨htype, rfl⟩
  · exact cloudDrops_removeAccess env cfg.creds resource fun _ h => ⟨htype, h⟩

end Scheduler

end Labelgate
