import Labelgate.Cloudflare.Tunnel

/-!
# The Access client

`cloudflare.AccessClient` (`cloudflare/access.go`). `ensureAccessForHostname` first creates one
account-level reusable policy per policy of the template, then either updates the given
application (after deleting the reusable policies linked to it, `cleanupOldAppPolicies`) or
creates a new one, linking the new policies by precedence. The remote accepts any number of
applications per domain, deletes what it is asked to, and answers a call on a missing
application with 404.

The update path is not atomic: the old policies are deleted before the update is sent, so an
update that fails leaves the application linked to policies the account no longer has.
-/

namespace Labelgate

/-- `types.MapDecisionToAPI`. -/
def mapDecisionToAPI (decision : String) : String :=
  match decision with
  | "block" => "deny"
  | "service_auth" => "non_identity"
  | d => d

/-- `cloudflare.AccessClient`: a client and the account it acts in. -/
structure AccessClient where
  client : String
  accountID : String
deriving DecidableEq, Repr

/-- The error the remote returns for a missing application. -/
def appNotFound : String := "404 Not Found"

section Client

variable (env : Env) (a : AccessClient)

/-- `AccessClient.FindExistingAccessApp`: the ID and name of the first application for the
hostname, or `("", "")`. -/
def findExistingAccessApp (hostname : String) : Op (String × String) := do
  if a.accountID = "" then throw "account ID is required for access operations"
  wrapErr "failed to list access applications: " (remoteCall env)
  match (← get).cloud.apps.find? (·.domain == hostname) with
  | some app => pure (app.id, app.name)
  | none => pure ("", "")

/-- `AccessClient.createReusablePolicy`. -/
def createReusablePolicy (policy : AccessPolicy) (index : Nat) : Op String := do
  let policyName := if policy.name = "" then "labelgate-" ++ policy.decision ++ "-" ++ toString index
    else policy.name
  wrapErr ("failed to create reusable policy \"" ++ policyName ++ "\": ") do
    issue env (.policyCreate policyName)
    let id ← freshID "pol-"
    modifyCloud fun c => { c with policies := c.policies ++
      [⟨id, policyName, mapDecisionToAPI policy.decision, policy.includeRules, policy.requireRules,
        policy.excludeRules⟩] }
    pure id

/-- When its call succeeds, `createReusablePolicy` adds the policy to the account under a fresh ID
and touches neither the applications nor the ledger. -/
theorem createReusablePolicy_ok (policy : AccessPolicy) (index : Nat) (w : World)
    (hok : env.remoteFails w.remoteTick = false) :
    ∃ id w', (createReusablePolicy env policy index).run.run w = (.ok id, w') ∧
      w'.cloud.apps = w.cloud.apps ∧ w'.store = w.store ∧ w.calls <+: w'.calls ∧
      w'.remoteTick = w.remoteTick + 1 := by
  simp only [createReusablePolicy, run_wrapErr, run_bind, run_issue, hok]
  exact ⟨_, _, rfl, rfl, rfl, List.prefix_append _ _, rfl⟩

/-- `AccessClient.createApplication`. -/
def createApplication (hostname appName sessionDuration : String) (links : List PolicyLink) :
    Op String :=
  wrapErr ("failed to create access application for " ++ hostname ++ ": ") do
    issue env (.appCreate hostname)
    let id ← freshID "app-"
    modifyCloud fun c => { c with apps := c.apps ++ [⟨id, hostname, appName, sessionDuration, links⟩] }
    pure id

/-- When its call succeeds, `createApplication` adds one application for the hostname, under a
fresh ID, whatever applications the domain already has. -/
theorem createApplication_ok (hostname appName sessionDuration : String) (links : List PolicyLink)
    (w : World) (hok : env.remoteFails w.remoteTick = false) :
    (createApplication env hostname appName sessionDuration links).run.run w =
      (.ok ("app-" ++ toString w.fresh),
        { w with cloud := { w.cloud with apps := w.cloud.apps ++
                   [⟨"app-" ++ toString w.fresh, hostname, appName, sessionDuration, links⟩] },
                 calls := w.calls ++ [.appCreate hostname], remoteTick := w.remoteTick + 1,
                 fresh := w.fresh + 1 }) := by
  simp [createApplication, run_bind, hok]

/-- `AccessClient.updateApplication`. -/
def updateApplication (appID hostname appName sessionDuration : String) (links : List PolicyLink) :
    Op Unit :=
  wrapErr ("failed to update access application " ++ appID ++ ": ") do
    issue env (.appUpdate appID hostname)
    if !(← get).cloud.apps.any (·.id == appID) then throw appNotFound
    modifyCloud fun c => { c with apps := c.apps.map fun app =>
      if app.id = appID then ⟨appID, hostname, appName, sessionDuration, links⟩ else app }

/-- `AccessClient.cleanupOldAppPolicies`: deletes every reusable policy linked to the
application; a failed listing or delete is logged and skipped. -/
def cleanupOldAppPolicies (appID : String) : Op Unit := do
  let listed ← observe do
    remoteCall env
    match (← get).cloud.apps.find? (·.id == appID) with
    | some app => pure (app.policies.map (·.id))
    | none => throw appNotFound
  match listed with
  | .error _ => pure ()
  | .ok ids =>
    for id in ids do
      let _ ← observe do
        issue env (.policyDelete id)
        if !(← get).cloud.policies.any (·.id == id) then throw appNotFound
        modifyCloud fun c => { c with policies := c.policies.filter (·.id != id) }

/-- The deletes of `cleanupOldAppPolicies`, through the world each leaves: when the remote answers
them, they keep the applications, make one call each, and leave no policy of the deleted IDs. -/
theorem foldl_deletes {step : String → World → World}
    (hstep : ∀ id w, env.remoteFails w.remoteTick = false →
      (step id w).cloud.apps = w.cloud.apps ∧ (step id w).remoteTick = w.remoteTick + 1 ∧
        ∀ p ∈ (step id w).cloud.policies, p ∈ w.cloud.policies ∧ p.id ≠ id)
    (ids : List String) (w : World) (hok : ∀ k < ids.length, env.remoteFails (w.remoteTick + k) = false) :
    (ids.foldl (fun w id => step id w) w).cloud.apps = w.cloud.apps ∧
      (ids.foldl (fun w id => step id w) w).remoteTick = w.remoteTick + ids.length ∧
      ∀ p ∈ (ids.foldl (fun w id => step id w) w).cloud.policies, p ∈ w.cloud.policies ∧ p.id ∉ ids := by
  induction ids generalizing w with
  | nil => exact ⟨rfl, rfl, fun p hp => ⟨hp, List.not_mem_nil _⟩⟩
  | cons id ids ih =>
    obtain ⟨happs, htick, hpol⟩ := hstep id w (hok 0 (by simp))
    obtain ⟨happs', htick', hpol'⟩ := ih (step id w) fun k hk => by
      rw [htick, Nat.add_assoc, Nat.add_comm 1 k]
      exact hok (k + 1) (by simpa using hk)
    refine ⟨happs'.trans happs, by rw [List.foldl_cons, htick', htick, List.length_cons]; omega,
      fun p hp => ?_⟩
    obtain ⟨hp1, hnot⟩ := hpol' p hp
    obtain ⟨hp2, hne⟩ := hpol p hp1
    exact ⟨hp2, by simp [hne, hnot]⟩

/-- When the application exists and the remote answers the listing and every delete,
`cleanupOldAppPolicies` deletes every reusable policy linked to it and keeps the applications. -/
theorem cleanupOldAppPolicies_ok (appID : String) (app : AccessApp) (w : World)
    (happ : w.cloud.apps.find? (·.id == appID) = some app)
    (hok : ∀ k ≤ app.policies.length, env.remoteFails (w.remoteTick + k) = false) :
    ∃ w', (cleanupOldAppPolicies env appID).run.run w = (.ok (), w') ∧ w'.cloud.apps = w.cloud.apps ∧
      w'.remoteTick = w.remoteTick + 1 + app.policies.length ∧
      ∀ p ∈ w'.cloud.policies, p ∈ w.cloud.policies ∧ p.id ∉ app.policies.map (·.id) := by
  have h0 : env.remoteFails w.remoteTick = false := by simpa using hok 0 (Nat.zero_le _)
  simp only [cleanupOldAppPolicies, run_bind, run_observe, run_remoteCall, h0, Bool.false_eq_true,
    ite_false, run_get, happ, run_pure]
  rw [run_forIn_yield]
  · refine ⟨_, rfl, ?_⟩
    rw [← List.length_map app.policies (·.id)]
    refine foldl_deletes env (fun id w hw => ?_) _ _ fun k hk => ?_
    · simp only [run_bind, run_observe, run_issue, hw, Bool.false_eq_true, ite_false, run_get]
      cases hany : w.cloud.policies.any fun x => x.id == id
      · simp only [hany, Bool.not_false, ite_true, run_bind, run_throw, run_observe, run_pure]
        exact ⟨trivial, trivial, fun p hp => ⟨hp, fun h => List.any_eq_false.1 hany p hp (by simp [h])⟩⟩
      · simp [hany]
    · show env.remoteFails (w.remoteTick + 1 + k) = false
      rw [Nat.add_assoc, Nat.add_comm 1 k]
      exact hok (k + 1) (by simp at hk; omega)
  · intro a w
    simp [run_bind]

/-- The loop of `EnsureAccessForHostname` over the template's policies: one reusable policy each,
linked at precedence `i + 1`; the first failure ends it. -/
def createPolicyLinks (hostname : String) : List (Nat × AccessPolicy) → Op (List PolicyLink)
  | [] => pure []
  | (i, policy) :: rest => do
    let policyID ← wrapErr ("failed to create reusable policy " ++ toString i ++ " for " ++ hostname ++ ": ")
      (createReusablePolicy env policy i)
    let links ← createPolicyLinks hostname rest
    pure (⟨policyID, i + 1⟩ :: links)

/-- When the remote answers its calls, the policy loop succeeds, makes one call per policy, and
touches neither the applications nor the ledger. -/
theorem createPolicyLinks_ok (hostname : String) (policies : List (Nat × AccessPolicy)) (w : World)
    (hok : ∀ k < policies.length, env.remoteFails (w.remoteTick + k) = false) :
    ∃ links w', (createPolicyLinks env hostname policies).run.run w = (.ok links, w') ∧
      w'.cloud.apps = w.cloud.apps ∧ w'.store = w.store ∧ w.calls <+: w'.calls ∧
      w'.remoteTick = w.remoteTick + policies.length := by
  induction policies generalizing w with
  | nil => exact ⟨[], w, rfl, rfl, rfl, List.prefix_refl _, rfl⟩
  | cons p rest ih =>
    obtain ⟨i, policy⟩ := p
    obtain ⟨id, w1, h1, happs1, hstore1, hcalls1, htick1⟩ :=
      createReusablePolicy_ok env policy i w (hok 0 (by simp))
    obtain ⟨links, w2, h2, happs2, hstore2, hcalls2, htick2⟩ := ih w1 fun k hk => by
      rw [htick1, Nat.add_assoc, Nat.add_comm 1 k]
      exact hok (k + 1) (by simpa using hk)
    refine ⟨⟨id, i + 1⟩ :: links, w2, ?_, happs2.trans happs1, hstore2.trans hstore1,
      hcalls1.trans hcalls2, by simp [htick2, htick1]; omega⟩
    simp [createPolicyLinks, run_bind, h1, h2]

/-- `AccessClient.EnsureAccessForHostname`: the ID of the application created or updated. -/
def ensureAccessForHostname (hostname : String) (policyDef : AccessPolicyDef)
    (existingAppID : String) : Op String := do
  if a.accountID = "" then throw "account ID is required for access operations"
  let policyLinks ← createPolicyLinks env hostname policyDef.policies.enum
  let appName := if policyDef.appName = "" then "labelgate-" ++ policyDef.name else policyDef.appName
  if existingAppID ≠ "" then
    cleanupOldAppPolicies env existingAppID
    updateApplication env existingAppID hostname appName policyDef.sessionDuration policyLinks
    pure existingAppID
  else
    createApplication env hostname appName policyDef.sessionDuration policyLinks

/-- Given no application ID and no failure, `EnsureAccessForHostname` creates an application for
the hostname, without looking for one the domain already has, and returns its ID. -/
theorem ensureAccessForHostname_creates (hfail : ∀ n, env.remoteFails n = false)
    (hostname : String) (policyDef : AccessPolicyDef) {existingAppID : String}
    (hid : existingAppID = "") (w : World) (hacct : a.accountID ≠ "") :
    ∃ app w' new, (ensureAccessForHostname env a hostname policyDef existingAppID).run.run w =
        (.ok app.id, w') ∧
      app.domain = hostname ∧ w'.cloud.apps = w.cloud.apps ++ [app] ∧
      w'.calls = w.calls ++ new ∧ .appCreate hostname ∈ new ∧ w'.store = w.store := by
  subst hid
  obtain ⟨links, w1, h1, happs, hstore, ⟨pc, hpc⟩, -⟩ :=
    createPolicyLinks_ok env hostname policyDef.policies.enum w fun _ _ => hfail _
  have h : (ensureAccessForHostname env a hostname policyDef "").run.run w =
      (createApplication env hostname
        (if policyDef.appName = "" then "labelgate-" ++ policyDef.name else policyDef.appName)
        policyDef.sessionDuration links).run.run w1 := by
    simp [ensureAccessForHostname, run_bind, hacct, h1]
  rw [h, createApplication_ok env _ _ _ _ w1 (hfail _)]
  exact ⟨⟨"app-" ++ toString w1.fresh, hostname,
    if policyDef.appName = "" then "labelgate-" ++ policyDef.name else policyDef.appName,
    policyDef.sessionDuration, links⟩, _, pc ++ [.appCreate hostname], rfl, rfl, by simp [happs],
    by simp [← hpc], by simp, hstore⟩

/-- Updating a managed application deletes its linked policies before the update is sent. When
the remote answers every call but the update, `EnsureAccessForHostname` fails, and the
application is left as it was, linked to policies the account no longer has: its protection is
gone, and the new policies are linked to nothing. -/
theorem ensureAccessForHostname_update_failure_unprotects (hostname : String)
    (policyDef : AccessPolicyDef) (app : AccessApp) (w : World) (hacct : a.accountID ≠ "")
    (hid : app.id ≠ "") (happ : w.cloud.apps.find? (·.id == app.id) = some app)
    (hok : ∀ k < policyDef.policies.length + 1 + app.policies.length,
      env.remoteFails (w.remoteTick + k) = false)
    (hfail : env.remoteFails (w.remoteTick + (policyDef.policies.length + 1 + app.policies.length)) = true) :
    let r := (ensureAccessForHostname env a hostname policyDef app.id).run.run w
    (∃ e, r.1 = .error e) ∧ app ∈ r.2.cloud.apps ∧
      ∀ l ∈ app.policies, ∀ p ∈ w.cloud.policies, p.id = l.id → p ∉ r.2.cloud.policies := by
  obtain ⟨links, w1, h1, happs1, -, -, htick1⟩ :=
    createPolicyLinks_ok env hostname policyDef.policies.enum w fun k hk => hok k (by simp at hk; omega)
  obtain ⟨w2, h2, happs2, htick2, hpol2⟩ := cleanupOldAppPolicies_ok env app.id app w1
    (happs1 ▸ happ) fun k hk => by
      rw [htick1, List.enum_length, Nat.add_assoc]
      exact hok _ (by omega)
  have htick : w2.remoteTick = w.remoteTick + (policyDef.policies.length + 1 + app.policies.length) := by
    rw [htick2, htick1, List.enum_length]
    omega
  simp only [ensureAccessForHostname, run_bind, if_neg hacct, run_pure, h1, if_pos hid, h2,
    updateApplication, run_wrapErr, run_issue, htick, hfail]
  refine ⟨⟨_, rfl⟩, happs2 ▸ happs1 ▸ List.mem_of_find?_eq_some happ, fun l hl p _ hpl hp => ?_⟩
  exact (hpol2 p hp).2 (List.mem_map.2 ⟨l, hl, hpl.symm⟩)

/-- An application that labelgate manages for `app.example.com`, protected by the reusable policy
`pol-a`. -/
def protectedApp : AccessApp := ⟨"app-1", "app.example.com", "labelgate-sso", "24h", [⟨"pol-a", 1⟩]⟩

/-- `exampleAccount` with `protectedApp` and its policy. -/
def protectedAccount : World :=
  { exampleAccount with
    cloud := { exampleAccount.cloud with
      apps := [protectedApp],
      policies := [⟨"pol-a", "labelgate-allow-0", "allow", [⟨"emails", ["a@example.com"]⟩], [], []⟩] } }

/-- The template `sso` (one `allow` policy) applied again to `protectedApp`, with the fourth call,
the update, refused: `pol-a` is gone and the application still links it. -/
theorem protectedApp_update_failure_unprotects :
    let r := (ensureAccessForHostname (exampleEnv (· == 3) 100) ⟨"default", "account-1"⟩
      "app.example.com" { name := "sso" } protectedApp.id).run.run protectedAccount
    (∃ e, r.1 = .error e) ∧ protectedApp ∈ r.2.cloud.apps ∧
      ∀ l ∈ protectedApp.policies, ∀ p ∈ protectedAccount.cloud.policies, p.id = l.id →
        p ∉ r.2.cloud.policies :=
  ensureAccessForHostname_update_failure_unprotects _ _ _ _ _ _ (by decide) (by decide) rfl
    (by decide) rfl

/-- `AccessClient.DeleteAccessApplication`: deletes the linked reusable policies, then the
application. -/
def deleteAccessApplication (appID : String) : Op Unit := do
  if a.accountID = "" then throw "account ID is required for access operations"
  cleanupOldAppPolicies env appID
  wrapErr ("failed to delete access application " ++ appID ++ ": ") do
    issue env (.appDelete appID)
    if !(← get).cloud.apps.any (·.id == appID) then throw appNotFound
    modifyCloud fun c => { c with apps := c.apps.filter (·.id != appID) }

end Client

end Labelgate
