import Mathlib.Data.List.Sort
import Labelgate.Storage
import Labelgate.Operator.PublicIP

/-!
# The remote account, the world and the effect of one call

The Cloudflare side of the system as the clients see it (`Cloud`): zones, DNS records, the
ingress configuration of each tunnel, Access applications and reusable Access policies. A
`World` pairs it with the ledger, the mutating remote calls issued so far (`calls`), and the
counters that index the oracles.

Every remote call and every ledger statement goes through `remoteCall` or `storeCall`, which
consult the oracles of `Env`: the `n`-th remote call fails transiently iff `remoteFails n`,
and then has no effect. Every `time.Now()` of the code is its own reading of the clock
(`timeNow`): the `n`-th reading is `now n`, so the stamps a pass writes and the cutoffs it
computes are read apart, as in Go, and the model assumes nothing of how the clock moves. The
ledger operations of `storage.Storage` are wrappers of the `Store` operations with this failure
point and these readings; `saveResource` also returns the resource as the caller's pointer holds
it afterwards, since Go's `SaveResource` fills in its id and timestamps.

The DNS operator's public address is `getPublicIP` run on the endpoints' answers of the pass
(`Env.publicIP`).
-/

namespace Labelgate

/-- The origin options as `UpdateTunnelConfiguration` sends them: a field is absent unless the
conversion sets it. -/
structure OriginRequestParams where
  connectTimeout : Option Int := none
  tlsTimeout : Option Int := none
  tcpKeepAlive : Option Int := none
  keepAliveConnections : Option Int := none
  keepAliveTimeout : Option Int := none
  noTLSVerify : Option Bool := none
  originServerName : Option String := none
  caPool : Option String := none
  httpHostHeader : Option String := none
  noHappyEyeballs : Option Bool := none
  disableChunkedEncoding : Option Bool := none
  proxyType : Option String := none
deriving DecidableEq, Repr

/-- One ingress rule as `UpdateTunnelConfiguration` sends it; the remote stores it verbatim. -/
structure IngressParams where
  hostname : Option String
  path : Option String
  service : String
  originRequest : Option OriginRequestParams
deriving DecidableEq, Repr

/-- A reference from an Access application to a reusable policy. -/
structure PolicyLink where
  id : String
  precedence : Int
deriving DecidableEq, Repr

/-- An account-level reusable Access policy. -/
structure ReusablePolicy where
  id : String
  name : String
  decision : String
  includeRules : List AccessRule
  requireRules : List AccessRule
  excludeRules : List AccessRule
deriving DecidableEq, Repr

/-- A self-hosted Access application. -/
structure AccessApp where
  id : String
  domain : String
  name : String
  sessionDuration : String
  policies : List PolicyLink
deriving DecidableEq, Repr

/-- The remote account. -/
structure Cloud where
  zones : List (String × String)
  records : List DNSRecord := []
  tunnels : List (String × List IngressParams) := []
  apps : List AccessApp := []
  policies : List ReusablePolicy := []
deriving DecidableEq, Repr

/-- A mutating remote call, as issued. -/
inductive Call
  | dnsCreate (name type : String)
  | dnsUpdate (zoneID id : String)
  | dnsDelete (zoneID id : String)
  | tunnelUpdate (tunnelID : String) (ingress : List IngressParams)
  | policyCreate (name : String)
  | policyDelete (id : String)
  | appCreate (domain : String)
  | appUpdate (id domain : String)
  | appDelete (id : String)
deriving DecidableEq, Repr

/-- The remote account, the ledger, the calls issued so far, the oracle counters (remote calls,
ledger statements, clock readings) and the counter behind fresh identifiers. -/
structure World where
  cloud : Cloud
  store : Store
  calls : List Call := []
  remoteTick : Nat := 0
  storeTick : Nat := 0
  clockTick : Nat := 0
  fresh : Nat := 0

/-- What a pass cannot change: the failure oracles, the answers of the address-discovery
endpoints, and the clock's readings. An endpoint that answers 200 with an empty body makes
`getPublicIP` panic, which ends the process; the environments of the model leave that run out. -/
structure Env where
  remoteFails : Nat → Bool
  storeFails : Nat → Bool
  ipEndpoints : String → Response
  ipEndpoints_nonempty : ∀ svc, ipEndpoints svc ≠ .ok 200 []
  now : Nat → Int

/-- `t` is a reading of the clock between its `a`-th and its `b`-th. -/
def Env.ReadBetween (env : Env) (a b : Nat) (t : Int) : Prop := ∃ n, a ≤ n ∧ n < b ∧ env.now n = t

theorem Env.readBetween_self (env : Env) (n : Nat) : env.ReadBetween n (n + 1) (env.now n) :=
  ⟨n, le_rfl, Nat.lt_succ_self n, rfl⟩

theorem Env.ReadBetween.widen {env : Env} {a b a' b' : Nat} {t : Int} (h : env.ReadBetween a b t)
    (ha : a' ≤ a) (hb : b ≤ b') : env.ReadBetween a' b' t :=
  let ⟨n, h₁, h₂, h₃⟩ := h
  ⟨n, ha.trans h₁, lt_of_lt_of_le h₂ hb, h₃⟩

/-- The discovery never panics: a panic needs an empty read. -/
theorem getPublicIPFrom_ne_panic {get : String → Response} (hget : ∀ svc, get svc ≠ .ok 200 [])
    (svcs : List String) (msg : String) : getPublicIPFrom get svcs ≠ .panic msg := by
  induction svcs with
  | nil => nofun
  | cons svc rest ih =>
    unfold getPublicIPFrom
    split
    · rename_i read hread
      have hne : read.take 64 ≠ [] := by
        rintro h
        rcases List.take_eq_nil_iff.1 h with h | rfl
        · cases h
        · exact hget svc hread
      rw [if_neg hne]
      split
      · nofun
      · exact ih
    · exact ih

/-- `getPublicIP()` as the DNS operator reads it: the address as a Go string, or the error. -/
def Env.publicIP (env : Env) : Except String String :=
  match getPublicIP env.ipEndpoints with
  | .ok ip => .ok (String.mk (ip.map fun b => Char.ofNat b.toNat))
  | .error msg => .error msg
  | .panic msg => .error msg

/-- The operator's address is what `getPublicIP` returns, which never panics. -/
theorem Env.publicIP_spec (env : Env) :
    (∀ ip, getPublicIP env.ipEndpoints = .ok ip →
      env.publicIP = .ok (String.mk (ip.map fun b => Char.ofNat b.toNat))) ∧
    (∀ msg, getPublicIP env.ipEndpoints = .error msg → env.publicIP = .error msg) ∧
    ∀ msg, getPublicIP env.ipEndpoints ≠ .panic msg :=
  ⟨fun _ h => by rw [Env.publicIP, h], fun _ h => by rw [Env.publicIP, h],
    getPublicIPFrom_ne_panic env.ipEndpoints_nonempty _⟩

/-- Computations of the model: Go's `(T, error)` results over the world. -/
abbrev Op := ExceptT String (StateM World)

/-- The result of an operation, as a Go caller that inspects the error sees it. -/
def observe {α : Type} (x : Op α) : Op (Except String α) := ExceptT.lift x.run

/-- `fmt.Errorf(pfx + "%w", err)` around the error of an operation. -/
def wrapErr {α : Type} (pfx : String) (x : Op α) : Op α := tryCatch x fun e => throw (pfx ++ e)

/-! ## Running an operation -/

section Run

variable {α β : Type} (w : World)

theorem run_bind (x : Op α) (f : α → Op β) :
    (x >>= f).run.run w = match x.run.run w with
      | (.ok a, w') => (f a).run.run w'
      | (.error e, w') => (.error e, w') := by
  simp only [ExceptT.run_bind, StateT.run_bind]
  rcases x.run.run w with ⟨_ | _, _⟩ <;> rfl

theorem run_bind_ok {x : Op α} {w w' : World} {a : α} (h : x.run.run w = (.ok a, w'))
    (f : α → Op β) : (x >>= f).run.run w = (f a).run.run w' := by
  rw [run_bind, h]

/-- A continuation that leaves the world as it finds it leaves the world of the bind that of `x`. -/
theorem run_bind_snd {x : Op α} {f : α → Op β} (hf : ∀ a w, ((f a).run.run w).2 = w) :
    ((x >>= f).run.run w).2 = (x.run.run w).2 := by
  rw [run_bind]
  rcases x.run.run w with ⟨_ | a, w'⟩
  · rfl
  · exact hf a w'

@[simp] theorem run_pure (a : α) : (pure a : Op α).run.run w = (.ok a, w) := rfl

@[simp] theorem run_throw (e : String) : (throw e : Op α).run.run w = (.error e, w) := rfl

@[simp] theorem run_get : (get : Op World).run.run w = (.ok w, w) := rfl

@[simp] theorem run_set (w' : World) : (set w' : Op PUnit).run.run w = (.ok ⟨⟩, w') := rfl

@[simp] theorem run_modify (f : World → World) : (modify f : Op PUnit).run.run w = (.ok ⟨⟩, f w) :=
  rfl

@[simp] theorem run_liftExcept (e : Except String α) : (liftExcept e : Op α).run.run w = (e, w) := by
  cases e <;> rfl

@[simp] theorem run_observe (x : Op α) :
    (observe x).run.run w = (.ok (x.run.run w).1, (x.run.run w).2) := rfl

@[simp] theorem run_map (f : α → β) (x : Op α) :
    (f <$> x).run.run w = ((x.run.run w).1.map f, (x.run.run w).2) := by
  rw [← bind_pure_comp, run_bind]
  rcases x.run.run w with ⟨_ | _, _⟩ <;> rfl

/-- A computation that reports success has a value. -/
theorem exists_eq_ok_of_isOk {ε : Type} {e : Except ε α} (h : e.isOk) : ∃ a, e = .ok a := by
  cases e with
  | error => cases h
  | ok a => exact ⟨a, rfl⟩

@[simp] theorem mapError_ok (f : String → String) (a : α) :
    (Except.ok a : Except String α).mapError f = .ok a := rfl

@[simp] theorem mapError_error (f : String → String) (e : String) :
    (Except.error e : Except String α).mapError f = .error (f e) := rfl

@[simp] theorem map_ok (f : α → β) (a : α) : (Except.ok a : Except String α).map f = .ok (f a) := rfl

@[simp] theorem map_error (f : α → β) (e : String) :
    (Except.error e : Except String α).map f = .error e := rfl

@[simp] theorem run_wrapErr (pfx : String) (x : Op α) :
    (wrapErr pfx x).run.run w = ((x.run.run w).1.mapError (pfx ++ ·), (x.run.run w).2) := by
  show (ExceptT.tryCatch x (fun e => throw (pfx ++ e))).run.run w = _
  simp only [ExceptT.tryCatch, ExceptT.run_mk, StateT.run_bind]
  rcases h : x.run.run w with ⟨_ | _, _⟩ <;> simp only [ExceptT.run] at h <;> rw [h] <;> rfl

end Run

section Calls

variable (env : Env)

/-- The failure point of one remote call. -/
def remoteCall : Op Unit := do
  let w ← get
  set { w with remoteTick := w.remoteTick + 1 }
  if env.remoteFails w.remoteTick then throw "remote call failed"

@[simp] theorem run_remoteCall (w : World) : (remoteCall env).run.run w =
    (if env.remoteFails w.remoteTick then .error "remote call failed" else .ok (),
      { w with remoteTick := w.remoteTick + 1 }) := by
  simp only [remoteCall, run_bind, run_get, run_set]
  split <;> rfl

/-- The failure point of one ledger statement. -/
def storeCall : Op Unit := do
  let w ← get
  set { w with storeTick := w.storeTick + 1 }
  if env.storeFails w.storeTick then throw "database is locked"

@[simp] theorem run_storeCall (w : World) : (storeCall env).run.run w =
    (if env.storeFails w.storeTick then .error "database is locked" else .ok (),
      { w with storeTick := w.storeTick + 1 }) := by
  simp only [storeCall, run_bind, run_get, run_set]
  split <;> rfl

/-- Records a mutating remote call, then passes its failure point. -/
def issue (c : Call) : Op Unit := do
  modify fun w => { w with calls := w.calls ++ [c] }
  remoteCall env

@[simp] theorem run_issue (c : Call) (w : World) : (issue env c).run.run w =
    (if env.remoteFails w.remoteTick then .error "remote call failed" else .ok (),
      { w with calls := w.calls ++ [c], remoteTick := w.remoteTick + 1 }) := by
  simp [issue, run_bind]

/-- A fresh identifier, for `uuid.New()` and for the identifiers the remote assigns. -/
def freshID (pfx : String) : Op String := do
  let w ← get
  set { w with fresh := w.fresh + 1 }
  pure (pfx ++ toString w.fresh)

@[simp] theorem run_freshID (pfx : String) (w : World) :
    (freshID pfx).run.run w = (.ok (pfx ++ toString w.fresh), { w with fresh := w.fresh + 1 }) := rfl

/-- `time.Now()`: the clock's next reading. -/
def timeNow : Op Int :=
  modifyGet fun w => (env.now w.clockTick, { w with clockTick := w.clockTick + 1 })

@[simp] theorem run_timeNow (w : World) :
    (timeNow env).run.run w = (.ok (env.now w.clockTick), { w with clockTick := w.clockTick + 1 }) :=
  rfl

/-- Applies `f` to the remote account. -/
def modifyCloud (f : Cloud → Cloud) : Op Unit := modify fun w => { w with cloud := f w.cloud }

@[simp] theorem run_modifyCloud (f : Cloud → Cloud) (w : World) :
    (modifyCloud f).run.run w = (.ok (), { w with cloud := f w.cloud }) := rfl

/-- Applies `f` to the ledger. -/
def modifyStore (f : Store → Store) : Op Unit := modify fun w => { w with store := f w.store }

@[simp] theorem run_modifyStore (f : Store → Store) (w : World) :
    (modifyStore f).run.run w = (.ok (), { w with store := f w.store }) := rfl

/-! ## The ledger calls of `storage.Storage` -/

/-- The clock readings `SaveResource` makes: one for the creation time when it is unset, then one
for the update time. -/
def ManagedResource.stampReads (r : ManagedResource) : Nat := if r.createdAt = 0 then 2 else 1

/-- The resource as `SaveResource` writes it when the clock's next reading is the `n`-th: with its
id, the creation time read first when unset, and the update time read after it. -/
def ManagedResource.stamp (r : ManagedResource) (id : String) (now : Nat → Int) (n : Nat) :
    ManagedResource :=
  { r with id, createdAt := if r.createdAt = 0 then now n else r.createdAt,
           updatedAt := now (if r.createdAt = 0 then n + 1 else n) }

/-- The update time `SaveResource` writes is one of its own readings. -/
theorem ManagedResource.stamp_updatedAt (env : Env) (r : ManagedResource) (id : String) (n : Nat) :
    env.ReadBetween n (n + r.stampReads) (r.stamp id env.now n).updatedAt := by
  by_cases hc : r.createdAt = 0
  · exact ⟨n + 1, by omega, by simp [ManagedResource.stampReads, hc], by simp [ManagedResource.stamp, hc]⟩
  · exact ⟨n, le_rfl, by simp [ManagedResource.stampReads, hc], by simp [ManagedResource.stamp, hc]⟩

/-- `SaveResource`: fills in a fresh id when there is none and the timestamps, then upserts.
Returns the resource as the caller holds it afterwards, and the statement's error. -/
def saveResource (r : ManagedResource) : Op (ManagedResource × Except String Unit) := do
  let id ← if r.id = "" then freshID "uuid-" else pure r.id
  let createdAt ← if r.createdAt = 0 then timeNow env else pure r.createdAt
  let updatedAt ← timeNow env
  let r := { r with id, createdAt, updatedAt }
  let res ← observe do
    storeCall env
    match (← get).store.save r with
    | .ok s => modifyStore fun _ => s
    | .error e => throw e
  pure (r, res)

/-- `SaveResource` in one step: the counters move, and the table is upserted unless the statement
fails. -/
theorem run_saveResource (r : ManagedResource) (w : World) :
    (saveResource env r).run.run w =
      let r' := r.stamp (if r.id = "" then "uuid-" ++ toString w.fresh else r.id) env.now w.clockTick
      let w' := { w with fresh := if r.id = "" then w.fresh + 1 else w.fresh,
                         storeTick := w.storeTick + 1, clockTick := w.clockTick + r.stampReads }
      if env.storeFails w.storeTick then (.ok (r', .error "database is locked"), w')
      else match w.store.save r' with
        | .ok s => (.ok (r', .ok ()), { w' with store := s })
        | .error e => (.ok (r', .error e), w') := by
  unfold saveResource
  by_cases hid : r.id = "" <;> by_cases hc : r.createdAt = 0 <;>
    cases hf : env.storeFails w.storeTick <;>
    simp only [hid, hc, hf, if_true, if_false, run_bind, run_freshID, run_pure, run_timeNow, run_observe,
      run_storeCall, run_get, run_modifyStore, run_throw, ManagedResource.stamp, ManagedResource.stampReads,
      Bool.false_eq_true] <;>
    split <;> rfl

@[simp] theorem saveResource_cloud (r : ManagedResource) (w : World) :
    ((saveResource env r).run.run w).2.cloud = w.cloud := by
  rw [run_saveResource]; dsimp only; split <;> [rfl; split <;> rfl]

@[simp] theorem saveResource_calls (r : ManagedResource) (w : World) :
    ((saveResource env r).run.run w).2.calls = w.calls := by
  rw [run_saveResource]; dsimp only; split <;> [rfl; split <;> rfl]

/-- `UpdateResourceStatus`. -/
def updateResourceStatus (id : String) (status : ResourceStatus) : Op Unit := do
  let now ← timeNow env
  storeCall env
  modifyStore fun s => s.setStatus id status now

@[simp] theorem run_updateResourceStatus (id : String) (status : ResourceStatus) (w : World) :
    (updateResourceStatus env id status).run.run w =
      if env.storeFails w.storeTick then
        (.error "database is locked", { w with storeTick := w.storeTick + 1, clockTick := w.clockTick + 1 })
      else (.ok (), { w with storeTick := w.storeTick + 1, clockTick := w.clockTick + 1,
                             store := w.store.setStatus id status (env.now w.clockTick) }) := by
  by_cases h : env.storeFails w.storeTick <;> simp [updateResourceStatus, run_bind, h]

/-- `UpdateResourceError`. -/
def updateResourceError (id : String) (status : ResourceStatus) (lastError : String) :
    Op Unit := do
  let now ← timeNow env
  storeCall env
  modifyStore fun s => s.setError id status lastError now

@[simp] theorem run_updateResourceError (id : String) (status : ResourceStatus) (lastError : String)
    (w : World) : (updateResourceError env id status lastError).run.run w =
      if env.storeFails w.storeTick then
        (.error "database is locked", { w with storeTick := w.storeTick + 1, clockTick := w.clockTick + 1 })
      else (.ok (), { w with storeTick := w.storeTick + 1, clockTick := w.clockTick + 1,
                             store := w.store.setError id status lastError (env.now w.clockTick) }) := by
  by_cases h : env.storeFails w.storeTick <;> simp [updateResourceError, run_bind, h]

/-- `DeleteResource`. -/
def deleteResource (id : String) : Op Unit := do
  storeCall env
  modifyStore (·.delete id)

@[simp] theorem run_deleteResource (id : String) (w : World) :
    (deleteResource env id).run.run w =
      if env.storeFails w.storeTick then (.error "database is locked", { w with storeTick := w.storeTick + 1 })
      else (.ok (), { w with storeTick := w.storeTick + 1, store := w.store.delete id }) := by
  by_cases h : env.storeFails w.storeTick <;> simp [deleteResource, run_bind, h]

/-- `ListResources` filtered by a resource type and a status set, newest first. -/
def listResources (t : ResourceType) (statuses : List ResourceStatus) :
    Op (List ManagedResource) := do
  storeCall env
  return ((← get).store.rows.filter fun r => r.resourceType = t ∧ r.status ∈ statuses)
    |>.insertionSort fun a b => b.createdAt ≤ a.createdAt

@[simp] theorem run_listResources (t : ResourceType) (statuses : List ResourceStatus) (w : World) :
    (listResources env t statuses).run.run w =
      (if env.storeFails w.storeTick then .error "database is locked"
        else .ok ((w.store.rows.filter fun r => r.resourceType = t ∧ r.status ∈ statuses)
          |>.insertionSort fun a b => b.createdAt ≤ a.createdAt),
        { w with storeTick := w.storeTick + 1 }) := by
  by_cases h : env.storeFails w.storeTick <;> simp [listResources, run_bind, h]

/-- A listing the store does not refuse returns exactly the rows of the kind and statuses asked
for. -/
theorem listResources_ok (t : ResourceType) (statuses : List ResourceStatus) (w : World)
    (h : env.storeFails w.storeTick = false) :
    ∃ resources, (listResources env t statuses).run.run w =
        (.ok resources, { w with storeTick := w.storeTick + 1 }) ∧
      ∀ r, r ∈ resources ↔ r ∈ w.store.rows ∧ r.resourceType = t ∧ r.status ∈ statuses :=
  ⟨_, by rw [run_listResources, h]; rfl, fun r => by simp [(List.perm_insertionSort _ _).mem_iff]⟩

/-- The orphaned rows with `cleanup_enabled = cleanup` last updated before `olderThan`, oldest
first: `ListOrphanedForCleanup` for `true`, `ListExpiredOrphans` for `false`. -/
def listOrphaned (cleanup : Bool) (olderThan : Int) : Op (List ManagedResource) := do
  storeCall env
  return ((← get).store.rows.filter fun r =>
      r.status = .orphaned ∧ r.cleanupEnabled = cleanup ∧ r.updatedAt < olderThan)
    |>.insertionSort fun a b => a.updatedAt ≤ b.updatedAt

@[simp] theorem run_listOrphaned (cleanup : Bool) (olderThan : Int) (w : World) :
    (listOrphaned env cleanup olderThan).run.run w =
      (if env.storeFails w.storeTick then .error "database is locked"
        else .ok ((w.store.rows.filter fun r =>
            r.status = .orphaned ∧ r.cleanupEnabled = cleanup ∧ r.updatedAt < olderThan)
          |>.insertionSort fun a b => a.updatedAt ≤ b.updatedAt),
        { w with storeTick := w.storeTick + 1 }) := by
  by_cases h : env.storeFails w.storeTick <;> simp [listOrphaned, run_bind, h]

/-- `ListOrphanedForCleanup`. -/
def listOrphanedForCleanup (olderThan : Int) : Op (List ManagedResource) :=
  listOrphaned env true olderThan

/-- `ListExpiredOrphans`. -/
def listExpiredOrphans (olderThan : Int) : Op (List ManagedResource) :=
  listOrphaned env false olderThan

end Calls

/-- An account with the one zone `example.com` and an empty ledger. -/
def exampleAccount : World :=
  { cloud := { zones := [("example.com", "zone-1")] }, store := Store.empty }

/-- The environment in which remote call `n` fails iff `fails n`, no ledger statement fails,
`api.ipify.org` answers `203.0.113.7` and a newline, and the clock reads `now` throughout. -/
def exampleEnv (fails : Nat → Bool) (now : Int) : Env :=
  { remoteFails := fails, storeFails := fun _ => false,
    ipEndpoints := fun _ => .ok 200 (GoNet.asciiBytes "203.0.113.7\n"),
    ipEndpoints_nonempty := fun _ => by simp [GoNet.asciiBytes], now := fun _ => now }

end Labelgate
