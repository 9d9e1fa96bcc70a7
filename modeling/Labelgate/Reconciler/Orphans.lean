import Labelgate.Reconciler.Ledger
import Labelgate.Operator.TunnelSkip

/-!
# Rows no longer declared become orphans

`DNSOperatorImpl.Reconcile` (`operator/dns`) lists the DNS rows that are active, in error or
orphaned and files them by `hostname:record_type`. It reconciles each desired key, erasing it from
that map, then marks every row left in the map orphaned. With a ledger that never fails, every
listed row whose key no container declares therefore ends the pass orphaned
(`reconcileDNS_orphans_undeclared`). That is the state the orphan scheduler later acts on
(`Reconciler.Ledger`).

Once the listing succeeds, the pass is two folds (`run_reconcileDNS`): `dnsKeyPass` over the
desired keys, whose turns (`dnsKeyStep`) reconcile a key and erase it from the map, and
`orphanPass` over the rows left in the map. The first erases exactly the desired keys
(`mem_dnsKeyPass_fst`), and each of its turns leaves the rows filed under other keys as they are
(`dnsKeyStep_keeps`).

Two facts of the ledger make the map faithful. Ids are unique, so a write by another row's id
misses the row. Record types are among the types the parser accepts, so no type contains `:` and
the string key determines the row's key.

The operator's writes go through `SaveResource`, keyed by the ledger key, and through
`UpdateResourceStatus` and `UpdateResourceError`, keyed by id. A row whose key and id differ
from those of every write stays as it is (`RowUntouched`).
-/

namespace Labelgate

/-! ## The key a row is filed under -/

/-- No record type the parser accepts contains `:`. -/
theorem colon_not_mem_of_validDNSType : ∀ t ∈ Labels.validDNSTypes, ':' ∉ String.toList t := by
  decide

/-- `hostname:type` determines the hostname and the type when the type has no `:`. -/
theorem key_inj_right {h t h' t' : String} (ht : ':' ∉ t.toList) (ht' : ':' ∉ t'.toList)
    (heq : h ++ ":" ++ t = h' ++ ":" ++ t') : h = h' ∧ t = t' := by
  have hrev : (⟨t.toList.reverse⟩ : String) ++ ":" ++ ⟨h.toList.reverse⟩ =
      ⟨t'.toList.reverse⟩ ++ ":" ++ ⟨h'.toList.reverse⟩ := by
    have := congrArg (fun s : String => s.toList.reverse) heq
    simp only [String.toList, String.data_append, List.reverse_append] at this
    exact String.ext (by simpa [String.data_append] using this)
  obtain ⟨h₁, h₂⟩ := @key_inj _ _ _ _ (by simpa using ht) (by simpa using ht') hrev
  exact ⟨String.ext (List.reverse_injective (congrArg String.data h₂)),
    String.ext (List.reverse_injective (congrArg String.data h₁))⟩

/-- Every entry of the desired map is a declared service under its own key. -/
theorem mem_desiredDNSMap {desired : List ParsedContainer} {p : String × DesiredDNS}
    (h : p ∈ desiredDNSMap desired) :
    p.1 = dnsKey p.2.service ∧ ∃ c ∈ desired, p.2.service ∈ c.dnsServices := by
  rw [desiredDNSMap_eq_foldl] at h
  obtain h | h := GoMap.mem_foldl_insertNew h
  · cases h
  · obtain ⟨c, hc, svc, hsvc, rfl⟩ := by simpa [List.mem_flatMap] using h
    exact ⟨rfl, c, hc, hsvc⟩

/-! ## A row no write names stays -/

/-- The row `r`, when the ledger of `w` holds it, is still in the ledger of `w'`, unchanged. -/
def RowUntouched (r : ManagedResource) (w w' : World) : Prop := r ∈ w.store.rows → r ∈ w'.store.rows

instance (r : ManagedResource) : IsRefl World (RowUntouched r) := ⟨fun _ h => h⟩

instance (r : ManagedResource) : IsTrans World (RowUntouched r) := ⟨fun _ _ _ h₁ h₂ h => h₂ (h₁ h)⟩

theorem Frame.toRowUntouched {α : Type} {r : ManagedResource} {x : Op α}
    (hx : Frame (Keeps fun w => w.store) x) : Frame (RowUntouched r) x :=
  Frame.mono (fun _ _ h hr => (congrArg Store.rows h).symm ▸ hr) hx

/-- An upsert on another key keeps a row. -/
theorem Store.mem_save_of_key_ne {s s' : Store} {x r : ManagedResource} (h : s.save x = .ok s')
    (hr : r ∈ s.rows) (hk : r.key ≠ x.key) : r ∈ s'.rows := by
  unfold save at h
  split at h
  · cases h
    simpa [mapRows, hk] using List.mem_map_of_mem (fun row => if row.key = x.key then
      row.conflictUpdate x else row) hr
  · split at h
    · cases h
    · cases h
      exact List.mem_append_left _ hr

section Primitives

variable (env : Env) {r : ManagedResource}

theorem rowUntouched_saveResource (x : ManagedResource)
    (hk : r.key ≠ (x.resourceType, x.hostname, x.recordType)) :
    Frame (RowUntouched r) (saveResource env x) := fun w hr => by
  rw [run_saveResource]
  dsimp only
  split
  · exact hr
  · split
    · exact Store.mem_save_of_key_ne (x := x.stamp _ _ _) ‹_› hr hk
    · exact hr

theorem rowUntouched_updateResourceStatus (id : String) (hid : r.id ≠ id) (status : ResourceStatus) :
    Frame (RowUntouched r) (updateResourceStatus env id status) := fun w hr => by
  rw [run_updateResourceStatus]
  split
  · exact hr
  · simpa [Store.setStatus, Store.mapRows, hid] using List.mem_map_of_mem
      (fun row => if row.id = id then { row with status, updatedAt := env.now w.clockTick } else row) hr

theorem rowUntouched_updateResourceError (id : String) (hid : r.id ≠ id) (status : ResourceStatus)
    (lastError : String) : Frame (RowUntouched r) (updateResourceError env id status lastError) :=
  fun w hr => by
  rw [run_updateResourceError]
  split
  · exact hr
  · simpa [Store.setError, Store.mapRows, hid] using List.mem_map_of_mem
      (fun row => if row.id = id then { row with status, lastError, updatedAt := env.now w.clockTick } else row) hr

/-- `SaveResource` hands back the resource it was given, with its key, and with its id when it had
one. -/
theorem returns_saveResource (x : ManagedResource) :
    Returns (fun p : ManagedResource × Except String Unit => p.1.key = x.key ∧ (x.id ≠ "" → p.1.id = x.id))
      (saveResource env x) := fun w p h => by
  rw [run_saveResource] at h
  dsimp only at h
  split at h
  · cases h; exact ⟨rfl, fun hid => if_neg hid⟩
  · split at h <;> cases h <;> exact ⟨rfl, fun hid => if_neg hid⟩

end Primitives

/-! ## The writes of the DNS operator -/

section Operator

variable (env : Env) (cm : CredentialManager) {r : ManagedResource}

/-- `CreateDNSRecord` returns a row of the service's key. -/
theorem returns_createDNSRecord (container : ContainerInfo) (service : DNSService) :
    Returns (fun res : ManagedResource => res.key = (.dns, service.hostname, service.type))
      (createDNSRecord env cm container service) := by
  unfold createDNSRecord
  with_reducible repeat' first
    | apply Returns.bind_of _ (returns_saveResource env _)
    | apply Returns.bind
    | intro _
    | split
    | exact returns_throw _ _
  all_goals exact returns_pure (And.left ‹_›)

theorem rowUntouched_createDNSRecord (container : ContainerInfo) (service : DNSService)
    (hk : r.key ≠ (.dns, service.hostname, service.type)) :
    Frame (RowUntouched r) (createDNSRecord env cm container service) := by
  unfold createDNSRecord
  with_reducible repeat' first
    | apply Frame.bind
    | apply Frame.ite
    | apply Frame.wrapErr
    | apply Frame.observe
    | intro _
    | split
    | exact frame_pure _
    | exact frame_throw _
    | exact frame_liftExcept _
    | exact rowUntouched_saveResource env _ hk
    | exact Frame.toRowUntouched (storeKeeps_resolveTarget env _ _)
    | exact Frame.toRowUntouched (storeKeeps_getZoneID env _)
    | exact Frame.toRowUntouched (storeKeeps_createRecord env _)
    | exact Frame.toRowUntouched (storeKeeps_getRecordByName env _ _)
    | exact Frame.toRowUntouched (storeKeeps_deleteRecord env _ _)

theorem rowUntouched_updateDNSRecord (resource : ManagedResource) (service : DNSService)
    (hk : r.key ≠ resource.key) : Frame (RowUntouched r) (updateDNSRecord env cm resource service) := by
  have hk : r.key ≠ (resource.resourceType, resource.hostname, resource.recordType) := hk
  unfold updateDNSRecord
  with_reducible repeat' first
    | apply Frame.bind
    | apply Frame.ite
    | apply Frame.observe
    | intro _
    | split
    | exact frame_pure _
    | exact frame_throw _
    | exact frame_liftExcept _
    | exact rowUntouched_saveResource env _ hk
    | exact Frame.toRowUntouched (storeKeeps_getRecordByName env _ _)
    | exact Frame.toRowUntouched (storeKeeps_updateRecord env _)

theorem total_reconcileDNSKey (current : Option ManagedResource) (d : DesiredDNS) :
    Total (reconcileDNSKey env cm current d) := by
  unfold reconcileDNSKey
  with_reducible repeat' first
    | apply Total.bind
    | apply Total.ite
    | apply Total.map
    | intro _
    | split
    | exact total_pure _
    | exact total_observe _
    | exact total_saveResource env _

/-- The key of a desired entry writes only rows of that key, and the row the ledger holds for it
only under its own id. -/
theorem rowUntouched_reconcileDNSKey (current : Option ManagedResource) (d : DesiredDNS)
    (hd : r.key ≠ (.dns, d.service.hostname, d.service.type))
    (hc : ∀ c ∈ current, r.key ≠ c.key ∧ r.id ≠ c.id ∧ c.id ≠ "") :
    Frame (RowUntouched r) (reconcileDNSKey env cm current d) := by
  unfold reconcileDNSKey
  cases current with
  | none =>
    refine Frame.bind_of (fun e => ∀ res, e = .ok res → res.key = (.dns, d.service.hostname,
      d.service.type)) (Frame.observe (rowUntouched_createDNSRecord env cm _ _ hd))
      (fun w e h res hres => returns_createDNSRecord env cm _ _ w res (by
        rw [run_observe] at h; cases h; exact hres)) fun e he => ?_
    split
    · have herr : ∀ err, r.key ≠ ((dnsErrorResource d err).resourceType,
          (dnsErrorResource d err).hostname, (dnsErrorResource d err).recordType) := fun _ => hd
      with_reducible repeat' first
        | apply Frame.bind
        | intro _
        | exact frame_pure _
        | exact rowUntouched_saveResource env _ (herr _)
    · rename_i res
      have hres : r.key ≠ (res.resourceType, res.hostname, res.recordType) := by
        rw [show (res.resourceType, res.hostname, res.recordType) = res.key from rfl, he res rfl]
        exact hd
      with_reducible repeat' first
        | apply Frame.bind
        | apply Frame.ite
        | intro _
        | exact frame_pure _
        | exact rowUntouched_saveResource env _ hres
  | some c =>
    obtain ⟨hkey, hid, hne⟩ := hc c rfl
    dsimp only
    split
    on_goal 1 =>
      refine Frame.bind_of (R := RowUntouched r) (fun c' : ManagedResource => c'.key = c.key ∧ c'.id = c.id)
        (Frame.map _ (rowUntouched_saveResource env _ hkey))
        (Returns.map (returns_saveResource env _) fun p hp => ⟨hp.1, hp.2 hne⟩) fun c' ⟨hk', hid'⟩ => ?_
    on_goal 2 =>
      refine Frame.bind_of (R := RowUntouched r) (fun c' : ManagedResource => c'.key = c.key ∧ c'.id = c.id)
        (frame_pure _) (returns_pure ⟨rfl, rfl⟩) fun c' ⟨hk', hid'⟩ => ?_
    all_goals
      rw [← hk'] at hkey
      rw [← hid'] at hid
      with_reducible repeat' first
        | apply Frame.bind
        | apply Frame.ite
        | apply Frame.observe
        | intro _
        | split
        | exact frame_pure _
        | exact rowUntouched_updateDNSRecord env cm _ _ hkey
        | exact rowUntouched_updateResourceError env _ hid _ _

end Operator

/-! ## The two loops of `Reconcile` -/

/-- One turn of the loop over the desired keys: reconcile the key against the row the map files
under it, then erase the key from the map. -/
def dnsKeyStep (env : Env) (cm : CredentialManager) (a : String × DesiredDNS)
    (p : GoMap ManagedResource × World) : GoMap ManagedResource × World :=
  (p.1.erase a.1, ((reconcileDNSKey env cm (p.1.lookup a.1) a.2).run.run p.2).2)

/-- The loop over the desired keys, from a map of listed rows and a world. -/
def dnsKeyPass (env : Env) (cm : CredentialManager) (desired : List ParsedContainer)
    (p : GoMap ManagedResource × World) : GoMap ManagedResource × World :=
  (desiredDNSMap desired).foldl (fun p a => dnsKeyStep env cm a p) p

/-- One turn of the orphan loop: a row left in the map that is not orphaned yet is marked so. -/
def orphanStep (env : Env) (w : World) (e : String × ManagedResource) : World :=
  if e.2.status ≠ .orphaned then ((updateResourceStatus env e.2.id .orphaned).run.run w).2 else w

/-- The orphan loop over the rows left in the map. -/
def orphanPass (env : Env) (p : GoMap ManagedResource × World) : World :=
  p.1.foldl (orphanStep env) p.2

/-- When the listing succeeds, `Reconcile` runs the loop over the desired keys from the map of the
listed rows, then the orphan loop over what is left of the map. -/
theorem run_reconcileDNS (env : Env) (cm : CredentialManager) (desired : List ParsedContainer)
    (w : World) (hstore : env.storeFails w.storeTick = false) :
    ∃ resources : List ManagedResource,
      (∀ r, r ∈ resources ↔
        r ∈ w.store.rows ∧ r.resourceType = .dns ∧ r.status ∈ [.active, .error, .orphaned]) ∧
      ((reconcileDNS env cm desired).run.run w).2 = orphanPass env
        (dnsKeyPass env cm desired (currentDNSMap resources, { w with storeTick := w.storeTick + 1 })) := by
  obtain ⟨resources, hrun, hmem⟩ := listResources_ok env .dns [.active, .error, .orphaned] w hstore
  refine ⟨resources, hmem, ?_⟩
  unfold reconcileDNS
  rw [run_bind, run_wrapErr, hrun, mapError_ok]
  dsimp only
  rw [run_bind, run_forIn_state (dnsKeyStep env cm)]
  · dsimp only
    rw [run_bind, run_forIn_yield]
    · show List.foldl _ _ _ = List.foldl _ _ _
      congr 1
      funext w e
      unfold orphanStep
      split <;> rfl
    · intro e w
      split <;> rfl
  · intro a b w
    obtain ⟨v, hv⟩ := total_reconcileDNSKey env cm (b.lookup a.1) a.2 w
    rw [run_bind_ok (Prod.ext hv rfl)]
    rfl

/-- The loop over the desired keys erases exactly the desired keys from the map. -/
theorem mem_dnsKeyPass_fst (env : Env) (cm : CredentialManager) (desired : List ParsedContainer)
    (p : GoMap ManagedResource × World) (e : String × ManagedResource) :
    e ∈ (dnsKeyPass env cm desired p).1 ↔ e ∈ p.1 ∧ ∀ a ∈ desiredDNSMap desired, e.1 ≠ a.1 := by
  unfold dnsKeyPass
  induction desiredDNSMap desired generalizing p with
  | nil => simp
  | cons a l ih =>
    rw [List.foldl_cons, ih, dnsKeyStep, GoMap.erase, List.mem_filter, bne_iff_ne]
    simp only [List.forall_mem_cons, and_assoc]

/-! ## The map of listed rows -/

/-- A listed row as the map of `Reconcile` files it: under its `hostname:type` key, with an id that
is set, listed as a DNS row that is active, in error or orphaned, of a record type the parser
accepts. -/
def Listed (e : String × ManagedResource) : Prop :=
  e.2.hostname ++ ":" ++ e.2.recordType = e.1 ∧ e.2.id ≠ "" ∧ e.2.resourceType = .dns ∧
    e.2.status ∈ [.active, .error, .orphaned] ∧ e.2.recordType ∈ Labels.validDNSTypes

/-- Every entry of the map of listed rows is a listed row of the ledger. -/
theorem listed_currentDNSMap {w : World} {resources : List ManagedResource}
    (hmem : ∀ r, r ∈ resources ↔
      r ∈ w.store.rows ∧ r.resourceType = .dns ∧ r.status ∈ [.active, .error, .orphaned])
    (hids : ∀ row ∈ w.store.rows, row.id ≠ "")
    (htypes : ∀ row ∈ w.store.rows, row.resourceType = .dns → row.recordType ∈ Labels.validDNSTypes)
    {e : String × ManagedResource} (he : e ∈ currentDNSMap resources) : e.2 ∈ w.store.rows ∧ Listed e := by
  rcases GoMap.mem_foldl_insert _ _ _ he with h | ⟨hr, hk⟩
  · cases h
  obtain ⟨hr, hdns, hst⟩ := (hmem _).1 hr
  exact ⟨hr, hk.symm, hids _ hr, hdns, hst, htypes _ hr hdns⟩

/-- The state of the loop over the desired keys: every entry of the map was listed in `m₀`, and its
row is still in the ledger. -/
def MapFiled (m₀ : GoMap ManagedResource) (p : GoMap ManagedResource × World) : Prop :=
  ∀ e ∈ p.1, e ∈ m₀ ∧ e.2 ∈ p.2.store.rows

section Pass

variable (env : Env) (cm : CredentialManager) {m₀ : GoMap ManagedResource} (hm₀ : ∀ e ∈ m₀, Listed e)

include hm₀

/-- What the map files under a key is a listed row of the ledger. -/
theorem lookup_listed {p : GoMap ManagedResource × World} (hp : MapFiled m₀ p) {k : String}
    {c : ManagedResource} (h : p.1.lookup k = some c) : c ∈ p.2.store.rows ∧ Listed (k, c) :=
  have hm := hp _ (GoMap.mem_of_lookup_eq_some h)
  ⟨hm.2, hm₀ _ hm.1⟩

/-- A row the ledger holds under a key other than the turn's stays as it is: the turn writes only
its own key and the id of its own row. -/
theorem dnsKeyStep_keeps {a : String × DesiredDNS} (ha : a.1 = dnsKey a.2.service)
    {p : GoMap ManagedResource × World} (hp : MapFiled m₀ p) {r : ManagedResource}
    (hr : r ∈ p.2.store.rows) (hkey : r.key = (.dns, r.hostname, r.recordType))
    (hne : a.1 ≠ r.hostname ++ ":" ++ r.recordType) : r ∈ (dnsKeyStep env cm a p).2.store.rows := by
  refine rowUntouched_reconcileDNSKey env cm _ _ (fun h => hne ?_) (fun c hc => ?_) p.2 hr
  · rw [ha, dnsKey]
    simp only [hkey, Prod.mk.injEq, true_and] at h
    rw [h.1, h.2]
  · obtain ⟨hcw, hfiled, hid, hdns, -⟩ := lookup_listed hm₀ hp hc
    have hk : r.key ≠ c.key := by
      rw [hkey, ManagedResource.key, hdns]
      intro h
      simp only [Prod.mk.injEq, true_and] at h
      exact hne (by rw [← hfiled, h.1, h.2])
    exact ⟨hk, fun h => hk (by rw [Store.eq_of_id_eq hr hcw h]), hid⟩

/-- Each turn keeps the state of the loop: the rows left in the map are filed under other keys. -/
theorem dnsKeyStep_filed {a : String × DesiredDNS} (ha : a.1 = dnsKey a.2.service)
    {p : GoMap ManagedResource × World} (hp : MapFiled m₀ p) : MapFiled m₀ (dnsKeyStep env cm a p) := by
  intro e he
  obtain ⟨he, hne⟩ := List.mem_filter.1 he
  obtain ⟨hm, hr⟩ := hp e he
  obtain ⟨hfiled, -, hdns, -⟩ := hm₀ e hm
  refine ⟨hm, dnsKeyStep_keeps env cm hm₀ ha hp hr (by rw [ManagedResource.key, hdns]) ?_⟩
  rw [hfiled]
  exact fun h => by simp [h] at hne

end Pass

/-! ## Rows no longer declared are marked orphaned -/

/-- A fold that keeps `B`, and keeps `A` unless it reaches `B`, reaches `B` from `A` once it
visits an element whose step takes `A` to `B`. -/
theorem foldl_reaches {σ γ : Type} {step : σ → γ → σ} (A B : σ → Prop) {l : List γ} {x : γ}
    (hA : ∀ s, ∀ a ∈ l, A s → A (step s a) ∨ B (step s a)) (hB : ∀ s, ∀ a ∈ l, B s → B (step s a))
    (hx : ∀ s, A s → B (step s x)) (hmem : x ∈ l) (s : σ) (hs : A s) : B (l.foldl step s) := by
  induction l generalizing s with
  | nil => exact absurd hmem (List.not_mem_nil _)
  | cons a l ih =>
    rw [List.foldl_cons]
    have hB' : ∀ s, B s → B (l.foldl step s) := fun s hs =>
      List.foldlRecOn l step s hs fun s hs a ha => hB s a (List.mem_cons_of_mem _ ha) hs
    rcases List.mem_cons.1 hmem with rfl | hmem
    · exact hB' _ (hx s hs)
    · rcases hA s a (List.mem_cons_self _ _) hs with h | h
      · exact ih (fun s a ha => hA s a (List.mem_cons_of_mem _ ha))
          (fun s a ha => hB s a (List.mem_cons_of_mem _ ha)) hmem _ h
      · exact hB' _ h

/-- The row of `UpdateResourceStatus`'s id takes the status; every other row stays. -/
theorem Store.mem_setStatus {s : Store} {r : ManagedResource} (hr : r ∈ s.rows) (id : String)
    (status : ResourceStatus) (now : Int) :
    (if r.id = id then { r with status, updatedAt := now } else r) ∈ (s.setStatus id status now).rows :=
  List.mem_map_of_mem _ hr

section Orphan

variable (env : Env)

/-- The orphan loop keeps every row whose id no entry of the map has. -/
theorem orphanPass_keeps {r : ManagedResource} {p : GoMap ManagedResource × World}
    (hid : ∀ e ∈ p.1, r.id ≠ e.2.id) (hr : r ∈ p.2.store.rows) : r ∈ (orphanPass env p).store.rows :=
  List.foldlRecOn (motive := fun w => r ∈ w.store.rows) p.1 _ p.2 hr fun w hw e he => by
    unfold orphanStep
    split
    · exact rowUntouched_updateResourceStatus env _ (hid e he) _ w hw
    · exact hw

/-- With a ledger that never fails, the orphan loop leaves the row of every entry of the map
orphaned. -/
theorem orphanPass_marks (hstore : ∀ n, env.storeFails n = false) {p : GoMap ManagedResource × World}
    {e : String × ManagedResource} (he : e ∈ p.1) (hr : e.2 ∈ p.2.store.rows) :
    ∃ r' ∈ (orphanPass env p).store.rows, r'.id = e.2.id ∧ r'.status = .orphaned := by
  have hset : ∀ w id, ((updateResourceStatus env id .orphaned).run.run w).2.store =
      w.store.setStatus id .orphaned (env.now w.clockTick) := fun w id => by
    simp only [run_updateResourceStatus, hstore, Bool.false_eq_true, if_false]
  unfold orphanPass
  refine foldl_reaches (fun w => e.2 ∈ w.store.rows)
    (fun w => ∃ r' ∈ w.store.rows, r'.id = e.2.id ∧ r'.status = .orphaned) ?_ ?_ ?_ he p.2 hr
  · intro w a _ hw
    simp only [orphanStep]
    split
    · have h := Store.mem_setStatus hw a.2.id .orphaned (env.now w.clockTick)
      rw [hset]
      by_cases hid : e.2.id = a.2.id
      · exact .inr ⟨_, h, by simp [hid], by simp [hid]⟩
      · exact .inl (by simpa [hid] using h)
    · exact .inl hw
  · rintro w a - ⟨r', hr', hid, hst⟩
    simp only [orphanStep]
    split
    · rw [hset]
      exact ⟨_, Store.mem_setStatus hr' a.2.id .orphaned (env.now w.clockTick), by split <;> simp [hid],
        by split <;> simp [hst]⟩
    · exact ⟨r', hr', hid, hst⟩
  · intro w hw
    simp only [orphanStep]
    split
    · rw [hset]
      exact ⟨_, Store.mem_setStatus hw e.2.id .orphaned (env.now w.clockTick), by simp, by simp⟩
    · exact ⟨e.2, hw, rfl, not_not.1 ‹_›⟩

end Orphan

section Reconcile

variable (env : Env) (cm : CredentialManager)

/-- With a ledger that never fails, ids that are set and record types the parser accepts, a DNS
row that is active, in error or orphaned, and whose `hostname:type` no desired service declares,
ends `Reconcile` orphaned. -/
theorem reconcileDNS_orphans_undeclared (desired : List ParsedContainer) (w : World)
    (hstore : ∀ n, env.storeFails n = false) (hids : ∀ row ∈ w.store.rows, row.id ≠ "")
    (htypes : ∀ row ∈ w.store.rows, row.resourceType = .dns → row.recordType ∈ Labels.validDNSTypes)
    (r : ManagedResource) (hr : r ∈ w.store.rows) (hdns : r.resourceType = .dns)
    (hlisted : r.status ∈ [.active, .error, .orphaned])
    (hundeclared : ∀ c ∈ desired, ∀ svc ∈ c.dnsServices, dnsKey svc ≠ r.hostname ++ ":" ++ r.recordType) :
    ∃ r' ∈ ((reconcileDNS env cm desired).run.run w).2.store.rows, r'.id = r.id ∧ r'.status = .orphaned := by
  obtain ⟨resources, hmem, hrun⟩ := run_reconcileDNS env cm desired w (hstore _)
  rw [hrun]
  have hm₀ := fun e (he : e ∈ currentDNSMap resources) => listed_currentDNSMap hmem hids htypes he
  -- the map files `r` under its key: the key determines the row
  have hrm : (r.hostname ++ ":" ++ r.recordType, r) ∈ currentDNSMap resources := by
    obtain ⟨c, hc⟩ := Option.isSome_iff_exists.1 (GoMap.isSome_lookup_foldl_insert
      (fun r : ManagedResource => r.hostname ++ ":" ++ r.recordType) ((hmem r).2 ⟨hr, hdns, hlisted⟩))
    obtain ⟨hcres, hck⟩ := GoMap.lookup_foldl_insert_eq_some hc
    obtain ⟨hcw, hcdns, -⟩ := (hmem c).1 hcres
    obtain ⟨hh, ht⟩ := key_inj_right (colon_not_mem_of_validDNSType _ (htypes c hcw hcdns))
      (colon_not_mem_of_validDNSType _ (htypes r hr hdns)) hck
    have hcr : c = r := Store.eq_of_key_eq hcw hr (by simp [ManagedResource.key, hcdns, hdns, hh, ht])
    subst hcr
    exact GoMap.mem_of_lookup_eq_some hc
  -- no desired key is the key of `r`, so the loop over them leaves it filed, and in the ledger
  have hkeys : ∀ a ∈ desiredDNSMap desired, a.1 = dnsKey a.2.service ∧ a.1 ≠ r.hostname ++ ":" ++ r.recordType :=
    fun a ha => by
      obtain ⟨hk, c, hc, hsvc⟩ := mem_desiredDNSMap ha
      exact ⟨hk, hk ▸ hundeclared c hc _ hsvc⟩
  have hfiled : MapFiled (currentDNSMap resources)
      (dnsKeyPass env cm desired (currentDNSMap resources, { w with storeTick := w.storeTick + 1 })) :=
    List.foldlRecOn (motive := MapFiled (currentDNSMap resources)) _ _ _
      (fun e he => ⟨he, (hm₀ e he).1⟩)
      fun p hp a ha => dnsKeyStep_filed env cm (fun e he => (hm₀ e he).2) (hkeys a ha).1 hp
  have hin := (mem_dnsKeyPass_fst env cm desired (currentDNSMap resources, { w with storeTick := w.storeTick + 1 })
    (r.hostname ++ ":" ++ r.recordType, r)).2
    ⟨hrm, fun a ha => (hkeys a ha).2.symm⟩
  exact orphanPass_marks env hstore hin (hfiled _ hin).2

end Reconcile

/-- The row of the `A` record of `old.example.com`, which the ledger holds as active. -/
def staleRow : ManagedResource :=
  { id := "row-1", resourceType := .dns, hostname := "old.example.com", recordType := "A",
    serviceName := "old", status := .active, cleanupEnabled := true }

/-- `exampleAccount` with `staleRow` in its ledger. -/
def staleAccount : World :=
  { exampleAccount with store := ⟨[staleRow], List.nodup_singleton _, List.nodup_singleton _⟩ }

/-- The container `web` now declares only `web.example.com`: the pass orphans the stale row. -/
theorem staleRow_orphaned :
    ∃ r' ∈ ((reconcileDNS (exampleEnv (fun _ => false) 100) singleAccountCredentials
        [dnsContainer "web" "web.example.com" "192.0.2.1"]).run.run staleAccount).2.store.rows,
      r'.id = "row-1" ∧ r'.status = .orphaned :=
  reconcileDNS_orphans_undeclared _ _ _ _ (fun _ => rfl) (by decide) (by decide) staleRow
    (List.mem_singleton_self _) rfl (by decide) (by decide)

/-! ## Duplicate keys: the first offer wins -/

/-- The DNS operator's part of a pass on the local containers, from `exampleAccount`. -/
def dnsPass (containers : GoMap ParsedContainer) : World :=
  ((reconcileDNS (exampleEnv (fun _ => false) 100) singleAccountCredentials
    (desiredOf ⟨containers, []⟩)).run.run exampleAccount).2

/-- The ledger of `exampleAccount` lists nothing, so the pass is the loop over the desired keys. -/
theorem dnsPass_eq_dnsKeyPass (containers : GoMap ParsedContainer) :
    dnsPass containers = orphanPass (exampleEnv (fun _ => false) 100)
      (dnsKeyPass (exampleEnv (fun _ => false) 100) singleAccountCredentials (desiredOf ⟨containers, []⟩)
        ([], { exampleAccount with storeTick := exampleAccount.storeTick + 1 })) := by
  obtain ⟨resources, hmem, hrun⟩ := run_reconcileDNS (exampleEnv (fun _ => false) 100)
    singleAccountCredentials (desiredOf ⟨containers, []⟩) exampleAccount rfl
  have hnil : resources = [] := List.eq_nil_iff_forall_not_mem.2 fun r hr => by
    simpa [exampleAccount, Store.empty] using ((hmem r).1 hr).1
  rw [dnsPass, hrun, hnil]
  rfl

/-- `a` and `b` declare the same record at different addresses: the account ends with the
address of whichever the containers map yields first. -/
theorem dnsPass_depends_on_order :
    [("a", dnsContainer "a" "web.example.com" "192.0.2.1"),
        ("b", dnsContainer "b" "web.example.com" "192.0.2.2")].Perm
      [("b", dnsContainer "b" "web.example.com" "192.0.2.2"),
        ("a", dnsContainer "a" "web.example.com" "192.0.2.1")] ∧
      (dnsPass [("a", dnsContainer "a" "web.example.com" "192.0.2.1"),
        ("b", dnsContainer "b" "web.example.com" "192.0.2.2")]).cloud.records.map (·.content) =
        ["192.0.2.1"] ∧
      (dnsPass [("b", dnsContainer "b" "web.example.com" "192.0.2.2"),
        ("a", dnsContainer "a" "web.example.com" "192.0.2.1")]).cloud.records.map (·.content) =
        ["192.0.2.2"] :=
  ⟨.swap _ _ _, by rw [dnsPass_eq_dnsKeyPass]; decide, by rw [dnsPass_eq_dnsKeyPass]; decide⟩

/-! ## A tunnel's undeclared rows lose their rules

`TunnelOperatorImpl.Reconcile` pushes each group's list over the tunnel's whole list, so a row
whose key no group declares any more has no rule left on a tunnel some group reaches, whatever its
cleanup flag (`reconcileTunnelOp_drops_undeclared_rule`). Over an empty ledger the first pass
writes the group's rows (`reconcileTunnelOp_writes_first_row`): with no listed row, the loop of
`recordTunnel` saves every desired service and the orphan loops have nothing to mark.
-/

section Tunnel

variable (env : Env) (cm : CredentialManager)

/-- A loop over the desired services whose map of listed rows starts empty stays empty, and is the
fold of its saves. -/
theorem run_forIn_unlisted {γ : Type} (g : γ → ManagedResource) (l : List γ)
    {f : γ → GoMap ManagedResource → Op (ForInStep (GoMap ManagedResource))}
    (hf : ∀ a, f a [] = (do let _ ← saveResource env (g a); pure PUnit.unit; pure (.yield [])))
    (w : World) :
    (forIn l [] f).run.run w =
      (.ok [], l.foldl (fun w a => ((saveResource env (g a)).run.run w).2) w) := by
  induction l generalizing w with
  | nil => rfl
  | cons a l ih =>
    obtain ⟨p, hp⟩ := total_saveResource env (g a) w
    have hstep : (f a []).run.run w = (.ok (.yield []), ((saveResource env (g a)).run.run w).2) := by
      rw [hf, run_bind_ok (Prod.ext hp rfl)]
      rfl
    rw [List.forIn_cons, run_bind_ok hstep, List.foldl_cons]
    exact ih _

/-- With no listed rows for its tunnel, `recordTunnel` saves every desired service as a row of
its own, `active` after a push and in error otherwise. -/
theorem run_recordTunnel_unlisted (tunnelID : String) (desiredMap : GoMap DesiredTunnel)
    (byTunnel : GoMap (GoMap ManagedResource)) (hnone : byTunnel.lookup tunnelID = none)
    (pushed : Except String Unit) (w : World) :
    (recordTunnel env cm tunnelID desiredMap byTunnel pushed).run.run w =
      match pushed with
      | .error err => (.ok (byTunnel, .error err), desiredMap.foldl (fun w e =>
          ((saveResource env (tunnelResource tunnelID e.2 .error err)).run.run w).2) w)
      | .ok u => (.ok (byTunnel.erase tunnelID, .ok u), desiredMap.foldl (fun w e =>
          ((saveResource env (tunnelResource tunnelID e.2 .active "")).run.run w).2)
            ((ensureTunnelDNSRecords env cm tunnelID desiredMap).run.run w).2) := by
  unfold recordTunnel
  rw [hnone, Option.getD_none]
  cases pushed with
  | error err =>
    dsimp only
    rw [run_bind, run_forIn_unlisted env (fun e => tunnelResource tunnelID e.2 .error err)
      desiredMap (fun _ => rfl) w]
    rfl
  | ok u =>
    obtain ⟨v, hv⟩ := total_ensureTunnelDNSRecords env cm tunnelID desiredMap w
    dsimp only
    rw [run_bind_ok (Prod.ext hv rfl), run_bind, run_forIn_unlisted env
      (fun e => tunnelResource tunnelID e.2 .active "") desiredMap (fun _ => rfl)]
    rfl

/-- Saves of other keys keep a row. -/
theorem foldl_saveResource_keeps {r : ManagedResource} (g : DesiredTunnel → ManagedResource)
    (l : GoMap DesiredTunnel) (w : World) (hr : r ∈ w.store.rows)
    (hk : ∀ e ∈ l, r.key ≠ (g e.2).key) :
    r ∈ (l.foldl (fun w e => ((saveResource env (g e.2)).run.run w).2) w).store.rows := by
  induction l generalizing w with
  | nil => exact hr
  | cons e l ih =>
    exact ih _ (rowUntouched_saveResource env _ (hk e (List.mem_cons_self _ _)) w hr)
      fun e' he' => hk e' (List.mem_cons_of_mem _ he')

/-- On an empty ledger, a run of saves of distinct keys leaves the first resource in the table,
but for its id and timestamps. -/
theorem foldl_saveResource_first (hstore : ∀ n, env.storeFails n = false)
    (g : DesiredTunnel → ManagedResource) (a : String × DesiredTunnel) (l : GoMap DesiredTunnel)
    (hk : ∀ e ∈ l, (g a.2).key ≠ (g e.2).key) (w : World) (hempty : w.store.rows = []) :
    ∃ id createdAt updatedAt, { g a.2 with id, createdAt, updatedAt } ∈
      ((a :: l).foldl (fun w e => ((saveResource env (g e.2)).run.run w).2) w).store.rows := by
  obtain ⟨s', hs'⟩ := Store.save_ok (s := w.store)
    (x := (g a.2).stamp (if (g a.2).id = "" then "uuid-" ++ toString w.fresh else (g a.2).id)
      env.now w.clockTick) (.inr fun r hr => by simp [hempty] at hr)
  obtain ⟨id, createdAt, hr⟩ := Store.mem_save_written hs'
  have hw : ((saveResource env (g a.2)).run.run w).2.store = s' := by
    rw [run_saveResource, hstore]
    simp only [Bool.false_eq_true, if_false, hs']
  rw [← hw] at hr
  exact ⟨id, createdAt, _, foldl_saveResource_keeps env g l _ hr hk⟩

/-- The first pass of the tunnel operator over an empty ledger, when the containers declare one
group whose tunnel has a credential, writes the row of the group's first service on the group's
tunnel, whether the push succeeds or not: the saves after it are of other hostnames. -/
theorem reconcileTunnelOp_writes_first_row (hstore : ∀ n, env.storeFails n = false)
    (desired : List ParsedContainer) (w : World) (hempty : w.store.rows = [])
    (name : String) (services : List DesiredTunnel)
    (hgroups : tunnelGroups desired = [(name, services)])
    (client : String) (tunnelCred : TunnelCredential)
    (hc : cm.getTunnelClient name = .ok (client, some tunnelCred))
    (k : String) (d : DesiredTunnel) (rest : GoMap DesiredTunnel)
    (hfirst : (desiredIngress services).1 = (k, d) :: rest)
    (hhost : ∀ e ∈ rest, e.2.service.hostname ≠ d.service.hostname) :
    ∃ r ∈ ((reconcileTunnelOp env cm desired).run.run w).2.store.rows,
      r.tunnelID = tunnelCred.tunnelID ∧ r.hostname = d.service.hostname ∧
        r.path = d.service.path ∧ r.cleanupEnabled = d.service.cleanup := by
  have h1 : (wrapErr "failed to list tunnel resources: " (listResources env
      .tunnelIngress [.active, .error, .orphaned])).run.run w =
      (.ok [], { w with storeTick := w.storeTick + 1 }) := by
    rw [run_wrapErr, run_listResources, hstore, hempty]; rfl
  rcases hdi : desiredIngress services with ⟨dm, ings⟩
  rw [hdi] at hfirst
  subst hfirst
  obtain ⟨pushed, hp⟩ := total_pushIngresses env ⟨client, tunnelCred.accountID⟩ tunnelCred.tunnelID
    ings { w with storeTick := w.storeTick + 1 }
  have hs2 := storeFresh_pushIngresses env ⟨client, tunnelCred.accountID⟩ tunnelCred.tunnelID ings
    { w with storeTick := w.storeTick + 1 }
  generalize hp2 : ((pushIngresses env ⟨client, tunnelCred.accountID⟩ tunnelCred.tunnelID
    ings).run.run { w with storeTick := w.storeTick + 1 }) = p2 at hp hs2
  obtain ⟨_, w2⟩ := p2
  cases hp
  have hw2 : w2.store.rows = [] := by rw [hs2.1]; exact hempty
  rw [reconcileTunnelOp, run_bind_ok h1, hgroups, List.foldlM_cons]
  simp only [List.foldlM_nil, bind_pure]
  rw [run_bind, reconcileGroup, run_map]
  unfold reconcileTunnel
  rw [hc, hdi]
  dsimp only
  rw [run_bind_ok hp2, run_recordTunnel_unlisted env cm _ _ (currentByTunnel []) rfl]
  -- no row was listed, so the orphan loop has nothing to mark
  have hnone : orphanTunnels env [] = pure () := rfl
  have hcur : currentByTunnel [] = [] := rfl
  have herase : GoMap.erase ([] : GoMap (GoMap ManagedResource)) tunnelCred.tunnelID = [] := rfl
  have hk : ∀ st err, ∀ e ∈ rest, (tunnelResource tunnelCred.tunnelID d st err).key ≠
      (tunnelResource tunnelCred.tunnelID e.2 st err).key :=
    fun _ _ e he h => hhost e he (congrArg (·.2.1) h).symm
  cases pushed with
  | error err =>
    simp only [Except.map, hcur, hnone, run_pure]
    obtain ⟨_, _, _, hr⟩ := foldl_saveResource_first env hstore
      (fun e => tunnelResource tunnelCred.tunnelID e .error err) (k, d) rest (hk _ _) w2 hw2
    exact ⟨_, hr, rfl, rfl, rfl, rfl⟩
  | ok u =>
    simp only [Except.map, hcur, herase, hnone, run_pure]
    have hs3 := storeFresh_ensureTunnelDNSRecords env cm tunnelCred.tunnelID ((k, d) :: rest) w2
    obtain ⟨_, _, _, hr⟩ := foldl_saveResource_first env hstore
      (fun e => tunnelResource tunnelCred.tunnelID e .active "") (k, d) rest (hk _ _) _ (hs3.1 ▸ hw2)
    exact ⟨_, hr, rfl, rfl, rfl, rfl⟩

/-- A row on a tunnel that some group resolves to, whose key no group declares, has no rule left on
the tunnel after a pass without failures, whatever its cleanup flag: the pushed lists hold the
declared services only. -/
theorem reconcileTunnelOp_drops_undeclared_rule (hfail : ∀ n, env.remoteFails n = false)
    (desired : List ParsedContainer) (w : World) (hlist : env.storeFails w.storeTick = false)
    (r : ManagedResource) (hresolved : (lastGroupFor cm r.tunnelID (tunnelGroups desired)).isSome)
    (hundeclared : ∀ g ∈ tunnelGroups desired, ∀ d ∈ g.2, tunnelKey d.service ≠ r.hostname ++ ":" ++ r.path) :
    ∀ rule ∈ ((((reconcileTunnelOp env cm desired).run.run w).2.cloud.ingressOf r.tunnelID).map
        ingressRuleOf), rule.hostname ≠ "" → rule.key ≠ r.hostname ++ ":" ++ r.path := by
  obtain ⟨services, hlast⟩ := Option.isSome_iff_exists.1 hresolved
  obtain ⟨name, hmem⟩ := lastGroupFor_mem cm hlast
  intro rule hrule hh hkey
  obtain ⟨i, hi, hik⟩ := List.mem_map.1
    ((reconcileTunnelOp_rules env cm hfail desired w hlist r.tunnelID services hlast).sound rule hrule hh)
  obtain ⟨d, hd, hdk⟩ := mem_desiredIngress hi
  exact hundeclared _ hmem d hd (hdk ▸ hik ▸ hkey)

/-- A pass serving `docs` and `blog` from an empty ledger writes `docs`'s row, with cleanup
disabled, and a rule for it on the tunnel; once `docs` stops, the next pass leaves no rule for the
row. -/
theorem docs_rule_dropped_once_orphaned :
    ∃ r ∈ (tunnelPass [docsContainer, blogContainer] exampleAccount).store.rows,
      r.tunnelID = "tun-1" ∧ r.hostname = "docs.example.com" ∧ r.cleanupEnabled = false ∧
      (∃ rule ∈ ((tunnelPass [docsContainer, blogContainer] exampleAccount).cloud.ingressOf
          r.tunnelID).map ingressRuleOf, rule.key = r.hostname ++ ":" ++ r.path) ∧
      ∀ rule ∈ ((tunnelPass [blogContainer] (tunnelPass [docsContainer, blogContainer]
          exampleAccount)).cloud.ingressOf r.tunnelID).map ingressRuleOf,
        rule.hostname ≠ "" → rule.key ≠ r.hostname ++ ":" ++ r.path := by
  unfold tunnelPass
  obtain ⟨r, hr, htun, hhost, hpath, hclean⟩ := reconcileTunnelOp_writes_first_row
    (exampleEnv (fun _ => false) 100) singleAccountCredentials (fun _ => rfl)
    [docsContainer, blogContainer] exampleAccount rfl "default" _ rfl "default"
    ⟨"tun-1", "default", "account-1", ""⟩ rfl _ _ _ rfl (by decide)
  obtain ⟨rule, hrule, hkey⟩ := (reconcileTunnelOp_rules (exampleEnv (fun _ => false) 100)
    singleAccountCredentials (fun _ => rfl) [docsContainer, blogContainer] exampleAccount rfl "tun-1" _
    rfl).complete ⟨"docs.example.com", "", "http://docs:80", none⟩ (by decide)
  refine ⟨r, hr, htun, hhost, hclean, ?_, reconcileTunnelOp_drops_undeclared_rule
    (exampleEnv (fun _ => false) 100) singleAccountCredentials (fun _ => rfl) [blogContainer] _ rfl r
    (by rw [htun]; decide) (by rw [hhost, hpath]; decide)⟩
  rw [htun, hhost, hpath]
  exact ⟨rule, hrule, hkey⟩

end Tunnel

end Labelgate
