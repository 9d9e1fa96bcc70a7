import Labelgate.Reconciler.Orphans

/-!
# Every declared DNS record ends a pass in the ledger

`Reconcile` of the DNS operator lists the ledger's DNS rows and files them by `hostname:type`. It
then walks the desired services key by key: each key is created, patched or updated, and erased
from the map of listed rows, and the rows left in the map are marked orphaned. With a ledger that
does not fail, every key a container declares ends the pass with a row of that key that is active
or in error, whatever the Cloudflare API answers (`reconcileDNS_keeps_declared_live`):

* the key's own turn writes a row of the key: `CreateDNSRecord` and `UpdateDNSRecord` save an
  active row when they succeed, and the operator records the error when they fail;
* the turns of the other keys write their own keys only, under ids of rows they hold or ids newly
  minted, so they keep the row;
* the orphan loop sets the status of the rows left in the map only, and the key was erased from it.

A failed create is saved under an id `SaveResource` mints from the world's counter. That id is new
to the ledger as long as no row holds an id the counter can still mint (`FreshIDs`), which every
step of the pass keeps (`KeepsFresh`).
-/

namespace Labelgate

/-! ## Fresh identifiers -/

/-- Distinct counters mint distinct ids. -/
theorem uuid_inj {a b : Nat} (h : "uuid-" ++ toString a = "uuid-" ++ toString b) : a = b := by
  have hd : Nat.toDigitsCore 10 (a + 1) a [] = Nat.toDigitsCore 10 (b + 1) b [] :=
    List.append_cancel_left (congrArg String.data h)
  rw [← (GoTime.toDigitsCore_digits (a + 1) a (Nat.lt_succ_self a)).2.2,
    ← (GoTime.toDigitsCore_digits (b + 1) b (Nat.lt_succ_self b)).2.2, hd]

/-- No row of the ledger has an id `SaveResource` can still mint. -/
def FreshIDs (w : World) : Prop := ∀ r ∈ w.store.rows, ∀ n, w.fresh ≤ n → r.id ≠ "uuid-" ++ toString n

/-- The counter moves only forward, and from a world whose counter has passed `f₀` the ledger's
ids stay fresh. -/
def KeepsFresh (f₀ : Nat) (w w' : World) : Prop :=
  w.fresh ≤ w'.fresh ∧ (f₀ ≤ w.fresh → FreshIDs w → FreshIDs w')

instance (f₀ : Nat) : IsRefl World (KeepsFresh f₀) := ⟨fun _ => ⟨le_refl _, fun _ h => h⟩⟩

instance (f₀ : Nat) : IsTrans World (KeepsFresh f₀) :=
  ⟨fun _ _ _ h₁ h₂ => ⟨h₁.1.trans h₂.1, fun hf h => h₂.2 (hf.trans h₁.1) (h₁.2 hf h)⟩⟩

theorem KeepsFresh.of_storeFresh {f₀ : Nat} {w w' : World} (h : StoreFresh w w') : KeepsFresh f₀ w w' :=
  ⟨h.2.1, fun _ hw r hr n hn => hw r (h.1 ▸ hr) n (h.2.1.trans hn)⟩

/-! ## What the ledger's writes keep -/

/-- The rows of a world are still there in the next, under their ids and keys. -/
def KeysKept (w w' : World) : Prop := ∀ r ∈ w.store.rows, ∃ r' ∈ w'.store.rows, r'.id = r.id ∧ r'.key = r.key

instance : IsRefl World KeysKept := ⟨fun _ r hr => ⟨r, hr, rfl, rfl⟩⟩

instance : IsTrans World KeysKept := ⟨fun _ _ _ h₁ h₂ r hr => by
  obtain ⟨r₁, hr₁, hid₁, hk₁⟩ := h₁ r hr
  obtain ⟨r₂, hr₂, hid₂, hk₂⟩ := h₂ r₁ hr₁
  exact ⟨r₂, hr₂, hid₂.trans hid₁, hk₂.trans hk₁⟩⟩

theorem KeysKept.of_storeFresh {w w' : World} (h : StoreFresh w w') : KeysKept w w' :=
  fun r hr => ⟨r, h.1 ▸ hr, rfl, rfl⟩

section Writes

variable (env : Env) (f₀ : Nat)

theorem keepsFresh_saveResource (x : ManagedResource)
    (hx : x.id = "" ∨ ∀ n, f₀ ≤ n → x.id ≠ "uuid-" ++ toString n) :
    Frame (KeepsFresh f₀) (saveResource env x) := fun w => by
  -- the id written: a minted one past every row's, or `x.id`, which the counter can no longer mint
  have hnew : ∀ n, (if x.id = "" then w.fresh + 1 else w.fresh) ≤ n → f₀ ≤ w.fresh →
      (x.stamp (if x.id = "" then "uuid-" ++ toString w.fresh else x.id) env.now w.clockTick).id ≠
        "uuid-" ++ toString n := fun n hn hf₀ => by
    simp only [ManagedResource.stamp]
    split at hn
    · rename_i hx0
      simp only [hx0, if_true]
      exact fun h => absurd (uuid_inj h) (by omega)
    · rename_i hx0
      simp only [hx0, if_false]
      exact (hx.resolve_left hx0) n (by omega)
  have hfresh : w.fresh ≤ if x.id = "" then w.fresh + 1 else w.fresh := by split <;> omega
  rw [run_saveResource]
  dsimp only
  split
  · exact ⟨hfresh, fun _ hw r hr n hn => hw r hr n (hfresh.trans hn)⟩
  split
  · rename_i s hs
    refine ⟨hfresh, fun hf₀ hw r hr n hn => ?_⟩
    rcases Store.mem_save hs hr with ⟨r₀, h₀, hid, -⟩ | rfl
    · exact hid ▸ hw r₀ h₀ n (hfresh.trans hn)
    · exact hnew n hn hf₀
  · exact ⟨hfresh, fun _ hw r hr n hn => hw r hr n (hfresh.trans hn)⟩

theorem keepsFresh_updateResourceError (id : String) (status : ResourceStatus) (lastError : String) :
    Frame (KeepsFresh f₀) (updateResourceError env id status lastError) := fun w => by
  rw [run_updateResourceError]
  split
  · exact ⟨le_refl _, fun _ h => h⟩
  · refine ⟨le_refl _, fun _ hw r hr n hn => ?_⟩
    obtain ⟨r₀, h₀, rfl⟩ := List.mem_map.1 hr
    have := hw r₀ h₀ n hn
    split <;> exact this

theorem keysKept_saveResource (x : ManagedResource) : Frame KeysKept (saveResource env x) := fun w => by
  rw [run_saveResource]
  dsimp only
  split
  · exact refl_of KeysKept w
  split
  · exact fun r hr => Store.keys_save ‹_› hr
  · exact refl_of KeysKept w

end Writes

/-! ## What a successful run leaves -/

/-- Every successful run of `x` ends in a world where `Q` holds of the value it returns. -/
def Ensures {α : Type} (Q : α → World → Prop) (x : Op α) : Prop :=
  ∀ w a w', x.run.run w = (.ok a, w') → Q a w'

section Ensures

variable {α β : Type} {Q : β → World → Prop} {x : Op α} {f : α → Op β}

/-- A successful run of `x >>= f` ends with a successful run of `f`. -/
theorem Ensures.bind (hf : ∀ a, Ensures Q (f a)) : Ensures Q (x >>= f) := fun w b w' h => by
  rw [run_bind] at h
  rcases hx : x.run.run w with ⟨_ | a, w₁⟩ <;> rw [hx] at h
  · cases h
  · exact hf a w₁ b w' h

/-- `Ensures.bind` for a continuation that needs what `x` leaves. -/
theorem Ensures.bind_of (P : α → World → Prop) (hx : Ensures P x)
    (hf : ∀ a w, P a w → ∀ b w', (f a).run.run w = (.ok b, w') → Q b w') : Ensures Q (x >>= f) :=
  fun w b w' h => by
  rw [run_bind] at h
  rcases hx' : x.run.run w with ⟨_ | a, w₁⟩ <;> rw [hx'] at h
  · cases h
  · exact hf a w₁ (hx w a w₁ hx') b w' h

end Ensures

/-- `SaveResource` hands back the resource with its key and status, and when the statement
succeeds the ledger holds a row of that key and status. -/
theorem ensures_saveResource (env : Env) (x : ManagedResource) :
    Ensures (fun p w => p.1.key = x.key ∧ p.1.status = x.status ∧
      (p.2 = .ok () → ∃ r ∈ w.store.rows, r.key = x.key ∧ r.status = x.status)) (saveResource env x) :=
  fun w p w' h => by
  rw [run_saveResource] at h
  dsimp only at h
  split at h
  · cases h; exact ⟨rfl, rfl, nofun⟩
  split at h
  · cases h; exact ⟨rfl, rfl, fun _ => Store.written_save (x := x.stamp _ _ _) ‹_›⟩
  · cases h; exact ⟨rfl, rfl, nofun⟩

/-! ## The DNS operator's writes -/

section Operator

variable (env : Env) (cm : CredentialManager) (f₀ : Nat)

theorem keepsFresh_createDNSRecord (container : ContainerInfo) (service : DNSService) :
    Frame (KeepsFresh f₀) (createDNSRecord env cm container service) := by
  unfold createDNSRecord
  with_reducible repeat' first
    | apply Frame.bind
    | apply Frame.ite
    | apply Frame.wrapErr
    | apply Frame.observe
    | intro _
    | split
    | exact frame_pure _
    | exact frame_throw _
    | exact frame_liftExcept _
    | exact keepsFresh_saveResource env f₀ _ (.inl rfl)
    | exact Frame.mono (fun _ _ => KeepsFresh.of_storeFresh) (storeFresh_resolveTarget env _ _)
    | exact Frame.mono (fun _ _ => KeepsFresh.of_storeFresh) (storeFresh_getZoneID env _)
    | exact Frame.mono (fun _ _ => KeepsFresh.of_storeFresh) (storeFresh_createRecord env _)
    | exact Frame.mono (fun _ _ => KeepsFresh.of_storeFresh) (storeFresh_getRecordByName env _ _)
    | exact Frame.mono (fun _ _ => KeepsFresh.of_storeFresh) (storeFresh_deleteRecord env _ _)

theorem keepsFresh_updateDNSRecord (resource : ManagedResource) (service : DNSService)
    (hid : ∀ n, f₀ ≤ n → resource.id ≠ "uuid-" ++ toString n) :
    Frame (KeepsFresh f₀) (updateDNSRecord env cm resource service) := by
  unfold updateDNSRecord
  with_reducible repeat' first
    | apply Frame.bind
    | apply Frame.ite
    | apply Frame.observe
    | intro _
    | split
    | exact frame_pure _
    | exact frame_throw _
    | exact frame_liftExcept _
    | exact keepsFresh_saveResource env f₀ _ (.inr hid)
    | exact Frame.mono (fun _ _ => KeepsFresh.of_storeFresh) (storeFresh_getRecordByName env _ _)
    | exact Frame.mono (fun _ _ => KeepsFresh.of_storeFresh) (storeFresh_updateRecord env _)

theorem keysKept_updateDNSRecord (resource : ManagedResource) (service : DNSService) :
    Frame KeysKept (updateDNSRecord env cm resource service) := by
  unfold updateDNSRecord
  with_reducible repeat' first
    | apply Frame.bind
    | apply Frame.ite
    | apply Frame.observe
    | intro _
    | split
    | exact frame_pure _
    | exact frame_throw _
    | exact frame_liftExcept _
    | exact keysKept_saveResource env _
    | exact Frame.mono (fun _ _ => KeysKept.of_storeFresh) (storeFresh_getRecordByName env _ _)
    | exact Frame.mono (fun _ _ => KeysKept.of_storeFresh) (storeFresh_updateRecord env _)

/-- A create that succeeds hands back an active row of the service's key, and leaves one in the
ledger. -/
theorem ensures_createDNSRecord (container : ContainerInfo) (service : DNSService) :
    Ensures (fun res w => res.key = (.dns, service.hostname, service.type) ∧ res.status = .active ∧
      ∃ r ∈ w.store.rows, r.key = (.dns, service.hostname, service.type) ∧ r.status = .active)
      (createDNSRecord env cm container service) := by
  unfold createDNSRecord
  dsimp only
  with_reducible repeat' first
    | refine Ensures.bind_of _ (ensures_saveResource env _) ?_
    | refine Ensures.bind fun _ => ?_
    | split
  all_goals
    rintro ⟨res, saved⟩ w ⟨hk, hs, hrow⟩ b w' h
    cases saved with
    | error e =>
      simp only [run_bind, run_observe, run_throw] at h
      exact nomatch congrArg Prod.fst h
    | ok u =>
      simp only [run_pure, Prod.mk.injEq, Except.ok.injEq] at h
      obtain ⟨rfl, rfl⟩ := h
      exact ⟨hk, hs, hrow rfl⟩

/-- An update that succeeds leaves a row of the resource's key and status. -/
theorem ensures_updateDNSRecord (resource : ManagedResource) (service : DNSService) :
    Ensures (fun _ w => ∃ r ∈ w.store.rows, r.key = resource.key ∧ r.status = resource.status)
      (updateDNSRecord env cm resource service) := by
  unfold updateDNSRecord
  dsimp only
  with_reducible repeat' first
    | refine Ensures.bind_of _ (ensures_saveResource env _) ?_
    | refine Ensures.bind fun _ => ?_
    | split
  all_goals
    rintro ⟨res, saved⟩ w ⟨-, -, hrow⟩ b w' h
    cases saved with
    | error e =>
      simp only [run_liftExcept] at h
      exact nomatch congrArg Prod.fst h
    | ok u =>
      simp only [run_liftExcept, Prod.mk.injEq] at h
      obtain ⟨-, rfl⟩ := h
      exact hrow rfl

end Operator

/-! ## One desired key -/

section Key

variable (env : Env) (cm : CredentialManager) (hstore : ∀ n, env.storeFails n = false)

include hstore

/-- With a ledger that never fails, `SaveResource` leaves a row of the written key and status when
the key is in the table already, or when it mints the id. -/
theorem saveResource_live (x : ManagedResource) (w : World)
    (hx : (∃ r ∈ w.store.rows, r.key = x.key) ∨ (x.id = "" ∧ FreshIDs w)) :
    ∃ r ∈ ((saveResource env x).run.run w).2.store.rows, r.key = x.key ∧ r.status = x.status := by
  have hsave : ∃ s', w.store.save (x.stamp (if x.id = "" then "uuid-" ++ toString w.fresh else x.id)
      env.now w.clockTick) = .ok s' := by
    refine Store.save_ok ?_
    rcases hx with h | ⟨hid, hw⟩
    · exact .inl h
    · exact .inr fun r hr h => hw r hr w.fresh le_rfl (by simpa [ManagedResource.stamp, hid] using h)
  obtain ⟨s', hs'⟩ := hsave
  rw [run_saveResource]
  simp only [hstore, Bool.false_eq_true, if_false, hs']
  exact Store.written_save (x := x.stamp _ _ _) hs'

/-- With a ledger that never fails, `UpdateResourceError` gives the row of its id the status. -/
theorem updateResourceError_live {id : String} {key : ResourceType × String × String} (w : World)
    (hrow : ∃ r ∈ w.store.rows, r.id = id ∧ r.key = key) (status : ResourceStatus) (lastError : String) :
    ∃ r ∈ ((updateResourceError env id status lastError).run.run w).2.store.rows,
      r.key = key ∧ r.status = status := by
  obtain ⟨r, hr, rfl, rfl⟩ := hrow
  rw [run_updateResourceError]
  simp only [hstore, Bool.false_eq_true, if_false]
  exact ⟨_, Store.mem_setError hr status lastError (env.now w.clockTick), rfl, rfl⟩

/-- A desired key the ledger did not list ends its processing with a row, active when the create
succeeded and in error otherwise. -/
theorem live_reconcileDNSKey_none (d : DesiredDNS) (w : World) (hfresh : FreshIDs w) :
    ∃ r ∈ ((reconcileDNSKey env cm none d).run.run w).2.store.rows,
      r.key = (.dns, d.service.hostname, d.service.type) ∧ (r.status = .active ∨ r.status = .error) := by
  simp only [reconcileDNSKey, run_bind, run_observe]
  rcases hc : (createDNSRecord env cm d.container.info d.service).run.run w with ⟨err | res, w₁⟩
  · -- the create failed: the error row takes a minted id, which no row has
    have hf₁ : FreshIDs w₁ := by
      have h := keepsFresh_createDNSRecord env cm w.fresh d.container.info d.service w
      rw [hc] at h
      exact h.2 le_rfl hfresh
    dsimp only
    rw [run_bind_snd (f := fun _ => (pure PUnit.unit : Op PUnit)) _ fun _ _ => rfl]
    obtain ⟨r, hr, hk, hs⟩ := saveResource_live env hstore (dnsErrorResource d err) w₁ (.inr ⟨rfl, hf₁⟩)
    exact ⟨r, hr, hk, .inr hs⟩
  · -- the create saved an active row; the agent's ID is written onto it in place
    obtain ⟨hk, hs, row, hrow, hrk, hrs⟩ := ensures_createDNSRecord env cm _ _ w res w₁ hc
    dsimp only
    split
    · rw [run_bind_snd (f := fun _ => (pure PUnit.unit : Op PUnit)) _ fun _ _ => rfl]
      obtain ⟨r, hr, hk', hs'⟩ := saveResource_live env hstore
        { res with agentID := d.container.agentID } w₁ (.inl ⟨row, hrow, hrk.trans hk.symm⟩)
      exact ⟨r, hr, hk'.trans hk, .inl (hs'.trans hs)⟩
    · exact ⟨row, hrow, hrk, .inl hrs⟩

/-- A listed row whose agent ID is already the container's: the update runs on `error`, `orphaned`
and drift and writes `active` or the error; otherwise the row is active already. -/
theorem live_reconcileDNSKey_agent (c : ManagedResource) (d : DesiredDNS) (w : World)
    (hagent : c.agentID = d.container.agentID) (hkey : c.key = (.dns, d.service.hostname, d.service.type))
    (hst : c.status ∈ [.active, .error, .orphaned])
    (hrow : ∃ r ∈ w.store.rows, r.id = c.id ∧ r.key = c.key ∧ r.status = c.status) :
    ∃ r ∈ ((reconcileDNSKey env cm (some c) d).run.run w).2.store.rows,
      r.key = (.dns, d.service.hostname, d.service.type) ∧ (r.status = .active ∨ r.status = .error) := by
  obtain ⟨r₀, hr₀, hid₀, hk₀, hs₀⟩ := hrow
  simp only [reconcileDNSKey, hagent, ne_eq, not_true_eq_false, if_false, run_bind, run_pure]
  split
  · rename_i hcond
    -- the update leaves the row under its id and key, and the status write then finds it
    have hkept : ∃ r ∈ ((updateDNSRecord env cm c d.service).run.run w).2.store.rows,
        r.id = c.id ∧ r.key = (.dns, d.service.hostname, d.service.type) := by
      obtain ⟨r, hr, hid, hk⟩ := keysKept_updateDNSRecord env cm c d.service w r₀ hr₀
      exact ⟨r, hr, hid.trans hid₀, hk.trans (hk₀.trans hkey)⟩
    rw [run_bind, run_observe]
    rcases hu : (updateDNSRecord env cm c d.service).run.run w with ⟨err | u, w₂⟩
    all_goals rw [hu] at hkept; dsimp only
    · rw [run_bind_snd (f := fun _ => (pure PUnit.unit : Op PUnit)) _ fun _ _ => rfl, run_observe]
      obtain ⟨r, hr, hk, hs⟩ := updateResourceError_live env hstore w₂ hkept .error err
      exact ⟨r, hr, hk, .inr hs⟩
    · split
      · rw [run_bind_snd (f := fun _ => (pure PUnit.unit : Op PUnit)) _ fun _ _ => rfl, run_observe]
        obtain ⟨r, hr, hk, hs⟩ := updateResourceError_live env hstore w₂ hkept .active ""
        exact ⟨r, hr, hk, .inl hs⟩
      · rename_i hclean
        obtain ⟨r, hr, hk, hs⟩ := ensures_updateDNSRecord env cm c d.service w u w₂ hu
        exact ⟨r, hr, hk.trans hkey, .inl (hs.trans (by tauto))⟩
  · rename_i hcond
    refine ⟨r₀, hr₀, hk₀.trans hkey, .inl ?_⟩
    simp only [List.mem_cons, List.mem_singleton, List.not_mem_nil, or_false] at hst
    rw [hs₀]
    tauto

/-- A desired key whose row the ledger listed ends its processing with a row active or in error:
the agent's ID is first written onto the row in place. -/
theorem live_reconcileDNSKey_some (c : ManagedResource) (d : DesiredDNS) (w : World)
    (hc : c ∈ w.store.rows) (hkey : c.key = (.dns, d.service.hostname, d.service.type))
    (hid : c.id ≠ "") (hst : c.status ∈ [.active, .error, .orphaned]) :
    ∃ r ∈ ((reconcileDNSKey env cm (some c) d).run.run w).2.store.rows,
      r.key = (.dns, d.service.hostname, d.service.type) ∧ (r.status = .active ∨ r.status = .error) := by
  by_cases hagent : c.agentID = d.container.agentID
  · exact live_reconcileDNSKey_agent env cm hstore c d w hagent hkey hst ⟨c, hc, rfl, rfl, rfl⟩
  obtain ⟨s', hs'⟩ : ∃ s', w.store.save
      ({ c with agentID := d.container.agentID }.stamp c.id env.now w.clockTick) = .ok s' :=
    Store.save_ok (x := { c with agentID := d.container.agentID }.stamp c.id env.now w.clockTick) (.inl ⟨c, hc, rfl⟩)
  have heq : (reconcileDNSKey env cm (some c) d).run.run w =
      (reconcileDNSKey env cm (some ({ c with agentID := d.container.agentID }.stamp c.id env.now w.clockTick)) d).run.run
        { w with store := s', storeTick := w.storeTick + 1, clockTick := w.clockTick + c.stampReads } := by
    simp only [ManagedResource.stamp] at hs'
    simp [reconcileDNSKey, hagent, run_bind, run_saveResource, hstore, hid, hs', ManagedResource.stamp,
      ManagedResource.stampReads]
  have hmem := Store.mem_save_conflict
    (x := { c with agentID := d.container.agentID }.stamp c.id env.now w.clockTick) hc rfl hs'
  rw [heq]
  exact live_reconcileDNSKey_agent env cm hstore _ d _ rfl hkey hst ⟨_, hmem, rfl, rfl, rfl⟩

/-- An upsert onto a key the ledger holds keeps its ids fresh, whatever id the resource has. -/
theorem keepsFresh_saveResource_of_key (f₀ : Nat) (x : ManagedResource) (w : World)
    (hkey : ∃ r ∈ w.store.rows, r.key = x.key) : KeepsFresh f₀ w ((saveResource env x).run.run w).2 := by
  have hfresh : w.fresh ≤ if x.id = "" then w.fresh + 1 else w.fresh := by split <;> omega
  rw [run_saveResource]
  simp only [hstore, Bool.false_eq_true, if_false]
  split
  · rename_i s hs
    refine ⟨hfresh, fun _ hw r' hr' n hn => ?_⟩
    obtain ⟨r, hr, hid⟩ := Store.ids_save_of_key (x := x.stamp _ _ _) hkey hs hr'
    exact hid ▸ hw r hr n (hfresh.trans hn)
  · exact ⟨hfresh, fun _ hw r hr n hn => hw r hr n (hfresh.trans hn)⟩

/-- Processing a key the ledger did not list keeps its ids fresh: the rows it inserts take minted
ids, and the agent's ID is written onto the created row in place. -/
theorem keepsFresh_reconcileDNSKey_none (f₀ : Nat) (d : DesiredDNS) (w : World) :
    KeepsFresh f₀ w ((reconcileDNSKey env cm none d).run.run w).2 := by
  have hcreate := keepsFresh_createDNSRecord env cm f₀ d.container.info d.service w
  simp only [reconcileDNSKey, run_bind, run_observe]
  rcases hc : (createDNSRecord env cm d.container.info d.service).run.run w with ⟨err | res, w₁⟩
  all_goals rw [hc] at hcreate; dsimp only
  · rw [run_bind_snd (f := fun _ => (pure PUnit.unit : Op PUnit)) _ fun _ _ => rfl]
    exact trans_of (KeepsFresh f₀) hcreate (keepsFresh_saveResource env f₀ _ (.inl rfl) w₁)
  · obtain ⟨hk, -, row, hrow, hrk, -⟩ := ensures_createDNSRecord env cm _ _ w res w₁ hc
    split
    · rw [run_bind_snd (f := fun _ => (pure PUnit.unit : Op PUnit)) _ fun _ _ => rfl]
      exact trans_of (KeepsFresh f₀) hcreate
        (keepsFresh_saveResource_of_key env hstore f₀ { res with agentID := d.container.agentID } w₁
          ⟨row, hrow, hrk.trans hk.symm⟩)
    · exact hcreate

end Key

section Fresh

variable (env : Env) (cm : CredentialManager) (f₀ : Nat)

/-- Processing a listed key keeps ids fresh: every write goes to the row's own id. -/
theorem keepsFresh_reconcileDNSKey_some (c : ManagedResource) (d : DesiredDNS) (hne : c.id ≠ "")
    (hid : ∀ n, f₀ ≤ n → c.id ≠ "uuid-" ++ toString n) :
    Frame (KeepsFresh f₀) (reconcileDNSKey env cm (some c) d) := by
  unfold reconcileDNSKey
  dsimp only
  split
  on_goal 1 =>
    refine Frame.bind_of (R := KeepsFresh f₀) (fun c' : ManagedResource => c'.id = c.id)
      (Frame.map _ (keepsFresh_saveResource env f₀ _ (.inr hid)))
      (Returns.map (returns_saveResource env _) fun p hp => hp.2 hne) fun c' hid' => ?_
  on_goal 2 =>
    refine Frame.bind_of (R := KeepsFresh f₀) (fun c' : ManagedResource => c'.id = c.id)
      (frame_pure _) (returns_pure rfl) fun c' hid' => ?_
  all_goals
    rw [← hid'] at hid
    with_reducible repeat' first
      | apply Frame.bind
      | apply Frame.ite
      | apply Frame.observe
      | intro _
      | split
      | exact frame_pure _
      | exact keepsFresh_updateDNSRecord env cm f₀ _ _ hid
      | exact keepsFresh_updateResourceError env f₀ _ _ _

end Fresh

/-- Every declared service has an entry of the desired map under its key. -/
theorem exists_mem_desiredDNSMap {desired : List ParsedContainer} {c : ParsedContainer} (hc : c ∈ desired)
    {svc : DNSService} (hsvc : svc ∈ c.dnsServices) : ∃ d, (dnsKey svc, d) ∈ desiredDNSMap desired := by
  have hmem : (dnsKey svc, (⟨c, svc⟩ : DesiredDNS)) ∈
      desired.flatMap fun c => c.dnsServices.map fun svc => (dnsKey svc, (⟨c, svc⟩ : DesiredDNS)) :=
    List.mem_flatMap.2 ⟨c, hc, List.mem_map_of_mem _ hsvc⟩
  have hsome : ((desiredDNSMap desired).lookup (dnsKey svc)).isSome := by
    rw [desiredDNSMap_eq_foldl, GoMap.lookup_foldl_insertNew, GoMap.lookup_nil, Option.none_or,
      Option.isSome_map']
    exact List.find?_isSome.2 ⟨_, hmem, by simp⟩
  obtain ⟨d, hd⟩ := Option.isSome_iff_exists.1 hsome
  exact ⟨d, GoMap.mem_of_lookup_eq_some hd⟩

/-! ## The loop over the desired keys -/

/-- The state of the loop: the map's rows are listed rows still in the ledger, and no row of the
ledger holds an id the counter can still mint. -/
def MapInv (m₀ : GoMap ManagedResource) (p : GoMap ManagedResource × World) : Prop :=
  MapFiled m₀ p ∧ FreshIDs p.2

section Pass

variable (env : Env) (cm : CredentialManager) (hstore : ∀ n, env.storeFails n = false)
  {m₀ : GoMap ManagedResource} (hm₀ : ∀ e ∈ m₀, Listed e)

include hstore hm₀

/-- Each turn keeps the loop's state: it writes only minted ids or the id of the row it holds. -/
theorem dnsKeyStep_inv {a : String × DesiredDNS} (ha : a.1 = dnsKey a.2.service)
    {p : GoMap ManagedResource × World} (hp : MapInv m₀ p) : MapInv m₀ (dnsKeyStep env cm a p) := by
  refine ⟨dnsKeyStep_filed env cm hm₀ ha hp.1, ?_⟩
  have hfr : KeepsFresh p.2.fresh p.2 (dnsKeyStep env cm a p).2 := by
    cases hl : p.1.lookup a.1 with
    | none =>
      simp only [dnsKeyStep, hl]
      exact keepsFresh_reconcileDNSKey_none env cm hstore _ a.2 p.2
    | some c =>
      obtain ⟨hc, -, hid, -⟩ := lookup_listed hm₀ hp.1 hl
      simp only [dnsKeyStep, hl]
      exact keepsFresh_reconcileDNSKey_some env cm _ c a.2 hid (hp.2 c hc) p.2
  exact hfr.2 le_rfl hp.2

/-- The turn of a key leaves a row of that key active or in error. -/
theorem dnsKeyStep_live {a : String × DesiredDNS} (ha : a.1 = dnsKey a.2.service)
    (hta : a.2.service.type ∈ Labels.validDNSTypes) {p : GoMap ManagedResource × World}
    (hp : MapInv m₀ p) :
    ∃ r ∈ (dnsKeyStep env cm a p).2.store.rows,
      r.key = (.dns, a.2.service.hostname, a.2.service.type) ∧ (r.status = .active ∨ r.status = .error) := by
  cases hl : p.1.lookup a.1 with
  | none =>
    simp only [dnsKeyStep, hl]
    exact live_reconcileDNSKey_none env cm hstore a.2 p.2 hp.2
  | some c =>
    obtain ⟨hc, hfiled, hid, hdns, hst, htype⟩ := lookup_listed hm₀ hp.1 hl
    obtain ⟨hh, ht⟩ := key_inj_right (colon_not_mem_of_validDNSType _ htype)
      (colon_not_mem_of_validDNSType _ hta) (hfiled.trans ha)
    simp only [dnsKeyStep, hl]
    exact live_reconcileDNSKey_some env cm hstore c a.2 p.2 hc
      (by rw [ManagedResource.key, hdns, hh, ht]) hid hst

/-- The loop over the desired keys ends with a live row of every key it visits: the key's turn
leaves one, and the turns of the other keys keep it. -/
theorem dnsKeyPass_live {desired : List ParsedContainer}
    (hkeys : ∀ a ∈ desiredDNSMap desired, a.1 = dnsKey a.2.service ∧
      a.2.service.type ∈ Labels.validDNSTypes)
    {x : String × DesiredDNS} (hx : x ∈ desiredDNSMap desired) {p : GoMap ManagedResource × World}
    (hp : MapInv m₀ p) :
    MapInv m₀ (dnsKeyPass env cm desired p) ∧ ∃ r ∈ (dnsKeyPass env cm desired p).2.store.rows,
      r.key = (.dns, x.2.service.hostname, x.2.service.type) ∧ (r.status = .active ∨ r.status = .error) := by
  have hturn : ∀ a ∈ desiredDNSMap desired, a.1 = x.1 → ∀ p, MapInv m₀ p →
      ∃ r ∈ (dnsKeyStep env cm a p).2.store.rows,
        r.key = (.dns, x.2.service.hostname, x.2.service.type) ∧ (r.status = .active ∨ r.status = .error) := by
    intro a ha hax p hp
    obtain ⟨hk, ht⟩ := hkeys a ha
    obtain ⟨hh, ht'⟩ := key_inj_right (colon_not_mem_of_validDNSType _ ht)
      (colon_not_mem_of_validDNSType _ (hkeys x hx).2) (hk.symm.trans (hax.trans (hkeys x hx).1))
    rw [← hh, ← ht']
    exact dnsKeyStep_live env cm hstore hm₀ hk ht hp
  refine foldl_reaches (MapInv m₀) (fun p => MapInv m₀ p ∧ ∃ r ∈ p.2.store.rows,
      r.key = (.dns, x.2.service.hostname, x.2.service.type) ∧ (r.status = .active ∨ r.status = .error))
    (fun p a ha hp => .inl (dnsKeyStep_inv env cm hstore hm₀ (hkeys a ha).1 hp)) ?_
    (fun p hp => ⟨dnsKeyStep_inv env cm hstore hm₀ (hkeys x hx).1 hp, hturn x hx rfl p hp⟩) hx p hp
  rintro p a ha ⟨hp, r, hr, hk, hst⟩
  refine ⟨dnsKeyStep_inv env cm hstore hm₀ (hkeys a ha).1 hp, ?_⟩
  by_cases hax : a.1 = x.1
  · exact hturn a ha hax p hp
  simp only [ManagedResource.key, Prod.mk.injEq] at hk
  refine ⟨r, dnsKeyStep_keeps env cm hm₀ (hkeys a ha).1 hp.1 hr (by rw [ManagedResource.key, hk.1]) ?_,
    by rw [ManagedResource.key, hk.1, hk.2.1, hk.2.2], hst⟩
  rw [hk.2.1, hk.2.2, ← dnsKey, ← (hkeys x hx).1]
  exact hax

end Pass

section Reconcile

variable (env : Env) (cm : CredentialManager)

/-- With a ledger that never fails, whose rows have ids, none of them an id the counter can still
mint, and record types the parser accepts, every DNS service a desired container declares ends
`Reconcile` with a ledger row of its hostname and type that is active or in error. -/
theorem reconcileDNS_keeps_declared_live (desired : List ParsedContainer) (w : World)
    (hstore : ∀ n, env.storeFails n = false) (hids : ∀ row ∈ w.store.rows, row.id ≠ "")
    (hfresh : FreshIDs w)
    (htypes : ∀ row ∈ w.store.rows, row.resourceType = .dns → row.recordType ∈ Labels.validDNSTypes)
    (hdtypes : ∀ c ∈ desired, ∀ svc ∈ c.dnsServices, svc.type ∈ Labels.validDNSTypes)
    {c : ParsedContainer} (hc : c ∈ desired) {svc : DNSService} (hsvc : svc ∈ c.dnsServices) :
    ∃ r ∈ ((reconcileDNS env cm desired).run.run w).2.store.rows,
      r.key = (.dns, svc.hostname, svc.type) ∧ (r.status = .active ∨ r.status = .error) := by
  obtain ⟨resources, hmem, hrun⟩ := run_reconcileDNS env cm desired w (hstore _)
  rw [hrun]
  have hm₀ := fun e (he : e ∈ currentDNSMap resources) => listed_currentDNSMap hmem hids htypes he
  have hl₀ : ∀ e ∈ currentDNSMap resources, Listed e := fun e he => (hm₀ e he).2
  have hkeys : ∀ a ∈ desiredDNSMap desired, a.1 = dnsKey a.2.service ∧
      a.2.service.type ∈ Labels.validDNSTypes := fun a ha => by
    obtain ⟨hk, c', hc', hs'⟩ := mem_desiredDNSMap ha
    exact ⟨hk, hdtypes c' hc' _ hs'⟩
  obtain ⟨dK, hx⟩ := exists_mem_desiredDNSMap hc hsvc
  -- the desired entry of the service's key is for the same hostname and type
  obtain ⟨hh, ht⟩ := key_inj_right (colon_not_mem_of_validDNSType _ (hdtypes c hc svc hsvc))
    (colon_not_mem_of_validDNSType _ (hkeys _ hx).2) (hkeys _ hx).1
  obtain ⟨⟨hfiled, -⟩, r, hr, hk, hst⟩ :=
    dnsKeyPass_live env cm hstore hl₀ hkeys hx
      (p := (currentDNSMap resources, { w with storeTick := w.storeTick + 1 }))
      ⟨fun e he => ⟨he, (hm₀ e he).1⟩, hfresh⟩
  rw [← hh, ← ht] at hk
  -- the orphan loop marks only rows left in the map, whose keys are not the service's
  refine ⟨r, orphanPass_keeps env (fun e he => ?_) hr, hk, hst⟩
  obtain ⟨hm, he₂⟩ := hfiled e he
  have hnot := ((mem_dnsKeyPass_fst env cm desired _ e).1 he).2
  obtain ⟨hfiledK, -, hdns, -⟩ := hl₀ e hm
  simp only [ManagedResource.key, Prod.mk.injEq] at hk
  have hkne : r.key ≠ e.2.key := fun h => hnot _ hx (by
    simp only [ManagedResource.key, Prod.mk.injEq] at h
    rw [← hfiledK, ← h.2.1, ← h.2.2, hk.2.1, hk.2.2, dnsKey])
  exact fun h => hkne (by rw [Store.eq_of_id_eq hr he₂ h])

end Reconcile

/-- Every call to the API fails: the pass still leaves a row of `web.example.com` in the ledger,
beside the stale row. -/
theorem webRecord_kept_despite_failures :
    ∃ r ∈ ((reconcileDNS (exampleEnv (fun _ => true) 100) singleAccountCredentials
        [dnsContainer "web" "web.example.com" "192.0.2.1"]).run.run staleAccount).2.store.rows,
      r.key = (.dns, "web.example.com", "A") ∧ (r.status = .active ∨ r.status = .error) :=
  reconcileDNS_keeps_declared_live (exampleEnv (fun _ => true) 100) singleAccountCredentials
    [dnsContainer "web" "web.example.com" "192.0.2.1"] staleAccount (fun _ => rfl) (by decide)
    (fun r hr n _ h => by
      rw [List.mem_singleton.1 hr] at h
      simpa [staleRow] using congrArg (fun s => s.data.head?) h)
    (by decide) (by decide) (List.mem_singleton_self _) (List.mem_singleton_self _)

end Labelgate
