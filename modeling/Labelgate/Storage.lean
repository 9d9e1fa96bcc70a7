import Mathlib.Data.List.Nodup
import Labelgate.Types

/-!
# The resource ledger

`storage.ManagedResource` and the SQLite table that holds it (`storage/sqlite.go`). The table's
two constraints, the primary key `id` and `UNIQUE(resource_type, hostname, record_type)`, are
fields of `Store`, so that no ledger the model reaches can break them: every operation below
builds its result with the proof that it keeps both (`save`, `setStatus`, `setError`,
`delete`). `save` is the upsert of `SaveResource`: a row with the saved resource's key is
overwritten in place and keeps its id and creation time.
-/

namespace Labelgate

/-- `storage.ResourceType`. -/
inductive ResourceType
  | dns
  | tunnelIngress
  | accessApp
deriving DecidableEq, Repr

/-- `storage.ResourceStatus`. -/
inductive ResourceStatus
  | active
  | orphaned
  | pendingCleanup
  | deleted
  | error
deriving DecidableEq, Repr

/-- `storage.ManagedResource`, a row of `managed_resources`; times are Unix seconds, `0` being
Go's zero time. -/
structure ManagedResource where
  id : String := ""
  resourceType : ResourceType
  cfid : String := ""
  zoneID : String := ""
  hostname : String
  recordType : String := ""
  content : String := ""
  proxied : Bool := false
  ttl : Int := 0
  tunnelID : String := ""
  service : String := ""
  path : String := ""
  accessAppID : String := ""
  accountID : String := ""
  containerID : String := ""
  containerName : String := ""
  serviceName : String
  agentID : String := ""
  status : ResourceStatus
  cleanupEnabled : Bool
  lastError : String := ""
  createdAt : Int := 0
  updatedAt : Int := 0
deriving DecidableEq, Repr

namespace ManagedResource

/-- The columns of `UNIQUE(resource_type, hostname, record_type)`. -/
def key (r : ManagedResource) : ResourceType × String × String :=
  (r.resourceType, r.hostname, r.recordType)

/-- The row after `ON CONFLICT(resource_type, hostname, record_type) DO UPDATE SET ...`: it keeps
its id, its key and its creation time, and takes every other column from `r`. -/
def conflictUpdate (row r : ManagedResource) : ManagedResource :=
  { r with id := row.id, resourceType := row.resourceType, hostname := row.hostname,
           recordType := row.recordType, createdAt := row.createdAt }

@[simp] theorem conflictUpdate_key (row r : ManagedResource) :
    (row.conflictUpdate r).key = row.key := rfl

@[simp] theorem conflictUpdate_id (row r : ManagedResource) : (row.conflictUpdate r).id = row.id :=
  rfl

end ManagedResource

/-- The rows of `managed_resources`, with the table's two constraints. -/
structure Store where
  rows : List ManagedResource
  keys_nodup : (rows.map ManagedResource.key).Nodup
  ids_nodup : (rows.map ManagedResource.id).Nodup

namespace Store

/-- The empty table. -/
def empty : Store := ⟨[], List.nodup_nil, List.nodup_nil⟩

/-- Rewriting rows in place with a map that keeps each row's key and id keeps both
constraints. -/
def mapRows (s : Store) (f : ManagedResource → ManagedResource)
    (hkey : ∀ r, (f r).key = r.key) (hid : ∀ r, (f r).id = r.id) : Store :=
  ⟨s.rows.map f, by simpa [List.map_map, Function.comp_def, hkey] using s.keys_nodup,
    by simpa [List.map_map, Function.comp_def, hid] using s.ids_nodup⟩

/-- Two rows of the table with the same id are the same row. -/
theorem eq_of_id_eq {s : Store} {r r' : ManagedResource} (hr : r ∈ s.rows) (hr' : r' ∈ s.rows)
    (h : r.id = r'.id) : r = r' :=
  List.inj_on_of_nodup_map s.ids_nodup hr hr' h

/-- Two rows of the table with the same key are the same row. -/
theorem eq_of_key_eq {s : Store} {r r' : ManagedResource} (hr : r ∈ s.rows) (hr' : r' ∈ s.rows)
    (h : r.key = r'.key) : r = r' :=
  List.inj_on_of_nodup_map s.keys_nodup hr hr' h

/-- The row with id `id`, if there is one. -/
def find? (s : Store) (id : String) : Option ManagedResource := s.rows.find? (·.id == id)

/-- The upsert of `SaveResource`. A row with the same key is overwritten in place; otherwise a
row with the same id violates the primary key; otherwise the resource is inserted. -/
def save (s : Store) (r : ManagedResource) : Except String Store :=
  if hkey : s.rows.any (·.key == r.key) then
    .ok (s.mapRows (fun row => if row.key = r.key then row.conflictUpdate r else row)
      (fun row => by dsimp only; split <;> simp) (fun row => by dsimp only; split <;> simp))
  else if hid : s.rows.any (·.id == r.id) then
    .error "constraint failed: UNIQUE constraint failed: managed_resources.id"
  else
    .ok ⟨s.rows ++ [r], by
      have : r.key ∉ s.rows.map ManagedResource.key := by simpa using hkey
      simpa [List.nodup_append, this] using s.keys_nodup, by
      have : r.id ∉ s.rows.map ManagedResource.id := by simpa using hid
      simpa [List.nodup_append, this] using s.ids_nodup⟩

/-- An upsert on a key the table holds succeeds. -/
theorem save_ok_of_mem {s : Store} {r row : ManagedResource} (hrow : row ∈ s.rows)
    (hkey : row.key = r.key) : ∃ s', s.save r = .ok s' := by
  have hany : s.rows.any (·.key == r.key) := List.any_eq_true.2 ⟨row, hrow, by simp [hkey]⟩
  simp [save, hany]

/-- The row of an id is the one row with that id. -/
theorem find?_of_mem {s : Store} {r : ManagedResource} (hr : r ∈ s.rows) : s.find? r.id = some r := by
  cases h : s.rows.find? (·.id == r.id) with
  | none => exact absurd (List.find?_eq_none.1 h r hr) (by simp)
  | some r' =>
    have hid : r'.id = r.id := by simpa using List.find?_some h
    exact (congrArg some (eq_of_id_eq (List.mem_of_find?_eq_some h) hr hid)).symm ▸ h

theorem mem_of_find? {s : Store} {i : String} {r : ManagedResource} (h : s.find? i = some r) :
    r ∈ s.rows ∧ r.id = i :=
  ⟨List.mem_of_find?_eq_some h, by simpa using List.find?_some h⟩

/-- An upsert on a key the table holds rewrites that row in place: a column on which the row
and its rewrite agree keeps all its values. -/
theorem save_map_eq {s s' : Store} {r row : ManagedResource} (hrow : row ∈ s.rows)
    (hkey : row.key = r.key) (h : s.save r = .ok s') {α : Type} (f : ManagedResource → α)
    (hf : f (row.conflictUpdate r) = f row) : s'.rows.map f = s.rows.map f := by
  have hany : s.rows.any (·.key == r.key) := List.any_eq_true.2 ⟨row, hrow, by simp [hkey]⟩
  simp only [save, hany, dite_true, Except.ok.injEq] at h
  subst h
  simp only [mapRows, List.map_map]
  refine List.map_congr_left fun row' hrow' => ?_
  by_cases hk : row'.key = r.key
  · obtain rfl := eq_of_key_eq hrow' hrow (hk.trans hkey.symm)
    simp [hk, hf]
  · simp [hk]

/-- Every row after an upsert is a row that was there, under its id and key, or the row written. -/
theorem mem_save {s s' : Store} {x r : ManagedResource} (h : s.save x = .ok s') (hr : r ∈ s'.rows) :
    (∃ r₀ ∈ s.rows, r₀.id = r.id ∧ r₀.key = r.key) ∨ r = x := by
  unfold save at h
  split at h
  · cases h
    obtain ⟨r₀, h₀, rfl⟩ := List.mem_map.1 hr
    exact .inl ⟨r₀, h₀, by split <;> simp, by split <;> simp⟩
  · split at h
    · cases h
    · cases h
      rcases List.mem_append.1 hr with hr | hr
      · exact .inl ⟨r, hr, rfl, rfl⟩
      · exact .inr (List.mem_singleton.1 hr)

/-- Every row before an upsert is still there under its id and key. -/
theorem keys_save {s s' : Store} {x r : ManagedResource} (h : s.save x = .ok s') (hr : r ∈ s.rows) :
    ∃ r' ∈ s'.rows, r'.id = r.id ∧ r'.key = r.key := by
  unfold save at h
  split at h
  · cases h
    exact ⟨_, List.mem_map_of_mem _ hr, by split <;> simp, by split <;> simp⟩
  · split at h
    · cases h
    · cases h
      exact ⟨r, List.mem_append_left _ hr, rfl, rfl⟩

/-- An upsert that succeeds leaves the written resource in the table, under its own id and
creation time or under those of the row of its key. -/
theorem mem_save_written {s s' : Store} {x : ManagedResource} (h : s.save x = .ok s') :
    ∃ id createdAt, { x with id, createdAt } ∈ s'.rows := by
  unfold save at h
  split at h
  · rename_i hany
    cases h
    obtain ⟨row, hrow, hk⟩ := List.any_eq_true.1 hany
    simp only [ManagedResource.key, beq_iff_eq, Prod.mk.injEq] at hk
    refine ⟨row.id, row.createdAt, ?_⟩
    simpa [mapRows, ManagedResource.key, hk, ManagedResource.conflictUpdate] using
      List.mem_map_of_mem (fun row => if row.key = x.key then row.conflictUpdate x else row) hrow
  · split at h
    · cases h
    · cases h
      exact ⟨x.id, x.createdAt, List.mem_append_right _ (List.mem_singleton_self _)⟩

/-- An upsert that succeeds leaves a row of the written key and status. -/
theorem written_save {s s' : Store} {x : ManagedResource} (h : s.save x = .ok s') :
    ∃ r ∈ s'.rows, r.key = x.key ∧ r.status = x.status :=
  let ⟨_, _, hr⟩ := mem_save_written h
  ⟨_, hr, rfl, rfl⟩

/-- An upsert succeeds on a key the table holds, or with an id no row has. -/
theorem save_ok {s : Store} {x : ManagedResource}
    (h : (∃ r ∈ s.rows, r.key = x.key) ∨ ∀ r ∈ s.rows, r.id ≠ x.id) : ∃ s', s.save x = .ok s' := by
  rcases h with ⟨r, hr, hk⟩ | hid
  · exact save_ok_of_mem hr hk
  · unfold save
    split
    · exact ⟨_, rfl⟩
    · rw [dif_neg (by simpa using fun r hr h => hid r hr h)]
      exact ⟨_, rfl⟩

/-- An upsert onto a row of the table rewrites that row in place. -/
theorem mem_save_conflict {s s' : Store} {x r : ManagedResource} (hr : r ∈ s.rows)
    (hk : r.key = x.key) (h : s.save x = .ok s') : r.conflictUpdate x ∈ s'.rows := by
  have hany : s.rows.any (·.key == x.key) := List.any_eq_true.2 ⟨r, hr, by simp [hk]⟩
  simp only [save, hany, dite_true, Except.ok.injEq] at h
  subst h
  simpa [mapRows, hk] using List.mem_map_of_mem (fun row => if row.key = x.key then
    row.conflictUpdate x else row) hr

/-- An upsert onto a key the table holds writes no new id. -/
theorem ids_save_of_key {s s' : Store} {x : ManagedResource} (hkey : ∃ r ∈ s.rows, r.key = x.key)
    (h : s.save x = .ok s') {r' : ManagedResource} (hr' : r' ∈ s'.rows) : ∃ r ∈ s.rows, r.id = r'.id := by
  obtain ⟨r, hr, hk⟩ := hkey
  have hany : s.rows.any (·.key == x.key) := List.any_eq_true.2 ⟨r, hr, by simp [hk]⟩
  simp only [save, hany, dite_true, Except.ok.injEq] at h
  subst h
  obtain ⟨r₀, h₀, rfl⟩ := List.mem_map.1 hr'
  exact ⟨r₀, h₀, by split <;> simp⟩

/-- `UpdateResourceStatus`: `UPDATE ... SET status = ?, updated_at = ? WHERE id = ?`. -/
def setStatus (s : Store) (id : String) (status : ResourceStatus) (now : Int) : Store :=
  s.mapRows (fun row => if row.id = id then { row with status, updatedAt := now } else row)
    (fun row => by dsimp only; split <;> rfl) (fun row => by dsimp only; split <;> simp_all)

/-- `UpdateResourceError`: `UPDATE ... SET status = ?, last_error = ?, updated_at = ? WHERE id = ?`. -/
def setError (s : Store) (id : String) (status : ResourceStatus) (lastError : String)
    (now : Int) : Store :=
  s.mapRows
    (fun row => if row.id = id then { row with status, lastError, updatedAt := now } else row)
    (fun row => by dsimp only; split <;> rfl) (fun row => by dsimp only; split <;> simp_all)

/-- `UPDATE ... WHERE id = ?` changes no column that ignores the status, the last error and the
update time. -/
theorem setError_map (s : Store) (id : String) (status : ResourceStatus) (lastError : String)
    (now : Int) {α : Type} (f : ManagedResource → α)
    (hf : ∀ r : ManagedResource, ∀ st e t, f { r with status := st, lastError := e, updatedAt := t } = f r) :
    (s.setError id status lastError now).rows.map f = s.rows.map f := by
  simp only [setError, mapRows, List.map_map]
  refine List.map_congr_left fun r _ => ?_
  dsimp only [Function.comp]
  split
  · exact hf _ _ _ _
  · rfl

theorem setStatus_map (s : Store) (id : String) (status : ResourceStatus) (now : Int) {α : Type}
    (f : ManagedResource → α)
    (hf : ∀ r : ManagedResource, ∀ st t, f { r with status := st, updatedAt := t } = f r) :
    (s.setStatus id status now).rows.map f = s.rows.map f := by
  simp only [setStatus, mapRows, List.map_map]
  refine List.map_congr_left fun r _ => ?_
  dsimp only [Function.comp]
  split
  · exact hf _ _ _
  · rfl

/-- The row `UpdateResourceError` rewrites. -/
theorem mem_setError {s : Store} {r : ManagedResource} (hr : r ∈ s.rows) (status : ResourceStatus)
    (lastError : String) (now : Int) :
    { r with status, lastError, updatedAt := now } ∈ (s.setError r.id status lastError now).rows :=
  List.mem_map.2 ⟨r, hr, if_pos rfl⟩

/-- `UpdateResourceStatus` on one id leaves the row of any other id as it is. -/
theorem find?_setStatus (s : Store) {id i : String} (h : id ≠ i) (status : ResourceStatus)
    (now : Int) : (s.setStatus id status now).find? i = s.find? i := by
  simp only [find?, setStatus, mapRows]
  induction s.rows with
  | nil => rfl
  | cons r rows ih =>
    by_cases hr : r.id = id
    · simp [List.find?_cons, hr, h, ih]
    · simp [List.find?_cons, hr, ih]

/-- Setting rows to the status they already have changes no id, status or record ID. -/
theorem setError_map_of_status (s : Store) (id : String) (status : ResourceStatus)
    (lastError : String) (now : Int) (h : ∀ r ∈ s.rows, r.id = id → r.status = status) :
    (s.setError id status lastError now).rows.map (fun r => (r.id, r.status, r.cfid)) =
      s.rows.map (fun r => (r.id, r.status, r.cfid)) := by
  simp only [setError, mapRows, List.map_map]
  refine List.map_congr_left fun r hr => ?_
  by_cases hid : r.id = id <;> simp [hid, h r hr]

/-- `DeleteResource`: `DELETE FROM managed_resources WHERE id = ?`. -/
def delete (s : Store) (id : String) : Store :=
  ⟨s.rows.filter (·.id != id), s.keys_nodup.sublist ((List.filter_sublist _).map _),
    s.ids_nodup.sublist ((List.filter_sublist _).map _)⟩

end Store

end Labelgate
