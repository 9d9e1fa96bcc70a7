import Labelgate.Labels.Parser

/-!
# The parse does not depend on the order of the labels

`Parse` ranges over a container's label map, and each group's parse ranges over the group's
property map; Go visits both in an unspecified order. In the model every map is a `GoMap` in the
order a `range` visits it, a group's properties are in the order of their labels, and the groups in
the order of their first labels, so every order of the groups and of each group's properties is
the order of some permutation of the labels. The result is the same for every permutation: the
same DNS and tunnel services, up to order; the same
access-policy map, up to the order of each policy's rules; and as many errors. The errors
themselves may differ: `parseAccessPolicyDef` reports the first bad label it meets.

The proof has two halves.

* The grouping. Each label is skipped, refused with an error, or filed under its kind, service and
  property (`groupLabel_cases`). Two labels of distinct keys are filed under distinct service and
  property pairs, so the grouping of two orders gives groups with the same properties under the
  same services (`Grouped.Equiv`), by a fold lemma over permutations (`foldl_rel_of_perm`).
* The parse of the groups. A group's parse reads its properties through a fold whose steps commute
  on distinct keys: each DNS or tunnel label sets only the field of its key
  (`applyDNSProperty_eq`), and each access label sets one field or adds one rule. A service's parse
  is thus a function of its properties as a map, and the loops over the groups give permuted lists.
-/

namespace Labelgate

/-! ## Folds over a permuted list -/

/-- A fold whose steps respect a relation and, on entries of distinct keys, commute up to it, ends
related on any two orders of a list of distinct keys. -/
theorem foldl_rel_of_perm {α β : Type} {r : β → β → Prop} (hrefl : ∀ b, r b b)
    (htrans : ∀ {a b c}, r a b → r b c → r a c) {f : β → α → β} (key : α → String)
    (hresp : ∀ x {b b'}, r b b' → r (f b x) (f b' x))
    (hcomm : ∀ x y b, key x ≠ key y → r (f (f b x) y) (f (f b y) x))
    {l l' : List α} (hp : l.Perm l') (hnd : (l.map key).Nodup) (b : β) :
    r (l.foldl f b) (l'.foldl f b) := by
  have hfold : ∀ (l : List α) {b b'}, r b b' → r (l.foldl f b) (l.foldl f b') := by
    intro l
    induction l with
    | nil => exact id
    | cons x l ih => exact fun h => ih (hresp x h)
  induction hp generalizing b with
  | nil => exact hrefl b
  | cons x _ ih => exact ih (List.nodup_cons.1 hnd).2 _
  | swap x y l =>
    have hne : key y ≠ key x := fun h => (List.nodup_cons.1 hnd).1 (by simp [h])
    exact hfold l (hcomm y x b hne)
  | trans h₁ _ ih₁ ih₂ => exact htrans (ih₁ hnd b) (ih₂ ((h₁.map key).nodup_iff.1 hnd) b)

/-- The commutation that `List.Perm.foldl_eq'` asks for, from the one on entries of distinct keys. -/
theorem comm_of_key_ne {α β : Type} (f : β → String × α → β) {l : List (String × α)}
    (hnd : (l.map (·.1)).Nodup)
    (hcomm : ∀ x y b, x.1 ≠ y.1 → f (f b x) y = f (f b y) x) :
    ∀ x ∈ l, ∀ y ∈ l, ∀ b, f (f b x) y = f (f b y) x := by
  intro x hx y hy b
  by_cases hxy : x.1 = y.1
  · rw [List.inj_on_of_nodup_map hnd hx hy hxy]
  · exact hcomm x y b hxy

namespace GoMap

variable {V : Type}

theorem mem_iff_lookup {m : GoMap V} (hm : (m.map (·.1)).Nodup) (p : String × V) :
    p ∈ m ↔ m.lookup p.1 = some p.2 := by
  rw [lookup, Option.map_eq_some']
  constructor
  · exact fun hp => ⟨p, (find?_key_eq_some_iff hm).2 ⟨hp, rfl⟩, rfl⟩
  · rintro ⟨q, hq, hv⟩
    obtain ⟨hq, hk⟩ := (find?_key_eq_some_iff hm).1 hq
    rwa [← Prod.ext hk hv]

/-- Two maps of distinct keys with the same lookups are the same entries in some order. -/
theorem perm_of_lookup_eq {m m' : GoMap V} (hm : (m.map (·.1)).Nodup) (hm' : (m'.map (·.1)).Nodup)
    (h : ∀ k, m.lookup k = m'.lookup k) : m.Perm m' :=
  (List.perm_ext_iff_of_nodup (hm.of_map _) (hm'.of_map _)).2 fun p => by
    rw [mem_iff_lookup hm, mem_iff_lookup hm', h]

theorem lookup_eq_of_perm {m m' : GoMap V} (hm : (m.map (·.1)).Nodup) (hp : m.Perm m')
    (k : String) : m.lookup k = m'.lookup k := by
  have hfind : m.find? (·.1 == k) = m'.find? (·.1 == k) := Option.ext fun p => by
    rw [Option.mem_def, Option.mem_def, find?_key_eq_some_iff hm,
      find?_key_eq_some_iff ((hp.map _).nodup_iff.1 hm), hp.mem_iff]
  simp only [lookup, hfind]

theorem lookup_map {W : Type} (m : GoMap V) (f : String → V → W) (k : String) :
    GoMap.lookup (m.map fun p => (p.1, f p.1 p.2)) k = (m.lookup k).map (f k) := by
  induction m with
  | nil => rfl
  | cons p m ih =>
    rw [List.map_cons, lookup_cons, lookup_cons, ih]
    split_ifs with h
    · subst h; rfl
    · rfl

theorem mem_keys_insert {m : GoMap V} {k k' : String} {v : V}
    (h : k' ∈ (m.insert k v).map (·.1)) : k' ∈ m.map (·.1) ∨ k' = k := by
  obtain ⟨p, hp, rfl⟩ := List.mem_map.1 h
  rcases mem_insert hp with rfl | hp
  · exact .inr rfl
  · exact .inl (List.mem_map_of_mem _ hp)

theorem nodup_insert {m : GoMap V} (hm : (m.map (·.1)).Nodup) (k : String) (v : V) :
    ((m.insert k v).map (·.1)).Nodup := by
  induction m with
  | nil => simp [insert]
  | cons p m ih =>
    rw [List.map_cons, List.nodup_cons] at hm
    unfold insert
    split_ifs with h
    · simpa [h] using hm
    · refine List.nodup_cons.2 ⟨fun hmem => ?_, ih hm.2⟩
      rcases mem_keys_insert hmem with hmem | hmem
      · exact hm.1 hmem
      · exact h hmem

theorem nodup_erase {m : GoMap V} (hm : (m.map (·.1)).Nodup) (k : String) :
    ((m.erase k).map (·.1)).Nodup :=
  ((List.filter_sublist m).map _).nodup hm

end GoMap

namespace Labels

/-! ## Groups with the same properties -/

/-- Two sets of groups hold the same services, each with the same value for every property. -/
def LabelGroups.Equiv (m m' : LabelGroups) : Prop :=
  ∀ s k, ((m.lookup s).map fun q => q.lookup k) = ((m'.lookup s).map fun q => q.lookup k)

/-- Each group is a map of distinct properties, under distinct service names. -/
def LabelGroups.WF (m : LabelGroups) : Prop :=
  (m.map (·.1)).Nodup ∧ ∀ np ∈ m, (np.2.map (·.1)).Nodup

namespace LabelGroups

theorem Equiv.refl (m : LabelGroups) : m.Equiv m := fun _ _ => rfl

theorem Equiv.trans {m₁ m₂ m₃ : LabelGroups} (h₁ : m₁.Equiv m₂) (h₂ : m₂.Equiv m₃) :
    m₁.Equiv m₃ := fun s k => (h₁ s k).trans (h₂ s k)

@[simp]
theorem lookup_add (m : LabelGroups) (s prop v s' : String) :
    (m.add s prop v).lookup s' =
      if s = s' then some (((m.lookup s).getD []).insert prop v) else m.lookup s' :=
  GoMap.lookup_insert _ _ _ _

theorem lookup_getD (o : Option (GoMap String)) (k : String) :
    (o.getD []).lookup k = (o.map fun q => q.lookup k).getD none := by
  cases o <;> rfl

theorem Equiv.add {m m' : LabelGroups} (h : m.Equiv m') (s prop v : String) :
    (m.add s prop v).Equiv (m'.add s prop v) := by
  intro s' k
  simp only [lookup_add]
  split_ifs with hs
  · subst hs
    simp only [Option.map_some', GoMap.lookup_insert, lookup_getD, h s k]
  · exact h s' k

/-- Filing two properties commutes unless they are the same property of the same service. -/
theorem add_add {m : LabelGroups} {s₁ s₂ p₁ p₂ : String} (h : ¬(s₁ = s₂ ∧ p₁ = p₂))
    (v₁ v₂ : String) :
    ((m.add s₁ p₁ v₁).add s₂ p₂ v₂).Equiv ((m.add s₂ p₂ v₂).add s₁ p₁ v₁) := by
  intro s k
  by_cases h₁ : s₁ = s <;> by_cases h₂ : s₂ = s
  · subst h₁ h₂
    have hp : p₁ ≠ p₂ := fun hp => h ⟨rfl, hp⟩
    simp only [lookup_add, if_true, Option.getD_some, Option.map_some', GoMap.lookup_insert]
    split_ifs <;> simp_all
  all_goals simp [lookup_add, h₁, h₂]

theorem Equiv.erase {m m' : LabelGroups} (h : m.Equiv m') (k : String) :
    LabelGroups.Equiv (m.erase k) (m'.erase k) := by
  intro s k'
  simp only [GoMap.lookup_erase]
  split_ifs
  · rfl
  · exact h s k'

theorem WF.add {m : LabelGroups} (h : m.WF) (s prop v : String) : (m.add s prop v).WF := by
  refine ⟨GoMap.nodup_insert h.1 _ _, fun np hnp => ?_⟩
  rcases GoMap.mem_insert hnp with rfl | hnp
  · refine GoMap.nodup_insert ?_ _ _
    cases hl : m.lookup s with
    | none => exact List.nodup_nil
    | some q => exact h.2 _ (GoMap.mem_of_lookup_eq_some hl)
  · exact h.2 np hnp

theorem WF.erase {m : LabelGroups} (h : m.WF) (k : String) : LabelGroups.WF (m.erase k) :=
  ⟨GoMap.nodup_erase h.1 k, fun np hnp => h.2 np (List.mem_filter.1 hnp).1⟩

/-- In groups with the same properties, a service is missing from both or present in both with
properties that are the same map in two orders. -/
theorem Equiv.lookup_rel {m m' : LabelGroups} (h : m.Equiv m') (hm : m.WF) (hm' : m'.WF)
    (s : String) :
    Option.Rel (fun q q' => (q.map (·.1)).Nodup ∧ q.Perm q') (m.lookup s) (m'.lookup s) := by
  cases hl : m.lookup s with
  | none =>
    cases hl' : m'.lookup s with
    | none => exact .none
    | some q' => simpa [hl, hl'] using h s ""
  | some q =>
    cases hl' : m'.lookup s with
    | none => simpa [hl, hl'] using h s ""
    | some q' =>
      have hq := hm.2 _ (GoMap.mem_of_lookup_eq_some hl)
      have hq' := hm'.2 _ (GoMap.mem_of_lookup_eq_some hl')
      exact .some ⟨hq, GoMap.perm_of_lookup_eq hq hq' fun k => by simpa [hl, hl'] using h s k⟩

/-- Two functions of a service's name and properties that agree on two orders of the same
properties give, over groups with the same properties, the same values in some order. -/
theorem Equiv.map_perm {γ : Type} {m m' : LabelGroups} (h : m.Equiv m') (hm : m.WF) (hm' : m'.WF)
    (F F' : String → GoMap String → γ)
    (hF : ∀ s q q', (q.map (·.1)).Nodup → q.Perm q' → F s q = F' s q') :
    (m.map fun np => F np.1 np.2).Perm (m'.map fun np => F' np.1 np.2) := by
  have hkeys : ∀ (m : LabelGroups) (F : String → GoMap String → γ),
      ((m.map fun np => (np.1, F np.1 np.2)).map (·.1)) = m.map (·.1) :=
    fun m F => by simp [List.map_map, Function.comp_def]
  have hperm := GoMap.perm_of_lookup_eq ((hkeys m F).symm ▸ hm.1) ((hkeys m' F').symm ▸ hm'.1)
    fun s => by
      rw [GoMap.lookup_map, GoMap.lookup_map]
      have hrel := h.lookup_rel hm hm' s
      revert hrel
      generalize m.lookup s = o
      generalize m'.lookup s = o'
      rintro (⟨⟨hq, hqq'⟩⟩ | _)
      · exact congrArg some (hF s _ _ hq hqq')
      · rfl
  simpa [List.map_map, Function.comp_def] using hperm.map Prod.snd

end LabelGroups

/-- The groups of two orders of the labels: the same properties under the same services for each
kind, and the same refused names. -/
structure Grouped.Equiv (g g' : Grouped) : Prop where
  dns : g.dns.Equiv g'.dns
  tunnel : g.tunnel.Equiv g'.tunnel
  access : g.access.Equiv g'.access
  errors : g.errors.Perm g'.errors

/-- Every group of every kind is well formed. -/
structure Grouped.WF (g : Grouped) : Prop where
  dns : g.dns.WF
  tunnel : g.tunnel.WF
  access : g.access.WF

theorem Grouped.Equiv.refl (g : Grouped) : g.Equiv g :=
  ⟨.refl _, .refl _, .refl _, .refl _⟩

theorem Grouped.Equiv.trans {g₁ g₂ g₃ : Grouped} (h₁ : g₁.Equiv g₂) (h₂ : g₂.Equiv g₃) :
    g₁.Equiv g₃ :=
  ⟨h₁.dns.trans h₂.dns, h₁.tunnel.trans h₂.tunnel, h₁.access.trans h₂.access,
    h₁.errors.trans h₂.errors⟩

end Labels

open Labels

namespace Parser

variable (p : Parser)

/-- What one label does to the groups, whatever they hold: nothing, an error, or the filing of
its value under its kind, service and property. -/
theorem groupLabel_cases (key value : String) :
    (∀ g, p.groupLabel g key value = g) ∨
    (∃ e, ∀ g, p.groupLabel g key value = { g with errors := g.errors ++ [e] }) ∨
    (∃ s prop, key = p.labelKey "dns" s prop ∧
      ∀ g, p.groupLabel g key value = { g with dns := g.dns.add s prop value }) ∨
    (∃ s prop, key = p.labelKey "tunnel" s prop ∧
      ∀ g, p.groupLabel g key value = { g with tunnel := g.tunnel.add s prop value }) ∨
    (∃ s prop, key = p.labelKey "access" s prop ∧
      ∀ g, p.groupLabel g key value = { g with access := g.access.add s prop value }) := by
  by_cases hpfx : hasPrefix key (p.labelPrefix ++ ".") = false
  · exact .inl fun g => by simp [groupLabel, hpfx]
  cases hsplit : splitN3 (trimPrefix key (p.labelPrefix ++ ".")) '.' with
  | none => exact .inl fun g => by simp [groupLabel, hpfx, hsplit]
  | some t =>
    obtain ⟨labelType, s, prop⟩ := t
    have hkey := p.key_eq_labelKey (by simpa using hpfx) hsplit
    by_cases hres : s ∈ reservedNames ∧ s ≠ "default"
    · exact .inr (.inl ⟨_, fun g => by simp only [groupLabel, hpfx, hsplit, if_pos hres]; rfl⟩)
    by_cases hpat : s ≠ "default" ∧ matchesServiceName s = false
    · exact .inr (.inl ⟨_, fun g => by
        simp only [groupLabel, hpfx, hsplit, if_neg hres, if_pos hpat]; rfl⟩)
    by_cases hdns : labelType = "dns"
    · subst hdns
      exact .inr (.inr (.inl ⟨s, prop, hkey, fun g => by
        simp only [groupLabel, hpfx, hsplit, if_neg hres, if_neg hpat]; rfl⟩))
    by_cases htun : labelType = "tunnel"
    · subst htun
      exact .inr (.inr (.inr (.inl ⟨s, prop, hkey, fun g => by
        simp only [groupLabel, hpfx, hsplit, if_neg hres, if_neg hpat]; rfl⟩)))
    by_cases hacc : labelType = "access"
    · subst hacc
      exact .inr (.inr (.inr (.inr ⟨s, prop, hkey, fun g => by
        simp only [groupLabel, hpfx, hsplit, if_neg hres, if_neg hpat]; rfl⟩)))
    exact .inl fun g => by
      simp only [groupLabel, hpfx, hsplit, if_neg hres, if_neg hpat]
      split <;> simp_all

theorem groupLabel_wf {g : Grouped} (h : g.WF) (key value : String) :
    (p.groupLabel g key value).WF := by
  rcases p.groupLabel_cases key value with
    h₁ | ⟨e, h₁⟩ | ⟨s, q, -, h₁⟩ | ⟨s, q, -, h₁⟩ | ⟨s, q, -, h₁⟩ <;> rw [h₁]
  · exact h
  · exact ⟨h.dns, h.tunnel, h.access⟩
  · exact ⟨h.dns.add _ _ _, h.tunnel, h.access⟩
  · exact ⟨h.dns, h.tunnel.add _ _ _, h.access⟩
  · exact ⟨h.dns, h.tunnel, h.access.add _ _ _⟩

/-- The groups of any labels are maps of distinct properties under distinct services. -/
theorem groupLabels_wf (labels : GoMap String) : (p.groupLabels labels).WF := by
  suffices ∀ (l : GoMap String) (g : Grouped), g.WF →
      (l.foldl (fun g kv => p.groupLabel g kv.1 kv.2) g).WF from
    this labels {} ⟨⟨List.nodup_nil, nofun⟩, ⟨List.nodup_nil, nofun⟩, ⟨List.nodup_nil, nofun⟩⟩
  intro l
  induction l with
  | nil => exact fun _ h => h
  | cons kv l ih => exact fun g h => ih _ (p.groupLabel_wf h kv.1 kv.2)

theorem groupLabel_equiv {g g' : Grouped} (h : g.Equiv g') (key value : String) :
    (p.groupLabel g key value).Equiv (p.groupLabel g' key value) := by
  rcases p.groupLabel_cases key value with
    h₁ | ⟨e, h₁⟩ | ⟨s, q, -, h₁⟩ | ⟨s, q, -, h₁⟩ | ⟨s, q, -, h₁⟩ <;> rw [h₁, h₁]
  · exact h
  · exact ⟨h.dns, h.tunnel, h.access, h.errors.append_right _⟩
  · exact ⟨h.dns.add _ _ _, h.tunnel, h.access, h.errors⟩
  · exact ⟨h.dns, h.tunnel.add _ _ _, h.access, h.errors⟩
  · exact ⟨h.dns, h.tunnel, h.access.add _ _ _, h.errors⟩

theorem perm_append_pair {α : Type} (l : List α) (a b : α) :
    ((l ++ [a]) ++ [b]).Perm ((l ++ [b]) ++ [a]) := by
  simp only [List.append_assoc, List.singleton_append]
  exact (List.Perm.swap b a []).append_left l

/-- Two labels of distinct keys group alike in either order: they are filed under distinct
service and property pairs, or touch distinct kinds, or add errors. -/
theorem groupLabel_comm (g : Grouped) {k₁ k₂ : String} (hk : k₁ ≠ k₂) (v₁ v₂ : String) :
    (p.groupLabel (p.groupLabel g k₁ v₁) k₂ v₂).Equiv (p.groupLabel (p.groupLabel g k₂ v₂) k₁ v₁) := by
  rcases p.groupLabel_cases k₁ v₁ with
      h₁ | ⟨e₁, h₁⟩ | ⟨s₁, q₁, rfl, h₁⟩ | ⟨s₁, q₁, rfl, h₁⟩ | ⟨s₁, q₁, rfl, h₁⟩ <;>
    rcases p.groupLabel_cases k₂ v₂ with
      h₂ | ⟨e₂, h₂⟩ | ⟨s₂, q₂, rfl, h₂⟩ | ⟨s₂, q₂, rfl, h₂⟩ | ⟨s₂, q₂, rfl, h₂⟩ <;>
    simp only [h₁, h₂] <;>
    exact ⟨by first | exact .refl _ | exact LabelGroups.add_add (fun h => hk (by rw [h.1, h.2])) _ _,
      by first | exact .refl _ | exact LabelGroups.add_add (fun h => hk (by rw [h.1, h.2])) _ _,
      by first | exact .refl _ | exact LabelGroups.add_add (fun h => hk (by rw [h.1, h.2])) _ _,
      by first | exact .refl _ | exact perm_append_pair _ _ _⟩

/-- The groups of two orders of a label map have the same properties under the same services. -/
theorem groupLabels_equiv_of_perm {labels labels' : GoMap String}
    (hnd : (labels.map (·.1)).Nodup) (hp : labels.Perm labels') :
    (p.groupLabels labels).Equiv (p.groupLabels labels') :=
  foldl_rel_of_perm Grouped.Equiv.refl Grouped.Equiv.trans (·.1)
    (fun x _ _ h => p.groupLabel_equiv h x.1 x.2) (fun x y g hxy => p.groupLabel_comm g hxy x.2 y.2)
    hp hnd {}

end Parser

namespace Labels

/-! ## A service's parse reads its properties as a map -/

/-- Each DNS label sets the field of its key, if any, and only it. -/
theorem applyDNSProperty_eq (svc : DNSService) (k v : String) :
    applyDNSProperty svc k v =
      { svc with
        hostname := if k = "hostname" then v else svc.hostname
        type := if k = "type" then toUpper v else svc.type
        target := if k = "target" then v else svc.target
        proxied := if k = "proxied" then parseBool v svc.proxied else svc.proxied
        ttl := if k = "ttl" then parseInt v svc.ttl else svc.ttl
        credential := if k = "credential" then v else svc.credential
        cleanup := if k = "cleanup" then parseBool v svc.cleanup else svc.cleanup
        comment := if k = "comment" then v else svc.comment
        access := if k = "access" then v else svc.access
        priority := if k = "priority" then parseInt v svc.priority else svc.priority
        weight := if k = "weight" then parseInt v svc.weight else svc.weight
        port := if k = "port" then parseInt v svc.port else svc.port
        flags := if k = "flags" then parseInt v svc.flags else svc.flags
        tag := if k = "tag" then v else svc.tag } := by
  unfold applyDNSProperty
  split <;> simp_all

theorem applyDNSProperty_comm (svc : DNSService) {k₁ k₂ : String} (h : k₁ ≠ k₂) (v₁ v₂ : String) :
    applyDNSProperty (applyDNSProperty svc k₁ v₁) k₂ v₂ =
      applyDNSProperty (applyDNSProperty svc k₂ v₂) k₁ v₁ := by
  simp only [applyDNSProperty_eq, DNSService.mk.injEq, true_and]
  refine ⟨?_, ?_, ?_, ?_, ?_, ?_, ?_, ?_, ?_, ?_, ?_, ?_, ?_, ?_⟩ <;> split_ifs <;> simp_all

theorem applyDNSDefaults_congr {d d' : GoMap String} (h : ∀ k, d.lookup k = d'.lookup k)
    (svc : DNSService) : applyDNSDefaults svc d = applyDNSDefaults svc d' := by
  simp only [applyDNSDefaults, h]

/-- Two orders of the same properties, with two orders of the same defaults, build the same DNS
service. -/
theorem buildDNSService_congr (serviceName : String) {q q' : GoMap String}
    (hq : (q.map (·.1)).Nodup) (hp : q.Perm q') {d d' : Option (GoMap String)}
    (hd : Option.Rel (fun d d' => (d.map (·.1)).Nodup ∧ d.Perm d') d d') :
    buildDNSService serviceName q d = buildDNSService serviceName q' d' := by
  have hfold : ∀ svc, q.foldl (fun svc kv => applyDNSProperty svc kv.1 kv.2) svc =
      q'.foldl (fun svc kv => applyDNSProperty svc kv.1 kv.2) svc :=
    hp.foldl_eq' (comm_of_key_ne (fun svc (kv : String × String) => applyDNSProperty svc kv.1 kv.2) hq
      fun _ _ svc hxy => applyDNSProperty_comm svc hxy _ _)
  rcases hd with ⟨⟨hnd, hperm⟩⟩ | _
  · simp only [buildDNSService, applyDNSDefaults_congr (GoMap.lookup_eq_of_perm hnd hperm), hfold]
  · simp only [buildDNSService, hfold]

theorem parseDNSService_congr (serviceName : String) {q q' : GoMap String}
    (hq : (q.map (·.1)).Nodup) (hp : q.Perm q') {d d' : Option (GoMap String)}
    (hd : Option.Rel (fun d d' => (d.map (·.1)).Nodup ∧ d.Perm d') d d') :
    parseDNSService serviceName q d = parseDNSService serviceName q' d' := by
  simp only [parseDNSService, buildDNSService_congr serviceName hq hp hd]

/-- Each origin label sets the option of its key, if any, and only it. -/
theorem applyOriginProperty_eq (o : OriginRequestConfig) (k v : String) :
    applyOriginProperty o k v =
      { connectTimeout := if k = "connect_timeout" then v else o.connectTimeout
        tlsTimeout := if k = "tls_timeout" then v else o.tlsTimeout
        tcpKeepAlive := if k = "tcp_keepalive" then v else o.tcpKeepAlive
        keepAliveConnections :=
          if k = "keep_alive_connections" then parseInt v 0 else o.keepAliveConnections
        keepAliveTimeout := if k = "keep_alive_timeout" then v else o.keepAliveTimeout
        noTLSVerify := if k = "no_tls_verify" then parseBool v false else o.noTLSVerify
        originServerName := if k = "origin_server_name" then v else o.originServerName
        caPool := if k = "ca_pool" then v else o.caPool
        httpHostHeader := if k = "http_host_header" then v else o.httpHostHeader
        noHappyEyeballs := if k = "no_happy_eyeballs" then parseBool v false else o.noHappyEyeballs
        disableChunkedEncoding :=
          if k = "disable_chunked_encoding" then parseBool v false else o.disableChunkedEncoding
        proxyType := if k = "proxy_type" then v else o.proxyType } := by
  unfold applyOriginProperty
  split <;> simp_all

theorem applyOriginProperty_comm (o : OriginRequestConfig) {k₁ k₂ : String} (h : k₁ ≠ k₂)
    (v₁ v₂ : String) :
    applyOriginProperty (applyOriginProperty o k₁ v₁) k₂ v₂ =
      applyOriginProperty (applyOriginProperty o k₂ v₂) k₁ v₁ := by
  simp only [applyOriginProperty_eq, OriginRequestConfig.mk.injEq]
  refine ⟨?_, ?_, ?_, ?_, ?_, ?_, ?_, ?_, ?_, ?_, ?_, ?_⟩ <;> split_ifs <;> simp_all

/-- A tunnel label sets an origin option under `origin.`, and otherwise the field of its key. -/
theorem applyTunnelProperty_eq (st : TunnelService × Option OriginRequestConfig) (k v : String) :
    applyTunnelProperty st k v =
      if hasPrefix k "origin." then
        (st.1, some (applyOriginProperty (st.2.getD {}) (trimPrefix k "origin.") v))
      else
        ({ st.1 with
          hostname := if k = "hostname" then v else st.1.hostname
          service := if k = "service" then v else st.1.service
          tunnel := if k = "tunnel" then v else st.1.tunnel
          path := if k = "path" then v else st.1.path
          credential := if k = "credential" then v else st.1.credential
          cleanup := if k = "cleanup" then parseBool v st.1.cleanup else st.1.cleanup
          access := if k = "access" then v else st.1.access }, st.2) := by
  obtain ⟨svc, o⟩ := st
  by_cases hp : hasPrefix k "origin." = true
  · simp only [applyTunnelProperty, hp, if_true]
  · simp only [applyTunnelProperty, hp, if_false, Bool.false_eq_true]
    split <;> simp_all

theorem applyTunnelProperty_comm (st : TunnelService × Option OriginRequestConfig) {k₁ k₂ : String}
    (h : k₁ ≠ k₂) (v₁ v₂ : String) :
    applyTunnelProperty (applyTunnelProperty st k₁ v₁) k₂ v₂ =
      applyTunnelProperty (applyTunnelProperty st k₂ v₂) k₁ v₁ := by
  by_cases h₁ : hasPrefix k₁ "origin." = true <;> by_cases h₂ : hasPrefix k₂ "origin." = true <;>
    simp only [applyTunnelProperty_eq, h₁, h₂, if_true, if_false, Bool.false_eq_true,
      Option.getD_some]
  · have hne : trimPrefix k₁ "origin." ≠ trimPrefix k₂ "origin." := fun he =>
      h (by rw [eq_append_trimPrefix h₁, eq_append_trimPrefix h₂, he])
    rw [applyOriginProperty_comm _ hne]
  · simp only [Prod.mk.injEq, TunnelService.mk.injEq, true_and, and_true]
    refine ⟨?_, ?_, ?_, ?_, ?_, ?_, ?_⟩ <;> split_ifs <;> simp_all

theorem applyTunnelDefaults_congr {d d' : GoMap String} (h : ∀ k, d.lookup k = d'.lookup k)
    (svc : TunnelService) : applyTunnelDefaults svc d = applyTunnelDefaults svc d' := by
  simp only [applyTunnelDefaults, h]

/-- Two orders of the same properties, with two orders of the same defaults, parse to the same
tunnel service. -/
theorem parseTunnelService_congr (serviceName : String) {q q' : GoMap String}
    (hq : (q.map (·.1)).Nodup) (hp : q.Perm q') {d d' : Option (GoMap String)}
    (hd : Option.Rel (fun d d' => (d.map (·.1)).Nodup ∧ d.Perm d') d d') :
    parseTunnelService serviceName q d = parseTunnelService serviceName q' d' := by
  have hfold : ∀ st, q.foldl (fun st kv => applyTunnelProperty st kv.1 kv.2) st =
      q'.foldl (fun st kv => applyTunnelProperty st kv.1 kv.2) st :=
    hp.foldl_eq' (comm_of_key_ne (fun st (kv : String × String) => applyTunnelProperty st kv.1 kv.2)
      hq fun _ _ st hxy => applyTunnelProperty_comm st hxy _ _)
  rcases hd with ⟨⟨hnd, hperm⟩⟩ | _
  · simp only [parseTunnelService, applyTunnelDefaults_congr (GoMap.lookup_eq_of_perm hnd hperm), hfold]
  · simp only [parseTunnelService, hfold]

end Labels

/-! ## Access-policy templates up to the order of their rules -/

/-- Two outcomes that fail alike or succeed with related values. -/
def ExceptRel {ε α : Type} (r : α → α → Prop) : Except ε α → Except ε α → Prop
  | .error _, .error _ => True
  | .ok a, .ok b => r a b
  | _, _ => False

namespace ExceptRel

variable {ε α : Type} {r : α → α → Prop}

@[simp]
theorem ok_ok {a b : α} : ExceptRel (ε := ε) r (.ok a) (.ok b) ↔ r a b := Iff.rfl

theorem refl (hr : ∀ a, r a a) : ∀ e : Except ε α, ExceptRel r e e
  | .error _ => trivial
  | .ok a => hr a

theorem trans (hr : ∀ {a b c}, r a b → r b c → r a c) :
    ∀ {e₁ e₂ e₃ : Except ε α}, ExceptRel r e₁ e₂ → ExceptRel r e₂ e₃ → ExceptRel r e₁ e₃
  | .error _, .error _, .error _, _, _ => trivial
  | .ok _, .ok _, .ok _, h₁, h₂ => hr h₁ h₂

end ExceptRel

/-- A loop of `Except` steps, as a fold that carries the first error to the end. -/
theorem foldlM_except_eq_foldl {ε σ α : Type} (f : σ → α → Except ε σ) (l : List α) (s : σ) :
    l.foldlM f s = l.foldl (fun e x => e.bind (f · x)) (.ok s) := by
  have herror : ∀ (l : List α) (e : ε),
      l.foldl (fun (e : Except ε σ) x => e.bind (f · x)) (.error e) = .error e := by
    intro l e
    induction l with
    | nil => rfl
    | cons x l ih => exact ih
  induction l generalizing s with
  | nil => rfl
  | cons x l ih =>
    show (f s x >>= fun s' => l.foldlM f s') = l.foldl _ (f s x)
    cases f s x with
    | error e => exact (herror l e).symm
    | ok s' => exact ih s'

/-- Two policies that differ at most in the order of their rules. -/
def AccessPolicy.SameUpToRuleOrder (a b : AccessPolicy) : Prop :=
  a.decision = b.decision ∧ a.name = b.name ∧ a.includeRules.Perm b.includeRules ∧
    a.requireRules.Perm b.requireRules ∧ a.excludeRules.Perm b.excludeRules

/-- Two templates that differ at most in the order of their policies' rules. -/
def AccessPolicyDef.SameUpToRuleOrder (a b : AccessPolicyDef) : Prop :=
  a.name = b.name ∧ a.appName = b.appName ∧ a.sessionDuration = b.sessionDuration ∧
    List.Forall₂ AccessPolicy.SameUpToRuleOrder a.policies b.policies

namespace Labels

/-- The template and policy of `parseAccessPolicyDef` part-way through its labels, up to the
order of the rules. -/
def AccessState.Equiv (st st' : AccessPolicyDef × AccessPolicy) : Prop :=
  st.1 = st'.1 ∧ st.2.SameUpToRuleOrder st'.2

theorem AccessState.Equiv.refl (st : AccessPolicyDef × AccessPolicy) : AccessState.Equiv st st :=
  ⟨rfl, rfl, rfl, .refl _, .refl _, .refl _⟩

theorem AccessState.Equiv.trans {a b c : AccessPolicyDef × AccessPolicy} (h₁ : AccessState.Equiv a b)
    (h₂ : AccessState.Equiv b c) : AccessState.Equiv a c :=
  ⟨h₁.1.trans h₂.1, h₁.2.1.trans h₂.2.1, h₁.2.2.1.trans h₂.2.2.1, h₁.2.2.2.1.trans h₂.2.2.2.1,
    h₁.2.2.2.2.1.trans h₂.2.2.2.2.1, h₁.2.2.2.2.2.trans h₂.2.2.2.2.2⟩

/-- The rule a label of the list under `pfx` adds, if it is one. -/
def labelRule (policyName ruleType pfx key value : String) : List AccessRule :=
  if hasPrefix key pfx then (parseAccessRule policyName ruleType (trimPrefix key pfx) value).toOption.toList
  else []

/-- What a valid access label does: the field of its key, or one more rule in its list. -/
def accessEdit (policyName key value : String) (st : AccessPolicyDef × AccessPolicy) :
    AccessPolicyDef × AccessPolicy :=
  ({ st.1 with
      appName := if key = "app_name" then value else st.1.appName
      sessionDuration := if key = "session_duration" then value else st.1.sessionDuration },
    { st.2 with
      decision := if key = "policy.decision" then toLower (GoTime.trimSpace value) else st.2.decision
      name := if key = "policy.name" then value else st.2.name
      includeRules := st.2.includeRules ++ labelRule policyName "include" "policy.include." key value
      requireRules := st.2.requireRules ++ labelRule policyName "require" "policy.require." key value
      excludeRules := st.2.excludeRules ++ labelRule policyName "exclude" "policy.exclude." key value })

theorem hasPrefix_unique {s a b : String} (ha : hasPrefix s a = true) (hb : hasPrefix s b = true)
    (hlen : a.length = b.length) : a = b := by
  obtain ⟨sl⟩ := s
  obtain ⟨al⟩ := a
  obtain ⟨bl⟩ := b
  have ha' := List.isPrefixOf_iff_prefix.1 ha
  have hb' := List.isPrefixOf_iff_prefix.1 hb
  simp only [String.length_mk] at hlen
  exact congrArg String.mk ((List.prefix_of_prefix_length_le ha' hb' hlen.le).eq_of_length hlen)

/-- A label's outcome on one template is its outcome on any other, with the first template's
edit as its result: whether it fails, and with which error, does not depend on the template. -/
theorem applyAccessProperty_eq_map (policyName key value : String)
    (st st' : AccessPolicyDef × AccessPolicy) :
    applyAccessProperty policyName st key value =
      (applyAccessProperty policyName st' key value).map fun _ => accessEdit policyName key value st := by
  have hexcl : ∀ {a b : String}, hasPrefix key a = true → a ≠ b → a.length = b.length →
      hasPrefix key b = false := fun ha hab hlen =>
    Bool.eq_false_iff.2 fun hb => hab (hasPrefix_unique ha hb hlen)
  obtain ⟨d, p⟩ := st
  obtain ⟨d', p'⟩ := st'
  simp only [applyAccessProperty]
  by_cases hk : key ∈ ["app_name", "session_duration", "policy.decision", "policy.name"]
  · have hlit : ∀ k ∈ ["app_name", "session_duration", "policy.decision", "policy.name"],
        hasPrefix k "policy.include." = false ∧ hasPrefix k "policy.require." = false ∧
          hasPrefix k "policy.exclude." = false := by decide
    obtain ⟨hi, hr, he⟩ := hlit key hk
    simp only [List.mem_cons, List.mem_singleton, List.not_mem_nil, or_false] at hk
    rcases hk with rfl | rfl | rfl | rfl <;> simp [accessEdit, labelRule, hi, hr, he, Except.map]
    split <;> rfl
  simp only [List.mem_cons, List.mem_singleton, List.not_mem_nil, or_false, not_or] at hk
  obtain ⟨h₁, h₂, h₃, h₄⟩ := hk
  simp only [if_neg h₁, if_neg h₂, if_neg h₃, if_neg h₄]
  by_cases hi : hasPrefix key "policy.include." = true
  · have hr : hasPrefix key "policy.require." = false := hexcl hi (by decide) (by decide)
    have he : hasPrefix key "policy.exclude." = false := hexcl hi (by decide) (by decide)
    simp only [if_pos hi]
    cases hrule : parseAccessRule policyName "include" (trimPrefix key "policy.include.") value
    · rfl
    · simp [accessEdit, labelRule, h₁, h₂, h₃, h₄, hi, hr, he, hrule, Except.toOption, Except.map,
        bind, Except.bind, pure, Except.pure]
  by_cases hr : hasPrefix key "policy.require." = true
  · have he : hasPrefix key "policy.exclude." = false := hexcl hr (by decide) (by decide)
    simp only [if_neg hi, if_pos hr]
    cases hrule : parseAccessRule policyName "require" (trimPrefix key "policy.require.") value
    · rfl
    · simp [accessEdit, labelRule, h₁, h₂, h₃, h₄, hi, hr, he, hrule, Except.toOption, Except.map,
        bind, Except.bind, pure, Except.pure]
  by_cases he : hasPrefix key "policy.exclude." = true
  · simp only [if_neg hi, if_neg hr, if_pos he]
    cases hrule : parseAccessRule policyName "exclude" (trimPrefix key "policy.exclude.") value
    · rfl
    · simp [accessEdit, labelRule, h₁, h₂, h₃, h₄, hi, hr, he, hrule, Except.toOption, Except.map,
        bind, Except.bind, pure, Except.pure]
  simp [accessEdit, labelRule, h₁, h₂, h₃, h₄, hi, hr, he, Except.map]

/-- A label fails alike whatever the template so far, or succeeds with its edit. -/
theorem applyAccessProperty_cases (policyName key value : String) :
    (∃ err, ∀ st, applyAccessProperty policyName st key value = .error err) ∨
      ∀ st, applyAccessProperty policyName st key value = .ok (accessEdit policyName key value st) := by
  cases h : applyAccessProperty policyName ({ name := "" }, { decision := "" }) key value with
  | error err => exact .inl ⟨err, fun st => by rw [applyAccessProperty_eq_map _ _ _ st, h]; rfl⟩
  | ok => exact .inr fun st => by rw [applyAccessProperty_eq_map _ _ _ st, h]; rfl

theorem accessEdit_equiv {st st' : AccessPolicyDef × AccessPolicy} (h : AccessState.Equiv st st')
    (policyName key value : String) :
    AccessState.Equiv (accessEdit policyName key value st) (accessEdit policyName key value st') := by
  obtain ⟨h₁, hdec, hname, hi, hr, he⟩ := h
  exact ⟨by simp only [accessEdit, h₁], by simp only [accessEdit, hdec], by simp only [accessEdit, hname],
    hi.append_right _, hr.append_right _, he.append_right _⟩

/-- Two labels of distinct keys edit the template alike in either order, up to the order of the
rules they add. -/
theorem accessEdit_comm (policyName : String) (st : AccessPolicyDef × AccessPolicy)
    {k₁ k₂ : String} (h : k₁ ≠ k₂) (v₁ v₂ : String) :
    AccessState.Equiv (accessEdit policyName k₂ v₂ (accessEdit policyName k₁ v₁ st))
      (accessEdit policyName k₁ v₁ (accessEdit policyName k₂ v₂ st)) := by
  have hrules : ∀ l a b : List AccessRule, ((l ++ a) ++ b).Perm ((l ++ b) ++ a) := fun l a b => by
    simp only [List.append_assoc]
    exact List.perm_append_comm.append_left l
  refine ⟨?_, ?_, ?_, hrules _ _ _, hrules _ _ _, hrules _ _ _⟩
  · simp only [accessEdit, AccessPolicyDef.mk.injEq, true_and, and_true]
    constructor <;> split_ifs <;> simp_all
  · simp only [accessEdit]
    split_ifs <;> simp_all
  · simp only [accessEdit]
    split_ifs <;> simp_all

theorem bind_applyAccessProperty_equiv {e e' : Except String (AccessPolicyDef × AccessPolicy)}
    (h : ExceptRel AccessState.Equiv e e') (policyName key value : String) :
    ExceptRel AccessState.Equiv (e.bind (applyAccessProperty policyName · key value))
      (e'.bind (applyAccessProperty policyName · key value)) := by
  match e, e', h with
  | .error _, .error _, _ => trivial
  | .ok a, .ok b, h =>
    rcases applyAccessProperty_cases policyName key value with ⟨err, herr⟩ | hok
    · simp only [Except.bind, herr]
      trivial
    · simp only [Except.bind, hok]
      exact accessEdit_equiv h policyName key value

/-- Two labels of distinct keys give, in either order, templates that fail alike or differ at most
in the order of their rules. -/
theorem bind_applyAccessProperty_comm (policyName : String) (e : Except String (AccessPolicyDef × AccessPolicy))
    {k₁ k₂ : String} (h : k₁ ≠ k₂) (v₁ v₂ : String) :
    ExceptRel AccessState.Equiv
      ((e.bind (applyAccessProperty policyName · k₁ v₁)).bind (applyAccessProperty policyName · k₂ v₂))
      ((e.bind (applyAccessProperty policyName · k₂ v₂)).bind (applyAccessProperty policyName · k₁ v₁)) := by
  rcases e with _ | st
  · trivial
  rcases applyAccessProperty_cases policyName k₁ v₁ with ⟨_, h₁⟩ | h₁ <;>
    rcases applyAccessProperty_cases policyName k₂ v₂ with ⟨_, h₂⟩ | h₂ <;>
    simp only [Except.bind, h₁, h₂]
  exacts [trivial, trivial, trivial, accessEdit_comm policyName st h v₁ v₂]

/-- Two orders of the same labels give templates that fail alike or differ at most in the order of
their rules. -/
theorem parseAccessPolicyDef_congr (policyName : String) {q q' : GoMap String}
    (hq : (q.map (·.1)).Nodup) (hp : q.Perm q') :
    ExceptRel AccessPolicyDef.SameUpToRuleOrder (parseAccessPolicyDef policyName q)
      (parseAccessPolicyDef policyName q') := by
  have hfold : ExceptRel AccessState.Equiv
      (q.foldl (fun e kv => e.bind (applyAccessProperty policyName · kv.1 kv.2))
        (.ok ({ name := policyName }, { decision := "allow" })))
      (q'.foldl (fun e kv => e.bind (applyAccessProperty policyName · kv.1 kv.2))
        (.ok ({ name := policyName }, { decision := "allow" }))) :=
    foldl_rel_of_perm (ExceptRel.refl AccessState.Equiv.refl)
      (@ExceptRel.trans _ _ AccessState.Equiv AccessState.Equiv.trans) (·.1)
      (fun x _ _ h => bind_applyAccessProperty_equiv h policyName x.1 x.2)
      (fun x y e hxy => bind_applyAccessProperty_comm policyName e hxy x.2 y.2) hp hq _
  simp only [parseAccessPolicyDef, foldlM_except_eq_foldl]
  revert hfold
  generalize q.foldl _ _ = e
  generalize q'.foldl _ _ = e'
  rcases e with _ | ⟨d, p⟩ <;> rcases e' with _ | ⟨d', p'⟩ <;> intro h
  · trivial
  · exact h.elim
  · exact h.elim
  obtain ⟨rfl, hdec, hname, hi, hr, he⟩ := h
  replace hdec : p.decision = p'.decision := hdec
  replace hi : p.includeRules.Perm p'.includeRules := hi
  have hnil : p.includeRules = [] ↔ p'.includeRules = [] :=
    ⟨fun h => (h ▸ hi).nil_eq.symm, fun h => (h ▸ hi).eq_nil⟩
  show ExceptRel _ (if _ then _ else _) (if _ then _ else _)
  simp only [hdec, hnil]
  split_ifs
  · trivial
  · exact ⟨rfl, rfl, rfl, .cons ⟨hdec, hname, hi, hr, he⟩ .nil⟩

/-! ## The loops over the groups -/

/-- The error of an outcome that failed. -/
def errorOf {ε α : Type} : Except ε α → Option ε
  | .error e => some e
  | .ok _ => none

/-- A loop that keeps what each group's parse gives and collects its errors. -/
theorem foldl_collect {α : Type} (F : String → GoMap String → Except String α)
    (step : List α × List String → String × GoMap String → List α × List String)
    (hstep : ∀ svcs errs name props, step (svcs, errs) (name, props) =
      match F name props with
      | .ok s => (svcs ++ [s], errs)
      | .error e => (svcs, errs ++ [e]))
    (l : LabelGroups) (svcs : List α) (errs : List String) :
    l.foldl step (svcs, errs) =
      (svcs ++ (l.map fun np => F np.1 np.2).filterMap Except.toOption,
        errs ++ (l.map fun np => F np.1 np.2).filterMap errorOf) := by
  induction l generalizing svcs errs with
  | nil => simp
  | cons np l ih =>
    rw [List.foldl_cons, hstep]
    cases h : F np.1 np.2 <;> simp [h, ih, Except.toOption, errorOf]

theorem parseDNSServices_eq (dns : LabelGroups) (defaults : Option (GoMap String))
    (errors : List String) :
    parseDNSServices dns defaults errors =
      ((dns.map fun np => parseDNSService np.1 np.2 defaults).filterMap Except.toOption,
        errors ++ (dns.map fun np => parseDNSService np.1 np.2 defaults).filterMap errorOf) :=
  foldl_collect (fun s q => parseDNSService s q defaults) _
    (fun _ _ name props => by dsimp only; split <;> simp_all) dns [] errors

theorem parseTunnelServices_eq (tunnel : LabelGroups) (defaults : Option (GoMap String))
    (errors : List String) :
    parseTunnelServices tunnel defaults errors =
      ((tunnel.map fun np => parseTunnelService np.1 np.2 defaults).filterMap Except.toOption,
        errors ++ (tunnel.map fun np => parseTunnelService np.1 np.2 defaults).filterMap errorOf) :=
  foldl_collect (fun s q => parseTunnelService s q defaults) _
    (fun _ _ name props => by dsimp only; split <;> simp_all) tunnel [] errors

/-- The loop over the access groups: each template but `default` is stored under its name if it
parses, and its error is collected if not. With distinct names, the stored templates are those
of the groups that parse. -/
theorem foldl_policies
    (step : GoMap AccessPolicyDef × List String → String × GoMap String →
      GoMap AccessPolicyDef × List String)
    (hstep : ∀ acc errs name props, step (acc, errs) (name, props) =
      if name = "default" then (acc, errs)
      else match parseAccessPolicyDef name props with
        | .ok d => (acc.insert name d, errs)
        | .error e => (acc, errs ++ [e]))
    (l : LabelGroups) (acc : GoMap AccessPolicyDef) (errs : List String) :
    (l.foldl step (acc, errs)).2 = errs ++ l.filterMap (fun np =>
      if np.1 = "default" then none else errorOf (parseAccessPolicyDef np.1 np.2)) ∧
    ((l.map (·.1)).Nodup → ∀ name, (l.foldl step (acc, errs)).1.lookup name =
      ((l.lookup name).bind fun q =>
        if name = "default" then none else (parseAccessPolicyDef name q).toOption).or
        (acc.lookup name)) := by
  induction l generalizing acc errs with
  | nil => simp
  | cons np l ih =>
    rw [List.foldl_cons, hstep]
    refine ⟨?_, fun hnd name => ?_⟩
    · by_cases hd : np.1 = "default"
      · simp [hd, (ih _ _).1]
      · cases h : parseAccessPolicyDef np.1 np.2 <;> simp [hd, h, (ih _ _).1, errorOf]
    rw [List.map_cons, List.nodup_cons] at hnd
    by_cases hn : np.1 = name
    · have hrest : GoMap.lookup l name = none := by
        cases hl : GoMap.lookup l name with
        | none => rfl
        | some q => exact absurd (hn ▸ (GoMap.isSome_lookup_iff _ _).1 (by rw [hl]; rfl)) hnd.1
      subst hn
      by_cases hd : np.1 = "default"
      · simp [hd, (ih _ _).2 hnd.2, hrest, GoMap.lookup_cons]
      · cases h : parseAccessPolicyDef np.1 np.2 <;>
          simp [hd, h, (ih _ _).2 hnd.2, hrest, GoMap.lookup_cons, Except.toOption]
    · by_cases hd : np.1 = "default"
      · have hn' : "default" ≠ name := hd ▸ hn
        simp [hd, (ih _ _).2 hnd.2, hn', GoMap.lookup_cons]
      · cases h : parseAccessPolicyDef np.1 np.2 <;>
          simp [hd, h, (ih _ _).2 hnd.2, hn, GoMap.lookup_cons]

theorem parseAccessPolicies_eq (access : LabelGroups) (errors : List String) :
    (parseAccessPolicies access errors).2 = errors ++ access.filterMap (fun np =>
      if np.1 = "default" then none else errorOf (parseAccessPolicyDef np.1 np.2)) ∧
    ((access.map (·.1)).Nodup → ∀ name, (parseAccessPolicies access errors).1.lookup name =
      (access.lookup name).bind fun q =>
        if name = "default" then none else (parseAccessPolicyDef name q).toOption) :=
  ⟨(foldl_policies _ (fun _ _ _ _ => rfl) access [] errors).1, fun hnd name =>
    ((foldl_policies _ (fun _ _ _ _ => rfl) access [] errors).2 hnd name).trans Option.or_none⟩

theorem toOption_parseAccessPolicyDef_rel (policyName : String) {q q' : GoMap String}
    (hq : (q.map (·.1)).Nodup) (hp : q.Perm q') :
    Option.Rel AccessPolicyDef.SameUpToRuleOrder (parseAccessPolicyDef policyName q).toOption
      (parseAccessPolicyDef policyName q').toOption := by
  have h := parseAccessPolicyDef_congr policyName hq hp
  revert h
  cases parseAccessPolicyDef policyName q <;> cases parseAccessPolicyDef policyName q' <;>
    simp only [ExceptRel, Except.toOption, false_implies] <;> intro h
  · exact .none
  · exact .some h

/-- Groups with the same properties give as many access-template errors. -/
theorem accessErrors_length {m m' : LabelGroups} (h : m.Equiv m') (hm : m.WF) (hm' : m'.WF) :
    (m.filterMap fun np => if np.1 = "default" then none else errorOf (parseAccessPolicyDef np.1 np.2)).length =
      (m'.filterMap fun np =>
        if np.1 = "default" then none else errorOf (parseAccessPolicyDef np.1 np.2)).length := by
  have hperm := h.map_perm hm hm'
    (fun s q => (if s = "default" then none else errorOf (parseAccessPolicyDef s q)).isSome)
    (fun s q => (if s = "default" then none else errorOf (parseAccessPolicyDef s q)).isSome)
    fun s q q' hq hqq' => by
      have hrel := parseAccessPolicyDef_congr s hq hqq'
      dsimp only
      revert hrel
      by_cases hs : s = "default" <;> cases parseAccessPolicyDef s q <;>
        cases parseAccessPolicyDef s q' <;> simp [ExceptRel, errorOf, hs]
  simpa [List.length_filterMap_eq_countP, List.countP_map, Function.comp_def] using
    hperm.countP_eq id

end Labels

namespace Parser

variable (p : Parser)

/-- The parse of a label map does not depend on the order in which its loops visit the labels and
each group's properties: the same DNS and tunnel services in some order, the same access
templates up to the order of their rules, and as many errors. A permutation of the labels
reorders the groups and, independently, each group's properties, so this covers every order of
the nested loops. -/
theorem parse_independent_of_order {labels labels' : GoMap String}
    (hnd : (labels.map (·.1)).Nodup) (hp : labels.Perm labels') :
    (p.parse labels).dnsServices.Perm (p.parse labels').dnsServices ∧
      (p.parse labels).tunnelServices.Perm (p.parse labels').tunnelServices ∧
      (∀ name, Option.Rel AccessPolicyDef.SameUpToRuleOrder
        ((p.parse labels).accessPolicies.lookup name) ((p.parse labels').accessPolicies.lookup name)) ∧
      (p.parse labels).errors.length = (p.parse labels').errors.length := by
  have hg := p.groupLabels_equiv_of_perm hnd hp
  have hw := p.groupLabels_wf labels
  have hw' := p.groupLabels_wf labels'
  simp only [parse, parseDNSServices_eq, parseTunnelServices_eq]
  generalize p.groupLabels labels = g at hg hw ⊢
  generalize p.groupLabels labels' = g' at hg hw' ⊢
  have hdns := (hg.dns.erase "default").map_perm (hw.dns.erase "default") (hw'.dns.erase "default")
    _ _ fun s q q' hq hqq' => parseDNSService_congr s hq hqq' (hg.dns.lookup_rel hw.dns hw'.dns "default")
  have htun := (hg.tunnel.erase "default").map_perm (hw.tunnel.erase "default")
    (hw'.tunnel.erase "default") _ _ fun s q q' hq hqq' =>
      parseTunnelService_congr s hq hqq' (hg.tunnel.lookup_rel hw.tunnel hw'.tunnel "default")
  have hacc := parseAccessPolicies_eq g.access g.errors
  have hacc' := parseAccessPolicies_eq g'.access g'.errors
  refine ⟨hdns.filterMap _, htun.filterMap _, fun name => ?_, ?_⟩
  · rw [hacc.2 hw.access.1 name, hacc'.2 hw'.access.1 name]
    by_cases hd : name = "default"
    · simp only [hd, if_true]
      cases GoMap.lookup g.access "default" <;> cases GoMap.lookup g'.access "default" <;> exact .none
    simp only [hd, if_false]
    have hrel := hg.access.lookup_rel hw.access hw'.access name
    revert hrel
    generalize GoMap.lookup g.access name = o
    generalize GoMap.lookup g'.access name = o'
    rintro (⟨⟨hq, hqq'⟩⟩ | _)
    · exact toOption_parseAccessPolicyDef_rel name hq hqq'
    · exact .none
  · simp only [List.length_append, hacc.1, hacc'.1, hg.errors.length_eq,
      accessErrors_length hg.access hw.access hw'.access, (hdns.filterMap _).length_eq,
      (htun.filterMap _).length_eq]

/-- The labels of a web service and of an access template with two include rules. -/
def teamLabels : GoMap String :=
  [("labelgate.dns.web.hostname", "web.example.com"), ("labelgate.dns.web.type", "CNAME"),
    ("labelgate.access.team.policy.include.emails", "a@example.com"),
    ("labelgate.access.team.policy.include.country", "DE")]

/-- The labels of `teamLabels` in the other order parse alike. -/
theorem teamLabels_parse_alike_reversed :
    (teamLabels.map (·.1)).Nodup ∧ teamLabels.Perm teamLabels.reverse ∧
      ((newParser "").parse teamLabels).dnsServices.Perm
        ((newParser "").parse teamLabels.reverse).dnsServices ∧
      ((newParser "").parse teamLabels).tunnelServices.Perm
        ((newParser "").parse teamLabels.reverse).tunnelServices ∧
      (∀ name, Option.Rel AccessPolicyDef.SameUpToRuleOrder
        (((newParser "").parse teamLabels).accessPolicies.lookup name)
        (((newParser "").parse teamLabels.reverse).accessPolicies.lookup name)) ∧
      ((newParser "").parse teamLabels).errors.length =
        ((newParser "").parse teamLabels.reverse).errors.length :=
  ⟨by decide, (List.reverse_perm _).symm,
    (newParser "").parse_independent_of_order (by decide) (List.reverse_perm _).symm⟩

end Parser

end Labelgate
