import Labelgate.Labels.Order

/-!
# What `Parse` accepts is well formed

`Parse` refuses a label under a reserved or malformed service name with an error, and refuses a
service whose labels fail its checks. What it returns therefore passes every check, whatever the
labels (`parse_wellFormed`):

* every DNS service has a hostname, a record type `parseDNSService` knows, and a valid service
  name;
* every tunnel service has a hostname, an origin service, and a valid service name;
* every access template is stored under a valid name;
* no two DNS services, no two tunnel services and no two templates share a name.

The names are checked by the first loop, which files a label under its service only if the name
is `default` or valid (`groupLabels_namesValid`); the `default` groups are set aside, and each
service or template takes its group's name. The names are distinct because the groups are a map.
-/

namespace Labelgate

namespace Labels

/-- A service name `Parse` files: not reserved, and lowercase alphanumeric with inner hyphens. -/
def ValidServiceName (n : String) : Prop := n ∉ reservedNames ∧ matchesServiceName n = true

instance : DecidablePred ValidServiceName := fun _ => inferInstanceAs (Decidable (_ ∧ _))

example : ValidServiceName "web-1" ∧ ¬ValidServiceName "default" ∧ ¬ValidServiceName "api_v2" := by
  decide

/-- Every group but `default` is filed under a valid service name. -/
def LabelGroups.NamesValid (m : LabelGroups) : Prop :=
  ∀ np ∈ m, np.1 ≠ "default" → ValidServiceName np.1

theorem LabelGroups.NamesValid.add {m : LabelGroups} (h : m.NamesValid) {s : String}
    (hs : s ≠ "default" → ValidServiceName s) (prop v : String) : (m.add s prop v).NamesValid := by
  intro np hnp
  rcases GoMap.mem_insert hnp with rfl | hnp
  · exact hs
  · exact h np hnp

/-- The groups of all three kinds are filed under valid names. -/
structure Grouped.NamesValid (g : Grouped) : Prop where
  dns : g.dns.NamesValid
  tunnel : g.tunnel.NamesValid
  access : g.access.NamesValid

/-! ## The services of one group -/

/-- A DNS service that passes `parseDNSService` carries its group's name, a hostname and a known
record type. -/
theorem parseDNSService_ok {serviceName : String} {props : GoMap String}
    {defaults : Option (GoMap String)} {s : DNSService}
    (h : parseDNSService serviceName props defaults = .ok s) :
    s.serviceName = serviceName ∧ s.hostname ≠ "" ∧ s.type ∈ validDNSTypes := by
  simp only [parseDNSService] at h
  split_ifs at h with hhost htype
  cases h
  exact ⟨buildDNSService_serviceName _ _ _, hhost, htype⟩

theorem applyTunnelDefaults_serviceName (svc : TunnelService) (defaults : GoMap String) :
    (applyTunnelDefaults svc defaults).serviceName = svc.serviceName := by
  unfold applyTunnelDefaults
  split <;> split <;> split <;> rfl

theorem foldl_applyTunnelProperty_serviceName (props : GoMap String)
    (st : TunnelService × Option OriginRequestConfig) :
    (props.foldl (fun st kv => applyTunnelProperty st kv.1 kv.2) st).1.serviceName =
      st.1.serviceName :=
  List.foldlRecOn (motive := fun st' => st'.1.serviceName = st.1.serviceName) props _ st rfl
    fun st' h kv _ => by rw [applyTunnelProperty_eq]; split <;> exact h

/-- A tunnel service that passes `parseTunnelService` carries its group's name, a hostname and an
origin service. -/
theorem parseTunnelService_ok {serviceName : String} {props : GoMap String}
    {defaults : Option (GoMap String)} {s : TunnelService}
    (h : parseTunnelService serviceName props defaults = .ok s) :
    s.serviceName = serviceName ∧ s.hostname ≠ "" ∧ s.service ≠ "" := by
  simp only [parseTunnelService] at h
  generalize hst : List.foldl (fun (st : TunnelService × Option OriginRequestConfig)
    (kv : String × String) => applyTunnelProperty st kv.1 kv.2) _ props = st at h
  have hname : st.1.serviceName = serviceName := by
    rw [← hst, foldl_applyTunnelProperty_serviceName]
    cases defaults with
    | none => rfl
    | some d => exact applyTunnelDefaults_serviceName _ d
  obtain ⟨svc, origin⟩ := st
  split_ifs at h with hhost hservice
  cases h
  exact ⟨by cases origin <;> exact hname, hhost, hservice⟩

/-! ## The loops over the groups -/

/-- What a loop over the groups keeps is the result of one group's parse. -/
theorem exists_of_mem_collected {α : Type} {F : String → GoMap String → Except String α}
    {l : LabelGroups} {s : α}
    (hs : s ∈ (l.map fun np => F np.1 np.2).filterMap Except.toOption) :
    ∃ np ∈ l, F np.1 np.2 = .ok s := by
  obtain ⟨e, he, hok⟩ := List.mem_filterMap.1 hs
  obtain ⟨np, hnp, rfl⟩ := List.mem_map.1 he
  refine ⟨np, hnp, ?_⟩
  revert hok
  cases F np.1 np.2 <;> simp [Except.toOption]

/-- When each parse names its result after its group, the names of the kept results are group
names, in the order of the groups. -/
theorem names_collected_sublist {α : Type} (F : String → GoMap String → Except String α)
    (name : α → String) (hname : ∀ n q s, F n q = .ok s → name s = n) (l : LabelGroups) :
    (((l.map fun np => F np.1 np.2).filterMap Except.toOption).map name).Sublist (l.map (·.1)) := by
  induction l with
  | nil => exact .slnil
  | cons np l ih =>
    rw [List.map_cons, List.filterMap_cons, List.map_cons]
    cases h : F np.1 np.2 with
    | error => exact ih.cons _
    | ok s =>
      rw [Except.toOption, List.map_cons, hname _ _ _ h]
      exact ih.cons₂ _

/-- The templates of `Parse` are stored under the names of the access groups other than
`default`, each once. -/
theorem parseAccessPolicies_names {access : LabelGroups} (hv : access.NamesValid)
    (errors : List String) :
    ((parseAccessPolicies access errors).1.map (·.1)).Nodup ∧
      ∀ e ∈ (parseAccessPolicies access errors).1, ValidServiceName e.1 :=
  List.foldlRecOn (motive := fun st : GoMap AccessPolicyDef × List String =>
      (st.1.map (·.1)).Nodup ∧ ∀ e ∈ st.1, ValidServiceName e.1)
    access _ ([], errors) ⟨List.nodup_nil, fun _ h => absurd h (List.not_mem_nil _)⟩
    fun st h np hmem => by
      obtain ⟨acc, errs⟩ := st
      obtain ⟨name, props⟩ := np
      obtain ⟨hnd, hacc⟩ := h
      dsimp only
      split_ifs with hd
      · exact ⟨hnd, hacc⟩
      split
      · refine ⟨GoMap.nodup_insert hnd _ _, fun e he => ?_⟩
        rcases GoMap.mem_insert he with rfl | he
        · exact hv _ hmem hd
        · exact hacc e he
      · exact ⟨hnd, hacc⟩

end Labels

open Labels

/-- What `Parse` accepts: services that pass their checks and templates, each under a valid name,
with no name used twice within a kind. -/
structure ParseResult.WellFormed (r : ParseResult) : Prop where
  dns : ∀ s ∈ r.dnsServices,
    ValidServiceName s.serviceName ∧ s.hostname ≠ "" ∧ s.type ∈ validDNSTypes
  dnsNames : (r.dnsServices.map (·.serviceName)).Nodup
  tunnel : ∀ s ∈ r.tunnelServices,
    ValidServiceName s.serviceName ∧ s.hostname ≠ "" ∧ s.service ≠ ""
  tunnelNames : (r.tunnelServices.map (·.serviceName)).Nodup
  policies : ∀ e ∈ r.accessPolicies, ValidServiceName e.1
  policyNames : (r.accessPolicies.map (·.1)).Nodup

namespace Parser

variable (p : Parser)

/-- The first loop of `Parse` files labels only under `default` or a valid service name. -/
theorem groupLabel_namesValid {g : Grouped} (h : g.NamesValid) (key value : String) :
    (p.groupLabel g key value).NamesValid := by
  unfold groupLabel
  split
  · exact h
  split
  · exact h
  rename_i s _ _
  split_ifs with hres hpat
  · exact ⟨h.dns, h.tunnel, h.access⟩
  · exact ⟨h.dns, h.tunnel, h.access⟩
  have hs : s ≠ "default" → ValidServiceName s := fun hd =>
    ⟨fun hm => hres ⟨hm, hd⟩, by simpa [hd] using hpat⟩
  split
  · exact ⟨h.dns.add hs _ _, h.tunnel, h.access⟩
  · exact ⟨h.dns, h.tunnel.add hs _ _, h.access⟩
  · exact ⟨h.dns, h.tunnel, h.access.add hs _ _⟩
  · exact h

theorem groupLabels_namesValid (labels : GoMap String) : (p.groupLabels labels).NamesValid :=
  List.foldlRecOn (motive := Grouped.NamesValid) labels _ {} ⟨nofun, nofun, nofun⟩
    fun _ h kv _ => p.groupLabel_namesValid h kv.1 kv.2

/-- Whatever the labels, what `Parse` returns is well formed: every DNS service has a hostname and
a known record type, every tunnel service a hostname and an origin service, every service and
template a valid name, and no name is used twice within a kind. -/
theorem parse_wellFormed (labels : GoMap String) : (p.parse labels).WellFormed := by
  have hv := p.groupLabels_namesValid labels
  have hw := p.groupLabels_wf labels
  have hacc := parseAccessPolicies_names hv.access (p.groupLabels labels).errors
  simp only [parse, parseDNSServices_eq, parseTunnelServices_eq]
  generalize p.groupLabels labels = g at hv hw hacc ⊢
  refine ⟨fun s hs => ?_, ?_, fun s hs => ?_, ?_, hacc.2, hacc.1⟩
  · obtain ⟨⟨n, q⟩, hnq, hok⟩ :=
      exists_of_mem_collected (F := fun n q => parseDNSService n q (g.dns.lookup "default")) hs
    obtain ⟨hname, hhost, htype⟩ := parseDNSService_ok hok
    obtain ⟨hmem, hd⟩ := List.mem_filter.1 hnq
    exact ⟨hname ▸ hv.dns _ hmem (by simpa using hd), hhost, htype⟩
  · exact (names_collected_sublist (fun n q => parseDNSService n q (g.dns.lookup "default")) _
      (fun _ _ _ h => (parseDNSService_ok h).1) _).nodup (GoMap.nodup_erase hw.dns.1 "default")
  · obtain ⟨⟨n, q⟩, hnq, hok⟩ :=
      exists_of_mem_collected (F := fun n q => parseTunnelService n q (g.tunnel.lookup "default")) hs
    obtain ⟨hname, hhost, hservice⟩ := parseTunnelService_ok hok
    obtain ⟨hmem, hd⟩ := List.mem_filter.1 hnq
    exact ⟨hname ▸ hv.tunnel _ hmem (by simpa using hd), hhost, hservice⟩
  · exact (names_collected_sublist (fun n q => parseTunnelService n q (g.tunnel.lookup "default")) _
      (fun _ _ _ h => (parseTunnelService_ok h).1) _).nodup (GoMap.nodup_erase hw.tunnel.1 "default")

end Parser

end Labelgate
