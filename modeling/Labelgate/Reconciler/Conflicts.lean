import Mathlib.Data.List.Forall2
import Labelgate.Operator.Access

/-!
# Desired state and conflict resolution

The pure steps of `reconciler.Reconciler` (`reconciler/reconciler.go`) between the container
maps and the operators: `getDesiredState` lists the local containers and then every agent's,
`filterHostnameConflicts` drops each tunnel service whose hostname some DNS service declares,
and `resolveAccessReferences` binds the access references of tunnel and DNS services to the
policy templates of all containers, first definition and first hostname winning.

The main result characterises the filter for every list of containers: it keeps every container
in place with all its fields but its tunnel services, which lose exactly those on DNS hostnames.
-/

namespace Labelgate

/-- `getDesiredState`: the local containers, then each agent's containers, in the order the two
maps are visited. -/
def getDesiredState (containers : GoMap ParsedContainer)
    (agentData : GoMap (List ParsedContainer)) : List ParsedContainer :=
  containers.map (·.2) ++ agentData.flatMap (·.2)

/-- The first-wins maps of `filterHostnameConflicts`: each hostname of one kind to the name of
the first container that declares it. -/
def firstContainerByHostname (hostnamesOf : ParsedContainer → List String)
    (containers : List ParsedContainer) : GoMap String :=
  containers.foldl (fun m c => (hostnamesOf c).foldl (fun m h => m.insertNew h c.info.name) m) []

/-- The conflicted set of `filterHostnameConflicts`: the DNS hostnames, in the order of the DNS
map, that a tunnel service also declares. -/
def conflictedHostnames (dnsHostnames tunnelHostnames : GoMap String) : GoMap Bool :=
  dnsHostnames.foldl (fun m (hostname, _) =>
    if (tunnelHostnames.lookup hostname).isSome then m.insert hostname true else m) []

/-- `filterHostnameConflicts`. -/
def filterHostnameConflicts (containers : List ParsedContainer) : List ParsedContainer :=
  let conflicted := conflictedHostnames
    (firstContainerByHostname (·.dnsServices.map (·.hostname)) containers)
    (firstContainerByHostname (·.tunnelServices.map (·.hostname)) containers)
  let isConflicted (svc : TunnelService) : Bool := (conflicted.lookup svc.hostname).getD false
  if conflicted.isEmpty then containers
  else containers.map fun c =>
    if !c.tunnelServices.any isConflicted then c
    else { c with tunnelServices := c.tunnelServices.filter fun svc => !isConflicted svc }

/-- The hostnames of a kind declared anywhere in `containers`. -/
def hostnamesOf (hostnamesOf : ParsedContainer → List String)
    (containers : List ParsedContainer) : List String :=
  containers.flatMap hostnamesOf

/-- The DNS hostnames declared anywhere in `containers`. -/
def dnsHostnamesOf (containers : List ParsedContainer) : List String :=
  hostnamesOf (·.dnsServices.map (·.hostname)) containers

/-- A container without its tunnel services on the hostnames `hs`. -/
def withoutTunnelHostnames (hs : List String) (c : ParsedContainer) : ParsedContainer :=
  { c with tunnelServices := c.tunnelServices.filter fun svc => svc.hostname ∉ hs }

/-! ### The filter -/

theorem mem_firstContainerByHostname (f : ParsedContainer → List String)
    (cs : List ParsedContainer) (h : String) :
    ((firstContainerByHostname f cs).lookup h).isSome ↔ h ∈ hostnamesOf f cs := by
  have flat : firstContainerByHostname f cs =
      (cs.flatMap fun c => (f c).map fun h => (h, c.info.name)).foldl
        (fun (m : GoMap String) p => m.insertNew p.1 p.2) [] := by
    simp [firstContainerByHostname, List.flatMap, List.foldl_flatten, List.foldl_map]
  rw [flat, GoMap.lookup_foldl_insertNew]
  simp [hostnamesOf, List.find?_isSome]

theorem conflictedHostnames_lookup (dns tunnel : GoMap String) (h : String) :
    ((conflictedHostnames dns tunnel).lookup h).getD false =
      ((dns.lookup h).isSome && (tunnel.lookup h).isSome) := by
  have step : ∀ (l : GoMap String) (m : GoMap Bool),
      ((l.foldl (fun m p => if (tunnel.lookup p.1).isSome then m.insert p.1 true else m) m).lookup
        h).getD false =
        ((m.lookup h).getD false || (decide (h ∈ l.map (·.1)) && (tunnel.lookup h).isSome)) := by
    intro l
    induction l with
    | nil => simp
    | cons p l ih =>
      intro m
      rw [List.foldl_cons, ih]
      by_cases hp : p.1 = h
      · subst hp; split <;> simp_all
      · split <;> simp [hp, beq_false_of_ne (Ne.symm hp)]
  rw [conflictedHostnames, step, GoMap.lookup_nil, Option.getD_none, Bool.false_or,
    Bool.eq_iff_iff]
  simp only [Bool.and_eq_true, decide_eq_true_eq, GoMap.isSome_lookup_iff]

/-- Every tunnel service of the list is on a tunnel hostname, so it is conflicted exactly when
some DNS service declares its hostname. -/
theorem isConflicted_iff (cs : List ParsedContainer) {c : ParsedContainer} (hc : c ∈ cs)
    {svc : TunnelService} (hs : svc.hostname ∈ c.tunnelServices.map (·.hostname)) :
    ((conflictedHostnames (firstContainerByHostname (·.dnsServices.map (·.hostname)) cs)
        (firstContainerByHostname (·.tunnelServices.map (·.hostname)) cs)).lookup
        svc.hostname).getD false = decide (svc.hostname ∈ dnsHostnamesOf cs) := by
  rw [conflictedHostnames_lookup, Bool.eq_iff_iff]
  simp only [Bool.and_eq_true, mem_firstContainerByHostname, decide_eq_true_eq]
  exact ⟨fun h => h.1, fun h => ⟨h, List.mem_flatMap.2 ⟨c, hc, hs⟩⟩⟩

theorem filterHostnameConflicts_eq_map (cs : List ParsedContainer) :
    filterHostnameConflicts cs = cs.map (withoutTunnelHostnames (dnsHostnamesOf cs)) := by
  have keep : ∀ c ∈ cs, ∀ svc ∈ c.tunnelServices,
      ((conflictedHostnames (firstContainerByHostname (·.dnsServices.map (·.hostname)) cs)
        (firstContainerByHostname (·.tunnelServices.map (·.hostname)) cs)).lookup
        svc.hostname).getD false = decide (svc.hostname ∈ dnsHostnamesOf cs) :=
    fun c hc svc hs => isConflicted_iff cs hc (List.mem_map_of_mem _ hs)
  unfold filterHostnameConflicts
  dsimp only
  split
  case isTrue empty =>
    rw [List.isEmpty_iff] at empty
    refine (List.map_congr_left fun c hc => ?_).trans (List.map_id cs) |>.symm
    have : ∀ svc ∈ c.tunnelServices, svc.hostname ∉ dnsHostnamesOf cs := fun svc hs => by
      simpa [empty] using (keep c hc svc hs).symm
    rw [withoutTunnelHostnames, List.filter_eq_self.2 fun svc hs => decide_eq_true (this svc hs)]
    rfl
  case isFalse =>
    refine List.map_congr_left fun c hc => ?_
    have same : c.tunnelServices.filter (fun svc => svc.hostname ∉ dnsHostnamesOf cs) =
        c.tunnelServices.filter fun svc => !((conflictedHostnames
          (firstContainerByHostname (·.dnsServices.map (·.hostname)) cs)
          (firstContainerByHostname (·.tunnelServices.map (·.hostname)) cs)).lookup
          svc.hostname).getD false :=
      List.filter_congr fun svc hs => by rw [keep c hc svc hs]; simp
    split
    case isTrue none =>
      simp only [Bool.not_eq_true', List.any_eq_false] at none
      rw [withoutTunnelHostnames, same, List.filter_eq_self.2 fun svc hs => by simp [none svc hs]]
    case isFalse => rw [withoutTunnelHostnames, same]

/-- `filterHostnameConflicts` keeps every container in place with its info, DNS services,
access policies and agent ID, and removes from its tunnel services, in order, exactly those
whose hostname is a DNS hostname of the list; so no tunnel service it passes on has a DNS
hostname, and no DNS service is lost. -/
theorem filterHostnameConflicts_spec (cs : List ParsedContainer) :
    filterHostnameConflicts cs = cs.map (withoutTunnelHostnames (dnsHostnamesOf cs)) ∧
    (∀ c ∈ filterHostnameConflicts cs, ∀ svc ∈ c.tunnelServices,
      svc.hostname ∉ dnsHostnamesOf cs) ∧
    (filterHostnameConflicts cs).map (·.dnsServices) = cs.map (·.dnsServices) := by
  rw [filterHostnameConflicts_eq_map]
  refine ⟨rfl, ?_, by simp [Function.comp_def, withoutTunnelHostnames]⟩
  simp only [List.mem_map, withoutTunnelHostnames]
  rintro _ ⟨c, -, rfl⟩ svc hs
  exact of_decide_eq_true (List.mem_filter.1 hs).2

/-! ## Access references -/

/-- The global policy map of `resolveAccessReferences`: each policy name to the first definition
a container gives it. -/
def globalPolicies (containers : List ParsedContainer) : GoMap AccessPolicyDef :=
  containers.foldl (fun m c => c.accessPolicies.foldl (fun m p => m.insertNew p.1 p.2) m) []

/-- One service's reference, as both loops of `resolveAccessReferences` handle it: bound when
it names a known policy and its hostname is not bound yet. -/
def bindReference (policies : GoMap AccessPolicyDef) (c : ParsedContainer)
    (acc : List ResolvedAccessBinding × GoMap Bool)
    (hostname access serviceName : String) (cleanup : Bool) (credential : String) :
    List ResolvedAccessBinding × GoMap Bool :=
  if access = "" then acc
  else match policies.lookup access with
    | none => acc
    | some policyDef =>
      if (acc.2.lookup hostname).getD false then acc
      else (acc.1 ++ [⟨hostname, policyDef, c.info.id, c.info.name, serviceName, c.agentID, cleanup,
        credential⟩], acc.2.insert hostname true)

/-- `resolveAccessReferences`: per container, its tunnel services' references, then its DNS
services'. -/
def resolveAccessReferences (containers : List ParsedContainer) : List ResolvedAccessBinding :=
  let policies := globalPolicies containers
  (containers.foldl (fun acc c =>
    let acc := c.tunnelServices.foldl (fun acc svc =>
      bindReference policies c acc svc.hostname svc.access svc.serviceName svc.cleanup svc.credential) acc
    c.dnsServices.foldl (fun acc svc =>
      bindReference policies c acc svc.hostname svc.access svc.serviceName svc.cleanup svc.credential) acc)
    ([], [])).1

/-! ## Enumeration order

The first-wins maps give each key its first offer, so which container owns a key depends on the
order in which the maps are visited, unless no key is offered twice. The order of each
container's own lists (what `Parse` returns for it, and its maps) counts the same way and no
more. -/

/-- Two parses of one container that differ only in order: the same ID, name and agent, and the
same DNS services, tunnel services and policies, each list in any order. The labels and networks,
which ownership does not read, are left free. -/
structure ParsedContainer.Reordered (c c' : ParsedContainer) : Prop where
  id : c.info.id = c'.info.id
  name : c.info.name = c'.info.name
  agentID : c.agentID = c'.agentID
  dnsServices : c.dnsServices.Perm c'.dnsServices
  tunnelServices : c.tunnelServices.Perm c'.tunnelServices
  accessPolicies : c.accessPolicies.Perm c'.accessPolicies

instance : DecidableRel ParsedContainer.Reordered := fun c c' =>
  decidable_of_iff (c.info.id = c'.info.id ∧ c.info.name = c'.info.name ∧ c.agentID = c'.agentID ∧
      c.dnsServices.Perm c'.dnsServices ∧ c.tunnelServices.Perm c'.tunnelServices ∧
      c.accessPolicies.Perm c'.accessPolicies)
    ⟨fun ⟨h₁, h₂, h₃, h₄, h₅, h₆⟩ => ⟨h₁, h₂, h₃, h₄, h₅, h₆⟩,
      fun ⟨h₁, h₂, h₃, h₄, h₅, h₆⟩ => ⟨h₁, h₂, h₃, h₄, h₅, h₆⟩⟩

/-- The same containers, up to the order in which the maps yield them and the order of each
container's own lists. -/
def SameUpToOrder (cs cs' : List ParsedContainer) : Prop :=
  ∃ l, cs.Perm l ∧ List.Forall₂ ParsedContainer.Reordered l cs'

/-- What the containers yield, gathered in order, is the same up to order when each container
yields the same up to order. -/
theorem SameUpToOrder.flatMap_perm {cs cs' : List ParsedContainer} (h : SameUpToOrder cs cs')
    {β : Type} (f : ParsedContainer → List β) (hf : ∀ c c', c.Reordered c' → (f c).Perm (f c')) :
    (cs.flatMap f).Perm (cs'.flatMap f) := by
  obtain ⟨l, hp, hr⟩ := h
  refine (hp.flatMap_right f).trans ?_
  clear hp
  induction hr with
  | nil => exact .nil
  | cons hc _ ih => rw [List.flatMap_cons, List.flatMap_cons]; exact (hf _ _ hc).append ih

/-- The filter drops tunnel services by membership in the set of DNS hostnames, which every
order gives alike. -/
theorem SameUpToOrder.filterHostnameConflicts {cs cs' : List ParsedContainer}
    (h : SameUpToOrder cs cs') :
    SameUpToOrder (filterHostnameConflicts cs) (filterHostnameConflicts cs') := by
  have hs : ∀ x, x ∈ dnsHostnamesOf cs ↔ x ∈ dnsHostnamesOf cs' := fun x =>
    (h.flatMap_perm _ fun _ _ hc => hc.dnsServices.map _).mem_iff
  obtain ⟨l, hp, hr⟩ := h
  rw [filterHostnameConflicts_eq_map, filterHostnameConflicts_eq_map]
  refine ⟨l.map (withoutTunnelHostnames (dnsHostnamesOf cs)), hp.map _, ?_⟩
  rw [List.forall₂_map_left_iff, List.forall₂_map_right_iff]
  refine hr.imp fun c c' hc => ⟨hc.id, hc.name, hc.agentID, hc.dnsServices, ?_, hc.accessPolicies⟩
  simp only [withoutTunnelHostnames, hs]
  exact hc.tunnelServices.filter _

/-- The filter keeps every DNS service and every policy, in order. -/
theorem flatMap_filterHostnameConflicts {β : Type} (f : ParsedContainer → List β)
    (hf : ∀ hs c, f (withoutTunnelHostnames hs c) = f c) (cs : List ParsedContainer) :
    (filterHostnameConflicts cs).flatMap f = cs.flatMap f := by
  rw [filterHostnameConflicts_eq_map, List.flatMap_map]
  simp only [hf]

/-- The filter only drops tunnel services, so what a container yields shrinks to a sublist. -/
theorem flatMap_filterHostnameConflicts_sublist {β : Type} (f : ParsedContainer → List β)
    (hf : ∀ hs c, (f (withoutTunnelHostnames hs c)).Sublist (f c)) (cs : List ParsedContainer) :
    ((filterHostnameConflicts cs).flatMap f).Sublist (cs.flatMap f) := by
  rw [filterHostnameConflicts_eq_map, List.flatMap_map]
  generalize dnsHostnamesOf cs = hs
  induction cs with
  | nil => exact List.Sublist.slnil
  | cons c cs ih =>
    simp only [List.flatMap_cons]
    exact (hf hs c).append ih

/-- The owner of a DNS key: the ID of the container that declares it, and the service. -/
def DesiredDNS.owner (d : DesiredDNS) : String × DNSService := (d.container.info.id, d.service)

/-- `desiredDNSMap` as one first-wins loop over every DNS service with its container. -/
theorem desiredDNSMap_eq_foldl (cs : List ParsedContainer) :
    desiredDNSMap cs = (cs.flatMap fun c => c.dnsServices.map fun svc => (dnsKey svc, ⟨c, svc⟩)).foldl
      (fun (m : GoMap DesiredDNS) p => m.insertNew p.1 p.2) [] := by
  simp [desiredDNSMap, List.flatMap, List.foldl_flatten, List.foldl_map]

theorem lookup_desiredDNSMap_reordered {cs cs' : List ParsedContainer} (h : SameUpToOrder cs cs')
    (hnd : ((cs.flatMap (·.dnsServices)).map dnsKey).Nodup) (k : String) :
    ((desiredDNSMap cs).lookup k).map DesiredDNS.owner =
      ((desiredDNSMap cs').lookup k).map DesiredDNS.owner := by
  have owners : ∀ cs : List ParsedContainer,
      (cs.flatMap fun c => c.dnsServices.map fun svc => (dnsKey svc, (⟨c, svc⟩ : DesiredDNS))).map
        (fun p => (p.1, p.2.owner)) =
      cs.flatMap fun c => c.dnsServices.map fun svc => (dnsKey svc, (c.info.id, svc)) := fun cs => by
    simp [List.map_flatMap, Function.comp_def, DesiredDNS.owner]
  rw [desiredDNSMap_eq_foldl, desiredDNSMap_eq_foldl, GoMap.map_lookup_foldl_insertNew,
    GoMap.map_lookup_foldl_insertNew, owners, owners]
  refine GoMap.lookup_foldl_insertNew_perm (h.flatMap_perm _ fun c c' hc => ?_) ?_ [] k
  · rw [hc.id]; exact hc.dnsServices.map _
  · simpa [List.map_flatMap, Function.comp_def] using hnd

theorem globalPolicies_eq_foldl (cs : List ParsedContainer) :
    globalPolicies cs = (cs.flatMap (·.accessPolicies)).foldl
      (fun (m : GoMap AccessPolicyDef) p => m.insertNew p.1 p.2) [] := by
  simp [globalPolicies, List.flatMap, List.foldl_flatten, List.foldl_map]

theorem lookup_globalPolicies_reordered {cs cs' : List ParsedContainer} (h : SameUpToOrder cs cs')
    (hnd : ((cs.flatMap (·.accessPolicies)).map (·.1)).Nodup) (name : String) :
    (globalPolicies cs).lookup name = (globalPolicies cs').lookup name := by
  rw [globalPolicies_eq_foldl, globalPolicies_eq_foldl]
  exact GoMap.lookup_foldl_insertNew_perm (h.flatMap_perm _ fun _ _ hc => hc.accessPolicies) hnd [] name

/-- The group of a tunnel name: the tunnel services naming it, in the order of the containers. -/
theorem getD_lookup_tunnelGroups (cs : List ParsedContainer) (name : String) :
    ((tunnelGroups cs).lookup name).getD [] =
      (cs.flatMap fun c => c.tunnelServices.map fun svc => (⟨c, svc⟩ : DesiredTunnel)).filter
        fun d => (if d.service.tunnel = "" then "default" else d.service.tunnel) == name := by
  have flat : tunnelGroups cs =
      (cs.flatMap fun c => c.tunnelServices.map fun svc => (⟨c, svc⟩ : DesiredTunnel)).foldl
        (fun (m : GoMap (List DesiredTunnel)) d =>
          m.insert (if d.service.tunnel = "" then "default" else d.service.tunnel)
            (((m.lookup (if d.service.tunnel = "" then "default" else d.service.tunnel)).getD []) ++
              [d])) [] := by
    simp [tunnelGroups, List.flatMap, List.foldl_flatten, List.foldl_map]
  rw [flat, GoMap.getD_lookup_foldl_group]
  rfl

/-- The desired map of `reconcileTunnel` as a first-wins loop over the group's keys. -/
theorem desiredIngress_fst (l : List DesiredTunnel) :
    (desiredIngress l).1 = (l.map fun d => (tunnelKey d.service, d)).foldl
      (fun (m : GoMap DesiredTunnel) p => m.insertNew p.1 p.2) [] := by
  suffices h : ∀ acc, (l.foldl addDesired acc).1 = (l.map fun d => (tunnelKey d.service, d)).foldl
      (fun (m : GoMap DesiredTunnel) p => m.insertNew p.1 p.2) acc.1 from h ([], [])
  induction l with
  | nil => intro acc; rfl
  | cons d l ih =>
    intro acc
    rw [List.foldl_cons, ih, List.map_cons, List.foldl_cons]
    unfold addDesired GoMap.insertNew
    split <;> rfl

/-- The owner of a tunnel key: the ID of the container that declares it, and the service. -/
def DesiredTunnel.owner (d : DesiredTunnel) : String × TunnelService := (d.container.info.id, d.service)

/-- The tunnel name a service is grouped under. -/
def tunnelNameOf (svc : TunnelService) : String := if svc.tunnel = "" then "default" else svc.tunnel

/-- When no tunnel name gets one `hostname:path` twice, the owner of each key of a group does not
depend on the order of the containers or of their tunnel services. -/
theorem lookup_desiredIngress_reordered {cs cs' : List ParsedContainer} (h : SameUpToOrder cs cs')
    (hnd : ((cs.flatMap (·.tunnelServices)).map fun svc => (tunnelNameOf svc, tunnelKey svc)).Nodup)
    (name k : String) :
    ((desiredIngress (((tunnelGroups cs).lookup name).getD [])).1.lookup k).map DesiredTunnel.owner =
      ((desiredIngress (((tunnelGroups cs').lookup name).getD [])).1.lookup k).map
        DesiredTunnel.owner := by
  have owners : ∀ cs : List ParsedContainer,
      ((((tunnelGroups cs).lookup name).getD []).map fun d => (tunnelKey d.service, d)).map
        (fun p => (p.1, p.2.owner)) =
      cs.flatMap fun c => (c.tunnelServices.filter (tunnelNameOf · == name)).map
        fun svc => (tunnelKey svc, (c.info.id, svc)) := fun cs => by
    simp [getD_lookup_tunnelGroups, List.filter_flatMap, List.map_flatMap, List.filter_map,
      Function.comp_def, DesiredTunnel.owner, tunnelNameOf]
  rw [desiredIngress_fst, desiredIngress_fst, GoMap.map_lookup_foldl_insertNew,
    GoMap.map_lookup_foldl_insertNew, owners, owners]
  refine GoMap.lookup_foldl_insertNew_perm (h.flatMap_perm _ fun c c' hc => ?_) ?_ [] k
  · rw [hc.id]; exact (hc.tunnelServices.filter _).map _
  · have hkeys : (cs.flatMap fun c => (c.tunnelServices.filter (tunnelNameOf · == name)).map
        fun svc => (tunnelKey svc, (c.info.id, svc))).map (·.1) =
        ((cs.flatMap (·.tunnelServices)).filter (tunnelNameOf · == name)).map tunnelKey := by
      simp [List.map_flatMap, List.filter_flatMap, Function.comp_def]
    have hname : ((cs.flatMap (·.tunnelServices)).filter (tunnelNameOf · == name)).map
        (fun svc => (tunnelNameOf svc, tunnelKey svc)) =
        (((cs.flatMap (·.tunnelServices)).filter (tunnelNameOf · == name)).map tunnelKey).map
          (Prod.mk name) := by
      rw [List.map_map]
      exact List.map_congr_left fun svc hs => by
        rw [Function.comp_apply, beq_iff_eq.1 (List.mem_filter.1 hs).2]
    rw [hkeys]
    exact (hname ▸ hnd.sublist ((List.filter_sublist _).map _)).of_map _

/-! ### Access bindings -/

/-- A service's access reference, as `resolveAccessReferences` reads it. -/
structure AccessReference where
  hostname : String
  access : String
  serviceName : String
  cleanup : Bool
  credential : String

/-- The references of a container in the order `resolveAccessReferences` visits them: its tunnel
services, then its DNS services. -/
def accessReferences (c : ParsedContainer) : List AccessReference :=
  c.tunnelServices.map (fun s => ⟨s.hostname, s.access, s.serviceName, s.cleanup, s.credential⟩) ++
    c.dnsServices.map (fun s => ⟨s.hostname, s.access, s.serviceName, s.cleanup, s.credential⟩)

/-- What a reference of container `p.1` binds to when its hostname is not bound yet. -/
def referenceBinding (policies : GoMap AccessPolicyDef) (p : ParsedContainer × AccessReference) :
    Option ResolvedAccessBinding :=
  if p.2.access = "" then none
  else (policies.lookup p.2.access).map fun policyDef =>
    ⟨p.2.hostname, policyDef, p.1.info.id, p.1.info.name, p.2.serviceName, p.1.agentID, p.2.cleanup,
      p.2.credential⟩

theorem resolveAccessReferences_eq_foldl (cs : List ParsedContainer) :
    resolveAccessReferences cs = ((cs.flatMap fun c => (accessReferences c).map (c, ·)).foldl
      (fun acc p => bindReference (globalPolicies cs) p.1 acc p.2.hostname p.2.access
        p.2.serviceName p.2.cleanup p.2.credential) ([], [])).1 := by
  simp [resolveAccessReferences, accessReferences, List.flatMap, List.foldl_flatten, List.foldl_map,
    List.foldl_append]

/-- While no hostname is referenced twice, the loop binds each reference with a known policy, in
order: the first-bound check never fires. -/
theorem foldl_bindReference (policies : GoMap AccessPolicyDef)
    (refs : List (ParsedContainer × AccessReference))
    (hnd : ((refs.filter (·.2.access ≠ "")).map (·.2.hostname)).Nodup)
    (acc : List ResolvedAccessBinding × GoMap Bool)
    (hfree : ∀ p ∈ refs, p.2.access ≠ "" → (acc.2.lookup p.2.hostname).getD false = false) :
    (refs.foldl (fun acc p => bindReference policies p.1 acc p.2.hostname p.2.access
        p.2.serviceName p.2.cleanup p.2.credential) acc).1 =
      acc.1 ++ refs.filterMap (referenceBinding policies) := by
  induction refs generalizing acc with
  | nil => simp
  | cons p refs ih =>
    have hfree' : ∀ q ∈ refs, q.2.access ≠ "" → (acc.2.lookup q.2.hostname).getD false = false :=
      fun q hq => hfree q (List.mem_cons_of_mem _ hq)
    rw [List.foldl_cons, List.filterMap_cons]
    by_cases ha : p.2.access = ""
    · rw [List.filter_cons_of_neg (by simpa using ha)] at hnd
      simpa [bindReference, referenceBinding, ha] using ih hnd acc hfree'
    rw [List.filter_cons_of_pos (by simpa using ha), List.map_cons, List.nodup_cons] at hnd
    cases hpol : policies.lookup p.2.access with
    | none => simpa [bindReference, referenceBinding, hpol] using ih hnd.2 acc hfree'
    | some policyDef =>
      have hp := hfree p (List.mem_cons_self _ _) ha
      have hstep : bindReference policies p.1 acc p.2.hostname p.2.access p.2.serviceName p.2.cleanup
          p.2.credential = (acc.1 ++ [⟨p.2.hostname, policyDef, p.1.info.id, p.1.info.name,
            p.2.serviceName, p.1.agentID, p.2.cleanup, p.2.credential⟩], acc.2.insert p.2.hostname true) := by
        simp [bindReference, ha, hpol, hp]
      rw [hstep, ih hnd.2]
      · simp [referenceBinding, ha, hpol]
      intro q hq hqa
      have hne : p.2.hostname ≠ q.2.hostname := fun h =>
        hnd.1 (List.mem_map.2 ⟨q, List.mem_filter.2 ⟨hq, by simpa using hqa⟩, h.symm⟩)
      simpa [hne] using hfree' q hq hqa

/-- When no hostname is referenced twice, the bindings are the references with a known policy,
in order. -/
theorem resolveAccessReferences_eq_filterMap (cs : List ParsedContainer)
    (hnd : (((cs.flatMap accessReferences).filter (·.access ≠ "")).map (·.hostname)).Nodup) :
    resolveAccessReferences cs = (cs.flatMap fun c => (accessReferences c).map (c, ·)).filterMap
      (referenceBinding (globalPolicies cs)) := by
  have hkeys : (((cs.flatMap fun c => (accessReferences c).map (c, ·)).filter
      (·.2.access ≠ "")).map (·.2.hostname)) =
        ((cs.flatMap accessReferences).filter (·.access ≠ "")).map (·.hostname) := by
    clear hnd
    induction cs with
    | nil => rfl
    | cons c cs ih =>
      simp only [List.flatMap_cons, List.filter_append, List.map_append, ih, List.filter_map,
        List.map_map]
      rfl
  rw [resolveAccessReferences_eq_foldl, foldl_bindReference _ _ (hkeys ▸ hnd) _ (by simp),
    List.nil_append]

/-- What a reference binds to reads the container's ID, name and agent only. -/
theorem referenceBinding_reordered (policies : GoMap AccessPolicyDef) {c c' : ParsedContainer}
    (hc : c.Reordered c') (r : AccessReference) :
    referenceBinding policies (c, r) = referenceBinding policies (c', r) := by
  simp only [referenceBinding, hc.id, hc.name, hc.agentID]

/-- When no hostname is referenced twice and no policy name defined twice, every order of the
containers and of their services gives the same bindings. -/
theorem resolveAccessReferences_reordered {cs cs' : List ParsedContainer} (h : SameUpToOrder cs cs')
    (hnd : (((cs.flatMap accessReferences).filter (·.access ≠ "")).map (·.hostname)).Nodup)
    (hpol : ((cs.flatMap (·.accessPolicies)).map (·.1)).Nodup) :
    (resolveAccessReferences cs).Perm (resolveAccessReferences cs') := by
  have hrefs := h.flatMap_perm accessReferences fun _ _ hc =>
    (hc.tunnelServices.map _).append (hc.dnsServices.map _)
  have hnd' := ((hrefs.filter _).map _).nodup_iff.1 hnd
  have hbind : referenceBinding (globalPolicies cs) = referenceBinding (globalPolicies cs') := by
    funext p
    simp only [referenceBinding, lookup_globalPolicies_reordered h hpol]
  rw [resolveAccessReferences_eq_filterMap cs hnd, resolveAccessReferences_eq_filterMap cs' hnd', hbind,
    List.filterMap_flatMap, List.filterMap_flatMap]
  refine h.flatMap_perm _ fun c c' hc => ?_
  simp only [List.filterMap_map, Function.comp_def, referenceBinding_reordered _ hc]
  exact (hc.tunnelServices.map _).append (hc.dnsServices.map _) |>.filterMap _

end Labelgate
