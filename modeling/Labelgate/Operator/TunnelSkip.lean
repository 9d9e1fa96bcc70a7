import Labelgate.Operator.Tunnel

/-!
# When the tunnel operator skips a push

`reconcileTunnel` pushes a tunnel's rules only when `ingressConfigEqual` finds the remote list
different from the desired one. The comparison keys the remote rules with a hostname by
`hostname:path`, ignores their order and every rule without a hostname, and compares origin
options as `GetTunnelConfiguration` reads them back. Two results bound what a skip means:

* after its own push, the operator reads back a list that `ingressConfigEqual` accepts exactly when
  every rule's origin options survive the trip through the API's parameters
  (`ingressConfigEqual_readBack`). A timeout written `1m` comes back as `60s`, so such a rule is
  pushed again on every pass;
* a remote list that `ingressConfigEqual` accepts routes every request as the pushed list would,
  when its rules with a hostname are followed by the `http_status:404` catch-all alone, no request
  matches two desired rules, and no hostname contains the `:` of the keys: the rules with a
  hostname are then the desired rules in some order (`perm_of_ingressConfigEqual`). A different
  catch-all, overlapping rules stored in another order, or two rules whose keys collide route some
  request differently;
* with distinct desired keys and no `:` in a hostname, `ingressConfigEqual` accepts exactly the
  remote lists whose rules with a hostname pair one to one with the desired rules, each pair
  agreeing on hostname, path, service and origin options (`ruleAgrees`).

Routing is cloudflared's first match over the list (`route`); whether one rule matches a request
is a parameter that reads the rule's hostname and path.
-/

namespace Labelgate

/-! ## The round trip of a pushed list -/

/-- With hostnames on every rule, `UpdateTunnelConfiguration` sends the rules and the catch-all. -/
theorem configParams_of_hostnames {d : List TunnelIngress} (hhost : ∀ i ∈ d, i.hostname ≠ "") :
    configParams d = d.map ingressParams ++ [⟨none, none, "http_status:404", none⟩] := by
  unfold configParams
  cases h : d.getLast? with
  | none => rfl
  | some last => simp [hhost last (List.mem_of_getLast?_eq_some h)]

@[simp] theorem ingressRuleOf_ingressParams_key (i : TunnelIngress) :
    (ingressRuleOf (ingressParams i)).key = i.key := by
  simp [IngressRule.key, TunnelIngress.key]

@[simp] theorem ingressRuleOf_ingressParams_service (i : TunnelIngress) :
    (ingressRuleOf (ingressParams i)).service = i.service := rfl

/-- The rules with a hostname that `GetTunnelConfiguration` reads back after a push of `d` are
those of `d`, in order. -/
theorem readBack_rules {d : List TunnelIngress} (hhost : ∀ i ∈ d, i.hostname ≠ "") :
    ((configParams d).map ingressRuleOf).filter (·.hostname != "") =
      d.map (ingressRuleOf ∘ ingressParams) := by
  rw [configParams_of_hostnames hhost, List.map_append, List.filter_append, List.map_map]
  have hcatch : [ingressRuleOf ⟨none, none, "http_status:404", none⟩].filter (·.hostname != "") = [] := by
    decide
  rw [List.map_singleton, hcatch, List.append_nil, List.filter_eq_self]
  intro r hr
  obtain ⟨i, hi, rfl⟩ := List.mem_map.1 hr
  simpa using hhost i hi

/-- Among read-back rules of distinct keys, the key of a rule finds that rule. -/
theorem lookup_readBack {d : List TunnelIngress} (hnodup : (d.map TunnelIngress.key).Nodup)
    {i : TunnelIngress} (hi : i ∈ d) :
    ((d.map (ingressRuleOf ∘ ingressParams)).foldl
      (fun (m : GoMap IngressRule) rule => m.insert rule.key rule) []).lookup i.key =
      some (ingressRuleOf (ingressParams i)) := by
  have hsome := GoMap.isSome_lookup_foldl_insert IngressRule.key
    (List.mem_map_of_mem (ingressRuleOf ∘ ingressParams) hi)
  rw [Function.comp_apply, ingressRuleOf_ingressParams_key] at hsome
  obtain ⟨v, hv⟩ := Option.isSome_iff_exists.1 hsome
  obtain ⟨hvmem, hvkey⟩ := GoMap.lookup_foldl_insert_eq_some hv
  obtain ⟨j, hj, rfl⟩ := List.mem_map.1 hvmem
  rw [Function.comp_apply, ingressRuleOf_ingressParams_key] at hvkey
  rw [hv, List.inj_on_of_nodup_map hnodup hj hi hvkey, Function.comp_apply]

/-- `ingressConfigEqual` accepts the read-back of a pushed list of distinct keys and hostnames
exactly when each rule's origin options are read back as they were pushed. -/
theorem ingressConfigEqual_readBack (tunnelID : String) {d : List TunnelIngress}
    (hnodup : (d.map TunnelIngress.key).Nodup) (hhost : ∀ i ∈ d, i.hostname ≠ "") :
    ingressConfigEqual (some ⟨tunnelID, (configParams d).map ingressRuleOf⟩) d =
      d.all fun i => originRequestEqual (ingressRuleOf (ingressParams i)).originRequest i.originRequest := by
  simp only [ingressConfigEqual, readBack_rules hhost, List.length_map, ne_eq, not_true_eq_false,
    if_false]
  rw [Bool.eq_iff_iff, List.all_eq_true, List.all_eq_true]
  exact forall₂_congr fun i hi => by simp [lookup_readBack hnodup hi]

/-- Pushing a list of distinct keys and hostnames, then reading the tunnel's configuration back,
gives a configuration that `ingressConfigEqual` accepts exactly when every rule's origin options
survive the round trip. -/
theorem ingressConfigEqual_after_push (env : Env) (t : TunnelClient) (tunnelID : String)
    (d : List TunnelIngress) (w : World) (hacct : t.accountID ≠ "")
    (hok : env.remoteFails w.remoteTick = false) (hok' : env.remoteFails (w.remoteTick + 1) = false)
    (hnodup : (d.map TunnelIngress.key).Nodup) (hhost : ∀ i ∈ d, i.hostname ≠ "") :
    ∃ c, ((do updateTunnelConfiguration env t tunnelID d; getTunnelConfiguration env t tunnelID).run.run
        w).1 = .ok c ∧
      (ingressConfigEqual (some c) d = true ↔
        ∀ i ∈ d, originRequestEqual (ingressRuleOf (ingressParams i)).originRequest i.originRequest) := by
  refine ⟨⟨tunnelID, (configParams d).map ingressRuleOf⟩, ?_, ?_⟩
  · simp [run_bind, run_updateTunnelConfiguration env t tunnelID d w hacct hok,
      run_getTunnelConfiguration env t tunnelID _ hacct, hok']
  · rw [ingressConfigEqual_readBack tunnelID hnodup hhost, List.all_eq_true]

/-- The labels of a tunnel service whose origin connect timeout is written in minutes. -/
def appTunnelLabels : GoMap String :=
  [("labelgate.tunnel.app.hostname", "app.example.com"),
    ("labelgate.tunnel.app.service", "http://app:8080"),
    ("labelgate.tunnel.app.origin.connect_timeout", "1m")]

/-- The service the default parser reads from `appTunnelLabels`. -/
def appTunnel : TunnelService :=
  { defaultTunnelService with
    serviceName := "app", hostname := "app.example.com", service := "http://app:8080",
    originRequest := some { connectTimeout := "1m" } }

/-- The rule `reconcileTunnel` pushes for `appTunnel`. -/
def appIngress : TunnelIngress :=
  ⟨appTunnel.hostname, appTunnel.path, appTunnel.service, appTunnel.originRequest⟩

/-- The tunnel client of the account `account-1`. -/
def accountTunnelClient : TunnelClient := ⟨"default", "account-1"⟩

/-- The parser keeps the timeout `1m`; the API stores it as 60 seconds, which reads back as `60s`,
and the pushed list is not recognised. -/
theorem appTunnel_timeout_not_recognised :
    ((newParser "").parse appTunnelLabels).tunnelServices = [appTunnel] ∧
      ∃ c, ((do
          updateTunnelConfiguration (exampleEnv (fun _ => false) 100) accountTunnelClient "tun-1" [appIngress]
          getTunnelConfiguration (exampleEnv (fun _ => false) 100) accountTunnelClient "tun-1").run.run
            exampleAccount).1 = .ok c ∧
        ingressConfigEqual (some c) [appIngress] = false :=
  have ⟨c, hc, hiff⟩ := ingressConfigEqual_after_push (exampleEnv (fun _ => false) 100)
    accountTunnelClient "tun-1" [appIngress] exampleAccount (by decide) rfl rfl (by decide) (by decide)
  ⟨by decide, c, hc, Bool.eq_false_iff.2 fun h => absurd (hiff.1 h) (by decide)⟩

/-! ## Routing -/

/-- A request as the edge routes it. -/
structure Request where
  host : String
  path : String
deriving DecidableEq, Repr

/-- Modelled from the spec: first-match-wins routing. A request goes to the service and origin
options of the first rule of the list that matches it, where `isMatch h p req` says whether the
rule of hostname `h` and path `p` matches `req`. -/
def route (isMatch : String → String → Request → Bool) (rules : List IngressRule) (req : Request) :
    Option (String × Option OriginRequestConfig) :=
  (rules.find? fun r => isMatch r.hostname r.path req).map fun r => (r.service, r.originRequest)

/-- The catch-all `UpdateTunnelConfiguration` appends, as a rule. -/
def catchAllRule : IngressRule := ⟨"", "", "http_status:404", none⟩

/-- A desired rule, as a rule of a list. -/
def TunnelIngress.toRule (i : TunnelIngress) : IngressRule :=
  ⟨i.hostname, i.path, i.service, i.originRequest⟩

/-- The list `UpdateTunnelConfiguration` pushes for `d`, in the terms of the desired rules: `d`,
then the catch-all. -/
def pushedRules (d : List TunnelIngress) : List IngressRule := d.map TunnelIngress.toRule ++ [catchAllRule]

/-- Two orders of one list find the same element when at most one element qualifies. -/
theorem find?_eq_of_perm {α : Type} {l l' : List α} (h : l.Perm l') {p : α → Bool}
    (huniq : ∀ x ∈ l, ∀ y ∈ l, p x → p y → x = y) : l.find? p = l'.find? p := by
  cases hf : l.find? p with
  | none =>
    exact (List.find?_eq_none.2 fun x hx => List.find?_eq_none.1 hf x (h.mem_iff.2 hx)).symm
  | some x =>
    have hx := List.mem_of_find?_eq_some hf
    obtain ⟨y, hy⟩ := Option.isSome_iff_exists.1
      (List.find?_isSome.2 ⟨x, h.mem_iff.1 hx, List.find?_some hf⟩)
    rw [hy, huniq x hx y (h.mem_iff.2 (List.mem_of_find?_eq_some hy)) (List.find?_some hf)
      (List.find?_some hy)]

/-- `hostname:path` determines the hostname and the path when the hostname has no `:`. -/
theorem key_inj {h p h' p' : String} (hh : ':' ∉ h.toList) (hh' : ':' ∉ h'.toList)
    (heq : h ++ ":" ++ p = h' ++ ":" ++ p') : h = h' ∧ p = p' := by
  have hsplit : ∀ l r : List Char, ':' ∉ l →
      (l ++ ':' :: r).takeWhile (· != ':') = l ∧ (l ++ ':' :: r).dropWhile (· != ':') = ':' :: r :=
    fun l r hl => by
      have hp : ∀ c ∈ l, (c != ':') = true := fun c hc => bne_iff_ne.2 fun h => hl (h ▸ hc)
      simp [List.takeWhile_append_of_pos hp, List.dropWhile_append_of_pos hp]
  have hd : h.toList ++ ':' :: p.toList = h'.toList ++ ':' :: p'.toList := by
    simpa [String.toList, String.data_append, List.append_assoc] using congrArg String.toList heq
  obtain ⟨ht, hdrop⟩ := hsplit h.toList p.toList hh
  obtain ⟨ht', hdrop'⟩ := hsplit h'.toList p'.toList hh'
  rw [hd] at ht hdrop
  exact ⟨String.ext (ht.symm.trans ht'), String.ext (List.cons.inj (hdrop.symm.trans hdrop')).2⟩

section Skip

variable {c : TunnelConfiguration} {d : List TunnelIngress}

/-- With keys that determine hostname and path, every desired rule is, whole, a remote rule with a
hostname of a list `ingressConfigEqual` accepts. -/
theorem toRule_mem_of_ingressConfigEqual (heq : ingressConfigEqual (some c) d = true)
    (hcolon : ∀ r ∈ c.ingress, ':' ∉ r.hostname.toList) (hcolon' : ∀ i ∈ d, ':' ∉ i.hostname.toList)
    {i : TunnelIngress} (hi : i ∈ d) : i.toRule ∈ c.ingress.filter (·.hostname != "") := by
  simp only [ingressConfigEqual] at heq
  split at heq
  · cases heq
  have hcheck := List.all_eq_true.1 heq i hi
  split at hcheck
  · cases hcheck
  rename_i r hr
  obtain ⟨hrmem, hrkey⟩ := GoMap.lookup_foldl_insert_eq_some hr
  obtain ⟨hservice, horigin⟩ := Bool.and_eq_true_iff.1 hcheck
  obtain ⟨hh, hp⟩ := key_inj (hcolon r (List.mem_filter.1 hrmem).1) (hcolon' i hi) hrkey
  have ho : r.originRequest = i.originRequest := by
    revert horigin
    unfold originRequestEqual
    split <;> simp_all
  have hr : r = i.toRule := by
    cases r
    simp_all [TunnelIngress.toRule]
  exact hr ▸ hrmem

/-- The remote rules with a hostname of a list `ingressConfigEqual` accepts are the desired rules,
in some order. -/
theorem perm_of_ingressConfigEqual (hnodup : (d.map TunnelIngress.key).Nodup)
    (heq : ingressConfigEqual (some c) d = true)
    (hcolon : ∀ r ∈ c.ingress, ':' ∉ r.hostname.toList) (hcolon' : ∀ i ∈ d, ':' ∉ i.hostname.toList) :
    (d.map TunnelIngress.toRule).Perm (c.ingress.filter (·.hostname != "")) := by
  have hlen : (c.ingress.filter (·.hostname != "")).length = d.length := by
    simp only [ingressConfigEqual] at heq
    split at heq
    · cases heq
    · exact not_not.1 ‹_›
  have hnd : (d.map TunnelIngress.toRule).Nodup :=
    List.Nodup.of_map IngressRule.key (by simpa [List.map_map, Function.comp_def] using hnodup)
  refine (List.subperm_of_subset hnd fun r hr => ?_).perm_of_length_le (by simp [hlen])
  obtain ⟨i, hi, rfl⟩ := List.mem_map.1 hr
  exact toRule_mem_of_ingressConfigEqual heq hcolon hcolon' hi

/-- A skipped push is sound when the remote list is its rules with a hostname followed by the
catch-all alone, no request matches two desired rules, and no hostname holds a `:`: every request
is then routed by the remote list as by the pushed one. -/
theorem route_eq_of_ingressConfigEqual (isMatch : String → String → Request → Bool)
    (hnodup : (d.map TunnelIngress.key).Nodup) (heq : ingressConfigEqual (some c) d = true)
    (hcolon : ∀ r ∈ c.ingress, ':' ∉ r.hostname.toList) (hcolon' : ∀ i ∈ d, ':' ∉ i.hostname.toList)
    (hcatch : c.ingress = c.ingress.filter (·.hostname != "") ++ [catchAllRule])
    (hdisjoint : ∀ req, ∀ i ∈ d, ∀ j ∈ d, isMatch i.hostname i.path req = true →
      isMatch j.hostname j.path req = true → i = j)
    (req : Request) : route isMatch c.ingress req = route isMatch (pushedRules d) req := by
  have hperm := perm_of_ingressConfigEqual hnodup heq hcolon hcolon'
  have hfind := find?_eq_of_perm hperm (p := fun r => isMatch r.hostname r.path req) (by
    simp only [List.mem_map]
    rintro _ ⟨i, hi, rfl⟩ _ ⟨j, hj, rfl⟩ hmi hmj
    rw [hdisjoint req i hi j hj hmi hmj])
  rw [hcatch, route, route, pushedRules, List.find?_append, List.find?_append, hfind]

end Skip

/-- The rule of `app.example.com`, on every path. -/
def appRule : TunnelIngress := ⟨"app.example.com", "", "http://app:8080", none⟩

/-- The rule of `docs.example.com`, on every path. -/
def docsRule : TunnelIngress := ⟨"docs.example.com", "", "http://docs:8080", none⟩

/-- A matcher: a hostname or path matches when it is empty or equal to the request's. -/
def exactMatch (h p : String) (req : Request) : Bool :=
  (h == "" || h == req.host) && (p == "" || p == req.path)

/-- The remote list of `app` and `docs`, stored in the other order. -/
def docsFirst : TunnelConfiguration := ⟨"tun-1", [docsRule.toRule, appRule.toRule, catchAllRule]⟩

/-- Stored in either order, the rules of two hostnames route alike. -/
theorem docsFirst_routes_as_pushed :
    ingressConfigEqual (some docsFirst) [appRule, docsRule] = true ∧
      ∀ req, route exactMatch docsFirst.ingress req = route exactMatch (pushedRules [appRule, docsRule]) req :=
  ⟨by decide, route_eq_of_ingressConfigEqual exactMatch (by decide) (by decide) (by decide) (by decide)
    (by decide) fun req i hi j hj hmi hmj => by
      simp only [List.mem_cons, List.mem_singleton, List.not_mem_nil, or_false] at hi hj
      rcases hi with rfl | rfl <;> rcases hj with rfl | rfl <;> simp_all [exactMatch, appRule, docsRule] <;>
        exact absurd (hmi.trans hmj.symm) (by decide)⟩

/-- The rule of `app.example.com/api`. -/
def apiRule : TunnelIngress := ⟨"app.example.com", "/api", "http://api:8080", none⟩

/-- A skip is not sound without the hypotheses of the routing result. A remote list that ends in an
`http_status:503` catch-all routes an unknown host to it; a remote list that stores the rule of `/`
before the rule of `/api` routes `/api` to the first; and a remote rule of hostname `a` and path
`b:x` has the key of a desired rule of hostname `a:b` and path `x`. Each is accepted by
`ingressConfigEqual`, with distinct desired keys. -/
theorem skipped_push_routes_differently :
    (ingressConfigEqual (some ⟨"tun-1", [appRule.toRule, ⟨"", "", "http_status:503", none⟩]⟩) [appRule] ∧
      route exactMatch [appRule.toRule, ⟨"", "", "http_status:503", none⟩] ⟨"other.example.com", "/"⟩ ≠
        route exactMatch (pushedRules [appRule]) ⟨"other.example.com", "/"⟩) ∧
    (([apiRule, appRule].map TunnelIngress.key).Nodup ∧
      ingressConfigEqual (some ⟨"tun-1", [appRule.toRule, apiRule.toRule, catchAllRule]⟩) [apiRule, appRule] ∧
      route exactMatch [appRule.toRule, apiRule.toRule, catchAllRule] ⟨"app.example.com", "/api"⟩ ≠
        route exactMatch (pushedRules [apiRule, appRule]) ⟨"app.example.com", "/api"⟩) ∧
    (ingressConfigEqual (some ⟨"tun-1", [⟨"a", "b:x", "http://a:80", none⟩, catchAllRule]⟩)
        [⟨"a:b", "x", "http://a:80", none⟩] ∧
      route exactMatch [⟨"a", "b:x", "http://a:80", none⟩, catchAllRule] ⟨"a:b", "x"⟩ ≠
        route exactMatch (pushedRules [⟨"a:b", "x", "http://a:80", none⟩]) ⟨"a:b", "x"⟩) := by
  decide

/-! ## What the comparison decides

With hostnames free of `:`, `ingressConfigEqual` accepts a remote list exactly when its rules with
a hostname can be paired one to one with the desired rules, each pair agreeing in hostname, path,
service and origin options. Without that, a remote rule and a desired rule can share a key with
different hostnames. -/

/-- A desired rule and a remote rule agree: the same hostname, path and service, and origin
options that `originRequestEqual` relates. -/
def ruleAgrees (i : TunnelIngress) (r : IngressRule) : Bool :=
  r.hostname == i.hostname && r.path == i.path && r.service == i.service &&
    originRequestEqual r.originRequest i.originRequest

/-- The remote rules `ingressConfigEqual` compares: those with a hostname, none for a missing
configuration. -/
def hostnameRules (c : Option TunnelConfiguration) : List IngressRule :=
  ((c.map (·.ingress)).getD []).filter (·.hostname != "")

theorem ruleAgrees_toRule (i : TunnelIngress) : ruleAgrees i i.toRule = true := by
  cases h : i.originRequest <;> simp [ruleAgrees, TunnelIngress.toRule, originRequestEqual, h]

theorem key_eq_of_ruleAgrees {i : TunnelIngress} {r : IngressRule} (h : ruleAgrees i r = true) :
    r.key = i.key := by
  simp only [ruleAgrees, Bool.and_eq_true, beq_iff_eq] at h
  simp [IngressRule.key, TunnelIngress.key, h.1.1.1, h.1.1.2]

/-- Each element of either side of a pairing has a partner on the other. -/
theorem exists_of_forall₂_left {α β : Type} {R : α → β → Prop} {l₁ : List α} {l₂ : List β}
    (h : List.Forall₂ R l₁ l₂) {a : α} (ha : a ∈ l₁) : ∃ b ∈ l₂, R a b := by
  induction h with
  | nil => cases ha
  | cons hab _ ih =>
    rcases List.mem_cons.1 ha with rfl | ha
    · exact ⟨_, List.mem_cons_self _ _, hab⟩
    · obtain ⟨b, hb, h⟩ := ih ha
      exact ⟨b, List.mem_cons_of_mem _ hb, h⟩

theorem exists_of_forall₂_right {α β : Type} {R : α → β → Prop} {l₁ : List α} {l₂ : List β}
    (h : List.Forall₂ R l₁ l₂) {b : β} (hb : b ∈ l₂) : ∃ a ∈ l₁, R a b :=
  exists_of_forall₂_left (R := flip R) (List.Forall₂.flip (by simpa [flip] using h)) hb

section Bijection

variable {c : TunnelConfiguration} {d : List TunnelIngress}

/-- Paired with the desired rules, every remote rule with a hostname and the key of a desired rule
agrees with it, when no hostname holds a `:` and the desired rules have distinct hostname and
path. -/
theorem ruleAgrees_of_key_eq (hnd : (d.map fun i => (i.hostname, i.path)).Nodup)
    (hcolon : ∀ r ∈ c.ingress, ':' ∉ r.hostname.toList) (hcolon' : ∀ i ∈ d, ':' ∉ i.hostname.toList)
    {R : List IngressRule} (hperm : R.Perm (hostnameRules (some c)))
    (hF : List.Forall₂ (fun i r => ruleAgrees i r = true) d R) {i : TunnelIngress} (hi : i ∈ d)
    {r : IngressRule} (hr : r ∈ hostnameRules (some c)) (hkey : r.key = i.key) :
    ruleAgrees i r = true := by
  obtain ⟨j, hj, hjr⟩ := exists_of_forall₂_right hF (hperm.mem_iff.2 hr)
  have hrc : r ∈ c.ingress := (List.mem_filter.1 hr).1
  obtain ⟨hh, hp⟩ := key_inj (hcolon r hrc) (hcolon' i hi) hkey
  have hjr' := hjr
  simp only [ruleAgrees, Bool.and_eq_true, beq_iff_eq] at hjr'
  have hji : j = i := List.inj_on_of_nodup_map hnd hj hi (by
    simp only [Prod.mk.injEq]
    exact ⟨hjr'.1.1.1.symm.trans hh, hjr'.1.1.2.symm.trans hp⟩)
  exact hji ▸ hjr

end Bijection

/-- A remote rule of hostname `a` and path `b:x` has the key `a:b:x` of a desired rule of hostname
`a:b` and path `x`: `ingressConfigEqual` accepts the remote list, though no pairing keeps the
hostname. -/
theorem colliding_key_accepted_without_pairing :
    ingressConfigEqual (some ⟨"tun-1", [⟨"a", "b:x", "http://a:80", none⟩]⟩)
        [⟨"a:b", "x", "http://a:80", none⟩] = true ∧
      ¬∃ R, R.Perm (hostnameRules (some ⟨"tun-1", [⟨"a", "b:x", "http://a:80", none⟩]⟩)) ∧
        List.Forall₂ (fun i r => ruleAgrees i r = true) [⟨"a:b", "x", "http://a:80", none⟩] R := by
  refine ⟨by decide, ?_⟩
  rintro ⟨R, hperm, hF⟩
  obtain ⟨r, hr, hagree⟩ := exists_of_forall₂_left hF (List.mem_singleton_self _)
  have hr' : r = ⟨"a", "b:x", "http://a:80", none⟩ := by
    simpa [hostnameRules] using hperm.mem_iff.1 hr
  subst hr'
  exact absurd hagree (by decide)

/-- With no `:` in any hostname and desired rules of distinct hostname and path,
`ingressConfigEqual` accepts a remote configuration (none meaning no rules) exactly when its rules
with a hostname can be paired one to one with the desired rules, each pair agreeing. -/
theorem ingressConfigEqual_iff_pairing (c : Option TunnelConfiguration) (d : List TunnelIngress)
    (hnd : (d.map fun i => (i.hostname, i.path)).Nodup)
    (hcolon : ∀ r ∈ (c.map (·.ingress)).getD [], ':' ∉ r.hostname.toList)
    (hcolon' : ∀ i ∈ d, ':' ∉ i.hostname.toList) :
    ingressConfigEqual c d = true ↔
      ∃ R, R.Perm (hostnameRules c) ∧ List.Forall₂ (fun i r => ruleAgrees i r = true) d R := by
  cases c with
  | none => simp [ingressConfigEqual, hostnameRules, List.isEmpty_iff]
  | some c =>
    simp only [Option.map_some', Option.getD_some] at hcolon
    have hkeys : (d.map TunnelIngress.key).Nodup := by
      have : (d.map fun i => (i.hostname, i.path)).map (fun hp => hp.1 ++ ":" ++ hp.2) =
          d.map TunnelIngress.key := by simp [TunnelIngress.key]
      rw [← this]
      refine hnd.map_on fun x hx y hy hxy => ?_
      obtain ⟨i, hi, rfl⟩ := List.mem_map.1 hx
      obtain ⟨j, hj, rfl⟩ := List.mem_map.1 hy
      obtain ⟨hh, hp⟩ := key_inj (hcolon' i hi) (hcolon' j hj) hxy
      exact Prod.ext hh hp
    constructor
    · intro heq
      refine ⟨d.map TunnelIngress.toRule, perm_of_ingressConfigEqual hkeys heq hcolon hcolon', ?_⟩
      exact List.forall₂_map_right_iff.2 (List.forall₂_same.2 fun i _ => ruleAgrees_toRule i)
    · rintro ⟨R, hperm, hF⟩
      have hlen : (c.ingress.filter (·.hostname != "")).length = d.length :=
        hperm.length_eq.symm.trans hF.length_eq.symm
      simp only [ingressConfigEqual, hlen, ne_eq, not_true_eq_false, if_false, List.all_eq_true]
      intro i hi
      obtain ⟨r, hr, hagree⟩ := exists_of_forall₂_left hF hi
      have hsome := GoMap.isSome_lookup_foldl_insert IngressRule.key (hperm.mem_iff.1 hr)
      rw [key_eq_of_ruleAgrees hagree] at hsome
      obtain ⟨r', hr'⟩ := Option.isSome_iff_exists.1 hsome
      obtain ⟨hmem, hkey⟩ := GoMap.lookup_foldl_insert_eq_some hr'
      have := ruleAgrees_of_key_eq hnd hcolon hcolon' hperm hF hi hmem hkey
      simp only [ruleAgrees, Bool.and_eq_true] at this
      rw [show hostnameRules (some c) = c.ingress.filter (·.hostname != "") from rfl] at hr'
      simp [hr', this.1.2, this.2]

/-- The remote list of `app` and `docs` stored in the other order pairs with the desired rules. -/
theorem docsFirst_pairs_with_desired :
    ([appRule, docsRule].map fun i => (i.hostname, i.path)).Nodup ∧
      (∀ r ∈ ((some docsFirst).map (·.ingress)).getD [], ':' ∉ r.hostname.toList) ∧
      (∀ i ∈ [appRule, docsRule], ':' ∉ i.hostname.toList) ∧
      (ingressConfigEqual (some docsFirst) [appRule, docsRule] = true ↔
        ∃ R, R.Perm (hostnameRules (some docsFirst)) ∧
          List.Forall₂ (fun i r => ruleAgrees i r = true) [appRule, docsRule] R) :=
  ⟨by decide, by decide, by decide,
    ingressConfigEqual_iff_pairing _ _ (by decide) (by decide) (by decide)⟩

end Labelgate
