import Labelgate.Frame

/-!
# The credential router

`cloudflare.CredentialManager` (`cloudflare/credentials.go`): the credentials and tunnel
credentials loaded from the configuration by `newCredentialManager`, the choice of a credential
for a hostname (`getCredentialForZone`: explicit name, then the first credential whose zones
match, then the default) and of a client and tunnel credential for a tunnel name or ID
(`getTunnelClient`, which falls back to the first tunnel credential).

A client is named by its credential: `GetClient` caches one client per credential name. The
account ID that `GetTunnelClient` sets on the shared client is the returned tunnel credential's,
so callers read it from there.

The configuration's credentials and tunnels are Go maps, here lists in the order `range` visits
them, and `newCredentialManager` fills its slices in that order. Every first match of the router
reads it: the credential for a hostname two zones cover, the default credential without a root
token, and the fallback tunnel credential without a root tunnel all change when two entries swap.
-/

namespace Labelgate

/-- `config.CredentialConfig`. -/
structure CredentialConfig where
  apiToken : String
  zones : List String
deriving DecidableEq, Repr

/-- `config.TunnelConfig`. -/
structure TunnelConfig where
  accountID : String
  tunnelID : String
  credential : String
deriving DecidableEq, Repr

/-- `config.CloudflareConfig`, its two maps in the order `NewCredentialManager` visits them. -/
structure CloudflareConfig where
  apiToken : String := ""
  accountID : String := ""
  tunnelID : String := ""
  credentials : List (String × CredentialConfig) := []
  tunnels : List (String × TunnelConfig) := []
deriving DecidableEq, Repr

/-- `cloudflare.Credential`. -/
structure Credential where
  name : String
  apiToken : String
  zones : List String
  default : Bool
deriving DecidableEq, Repr

/-- `cloudflare.TunnelCredential`. -/
structure TunnelCredential where
  tunnelID : String
  tunnelName : String
  accountID : String
  credential : String
deriving DecidableEq, Repr

/-- `cloudflare.CredentialManager`, without its client and health caches. -/
structure CredentialManager where
  credentials : List Credential
  tunnelCredentials : List TunnelCredential
  defaultCredential : Option Credential
deriving DecidableEq, Repr

/-- `NewCredentialManager`: the root credential first (the default), then the named ones; with
no root token the first named credential becomes the default. -/
def newCredentialManager (cfg : CloudflareConfig) : Except String CredentialManager :=
  let root : List Credential :=
    if cfg.apiToken ≠ "" then [⟨"default", cfg.apiToken, [], true⟩] else []
  let named := cfg.credentials.map fun (name, c) => (⟨name, c.apiToken, c.zones, false⟩ : Credential)
  let tunnels : List TunnelCredential :=
    (if cfg.accountID ≠ "" ∧ cfg.tunnelID ≠ "" then [⟨cfg.tunnelID, "default", cfg.accountID, ""⟩]
      else []) ++ cfg.tunnels.map fun (name, t) => ⟨t.tunnelID, name, t.accountID, t.credential⟩
  match root, named with
  | [], [] => .error "no Cloudflare credentials configured"
  | [], c :: rest => .ok ⟨{ c with default := true } :: rest, tunnels, some { c with default := true }⟩
  | d :: _, _ => .ok ⟨root ++ named, tunnels, some d⟩

/-- `NewCredentialManager` fails only when no credential is configured at all. -/
theorem newCredentialManager_eq_error {cfg : CloudflareConfig} {e : String} :
    newCredentialManager cfg = .error e ↔
      e = "no Cloudflare credentials configured" ∧ cfg.apiToken = "" ∧ cfg.credentials = [] := by
  unfold newCredentialManager
  by_cases h : cfg.apiToken = "" <;> cases hc : cfg.credentials <;> simp [h, hc, eq_comm]

/-- A root token is the default credential. -/
theorem newCredentialManager_root {cfg : CloudflareConfig} (h : cfg.apiToken ≠ "") :
    ∃ cm, newCredentialManager cfg = .ok cm ∧
      cm.defaultCredential = some ⟨"default", cfg.apiToken, [], true⟩ := by
  unfold newCredentialManager
  simp only [h, ne_eq, not_false_eq_true, if_true]
  exact ⟨_, rfl, rfl⟩

/-- `matchZone`: exact, `.`-suffix or `*.`-wildcard match of a hostname against the zones of a
credential. -/
def matchZone (cred : Credential) (hostname : String) : Bool :=
  let hostname := trimSuffix hostname "."
  cred.zones.any fun zone =>
    let zone := trimSuffix zone "."
    hostname == zone || hasSuffix hostname ("." ++ zone) ||
      (hasPrefix zone "*." &&
        (hostname == dropChars zone 2 || hasSuffix hostname ("." ++ dropChars zone 2)))

/-- `GetClient`, naming the client by its credential. -/
def getClient (cred : Credential) : Except String String :=
  if cred.apiToken = "" then .error ("invalid credential " ++ cred.name ++ ": missing API token")
  else .ok cred.name

namespace CredentialManager

variable (cm : CredentialManager)

/-- `GetCredentialForZone`: explicit label, then zone matching, then the default. -/
def getCredentialForZone (hostname explicitCredName : String) : Except String Credential :=
  if explicitCredName ≠ "" then
    match cm.credentials.find? (·.name == explicitCredName) with
    | some c => .ok c
    | none => .error ("credential not found: " ++ explicitCredName)
  else
    match cm.credentials.find? (matchZone · hostname) with
    | some c => .ok c
    | none =>
      match cm.defaultCredential with
      | some c => .ok c
      | none => .error ("no matching credential found for hostname: " ++ hostname)

/-- `GetTunnelCredential`: the first tunnel credential with that ID or name. -/
def getTunnelCredential (tunnelIDOrName : String) : Except String TunnelCredential :=
  match cm.tunnelCredentials.find? fun t => t.tunnelID == tunnelIDOrName || t.tunnelName == tunnelIDOrName with
  | some t => .ok t
  | none => .error ("tunnel credential not found: " ++ tunnelIDOrName)

/-- `GetClientForHostname`. -/
def getClientForHostname (hostname explicitCredName : String) : Except String String := do
  getClient (← cm.getCredentialForZone hostname explicitCredName)

/-- An explicit name selects a credential of that name, whatever the hostname. -/
theorem getCredentialForZone_name {hostname name : String} (hname : name ≠ "") {c : Credential}
    (h : cm.getCredentialForZone hostname name = .ok c) : c.name = name := by
  simp only [getCredentialForZone, if_pos hname] at h
  split at h
  · rename_i hfind
    cases h
    have hbeq := List.find?_some hfind
    exact beq_iff_eq.1 hbeq
  · cases h

/-- Without an explicit name, the first credential whose zones match the hostname wins. -/
theorem getCredentialForZone_zone {hostname : String} {c : Credential}
    (h : cm.credentials.find? (matchZone · hostname) = some c) :
    cm.getCredentialForZone hostname "" = .ok c := by
  simp [getCredentialForZone, h]

/-- The client of a hostname is the one of the credential the router selects for it. -/
theorem getClientForHostname_eq_ok {hostname name client : String} :
    cm.getClientForHostname hostname name = .ok client ↔
      ∃ c, cm.getCredentialForZone hostname name = .ok c ∧ c.apiToken ≠ "" ∧ client = c.name := by
  unfold getClientForHostname
  cases cm.getCredentialForZone hostname name with
  | error e => simp [bind, Except.bind]
  | ok c =>
    by_cases ht : c.apiToken = ""
    · simp [bind, Except.bind, getClient, ht]
    · simp [bind, Except.bind, getClient, ht, eq_comm]
      exact fun _ => Ne.symm ht

/-- `GetTunnelClient`: the client and tunnel credential for a tunnel name or ID. An unknown
name falls back to the default credential and the first tunnel credential. -/
def getTunnelClient (tunnelIDOrName : String) : Except String (String × Option TunnelCredential) :=
  match cm.getTunnelCredential tunnelIDOrName with
  | .error e =>
    match cm.defaultCredential with
    | some d => do
      let client ← getClient d
      pure (client, cm.tunnelCredentials.head?)
    | none => .error e
  | .ok tc =>
    let cred :=
      if tc.credential ≠ "" then
        match cm.getCredentialForZone "" tc.credential with
        | .ok c => some c
        | .error _ => cm.defaultCredential
      else cm.defaultCredential
    match cred with
    | none => .error ("no credential available for tunnel " ++ tunnelIDOrName)
    | some c => do
      let client ← getClient c
      pure (client, some tc)

/-- `ListTunnels`. -/
def listTunnels : List String := cm.tunnelCredentials.map (·.tunnelName)

/-- `GetDefaultClient`. -/
def getDefaultClient : Except String String :=
  match cm.defaultCredential with
  | some c => getClient c
  | none => .error "no default credential configured"

end CredentialManager

/-- The router of the smallest configuration: one API token, and one account whose tunnel `tun-1`
is the `default` tunnel. -/
def singleAccountCredentials : CredentialManager :=
  ⟨[⟨"default", "token", [], true⟩], [⟨"tun-1", "default", "account-1", ""⟩],
    some ⟨"default", "token", [], true⟩⟩

example : newCredentialManager { apiToken := "token", accountID := "account-1", tunnelID := "tun-1" } =
    .ok singleAccountCredentials := rfl

/-! ## The order of the configuration's maps

`NewCredentialManager` fills its lists by ranging over `cfg.Cloudflare.Credentials` and
`cfg.Cloudflare.Tunnels`, and the router then takes the first entry that fits: the first named
credential whose zones match, the first named credential as default when there is no root token,
the first tunnel credential as fallback. What it selects is therefore the first fitting entry in
the order of the range. -/

/-- The first named credential whose zones match a hostname is the one selected for it, whether
or not there is a root token (whose credential matches no zone). -/
theorem getCredentialForZone_first_named (cfg : CloudflareConfig) {n : String}
    {c : CredentialConfig} (rest : List (String × CredentialConfig)) {hostname : String}
    (h : matchZone ⟨n, c.apiToken, c.zones, false⟩ hostname = true) :
    (newCredentialManager { cfg with credentials := (n, c) :: rest } >>=
      (·.getCredentialForZone hostname "")).map (·.name) = .ok n := by
  have h' : matchZone ⟨n, c.apiToken, c.zones, true⟩ hostname = true := h
  have hroot : matchZone ⟨"default", cfg.apiToken, [], true⟩ hostname = false := rfl
  by_cases htok : cfg.apiToken = "" <;>
    simp [newCredentialManager, htok, CredentialManager.getCredentialForZone, List.find?_cons, bind,
      Except.bind, Except.map, h, h', hroot]

/-- With no root token, the default client is the first named credential's. -/
theorem getDefaultClient_first_named {cfg : CloudflareConfig} (hroot : cfg.apiToken = "")
    {n : String} {c : CredentialConfig} (hc : c.apiToken ≠ "")
    (rest : List (String × CredentialConfig)) :
    (newCredentialManager { cfg with credentials := (n, c) :: rest } >>= (·.getDefaultClient)) =
      .ok n := by
  simp [newCredentialManager, hroot, CredentialManager.getDefaultClient, getClient, hc, bind,
    Except.bind]

/-- With a root token and no root tunnel, a name that is no tunnel's gets the default client and
the first tunnel credential. -/
theorem getTunnelClient_unknown {cfg : CloudflareConfig} (hroot : cfg.apiToken ≠ "")
    (hnoRoot : cfg.accountID = "" ∨ cfg.tunnelID = "") {t name : String} {u : TunnelConfig}
    {rest : List (String × TunnelConfig)}
    (hname : ∀ x ∈ (t, u) :: rest, x.1 ≠ name ∧ x.2.tunnelID ≠ name) :
    (newCredentialManager { cfg with tunnels := (t, u) :: rest } >>= (·.getTunnelClient name)) =
      .ok ("default", some ⟨u.tunnelID, t, u.accountID, u.credential⟩) := by
  have hnone : List.find? (fun tc : TunnelCredential => tc.tunnelID == name || tc.tunnelName == name)
      (((t, u) :: rest).map fun x => ⟨x.2.tunnelID, x.1, x.2.accountID, x.2.credential⟩) = none := by
    refine List.find?_eq_none.2 fun tc htc => ?_
    obtain ⟨x, hx, rfl⟩ := List.mem_map.1 htc
    simp [(hname x hx).1, (hname x hx).2]
  have hnr : ¬(cfg.accountID ≠ "" ∧ cfg.tunnelID ≠ "") := by tauto
  simp only [List.map_cons] at hnone
  simp [newCredentialManager, hroot, hnr, CredentialManager.getTunnelClient,
    CredentialManager.getTunnelCredential, getClient, bind, Except.bind, pure, Except.pure, hnone]

/-- Swapping two entries of a configuration map swaps what the router selects: two named
credentials whose zones both match a hostname, the default client when there is no root token,
and the tunnel credential an unknown tunnel name falls back to when there is no root tunnel. -/
theorem credential_choice_depends_on_map_order :
    (∀ (cfg : CloudflareConfig) (n₁ n₂ : String) (c₁ c₂ : CredentialConfig) rest hostname,
      matchZone ⟨n₁, c₁.apiToken, c₁.zones, false⟩ hostname = true →
      matchZone ⟨n₂, c₂.apiToken, c₂.zones, false⟩ hostname = true →
      (newCredentialManager { cfg with credentials := (n₁, c₁) :: (n₂, c₂) :: rest } >>=
        (·.getCredentialForZone hostname "")).map (·.name) = .ok n₁ ∧
      (newCredentialManager { cfg with credentials := (n₂, c₂) :: (n₁, c₁) :: rest } >>=
        (·.getCredentialForZone hostname "")).map (·.name) = .ok n₂) ∧
    (∀ (cfg : CloudflareConfig) (n₁ n₂ : String) (c₁ c₂ : CredentialConfig) rest,
      cfg.apiToken = "" → c₁.apiToken ≠ "" → c₂.apiToken ≠ "" →
      (newCredentialManager { cfg with credentials := (n₁, c₁) :: (n₂, c₂) :: rest } >>=
        (·.getDefaultClient)) = .ok n₁ ∧
      (newCredentialManager { cfg with credentials := (n₂, c₂) :: (n₁, c₁) :: rest } >>=
        (·.getDefaultClient)) = .ok n₂) ∧
    (∀ (cfg : CloudflareConfig) (t₁ t₂ : String) (u₁ u₂ : TunnelConfig) rest name,
      cfg.apiToken ≠ "" → (cfg.accountID = "" ∨ cfg.tunnelID = "") →
      (∀ x ∈ (t₁, u₁) :: (t₂, u₂) :: rest, x.1 ≠ name ∧ x.2.tunnelID ≠ name) →
      (newCredentialManager { cfg with tunnels := (t₁, u₁) :: (t₂, u₂) :: rest } >>=
        (·.getTunnelClient name)) = .ok ("default", some ⟨u₁.tunnelID, t₁, u₁.accountID, u₁.credential⟩) ∧
      (newCredentialManager { cfg with tunnels := (t₂, u₂) :: (t₁, u₁) :: rest } >>=
        (·.getTunnelClient name)) = .ok ("default", some ⟨u₂.tunnelID, t₂, u₂.accountID, u₂.credential⟩)) :=
  ⟨fun cfg _ _ _ _ _ _ h₁ h₂ =>
      ⟨getCredentialForZone_first_named cfg _ h₁, getCredentialForZone_first_named cfg _ h₂⟩,
    fun _ _ _ _ _ _ hroot h₁ h₂ =>
      ⟨getDefaultClient_first_named hroot h₁ _, getDefaultClient_first_named hroot h₂ _⟩,
    fun _ _ _ _ _ _ _ hroot hnoRoot hname =>
      ⟨getTunnelClient_unknown hroot hnoRoot hname, getTunnelClient_unknown hroot hnoRoot
        fun x hx => hname x ((List.Perm.swap _ _ _).mem_iff.1 hx)⟩⟩

/-- Two credentials for `example.com` and `sub.example.com`, with no root token, and two tunnels
under a root token: each swap of the configuration's maps changes the selection. -/
theorem swapped_maps_select_differently :
    (matchZone ⟨"main", "token-a", ["example.com"], false⟩ "api.sub.example.com" = true ∧
      matchZone ⟨"sub", "token-b", ["sub.example.com"], false⟩ "api.sub.example.com" = true ∧
      (newCredentialManager { credentials := [("main", ⟨"token-a", ["example.com"]⟩),
          ("sub", ⟨"token-b", ["sub.example.com"]⟩)] } >>=
        (·.getCredentialForZone "api.sub.example.com" "")).map (·.name) = .ok "main" ∧
      (newCredentialManager { credentials := [("sub", ⟨"token-b", ["sub.example.com"]⟩),
          ("main", ⟨"token-a", ["example.com"]⟩)] } >>=
        (·.getCredentialForZone "api.sub.example.com" "")).map (·.name) = .ok "sub") ∧
    (newCredentialManager { credentials := [("main", ⟨"token-a", ["example.com"]⟩),
        ("sub", ⟨"token-b", ["sub.example.com"]⟩)] } >>= (·.getDefaultClient)) = .ok "main" ∧
    (newCredentialManager { credentials := [("sub", ⟨"token-b", ["sub.example.com"]⟩),
        ("main", ⟨"token-a", ["example.com"]⟩)] } >>= (·.getDefaultClient)) = .ok "sub" ∧
    (newCredentialManager { apiToken := "token", tunnels := [("edge-1", ⟨"account-1", "tun-1", ""⟩),
        ("edge-2", ⟨"account-2", "tun-2", ""⟩)] } >>= (·.getTunnelClient "other")) =
      .ok ("default", some ⟨"tun-1", "edge-1", "account-1", ""⟩) ∧
    (newCredentialManager { apiToken := "token", tunnels := [("edge-2", ⟨"account-2", "tun-2", ""⟩),
        ("edge-1", ⟨"account-1", "tun-1", ""⟩)] } >>= (·.getTunnelClient "other")) =
      .ok ("default", some ⟨"tun-2", "edge-2", "account-2", ""⟩) :=
  have hz₁ : matchZone ⟨"main", "token-a", ["example.com"], false⟩ "api.sub.example.com" = true := by
    decide
  have hz₂ : matchZone ⟨"sub", "token-b", ["sub.example.com"], false⟩ "api.sub.example.com" = true := by
    decide
  have hd := credential_choice_depends_on_map_order.2.1 {} "main" "sub" ⟨"token-a", ["example.com"]⟩
    ⟨"token-b", ["sub.example.com"]⟩ [] rfl (by decide) (by decide)
  have ht := credential_choice_depends_on_map_order.2.2 { apiToken := "token" } "edge-1" "edge-2"
    ⟨"account-1", "tun-1", ""⟩ ⟨"account-2", "tun-2", ""⟩ [] "other" (by decide) (.inl rfl) (by decide)
  ⟨⟨hz₁, hz₂, credential_choice_depends_on_map_order.1 {} "main" "sub" ⟨"token-a", ["example.com"]⟩
    ⟨"token-b", ["sub.example.com"]⟩ [] "api.sub.example.com" hz₁ hz₂⟩, hd.1, hd.2, ht.1, ht.2⟩

end Labelgate
