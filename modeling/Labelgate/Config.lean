import Labelgate.Reconciler.Pass

/-!
# Loading the configuration and starting up

`config.Load` (`config/loader.go`) unmarshals the configuration, lets three environment variables
override the root Cloudflare fields (`applyEnvOverrides`), and hands the result to `validate`.
`validate` replaces an unknown mode, log level or log format by its default, then refuses two
configurations: an agent that dials out with no endpoint, and a main instance with no Cloudflare
credential unless `skip_credential_validation` is set. `main` then runs by the mode. `runMain`
opens and initialises the ledger at `db.path`, builds the credential manager with
`NewCredentialManager`, connects the Docker provider and builds the reconciler from the sync
settings, returning the first error on the way. `runAgent` starts the inbound listener in
`inbound` mode and the outbound client otherwise; each connects the Docker provider first. The
listener refuses an empty listen address, and the client's `connect` refuses an empty endpoint
before it dials. The host's answers (the environment, the ledger file, the Docker daemon) are
inputs (`Host`).

What `Load` returns is normal, and `validate` accepts it unchanged (`load_normal`). `main` in
terms of the file is `mainStartup_eq`. A token in the environment gives a main instance that
stops only at the ledger or at Docker, and otherwise starts with that token as the default
credential (`startup_env_token_default`). The refusals of `validate` do not quite match the code
that runs after them:

* `NewCredentialManager` fails exactly when the ledger opened, the credential check was skipped
  and no credential is configured (`startup_credentialsFailed_iff`);
* an agent's client fails with `no endpoint configured` exactly when its connect mode is neither
  `inbound` nor `outbound`, it names no endpoint and Docker answers: `validate` asks for an
  endpoint in `outbound` mode only, while `runAgent` runs the client in every mode but `inbound`
  (`startup_connect_no_endpoint_iff`);
* `validate` checks no listen address, and an inbound agent with none stops once Docker answers
  (`startup_no_listen_iff`).
-/

namespace Labelgate

/-- `config.DockerConfig`: where the Docker provider connects. -/
structure DockerConfig where
  endpoint : String
deriving DecidableEq, Repr

/-- `config.ConnectConfig`: how an agent reaches the main instance. -/
structure ConnectConfig where
  mode : String
  endpoint : String
  listen : String
deriving DecidableEq, Repr

/-- `config.SyncConfig`, its durations in seconds. -/
structure SyncConfig where
  removeDelay : Int
  orphanTTL : Int
deriving DecidableEq, Repr

/-- `config.DbConfig`: the ledger's SQLite file. -/
structure DbConfig where
  path : String
deriving DecidableEq, Repr

/-- `config.Config`: the fields `validate` and `main` read. -/
structure Config where
  logLevel : String
  logFormat : String
  mode : String
  docker : DockerConfig
  cloudflare : CloudflareConfig
  sync : SyncConfig
  db : DbConfig
  connect : ConnectConfig
  skipCredentialValidation : Bool
deriving DecidableEq, Repr

/-- `DefaultConfig`. -/
def defaultConfig : Config where
  logLevel := "info"
  logFormat := "text"
  mode := "main"
  docker := ⟨"unix:///var/run/docker.sock"⟩
  cloudflare := {}
  sync := ⟨30 * 60, 0⟩
  db := ⟨"/app/config/labelgate.db"⟩
  connect := ⟨"outbound", "", ""⟩
  skipCredentialValidation := false

/-- `EnvPrefix`. -/
def envPrefix : String := "LABELGATE"

/-- One statement of `applyEnvOverrides`: the variable `envPrefix ++ name`, when set, replaces
the field. `getenv` is `os.Getenv`. -/
def envOverride (getenv : String → String) (name current : String) : String :=
  if getenv (envPrefix ++ name) ≠ "" then getenv (envPrefix ++ name) else current

@[simp] theorem envOverride_eq_empty {getenv : String → String} {name current : String} :
    envOverride getenv name current = "" ↔ getenv (envPrefix ++ name) = "" ∧ current = "" := by
  unfold envOverride
  split_ifs <;> simp_all

/-- `applyEnvOverrides`: the root API token, account and tunnel from the environment. -/
def applyEnvOverrides (getenv : String → String) (cfg : Config) : Config :=
  { cfg with cloudflare := { cfg.cloudflare with
      apiToken := envOverride getenv "_CLOUDFLARE_API_TOKEN" cfg.cloudflare.apiToken
      accountID := envOverride getenv "_CLOUDFLARE_ACCOUNT_ID" cfg.cloudflare.accountID
      tunnelID := envOverride getenv "_CLOUDFLARE_TUNNEL_ID" cfg.cloudflare.tunnelID } }

/-- `applyEnvOverrides` touches the three root Cloudflare fields only. -/
@[simp] theorem applyEnvOverrides_frame (getenv : String → String) (c : Config) :
    (applyEnvOverrides getenv c).mode = c.mode ∧ (applyEnvOverrides getenv c).docker = c.docker ∧
      (applyEnvOverrides getenv c).sync = c.sync ∧ (applyEnvOverrides getenv c).db = c.db ∧
      (applyEnvOverrides getenv c).connect = c.connect ∧
      (applyEnvOverrides getenv c).skipCredentialValidation = c.skipCredentialValidation ∧
      (applyEnvOverrides getenv c).cloudflare.credentials = c.cloudflare.credentials :=
  ⟨rfl, rfl, rfl, rfl, rfl, rfl, rfl⟩

@[simp] theorem applyEnvOverrides_apiToken (getenv : String → String) (c : Config) :
    (applyEnvOverrides getenv c).cloudflare.apiToken =
      envOverride getenv "_CLOUDFLARE_API_TOKEN" c.cloudflare.apiToken := rfl

/-- `ValidationError`. -/
structure ValidationError where
  field : String
  message : String
deriving DecidableEq, Repr

/-- `ValidationError.Error`. -/
def ValidationError.error (e : ValidationError) : String :=
  "config validation error: " ++ e.field ++ ": " ++ e.message

/-- The keys of `validLevels`. -/
def validLevels : List String := ["debug", "info", "warn", "error"]

namespace Config

/-- The first three statements of `validate`: an unknown mode, log level or log format is
replaced by its default. -/
def normalize (cfg : Config) : Config :=
  let cfg := if cfg.mode ≠ "main" ∧ cfg.mode ≠ "agent" then { cfg with mode := "main" } else cfg
  let cfg := if cfg.logLevel ∉ validLevels then { cfg with logLevel := "info" } else cfg
  if cfg.logFormat ≠ "json" ∧ cfg.logFormat ≠ "text" then { cfg with logFormat := "text" } else cfg

/-- A configuration `validate` does not rewrite: a known mode, log level and log format. -/
def Normal (cfg : Config) : Prop :=
  (cfg.mode = "main" ∨ cfg.mode = "agent") ∧ cfg.logLevel ∈ validLevels ∧
    (cfg.logFormat = "json" ∨ cfg.logFormat = "text")

instance : DecidablePred Normal := fun _ => inferInstanceAs (Decidable (_ ∧ _))

end Config

/-- The error of `validate`'s check on agents. -/
def endpointRequired : ValidationError :=
  ⟨"connect.endpoint", "endpoint is required in agent outbound mode"⟩

/-- The error of `validate`'s check on main instances. -/
def credentialRequired : ValidationError :=
  ⟨"cloudflare.api_token", "at least one credential is required: set cloudflare.api_token " ++
    "or configure cloudflare.credentials"⟩

/-- `validate`, returning the configuration it leaves when it accepts it. -/
def validate (cfg : Config) : Except ValidationError Config :=
  let cfg := cfg.normalize
  if cfg.mode = "agent" ∧ cfg.connect.mode = "outbound" ∧ cfg.connect.endpoint = "" then
    .error endpointRequired
  else if cfg.mode = "main" ∧ cfg.cloudflare.apiToken = "" ∧ cfg.cloudflare.credentials = [] ∧
      cfg.skipCredentialValidation = false then
    .error credentialRequired
  else .ok cfg

/-- `Load`, from the configuration viper unmarshals: the environment overrides, then `validate`. -/
def load (getenv : String → String) (unmarshalled : Config) : Except ValidationError Config :=
  validate (applyEnvOverrides getenv unmarshalled)

/-- What the host answers at startup: the environment (`os.Getenv`), opening and initialising
the ledger at a path (`NewSQLiteStorage`, then `Initialize`), and connecting the Docker provider
(`DockerProvider.Connect`). -/
structure Host where
  getenv : String → String
  openStorage : String → Except String Unit
  connectDocker : DockerConfig → Except String Unit

/-- Where `main` stands once startup is over: stopped, or running. -/
inductive Startup
  /-- `Load` failed: `main` stops with "Failed to load configuration". -/
  | loadFailed (err : String)
  /-- `runMain` returned the error of opening or initialising the ledger. -/
  | storageFailed (err : String)
  /-- `runMain` returned the error of `NewCredentialManager`. -/
  | credentialsFailed (err : String)
  /-- `runMain` returned the error of connecting the Docker provider. -/
  | dockerFailed (err : String)
  /-- `runMain` got past the Docker provider and builds the reconciler from this. -/
  | main (rc : ReconcilerConfig)
  /-- `runAgent` returned the inbound listener's error: `main` logs it and stops. -/
  | agentFailed (err : String)
  /-- The inbound listener waits for the main instance on this address. -/
  | agentListens (addr : String)
  /-- `Client.Run` returned this error: `runAgent` logs it and runs the client again. -/
  | clientFailed (err : String)
  /-- The client's `connect` failed with this error before any dial: `Client.Run` tries again. -/
  | connectFailed (err : String)
  /-- The client dials the main instance at this endpoint. -/
  | agentDials (endpoint : String)
  /-- `main` stops with "Unknown mode". -/
  | unknownMode (mode : String)

/-- `runMain` up to the reconciler: the ledger, `NewCredentialManager`, the Docker provider, and
the reconciler's settings. The credential check and the Access permission probe only log. -/
def runMain (host : Host) (cfg : Config) : Startup :=
  match host.openStorage cfg.db.path with
  | .error err => .storageFailed err
  | .ok () =>
    match newCredentialManager cfg.cloudflare with
    | .error err => .credentialsFailed err
    | .ok cm =>
      match host.connectDocker cfg.docker with
      | .error err => .dockerFailed err
      | .ok () =>
        .main { creds := cm, removeDelay := cfg.sync.removeDelay, orphanTTL := cfg.sync.orphanTTL }

/-- `InboundListener.Run` up to the listen: the Docker provider, then the listen address. -/
def InboundListener.run (host : Host) (cfg : Config) : Startup :=
  match host.connectDocker cfg.docker with
  | .error err => .agentFailed ("failed to connect to provider: " ++ err)
  | .ok () =>
    if cfg.connect.listen = "" then .agentFailed "no listen address configured for inbound mode"
    else .agentListens cfg.connect.listen

/-- `Client.Run` up to the first dial: the Docker provider, then `connect`, which refuses an empty
endpoint before it dials. Every retry reads the same endpoint. -/
def Client.run (host : Host) (cfg : Config) : Startup :=
  match host.connectDocker cfg.docker with
  | .error err => .clientFailed ("failed to connect to provider: " ++ err)
  | .ok () =>
    if cfg.connect.endpoint = "" then .connectFailed "no endpoint configured"
    else .agentDials cfg.connect.endpoint

/-- `runAgent`'s switch on the connect mode: `outbound` is the default. -/
def runAgent (host : Host) (cfg : Config) : Startup :=
  if cfg.connect.mode = "inbound" then InboundListener.run host cfg else Client.run host cfg

/-- `main` from `Load` on: the switch on the mode. -/
def mainStartup (host : Host) (unmarshalled : Config) : Startup :=
  match load host.getenv unmarshalled with
  | .error e => .loadFailed e.error
  | .ok cfg =>
    if cfg.mode = "main" then runMain host cfg
    else if cfg.mode = "agent" then runAgent host cfg
    else .unknownMode cfg.mode

/-! ## What `validate` leaves -/

namespace Config

/-- `normalize` in closed form: each of the three fields is kept when known. -/
theorem normalize_eq (cfg : Config) : cfg.normalize =
    { cfg with
      mode := if cfg.mode = "main" ∨ cfg.mode = "agent" then cfg.mode else "main"
      logLevel := if cfg.logLevel ∈ validLevels then cfg.logLevel else "info"
      logFormat := if cfg.logFormat = "json" ∨ cfg.logFormat = "text" then cfg.logFormat else "text" } := by
  unfold normalize
  simp only [ne_eq, ← not_or]
  split_ifs <;> simp_all

/-- `normalize` touches the mode, log level and log format only. -/
@[simp] theorem normalize_frame (cfg : Config) :
    cfg.normalize.docker = cfg.docker ∧ cfg.normalize.cloudflare = cfg.cloudflare ∧
      cfg.normalize.sync = cfg.sync ∧ cfg.normalize.db = cfg.db ∧ cfg.normalize.connect = cfg.connect ∧
      cfg.normalize.skipCredentialValidation = cfg.skipCredentialValidation := by
  rw [normalize_eq]
  exact ⟨rfl, rfl, rfl, rfl, rfl, rfl⟩

/-- The mode `validate` leaves is `agent` only when it was `agent`, and `main` otherwise. -/
theorem normalize_mode (cfg : Config) :
    cfg.normalize.mode = if cfg.mode = "agent" then "agent" else "main" := by
  rw [normalize_eq]
  by_cases h : cfg.mode = "agent" <;> simp only [h, if_true, if_false] <;> split_ifs <;> simp_all

theorem normalize_normal (cfg : Config) : cfg.normalize.Normal := by
  rw [normalize_eq]
  refine ⟨?_, ?_, ?_⟩ <;> dsimp only <;> split_ifs <;> simp_all [validLevels]

theorem Normal.normalize_eq_self {cfg : Config} (h : cfg.Normal) : cfg.normalize = cfg := by
  rw [normalize_eq, if_pos h.1, if_pos h.2.1, if_pos h.2.2]

example : defaultConfig.Normal := by decide

end Config

/-- What `validate` accepts is the normalised configuration, past both refusals. -/
theorem validate_ok {cfg cfg' : Config} (h : validate cfg = .ok cfg') :
    cfg' = cfg.normalize ∧
      ¬(cfg'.mode = "agent" ∧ cfg'.connect.mode = "outbound" ∧ cfg'.connect.endpoint = "") ∧
      ¬(cfg'.mode = "main" ∧ cfg'.cloudflare.apiToken = "" ∧ cfg'.cloudflare.credentials = [] ∧
        cfg'.skipCredentialValidation = false) := by
  unfold validate at h
  dsimp only at h
  split_ifs at h with h₁ h₂
  cases h
  exact ⟨rfl, h₁, h₂⟩

/-- Every error of `validate` names the field whose check refused the configuration. -/
theorem validate_error {cfg : Config} {e : ValidationError} (h : validate cfg = .error e) :
    (e.field = "connect.endpoint" ∧ cfg.normalize.mode = "agent" ∧
        cfg.connect.mode = "outbound" ∧ cfg.connect.endpoint = "") ∨
      (e.field = "cloudflare.api_token" ∧ cfg.normalize.mode = "main" ∧
        cfg.cloudflare.apiToken = "" ∧ cfg.cloudflare.credentials = [] ∧
        cfg.skipCredentialValidation = false) := by
  unfold validate at h
  dsimp only at h
  split_ifs at h with h₁ h₂ <;> cases h
  · exact .inl ⟨rfl, by simpa using h₁⟩
  · exact .inr ⟨rfl, by simpa using h₂⟩

/-- The default configuration names no credential: `validate` refuses it. -/
example : validate defaultConfig = .error ⟨"cloudflare.api_token",
    "at least one credential is required: set cloudflare.api_token or configure cloudflare.credentials"⟩ :=
  rfl

/-! ## What `Load` returns -/

/-- What `Load` returns is normal, and validating it again accepts it unchanged. -/
theorem load_normal {getenv : String → String} {c cfg : Config} (h : load getenv c = .ok cfg) :
    cfg.Normal ∧ validate cfg = .ok cfg := by
  obtain ⟨rfl, h₁, h₂⟩ := validate_ok h
  refine ⟨Config.normalize_normal _, ?_⟩
  unfold validate
  rw [(Config.normalize_normal _).normalize_eq_self, if_neg h₁, if_neg h₂]

/-- A file with an unknown mode, log level and log format, and a root token. -/
def noisyConfig : Config :=
  { defaultConfig with
    mode := "server"
    logLevel := "trace"
    logFormat := "yaml"
    cloudflare := { apiToken := "token" } }

/-- `Load` puts the three defaults in, and `validate` then accepts the result as it is. -/
theorem noisyConfig_normal :
    load (fun _ => "") noisyConfig =
        .ok { noisyConfig with mode := "main", logLevel := "info", logFormat := "text" } ∧
      Config.Normal { noisyConfig with mode := "main", logLevel := "info", logFormat := "text" } ∧
      validate { noisyConfig with mode := "main", logLevel := "info", logFormat := "text" } =
        .ok { noisyConfig with mode := "main", logLevel := "info", logFormat := "text" } :=
  have h : load (fun _ => "") noisyConfig =
      .ok { noisyConfig with mode := "main", logLevel := "info", logFormat := "text" } := rfl
  ⟨h, load_normal h⟩

/-! ## What `main` runs -/

/-- Whether startup stands in `runAgent` rather than in `runMain` or `Load`. -/
def Startup.inAgent : Startup → Bool
  | .agentFailed _ | .agentListens _ | .clientFailed _ | .connectFailed _ | .agentDials _ => true
  | _ => false

theorem runMain_ne_of_inAgent (host : Host) (cfg : Config) {s : Startup} (hs : s.inAgent = true) :
    runMain host cfg ≠ s := by
  unfold runMain
  repeat' split
  all_goals rintro rfl; cases hs

theorem runAgent_ne_of_inAgent (host : Host) (cfg : Config) {s : Startup} (hs : s.inAgent = false) :
    runAgent host cfg ≠ s := by
  unfold runAgent InboundListener.run Client.run
  repeat' split
  all_goals rintro rfl; cases hs

/-- `runMain` stops at `NewCredentialManager` exactly when the ledger opened and no credential is
configured. -/
theorem runMain_credentialsFailed (host : Host) (cfg : Config) :
    (∃ err, runMain host cfg = .credentialsFailed err) ↔
      host.openStorage cfg.db.path = .ok () ∧ cfg.cloudflare.apiToken = "" ∧
        cfg.cloudflare.credentials = [] := by
  unfold runMain
  cases host.openStorage cfg.db.path <;>
    simp only [exists_false, reduceCtorEq, false_and, true_and]
  split
  · rename_i e he
    simpa using (newCredentialManager_eq_error.1 he).2
  · rename_i cm hcm
    refine iff_of_false (fun ⟨_, h'⟩ => by split at h' <;> cases h') fun ⟨ht, hc⟩ => ?_
    cases hcm.symm.trans (newCredentialManager_eq_error.2 ⟨rfl, ht, hc⟩)

/-- The provider's error is told from the listener's own by its first letter. -/
theorem providerError_ne_noListen (err : String) :
    "failed to connect to provider: " ++ err ≠ "no listen address configured for inbound mode" :=
  fun h => by
    have hf : ("failed to connect to provider: " ++ err).data.head? = some 'f' := rfl
    rw [h] at hf
    exact absurd hf (by decide)

/-- The agent's client refuses an empty endpoint, before any dial, exactly when the connect mode
is not `inbound`, the endpoint is empty and Docker answers. -/
theorem runAgent_eq_connectFailed (host : Host) (cfg : Config) :
    runAgent host cfg = .connectFailed "no endpoint configured" ↔
      cfg.connect.mode ≠ "inbound" ∧ cfg.connect.endpoint = "" ∧
        host.connectDocker cfg.docker = .ok () := by
  unfold runAgent InboundListener.run Client.run
  split_ifs <;> split <;> simp_all

/-- The inbound listener stops for want of a listen address exactly when the connect mode is
`inbound`, the address is empty and Docker answers. -/
theorem runAgent_eq_noListen (host : Host) (cfg : Config) :
    runAgent host cfg = .agentFailed "no listen address configured for inbound mode" ↔
      cfg.connect.mode = "inbound" ∧ cfg.connect.listen = "" ∧
        host.connectDocker cfg.docker = .ok () := by
  unfold runAgent InboundListener.run Client.run
  split_ifs <;> split <;> simp_all [providerError_ne_noListen]

/-- `main` in terms of the file and the host: `Load` refuses an agent that dials out with no
endpoint, and a main instance with no credential in the file or the environment unless the check
is skipped; otherwise `main` runs by the file's mode on what `Load` left. -/
theorem mainStartup_eq (host : Host) (c : Config) :
    mainStartup host c =
      if c.mode = "agent" ∧ c.connect.mode = "outbound" ∧ c.connect.endpoint = "" then
        .loadFailed endpointRequired.error
      else if c.mode ≠ "agent" ∧ host.getenv (envPrefix ++ "_CLOUDFLARE_API_TOKEN") = "" ∧
          c.cloudflare.apiToken = "" ∧ c.cloudflare.credentials = [] ∧
          c.skipCredentialValidation = false then
        .loadFailed credentialRequired.error
      else if c.mode = "agent" then runAgent host (applyEnvOverrides host.getenv c).normalize
      else runMain host (applyEnvOverrides host.getenv c).normalize := by
  unfold mainStartup load validate
  simp only [Config.normalize_mode, Config.normalize_frame, applyEnvOverrides_frame,
    applyEnvOverrides_apiToken, envOverride_eq_empty]
  by_cases hm : c.mode = "agent" <;> simp only [hm, if_true, if_false] <;> split_ifs <;>
    simp_all [Config.normalize_mode]

/-- A main instance stops at `NewCredentialManager` exactly when the ledger opened, the file skips
the credential check, and neither the file nor the environment gives a credential. -/
theorem startup_credentialsFailed_iff (host : Host) (c : Config) :
    (∃ err, mainStartup host c = .credentialsFailed err) ↔
      c.mode ≠ "agent" ∧ host.openStorage c.db.path = .ok () ∧ c.skipCredentialValidation = true ∧
        host.getenv (envPrefix ++ "_CLOUDFLARE_API_TOKEN") = "" ∧ c.cloudflare.apiToken = "" ∧
        c.cloudflare.credentials = [] := by
  rw [mainStartup_eq]
  split_ifs with h₁ h₂ h₃
  · simp [h₁.1]
  · simp [h₂.2.2.2.2]
  · simp only [h₃, ne_eq, not_true_eq_false, false_and, iff_false, not_exists]
    exact fun err => runAgent_ne_of_inAgent _ _ rfl
  · rw [runMain_credentialsFailed]
    simp only [Config.normalize_frame, applyEnvOverrides_frame, applyEnvOverrides_apiToken,
      envOverride_eq_empty]
    constructor
    · rintro ⟨hs, ⟨he, ht⟩, hc⟩
      exact ⟨h₃, hs, by simpa [h₃, he, ht, hc] using h₂, he, ht, hc⟩
    · rintro ⟨-, hs, -, he, ht, hc⟩
      exact ⟨hs, ⟨he, ht⟩, hc⟩

/-- An agent's client fails with `no endpoint configured`, before any dial, exactly when its
connect mode is neither `inbound` nor `outbound`, it names no endpoint, and Docker answers:
`validate` checks the endpoint of `outbound` only. -/
theorem startup_connect_no_endpoint_iff (host : Host) (c : Config) :
    mainStartup host c = .connectFailed "no endpoint configured" ↔
      c.mode = "agent" ∧ c.connect.mode ≠ "inbound" ∧ c.connect.mode ≠ "outbound" ∧
        c.connect.endpoint = "" ∧ host.connectDocker c.docker = .ok () := by
  rw [mainStartup_eq]
  split_ifs with h₁ h₂ h₃
  · simp [h₁.2.1]
  · simp [h₂.1]
  · rw [runAgent_eq_connectFailed]
    simp only [Config.normalize_frame, applyEnvOverrides_frame]
    constructor
    · rintro ⟨hin, hend, hd⟩
      exact ⟨h₃, hin, fun ho => h₁ ⟨h₃, ho, hend⟩, hend, hd⟩
    · rintro ⟨-, hin, -, hend, hd⟩
      exact ⟨hin, hend, hd⟩
  · simp only [h₃, false_and, iff_false]
    exact runMain_ne_of_inAgent _ _ rfl

/-- A token in `LABELGATE_CLOUDFLARE_API_TOKEN` gives a main instance, whatever the file says
but its mode, that stops only at the ledger or at Docker, and otherwise starts the reconciler with
that token as its default credential and with the file's sync settings. -/
theorem startup_env_token_default (host : Host) (c : Config)
    (htoken : host.getenv (envPrefix ++ "_CLOUDFLARE_API_TOKEN") ≠ "") (hmode : c.mode ≠ "agent") :
    ∃ rc, rc.creds.defaultCredential =
        some ⟨"default", host.getenv (envPrefix ++ "_CLOUDFLARE_API_TOKEN"), [], true⟩ ∧
      rc.removeDelay = c.sync.removeDelay ∧ rc.orphanTTL = c.sync.orphanTTL ∧
      mainStartup host c =
        match host.openStorage c.db.path, host.connectDocker c.docker with
        | .error err, _ => .storageFailed err
        | .ok (), .error err => .dockerFailed err
        | .ok (), .ok () => .main rc := by
  have htok : (applyEnvOverrides host.getenv c).normalize.cloudflare.apiToken =
      host.getenv (envPrefix ++ "_CLOUDFLARE_API_TOKEN") := by
    simp only [Config.normalize_frame, applyEnvOverrides_apiToken, envOverride, if_pos htoken]
  obtain ⟨cm, hcm, hdef⟩ := newCredentialManager_root (htok ▸ htoken)
  rw [htok] at hdef
  refine ⟨{ creds := cm, removeDelay := c.sync.removeDelay, orphanTTL := c.sync.orphanTTL }, hdef,
    rfl, rfl, ?_⟩
  rw [mainStartup_eq, if_neg (fun h => hmode h.1), if_neg (fun h => htoken h.2.1), if_neg hmode,
    runMain, hcm]
  simp only [Config.normalize_frame, applyEnvOverrides_frame]
  cases host.openStorage c.db.path <;> cases host.connectDocker c.docker <;> rfl

/-- A host that passes the token only, in `LABELGATE_CLOUDFLARE_API_TOKEN`, and whose ledger and
Docker daemon answer. -/
def tokenHost : Host where
  getenv name := if name = "LABELGATE_CLOUDFLARE_API_TOKEN" then "env-token" else ""
  openStorage _ := .ok ()
  connectDocker _ := .ok ()

/-- With the default file, the token from the environment is the default credential. -/
theorem tokenHost_default_credential :
    ∃ rc, rc.creds.defaultCredential =
        some ⟨"default", tokenHost.getenv (envPrefix ++ "_CLOUDFLARE_API_TOKEN"), [], true⟩ ∧
      rc.removeDelay = defaultConfig.sync.removeDelay ∧ rc.orphanTTL = defaultConfig.sync.orphanTTL ∧
      mainStartup tokenHost defaultConfig =
        match tokenHost.openStorage defaultConfig.db.path, tokenHost.connectDocker defaultConfig.docker with
        | .error err, _ => .storageFailed err
        | .ok (), .error err => .dockerFailed err
        | .ok (), .ok () => .main rc :=
  startup_env_token_default tokenHost defaultConfig (by decide) (by decide)

/-- An inbound agent stops for want of a listen address exactly when it names none and Docker
answers: `validate` checks no listen address, and `DefaultConfig` has none. -/
theorem startup_no_listen_iff (host : Host) (c : Config) :
    mainStartup host c = .agentFailed "no listen address configured for inbound mode" ↔
      c.mode = "agent" ∧ c.connect.mode = "inbound" ∧ c.connect.listen = "" ∧
        host.connectDocker c.docker = .ok () := by
  rw [mainStartup_eq]
  split_ifs with h₁ h₂ h₃
  · simp [h₁.2.1]
  · simp [h₂.1]
  · rw [runAgent_eq_noListen]
    simp only [Config.normalize_frame, applyEnvOverrides_frame, h₃, true_and]
  · simp only [h₃, false_and, iff_false]
    exact runMain_ne_of_inAgent _ _ rfl

end Labelgate
