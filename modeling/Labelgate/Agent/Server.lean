import Labelgate.Reconciler.Loop

/-!
# The agent server's connections

`agent.Server` (`agent/server.go`, `agent/inbound_client.go`) as steps over the connection map,
the reconciler's agent data and the status column of the `agents` table. A connection is
registered by `handleWebSocket` or `dialInboundAgent` once authenticated: the one it replaces is
closed, but its read pump still runs until it notices, and only then calls `handleDisconnect`.
Reports are handled on any connection whose read pump runs. Storage writes of agent rows are
taken to succeed; their errors are only logged.

The registered connection of an agent is always one whose read pump runs, over every
interleaving. The exit of a replaced connection, though, keeps its successor registered but drops
the agent's data and marks it disconnected.
-/

namespace Labelgate

/-- `storage.AgentStatus`. -/
inductive AgentStatus
  | active
  | disconnected
  | removed
deriving DecidableEq, Repr

/-- An `*AgentConnection`: its identity, and the agent ID it authenticated with. -/
structure AgentConnection where
  serial : Nat
  id : String
deriving DecidableEq, Repr

/-- The server's connection map, the connections whose read pump runs, the reconciler, the status
of each agent row, the containers of every report handled on each connection (latest first),
and the next connection identity. -/
structure ServerState where
  connections : GoMap AgentConnection
  running : List AgentConnection
  reconciler : LoopState
  agents : GoMap AgentStatus
  reports : List (Nat × List ParsedContainer)
  nextSerial : Nat
deriving DecidableEq, Repr

/-- A step of one goroutine of the server; a report carries the containers `parseContainerLabels`
kept. -/
inductive ServerEvent
  | register (agentID : String)
  | report (serial : Nat) (containers : List ParsedContainer)
  | disconnect (serial : Nat)
deriving DecidableEq, Repr

namespace ServerState

/-- The running connection with that identity. -/
def runningConn (s : ServerState) (serial : Nat) : Option AgentConnection :=
  s.running.find? (·.serial == serial)

/-- The containers of the latest report handled on a connection. -/
def latestReport (s : ServerState) (serial : Nat) : Option (List ParsedContainer) :=
  (s.reports.find? (·.1 == serial)).map (·.2)

/-- The registration of `handleWebSocket` and `dialInboundAgent`: the new connection replaces the
agent's entry, and `SaveAgent` marks the agent active. -/
def register (s : ServerState) (agentID : String) : ServerState :=
  let conn : AgentConnection := ⟨s.nextSerial, agentID⟩
  { s with connections := s.connections.insert agentID conn, running := s.running ++ [conn],
           agents := s.agents.insert agentID .active, nextSerial := s.nextSerial + 1 }

/-- `handleReport`: `UpdateAgentData`, then `SaveAgent` with status active. -/
def handleReport (s : ServerState) (conn : AgentConnection) (containers : List ParsedContainer) :
    ServerState :=
  { s with reconciler := s.reconciler.updateAgentData conn.id containers,
           agents := s.agents.insert conn.id .active, reports := (conn.serial, containers) :: s.reports }

/-- `handleDisconnect`: the entry is deleted only if it is this connection; `RemoveAgentData` and
`UpdateAgentStatus` (an `UPDATE` of the agent's row, if any) run in every case. -/
def handleDisconnect (s : ServerState) (conn : AgentConnection) : ServerState :=
  { s with connections := if s.connections.lookup conn.id = some conn then s.connections.erase conn.id
                          else s.connections,
           running := s.running.filter (· != conn),
           reconciler := s.reconciler.removeAgentData conn.id,
           agents := if (s.agents.lookup conn.id).isSome then s.agents.insert conn.id .disconnected
                     else s.agents }

end ServerState

/-- One step; a report or a disconnect needs a running connection. -/
def serverStep (s : ServerState) : ServerEvent → Option ServerState
  | .register agentID => some (s.register agentID)
  | .report serial containers => (s.runningConn serial).map (s.handleReport · containers)
  | .disconnect serial => (s.runningConn serial).map s.handleDisconnect

/-- A run of steps; `none` when one of them is not enabled. -/
def serverRun (s : ServerState) : List ServerEvent → Option ServerState
  | [] => some s
  | e :: es => (serverStep s e).bind (serverRun · es)

/-- The guarantee asked of the server for one agent: once its registered connection has
reported, the agent's data is that connection's latest report and its row is not marked
disconnected. -/
def SnapshotKept (s : ServerState) (agentID : String) : Prop :=
  ∀ conn, s.connections.lookup agentID = some conn → ∀ cs, s.latestReport conn.serial = some cs →
    s.reconciler.src.agentData.lookup agentID = some cs ∧ s.agents.lookup agentID ≠ some .disconnected

instance (s : ServerState) (agentID : String) : Decidable (SnapshotKept s agentID) :=
  match h : s.connections.lookup agentID with
  | none => isTrue fun _ hc => by simp [h] at hc
  | some conn =>
    match hr : s.latestReport conn.serial with
    | none => isTrue fun c hc cs hcs => by simp [h] at hc; subst hc; simp [hr] at hcs
    | some cs =>
      decidable_of_iff (s.reconciler.src.agentData.lookup agentID = some cs ∧
          s.agents.lookup agentID ≠ some .disconnected) (by
        constructor
        · intro hk c hc cs' hcs; simp [h] at hc; subst hc; simp [hr] at hcs; subst hcs; exact hk
        · intro hk; exact hk conn h cs hr)

/-! ## The registered connection runs -/

/-- Every registered connection is running and registered under its own agent ID. -/
def RegisteredRunning (s : ServerState) : Prop :=
  ∀ agentID conn, s.connections.lookup agentID = some conn → conn ∈ s.running ∧ conn.id = agentID

theorem registeredRunning_step {s s' : ServerState} {e : ServerEvent} (hs : RegisteredRunning s)
    (h : serverStep s e = some s') : RegisteredRunning s' := by
  cases e with
  | register agentID =>
    cases h
    intro a c hc
    simp only [ServerState.register, GoMap.lookup_insert] at hc
    split at hc
    · cases hc; exact ⟨List.mem_append_right _ (List.mem_singleton_self _), ‹_›⟩
    · exact ⟨List.mem_append_left _ (hs a c hc).1, (hs a c hc).2⟩
  | report serial containers =>
    simp only [serverStep, Option.map_eq_some'] at h
    obtain ⟨conn, -, rfl⟩ := h
    exact hs
  | disconnect serial =>
    simp only [serverStep, Option.map_eq_some'] at h
    obtain ⟨conn, -, rfl⟩ := h
    intro a c hc
    have hold : s.connections.lookup a = some c ∧ c ≠ conn := by
      simp only [ServerState.handleDisconnect] at hc
      split at hc
      · rw [GoMap.lookup_erase] at hc
        split at hc
        · cases hc
        · exact ⟨hc, by rintro rfl; exact ‹¬_› (hs a c hc).2⟩
      · exact ⟨hc, by rintro rfl; exact ‹¬_› ((hs a c hc).2 ▸ hc)⟩
    obtain ⟨hmem, hid⟩ := hs a c hold.1
    exact ⟨List.mem_filter.2 ⟨hmem, bne_iff_ne.2 hold.2⟩, hid⟩

/-- Over every interleaving, the registered connection of each agent is a running connection of
that agent. -/
theorem registered_running {s s' : ServerState} {es : List ServerEvent} (hs : RegisteredRunning s)
    (h : serverRun s es = some s') : RegisteredRunning s' := by
  induction es generalizing s with
  | nil => cases h; exact hs
  | cons e es ih =>
    simp only [serverRun, Option.bind_eq_some] at h
    obtain ⟨t, ht, hrun⟩ := h
    exact ih (registeredRunning_step hs ht) hrun

/-- From a server without connections, an agent connects, reconnects, reports, and the first
connection exits. -/
theorem registered_running_after_reconnect :
    ∃ s', serverRun ⟨[], [], ⟨⟨[], []⟩, false, .blocked, 0, 0⟩, [], [], 0⟩
      [.register "agent-1", .register "agent-1", .report 1 [], .disconnect 0] = some s' ∧
      RegisteredRunning s' :=
  ⟨_, rfl, @registered_running ⟨[], [], ⟨⟨[], []⟩, false, .blocked, 0, 0⟩, [], [], 0⟩ _
    [.register "agent-1", .register "agent-1", .report 1 [], .disconnect 0]
    (fun _ _ h => by cases h) rfl⟩

/-! ## The exit of a replaced connection -/

/-- When a replaced connection of an agent exits, the agent's current connection stays
registered, but its data is removed from the reconciler and its row marked disconnected: once
the current connection has reported, the snapshot is lost. -/
theorem handleDisconnect_stale_drops_snapshot (s : ServerState) (stale current : AgentConnection)
    (cs : List ParsedContainer) (hstale : s.runningConn stale.serial = some stale)
    (hcurrent : s.connections.lookup stale.id = some current) (hne : current ≠ stale)
    (hreported : s.latestReport current.serial = some cs)
    (hrow : (s.agents.lookup stale.id).isSome) :
    ∃ s', serverStep s (.disconnect stale.serial) = some s' ∧
      s'.connections.lookup stale.id = some current ∧
      s'.reconciler.src.agentData.lookup stale.id = none ∧
      s'.agents.lookup stale.id = some .disconnected ∧ ¬SnapshotKept s' stale.id := by
  have hkeep : (s.handleDisconnect stale).connections.lookup stale.id = some current := by
    simp [ServerState.handleDisconnect, hcurrent, hne]
  have hdata : (s.handleDisconnect stale).reconciler.src.agentData.lookup stale.id = none := by
    simp [ServerState.handleDisconnect, LoopState.removeAgentData]
  refine ⟨_, by simp [serverStep, hstale], hkeep, hdata, by simp [ServerState.handleDisconnect, hrow],
    fun h => ?_⟩
  have := (h current hkeep cs hreported).1
  rw [hdata] at this
  cases this

/-- The server with no connection, over the loop after its initial pass. -/
def initialServer : ServerState :=
  { connections := [], running := [], reconciler := initialLoop, agents := [], reports := [],
    nextSerial := 0 }

/-- An agent connects, reconnects, reports on the new connection, and then the read pump of the
first connection exits. -/
theorem handleDisconnect_stale_after_reconnect :
    ∃ s, serverRun initialServer [.register "agent-1", .register "agent-1", .report 1 []] = some s ∧
      ∃ s', serverStep s (.disconnect 0) = some s' ∧
        s'.connections.lookup "agent-1" = some ⟨1, "agent-1"⟩ ∧
        s'.reconciler.src.agentData.lookup "agent-1" = none ∧
        s'.agents.lookup "agent-1" = some .disconnected ∧ ¬SnapshotKept s' "agent-1" :=
  ⟨_, rfl, handleDisconnect_stale_drops_snapshot _ ⟨0, "agent-1"⟩ ⟨1, "agent-1"⟩ [] rfl rfl
    (by decide) rfl rfl⟩

end Labelgate
