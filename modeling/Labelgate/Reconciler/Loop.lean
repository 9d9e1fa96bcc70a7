import Labelgate.Reconciler.Pass

/-!
# The reconcile loop and its wake-up signal

`Reconciler.Run` (`reconciler/reconciler.go`) after its initial pass: one goroutine blocked in
`select` on container events, the one-slot channel `agentTrigger` and the periodic ticker, that
runs a pass for the case it takes. Agent goroutines change `agentData` at any time, through
`UpdateAgentData`, which then signals the channel unless it is full, or through
`RemoveAgentData`, which does not signal. Each pass starts by reading both maps
(`getDesiredState`), the input `reconcile` runs on.

A `LoopState` also counts the changes to `agentData` and records how many of them the latest pass
read. It is `Synced` when, with the channel empty, the latest pass has read every change.
Every step but `RemoveAgentData` keeps it, over every interleaving; a
removal, however, leaves a blocked, synced loop blocked with nothing pending, although the map
changed after its last read.

`UpdateAgentData` is one step here: the map write and the send that follows it. In Go the send
comes after the mutex is released, so a pass may start between the two; that pass already reads
the new map, and the send then only queues one more pass.
-/

namespace Labelgate

/-- Where the loop goroutine is: blocked in `select`, or running a pass. -/
inductive LoopPhase
  | blocked
  | reconciling
deriving DecidableEq, Repr

/-- The reconciler's maps, the slot of `agentTrigger`, the loop's phase, and two counters: the
changes made to `agentData` and the number of them the latest pass read. -/
structure LoopState where
  src : DesiredSources
  agentTrigger : Bool
  phase : LoopPhase
  changes : Nat
  readAt : Nat
deriving DecidableEq, Repr

/-- A step of one goroutine: a call of an agent goroutine, a case of the loop's `select`, or the
end of the pass it runs. A container event carries what `handleEvent` gets: for a start, the
parsed container, `none` when `GetContainer` fails or the container has no labelgate labels; a
tick carries the result of `syncContainers`, `none` when listing fails. -/
inductive LoopEvent
  | updateAgentData (agentID : String) (containers : List ParsedContainer)
  | removeAgentData (agentID : String)
  | agentTriggerCase
  | tickerCase (listed : Option (GoMap ParsedContainer))
  | containerStart (containerID : String) (parsed : Option ParsedContainer)
  | containerStop (containerID : String)
  | containerDestroy (containerID : String)
  | passDone
deriving DecidableEq, Repr

namespace LoopState

/-- `UpdateAgentData`: the write, then the non-blocking send, which leaves the slot full. -/
def updateAgentData (s : LoopState) (agentID : String) (containers : List ParsedContainer) :
    LoopState :=
  { s with src := { s.src with agentData := s.src.agentData.insert agentID containers },
           changes := s.changes + 1, agentTrigger := true }

/-- `RemoveAgentData`: the write alone. -/
def removeAgentData (s : LoopState) (agentID : String) : LoopState :=
  { s with src := { s.src with agentData := s.src.agentData.erase agentID },
           changes := s.changes + 1 }

/-- The start of `reconcile`: `getDesiredState` reads both maps. -/
def startPass (s : LoopState) : LoopState := { s with phase := .reconciling, readAt := s.changes }

/-- Replaces the local container map. -/
def setContainers (s : LoopState) (containers : GoMap ParsedContainer) : LoopState :=
  { s with src := { s.src with containers } }

end LoopState

/-- One step; `none` when the step is not enabled (a `select` case needs the loop blocked, and
`agentTriggerCase` a full slot). -/
def loopStep (s : LoopState) : LoopEvent → Option LoopState
  | .updateAgentData agentID containers => some (s.updateAgentData agentID containers)
  | .removeAgentData agentID => some (s.removeAgentData agentID)
  | .agentTriggerCase =>
    if s.phase = .blocked ∧ s.agentTrigger then some { s with agentTrigger := false }.startPass
    else none
  | .tickerCase listed =>
    if s.phase = .blocked then
      some (match listed with
        | none => s
        | some containers => (s.setContainers containers).startPass)
    else none
  | .containerStart containerID parsed =>
    if s.phase = .blocked then
      some (match parsed with
        | none => s
        | some p => (s.setContainers (s.src.containers.insert containerID p)).startPass)
    else none
  | .containerStop containerID =>
    if s.phase = .blocked then some (s.setContainers (s.src.containers.erase containerID)).startPass
    else none
  | .containerDestroy containerID =>
    if s.phase = .blocked then some (s.setContainers (s.src.containers.erase containerID))
    else none
  | .passDone => if s.phase = .reconciling then some { s with phase := .blocked } else none

/-- A run of steps; `none` when one of them is not enabled. -/
def loopRun (s : LoopState) : List LoopEvent → Option LoopState
  | [] => some s
  | e :: es => (loopStep s e).bind (loopRun · es)

/-- With the channel empty, the latest pass has read every change of `agentData`. -/
def Synced (s : LoopState) : Prop := s.agentTrigger = false → s.readAt = s.changes

instance : DecidablePred Synced := fun _ => inferInstanceAs (Decidable (_ → _))

/-- The guarantee asked of the loop: blocked with the channel empty, it has read every change. -/
def NoLostWakeup (s : LoopState) : Prop := s.phase = .blocked → Synced s

instance : DecidablePred NoLostWakeup := fun _ => inferInstanceAs (Decidable (_ → _))

/-- An event that is not a call of `RemoveAgentData`. -/
def LoopEvent.Signals : LoopEvent → Prop
  | .removeAgentData _ => False
  | _ => True

/-! ## Every step but a removal keeps the loop synced -/

@[simp] theorem synced_startPass (s : LoopState) : Synced s.startPass := fun _ => rfl

@[simp] theorem synced_setContainers (s : LoopState) (cs : GoMap ParsedContainer) :
    Synced (s.setContainers cs) ↔ Synced s := Iff.rfl

theorem synced_step {s s' : LoopState} {e : LoopEvent} (hs : Synced s) (he : e.Signals)
    (h : loopStep s e = some s') : Synced s' := by
  cases e with
  | updateAgentData => cases h; intro h; cases h
  | removeAgentData => exact he.elim
  | agentTriggerCase => simp only [loopStep] at h; split at h <;> cases h; simp
  | tickerCase listed =>
    simp only [loopStep] at h; split at h <;> cases h; cases listed <;> simp [hs]
  | containerStart _ parsed =>
    simp only [loopStep] at h; split at h <;> cases h; cases parsed <;> simp [hs]
  | containerStop => simp only [loopStep] at h; split at h <;> cases h; simp
  | containerDestroy => simp only [loopStep] at h; split at h <;> cases h; simpa using hs
  | passDone => simp only [loopStep] at h; split at h <;> cases h; exact hs

/-- From a blocked, synced loop with the channel empty, `RemoveAgentData` leaves the loop blocked,
the channel empty and the agent-trigger case disabled, while the latest pass has not read the
change: the removal waits for the ticker or a container event. -/
theorem removeAgentData_loses_wakeup (s : LoopState) (agentID : String)
    (hblocked : s.phase = .blocked) (hempty : s.agentTrigger = false) (hs : Synced s) :
    loopStep s (.removeAgentData agentID) = some (s.removeAgentData agentID) ∧
      loopStep (s.removeAgentData agentID) .agentTriggerCase = none ∧
      ¬NoLostWakeup (s.removeAgentData agentID) := by
  refine ⟨rfl, by simp [loopStep, LoopState.removeAgentData, hempty], fun h => ?_⟩
  have := h hblocked hempty
  simp only [LoopState.removeAgentData, hs hempty] at this
  omega

/-- The loop after `Run`'s initial pass, with empty maps. -/
def initialLoop : LoopState :=
  { src := ⟨[], []⟩, agentTrigger := false, phase := .blocked, changes := 0, readAt := 0 }

/-- An agent reports, the loop reconciles, then the agent disconnects. -/
theorem removeAgentData_loses_wakeup_after_report :
    ∃ s, loopRun initialLoop [.updateAgentData "agent-1" [], .agentTriggerCase, .passDone] = some s ∧
      s.phase = .blocked ∧ s.agentTrigger = false ∧ Synced s ∧
      (loopStep s (.removeAgentData "agent-1") = some (s.removeAgentData "agent-1") ∧
        loopStep (s.removeAgentData "agent-1") .agentTriggerCase = none ∧
        ¬NoLostWakeup (s.removeAgentData "agent-1")) :=
  ⟨_, rfl, rfl, rfl, by decide, removeAgentData_loses_wakeup _ "agent-1" rfl rfl (by decide)⟩

end Labelgate
