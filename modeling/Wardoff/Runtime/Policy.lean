import Wardoff.Ipc.Wire

/-!
# Decisions without effects (`src/runtime_policy.rs`)

When a tray power action queues the restoration of Block mode, and when a resume performs it.
-/

namespace Runtime

open Blocker (BlockerMode)

/-- The power actions of the tray menu. -/
inductive PowerAction where
  | shutdown
  | reboot
  | sleep
  | hibernate
  deriving DecidableEq, Repr

/-- The name `{:?}` prints. -/
def PowerAction.debugName : PowerAction → String
  | .shutdown => "Shutdown"
  | .reboot => "Reboot"
  | .sleep => "Sleep"
  | .hibernate => "Hibernate"

/-- `power_action_label`. -/
def PowerAction.label : PowerAction → String
  | .shutdown => "shutdown"
  | .reboot => "reboot"
  | .sleep => "sleep"
  | .hibernate => "hibernate"

/-- `mode_label`. -/
def modeLabel : BlockerMode → String
  | .block => "Block"
  | .allow => "Allow"

/-- `on_off_label`. -/
def onOffLabel (enabled : Bool) : String := if enabled then "on" else "off"

/-- The tray surface startup creates. -/
inductive TraySurface where
  | visible
  | hidden
  | headless
  deriving DecidableEq, Repr

/-- What primary startup is asked for. -/
structure RuntimeOptions where
  initialMode : BlockerMode
  traySurface : TraySurface
  deriving DecidableEq, Repr

/-- A tray suspend request that should restore Block mode after resume. -/
inductive PendingWakeRestore where
  | pendingSuspend (action : PowerAction)
  | waitingForResume (action : PowerAction)
  deriving DecidableEq, Repr

namespace PendingWakeRestore

def action : PendingWakeRestore → PowerAction
  | .pendingSuspend action => action
  | .waitingForResume action => action

/-- Records a suspend notification without changing the requested action. -/
def markSystemSuspended (p : PendingWakeRestore) : PendingWakeRestore := .waitingForResume p.action

@[simp] theorem markSystemSuspended_action (p : PendingWakeRestore) :
    p.markSystemSuspended.action = p.action := rfl

@[simp] theorem markSystemSuspended_idem (p : PendingWakeRestore) :
    p.markSystemSuspended.markSystemSuspended = p.markSystemSuspended := rfl

end PendingWakeRestore

/-- Queues wake restoration only when a Block-mode tray action requests suspend. -/
def pendingWakeRestoreForTrayPowerAction (previousMode : BlockerMode) (action : PowerAction) :
    Option PendingWakeRestore :=
  match previousMode, action with
  | .block, .sleep => some (.pendingSuspend .sleep)
  | .block, .hibernate => some (.pendingSuspend .hibernate)
  | _, _ => none

/-- Accepts resume even if Windows did not deliver the earlier suspend notification. -/
def pendingWakeRestoreReadyForResume : Option PendingWakeRestore → Option PowerAction
  | some (.pendingSuspend action) => some action
  | some (.waitingForResume action) => some action
  | none => none

/-- Prefers the current task state, retaining the previous checkbox on a read failure. -/
def resolvedAutostartStateForTray (previousState : Option Bool) (actualState : Except String Bool) :
    Except String Bool :=
  match actualState with
  | .ok actualState => .ok actualState
  | .error error =>
    match previousState with
    | some previousState => .ok previousState
    | none => .error error

theorem pendingWakeRestoreReadyForResume_eq (p : Option PendingWakeRestore) :
    pendingWakeRestoreReadyForResume p = p.map PendingWakeRestore.action := by
  rcases p with _ | ⟨_⟩ | ⟨_⟩ <;> rfl

end Runtime
