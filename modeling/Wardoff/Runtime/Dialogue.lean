import Wardoff.Machine.Dialogue
import Wardoff.Runtime.Application

/-!
# The UI thread between two commands to the tray (`src/main.rs`)

The handlers of `Runtime.Application` take the answers of the tray thread as outcomes of their
calls. Here the same handlers are dialogues with the tray thread, in which an answer arrives when
the tray thread gives it, or not at all: a handler runs up to its next command, and the tray thread
runs meanwhile.

`Event.answered` puts the answers of a dialogue in the place of the outcomes.
-/

namespace Runtime

open Blocker Ipc Machine

/-- The answer to a `SetAutostart` says only whether it was sent. -/
abbrev TrayDialogue (R : Type) : Type := Dialogue TrayCommand TrayAnswer R

/-- The command was sent. -/
def TrayAnswer.sent : TrayAnswer → Bool
  | .lost => false
  | .answered _ => true
  | .timedOut => true
  | .disconnected => true

namespace Application

variable {Handle : Type}

def syncTrayDialogue (mode : BlockerMode) (a : Application Handle) :
    TrayDialogue (Except String Unit × Application Handle) :=
  match a.trayService with
  | some _ => .ask (.setMode mode) fun answer => .done (a.syncTray answer mode)
  | none => .done (.ok (), a)

def syncTrayAutostartDialogue (enabled : Bool) (a : Application Handle) :
    TrayDialogue (Application Handle) :=
  match a.trayService with
  | some _ =>
    .ask (.setAutostart enabled) fun answer => .done (a.syncTrayAutostart answer.sent enabled)
  | none => .done a

/-- The result says whether the switch succeeded. -/
def setModeDialogue (o : SwitchCalls Handle) (mode : BlockerMode) (a : Application Handle) :
    TrayDialogue (Bool × Application Handle) :=
  let previousMode := a.mode
  if previousMode = mode then
    (a.syncTrayDialogue previousMode).map fun (result, a) => (result.isOk, a)
  else
    match a.blockerCoordinator.setMode o.layers mode with
    | (.error _, c) => .done (false, { a with blockerCoordinator := c })
    | (.ok _, c) =>
      (syncTrayDialogue c.mode { a with blockerCoordinator := c }).bind fun
        | (.ok (), a) => .done (true, a)
        | (.error _, a) =>
          let (_, c) := a.blockerCoordinator.setMode o.rollback previousMode
          let finalMode := c.mode
          (syncTrayDialogue finalMode { a with blockerCoordinator := c }).map fun (_, a) =>
            (false, a)

def setAutostartEnabledDialogue (o : AutostartCalls) (enabled : Bool) (a : Application Handle) :
    TrayDialogue (Application Handle) :=
  let previousState := o.before.toOption
  match o.set with
  | .ok () => a.syncTrayAutostartDialogue enabled
  | .error _ =>
    match resolvedAutostartStateForTray previousState o.after with
    | .ok restoredState => a.syncTrayAutostartDialogue restoredState
    | .error _ => .done a

def runPowerActionDialogue (o : PowerActionCalls Handle) (action : PowerAction)
    (a : Application Handle) :
    TrayDialogue (Application Handle) :=
  let previousMode := a.mode
  let a := { a with
    pendingBlockRestoreAfterWake := pendingWakeRestoreForTrayPowerAction previousMode action }
  (a.setModeDialogue o.allow .allow).bind fun
    | (false, a) => .done a.clearPendingBlockRestoreAfterWake
    | (true, a) =>
      match executePowerAction o action with
      | .ok () => .done a
      | .error _ =>
        let a := a.clearPendingBlockRestoreAfterWake
        if previousMode = .block then (a.setModeDialogue o.restore .block).map Prod.snd else .done a

def restoreBlockAfterWakeIfNeededDialogue (o : ResumeCalls Handle) (a : Application Handle) :
    TrayDialogue (Application Handle) :=
  match pendingWakeRestoreReadyForResume a.pendingBlockRestoreAfterWake with
  | none => .done a
  | some _ =>
    let a := a.clearPendingBlockRestoreAfterWake
    match a.blockerCoordinator.setMode o.restore .block with
    | (.error _, c) => .done { a with blockerCoordinator := c }
    | (.ok _, c) => (syncTrayDialogue c.mode { a with blockerCoordinator := c }).map Prod.snd

end Application

namespace Event

variable {Handle : Type}

def dialogue (a : Application Handle) : Event Handle → TrayDialogue (Application Handle)
  | .ipcRequest (.setMode mode) o =>
    (a.clearPendingBlockRestoreAfterWake.setModeDialogue o.switch mode.toBlockerMode).map Prod.snd
  | .ipcRequest (.setAutostart enabled) o => a.setAutostartEnabledDialogue o.autostart enabled
  | .ipcRequest .status _ => .done a
  | .ipcRequest .shutdownServer _ => .done a
  | .trayAction .block o =>
    (a.clearPendingBlockRestoreAfterWake.setModeDialogue o.switch .block).map Prod.snd
  | .trayAction .allow o =>
    (a.clearPendingBlockRestoreAfterWake.setModeDialogue o.switch .allow).map Prod.snd
  | .trayAction (.setAutostart enabled) o => a.setAutostartEnabledDialogue o.autostart enabled
  | .trayAction .shutdown o => a.runPowerActionDialogue o.power .shutdown
  | .trayAction .reboot o => a.runPowerActionDialogue o.power .reboot
  | .trayAction .sleep o => a.runPowerActionDialogue o.power .sleep
  | .trayAction .hibernate o => a.runPowerActionDialogue o.power .hibernate
  | .trayAction .quit _ => .done a
  | .queryEndSession => .done a.handleQueryEndSession.2
  | .endSession wparam shutdownInProgress power =>
    .done (a.handleEndSession wparam shutdownInProgress power)
  | .powerBroadcast wparam o =>
    match powerBroadcastEvent wparam with
    | some .suspend => .done (a.handlePowerBroadcast o .suspend)
    | some .resume =>
      let (_, c) := a.blockerCoordinator.renewSleepRequestsAfterResume o.renew
      { a with blockerCoordinator := c }.restoreBlockAfterWakeIfNeededDialogue o
    | none => .done a

end Event

/-! ## The answers as outcomes -/

/-- The answers an event can get, in their order; the last two are those of the return to Block. -/
structure TrayAnswers where
  tray : TrayAnswer
  trayResync : TrayAnswer
  restoreTray : TrayAnswer
  restoreTrayResync : TrayAnswer

variable {Handle : Type}

def SwitchCalls.answered (tray trayResync : TrayAnswer) (o : SwitchCalls Handle) :
    SwitchCalls Handle :=
  { o with tray, trayResync }

def AutostartCalls.answered (tray : TrayAnswer) (o : AutostartCalls) : AutostartCalls :=
  { o with trayAlive := tray.sent }

def PowerActionCalls.answered (x : TrayAnswers) (o : PowerActionCalls Handle) :
    PowerActionCalls Handle :=
  { o with
    allow := o.allow.answered x.tray x.trayResync
    restore := o.restore.answered x.restoreTray x.restoreTrayResync }

/-- The event with these answers of the tray thread. -/
def Event.answered (x : TrayAnswers) : Event Handle → Event Handle
  | .ipcRequest request o =>
    .ipcRequest request { o with
      switch := o.switch.answered x.tray x.trayResync
      autostart := o.autostart.answered x.tray }
  | .trayAction action o =>
    .trayAction action {
      switch := o.switch.answered x.tray x.trayResync
      autostart := o.autostart.answered x.tray
      power := o.power.answered x }
  | .queryEndSession => .queryEndSession
  | .endSession wparam shutdownInProgress power => .endSession wparam shutdownInProgress power
  | .powerBroadcast wparam o => .powerBroadcast wparam { o with tray := x.tray }

end Runtime
