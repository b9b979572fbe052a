import Wardoff.Blocker.Coordinator

/-!
# The tray icon and its menu (`src/tray/mod.rs`)

`TrayController` is what the tray thread has put on the screen: the icon with its tooltip, and the
items of the menu whose state depends on the mode or on the autostart task. Each function takes the
outcomes of the calls it makes, any of which may fail and leave the rest undone. The Start with
Windows item is one of `muda`'s check items, which change their check by themselves when they are
clicked (`clickAutostartItem`).

`TrayThreadState` is the state of the tray thread. When it may next try to create the tray is a
matter of time, and what it has reported a matter of log records: both are left out.
-/

namespace Tray

open Blocker (BlockerMode)

inductive TrayVisibility where
  | visible
  | hidden
  deriving DecidableEq, Repr

/-- The icons of `src/tray/icon.rs`. -/
inductive TrayIconState where
  | blocked
  | allowed
  deriving DecidableEq, Repr

/-- The icon of a mode. -/
def iconForMode : BlockerMode → TrayIconState
  | .block => .blocked
  | .allow => .allowed

def tooltipForMode : BlockerMode → String
  | .block => "Wardoff - Block mode"
  | .allow => "Wardoff - Allow mode"

/-- What the notification area shows. -/
structure TrayIcon where
  icon : TrayIconState
  tooltip : String
  visible : Bool := true
  deriving DecidableEq, Repr

structure TrayController where
  trayIcon : Option TrayIcon
  visibility : TrayVisibility
  /-- The Block item is enabled. -/
  blockItem : Bool := true
  /-- The Allow item is enabled. -/
  allowItem : Bool := true
  /-- The Start with Windows item is checked. -/
  autostartItem : Bool := false
  autostartEnabled : Bool := false
  deriving DecidableEq, Repr

/-- The calls of one `set_mode`. -/
structure UpdateCalls where
  /-- `blocked_icon` or `allowed_icon`. -/
  icon : Except String Unit
  setIcon : Except String Unit
  setTooltip : Except String Unit

/-- The calls of one `TrayController::new`. -/
structure CreateCalls where
  appendItems : Except String Unit
  blockedIcon : Except String Unit
  build : Except String Unit
  update : UpdateCalls
  setVisible : Except String Unit

def UpdateCalls.succeed : UpdateCalls := ⟨.ok (), .ok (), .ok ()⟩

def CreateCalls.succeed : CreateCalls := ⟨.ok (), .ok (), .ok (), .succeed, .ok ()⟩

namespace TrayController

def syncMenuState (mode : BlockerMode) (c : TrayController) : TrayController :=
  { c with blockItem := mode ≠ .block, allowItem := mode ≠ .allow }

/-- The error of an icon that cannot be rendered. -/
def renderError (mode : BlockerMode) (error : String) : String :=
  match mode with
  | .block => s!"Wardoff could not render the blocked tray icon: {error}"
  | .allow => s!"Wardoff could not render the allowed tray icon: {error}"

/-- The icon of a hidden tray is left alone: Windows may refuse to change it. -/
def setMode (o : UpdateCalls) (mode : BlockerMode) (c : TrayController) :
    Except String Unit × TrayController :=
  let c := c.syncMenuState mode
  if c.visibility = .hidden then (.ok (), c)
  else match o.icon with
    | .error error => (.error (renderError mode error), c)
    | .ok () =>
      match c.trayIcon with
      | none => (.ok (), c)
      | some trayIcon =>
        match o.setIcon with
        | .error error => (.error s!"Wardoff could not update the tray icon: {error}", c)
        | .ok () =>
          let trayIcon := { trayIcon with icon := iconForMode mode }
          match o.setTooltip with
          | .error error =>
            (.error s!"Wardoff could not update the tray tooltip: {error}",
              { c with trayIcon := some trayIcon })
          | .ok () =>
            (.ok (), { c with trayIcon := some { trayIcon with tooltip := tooltipForMode mode } })

def setAutostartEnabled (enabled : Bool) (c : TrayController) : TrayController :=
  { c with autostartEnabled := enabled, autostartItem := enabled }

/-- What `muda` does when the Start with Windows item is clicked. -/
def clickAutostartItem (c : TrayController) : TrayController :=
  { c with autostartItem := !c.autostartItem }

def hideTrayIcon (setVisible : Except String Unit) (c : TrayController) :
    Except String Unit × TrayController :=
  match c.trayIcon with
  | none => (.ok (), c)
  | some trayIcon =>
    match setVisible with
    | .error error => (.error s!"Wardoff could not hide the tray icon: {error}", c)
    | .ok () => (.ok (), { c with trayIcon := some { trayIcon with visible := false } })

/-- A new tray shows Block mode. -/
def new (o : CreateCalls) (visibility : TrayVisibility) : Except String TrayController :=
  match o.appendItems with
  | .error error => .error s!"Wardoff could not assemble the tray menu: {error}"
  | .ok () =>
    match o.blockedIcon with
    | .error error => .error s!"Wardoff could not build the blocked tray icon: {error}"
    | .ok () =>
      match o.build with
      | .error error => .error s!"Wardoff could not create the tray icon: {error}"
      | .ok () =>
        let controller : TrayController :=
          { trayIcon := some ⟨iconForMode .block, tooltipForMode .block, true⟩, visibility }
        match controller.setMode o.update .block with
        | (.error error, _) => .error error
        | (.ok (), controller) =>
          if visibility = .hidden then
            match controller.hideTrayIcon o.setVisible with
            | (.error error, _) => .error error
            | (.ok (), controller) => .ok controller
          else .ok controller

end TrayController

/-! ## The tray thread -/

structure TrayThreadState where
  visibility : TrayVisibility
  mode : BlockerMode
  autostartEnabled : Bool := false
  controller : Option TrayController := none
  deriving DecidableEq, Repr

namespace TrayThreadState

def applyCurrentTrayState (o : UpdateCalls) (s : TrayThreadState) :
    Except String Unit × TrayThreadState :=
  match s.controller with
  | none => (.ok (), s)
  | some controller =>
    let (result, controller) := (controller.setAutostartEnabled s.autostartEnabled).setMode o s.mode
    (result, { s with controller := some controller })

def resetTrayController (s : TrayThreadState) : TrayThreadState := { s with controller := none }

/-- A tray that cannot show the state is dropped. -/
def applyOrReset (o : UpdateCalls) (s : TrayThreadState) : Except String Unit × TrayThreadState :=
  match s.applyCurrentTrayState o with
  | (.error error, s) => (.error error, s.resetTrayController)
  | (.ok (), s) => (.ok (), s)

/-- `create` and `update` are the outcomes of the creation and of the `set_mode` that follows it. -/
def tryCreateTrayController (create : CreateCalls) (update : UpdateCalls) (s : TrayThreadState) :
    TrayThreadState :=
  match TrayController.new create s.visibility with
  | .error _ => s
  | .ok controller =>
    match (controller.setAutostartEnabled s.autostartEnabled).setMode update s.mode with
    | (.error _, _) => s
    | (.ok (), controller) => { s with controller := some controller }

/-- `pending`: `TASKBAR_CREATED_PENDING`, which is cleared. -/
def handleTaskbarCreated (pending : Bool) (s : TrayThreadState) : TrayThreadState :=
  if pending then s.resetTrayController else s

end TrayThreadState

end Tray
