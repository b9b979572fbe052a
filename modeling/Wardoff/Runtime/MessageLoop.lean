import Wardoff.Ipc.System

/-!
# The message loop of the UI thread (`src/main.rs`, `src/tray/mod.rs`)

In `Ipc.System` the UI thread may take a request whenever there is one. Here it does so at two
places of its message loop only, and sleeps in `WaitMessage` while its message queue is empty:
whoever puts something into a channel has to wake it with a message of its own. The workers do so
with every request, and the tray thread after a batch of menu actions.

`loopStep` is one step of the IPC system, of the message loop, or of the tray thread where it
forwards the clicks on its menu. A window procedure that is called by `PeekMessageW` itself, or for
a message that is dispatched, handles an event of the application. `clicked` and `performed` are
ghost fields.
-/

namespace Runtime

open Ipc (Act St)

/-- A message in the queue of the UI thread. -/
inductive Message where
  /-- `IPC_WAKE_MESSAGE`. -/
  | ipcWake
  /-- `TRAY_ACTION_WAKE_MESSAGE`. -/
  | trayActionWake
  /-- `WM_QUIT`. -/
  | quit
  /-- One for a window. -/
  | other
  deriving DecidableEq, Repr

/-- `run_message_loop`. What is done after each message is done once more, `last`, when none is
left. -/
inductive LoopPc where
  /-- Calls `PeekMessageW`. -/
  | peeking
  | dispatching
  /-- In `process_ipc_requests`. -/
  | ipc (last : Bool)
  /-- Calls `process_tray_actions`. -/
  | tray (last : Bool)
  /-- In the loop of `process_tray_actions`. -/
  | acting (last : Bool) (actions : List TrayAction)
  /-- In `WaitMessage`. -/
  | waiting
  | left
  deriving DecidableEq, Repr

/-- The tray thread in `forward_tray_actions`. -/
inductive ForwardPc where
  | idle
  | sending (actions : List TrayAction) (forwardedAny : Bool)
  | waking
  deriving DecidableEq, Repr

/-- `action_for_menu_id`; `autostartEnabled`: the Start with Windows item is checked. -/
def actionForMenuId (autostartEnabled : Bool) (id : String) : Option TrayAction :=
  if id = "wardoff.block" then some .block
  else if id = "wardoff.allow" then some .allow
  else if id = "wardoff.autostart" then some (.setAutostart !autostartEnabled)
  else if id = "wardoff.shutdown" then some .shutdown
  else if id = "wardoff.reboot" then some .reboot
  else if id = "wardoff.sleep" then some .sleep
  else if id = "wardoff.hibernate" then some .hibernate
  else if id = "wardoff.quit" then some .quit
  else none

structure LoopSt (Handle : Type) where
  sys : St Handle
  /-- `Application::tray_service` is there. -/
  trayService : Bool
  pc : LoopPc := .peeking
  messages : List Message := []
  /-- `MenuEvent::receiver`. -/
  menu : List String := []
  forward : ForwardPc := .idle
  /-- The channel of the actions. -/
  actions : List TrayAction := []
  /-- The items that were clicked on. -/
  clicked : List String := []
  /-- The actions given to `handle_tray_action`. -/
  performed : List TrayAction := []

inductive LoopAct (Handle : Type) where
  /-- A step of a worker or of a client, or of the UI thread outside of its loop. -/
  | system (a : Act Handle)
  /-- Somebody else posts a message to the UI thread. -/
  | post (message : Message)
  | peek
  /-- A window procedure is called within `PeekMessageW`. -/
  | sent (e : Event Handle)
  /-- `DispatchMessageW`. -/
  | dispatch (e : Option (Event Handle))
  /-- `try_recv` returns a request. -/
  | take
  | finish (o : RequestCalls Handle)
  /-- `try_recv` finds no request. -/
  | processed
  /-- `TrayServiceHandle::drain_actions`. -/
  | drain
  | act (o : TrayCalls Handle)
  | acted
  /-- `WaitMessage` returns; `sent`: for a window procedure that is to be called. -/
  | wake (sent : Bool)
  | waitFails
  | click (id : String)
  /-- `TrayController::drain_actions`. -/
  | drainMenu (autostartEnabled : Bool)
  | forward
  | forwarded
  /-- `wake_main_thread_for_tray_action`. -/
  | wakeMain (ok : Bool)

section
variable {Handle : Type}

def LoopSt.init (controlClaim statusClaim : Bool) (app : Application Handle) : LoopSt Handle :=
  { sys := .init controlClaim statusClaim app, trayService := app.trayService.isSome }

/-- The steps of the IPC system that belong to the message loop. -/
def inLoop : Act Handle → Bool
  | .ui .take => true
  | .ui (.finish _) => true
  | .ui (.event _) => true
  | .ui .leaveLoop => true
  | _ => false

/-- `wake_ui_thread`. -/
def posted : Act Handle → List Message
  | .control (.wake (.ok ())) => [.ipcWake]
  | .status (.wake true) => [.ipcWake]
  | _ => []

/-- An event that reaches the application through one of its windows. -/
def Event.ofWindow : Event Handle → Bool
  | .ipcRequest _ _ => false
  | .trayAction _ _ => false
  | _ => true

/-- The UI thread goes on at `pc` after a step of the IPC system. -/
def LoopSt.steps (s : LoopSt Handle) (J : Ipc.Json) (a : Ipc.UiAct Handle) (pc : LoopPc) :
    Option (LoopSt Handle) :=
  (Ipc.step J s.sys (.ui a)).map fun sys => { s with sys, pc }

def LoopSt.afterSending (s : LoopSt Handle) (forwardedAny : Bool) : LoopSt Handle :=
  { s with forward := if forwardedAny then .waking else .idle }

def loopStep (J : Ipc.Json) (s : LoopSt Handle) : LoopAct Handle → Option (LoopSt Handle)
  | .system a =>
    if inLoop a then none
    else (Ipc.step J s.sys a).map fun sys => { s with sys, messages := s.messages ++ posted a }
  | .post message => some { s with messages := s.messages ++ [message] }
  | .peek =>
    match s.sys.ui, s.pc, s.messages with
    | .running, .peeking, [] => some { s with pc := .ipc true }
    | .running, .peeking, message :: messages =>
      let s := { s with messages }
      match message with
      | .quit => s.steps J .leaveLoop .left
      | .ipcWake => some { s with pc := .ipc false }
      | .trayActionWake => some { s with pc := .ipc false }
      | .other => some { s with pc := .dispatching }
    | _, _, _ => none
  | .sent e =>
    match s.pc with
    | .peeking => if e.ofWindow then s.steps J (.event e) .peeking else none
    | _ => none
  | .dispatch e =>
    match s.pc, e with
    | .dispatching, some e => if e.ofWindow then s.steps J (.event e) (.ipc false) else none
    | .dispatching, none => some { s with pc := .ipc false }
    | _, _ => none
  | .take =>
    match s.pc with
    | .ipc last => s.steps J .take (.ipc last)
    | _ => none
  | .finish o =>
    match s.pc with
    | .ipc last => s.steps J (.finish o) (.ipc last)
    | _ => none
  | .processed =>
    match s.pc, s.sys.ui, s.sys.queue with
    | .ipc last, .running, [] => some { s with pc := .tray last }
    | _, _, _ => none
  | .drain =>
    match s.pc with
    | .tray last =>
      if s.trayService then some { s with pc := .acting last s.actions, actions := [] }
      else some { s with pc := .acting last [] }
    | _ => none
  | .act o =>
    match s.pc with
    | .acting last (action :: actions) =>
      let s := { s with performed := s.performed ++ [action] }
      -- a Quit leaves what is behind it
      if action = .quit then s.steps J .leaveLoop .left
      else s.steps J (.event (.trayAction action o)) (.acting last actions)
    | _ => none
  | .acted =>
    match s.pc with
    | .acting last [] => some { s with pc := if last then .waiting else .peeking }
    | _ => none
  | .wake sent =>
    match s.pc with
    | .waiting => if sent || !s.messages.isEmpty then some { s with pc := .peeking } else none
    | _ => none
  | .waitFails =>
    match s.pc with
    | .waiting => s.steps J .leaveLoop .left
    | _ => none
  | .click id =>
    if s.trayService then
      some { s with menu := s.menu ++ [id], clicked := s.clicked ++ [id] }
    else none
  | .drainMenu autostartEnabled =>
    match s.forward with
    | .idle =>
      some { s with
        menu := []
        forward := .sending (s.menu.filterMap (actionForMenuId autostartEnabled)) false }
    | _ => none
  | .forward =>
    match s.forward with
    | .sending (action :: actions) forwardedAny =>
      if s.sys.receiverAlive then
        some { s with actions := s.actions ++ [action], forward := .sending actions true }
      else some (s.afterSending forwardedAny)
    | _ => none
  | .forwarded =>
    match s.forward with
    | .sending [] forwardedAny => some (s.afterSending forwardedAny)
    | _ => none
  | .wakeMain ok =>
    match s.forward with
    | .waking =>
      some { s with
        forward := .idle
        messages := if ok then s.messages ++ [.trayActionWake] else s.messages }
    | _ => none

end

end Runtime
