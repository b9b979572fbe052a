import Wardoff.Runtime.Dialogue
import Wardoff.Tray.Controller

/-!
# The UI thread and the tray thread (`src/tray/mod.rs`, `src/main.rs`)

`trayStep` is one step of one of the two threads, or of their surroundings. The UI thread handles
one event after the other; where a handler sends a command to the tray thread it waits for the
answer, but not for ever (`TRAY_COMMAND_RESULT_TIMEOUT`), and goes on while the command is still
queued. The tray thread takes the commands in their order. It drops the tray when an update fails or
when Explorer has restarted, and creates it anew when it may try again. While it pumps its messages
the user may click the items of the menu.

A `SetMode` carries a ticket, by which its sender finds the answer. The tray thread may also die.
`clicks` is a ghost field.
-/

namespace Tray

open Blocker (BlockerMode BlockerCoordinator)
open Machine Runtime

/-- `TrayCommand`, in the queue. -/
inductive QueuedCommand where
  | setMode (mode : BlockerMode) (ticket : Nat)
  | setAutostart (enabled : Bool)
  | shutdown
  deriving DecidableEq, Repr

/-- Whether the thread ends, and the answer to send, if any. -/
def TrayThreadState.handleTrayCommand (o : UpdateCalls) (command : QueuedCommand)
    (s : TrayThreadState) :
    Bool × Option (Nat × Except String Unit) × TrayThreadState :=
  match command with
  | .setMode mode ticket =>
    let (result, s) := { s with mode }.applyOrReset o
    (false, some (ticket, result), s)
  | .setAutostart enabled =>
    (false, none, ({ s with autostartEnabled := enabled }.applyOrReset o).2)
  | .shutdown => (true, none, s)

/-- The tray thread in its loop. -/
inductive TrayPc where
  /-- About to pump its messages, and to look whether Explorer has restarted. -/
  | pumping
  /-- In the loop of `try_recv`. -/
  | draining
  /-- About to create a tray, if there is none. -/
  | creating
  /-- In `recv_timeout`. -/
  | receiving
  | ended
  deriving DecidableEq, Repr

/-- The UI thread. -/
inductive Ui (Handle : Type) where
  /-- In its message loop, between two events. -/
  | idle (a : Application Handle)
  /-- In a handler. -/
  | handling (d : TrayDialogue (Application Handle))
  /-- In `recv_timeout` for the answer to a `SetMode`. -/
  | waiting (ticket : Nat) (k : TrayAnswer → TrayDialogue (Application Handle))
  /-- Out of its message loop. -/
  | quitting
  | ended

structure TraySt (Handle : Type) where
  ui : Ui Handle
  tray : TrayThreadState
  trayPc : TrayPc := .pumping
  queue : List QueuedCommand := []
  /-- The answers that were sent. -/
  answers : List (Nat × Except String Unit) := []
  nextTicket : Nat := 0
  /-- `TASKBAR_CREATED_PENDING`. -/
  taskbarCreatedPending : Bool := false
  /-- Clicks on the Start with Windows item since the tray thread has last applied its state to the
  tray. -/
  clicks : Nat := 0

inductive UiAct (Handle : Type) where
  | handle (e : Event Handle)
  /-- Sends the next command of the handler. -/
  | send
  | receive
  | timeout
  | disconnected
  /-- The handler returns. -/
  | finish
  | shutdown

inductive TrayThreadAct where
  /-- Dispatches a click on the Start with Windows item. -/
  | clickAutostart
  /-- There is no message left. -/
  | pump
  | command (o : UpdateCalls)
  | drained
  /-- `due`: it is time to try again. -/
  | attempt (due : Bool) (create : CreateCalls) (update : UpdateCalls)
  | timeout

inductive TrayAct (Handle : Type) where
  | ui (a : UiAct Handle)
  | tray (a : TrayThreadAct)
  | explorerRestarts
  | trayDies

section
variable {Handle : Type}

/-- The event ends the message loop. -/
def isQuit : Event Handle → Bool
  | .trayAction .quit _ => true
  | _ => false

/-- Sends a command; it is lost if the tray thread has ended. -/
def TraySt.send (s : TraySt Handle) (k : TrayAnswer → TrayDialogue (Application Handle)) :
    TrayCommand → TraySt Handle
  | .setMode mode =>
    if s.trayPc = .ended then { s with ui := .handling (k .lost) }
    else { s with
      ui := .waiting s.nextTicket k
      queue := s.queue ++ [.setMode mode s.nextTicket]
      nextTicket := s.nextTicket + 1 }
  | .setAutostart enabled =>
    if s.trayPc = .ended then { s with ui := .handling (k .lost) }
    else { s with ui := .handling (k (.answered (.ok ()))),
                  queue := s.queue ++ [.setAutostart enabled] }

def uiStep (s : TraySt Handle) : UiAct Handle → Option (TraySt Handle)
  | .handle e =>
    match s.ui with
    | .idle a => some { s with ui := if isQuit e then .quitting else .handling (e.dialogue a) }
    | _ => none
  | .send =>
    match s.ui with
    | .handling (.ask command k) => some (s.send k command)
    | _ => none
  | .receive =>
    match s.ui with
    | .waiting ticket k =>
      (s.answers.lookup ticket).map fun result => { s with ui := .handling (k (.answered result)) }
    | _ => none
  | .timeout =>
    match s.ui with
    | .waiting ticket k =>
      if (s.answers.lookup ticket).isSome
        then none else some { s with ui := .handling (k .timedOut) }
    | _ => none
  | .disconnected =>
    match s.ui with
    | .waiting ticket k =>
      if (s.answers.lookup ticket).isNone && s.trayPc = .ended then
        some { s with ui := .handling (k .disconnected) }
      else none
    | _ => none
  | .finish =>
    match s.ui with
    | .handling (.done a) => some { s with ui := .idle a }
    | _ => none
  | .shutdown =>
    match s.ui with
    | .quitting => some { s with ui := .ended, queue := s.queue ++ [.shutdown] }
    | _ => none

/-- Takes the first command; the thread goes on at `next`. -/
def TraySt.handleNext (s : TraySt Handle) (o : UpdateCalls) (next : TrayPc) :
    Option (TraySt Handle) :=
  match s.queue with
  | [] => none
  | command :: queue =>
    let (ends, answer, tray) := s.tray.handleTrayCommand o command
    some { s with
      tray
      queue
      trayPc := if ends then .ended else next
      clicks := if ends then s.clicks else 0
      answers := s.answers ++ answer.toList }

def trayThreadStep (s : TraySt Handle) : TrayThreadAct → Option (TraySt Handle)
  | .clickAutostart =>
    match s.trayPc, s.tray.controller with
    | .pumping, some controller =>
      some { s with
        tray := { s.tray with controller := some controller.clickAutostartItem }
        clicks := s.clicks + 1 }
    | _, _ => none
  | .pump =>
    match s.trayPc with
    | .pumping =>
      some { s with
        tray := s.tray.handleTaskbarCreated s.taskbarCreatedPending
        taskbarCreatedPending := false
        trayPc := .draining }
    | _ => none
  | .command o =>
    match s.trayPc with
    | .draining => s.handleNext o .draining
    | .receiving => s.handleNext o .pumping
    | _ => none
  | .drained =>
    match s.trayPc, s.queue with
    | .draining, [] => some { s with trayPc := .creating }
    | _, _ => none
  | .attempt due create update =>
    match s.trayPc with
    | .creating =>
      if s.tray.controller.isNone && due then
        some { s with
          tray := s.tray.tryCreateTrayController create update
          trayPc := .receiving
          clicks := 0 }
      else some { s with trayPc := .receiving }
    | _ => none
  | .timeout =>
    match s.trayPc, s.queue with
    | .receiving, [] => some { s with trayPc := .pumping }
    | _, _ => none

def trayStep (s : TraySt Handle) : TrayAct Handle → Option (TraySt Handle)
  | .ui a => uiStep s a
  | .tray a => trayThreadStep s a
  | .explorerRestarts => some { s with taskbarCreatedPending := true }
  | .trayDies => some { s with trayPc := .ended }

/-- Startup, from the moment the tray thread is spawned: what is left of it is to send the state of
the autostart task. -/
def TraySt.start (o : Application.BootstrapCalls Handle) (initialMode : BlockerMode)
    (visibility : TrayVisibility) : Except String (TraySt Handle) := do
  let blockerCoordinator ← BlockerCoordinator.new o.layers initialMode
  o.tray
  o.ipcServer
  let a : Application Handle := { blockerCoordinator, trayService := some {} }
  let enabled := match o.autostart with
    | .ok enabled => enabled
    | .error _ => false
  return {
    ui := .handling (a.syncTrayAutostartDialogue enabled)
    tray := { visibility, mode := blockerCoordinator.mode } }

end

end Tray
