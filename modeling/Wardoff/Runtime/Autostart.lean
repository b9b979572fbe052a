import Wardoff.Autostart.Task
import Wardoff.Runtime.Application

/-!
# Start with Windows (`src/main.rs`)

The task of the Task Scheduler and the checkbox of the tray menu are two copies of one setting. The
UI thread changes the task when a client or the tray menu asks for it, and tells the tray thread
what the checkbox shall show; it holds no copy of its own.

`AutostartSt` joins the application to the Task Scheduler: what `Application` takes as outcomes of
calls is here what the Task Scheduler answers. Others (`foreign`) may change the task between two
events.
-/

namespace Runtime

open Autostart Ipc

structure AutostartSt (Handle : Type) where
  scheduler : Scheduler
  app : Application Handle

/-- The outcomes of the calls of one `set_autostart_enabled`. -/
structure ChangeCalls where
  /-- `is_enabled` before the change. -/
  before : TaskApi
  set : SetCalls
  /-- `is_enabled` after a failed change. -/
  after : TaskApi
  trayAlive : Bool

/-- What `set_autostart_enabled` sees of the Task Scheduler, and what it leaves there. -/
def ChangeCalls.outcome (o : ChangeCalls) (enabled : Bool) (scheduler : Scheduler) :
    AutostartCalls × Scheduler :=
  let (set, left) := setEnabled o.set enabled scheduler
  ({ before := isEnabled o.before scheduler, set, after := isEnabled o.after left,
     trayAlive := o.trayAlive }, left)

inductive AutostartAct (Handle : Type) where
  /-- A client asks for a change. -/
  | request (enabled : Bool) (o : ChangeCalls) (calls : RequestCalls Handle)
  /-- The tray menu asks for a change. -/
  | action (enabled : Bool) (o : ChangeCalls) (calls : TrayCalls Handle)
  /-- The UI thread handles anything else. -/
  | other (e : Event Handle)
  /-- Someone else registers or removes the task. -/
  | foreign (scheduler : Scheduler)

variable {Handle : Type}

def Event.setsAutostart : Event Handle → Bool
  | .ipcRequest (.setAutostart _) _ => true
  | .trayAction (.setAutostart _) _ => true
  | _ => false

def autostartStep (s : AutostartSt Handle) : AutostartAct Handle → Option (AutostartSt Handle)
  | .request enabled o calls =>
    let (autostart, scheduler) := o.outcome enabled s.scheduler
    some ⟨scheduler,
      Event.handle s.app (.ipcRequest (.setAutostart enabled) { calls with autostart })⟩
  | .action enabled o calls =>
    let (autostart, scheduler) := o.outcome enabled s.scheduler
    some ⟨scheduler,
      Event.handle s.app (.trayAction (.setAutostart enabled) { calls with autostart })⟩
  | .other e => if e.setsAutostart then none else some { s with app := Event.handle s.app e }
  | .foreign scheduler => some { s with scheduler }

/-- The application at the start of its message loop, which has read the task once. -/
def AutostartSt.start (o : Application.BootstrapCalls Handle) (api : TaskApi)
    (options : RuntimeOptions) (scheduler : Scheduler) : Except String (AutostartSt Handle) := do
  let app ← Application.bootstrap { o with autostart := isEnabled api scheduler } options
  return ⟨scheduler, app⟩

end Runtime
