import Wardoff.Blocker.Local
import Wardoff.Machine.Refinement

/-!
# The trace sessions of Layer 2 (`src/blocker/local.rs`)

An ETW session outlives the process that started it: what Layer 2 does not stop stays in Windows'
table, which holds a limited number of them. `traceStep` is `localStep` with this table. A session
is started by `LocalTraceSubscription::start` and is stopped, by its name, by whoever comes to it:
`start` itself where it fails later on, `activate` where it gets no thread, the worker thread after
`ProcessTrace`, and `deactivate`.

The table also has the sessions of other programs. `message` is the text Windows has for an error
code.
-/

namespace Blocker

/-- `WIN32_ERROR`. -/
abbrev Win32Error := UInt32

def errorSuccess : Win32Error := 0
def errorAccessDenied : Win32Error := 5
def errorNotSupported : Win32Error := 50
def errorAlreadyExists : Win32Error := 183
def errorPrivilegeNotHeld : Win32Error := 1314
def errorWmiInstanceNotFound : Win32Error := 4201

/-! ## Windows -/

/-- `StartTraceW`; `answer`: its status where there is no session of this name. -/
def startTraceW (answer : Win32Error) (name : String) (sessions : List String) :
    Win32Error × List String :=
  if name ∈ sessions then (errorAlreadyExists, sessions)
  else if answer = errorSuccess then (errorSuccess, name :: sessions)
  else (answer, sessions)

/-- `ControlTraceW` with `EVENT_TRACE_CONTROL_STOP`; `answer`: its status where there is a session
of this name. -/
def controlTraceStop (answer : Win32Error) (name : String) (sessions : List String) :
    Win32Error × List String :=
  if name ∉ sessions then (errorWmiInstanceNotFound, sessions)
  else if answer = errorSuccess then (errorSuccess, sessions.filter (· != name))
  else (answer, sessions)

section
variable (message : Win32Error → String)

def win32ErrorDetails (status : Win32Error) : String := s!"{message status} (code {status})"

def formatStartTraceError (status : Win32Error) : String :=
  if status = errorAccessDenied ∨ status = errorPrivilegeNotHeld then
    s!"Layer 2 could not start ETW process monitoring because this process lacks the privileges Windows requires: {win32ErrorDetails message status}"
  else if status = errorNotSupported then
    s!"Layer 2 ETW process monitoring is not available on this Windows configuration: {win32ErrorDetails message status}"
  else if status = errorAlreadyExists then
    s!"Layer 2 found an unexpected existing ETW session with the same name and will stay inactive: {win32ErrorDetails message status}"
  else
    s!"Layer 2 could not start its ETW process monitoring session and will stay inactive: {win32ErrorDetails message status}"

/-- A session that is not there any more is as good as stopped. -/
def stopTraceSession (answer : Win32Error) (name : String) (sessions : List String) :
    Except String Unit × List String :=
  let (status, sessions) := controlTraceStop answer name sessions
  if status = errorSuccess ∨ status = errorWmiInstanceNotFound then (.ok (), sessions)
  else
    (.error s!"Windows returned {win32ErrorDetails message status} while stopping the Layer 2 ETW session.", sessions)

/-- The outcomes of the calls of `LocalTraceSubscription::start`. -/
structure StartCalls where
  startTrace : Win32Error
  /-- `EnableTraceEx2`. -/
  enable : Win32Error
  openTrace : Except String Unit
  /-- The stop of the session after a later call has failed; its result is ignored. -/
  stop : Win32Error

/-- `LocalTraceSubscription::start`. -/
def LocalTraceSubscription.start (o : StartCalls) (name : String) (sessions : List String) :
    Except String Unit × List String :=
  let (status, sessions) := startTraceW o.startTrace name sessions
  if status ≠ errorSuccess then (.error (formatStartTraceError message status), sessions)
  else if o.enable ≠ errorSuccess then
    (.error s!"Layer 2 could not enable the Microsoft-Windows-Kernel-Process provider for ETW monitoring: {win32ErrorDetails message o.enable}",
      (stopTraceSession message o.stop name sessions).2)
  else match o.openTrace with
    | .error error =>
      (.error s!"Layer 2 could not open its real-time ETW consumer: {error}",
        (stopTraceSession message o.stop name sessions).2)
    | .ok () => (.ok (), sessions)

/-! ## Layer 2 -/

structure TraceSt where
  workers : LocalSt := {}
  /-- The session of every trace that was opened. -/
  names : List String := []
  /-- Windows' table of sessions. -/
  sessions : List String := []

/-- The outcomes of the calls of `activate`. -/
structure ActivateCalls where
  /-- `JoinHandle::is_finished` of the held worker. -/
  finished : Bool
  preflight : ShutdownAbortCapability
  /-- `build_session_name`. -/
  sessionName : String
  start : StartCalls
  spawn : Except String Unit
  /-- The stop of `LocalTraceSubscription::shutdown` after a failed spawn. -/
  cleanup : Win32Error

/-- What the layer sees of them. -/
def ActivateCalls.localCalls (o : ActivateCalls) (sessions : List String) : LocalCalls where
  finished := o.finished
  preflight := o.preflight
  sessionName := o.sessionName
  subscription := (LocalTraceSubscription.start message o.start o.sessionName sessions).1
  spawn := o.spawn

/-- What `activate` does to the sessions; `workers` is what it does else. -/
def TraceSt.activated (o : ActivateCalls) (workers : LocalSt) (s : TraceSt) : TraceSt :=
  if (s.workers.layer.cleanupFinishedWorker o.finished).worker.isSome then { s with workers }
  else match o.preflight with
    | .available =>
      let (subscription, sessions) :=
        LocalTraceSubscription.start message o.start o.sessionName s.sessions
      match subscription, o.spawn with
      | .ok (), .ok () => { workers, names := s.names ++ [o.sessionName], sessions }
      | .ok (), .error _ =>
        { workers
          names := s.names ++ [o.sessionName]
          sessions := (stopTraceSession message o.cleanup o.sessionName sessions).2 }
      | .error _, _ => { s with workers, sessions }
    | _ => { s with workers }

/-- The trace of the last worker: the one in the slot, or the one being stopped. -/
def LocalSt.lastTrace (s : LocalSt) : Option Nat := (s.threads.map (·.handle)).getLast?

/-- `stop_trace_session` for the session of a trace. -/
def TraceSt.stopTrace (answer : Win32Error) (trace : Option Nat) (s : TraceSt) : TraceSt :=
  match trace.bind fun trace => s.names[trace]? with
  | some name => { s with sessions := (stopTraceSession message answer name s.sessions).2 }
  | none => s

inductive TraceAct where
  | activate (o : ActivateCalls)
  /-- A step of `deactivate`; `stop`: the status of a stop that is part of it. -/
  | controller (a : LocalControllerAct) (stop : Win32Error)
  | thread (i : Nat) (a : LocalThreadAct) (stop : Win32Error)
  /-- Somebody else ends a session, or Windows does. -/
  | sessionEnds (name : String)

def traceStep (s : TraceSt) : TraceAct → Option TraceSt
  | .activate o =>
    (localStep s.workers
      (.controller (.activate (o.localCalls message s.sessions)))).map fun workers =>
      s.activated message o workers
  | .controller a stop =>
    match a with
    | .activate _ => none
    | .stopSession =>
      (localStep s.workers (.controller .stopSession)).map fun workers =>
        { s.stopTrace message stop s.workers.lastTrace with workers }
    | a => (localStep s.workers (.controller a)).map fun workers => { s with workers }
  | .thread i a stop =>
    match a with
    | .stopSession =>
      (localStep s.workers (.thread i .stopSession)).map fun workers =>
        { s.stopTrace message stop (s.workers.threads[i]?.map (·.handle)) with workers }
    | a => (localStep s.workers (.thread i a)).map fun workers => { s with workers }
  | .sessionEnds name => some { s with sessions := s.sessions.filter (· != name) }

end

end Blocker
