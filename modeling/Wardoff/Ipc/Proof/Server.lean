import Wardoff.Ipc.Proof.Tokens
import Wardoff.Ipc.Server
import Wardoff.Machine.Refinement
import Wardoff.Runtime.Proof.Veto

/-!
# The IPC system is one server

`St.server` forgets the threads, the pipes and the channels of the IPC system: what is left is a
server that answers one request at a time (`Server`).

* `step_server`: a step of any party is matched by the actions of the server it stands for
  (`served`).
* `system_refines_server`: so every run of the system is a run of the server.
* `statuses_consistent`: an invariant of the server, carried over to the system.
-/

open Machine
open Runtime (Application Event RequestCalls)

namespace Ipc

variable {Handle : Type} {J : Json} {s t : St Handle}

/-! ## The actions of the system as those of the server -/

/-- A worker queues a request if the queue still has its receiver. -/
def submitted (s : St Handle) (pending : PendingRequest) : List (ServerAct Handle) :=
  if s.receiverAlive then [.submit pending] else []

/-- The actions of the server a step of the system stands for. A request is answered when its
handling is finished; what is left in the queue is dropped with the application. -/
def served (s : St Handle) : Act Handle → List (ServerAct Handle)
  | .control .enqueue =>
    match s.control with
    | .enqueueing id request => submitted s ⟨id, request⟩
    | _ => []
  | .status .enqueue =>
    match s.status with
    | .enqueueing id => submitted s ⟨id, .status⟩
    | _ => []
  | .ui (.finish o) => [.serve o]
  | .ui (.event e) => [.event e]
  | .ui .reject => [.refuse]
  | .ui .dropApplication => s.queue.map fun _ => .refuse
  | _ => []

/-- The server that corresponds to a state of the system. The request in the hand of the UI thread
has not been answered, and so it waits. -/
def St.server (s : St Handle) : Server Handle where
  app := s.app
  waiting := s.ui.inHand ++ s.queue
  answered := s.handled

theorem UiPc.inHand_of_leftLoop {pc : UiPc} (h : pc.leftLoop = true) : pc.inHand = [] := by
  cases pc <;> first | rfl | cases h

/-- Out of the message loop the server sees nothing of what the UI thread does but to the queue. -/
theorem server_of_leftLoop (hs : s.ui.leftLoop = true) (ht : t.ui.leftLoop = true)
    (happ : t.app = s.app) (hqueue : t.queue = s.queue) (hhandled : t.handled = s.handled) :
    some s.server = some t.server := by
  simp only [St.server, happ, hqueue, hhandled, UiPc.inHand_of_leftLoop hs,
    UiPc.inHand_of_leftLoop ht]

/-- A queue that is dropped is refused request by request. -/
theorem exec_refuse (q : Server Handle) (pending : List PendingRequest) (h : q.waiting = pending) :
    exec serverStep q (pending.map fun _ => .refuse) = some { q with waiting := [] } := by
  induction pending generalizing q with
  | nil =>
    obtain ⟨app, waiting, answered⟩ := q
    cases h
    rfl
  | cons p pending ih =>
    have hstep : serverStep q .refuse = some { q with waiting := pending } := by
      simp [serverStep, h]
    rw [List.map_cons, exec_cons hstep]
    exact ih { q with waiting := pending } rfl

/-! ## One step -/

theorem server_of_controlStep {a : ControlAct} (h : ControlStep J s a t) :
    exec serverStep s.server (served s (.control a)) = some t.server := by
  cases h with
  | enqueue hpc halive => simp [served, hpc, submitted, halive, exec, serverStep, St.server]
  | enqueueClosed hpc hdead => simp [served, hpc, submitted, hdead, St.server]
  | _ => rfl

theorem server_of_statusStep {a : StatusAct} (h : StatusStep s a t) :
    exec serverStep s.server (served s (.status a)) = some t.server := by
  cases h with
  | enqueue hpc halive => simp [served, hpc, submitted, halive, exec, serverStep, St.server]
  | enqueueClosed hpc hdead => simp [served, hpc, submitted, hdead, St.server]
  | _ => rfl

theorem server_of_uiStep {a : UiAct Handle} (h : UiStep J s a t) :
    exec serverStep s.server (served s (.ui a)) = some t.server := by
  cases h with
  | finish hpc => simp [served, exec, serverStep, St.server, hpc, UiPc.inHand]
  | event hpc => simp [served, exec, serverStep, St.server]
  | reject hpc hqueue => simp [served, exec, serverStep, St.server, hpc, hqueue, UiPc.inHand]
  | dropApplication hpc =>
    rw [served, exec_refuse _ s.queue (by simp [St.server, hpc, UiPc.inHand])]
    rfl
  | take hpc hqueue =>
    refine congrArg some ?_
    simp [St.server, hpc, hqueue, UiPc.inHand]
  | openStatusFails hpc hpipe =>
    exact server_of_leftLoop (by rw [hpc]; rfl) (Stop.leftLoop_afterWake _) rfl rfl rfl
  | closeStatus hpc =>
    exact server_of_leftLoop (by rw [hpc]; rfl) (Stop.leftLoop_afterWake _) rfl rfl rfl
  | openControlFails hpc hfailed =>
    exact server_of_leftLoop (by rw [hpc]; rfl) (Stop.leftLoop_afterRequest _ _) rfl rfl rfl
  | writeFails hpc =>
    exact server_of_leftLoop (by rw [hpc]; rfl) (Stop.leftLoop_afterRequest _ _) rfl rfl rfl
  | readReply hpc hsent =>
    exact server_of_leftLoop (by rw [hpc]; rfl) (Stop.leftLoop_afterRequest _ _) rfl rfl rfl
  | replyLost hpc hsent hpipe =>
    exact server_of_leftLoop (by rw [hpc]; rfl) (Stop.leftLoop_afterRequest _ _) rfl rfl rfl
  | joinStatus hpc hstatus =>
    exact server_of_leftLoop (by rw [hpc]; rfl) (Stop.leftLoop_afterJoin _) rfl rfl rfl
  | _ => simp_all [served, St.server, UiPc.inHand]

theorem server_of_clientStep {a : ClientAct} (h : ClientStep s a t) :
    exec serverStep s.server (served s (.client a)) = some t.server := by
  cases h <;> rfl

/-- **A step of any party** is matched by the actions of the server it stands for. -/
theorem step_server {a : Act Handle} (h : step J s a = some t) :
    exec serverStep s.server (served s a) = some t.server := by
  cases a with
  | control a => exact server_of_controlStep (controlStep_cases h)
  | status a => exact server_of_statusStep (statusStep_cases h)
  | ui a => exact server_of_uiStep (uiStep_cases h)
  | client a => exact server_of_clientStep (clientStep_cases h)

/-! ## Runs -/

/-- The system carries out the server. -/
def serverRefinement (J : Json) :
    Refinement (step J : St Handle → Act Handle → Option (St Handle)) (@serverStep Handle) where
  abs := St.server
  emit := served
  matched := step_server

/-- **The IPC system is one server.** Whatever the order of the steps of the workers, the UI thread
and the clients, and whatever fails on the way: the state of the application and the answers given
are those of a server that takes the requests in the order in which they were queued and answers one
at a time. -/
theorem system_refines_server (controlClaim statusClaim : Bool) (app : Application Handle)
    (as : List (Act Handle)) (h : exec (step J) (.init controlClaim statusClaim app) as = some s) :
    exec serverStep ⟨app, [], []⟩ (trace (step J) served (.init controlClaim statusClaim app) as) =
      some s.server := by
  exact (serverRefinement J).exec h

/-- A status client is served. -/
def statusServedRun : List (Act Unit) :=
  startupRun ++
    ([.status .lock, .status (.publish true), .status .unlock, .status .connect,
      .client .openStatus,
      .status .accept, .status .recheck, .status .enqueue, .status (.wake true), .ui .take,
      .ui (.finish (.succeed ()))] : List (Act Unit))

theorem status_request_refines_server :
    ∃ s : St Unit, exec (step .sample) (.init true true idleApp) statusServedRun = some s ∧
      exec serverStep ⟨idleApp, [], []⟩
        (trace (step .sample) served (.init true true idleApp) statusServedRun) =
        some s.server ∧ s.server.answered.map (·.request) = [.status] := by
  have hrun : (exec (step .sample) (.init true true idleApp) statusServedRun).any (fun s =>
      s.handled.map (·.request) == [.status]) = true := by decide +kernel
  obtain ⟨s, hs, hhandled⟩ := Option.any_eq_true _ _ |>.1 hrun
  exact ⟨s, hs, system_refines_server (J := .sample) true true idleApp statusServedRun hs,
    beq_iff_eq.1 hhandled⟩

/-! ## Statuses -/

/-- The status says that the runtime blocks exactly if it says that Layer 1 is active. -/
def StatusConsistent (status : StatusOutput) : Prop :=
  status.state = .block ↔ ∃ layers, status.layers = some layers ∧ layers.shutdown = true

/-- Layer 1 is on exactly in Block mode, and so say the statuses given. -/
structure Consistent (q : Server Handle) : Prop where
  agreed : Runtime.Agreed q.app.blockerCoordinator
  answered : ∀ x ∈ q.answered, ∀ status, x.response = .status status → StatusConsistent status

/-- A forced end of the session in Block mode turns Layer 1 off behind its owner's back. -/
def ServerAct.unforced (q : Server Handle) : ServerAct Handle → Prop
  | .event e => e.isForcedEndSession = true → q.app.mode = .allow
  | _ => True

theorem statusConsistent_statusOutput {a : Application Handle}
    (h : Runtime.Agreed a.blockerCoordinator) (o : Runtime.StatusReads) :
    StatusConsistent (a.statusOutput o) := by
  simp only [StatusConsistent, Application.statusOutput, StatusOutput.active,
    Blocker.BlockerCoordinator.layerStatus,
    Blocker.ShutdownBlocker.isActive, Option.some.injEq, exists_eq_left']
  cases hm : a.mode <;> simp_all [StatusState.ofMode, Application.mode, Runtime.Agreed]

/-- Only a status request is answered with a status. -/
theorem handleIpcRequest_status {a : Application Handle} {o : RequestCalls Handle}
    {request : IpcRequest} {status : StatusOutput}
    (h : (a.handleIpcRequest o request).1 = .status status) :
    status = a.statusOutput o.status := by
  cases request with
  | status =>
    cases h
    rfl
  | setMode mode =>
    simp only [Application.handleIpcRequest] at h
    split at h <;> cases h
  | setAutostart enabled =>
    simp only [Application.handleIpcRequest] at h
    split at h <;> cases h
  | shutdownServer => cases h

theorem Consistent.step {q q' : Server Handle} {a : ServerAct Handle} (hq : Consistent q)
    (ha : a.unforced q) (h : serverStep q a = some q') : Consistent q' := by
  cases a with
  | submit pending =>
    cases h
    exact ⟨hq.agreed, hq.answered⟩
  | event e =>
    cases h
    exact ⟨Runtime.agreed_handle hq.agreed ha, hq.answered⟩
  | refuse =>
    simp only [serverStep] at h
    split at h <;> cases h
    exact ⟨hq.agreed, hq.answered⟩
  | serve o =>
    simp only [serverStep] at h
    split at h <;> cases h
    rename_i pending waiting hw
    have hagreed : Runtime.Agreed (q.app.handleIpcRequest o pending.request).2.blockerCoordinator :=
      Runtime.agreed_handle (e := .ipcRequest pending.request o) hq.agreed
        (by simp [Event.isForcedEndSession])
    refine ⟨hagreed, fun x hx status hs => ?_⟩
    rcases List.mem_append.1 hx with hx | hx
    · exact hq.answered x hx status hs
    · rw [List.mem_singleton] at hx
      subst hx
      rw [handleIpcRequest_status hs]
      exact statusConsistent_statusOutput hq.agreed o.status

/-- The step is no forced end of the session in Block mode. -/
def Unforced (s : St Handle) : Act Handle → Prop
  | .ui (.event e) => e.isForcedEndSession = true → s.app.mode = .allow
  | _ => True

theorem unforced_submitted {p : PendingRequest} {b : ServerAct Handle} (hb : b ∈ submitted s p)
    (q : Server Handle) : b.unforced q := by
  unfold submitted at hb
  split at hb
  · rw [List.mem_singleton] at hb
    subst hb
    trivial
  · cases hb

/-- An unforced step stands for unforced actions of the server. -/
theorem Unforced.served {a : Act Handle} (h : Unforced s a) :
    Along serverStep (fun q b => b.unforced q) s.server (served s a) := by
  cases a with
  | control a =>
    cases a with
    | enqueue =>
      simp only [Ipc.served]
      split
      · exact along_of_mem fun b hb => unforced_submitted hb
      · trivial
    | _ => trivial
  | status a =>
    cases a with
    | enqueue =>
      simp only [Ipc.served]
      split
      · exact along_of_mem fun b hb => unforced_submitted hb
      · trivial
    | _ => trivial
  | ui a =>
    cases a with
    | event e => exact ⟨h, fun _ _ => trivial⟩
    | finish o => exact along_of_mem (by simp [Ipc.served, ServerAct.unforced])
    | reject => exact along_of_mem (by simp [Ipc.served, ServerAct.unforced])
    | dropApplication => exact along_of_mem (by simp [Ipc.served, ServerAct.unforced])
    | _ => trivial
  | client a => trivial

/-- **Statuses are consistent in every interleaving.** After a successful startup, unless Windows
forces the end of the session in Block mode: whatever the workers, the clients and the UI thread do,
mode and status report the real veto of Layer 1, and every status a client was given names Block
exactly if it names Layer 1 as active. -/
theorem status_replies_consistent {o : Blocker.LayerCalls Handle} {mode : Blocker.BlockerMode}
    {c : Blocker.BlockerCoordinator Handle} (hnew : Blocker.BlockerCoordinator.new o mode = .ok c)
    (trayService : Option Runtime.TrayServiceHandle) (controlClaim statusClaim : Bool)
    (as : List (Act Handle))
    (has : Along (step J) Unforced
      (.init controlClaim statusClaim { blockerCoordinator := c, trayService }) as)
    (h : exec (step J)
      (.init controlClaim statusClaim { blockerCoordinator := c, trayService }) as = some s) :
    Runtime.Truthful s.app ∧
      ∀ x ∈ s.handled, ∀ status, x.response = .status status → StatusConsistent status := by
  have hs :
    Consistent (St.init controlClaim statusClaim { blockerCoordinator := c, trayService }).server :=
    ⟨Runtime.agreed_new hnew, by simp [St.server, St.init]⟩
  have hq : Consistent s.server := (serverRefinement J).inv_of_along (fun s a ha => ha.served)
    (fun q b q' hq hb h => hq.step hb h) hs has h
  exact ⟨Runtime.truthful_iff.2 hq.agreed, hq.answered⟩

/-- The status a client of a runtime in Block mode is given. -/
theorem block_status_consistent :
    ∃ (c : Blocker.BlockerCoordinator Unit) (s : St Unit),
      Blocker.BlockerCoordinator.new (.succeed ()) .block = .ok c ∧
      exec (step .sample) (.init true true { blockerCoordinator := c, trayService := none })
        statusServedRun =
        some s ∧
      ∃ x ∈ s.handled, ∃ status, x.response = .status status ∧ status.state = .block ∧
        StatusConsistent status := by
  obtain ⟨c, hc⟩ : ∃ c : Blocker.BlockerCoordinator Unit,
      Blocker.BlockerCoordinator.new (.succeed ()) .block = .ok c := ⟨_, rfl⟩
  have hrun :
    (exec (step .sample) (.init true true { blockerCoordinator := c, trayService := none })
      statusServedRun).any (fun s =>
        s.handled ==
          [⟨0, .status, .status ⟨.block, some ⟨true, true, true, true, true⟩, some 0, some 0⟩⟩]) =
      true := by
    cases hc
    decide +kernel
  obtain ⟨s, hs, hhandled⟩ := Option.any_eq_true _ _ |>.1 hrun
  have hmem := (beq_iff_eq.1 hhandled) ▸ List.mem_singleton_self _
  have hconsistent := (status_replies_consistent (J := .sample) hc none true true statusServedRun
    (by simp [statusServedRun, startupRun, Along, Unforced]) hs).2 _ hmem _ rfl
  exact ⟨c, s, hc, hs, _, hmem, _, rfl, rfl, hconsistent⟩

end Ipc
