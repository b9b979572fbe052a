import Wardoff.Ipc.Proof.System

/-!
# Orderly shutdown with a request in flight

The shutting down UI thread drains the request queue once and then waits for the workers. A worker
that queues a request after that drain waits for a reply nobody will send (`Deadlocked`).

* `queue_nil_of_pastDrain`: if no worker queues a request after the drain, the queue stays empty.
* `shutdown_not_deadlocked`: such a run never deadlocks.
* `shutdown_deadlocks`: the status worker checks the flag before it queues, and the drain fits in
  between.
-/

namespace Ipc

open Machine

variable {Handle : Type} {J : Json} {s t : St Handle}

/-- On whose behalf the UI thread is stopping the servers, if it is. -/
def UiPc.stop? : UiPc → Option Stop
  | .requesting stop => some stop
  | .opensStatus stop => some stop
  | .closesStatus stop => some stop
  | .opensControl stop _ => some stop
  | .writes stop _ _ => some stop
  | .readsReply stop _ => some stop
  | .joinsControl stop => some stop
  | .joinsStatus stop => some stop
  | _ => none

/-- The UI thread has drained the queue and stops the servers. -/
def UiPc.PastDrain (pc : UiPc) : Prop := pc.stop? = some .final

/-- The request of the connection `id` sits in the queue. -/
def St.queued (s : St Handle) (id : Nat) : Prop := ∃ p ∈ s.queue, p.id = id

/-- Past its drain, the UI thread waits for a worker (joining it, or retrying the control pipe it
keeps busy) that waits for the reply to a queued request. -/
def Deadlocked (s : St Handle) : Prop :=
  (∃ id request, s.control = .awaiting id request ∧ s.queued id ∧
    (s.ui = .joinsControl .final ∨
      (∃ attempt, s.ui = .opensControl .final attempt) ∧ s.controlPipe.serves id = true)) ∨
  (∃ id, s.status = .awaiting id ∧ s.queued id ∧ s.ui = .joinsStatus .final)

/-- No worker queues a request once the UI thread has drained the queue. -/
def QueuesInTime (s : St Handle) : Act Handle → Prop
  | .control .enqueue => ¬ s.ui.PastDrain
  | .status .enqueue => ¬ s.ui.PastDrain
  | _ => True

/-- A worker queues its request. -/
def Act.enqueues : Act Handle → Bool
  | .control .enqueue | .status .enqueue => true
  | _ => false

theorem queuesInTime_iff (s : St Handle) (a : Act Handle) :
    (a.enqueues = true → ¬ s.ui.stop? = some .final) ↔ QueuesInTime s a := by
  rcases a with (_ | _) | (_ | _) | _ | _ <;> simp [QueuesInTime, Act.enqueues, UiPc.PastDrain]

/-- Whether a step queues in time can be computed. -/
instance decidableQueuesInTime (s : St Handle) (a : Act Handle) : Decidable (QueuesInTime s a) :=
  decidable_of_iff _ (queuesInTime_iff s a)

theorem Stop.afterWake_stop? {k : Stop} (h : k.afterWake.PastDrain) : k = .final := by
  rcases k with (_ | _) | _ | _ <;> simp_all [Stop.afterWake, UiPc.PastDrain, UiPc.stop?]

theorem Stop.afterRequest_stop? {k : Stop} {ok : Bool} (h : (k.afterRequest ok).PastDrain) :
    k = .final := by
  rcases k with _ | _ | _ <;> simp_all [Stop.afterRequest, UiPc.PastDrain, UiPc.stop?]

theorem Stop.afterJoin_stop? (k : Stop) : ¬ k.afterJoin.PastDrain := by
  rcases k with _ | _ | _ <;> simp [Stop.afterJoin, UiPc.PastDrain, UiPc.stop?]

/-- The UI thread gets past the drain with an empty queue, and leaves it as it is from then on. -/
theorem UiStep.pastDrain {a : UiAct Handle} (h : UiStep J s a t) (ht : t.ui.PastDrain) :
    t.queue = [] ∨ (s.ui.PastDrain ∧ t.queue = s.queue) := by
  cases h with
  | drained hpc hqueue => exact .inl hqueue
  | openStatusFails hpc =>
    exact .inr ⟨by simp [UiPc.PastDrain, UiPc.stop?, hpc, Stop.afterWake_stop? ht], rfl⟩
  | closeStatus hpc =>
    exact .inr ⟨by simp [UiPc.PastDrain, UiPc.stop?, hpc, Stop.afterWake_stop? ht], rfl⟩
  | openControlFails hpc =>
    exact .inr ⟨by simp [UiPc.PastDrain, UiPc.stop?, hpc, Stop.afterRequest_stop? ht], rfl⟩
  | writeFails hpc =>
    exact .inr ⟨by simp [UiPc.PastDrain, UiPc.stop?, hpc, Stop.afterRequest_stop? ht], rfl⟩
  | readReply hpc =>
    exact .inr ⟨by simp [UiPc.PastDrain, UiPc.stop?, hpc, Stop.afterRequest_stop? ht], rfl⟩
  | replyLost hpc =>
    exact .inr ⟨by simp [UiPc.PastDrain, UiPc.stop?, hpc, Stop.afterRequest_stop? ht], rfl⟩
  | joinStatus hpc => exact absurd ht (Stop.afterJoin_stop? _)
  | _ => simp_all [UiPc.PastDrain, UiPc.stop?]

/-- The queue of a UI thread past its drain stays empty. -/
theorem queue_nil_of_pastDrain_step {a : Act Handle} (hs : s.ui.PastDrain → s.queue = [])
    (ha : QueuesInTime s a) (h : step J s a = some t) (ht : t.ui.PastDrain) : t.queue = [] := by
  cases a with
  | control a =>
    have hstep := controlStep_cases h
    rw [hstep.keeps.ui] at ht
    cases hstep with
    | enqueue hpc halive => exact absurd ht ha
    | _ => exact hs ht
  | status a =>
    have hstep := statusStep_cases h
    rw [hstep.keeps.ui] at ht
    cases hstep with
    | enqueue hpc halive => exact absurd ht ha
    | _ => exact hs ht
  | ui a =>
    rcases (uiStep_cases h).pastDrain ht with hq | ⟨hp, hq⟩
    · exact hq
    · rw [hq, hs hp]
  | client a =>
    have hk := (clientStep_cases h).keeps
    rw [hk.queue, hs (hk.ui ▸ ht)]

/-- **Orderly shutdown does not deadlock** in a run in which no worker queues a request after the
drain. -/
theorem shutdown_not_deadlocked (controlClaim statusClaim : Bool)
    (app : Runtime.Application Handle) (as : List (Act Handle))
    (has : Along (step J) QueuesInTime (.init controlClaim statusClaim app) as)
    (h : exec (step J) (.init controlClaim statusClaim app) as = some s) : ¬ Deadlocked s := by
  have hq : s.ui.PastDrain → s.queue = [] :=
    inv_of_along (I := fun s : St Handle => s.ui.PastDrain → s.queue = [])
      (fun _ _ _ hs ha h => queue_nil_of_pastDrain_step hs ha h) (by simp [St.init]) has h
  intro hdead
  rcases hdead with ⟨id, request, -, ⟨p, hp, -⟩, hui⟩ | ⟨id, -, ⟨p, hp, -⟩, hui⟩
  · have hpast : s.ui.PastDrain := by
      rcases hui with hui | ⟨⟨attempt, hui⟩, -⟩ <;> simp [UiPc.PastDrain, UiPc.stop?, hui]
    simp [hq hpast] at hp
  · have hpast : s.ui.PastDrain := by simp [UiPc.PastDrain, UiPc.stop?, hui]
    simp [hq hpast] at hp

/-- A status client is accepted, and its worker queues the request when the shutdown has begun. The
drain rejects it; the status worker goes on and finds the flag, the control worker stops, and the UI
thread joins them. -/
def rejectedStatusRun : List (Act Unit) :=
  startupRun ++
    ([.status .lock, .status (.publish true), .status .unlock, .status .connect,
      .client .openStatus, .status .accept, .status .recheck,
      .ui .leaveLoop, .ui .request, .status .enqueue, .status (.wake true), .ui .openStatus,
      .ui .reject, .ui .drained, .status .receive, .status .respond, .status .lock,
      .status (.publish true),
      .ui .request, .ui .openStatus, .ui (.openControl false), .ui (.write true), .ui (.write true),
      .control .connect, .control (.bound (.ok ())),
      .control (.read (.chunk (Json.sample.shutdownServer ++ [newline])) (.ok ())),
      .control (.respond true), .ui (.readReply true), .ui .joinControl] : List (Act Unit))

theorem shutdown_not_deadlocked_rejected :
    ∃ s : St Unit, exec (step .sample) (.init true true idleApp) rejectedStatusRun = some s ∧
      s.ui = .joinsStatus .final ∧ s.status = .exited ∧ ¬ Deadlocked s := by
  have hrun : (exec (step .sample) (.init true true idleApp) rejectedStatusRun).any (fun s =>
      s.status == .exited && s.ui == .joinsStatus .final) = true := by
    decide +kernel
  obtain ⟨s, hs, hend⟩ := Option.any_eq_true _ _ |>.1 hrun
  simp only [Bool.and_eq_true, beq_iff_eq] at hend
  have hintime : Along (step .sample) QueuesInTime (.init true true idleApp) rejectedStatusRun := by
    decide +kernel
  exact ⟨s, hs, hend.2, hend.1,
    shutdown_not_deadlocked (J := .sample) true true idleApp rejectedStatusRun hintime hs⟩

/-- A status client is accepted, and the status worker finds the flag clear. The runtime shuts down
and drains the empty queue; only then the worker queues its request and waits. The control worker
stops, and the UI thread joins the status worker. -/
def lateStatusRun : List (Act Unit) :=
  startupRun ++
    ([.status .lock, .status (.publish true), .status .unlock, .status .connect,
      .client .openStatus, .status .accept, .status .recheck,
      .ui .leaveLoop, .ui .request, .ui .openStatus, .ui .drained,
      .status .enqueue, .status (.wake true),
      .ui .request, .ui .openStatus, .ui (.openControl false), .ui (.write true), .ui (.write true),
      .control .connect, .control (.bound (.ok ())),
      .control (.read (.chunk (Json.sample.shutdownServer ++ [newline])) (.ok ())),
      .control (.respond true), .ui (.readReply true), .ui .joinControl] : List (Act Unit))

/-- Orderly shutdown can deadlock. -/
theorem shutdown_deadlocks :
    ¬ ∀ (as : List (Act Unit)) (s : St Unit),
      exec (step .sample) (.init true true idleApp) as = some s → ¬ Deadlocked s := by
  intro h
  have hrun : (exec (step .sample) (.init true true idleApp) lateStatusRun).any (fun s =>
      s.status == .awaiting 0 && s.queue == [⟨0, .status⟩] && s.ui == .joinsStatus .final) =
        true := by
    decide +kernel
  obtain ⟨s, hs, hend⟩ := Option.any_eq_true _ _ |>.1 hrun
  simp only [Bool.and_eq_true, beq_iff_eq] at hend
  obtain ⟨⟨hstatus, hqueue⟩, hui⟩ := hend
  exact h _ s hs (.inr ⟨0, hstatus, ⟨_, hqueue ▸ List.mem_singleton_self _, rfl⟩, hui⟩)

end Ipc
