import Wardoff.Ipc.Proof.Gate

/-!
# The wake-up of the status worker is not lost

To stop the status worker, a thread sets the flag under the accept gate and then opens the status
pipe once, whatever comes of it. The worker publishes an instance under the same gate after it has
found the flag clear, so that the one attempt meets every instance the worker can still wait on: it
connects to it, or a client has, or there is none any more.

* `Woken.step`: once an attempt has been made, the worker waits on no free instance.
* `publish_of_flag`: with the flag set the status pipe gets no new instance but the initial one.
-/

namespace Ipc

open Machine

variable {Handle : Type} {J : Json} {s t : St Handle}

/-- A wake-up attempt (`wake_status_server`) is over. `IpcServer::shutdown` makes a second one. -/
def UiPc.woke : UiPc → Bool
  | .starting _ _ => false
  | .running => false
  | .handling _ => false
  | .requesting stop => stop == .final
  | .opensStatus stop => stop == .final
  | _ => true

/-- The worker waits for a client, or is about to, on an instance that no client has opened. -/
def WaitsInVain (s : St Handle) : Prop := s.status.accepting = true ∧ s.statusPipe = .listening

structure Woken (s : St Handle) : Prop where
  gated : Gated s
  flag : s.ui.woke = true → s.shutdownRequested = true
  served : s.ui.woke = true → ¬ WaitsInVain s

theorem woken_init (controlClaim statusClaim : Bool) (app : Runtime.Application Handle) :
    Woken (St.init controlClaim statusClaim app) :=
  ⟨gated_init controlClaim statusClaim app, by simp [St.init, UiPc.woke],
    by simp [St.init, UiPc.woke]⟩

/-- The flag is never cleared, and it is set before an attempt. -/
theorem UiStep.woke_flag {a : UiAct Handle} (h : UiStep J s a t) (hs : Woken s)
    (ht : t.ui.woke = true) : t.shutdownRequested = true := by
  cases h with
  | request hpc hgate => rfl
  | openStatus hpc hpipe => exact hs.gated.flagged (by simp [hpc, UiPc.flagged])
  | openStatusFails hpc hne => exact hs.gated.flagged (by simp [hpc, UiPc.flagged])
  | finish hpc => cases ht
  | _ => exact hs.flag (by simp_all [UiPc.woke])

/-- An attempt that finds a free instance connects to it; nothing the UI thread does later frees
one. -/
theorem UiStep.served {a : UiAct Handle} (h : UiStep J s a t) (hs : Woken s)
    (ht : t.ui.woke = true) : ¬ WaitsInVain t := by
  have hstatus := h.keeps.status
  intro hvain
  obtain ⟨haccept, hpipe⟩ := hvain
  rw [hstatus] at haccept
  cases h with
  | openStatus hpc hlisten => cases hpipe
  | openStatusFails hpc hne => exact absurd hpipe hne
  | closeStatus hpc =>
    exact hs.served (by simp [hpc, UiPc.woke]) ⟨haccept, Pipe.closeUi_eq_listening.1 hpipe⟩
  | finish hpc => cases ht
  | _ => exact hs.served (by simp_all [UiPc.woke]) ⟨haccept, hpipe⟩

/-- With the flag set, the worker takes no free instance to wait on. -/
theorem StatusStep.served {a : StatusAct} (h : StatusStep s a t) (hs : Gated s)
    (hflag : s.shutdownRequested = true) (hvain : ¬ WaitsInVain s) : ¬ WaitsInVain t := by
  cases h with
  | publishInitial hpc hclear => simp [hclear] at hflag
  | publish hpc hclear => simp [hclear] at hflag
  | unlock hpc => simp [hs.unlocking hpc] at hflag
  | report hpc => cases hclaim : s.statusClaim <;> simp [WaitsInVain, StatusPc.accepting]
  | wait hpc hpipe => exact fun _ => hvain ⟨by simp [hpc, StatusPc.accepting], hpipe⟩
  | _ => simp [WaitsInVain, StatusPc.accepting]

theorem Woken.step {a : Act Handle} (hs : Woken s) (h : step J s a = some t) : Woken t := by
  refine ⟨hs.gated.step h, ?_, ?_⟩
  · intro ht
    cases a with
    | control a =>
      have hk := (controlStep_cases h).keeps
      rw [hk.shutdownRequested]
      exact hs.flag (hk.ui ▸ ht)
    | status a =>
      have hk := (statusStep_cases h).keeps
      rw [hk.shutdownRequested]
      exact hs.flag (hk.ui ▸ ht)
    | ui a => exact (uiStep_cases h).woke_flag hs ht
    | client a =>
      have hk := (clientStep_cases h).keeps
      rw [hk.shutdownRequested]
      exact hs.flag (hk.ui ▸ ht)
  · intro ht
    cases a with
    | control a =>
      have hk := (controlStep_cases h).keeps
      rw [hk.ui] at ht
      simpa only [WaitsInVain, hk.status, hk.statusPipe] using hs.served ht
    | status a =>
      have hstep := statusStep_cases h
      rw [hstep.keeps.ui] at ht
      exact hstep.served hs.gated (hs.flag ht) (hs.served ht)
    | ui a => exact (uiStep_cases h).served hs ht
    | client a =>
      have hstep := clientStep_cases h
      have hk := hstep.keeps
      rw [hk.ui] at ht
      intro hvain
      obtain ⟨haccept, hpipe⟩ := hvain
      rw [hk.status] at haccept
      cases hstep with
      | openStatus hlisten => cases hpipe
      | closeStatus hconn hui => cases hpipe
      | _ => exact hs.served ht ⟨haccept, hpipe⟩

/-- With the flag set, an instance of the status pipe appears only by the initial claim. -/
theorem publish_of_flag {a : Act Handle} (hflag : s.shutdownRequested = true)
    (h : step J s a = some t) (ht : t.statusPipe = .listening) :
    s.statusPipe = .listening ∨ a = .status .claim := by
  cases a with
  | control a => exact .inl ((controlStep_cases h).keeps.statusPipe ▸ ht)
  | status a =>
    cases statusStep_cases h with
    | claim hpc => exact .inr rfl
    | publish hpc hclear => simp [hclear] at hflag
    | _ => first | exact .inl ht | cases ht
  | ui a =>
    cases uiStep_cases h with
    | closeStatus hpc => exact .inl (Pipe.closeUi_eq_listening.1 ht)
    | _ => first | exact .inl ht | cases ht
  | client a =>
    cases clientStep_cases h with
    | _ => first | exact .inl ht | cases ht

/-- **The wake-up of the status worker is not lost.** When an attempt is over, the worker does not
wait on an instance that no client has opened; and once the flag is set, no instance follows but the
initial one. -/
theorem status_wakeup_not_lost (controlClaim statusClaim : Bool) (app : Runtime.Application Handle)
    (as : List (Act Handle))
    (h : exec (step J) (.init controlClaim statusClaim app) as = some s) :
    (s.ui.woke = true → ¬ (s.status = .waiting ∧ s.statusPipe = .listening)) ∧
    (s.shutdownRequested = true → ∀ a t, step J s a = some t → t.statusPipe = .listening →
      s.statusPipe = .listening ∨ a = .status .claim) := by
  have hs : Woken s := inv_of_exec (fun _ _ _ hs h => hs.step h)
    (woken_init controlClaim statusClaim app) h
  refine ⟨fun hwoke hwait => ?_, fun hflag a t hstep ht => publish_of_flag hflag hstep ht⟩
  exact hs.served hwoke ⟨by simp [hwait.1, StatusPc.accepting], hwait.2⟩

/-- The status worker has published its instance and waits when the runtime shuts down. -/
def wakeWaitingRun : List (Act Unit) :=
  startupRun ++
    ([.status .lock, .status (.publish true), .status .unlock, .status .connect, .ui .leaveLoop,
      .ui .request, .ui .openStatus, .ui .closeStatus] : List (Act Unit))

theorem status_wakeup_not_lost_waiting :
    ∃ s : St Unit, exec (step .sample) (.init true true idleApp) wakeWaitingRun = some s ∧
      s.ui.woke = true ∧ s.status = .waiting ∧ s.statusPipe ≠ .listening := by
  refine ⟨_, rfl, rfl, rfl, fun hpipe => ?_⟩
  exact (status_wakeup_not_lost (J := .sample) true true idleApp wakeWaitingRun rfl).1 rfl
    ⟨rfl, hpipe⟩

end Ipc
