import Wardoff.Ipc.Proof.System

/-!
# The accept gate of the status worker (`StatusShutdown`)

The status worker publishes an instance only under the accept gate and only while the flag is clear;
the UI thread sets the flag under the gate and then wakes the worker by opening its pipe. So a
worker that waits for a client when the flag is set has its wake-up still ahead (`Gated.woken`).

* `Gated.step`: this holds throughout.
-/

namespace Ipc

variable {Handle : Type} {J : Json} {s t : St Handle}

/-- The status worker has published an instance, and is about to wait for a client on it or waits
already. -/
def StatusPc.accepting : StatusPc → Bool
  | .connecting => true
  | .waiting => true
  | _ => false

/-- The status worker is inside the gate. -/
def StatusPc.inGate : StatusPc → Bool
  | .publishing _ => true
  | .unlocking => true
  | _ => false

/-- The UI thread is between setting the flag and the end of the servers. -/
def UiPc.flagged : UiPc → Bool
  | .opensStatus _ => true
  | .closesStatus _ => true
  | .draining => true
  | .opensControl _ _ => true
  | .writes _ _ _ => true
  | .readsReply _ _ => true
  | .joinsControl _ => true
  | .joinsStatus _ => true
  | _ => false

structure Gated (s : St Handle) : Prop where
  held : s.gateHeld = s.status.inGate
  /-- An instance inside the gate is published while the flag is clear. -/
  unlocking : s.status = .unlocking → s.shutdownRequested = false
  /-- The flag stays set while the servers stop. -/
  flagged : s.ui.flagged = true → s.shutdownRequested = true
  /-- A worker that would wait in vain is about to be woken. -/
  woken : s.shutdownRequested = true → s.status.accepting = true → s.statusPipe = .listening →
    ∃ stop, s.ui = .opensStatus stop

theorem gated_init (controlClaim statusClaim : Bool) (app : Runtime.Application Handle) :
    Gated (St.init controlClaim statusClaim app) := by
  constructor <;> simp [St.init, StatusPc.inGate, UiPc.flagged, StatusPc.accepting]

/-- The worker holds the gate exactly while it is inside. -/
theorem StatusStep.inGate {a : StatusAct} (h : StatusStep s a t)
    (held : s.gateHeld = s.status.inGate) :
    t.gateHeld = t.status.inGate := by
  cases h with
  | report hpc =>
    rw [hpc] at held
    dsimp only
    split <;> exact held
  | connectFails hpc =>
    rcases hpc with hpc | hpc
    · rw [hpc] at held
      exact held
    · rw [hpc] at held
      exact held
  | lock hpc hgate | flagged hpc hflag | publishFails hpc hflag | unlock hpc => rfl
  | claim hpc | publishInitial hpc hflag | publish hpc hflag | wait hpc | connected hpc | noData hpc
  | accept hpc | recheckFlagged hpc | recheck hpc | enqueue hpc | enqueueClosed hpc | wake hpc
  | wakeFails hpc | receive hpc | receiveClosed hpc | respond hpc =>
    rw [hpc] at held
    exact held

/-- A worker on its way to wait for a client has just left the gate, or was on its way already. -/
theorem StatusStep.accepting {a : StatusAct} (h : StatusStep s a t)
    (ht : t.status.accepting = true) :
    s.status = .unlocking ∨ s.status.accepting = true ∧ t.statusPipe = s.statusPipe := by
  cases h with
  | unlock hpc => exact .inl hpc
  | wait hpc hpipe => exact .inr ⟨by rw [hpc]; rfl, rfl⟩
  | report hpc =>
    dsimp only at ht
    split at ht <;> cases ht
  | _ => cases ht

theorem StatusStep.gated {a : StatusAct} (h : StatusStep s a t) (hs : Gated s) : Gated t := by
  have hk := h.keeps
  refine ⟨h.inGate hs.held, fun hpc => ?_, ?_, fun hflag haccept hpipe => ?_⟩
  · cases h with
    | publishInitial hpc hflag | publish hpc hflag => exact hflag
    | report =>
      dsimp only at hpc
      split at hpc <;> cases hpc
    | _ => cases hpc
  · rw [hk.ui, hk.shutdownRequested]
    exact hs.flagged
  · rw [hk.shutdownRequested] at hflag
    rw [hk.ui]
    rcases h.accepting haccept with hunlocking | ⟨haccept, hsame⟩
    · rw [hs.unlocking hunlocking] at hflag
      cases hflag
    · exact hs.woken hflag haccept (hsame ▸ hpipe)

theorem Pipe.closeUi_eq_listening {p : Pipe} : p.closeUi = .listening ↔ p = .listening := by
  cases p <;> simp [Pipe.closeUi]

/-- Once it has set the flag, the UI thread stops the servers. -/
theorem UiStep.flagged {a : UiAct Handle} (h : UiStep J s a t) (ht : t.ui.flagged = true) :
    t.shutdownRequested = true ∨ s.ui.flagged = true ∧
    t.shutdownRequested = s.shutdownRequested := by
  cases h with
  | request => exact .inl rfl
  | finish => cases ht
  | _ => exact .inr ⟨by simp_all [UiPc.flagged], rfl⟩

/-- The step that wakes the worker leaves no instance to wait on. -/
theorem UiStep.opensStatus {a : UiAct Handle} {stop : Stop} (h : UiStep J s a t)
    (hs : s.ui = .opensStatus stop) : t.statusPipe ≠ .listening := by
  cases h with
  | openStatus => simp
  | openStatusFails hpc hne => exact hne
  | _ => simp_all

/-- The UI thread publishes no status instance. -/
theorem UiStep.listening {a : UiAct Handle} (h : UiStep J s a t) (ht : t.statusPipe = .listening) :
    s.statusPipe = .listening := by
  cases h with
  | openStatus => cases ht
  | closeStatus => exact Pipe.closeUi_eq_listening.1 ht
  | _ => exact ht

/-- The UI thread sets the flag outside the gate, and leaves the worker alone only with no instance
to wait on. -/
theorem UiStep.gated {a : UiAct Handle} (h : UiStep J s a t) (hs : Gated s) : Gated t := by
  have hk := h.keeps
  refine ⟨by rw [hk.gateHeld, hk.status, hs.held], fun hpc => ?_, fun hui => ?_,
    fun hflag haccept hpipe => ?_⟩
  · rw [hk.status] at hpc
    cases h with
    | request hui hgate =>
      have held := hs.held
      rw [hgate, hpc] at held
      cases held
    | _ => exact hs.unlocking hpc
  · rcases h.flagged hui with hset | ⟨hwas, hsame⟩
    · exact hset
    · rw [hsame]
      exact hs.flagged hwas
  · by_cases hwas : s.shutdownRequested = true
    · -- the worker was to be woken, and the step that does it leaves no instance to wait on
      rw [hk.status] at haccept
      obtain ⟨stop, hstop⟩ := hs.woken hwas haccept (h.listening hpipe)
      exact absurd hpipe (h.opensStatus hstop)
    · cases h with
      | request => exact ⟨_, rfl⟩
      | _ => exact absurd hflag hwas

theorem Gated.step {a : Act Handle} (hs : Gated s) (h : step J s a = some t) : Gated t := by
  cases a with
  | control a =>
    have hk := (controlStep_cases h).keeps
    obtain ⟨held, unlocking, flagged, woken⟩ := hs
    constructor
    · rwa [hk.gateHeld, hk.status]
    · rwa [hk.status, hk.shutdownRequested]
    · rwa [hk.ui, hk.shutdownRequested]
    · rwa [hk.shutdownRequested, hk.status, hk.statusPipe, hk.ui]
  | status a => exact (statusStep_cases h).gated hs
  | ui a => exact (uiStep_cases h).gated hs
  | client a =>
    have hk := (clientStep_cases h).keeps
    obtain ⟨held, unlocking, flagged, woken⟩ := hs
    constructor
    · rwa [hk.gateHeld, hk.status]
    · rwa [hk.status, hk.shutdownRequested]
    · rwa [hk.ui, hk.shutdownRequested]
    · rw [hk.shutdownRequested, hk.status, hk.ui]
      intro hflag haccept hpipe
      refine woken hflag haccept ?_
      cases clientStep_cases h with
      | openStatus => cases hpipe
      | closeStatus => cases hpipe
      | _ => exact hpipe

end Ipc
