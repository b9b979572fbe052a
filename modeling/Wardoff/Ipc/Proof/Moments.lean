import Wardoff.Ipc.Proof.Delivery
import Wardoff.Machine.Refinement
import Wardoff.Runtime.Proof.Application

/-!
# The moment a reply speaks of

A control client that is sent an acknowledgement or a status gets what `handle_ipc_request` returned
at one moment of the run, when its own request was handled. This holds whatever fails: a failed
wake-up can make an error untrue, but not an acknowledgement.

* `Genuine.step`: a reply that is no error comes from the handling of its request.
* `mem_handled`: the step that handled a request.
* `replies_of_one_moment`: the two together.
-/

namespace Ipc

open Machine

variable {Handle : Type} {J : Json} {s t : St Handle}

/-! ## Replies that are no errors -/

/-- What the UI thread sends is what the handling of the request returned, or an error. -/
def GenuineAnswer (s : St Handle) (id : Nat) (response : IpcResponse) : Prop :=
  (∃ request, ⟨id, request, response⟩ ∈ s.handled) ∨ ∃ message, response = .error message

/-- What the worker writes is what the handling of the request returned, or its own reply, which is
an error but for a `ShutdownServer`. -/
def GenuineReply (s : St Handle) (e : Sent) : Prop :=
  (∃ request, e.request = some request ∧ ⟨e.id, request, e.reply.response⟩ ∈ s.handled) ∨
  (∃ message, e.reply.response = .error message) ∨ e.request = some .shutdownServer

theorem GenuineReply.step {a : Act Handle} {e : Sent} (he : GenuineReply s e)
    (h : step J s a = some t) :
    GenuineReply t e := by
  rcases he with ⟨request, hr, hh⟩ | he
  · exact .inl ⟨request, hr, (step_logs h).handled_subset hh⟩
  · exact .inr he

theorem GenuineAnswer.step {a : Act Handle} {id : Nat} {response : IpcResponse}
    (ha : GenuineAnswer s id response) (h : step J s a = some t) : GenuineAnswer t id response := by
  rcases ha with ⟨request, hh⟩ | ha
  · exact .inl ⟨request, (step_logs h).handled_subset hh⟩
  · exact .inr ha

/-- The invariant of the control worker, without a condition on the wake-ups. -/
structure Genuine (s : St Handle) : Prop where
  tokens : Tokens s
  replies : ∀ x ∈ s.replies, GenuineAnswer s x.1 x.2.response
  inFlight : ∀ p, s.control.inFlight = some p → Retired s p.id ∧ ∀ q ∈ s.requests,
    q.id = p.id → q = p
  responding : ∀ id request reply stop, s.control = .responding id request reply stop →
    GenuineReply s ⟨id, request, reply⟩
  sent : ∀ e ∈ s.sent, GenuineReply s e

theorem genuine_init (controlClaim statusClaim : Bool) (app : Runtime.Application Handle) :
    Genuine (St.init controlClaim statusClaim app) :=
  ⟨tokens_init controlClaim statusClaim app, by simp [St.init],
    by simp [St.init, ControlPc.inFlight], by simp [St.init], by simp [St.init]⟩

/-- The request in flight stays the only one of its connection. -/
theorem inFlight_kept {a : Act Handle} {p : PendingRequest} (h : step J s a = some t)
    (hp : Retired s p.id ∧ ∀ q ∈ s.requests, q.id = p.id → q = p) :
    Retired t p.id ∧ ∀ q ∈ t.requests, q.id = p.id → q = p := by
  obtain ⟨hr, hu⟩ := hp
  refine ⟨(step_moves h).retired hr, fun q hq he => hu q ?_ he⟩
  exact (step_moves h).mem_of_retired (he ▸ hr) hq

theorem Genuine.replies_step {a : Act Handle} (hs : Genuine s) (h : step J s a = some t) :
    ∀ x ∈ t.replies, GenuineAnswer t x.1 x.2.response := by
  intro x hx
  have hold : ∀ x ∈ s.replies, GenuineAnswer t x.1 x.2.response :=
    fun x hx => (hs.replies x hx).step h
  cases step_logs h with
  | keep hhandled hreplies => exact hold x (hreplies ▸ hx)
  | finish p response hhandled hreplies =>
    rw [hreplies, List.mem_append, List.mem_singleton] at hx
    rcases hx with hx | rfl
    · exact hold x hx
    · exact .inl ⟨p.request, by simp [hhandled]⟩
  | reject p hp hui hhandled hreplies =>
    rw [hreplies, List.mem_append, List.mem_singleton] at hx
    rcases hx with hx | rfl
    · exact hold x hx
    · exact .inr ⟨_, rfl⟩

theorem Genuine.inFlight_step {a : ControlAct} (hs : Genuine s) (h : step J s (.control a) = some t)
    {p : PendingRequest} (hp : t.control.inFlight = some p) :
    Retired t p.id ∧ ∀ q ∈ t.requests, q.id = p.id → q = p := by
  have ht := hs.tokens
  cases controlStep_cases h with
  | enqueue hpc halive =>
    cases hp
    rename_i id request
    have hid : s.fresh .control = some id := by simp only [St.fresh, St.controlFresh, hpc]
    refine ⟨(step_moves h).retired_of_fresh ht hid rfl, fun q hq he => ?_⟩
    rcases List.mem_cons.1 (requests_queue_append.mem_iff.1 hq) with rfl | hq
    · rfl
    · exact absurd (mem_used.2 ⟨q, hq, he⟩) (ht.fresh_used .control _ hid)
  | wake hpc =>
    apply inFlight_kept h
    apply hs.inFlight
    rw [hpc]
    exact hp
  | report => dsimp only at hp; split at hp <;> cases hp
  | respond => dsimp only at hp; split at hp <;> cases hp
  | _ => simp [ControlPc.inFlight, ControlPc.reject] at hp

theorem Genuine.responding_step {a : ControlAct} (hs : Genuine s)
    (h : step J s (.control a) = some t) {id : Nat} {request : Option IpcRequest} {reply : Reply}
    {stop : Bool} (hpc : t.control = .responding id request reply stop) :
    GenuineReply t ⟨id, request, reply⟩ := by
  cases controlStep_cases h with
  | report => split at hpc <;> cases hpc
  | respond => split at hpc <;> cases hpc
  | readShutdown => cases hpc; exact .inr (.inr rfl)
  | boundFails => cases hpc; exact .inr (.inl ⟨_, rfl⟩)
  | readFails => cases hpc; exact .inr (.inl ⟨_, rfl⟩)
  | restoreFails => cases hpc; exact .inr (.inl ⟨_, rfl⟩)
  | enqueueClosed => cases hpc; exact .inr (.inl ⟨_, rfl⟩)
  | wakeFails => cases hpc; exact .inr (.inl ⟨_, rfl⟩)
  | receiveClosed => cases hpc; exact .inr (.inl ⟨_, rfl⟩)
  | receive hs' hreply =>
    cases hpc
    have hmem : (id, reply) ∈ s.replies := by
      obtain ⟨pre, post, he, -⟩ := List.lookup_eq_some_iff.1 hreply
      simp [he]
    rcases hs.replies _ hmem with ⟨request', hh⟩ | he
    · -- the handled request is the one the worker queued
      have he := (hs.inFlight _ (congrArg ControlPc.inFlight hs')).2 _
        (mem_requests_of_handled hh) rfl
      cases he
      exact .inl ⟨_, rfl, hh⟩
    · exact .inr (.inl he)
  | _ => simp at hpc

theorem Genuine.step_control {a : ControlAct} (hs : Genuine s)
    (h : step J s (.control a) = some t) :
    Genuine t := by
  have hsent : ∀ e ∈ s.sent, GenuineReply t e := fun e he => (hs.sent e he).step h
  refine ⟨(step_moves h).tokens hs.tokens, hs.replies_step h, fun p hp => hs.inFlight_step h hp,
    fun _ _ _ _ hpc => hs.responding_step h hpc, fun e he => ?_⟩
  cases controlStep_cases h with
  | respond hpc =>
    rename_i id request reply stop written
    cases written with
    | false => exact hsent e he
    | true =>
      simp only [if_true, List.mem_append, List.mem_singleton] at he
      rcases he with he | rfl
      · exact hsent e he
      · exact (hs.responding _ _ _ _ hpc).step h
  | _ => exact hsent e he

/-- Steps of the other parties. -/
theorem Genuine.frame {a : Act Handle} (hs : Genuine s) (h : step J s a = some t)
    (hcontrol : t.control = s.control) (hsent : t.sent = s.sent) : Genuine t := by
  refine ⟨(step_moves h).tokens hs.tokens, hs.replies_step h, ?_, ?_, ?_⟩
  · intro p hp
    exact inFlight_kept h (hs.inFlight p (hcontrol ▸ hp))
  · intro id request reply stop hpc
    exact (hs.responding id request reply stop (hcontrol ▸ hpc)).step h
  · intro e he
    exact (hs.sent e (hsent ▸ he)).step h

/-- **What a client is sent is genuine**, and stays so. -/
theorem Genuine.step {a : Act Handle} (hs : Genuine s) (h : step J s a = some t) : Genuine t := by
  cases a with
  | control a => exact hs.step_control h
  | status a =>
    have hk := (statusStep_cases h).keeps
    exact hs.frame h hk.control hk.sent
  | ui a =>
    have hk := (uiStep_cases h).keeps
    exact hs.frame h hk.control hk.sent
  | client a =>
    have hk := (clientStep_cases h).keeps
    exact hs.frame h hk.control hk.sent

/-! ## The moment of a handling -/

/-- What a step adds to the log of handled requests. -/
def handledBy (s : St Handle) : Act Handle → List Handled
  | .ui (.finish o) =>
    match s.ui with
    | .handling pending =>
      [⟨pending.id, pending.request, (s.app.handleIpcRequest o pending.request).1⟩]
    | _ => []
  | _ => []

theorem step_handled {a : Act Handle} (h : step J s a = some t) :
    t.handled = s.handled ++ handledBy s a := by
  cases a with
  | control a =>
    rw [(controlStep_cases h).keeps.handled]
    simp [handledBy]
  | status a =>
    rw [(statusStep_cases h).keeps.handled]
    simp [handledBy]
  | ui a =>
    cases uiStep_cases h with
    | finish hpc => simp [handledBy, hpc]
    | _ => simp [handledBy]
  | client a =>
    rw [(clientStep_cases h).keeps.handled]
    simp [handledBy]

/-- Only the end of a handling adds to the log. -/
theorem mem_handledBy {a : Act Handle} {x : Handled} (hx : x ∈ handledBy s a) :
    ∃ o, a = .ui (.finish o) ∧ s.ui = .handling ⟨x.id, x.request⟩ ∧
      x.response = (s.app.handleIpcRequest o x.request).1 := by
  cases a with
  | ui a =>
    cases a with
    | finish o =>
      simp only [handledBy] at hx
      split at hx
      · rename_i hpc
        rw [List.mem_singleton] at hx
        subst hx
        exact ⟨o, rfl, hpc, rfl⟩
      · cases hx
    | _ => cases hx
  | _ => cases hx

/-- The step that handled a request. -/
theorem mem_handled {s₀ : St Handle} {as : List (Act Handle)} {x : Handled}
    (hinit : s₀.handled = []) (h : exec (step J) s₀ as = some s) (hx : x ∈ s.handled) :
    ∃ pre o post u v, as = pre ++ .ui (.finish o) :: post ∧ exec (step J) s₀ pre = some u ∧
      u.ui = .handling ⟨x.id, x.request⟩ ∧ step J u (.ui (.finish o)) = some v ∧
      u.app.handleIpcRequest o x.request = (x.response, v.app) := by
  rw [log_eq_trace St.handled (fun _ _ _ h => step_handled h) h, hinit, List.nil_append] at hx
  obtain ⟨pre, a, post, u, v, rfl, hu, hv, -, hxa⟩ := mem_trace hx h
  obtain ⟨o, rfl, hpc, hresponse⟩ := mem_handledBy hxa
  refine ⟨pre, o, post, u, v, rfl, hu, hpc, hv, ?_⟩
  simp only [step, uiStep, hpc, Option.some.injEq] at hv
  rw [hresponse, ← hv]

/-- A switch that is acknowledged has taken place. -/
theorem mode_of_handled {a : Runtime.Application Handle} {o : Runtime.RequestCalls Handle}
    {mode : PipeMode} (h : (a.handleIpcRequest o (.setMode mode)).1 = .ok) :
    (a.handleIpcRequest o (.setMode mode)).2.mode = mode.toBlockerMode := by
  rw [Runtime.Application.handleIpcRequest_setMode_snd]
  apply Runtime.Application.setMode_mode_of_ok
  simp only [Runtime.Application.handleIpcRequest] at h
  split at h
  · rename_i hset
    rw [hset]
  · cases h

/-- **An acknowledgement or a status speaks of one moment.** In every run, whatever fails: a reply
written to a control client that is no error, and not the acknowledgement of a `ShutdownServer`, is
what `handle_ipc_request` returned for the client's own request at one step of the run; after the
step that acknowledges a `SetMode` the runtime is in the mode asked for. -/
theorem replies_of_one_moment (controlClaim statusClaim : Bool) (app : Runtime.Application Handle)
    (as : List (Act Handle)) (h : exec (step J) (.init controlClaim statusClaim app) as = some s)
    (e : Sent) (he : e ∈ s.sent) (hok : ∀ message, e.reply.response ≠ .error message)
    (hshut : e.request ≠ some .shutdownServer) :
    ∃ request pre o post u v, e.request = some request ∧ as = pre ++ .ui (.finish o) :: post ∧
      exec (step J) (.init controlClaim statusClaim app) pre = some u ∧
      u.ui = .handling ⟨e.id, request⟩ ∧ step J u (.ui (.finish o)) = some v ∧
      u.app.handleIpcRequest o request = (e.reply.response, v.app) ∧
      ∀ mode, request = .setMode mode → e.reply.response = .ok →
        v.app.mode = mode.toBlockerMode := by
  have hs : Genuine s :=
    inv_of_exec (fun _ _ _ hs h => hs.step h) (genuine_init controlClaim statusClaim app) h
  rcases hs.sent e he with ⟨request, hr, hh⟩ | ⟨message, herr⟩ | hrs
  · obtain ⟨pre, o, post, u, v, has, hu, hpc, hv, hresponse⟩ := mem_handled rfl h hh
    refine ⟨request, pre, o, post, u, v, hr, has, hu, hpc, hv, hresponse, fun mode hmode hack => ?_⟩
    subst hmode
    rw [hack] at hresponse
    have hmode := mode_of_handled (congrArg Prod.fst hresponse)
    rw [hresponse] at hmode
    exact hmode
  · exact absurd herr (hok message)
  · exact absurd hrs hshut

/-- The acknowledged request of a client that asks for Block mode. -/
theorem block_acknowledged_at_one_moment :
    ∃ (s : St Unit) (e : Sent),
      exec (step .sample) (.init true true idleApp) blockAppliedRun = some s ∧
      e ∈ s.sent ∧ e.request = some (.setMode .block) ∧
      ∃ u v : St Unit, ∃ o, u.ui = .handling ⟨e.id, .setMode .block⟩ ∧
        step .sample u (.ui (.finish o)) = some v ∧ v.app.mode = .block := by
  have hrun : (exec (step .sample) (.init true true idleApp) blockAppliedRun).any (fun s =>
      s.sent == [⟨0, some (.setMode .block), ⟨.ok, .handling⟩⟩]) = true := by decide +kernel
  obtain ⟨s, hs, hsent⟩ := Option.any_eq_true _ _ |>.1 hrun
  have hmem : ⟨0, some (.setMode .block), ⟨.ok, .handling⟩⟩ ∈ s.sent := by
    rw [beq_iff_eq.1 hsent]
    exact List.mem_singleton_self _
  obtain ⟨request, pre, o, post, u, v, hr, -, -, hpc, hv, -, hmode⟩ :=
    replies_of_one_moment (J := .sample) true true idleApp blockAppliedRun hs _ hmem
      (by simp) (by simp)
  cases hr
  exact ⟨s, _, hs, hmem, rfl, u, v, o, hpc, hv, hmode .block rfl rfl⟩

end Ipc
