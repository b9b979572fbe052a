import Wardoff.Ipc.Proof.Tokens

/-!
# What a reply says about its request

A control client is sent the response of `handle_ipc_request`, or an error in its place: the worker
did not understand the request or could not pass it on, or the UI thread rejected it. After an error
of the second kind the request must never be handled (`NeverHandled`), and an acknowledgement must
come from a handling that succeeded.

* `NeverHandled.step`: a request that is out of reach of the message loop stays so.
* `Answered.step`: every reply in a channel is true; `Truthful.step`: so is every reply written.
* `replies_truthful`: this holds in a run in which the worker gives up waking the UI thread only
  when the request is out of reach.
* `wake_failure_untruthful`: else a client can be told of a failure and its request be applied.
-/

namespace Ipc

open Machine

variable {Handle : Type} {J : Json} {s t : St Handle}

/-! ## Requests that are never handled -/

/-- The request of the connection `id` is not handled, and will not be: no worker has it to pass on,
and if it is queued the UI thread has left its loop. -/
structure NeverHandled (s : St Handle) (id : Nat) : Prop where
  retired : Retired s id
  handled : ∀ h ∈ s.handled, h.id ≠ id
  used : id ∈ s.used → s.ui.leftLoop = true

/-- The UI thread does not get back into its loop, and out of it it handles nothing. -/
theorem step_leftLoop {a : Act Handle} (h : step J s a = some t) (hs : s.ui.leftLoop = true) :
    t.ui.leftLoop = true ∧ t.handled = s.handled := by
  cases a with
  | control a =>
    have hk := (controlStep_cases h).keeps
    exact ⟨hk.ui ▸ hs, hk.handled⟩
  | status a =>
    have hk := (statusStep_cases h).keeps
    exact ⟨hk.ui ▸ hs, hk.handled⟩
  | ui a => exact (uiStep_cases h).leftLoop hs
  | client a =>
    have hk := (clientStep_cases h).keeps
    exact ⟨hk.ui ▸ hs, hk.handled⟩

theorem mem_requests_of_handled {h : Handled} (hh : h ∈ s.handled) :
    ⟨h.id, h.request⟩ ∈ s.requests :=
  List.mem_append_right _ (List.mem_map.2 ⟨h, hh, rfl⟩)

theorem mem_used_of_handled {h : Handled} (hh : h ∈ s.handled) : h.id ∈ s.used :=
  mem_used.2 ⟨_, mem_requests_of_handled hh, rfl⟩

/-- **A request out of reach of the message loop stays so.** -/
theorem NeverHandled.step {a : Act Handle} {id : Nat} (hn : NeverHandled s id)
    (h : step J s a = some t) : NeverHandled t id := by
  have hused : id ∈ t.used → id ∈ s.used := by
    intro hid
    obtain ⟨p, hp, rfl⟩ := mem_used.1 hid
    exact mem_used.2 ⟨p, (step_moves h).mem_of_retired hn.retired hp, rfl⟩
  refine ⟨(step_moves h).retired hn.retired, ?_, fun hid => ?_⟩
  · intro x hx he
    subst he
    have hleft := step_leftLoop h (hn.used (hused (mem_used_of_handled hx)))
    exact hn.handled x (hleft.2 ▸ hx) rfl
  · exact (step_leftLoop h (hn.used (hused hid))).1

/-- A request that its worker gives up before it is queued is never handled. -/
theorem neverHandled_of_fresh {a : ControlAct} {id : Nat} (ht : Tokens s)
    (h : ControlStep J s a t) (hid : s.fresh .control = some id) (hnone : t.fresh .control = none)
    (hqueue : t.queue = s.queue) : NeverHandled t id := by
  have hreq : t.requests = s.requests := by
    simp only [St.requests, hqueue, h.keeps.ui, h.keeps.handled]
  have hnot : id ∉ t.used := by
    rw [St.used, hreq]
    exact ht.fresh_used .control id hid
  refine ⟨h.moves.retired_of_fresh ht hid hnone, ?_, fun hu => absurd hu hnot⟩
  intro x hx he
  subst he
  exact hnot (mem_used_of_handled hx)

/-! ## The reply channels -/

/-- What one step adds to the log of handled requests and to the reply channels. -/
inductive Logs (s t : St Handle) : Prop where
  | keep (hhandled : t.handled = s.handled) (hreplies : t.replies = s.replies)
  | finish (p : PendingRequest) (response : IpcResponse)
      (hhandled : t.handled = s.handled ++ [⟨p.id, p.request, response⟩])
      (hreplies : t.replies = s.replies ++ [(p.id, ⟨response, .handling⟩)])
  | reject (p : PendingRequest) (hp : p ∈ s.queue) (hui : s.ui.leftLoop = true)
      (hhandled : t.handled = s.handled)
      (hreplies : t.replies = s.replies ++ [(p.id, ⟨shuttingDown, .rejection⟩)])

theorem step_logs {a : Act Handle} (h : step J s a = some t) : Logs s t := by
  cases a with
  | control a =>
    have hk := (controlStep_cases h).keeps
    exact .keep hk.handled hk.replies
  | status a =>
    have hk := (statusStep_cases h).keeps
    exact .keep hk.handled hk.replies
  | ui a =>
    cases uiStep_cases h with
    | finish hpc => exact .finish _ _ rfl rfl
    | reject hpc hqueue => exact .reject _ (by simp [hqueue]) (by simp [hpc, UiPc.leftLoop]) rfl rfl
    | _ => exact .keep rfl rfl
  | client a =>
    have hk := (clientStep_cases h).keeps
    exact .keep hk.handled hk.replies

theorem Logs.handled_subset (h : Logs s t) : s.handled ⊆ t.handled := by
  cases h with
  | keep hhandled hreplies => exact hhandled ▸ List.Subset.refl _
  | finish p response hhandled hreplies => exact hhandled ▸ List.subset_append_left _ _
  | reject p hp hui hhandled hreplies => exact hhandled ▸ List.Subset.refl _

/-- A reply says that its request was handled, and how, or its request is never handled. -/
def TrueReply (s : St Handle) (id : Nat) (reply : Reply) : Prop :=
  (reply.origin = .handling ∧ ∃ request, ⟨id, request, reply.response⟩ ∈ s.handled) ∨
  (reply.origin ≠ .handling ∧ reply.response ≠ .ok ∧ NeverHandled s id)

theorem TrueReply.step {a : Act Handle} {id : Nat} {reply : Reply} (hr : TrueReply s id reply)
    (h : step J s a = some t) : TrueReply t id reply := by
  rcases hr with ⟨ho, request, hh⟩ | ⟨ho, hne, hn⟩
  · exact .inl ⟨ho, request, (step_logs h).handled_subset hh⟩
  · exact .inr ⟨ho, hne, hn.step h⟩

/-- The invariant of the reply channels: handled requests have a reply, and all replies are true. -/
structure Answered (s : St Handle) : Prop where
  tokens : Tokens s
  dropped : s.receiverAlive = false → s.ui = .dropped
  answered : ∀ h ∈ s.handled, (s.replies.lookup h.id).isSome = true
  replies : ∀ x ∈ s.replies, TrueReply s x.1 x.2

theorem answered_init (controlClaim statusClaim : Bool) (app : Runtime.Application Handle) :
    Answered (St.init controlClaim statusClaim app) :=
  ⟨tokens_init controlClaim statusClaim app, by simp [St.init], by simp [St.init],
    by simp [St.init]⟩

/-- The receiver goes with the application. -/
theorem step_dropped {a : Act Handle} (h : step J s a = some t)
    (hs : s.receiverAlive = false → s.ui = .dropped) :
    t.receiverAlive = false → t.ui = .dropped := by
  cases a with
  | control a =>
    have hk := (controlStep_cases h).keeps
    rwa [hk.receiverAlive, hk.ui]
  | status a =>
    have hk := (statusStep_cases h).keeps
    rwa [hk.receiverAlive, hk.ui]
  | ui a =>
    intro hdead
    cases uiStep_cases h with
    | dropApplication hpc => rfl
    | _ => simp_all
  | client a =>
    have hk := (clientStep_cases h).keeps
    rwa [hk.receiverAlive, hk.ui]

/-- A queued request was not handled. -/
theorem Tokens.not_handled_of_queued (ht : Tokens s) {p : PendingRequest} (hp : p ∈ s.queue) :
    ∀ h ∈ s.handled, h.id ≠ p.id := by
  intro h hh he
  have hnd := ht.nodup
  simp only [St.used, St.requests, List.append_assoc, List.map_append, List.nodup_append] at hnd
  refine hnd.2.2 p.id (List.mem_map_of_mem hp) p.id ?_ rfl
  refine List.mem_append_right _ ?_
  simp only [List.map_map, List.mem_map]
  exact ⟨h, hh, he⟩

theorem mem_used_of_queued {p : PendingRequest} (hp : p ∈ s.queue) : p.id ∈ s.used :=
  mem_used.2 ⟨p, List.mem_append_left _ (List.mem_append_left _ hp), rfl⟩

theorem Answered.step {a : Act Handle} (hs : Answered s) (h : step J s a = some t) :
    Answered t := by
  have hold : ∀ x ∈ s.replies, TrueReply t x.1 x.2 := fun x hx => (hs.replies x hx).step h
  refine ⟨(step_moves h).tokens hs.tokens, step_dropped h hs.dropped, ?_, ?_⟩
  · intro x hx
    cases step_logs h with
    | keep hhandled hreplies => exact hreplies ▸ hs.answered x (hhandled ▸ hx)
    | finish p response hhandled hreplies =>
      rw [hhandled, List.mem_append, List.mem_singleton] at hx
      rw [hreplies, List.lookup_append]
      rcases hx with hx | rfl
      · simp [hs.answered x hx]
      · simp
    | reject p hp hui hhandled hreplies =>
      rw [hreplies, List.lookup_append]
      simp [hs.answered x (hhandled ▸ hx)]
  · intro x hx
    cases step_logs h with
    | keep hhandled hreplies => exact hold x (hreplies ▸ hx)
    | finish p response hhandled hreplies =>
      rw [hreplies, List.mem_append, List.mem_singleton] at hx
      rcases hx with hx | rfl
      · exact hold x hx
      · exact .inl ⟨rfl, p.request, by simp [hhandled]⟩
    | reject p hp hui hhandled hreplies =>
      rw [hreplies, List.mem_append, List.mem_singleton] at hx
      rcases hx with hx | rfl
      · exact hold x hx
      · have hn : NeverHandled s p.id :=
          ⟨hs.tokens.retired_of_used (mem_used_of_queued hp), hs.tokens.not_handled_of_queued hp,
            fun _ => hui⟩
        exact .inr ⟨by simp, by simp [shuttingDown], hn.step h⟩

/-! ## What the control worker writes -/

/-- The request the control worker has queued and not answered. -/
def ControlPc.inFlight : ControlPc → Option PendingRequest
  | .waking id request => some ⟨id, request⟩
  | .awaiting id request => some ⟨id, request⟩
  | _ => none

/-- A written reply says that its request was handled, and how, or its request is never handled;
then only a `ShutdownServer` is acknowledged. -/
def TrueSent (s : St Handle) (e : Sent) : Prop :=
  (e.reply.origin = .handling ∧
    ∃ request, e.request = some request ∧ ⟨e.id, request, e.reply.response⟩ ∈ s.handled) ∨
  (e.reply.origin ≠ .handling ∧ (e.reply.response = .ok → e.request = some .shutdownServer) ∧
    NeverHandled s e.id)

theorem TrueSent.step {a : Act Handle} {e : Sent} (he : TrueSent s e) (h : step J s a = some t) :
    TrueSent t e := by
  rcases he with ⟨ho, request, hr, hh⟩ | ⟨ho, hok, hn⟩
  · exact .inl ⟨ho, request, hr, (step_logs h).handled_subset hh⟩
  · exact .inr ⟨ho, hok, hn.step h⟩

/-- The invariant of the control worker. -/
structure Truthful (s : St Handle) : Prop where
  toAnswered : Answered s
  inFlight : ∀ p, s.control.inFlight = some p → Retired s p.id ∧ ∀ q ∈ s.requests,
    q.id = p.id → q = p
  responding : ∀ id request reply stop, s.control = .responding id request reply stop →
    TrueSent s ⟨id, request, reply⟩
  sent : ∀ e ∈ s.sent, TrueSent s e

/-- The message loop cannot get at the request any more: the UI thread has left it, and the request
is still in the queue, or was rejected by the drain, or is gone with the queue before it had a
reply. -/
def St.OutOfReach (s : St Handle) (p : PendingRequest) : Prop :=
  s.ui.leftLoop = true ∧
    (p ∈ s.queue ∨ (p.id, ⟨shuttingDown, .rejection⟩) ∈ s.replies ∨
      s.receiverAlive = false ∧ s.replies.lookup p.id = none)

/-- The worker gives up waking the UI thread only when this cannot get at the request any more. -/
def WakesTruthfully (s : St Handle) : Act Handle → Prop
  | .control (.wake (.error _)) => ∀ id request, s.control = .waking id request →
      s.OutOfReach ⟨id, request⟩
  | _ => True

/-- A request that is out of reach was not handled. -/
theorem Answered.not_handled_of_outOfReach (hs : Answered s) {p : PendingRequest}
    (hp : s.OutOfReach p) :
    ∀ h ∈ s.handled, h.id ≠ p.id := by
  rcases hp.2 with hq | hr | ⟨-, hnone⟩
  · exact hs.tokens.not_handled_of_queued hq
  · rcases hs.replies _ hr with ⟨ho, -⟩ | ⟨-, -, hn⟩
    · cases ho
    · exact hn.handled
  · intro x hx he
    have hsome := hs.answered x hx
    rw [he, hnone] at hsome
    cases hsome

theorem truthful_init (controlClaim statusClaim : Bool) (app : Runtime.Application Handle) :
    Truthful (St.init controlClaim statusClaim app) :=
  ⟨answered_init controlClaim statusClaim app, by simp [St.init, ControlPc.inFlight],
    by simp [St.init], by simp [St.init]⟩

/-- The queued request of the worker stays the only one of its connection. -/
theorem Truthful.inFlight_step {a : Act Handle} (hs : Truthful s) (h : step J s a = some t)
    {p : PendingRequest} (hp : s.control.inFlight = some p) :
    Retired t p.id ∧ ∀ q ∈ t.requests, q.id = p.id → q = p := by
  obtain ⟨hr, hu⟩ := hs.inFlight p hp
  refine ⟨(step_moves h).retired hr, fun q hq he => hu q ?_ he⟩
  exact (step_moves h).mem_of_retired (he ▸ hr) hq

/-- Steps of the other parties. -/
theorem Truthful.frame {a : Act Handle} (hs : Truthful s) (h : step J s a = some t)
    (hcontrol : t.control = s.control) (hsent : t.sent = s.sent) : Truthful t := by
  refine ⟨hs.toAnswered.step h, fun p hp => hs.inFlight_step h (hcontrol ▸ hp), ?_, ?_⟩
  · intro id request reply stop hpc
    exact (hs.responding id request reply stop (hcontrol ▸ hpc)).step h
  · intro e he
    exact (hs.sent e (hsent ▸ he)).step h

/-- A worker's reply to a request it gave up before it was queued. -/
theorem trueSent_of_fresh {a : ControlAct} {e : Sent} (ht : Tokens s) (h : ControlStep J s a t)
    (hid : s.fresh .control = some e.id) (hnone : t.fresh .control = none)
    (hqueue : t.queue = s.queue) (horigin : e.reply.origin = .worker)
    (hok : e.reply.response = .ok → e.request = some .shutdownServer) : TrueSent t e :=
  .inr ⟨by simp [horigin], hok, neverHandled_of_fresh ht h hid hnone hqueue⟩

/-- What the worker is about to write after a step is true. -/
theorem Truthful.responding_step {a : ControlAct} (hs : Truthful s)
    (ha : WakesTruthfully s (.control a)) (h : step J s (.control a) = some t) {id : Nat}
    {request : Option IpcRequest} {reply : Reply} {stop : Bool}
    (hpc : t.control = .responding id request reply stop) : TrueSent t ⟨id, request, reply⟩ := by
  have ht := hs.toAnswered.tokens
  have hstep := controlStep_cases h
  have hfresh := fun e => trueSent_of_fresh (e := e) ht hstep
  cases hstep with
  | report => split at hpc <;> cases hpc
  | boundFails hs' =>
    cases hpc
    exact hfresh _ (by simp [St.fresh, St.controlFresh, hs']) rfl rfl rfl (by simp)
  | readFails hs' =>
    cases hpc
    exact hfresh _ (by simp [St.fresh, St.controlFresh, hs']) rfl rfl rfl (by simp)
  | restoreFails hs' =>
    cases hpc
    exact hfresh _ (by simp [St.fresh, St.controlFresh, hs']) rfl rfl rfl (by simp)
  | readShutdown hs' =>
    cases hpc
    exact hfresh _ (by simp [St.fresh, St.controlFresh, hs']) rfl rfl rfl (fun _ => rfl)
  | enqueueClosed hs' =>
    cases hpc
    exact hfresh _ (by simp [St.fresh, St.controlFresh, hs']) rfl rfl rfl (by simp [shuttingDown])
  | wakeFails hs' =>
    cases hpc
    have hreach := ha _ _ hs'
    have hn : NeverHandled s id :=
      ⟨(hs.inFlight _ (congrArg ControlPc.inFlight hs')).1,
        hs.toAnswered.not_handled_of_outOfReach hreach, fun _ => hreach.1⟩
    exact .inr ⟨by simp, by simp, hn.step h⟩
  | receive hs' hreply =>
    cases hpc
    have hmem : (id, reply) ∈ s.replies := by
      obtain ⟨pre, post, he, -⟩ := List.lookup_eq_some_iff.1 hreply
      simp [he]
    rcases hs.toAnswered.replies _ hmem with ⟨ho, request', hh⟩ | ⟨ho, hne, hn⟩
    · -- the handled request is the one the worker queued
      have he := (hs.inFlight _ (congrArg ControlPc.inFlight hs')).2 _
        (mem_requests_of_handled hh) rfl
      cases he
      exact .inl ⟨ho, _, rfl, hh⟩
    · exact .inr ⟨ho, fun hok => absurd hok hne, hn.step h⟩
  | receiveClosed hs' hreply hdead =>
    cases hpc
    have hui := hs.toAnswered.dropped hdead
    have hn : NeverHandled s id := by
      refine ⟨(hs.inFlight _ (congrArg ControlPc.inFlight hs')).1, ?_, ?_⟩
      · intro x hx he
        subst he
        have := hs.toAnswered.answered x hx
        simp [hreply] at this
      · simp [hui, UiPc.leftLoop]
    exact .inr ⟨by simp, by simp [shuttingDown], hn.step h⟩
  | respond => split at hpc <;> cases hpc
  | _ => simp at hpc

theorem Truthful.step_control {a : ControlAct} (hs : Truthful s)
    (ha : WakesTruthfully s (.control a)) (h : step J s (.control a) = some t) : Truthful t := by
  have ht := hs.toAnswered.tokens
  have hsent : ∀ e ∈ s.sent, TrueSent t e := fun e he => (hs.sent e he).step h
  refine ⟨hs.toAnswered.step h, ?_, fun _ _ _ _ hpc => hs.responding_step ha h hpc, ?_⟩
  · intro p hp
    cases controlStep_cases h with
    | enqueue hpc halive =>
      cases hp
      rename_i id request
      have hid : s.fresh .control = some id := by simp only [St.fresh, St.controlFresh, hpc]
      refine ⟨(step_moves h).retired_of_fresh ht hid rfl, fun q hq he => ?_⟩
      rcases List.mem_cons.1 (requests_queue_append.mem_iff.1 hq) with rfl | hq
      · rfl
      · exact absurd (mem_used.2 ⟨q, hq, he⟩) (ht.fresh_used .control _ hid)
    | wake hpc =>
      refine hs.inFlight_step h ?_
      rw [hpc]
      exact hp
    | report => dsimp only at hp; split at hp <;> cases hp
    | respond => dsimp only at hp; split at hp <;> cases hp
    | _ => simp [ControlPc.inFlight, ControlPc.reject] at hp
  · intro e he
    cases controlStep_cases h with
    | respond hpc =>
      rename_i id request reply stop written
      cases written with
      | false => exact hsent e he
      | true =>
        simp only [if_true, List.mem_append, List.mem_singleton] at he
        rcases he with he | rfl
        · exact hsent e he
        · exact (hs.responding _ _ _ _ hpc).step h
    | _ => exact hsent e he

/-- **Every written reply is true**, and stays so. -/
theorem Truthful.step {a : Act Handle} (hs : Truthful s) (ha : WakesTruthfully s a)
    (h : step J s a = some t) : Truthful t := by
  cases a with
  | control a => exact hs.step_control ha h
  | status a =>
    have hk := (statusStep_cases h).keeps
    exact hs.frame h hk.control hk.sent
  | ui a =>
    have hk := (uiStep_cases h).keeps
    exact hs.frame h hk.control hk.sent
  | client a =>
    have hk := (clientStep_cases h).keeps
    exact hs.frame h hk.control hk.sent

/-- **The reply tells the truth** in a run in which the control worker gives up waking the UI thread
only when the request is out of its reach: no request is handled twice; who is sent Ok had its
request handled, and it succeeded; who is sent an error that is not the handling's had its request
not handled, up to any later state. -/
theorem replies_truthful (controlClaim statusClaim : Bool) (app : Runtime.Application Handle)
    (as : List (Act Handle))
    (has : Along (step J) WakesTruthfully (.init controlClaim statusClaim app) as)
    (h : exec (step J) (.init controlClaim statusClaim app) as = some s) :
    (s.handled.map (·.id)).Nodup ∧
    (∀ e ∈ s.sent, e.reply.response = .ok → e.request ≠ some .shutdownServer →
      ∃ request, e.request = some request ∧ ⟨e.id, request, .ok⟩ ∈ s.handled) ∧
    (∀ e ∈ s.sent, e.reply.origin ≠ .handling → ∀ x ∈ s.handled, x.id ≠ e.id) := by
  have hs : Truthful s :=
    inv_of_along (fun _ _ _ hs ha h => hs.step ha h)
      (truthful_init controlClaim statusClaim app) has h
  refine ⟨hs.toAnswered.tokens.handled_nodup, fun e he hok hne => ?_, fun e he ho => ?_⟩
  · rcases hs.sent e he with ⟨-, request, hr, hh⟩ | ⟨-, hshut, -⟩
    · exact ⟨request, hr, hok ▸ hh⟩
    · exact absurd (hshut hok) hne
  · rcases hs.sent e he with ⟨ho', -⟩ | ⟨-, -, hn⟩
    · exact absurd ho' ho
    · exact hn.handled

/-- A control client asks for Block mode, and the worker queues its request. -/
def blockRequestRun : List (Act Unit) :=
  startupRun ++
    ([.control .connect, .client .openControl,
      .client (.writeControl
        ("\x7b\"command\":\"set_mode\",\"mode\":\"block\"\x7d\n".toUTF8.toList)),
      .control .accept, .control (.bound (.ok ())),
      .control (.read (.chunk "\x7b\"command\":\"set_mode\",\"mode\":\"block\"\x7d\n".toUTF8.toList)
        (.ok ())),
      .control .enqueue] : List (Act Unit))

/-- The request is handled, and the client is sent its acknowledgement. -/
def blockAppliedRun : List (Act Unit) :=
  blockRequestRun ++
    ([.control (.wake (.ok ())), .ui .take, .ui (.finish (.succeed ())), .control .receive,
      .control (.respond true)] : List (Act Unit))

theorem replies_truthful_block :
    ∃ s : St Unit, exec (step .sample) (.init true true idleApp) blockAppliedRun = some s ∧
      ⟨0, some (.setMode .block), ⟨.ok, .handling⟩⟩ ∈ s.sent ∧
      ⟨0, .setMode .block, .ok⟩ ∈ s.handled := by
  have hrun : (exec (step .sample) (.init true true idleApp) blockAppliedRun).any (fun s =>
      s.sent == [⟨0, some (.setMode .block), ⟨.ok, .handling⟩⟩]) = true := by decide +kernel
  obtain ⟨s, hs, hsent⟩ := Option.any_eq_true _ _ |>.1 hrun
  have hmem : ⟨0, some (.setMode .block), ⟨.ok, .handling⟩⟩ ∈ s.sent := by
    rw [beq_iff_eq.1 hsent]
    exact List.mem_singleton_self _
  obtain ⟨request, hr, hh⟩ := (replies_truthful (J := .sample) true true idleApp blockAppliedRun
    (by simp [blockAppliedRun, blockRequestRun, startupRun, Along, WakesTruthfully]) hs).2.1
      _ hmem rfl
      (by simp)
  cases hr
  exact ⟨s, hs, hmem, hh⟩

/-- The wake-up fails and the client is sent the failure; the request stays queued and is handled
with the next message of the UI thread. -/
def blockAfterErrorRun : List (Act Unit) :=
  blockRequestRun ++
    ([.control (.wake (.error "Not enough quota is available to process this command.")),
      .control (.respond true), .ui .take, .ui (.finish (.succeed ()))] : List (Act Unit))

/-- A client can be sent an error that is not the handling's and its request be handled after it. -/
theorem wake_failure_untruthful :
    ¬ ∀ (as : List (Act Unit)) (s : St Unit),
      exec (step .sample) (.init true true idleApp) as = some s →
        ∀ e ∈ s.sent, e.reply.origin ≠ .handling → ∀ x ∈ s.handled, x.id ≠ e.id := by
  intro h
  have hrun : (exec (step .sample) (.init true true idleApp) blockAfterErrorRun).any (fun s =>
      s.sent.map (fun e => (e.id, e.reply.origin)) == [(0, .worker)] &&
        s.handled == [⟨0, .setMode .block, .ok⟩]) = true := by decide +kernel
  obtain ⟨s, hs, hend⟩ := Option.any_eq_true _ _ |>.1 hrun
  simp only [Bool.and_eq_true, beq_iff_eq] at hend
  obtain ⟨hsent, hhandled⟩ := hend
  obtain ⟨e, he, hid⟩ : ∃ e ∈ s.sent, (e.id, e.reply.origin) = (0, .worker) :=
    List.mem_map.1 (hsent ▸ List.mem_singleton_self _)
  simp only [Prod.mk.injEq] at hid
  exact h _ s hs e he (by simp [hid.2]) ⟨0, .setMode .block, .ok⟩ (by simp [hhandled]) hid.1.symm

end Ipc
