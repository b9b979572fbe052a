import Mathlib.Data.List.Perm.Subperm
import Wardoff.Blocker.Proof.Workers
import Wardoff.Blocker.Trace

/-!
# Layer 2 leaves no trace session behind

* `traceRefinement`: the machine with the sessions refines the one of the threads, whose invariant
  (`SlotInv`) says that at most one thread has not finished.
* `Cared`: somebody is still to stop the session: a thread that has not come to it, or `deactivate`.
  `KeptSession` is what a step does to a session: its care is kept, or it is the one that a failed
  stop or a panic has lost (`kept_of_step`).
* `trace_sessions_bounded`: so besides the one at work there are no more sessions than failed stops
  and panics, and none is at work once `deactivate` has returned.
* `foreign_sessions_kept`: a session of another program is never stopped, not even one of the same
  name.
-/

namespace Blocker

open Machine Machine.Worker

variable {message : Win32Error → String} {s t : TraceSt} {name x : String} {sessions : List String}

/-! ## The calls -/

/-- Nothing but the session of the name is stopped, and nothing is started. -/
theorem mem_stopTraceSession {answer : Win32Error}
    (hx : x ∈ (stopTraceSession message answer name sessions).2) :
    x ∈ sessions ∧ (x = name → answer ≠ errorSuccess) := by
  simp only [stopTraceSession, controlTraceStop] at hx
  split at hx
  · rename_i hnone
    have hmem : x ∈ sessions := by split at hx <;> exact hx
    exact ⟨hmem, fun he => absurd (he ▸ hmem) hnone⟩
  · split at hx
    · have hfilter : x ∈ sessions.filter (· != name) := by split at hx <;> exact hx
      obtain ⟨hmem, hne⟩ := List.mem_filter.1 hfilter
      exact ⟨hmem, fun he => absurd he (by simpa using hne)⟩
    · rename_i hanswer
      have hmem : x ∈ sessions := by split at hx <;> exact hx
      exact ⟨hmem, fun _ => hanswer⟩

theorem mem_stopTraceSession_of_ne {answer : Win32Error} (hx : x ∈ sessions) (hne : x ≠ name) :
    x ∈ (stopTraceSession message answer name sessions).2 := by
  have hfilter : x ∈ sessions.filter (· != name) := List.mem_filter.2 ⟨hx, by simpa using hne⟩
  simp only [stopTraceSession, controlTraceStop]
  split <;> split <;> first | exact hx | (split <;> first | exact hx | exact hfilter)

theorem nodup_stopTraceSession {answer : Win32Error} (h : sessions.Nodup) :
    (stopTraceSession message answer name sessions).2.Nodup := by
  simp only [stopTraceSession, controlTraceStop]
  split <;> split <;> first | exact h | (split <;> first | exact h | exact h.filter _)

/-- What `start` can come to. -/
inductive Started (message : Win32Error → String) (o : StartCalls) (name : String)
    (sessions : List String) :
    Except String Unit × List String → Prop where
  | fails (error : String) : Started message o name sessions (.error error, sessions)
  /-- A call after `StartTraceW` fails. -/
  | stops (hnew : name ∉ sessions) (error : String) :
    Started message o name sessions
      (.error error, (stopTraceSession message o.stop name (name :: sessions)).2)
  | starts (hnew : name ∉ sessions) : Started message o name sessions (.ok (), name :: sessions)

theorem start_cases (o : StartCalls) (name : String) (sessions : List String) :
    Started message o name sessions (LocalTraceSubscription.start message o name sessions) := by
  unfold LocalTraceSubscription.start startTraceW
  by_cases hmem : name ∈ sessions
  · rw [if_pos hmem]
    exact .fails _
  · rw [if_neg hmem]
    by_cases hstart : o.startTrace = errorSuccess
    · rw [if_pos hstart]
      dsimp only
      rw [if_neg (by decide)]
      split
      · exact .stops hmem _
      · split
        · exact .stops hmem _
        · exact .starts hmem
    · rw [if_neg hstart]
      dsimp only
      rw [if_pos hstart]
      exact .fails _

section
variable {o : StartCalls} {r : Except String Unit × List String}
    (h : Started message o name sessions r)
include h

/-- A session that is there now was there, or is the new one, which `start` could start or not stop
again. -/
theorem Started.mem (hx : x ∈ r.2) :
    x ∈ sessions ∨ (x = name ∧ (r.1 = .ok () ∨ o.stop ≠ errorSuccess)) := by
  cases h with
  | fails => exact .inl hx
  | stops =>
    obtain ⟨hmem, hstop⟩ := mem_stopTraceSession hx
    rcases List.mem_cons.1 hmem with he | hmem
    · exact .inr ⟨he, .inr (hstop he)⟩
    · exact .inl hmem
  | starts =>
    rcases List.mem_cons.1 hx with he | hmem
    · exact .inr ⟨he, .inl rfl⟩
    · exact .inl hmem

theorem Started.mem_of_mem (hx : x ∈ sessions) : x ∈ r.2 := by
  cases h with
  | fails => exact hx
  | stops hnew =>
    refine mem_stopTraceSession_of_ne (List.mem_cons_of_mem _ hx) ?_
    rintro rfl
    exact hnew hx
  | starts => exact List.mem_cons_of_mem _ hx

/-- A session that was there is not the one that is started. -/
theorem Started.ne_of_mem (hr : r.1 = .ok ()) (hx : x ∈ sessions) : x ≠ name := by
  cases h with
  | starts hnew =>
    rintro rfl
    exact hnew hx
  | _ => cases hr

theorem Started.nodup (hs : sessions.Nodup) : r.2.Nodup := by
  cases h with
  | fails => exact hs
  | stops hnew => exact nodup_stopTraceSession (List.nodup_cons.2 ⟨hnew, hs⟩)
  | starts hnew => exact List.nodup_cons.2 ⟨hnew, hs⟩

end

/-! ## The threads -/

/-- The thread has yet to stop its session. -/
def LocalPc.willStop : LocalPc → Bool
  | .starting => true
  | .abandoning => true
  | .activating => true
  | .tracing => true
  | .closing => true
  | .stopping => true
  | .leaving => false
  | .unwinding => false
  | .finished => false

/-- `deactivate` has yet to stop the session. -/
def LocalControllerPc.willStop : LocalControllerPc → Bool
  | .clearing => true
  | .stopping => true
  | _ => false

section
variable {w u : LocalSt} {i : Nat} {thread : LocalThread}

/-- What a step of a thread does to it. -/
theorem localThreadStep_willStop {a : LocalThreadAct} (h : localThreadStep w i thread a = some u) :
    ∃ pc, u.threads = w.threads.set i { thread with pc } ∧ u.controller = w.controller ∧
      u.handles.length = w.handles.length ∧
      (thread.pc.willStop = true → pc.willStop = true ∨ a = .stopSession ∨ a = .panic) := by
  cases a with
  | stopSession =>
    simp only [localThreadStep] at h
    split at h <;> cases h <;> exact ⟨_, rfl, rfl, rfl, fun _ => .inr (.inl rfl)⟩
  | panic =>
    obtain ⟨pc, -, rfl⟩ := Option.map_eq_some_iff.1 h
    exact ⟨pc, rfl, rfl, rfl, fun _ => .inr (.inr rfl)⟩
  | readHandle =>
    simp only [localThreadStep] at h
    split at h <;> cases h
    refine ⟨_, rfl, rfl, rfl, fun _ => .inl ?_⟩
    split <;> rfl
  | close =>
    simp only [localThreadStep] at h
    split at h <;> cases h
    exact ⟨_, rfl, rfl, by simp [LocalSt.goto], fun _ => .inl rfl⟩
  | dropGuard =>
    simp only [localThreadStep] at h
    split at h <;> cases h <;> exact ⟨_, rfl, rfl, rfl, fun hstop => by simp_all [LocalPc.willStop]⟩
  | _ =>
    simp only [localThreadStep] at h
    split at h <;> cases h
    exact ⟨_, rfl, rfl, rfl, fun _ => .inl rfl⟩

/-- What a step of `deactivate` does to the threads. -/
theorem localControllerStep_willStop {a : LocalControllerAct} (ha : ∀ o, a ≠ .activate o)
    (h : localControllerStep w a = some u) :
    u.threads = w.threads ∧ u.handles.length = w.handles.length ∧
      (w.controller.willStop = true → u.controller.willStop = true ∨ a = .stopSession) := by
  cases a with
  | activate o => exact absurd rfl (ha o)
  | deactivate finished =>
    simp only [localControllerStep] at h
    split at h
    · rename_i hidle
      split_ifs at h <;> cases h <;>
        exact ⟨rfl, rfl, fun hstop => by simp [hidle, LocalControllerPc.willStop] at hstop⟩
    · cases h
  | clear =>
    simp only [localControllerStep] at h
    split at h <;> cases h
    exact ⟨rfl, rfl, fun _ => .inl rfl⟩
  | stopSession =>
    simp only [localControllerStep] at h
    split at h <;> cases h
    exact ⟨rfl, rfl, fun _ => .inr rfl⟩
  | cancel =>
    simp only [localControllerStep] at h
    split at h <;> cases h
    rename_i hpc _
    exact ⟨rfl, by simp, fun hstop => by simp [hpc, LocalControllerPc.willStop] at hstop⟩
  | join =>
    simp only [localControllerStep] at h
    split at h
    · rename_i hpc
      split_ifs at h
      cases h
      exact ⟨rfl, rfl, fun hstop => by simp [hpc, LocalControllerPc.willStop] at hstop⟩
    · cases h

/-- The threads keep their traces. -/
theorem map_handle_set {pc : LocalPc} (hi : w.threads[i]? = some thread) :
    (w.threads.set i { thread with pc }).map (·.handle) = w.threads.map (·.handle) := by
  obtain ⟨hlt, rfl⟩ := List.getElem?_eq_some_iff.1 hi
  rw [List.map_set]
  apply List.ext_getElem
  · simp
  · intro j hj hj'
    rw [List.getElem_set]
    split
    · rename_i he
      subst he
      simp
    · rfl

end

/-! ## What a step can do -/

/-- What `activate` does to the sessions and the threads. -/
inductive Activated (message : Win32Error → String) (s : TraceSt) (o : ActivateCalls)
    (t : TraceSt) : Prop where
  | nothing (hthreads : t.workers.threads = s.workers.threads)
      (hhandles : t.workers.handles.length = s.workers.handles.length) (hnames : t.names = s.names)
      (hsessions : t.sessions = s.sessions)
  | fails {error : String} {sessions : List String}
      (hstart : Started message o.start o.sessionName s.sessions (.error error, sessions))
      (hthreads : t.workers.threads = s.workers.threads)
      (hhandles : t.workers.handles.length = s.workers.handles.length) (hnames : t.names = s.names)
      (hsessions : t.sessions = sessions)
  | starts {sessions : List String}
      (hstart : Started message o.start o.sessionName s.sessions (.ok (), sessions))
      (hthreads : t.workers.threads = s.workers.threads ++ [{ handle := s.workers.handles.length }])
      (hhandles : t.workers.handles.length = s.workers.handles.length + 1)
      (hnames : t.names = s.names ++ [o.sessionName]) (hsessions : t.sessions = sessions)
  | cleansUp {sessions : List String}
      (hstart : Started message o.start o.sessionName s.sessions (.ok (), sessions))
      (hthreads : t.workers.threads = s.workers.threads)
      (hhandles : t.workers.handles.length = s.workers.handles.length + 1)
      (hnames : t.names = s.names ++ [o.sessionName])
      (hsessions : t.sessions = (stopTraceSession message o.cleanup o.sessionName sessions).2)

theorem activated_cases {o : ActivateCalls} {workers : LocalSt}
    (h : localStep s.workers (.controller (.activate (o.localCalls message s.sessions))) =
      some workers) :
    s.workers.controller = .idle ∧ Activated message s o (s.activated message o workers) := by
  simp only [localStep, localControllerStep] at h
  split at h
  · rename_i hidle
    split_ifs at h
    cases h
    have hstart : Started message _ _ _ _ := start_cases o.start o.sessionName s.sessions
    refine ⟨hidle, ?_⟩
    by_cases hheld : (s.workers.layer.cleanupFinishedWorker o.finished).worker.isSome = true
    · simp only [TraceSt.activated, LocalSt.activated, ActivateCalls.localCalls, hheld, if_true]
      exact .nothing rfl rfl rfl rfl
    · simp only [TraceSt.activated, LocalSt.activated, ActivateCalls.localCalls, hheld]
      generalize LocalTraceSubscription.start message o.start o.sessionName s.sessions = r at hstart
      obtain ⟨subscription, sessions⟩ := r
      cases o.preflight with
      | available =>
        cases subscription with
        | error error => exact .fails hstart rfl rfl rfl rfl
        | ok _ =>
          cases o.spawn with
          | ok _ => exact .starts hstart rfl (by simp) rfl rfl
          | error error => exact .cleansUp hstart rfl (by simp) rfl rfl
      | accessDenied details => exact .nothing rfl rfl rfl rfl
      | failed details => exact .nothing rfl rfl rfl rfl
  · cases h

@[simp] theorem activated_workers (o : ActivateCalls) (workers : LocalSt) :
    (s.activated message o workers).workers = workers := by
  unfold TraceSt.activated
  split
  · rfl
  · split
    · dsimp only
      split <;> rfl
    · rfl

/-- The transitions of the machine with the sessions. -/
inductive TraceStep (message : Win32Error → String) (s : TraceSt) : TraceAct → TraceSt → Prop where
  | activate {o : ActivateCalls} {workers : LocalSt}
      (h : localStep s.workers (.controller (.activate (o.localCalls message s.sessions))) =
        some workers) :
    TraceStep message s (.activate o) (s.activated message o workers)
  | controller {a : LocalControllerAct} {stop : Win32Error} {workers : LocalSt}
      (hactivate : ∀ o, a ≠ .activate o) (hstop : a ≠ .stopSession)
      (h : localControllerStep s.workers a = some workers) :
    TraceStep message s (.controller a stop) { s with workers }
  | controllerStops {stop : Win32Error} {workers : LocalSt}
      (h : localControllerStep s.workers .stopSession = some workers) :
    TraceStep message s (.controller .stopSession stop)
      { s.stopTrace message stop s.workers.lastTrace with workers }
  | thread {i : Nat} {thread : LocalThread} {a : LocalThreadAct} {stop : Win32Error}
      {workers : LocalSt}
      (hi : s.workers.threads[i]? = some thread) (hstop : a ≠ .stopSession)
      (h : localThreadStep s.workers i thread a = some workers) :
    TraceStep message s (.thread i a stop) { s with workers }
  | threadStops {i : Nat} {thread : LocalThread} {stop : Win32Error} {workers : LocalSt}
      (hi : s.workers.threads[i]? = some thread)
      (h : localThreadStep s.workers i thread .stopSession = some workers) :
    TraceStep message s (.thread i .stopSession stop)
      { s.stopTrace message stop (some thread.handle) with workers }
  | sessionEnds {name : String} :
    TraceStep message s (.sessionEnds name) { s with sessions := s.sessions.filter (· != name) }

theorem localStep_thread {w u : LocalSt} {i : Nat} {a : LocalThreadAct}
    (h : localStep w (.thread i a) = some u) :
    ∃ thread, w.threads[i]? = some thread ∧ localThreadStep w i thread a = some u := by
  simp only [localStep] at h
  split at h
  · exact ⟨_, ‹_›, h⟩
  · cases h

theorem traceStep_cases {a : TraceAct} (h : traceStep message s a = some t) :
    TraceStep message s a t := by
  cases a with
  | activate o =>
    obtain ⟨workers, hworkers, rfl⟩ := Option.map_eq_some_iff.1 h
    exact .activate hworkers
  | controller a stop =>
    cases a with
    | activate o => cases h
    | stopSession =>
      obtain ⟨workers, hworkers, rfl⟩ := Option.map_eq_some_iff.1 h
      exact .controllerStops hworkers
    | _ =>
      obtain ⟨workers, hworkers, rfl⟩ := Option.map_eq_some_iff.1 h
      exact .controller (by simp) (by simp) hworkers
  | thread i a stop =>
    cases a with
    | stopSession =>
      obtain ⟨workers, hworkers, rfl⟩ := Option.map_eq_some_iff.1 h
      obtain ⟨thread, hi, hthread⟩ := localStep_thread hworkers
      rw [hi]
      exact .threadStops hi hthread
    | _ =>
      obtain ⟨workers, hworkers, rfl⟩ := Option.map_eq_some_iff.1 h
      obtain ⟨thread, hi, hthread⟩ := localStep_thread hworkers
      exact .thread hi (by simp) hthread
  | sessionEnds name =>
    cases h
    exact .sessionEnds

/-- The machine with the sessions is one of the threads. -/
def traceRefinement (message : Win32Error → String) : Refinement (traceStep message) localStep where
  abs := TraceSt.workers
  emit s
    | .activate o => [.controller (.activate (o.localCalls message s.sessions))]
    | .controller a _ => [.controller a]
    | .thread i a _ => [.thread i a]
    | .sessionEnds _ => []
  matched h := by
    cases traceStep_cases h with
    | activate hworkers => simpa [exec] using hworkers
    | controller _ _ hworkers => simpa [exec, localStep] using hworkers
    | controllerStops hworkers => simpa [exec, localStep] using hworkers
    | thread hi _ hworkers => simpa [exec, localStep, hi] using hworkers
    | threadStops hi hworkers => simpa [exec, localStep, hi] using hworkers
    | sessionEnds => rfl

/-- At most one thread has not finished, and it is the one in the slot or the one being joined. -/
theorem slotInv_of_trace {others : List String} {as : List TraceAct}
    (h : exec (traceStep message) { sessions := others } as = some s) : SlotInv s.workers.view := by
  have hlocal : exec localStep {} _ = some s.workers := (traceRefinement message).exec h
  have hinv :=
    inv_of_view (R := fun _ => True) (fun s a t _ h => ⟨trivial, localStep_view h⟩) trivial
    LocalSt.slotInv_init hlocal
  exact hinv.2

/-! ## Whose session it is -/

/-- Every trace has the name of its session. -/
def Named (s : TraceSt) : Prop := s.names.length = s.workers.handles.length

/-- Somebody is still to stop the session. -/
inductive Cared (s : TraceSt) (name : String) : Prop where
  | thread {i : Nat} {thread : LocalThread} (hi : s.workers.threads[i]? = some thread)
      (hpc : thread.pc.willStop = true) (hname : s.names[thread.handle]? = some name)
  | controller {trace : Nat} (hpc : s.workers.controller.willStop = true)
      (htrace : s.workers.lastTrace = some trace) (hname : s.names[trace]? = some name)

/-- The step is a failed stop or a panic, or may be a failed stop. -/
def TraceAct.refused : TraceAct → Bool
  | .activate o => o.start.stop != errorSuccess || o.cleanup != errorSuccess
  | .controller .stopSession stop => stop != errorSuccess
  | .thread _ .stopSession stop => stop != errorSuccess
  | .thread _ .panic _ => true
  | _ => false

/-- What a step does to a session that is there after it: its care is kept, or it has somebody who
cares for it, or it is the one the step has lost. -/
inductive KeptSession (s t : TraceSt) (refused : Bool) (lost : Option String) (name : String) :
    Prop where
  | care (hmem : name ∈ s.sessions) (hcare : Cared s name → Cared t name)
  | new (hcare : Cared t name)
  | lost (hlost : lost = some name) (hrefused : refused = true)

theorem stopTrace_names {answer : Win32Error} {trace : Option Nat} :
    (s.stopTrace message answer trace).names = s.names := by
  unfold TraceSt.stopTrace
  split <;> rfl

/-- The stop of one trace. -/
theorem mem_stopTrace {answer : Win32Error} {trace : Option Nat}
    (hx : x ∈ (s.stopTrace message answer trace).sessions) :
    x ∈ s.sessions ∧
    ((trace.bind fun trace => s.names[trace]?) = some x → answer ≠ errorSuccess) := by
  unfold TraceSt.stopTrace at hx
  split at hx
  · rename_i name hname
    obtain ⟨hmem, hstop⟩ := mem_stopTraceSession hx
    refine ⟨hmem, fun he => hstop ?_⟩
    rw [hname] at he
    exact (Option.some.inj he).symm
  · rename_i hnone
    refine ⟨hx, fun he => ?_⟩
    rw [hnone] at he
    cases he

/-- A thread that changes its stage keeps its care, unless it is past its stop then. -/
theorem Cared.set {i : Nat} {thread : LocalThread} {pc : LocalPc} (h : Cared s x)
    (hi : s.workers.threads[i]? = some thread)
    (hthreads : t.workers.threads = s.workers.threads.set i { thread with pc })
    (hcontroller : t.workers.controller = s.workers.controller) (hnames : t.names = s.names) :
    Cared t x ∨ (s.names[thread.handle]? = some x ∧ thread.pc.willStop = true ∧
      pc.willStop = false) := by
  cases h with
  | @thread j other hj hpc hname =>
    by_cases hij : i = j
    · subst hij
      cases hi.symm.trans hj
      by_cases hwill : pc.willStop = true
      · refine .inl (@Cared.thread _ _ i { thread with pc } ?_ hwill (hnames ▸ hname))
        rw [hthreads, List.getElem?_set_self (List.getElem?_eq_some_iff.1 hi).1]
      · exact .inr ⟨hname, hpc, eq_false_of_ne_true hwill⟩
    · refine .inl (.thread (i := j) ?_ hpc (hnames ▸ hname))
      rw [hthreads, List.getElem?_set_ne hij, hj]
  | controller hpc htrace hname =>
    refine .inl (.controller (hcontroller ▸ hpc) ?_ (hnames ▸ hname))
    rw [LocalSt.lastTrace, hthreads, map_handle_set hi]
    exact htrace

/-- Where the threads are the same, only what `deactivate` does counts. -/
theorem Cared.same (h : Cared s x) (hthreads : t.workers.threads = s.workers.threads)
    (hnames : t.names = s.names) :
    Cared t x ∨ (s.workers.controller.willStop = true ∧
      (s.workers.lastTrace.bind fun trace => s.names[trace]?) = some x ∧
      (t.workers.controller.willStop = true → Cared t x)) := by
  cases h with
  | thread hi hpc hname => exact .inl (.thread (hthreads ▸ hi) hpc (hnames ▸ hname))
  | @controller trace hpc htrace hname =>
    have htrace' : t.workers.lastTrace = some trace := by
      rw [LocalSt.lastTrace, hthreads]
      exact htrace
    refine .inr ⟨hpc, ?_, fun hwill => .controller hwill htrace' (hnames ▸ hname)⟩
    rw [htrace]
    exact hname

/-- More traces change nothing for those there are. -/
theorem Cared.more (h : Cared s x) (hidle : s.workers.controller = .idle) {new : List LocalThread}
    {names : List String} (hthreads : t.workers.threads = s.workers.threads ++ new)
    (hnames : t.names = s.names ++ names) : Cared t x := by
  cases h with
  | @thread i thread hi hpc hname =>
    refine .thread (i := i) ?_ hpc ?_
    · rw [hthreads, List.getElem?_append_left (List.getElem?_eq_some_iff.1 hi).1, hi]
    · rw [hnames, List.getElem?_append_left (List.getElem?_eq_some_iff.1 hname).1, hname]
  | controller hpc =>
    rw [hidle] at hpc
    cases hpc

theorem Activated.kept {o : ActivateCalls} (h : Activated message s o t) (hs : Named s)
    (hidle : s.workers.controller = .idle) (hx : x ∈ t.sessions) :
    KeptSession s t (TraceAct.activate o).refused (some o.sessionName) x := by
  -- a session that was there keeps its care, whatever is added
  have hcare : ∀ new names, t.workers.threads = s.workers.threads ++ new →
    t.names = s.names ++ names →
      Cared s x → Cared t x := fun new names hthreads hnames h => h.more hidle hthreads hnames
  cases h with
  | nothing hthreads hhandles hnames hsessions =>
    exact .care (hsessions ▸ hx)
      (hcare [] [] (by rw [hthreads, List.append_nil]) (by rw [hnames, List.append_nil]))
  | fails hstart hthreads hhandles hnames hsessions =>
    rcases hstart.mem (hsessions ▸ hx) with hmem | ⟨rfl, hok | hstop⟩
    · exact .care hmem
        (hcare [] [] (by rw [hthreads, List.append_nil]) (by rw [hnames, List.append_nil]))
    · cases hok
    · exact .lost rfl (by simp [TraceAct.refused, hstop])
  | starts hstart hthreads hhandles hnames hsessions =>
    rcases hstart.mem (hsessions ▸ hx) with hmem | ⟨rfl, -⟩
    · exact .care hmem (hcare _ _ hthreads hnames)
    · refine .new
        (@Cared.thread _ _ s.workers.threads.length { handle := s.workers.handles.length }
          ?_ rfl ?_)
      · rw [hthreads, List.getElem?_concat_length]
      · rw [hnames, ← show s.names.length = _ from hs, List.getElem?_concat_length]
  | cleansUp hstart hthreads hhandles hnames hsessions =>
    obtain ⟨hmem, hstop⟩ := mem_stopTraceSession (hsessions ▸ hx)
    rcases hstart.mem hmem with hmem | ⟨rfl, -⟩
    · exact .care hmem (hcare [] _ (by rw [hthreads, List.append_nil]) hnames)
    · exact .lost rfl (by simp [TraceAct.refused, hstop rfl])

/-- Who loses his care is the one that the step stops or abandons. -/
theorem KeptSession.of_lost {refused : Bool} {lost : Option String} (hmem : x ∈ s.sessions)
    (hrefused : lost = some x → refused = true) (hcare : Cared s x → Cared t x ∨ lost = some x) :
    KeptSession s t refused lost x := by
  by_cases hlost : lost = some x
  · exact .lost hlost (hrefused hlost)
  · exact .care hmem fun h => (hcare h).resolve_right hlost

/-- A step loses at most one session, and only if it is a failed stop or a panic. -/
theorem kept_of_step {a : TraceAct} (hs : Named s) (h : traceStep message s a = some t) :
    ∃ lost, ∀ x ∈ t.sessions, KeptSession s t a.refused lost x := by
  cases traceStep_cases h with
  | activate hworkers =>
    obtain ⟨hidle, hactivated⟩ := activated_cases hworkers
    exact ⟨_, fun x hx => hactivated.kept hs hidle hx⟩
  | controller hactivate hstop hworkers =>
    obtain ⟨hthreads, -, hwill⟩ := localControllerStep_willStop hactivate hworkers
    refine ⟨none, fun x hx => .care hx fun hcare => ?_⟩
    rcases hcare.same (t := { s with workers := _ }) hthreads rfl with hcare | ⟨hpc, -, hcare⟩
    · exact hcare
    · exact hcare ((hwill hpc).resolve_right hstop)
  | @controllerStops stop workers hworkers =>
    obtain ⟨hthreads, -, -⟩ := localControllerStep_willStop (by simp) hworkers
    refine ⟨s.workers.lastTrace.bind fun trace => s.names[trace]?, fun x hx => ?_⟩
    obtain ⟨hmem, hrefused⟩ := mem_stopTrace hx
    refine .of_lost hmem (fun hname => by simpa [TraceAct.refused] using hrefused hname)
      fun hcare => ?_
    rcases hcare.same (t := { s.stopTrace message stop s.workers.lastTrace with workers }) hthreads
      stopTrace_names with hcare | ⟨-, hname, -⟩
    · exact .inl hcare
    · exact .inr hname
  | @thread i thread a stop workers hi hstop hworkers =>
    obtain ⟨pc, hthreads, hcontroller, -, hwill⟩ := localThreadStep_willStop hworkers
    have hset : ∀ x, Cared s x → Cared { s with workers } x ∨
        (s.names[thread.handle]? = some x ∧ thread.pc.willStop = true ∧ pc.willStop = false) :=
      fun x hcare => hcare.set (t := { s with workers }) hi hthreads hcontroller rfl
    refine ⟨s.names[thread.handle]?, fun x hx => ?_⟩
    by_cases hpanic : a = .panic
    · exact .of_lost hx (fun _ => by rw [hpanic]; rfl) fun hcare =>
        (hset x hcare).imp_right And.left
    · refine .care hx fun hcare => ?_
      rcases hset x hcare with hcare | ⟨-, hpc, hpast⟩
      · exact hcare
      · rcases hwill hpc with hpc | he | he
        · rw [hpast] at hpc
          cases hpc
        · exact absurd he hstop
        · exact absurd he hpanic
  | @threadStops i thread stop workers hi hworkers =>
    obtain ⟨pc, hthreads, hcontroller, -, -⟩ := localThreadStep_willStop hworkers
    refine ⟨s.names[thread.handle]?, fun x hx => ?_⟩
    obtain ⟨hmem, hrefused⟩ := mem_stopTrace hx
    refine .of_lost hmem (fun hname => by simpa [TraceAct.refused] using hrefused hname)
      fun hcare => ?_
    rcases hcare.set (t := { s.stopTrace message stop (some thread.handle) with workers }) hi
      hthreads hcontroller
      stopTrace_names with hcare | ⟨hname, -⟩
    · exact .inl hcare
    · exact .inr hname
  | sessionEnds =>
    refine ⟨none, fun x hx => .care (List.mem_filter.1 hx).1 fun hcare => ?_⟩
    cases hcare with
    | thread hi hpc hname => exact .thread hi hpc hname
    | controller hpc htrace hname => exact .controller hpc htrace hname

/-! ## Runs -/

theorem Named.of_eq (hs : Named s) (hhandles : t.workers.handles.length = s.workers.handles.length)
    (hnames : t.names = s.names) : Named t := by
  unfold Named
  rw [hnames, hhandles]
  exact hs

/-- A trace is opened. -/
theorem Named.opened (hs : Named s)
    (hhandles : t.workers.handles.length = s.workers.handles.length + 1)
    (hnames : t.names = s.names ++ [name]) : Named t := by
  unfold Named
  rw [hnames, hhandles, List.length_append, show s.names.length = _ from hs]
  rfl

theorem Named.step {a : TraceAct} (hs : Named s) (h : traceStep message s a = some t) :
    Named t := by
  cases traceStep_cases h with
  | activate hworkers =>
    obtain ⟨-, hactivated⟩ := activated_cases hworkers
    cases hactivated with
    | nothing hthreads hhandles hnames => exact hs.of_eq hhandles hnames
    | fails hstart hthreads hhandles hnames => exact hs.of_eq hhandles hnames
    | starts hstart hthreads hhandles hnames => exact hs.opened hhandles hnames
    | cleansUp hstart hthreads hhandles hnames => exact hs.opened hhandles hnames
  | controller hactivate hstop hworkers =>
    obtain ⟨-, hhandles, -⟩ := localControllerStep_willStop hactivate hworkers
    exact hs.of_eq hhandles rfl
  | controllerStops hworkers =>
    obtain ⟨-, hhandles, -⟩ := localControllerStep_willStop (by simp) hworkers
    exact hs.of_eq hhandles stopTrace_names
  | thread hi hstop hworkers =>
    obtain ⟨pc, -, -, hhandles, -⟩ := localThreadStep_willStop hworkers
    exact hs.of_eq hhandles rfl
  | threadStops hi hworkers =>
    obtain ⟨pc, -, -, hhandles, -⟩ := localThreadStep_willStop hworkers
    exact hs.of_eq hhandles stopTrace_names
  | sessionEnds => exact hs.of_eq rfl rfl

theorem nodup_stopTrace {answer : Win32Error} {trace : Option Nat} (hs : s.sessions.Nodup) :
    (s.stopTrace message answer trace).sessions.Nodup := by
  unfold TraceSt.stopTrace
  split
  · exact nodup_stopTraceSession hs
  · exact hs

/-- No two sessions have one name. -/
theorem nodup_of_step {a : TraceAct} (hs : s.sessions.Nodup) (h : traceStep message s a = some t) :
    t.sessions.Nodup := by
  cases traceStep_cases h with
  | activate hworkers =>
    obtain ⟨-, hactivated⟩ := activated_cases hworkers
    cases hactivated with
    | nothing hthreads hhandles hnames hsessions => exact hsessions ▸ hs
    | fails hstart hthreads hhandles hnames hsessions => exact hsessions ▸ hstart.nodup hs
    | starts hstart hthreads hhandles hnames hsessions => exact hsessions ▸ hstart.nodup hs
    | cleansUp hstart hthreads hhandles hnames hsessions =>
      exact hsessions ▸ nodup_stopTraceSession (hstart.nodup hs)
  | controller => exact hs
  | controllerStops => exact nodup_stopTrace hs
  | thread => exact hs
  | threadStops => exact nodup_stopTrace hs
  | sessionEnds => exact hs.filter _

/-- With at most `n` sessions lost, the others are cared for. -/
def Accounted (s : TraceSt) (n : Nat) : Prop :=
  Named s ∧ s.sessions.Nodup ∧ ∃ lost : List String, lost.length ≤ n ∧ ∀ x ∈ s.sessions,
    Cared s x ∨ x ∈ lost

theorem Accounted.step {a : TraceAct} {n : Nat} (hs : Accounted s n)
    (h : traceStep message s a = some t) :
    Accounted t (n + if a.refused then 1 else 0) := by
  obtain ⟨hnamed, hnodup, lost, hlength, hsessions⟩ := hs
  obtain ⟨name, hkept⟩ := kept_of_step hnamed h
  refine ⟨hnamed.step h, nodup_of_step hnodup h, ?_⟩
  refine ⟨(if a.refused then name.toList else []) ++ lost, ?_, fun x hx => ?_⟩
  · have hname : name.toList.length ≤ 1 := by cases name <;> simp
    rw [List.length_append]
    split
    · omega
    · rw [List.length_nil]
      omega
  · cases hkept x hx with
    | care hmem hcare =>
      rcases hsessions x hmem with hcared | hlost
      · exact .inl (hcare hcared)
      · exact .inr (List.mem_append_right _ hlost)
    | new hcare => exact .inl hcare
    | lost hlost hrefused => exact .inr (List.mem_append_left _ (by simp [hrefused, hlost]))

/-- There is only one session that anybody cares for. -/
theorem Cared.last (h : Cared s x) (hinv : SlotInv s.workers.view) :
    (s.workers.lastTrace.bind fun trace => s.names[trace]?) = some x := by
  cases h with
  | @thread i thread hi hpc hname =>
    have hstage : s.workers.view.stages[i]? = some thread.pc.stage := by simp [LocalSt.view, hi]
    have halive : thread.pc.stage ≠ .finished := by
      cases hthread : thread.pc <;> simp_all [LocalPc.stage, LocalPc.willStop]
    have hlast : i = s.workers.threads.length - 1 := by
      rcases hinv.held i _ hstage halive with hslot | hleaving
      · simp only [LocalSt.view] at hslot
        split at hslot <;> cases hslot
        rfl
      · simp only [LocalSt.view] at hleaving
        split at hleaving <;> cases hleaving
        rfl
    have htrace : s.workers.lastTrace = some thread.handle := by
      rw [LocalSt.lastTrace, List.getLast?_eq_getElem?, List.getElem?_map, List.length_map,
        ← hlast, hi]
      rfl
    rw [htrace]
    exact hname
  | controller hpc htrace hname =>
    rw [htrace]
    exact hname

/-- Once `deactivate` has returned, nobody cares for any. -/
theorem not_cared_of_deactivated (hinv : SlotInv s.workers.view)
    (h : s.workers.deactivated = true) : ¬ Cared s x := by
  obtain ⟨hslot, hleaving⟩ := hinv.stopped h
  intro hcared
  cases hcared with
  | @thread i thread hi hpc hname =>
    have hstage : s.workers.view.stages[i]? = some thread.pc.stage := by simp [LocalSt.view, hi]
    have hfinished := hinv.finished hslot hleaving hstage
    cases hthread : thread.pc <;> simp_all [LocalPc.stage, LocalPc.willStop]
  | controller hpc htrace hname =>
    simp only [LocalSt.view] at hleaving
    split at hleaving
    · rename_i hidle
      rw [hidle] at hpc
      cases hpc
    · cases hleaving

/-- **Layer 2 leaves no session behind.** In every run, whatever fails and whoever panics: besides
the sessions that were there before, Windows has at most one more than there were failed stops and
panics, and not even that one once `deactivate` has returned. -/
theorem trace_sessions_bounded {others : List String} (hothers : others.Nodup) {as : List TraceAct}
    (h : exec (traceStep message) { sessions := others } as = some s) :
    s.sessions.length ≤ others.length + as.countP TraceAct.refused + 1 ∧
      (s.workers.deactivated = true →
        s.sessions.length ≤ others.length + as.countP TraceAct.refused) := by
  have hinit : Accounted { sessions := others } others.length :=
    ⟨rfl, hothers, others, Nat.le_refl _, fun x hx => .inr hx⟩
  have haccounted : Accounted s (others.length + 1 * as.countP TraceAct.refused) :=
    budget_of_along (P := fun _ _ => True) (fun s a t n hs _ hstep => hs.step hstep) hinit
      (along_of_mem fun _ _ _ => trivial) h
  rw [Nat.one_mul] at haccounted
  obtain ⟨-, hnodup, lost, hlength, hsessions⟩ := haccounted
  have hinv := slotInv_of_trace h
  refine ⟨?_, fun hdeactivated => ?_⟩
  · have hsub : s.sessions ⊆ (s.workers.lastTrace.bind fun trace => s.names[trace]?).toList ++
      lost := by
      intro x hx
      rcases hsessions x hx with hcared | hlost
      · exact List.mem_append_left _ (by simp [hcared.last hinv])
      · exact List.mem_append_right _ hlost
    have hle := (hnodup.subperm hsub).length_le
    have hone : (s.workers.lastTrace.bind fun trace => s.names[trace]?).toList.length ≤ 1 := by
      cases s.workers.lastTrace.bind fun trace => s.names[trace]? <;> simp
    rw [List.length_append] at hle
    omega
  · have hsub : s.sessions ⊆ lost := fun x hx =>
      (hsessions x hx).resolve_left (not_cared_of_deactivated hinv hdeactivated)
    have hle := (hnodup.subperm hsub).length_le
    omega

/-- Layer 2 is activated besides the session of another program, sees the end of its own when it is
deactivated, and comes too late to stop it itself. -/
def stoppedTraceRun : List TraceAct :=
  [.activate
      { finished := false, preflight := .available, sessionName := "Wardoff-Layer2-Local-4242-0",
        start := { startTrace := errorSuccess, enable := errorSuccess, openTrace := .ok (),
                   stop := errorSuccess },
        spawn := .ok (), cleanup := errorSuccess },
    .thread 0 .readHandle errorSuccess, .thread 0 .activate errorSuccess,
    .controller (.deactivate false) errorSuccess, .controller .clear errorSuccess,
    .controller .stopSession errorSuccess, .thread 0 .traceEnds errorSuccess,
    .controller .cancel errorSuccess,
    .thread 0 .close errorSuccess, .thread 0 .stopSession errorSuccess,
    .thread 0 .dropGuard errorSuccess, .controller .join errorSuccess]

theorem stoppedTraceRun_bounded :
    ∃ s,
      exec (traceStep fun _ => "") { sessions := ["NT Kernel Logger"] } stoppedTraceRun = some s ∧
      s.workers.deactivated = true ∧ s.sessions.length ≤ 1 := by
  have hrun :
    (exec (traceStep fun _ => "") { sessions := ["NT Kernel Logger"] } stoppedTraceRun).any
      (fun s => s.workers.deactivated) = true := by decide +kernel
  obtain ⟨s, hs, hdeactivated⟩ := Option.any_eq_true _ _ |>.1 hrun
  have hnone : stoppedTraceRun.countP TraceAct.refused = 0 := by decide +kernel
  have hbound := (trace_sessions_bounded (by decide) hs).2 hdeactivated
  rw [hnone] at hbound
  exact ⟨s, hs, hdeactivated, hbound⟩

/-! ## The sessions of others -/

/-- A session that is there, and is none of Layer 2's. -/
structure Foreign (name : String) (s : TraceSt) : Prop where
  mem : name ∈ s.sessions
  names : name ∉ s.names

theorem Foreign.stopTrace {answer : Win32Error} {trace : Option Nat} (hs : Foreign name s) :
    Foreign name (s.stopTrace message answer trace) := by
  unfold TraceSt.stopTrace
  split
  · rename_i other hother
    obtain ⟨trace, -, hget⟩ := Option.bind_eq_some_iff.1 hother
    refine ⟨mem_stopTraceSession_of_ne hs.mem ?_, hs.names⟩
    rintro rfl
    exact hs.names (List.mem_of_getElem? hget)
  · exact hs

theorem Foreign.step {a : TraceAct} (hs : Foreign name s) (ha : a ≠ .sessionEnds name)
    (h : traceStep message s a = some t) : Foreign name t := by
  cases traceStep_cases h with
  | @activate o workers hworkers =>
    obtain ⟨-, hactivated⟩ := activated_cases hworkers
    -- a session of the same name is not started
    have hnames : name ≠ o.sessionName → name ∉ s.names ++ [o.sessionName] := fun hne hmem => by
      rcases List.mem_append.1 hmem with hmem | hmem
      · exact hs.names hmem
      · exact hne (List.mem_singleton.1 hmem)
    cases hactivated with
    | nothing hthreads hhandles hnames hsessions => exact ⟨hsessions ▸ hs.mem, hnames ▸ hs.names⟩
    | fails hstart hthreads hhandles hnames hsessions =>
      exact ⟨hsessions ▸ hstart.mem_of_mem hs.mem, hnames ▸ hs.names⟩
    | starts hstart hthreads hhandles hnames' hsessions =>
      have hne := hstart.ne_of_mem rfl hs.mem
      exact ⟨hsessions ▸ hstart.mem_of_mem hs.mem, hnames' ▸ hnames hne⟩
    | cleansUp hstart hthreads hhandles hnames' hsessions =>
      have hne := hstart.ne_of_mem rfl hs.mem
      exact ⟨hsessions ▸ mem_stopTraceSession_of_ne (hstart.mem_of_mem hs.mem) hne,
        hnames' ▸ hnames hne⟩
  | controller => exact ⟨hs.mem, hs.names⟩
  | controllerStops => exact ⟨hs.stopTrace.mem, hs.stopTrace.names⟩
  | thread => exact ⟨hs.mem, hs.names⟩
  | threadStops => exact ⟨hs.stopTrace.mem, hs.stopTrace.names⟩
  | sessionEnds =>
    rename_i other
    have hne : name ≠ other := fun he => ha (by rw [he])
    exact ⟨List.mem_filter.2 ⟨hs.mem, by simpa using hne⟩, hs.names⟩

/-- **The sessions of other programs are left alone.** In every run, a session that was there before
Layer 2 was first activated stays until somebody else ends it, even where Layer 2 comes up with its
name. -/
theorem foreign_sessions_kept {others : List String} {as : List TraceAct}
    (h : exec (traceStep message) { sessions := others } as = some s) (hname : name ∈ others)
    (hends : ∀ a ∈ as, a ≠ .sessionEnds name) : name ∈ s.sessions := by
  have hforeign : Foreign name { sessions := others } := ⟨hname, by simp⟩
  have hs : Foreign name s := inv_of_along (P := fun _ a => a ≠ .sessionEnds name)
    (fun s a t hs ha hstep => hs.step ha hstep) hforeign (along_of_mem fun a ha _ => hends a ha) h
  exact hs.mem

/-- Another program has a session of the name that Layer 2 comes up with. -/
theorem taken_name_kept :
    ∃ s, exec (traceStep fun _ => "") { sessions := ["Wardoff-Layer2-Local-4242-0"] }
        (stoppedTraceRun.take 1 ++ [.controller (.deactivate false) errorSuccess]) = some s ∧
      "Wardoff-Layer2-Local-4242-0" ∈ s.sessions := by
  have hrun : (exec (traceStep fun _ => "") { sessions := ["Wardoff-Layer2-Local-4242-0"] }
      (stoppedTraceRun.take 1 ++ [.controller (.deactivate false) errorSuccess])).isSome =
        true := by decide +kernel
  obtain ⟨s, hs⟩ := Option.isSome_iff_exists.1 hrun
  refine ⟨s, hs, foreign_sessions_kept hs (by simp) ?_⟩
  simp [stoppedTraceRun]

end Blocker
