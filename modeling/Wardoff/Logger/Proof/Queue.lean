import Wardoff.Logger.Proof.History
import Wardoff.Logger.Queue
import Wardoff.Machine.Run

/-!
# No record is lost before the shutdown

* `Queued.step`: what was sent is what was processed and what is still in front of the first
  `Shutdown`.
* `shutdown_flushes`: once `shutdown_structured_logging` has returned, the log is what the
  sequential writer makes of the records that were sent before it, in this order.
* `shutdown_returns`: it does return, after just the commands that were before it.
* `flushed_records_printed`: the records are what `wardoff --log` prints.
-/

namespace Logger

open Machine hiding total
open Text (OneLine segments lastItems)

variable {toJson : LogRecord → String} {path : String} {s t : LogSt}

/-! ## The transitions -/

def LogAct.isWrite : LogAct → Bool
  | .write _ => true
  | _ => false

inductive LogStep (toJson : LogRecord → String) (path : String) (s : LogSt) :
    LogAct → LogSt → Prop where
  | stay {a : LogAct} (ha : a.isWrite = false) : LogStep toJson path s a s
  | start (hmain : s.main = .idle) (hinit : s.initialized = false) :
    LogStep toJson path s (.start (.ok ()))
      { s with initialized := true, handle := true, writer := .receiving }
  | log {thread : Nat} {now event action : String} {source : EventSource} {success : Bool}
      (hthread : s.threads thread = none) (hinit : s.initialized = true) :
    LogStep toJson path s (.log thread now event source action success) { s with
      threads := Function.update s.threads thread (some (.new now event source action success)) }
  | send {thread : Nat} {record : LogRecord} (hthread : s.threads thread = some record) :
    LogStep toJson path s (.send thread) { s.push (.record record) with
      threads := Function.update s.threads thread none }
  | shutdown (hmain : s.main = .idle) (hinit : s.initialized = true) :
    LogStep toJson path s .shutdown { s.push .shutdown with main := .taking }
  | shutdownUnstarted (hmain : s.main = .idle) (hinit : s.initialized = false) :
    LogStep toJson path s .shutdown { s with main := .taking }
  | take (hmain : s.main = .taking) (hhandle : s.handle = true) :
    LogStep toJson path s .take { s with handle := false, main := .joining }
  | taken (hmain : s.main = .taking) (hhandle : s.handle = false) :
    LogStep toJson path s .take { s with main := .idle }
  | join (hmain : s.main = .joining) (hwriter : s.writer = .finished) :
    LogStep toJson path s .join { s with main := .idle, flushed := true }
  | write {fs : Fs} {record : LogRecord} {queue : List LogCommand} (hwriter : s.writer = .receiving)
      (hqueue : s.queue = .record record :: queue) :
    LogStep toJson path s (.write fs) { s with
      queue
      log := s.log.record toJson fs path record
      processed := s.processed ++ [(fs, record)] }
  | finish {fs : Fs} {queue : List LogCommand} (hwriter : s.writer = .receiving)
      (hqueue : s.queue = .shutdown :: queue) :
    LogStep toJson path s (.write fs) { s with queue, writer := .finished }

theorem logStep_cases {a : LogAct} (h : logStep toJson path s a = some t) :
    LogStep toJson path s a t := by
  cases a with
  | start spawn =>
    simp only [logStep] at h
    split at h
    · split at h
      · cases h
        exact .stay rfl
      · cases spawn with
        | error error =>
          cases h
          exact .stay rfl
        | ok u =>
          cases h
          exact .start ‹_› (eq_false_of_ne_true ‹_›)
    · cases h
  | log thread now event source action success =>
    simp only [logStep] at h
    split at h
    · split at h <;> cases h
      · exact .log ‹_› ‹_›
      · exact .stay rfl
    · cases h
  | send thread =>
    simp only [logStep] at h
    split at h <;> cases h
    exact .send ‹_›
  | shutdown =>
    simp only [logStep] at h
    split at h
    · split at h <;> cases h
      · exact .shutdown ‹_› ‹_›
      · exact .shutdownUnstarted ‹_› (eq_false_of_ne_true ‹_›)
    · cases h
  | take =>
    simp only [logStep] at h
    split at h
    · split at h <;> cases h
      · exact .take ‹_› ‹_›
      · exact .taken ‹_› (eq_false_of_ne_true ‹_›)
    · cases h
  | join =>
    simp only [logStep] at h
    split at h <;> cases h
    exact .join ‹_› ‹_›
  | write fs =>
    simp only [logStep] at h
    split at h <;> cases h
    · exact .write ‹_› ‹_›
    · exact .finish ‹_› ‹_›

/-! ## The queue -/

/-- The records in front of the first `Shutdown`. -/
def untilShutdown : List LogCommand → List LogRecord
  | [] => []
  | .record record :: queue => record :: untilShutdown queue
  | .shutdown :: _ => []

/-- What is sent behind a `Shutdown` is never reached. -/
theorem untilShutdown_append_of_mem {queue : List LogCommand} (h : .shutdown ∈ queue)
    (commands : List LogCommand) : untilShutdown (queue ++ commands) = untilShutdown queue := by
  induction queue with
  | nil => cases h
  | cons command queue ih =>
    cases command with
    | shutdown => rfl
    | record record =>
      have hq : .shutdown ∈ queue := by simpa using h
      simp only [List.cons_append, untilShutdown, ih hq]

theorem untilShutdown_append {queue : List LogCommand} (h : .shutdown ∉ queue)
    (commands : List LogCommand) :
    untilShutdown (queue ++ commands) = untilShutdown queue ++ untilShutdown commands := by
  induction queue with
  | nil => rfl
  | cons command queue ih =>
    cases command with
    | shutdown => simp at h
    | record record =>
      have hq : .shutdown ∉ queue := by simpa using h
      simp only [List.cons_append, untilShutdown, ih hq]

/-- The records the writer will still process. -/
def LogSt.pending (s : LogSt) : List LogRecord :=
  if s.writer = .finished then [] else untilShutdown s.queue

theorem pending_push (h : .shutdown ∉ s.queue) (hwriter : s.writer ≠ .finished)
    (command : LogCommand) :
    (s.push command).pending = s.pending ++ untilShutdown [command] := by
  simp only [LogSt.pending, LogSt.push, hwriter, if_false]
  exact untilShutdown_append h [command]

theorem pending_push_of_stopping (h : .shutdown ∈ s.queue ∨ s.writer = .finished)
    (command : LogCommand) :
    (s.push command).pending = s.pending := by
  by_cases hwriter : s.writer = .finished
  · simp [LogSt.pending, LogSt.push, hwriter]
  · simp only [LogSt.pending, LogSt.push, hwriter, if_false]
    exact untilShutdown_append_of_mem (h.resolve_right hwriter) [command]

/-! ## What was sent is what is written -/

/-- The commands and the threads agree. -/
structure Queued (toJson : LogRecord → String) (path : String) (s : LogSt) : Prop where
  log : s.log = runWriterLoop toJson path s.processed
  records : untilShutdown s.sent = s.processed.map (·.2) ++ s.pending
  /-- A `Shutdown` that was sent is in the queue until the writer has taken it. -/
  stopping : .shutdown ∈ s.sent ↔ .shutdown ∈ s.queue ∨ s.writer = .finished
  started : s.initialized = true ↔ s.writer ≠ .absent
  /-- No thread sends without a writer. -/
  unstarted : s.initialized = false → s.sent = [] ∧ ∀ thread, s.threads thread = none
  held : s.handle = true → s.initialized = true
  taking : s.main = .taking → s.initialized = true → .shutdown ∈ s.sent
  joining : s.main = .joining → .shutdown ∈ s.sent
  flushed : s.flushed = true → s.writer = .finished

theorem queued_init (toJson : LogRecord → String) (path : String) : Queued toJson path {} where
  log := rfl
  records := rfl
  stopping := by simp
  started := by simp
  unstarted := by simp
  held := by simp
  taking := by simp
  joining := by simp
  flushed := by simp

/-- A command that is sent, by whichever thread. -/
theorem Queued.push (h : Queued toJson path s) (command : LogCommand) :
    untilShutdown (s.push command).sent = s.processed.map (·.2) ++ (s.push command).pending ∧
      (.shutdown ∈ (s.push command).sent ↔
        .shutdown ∈ (s.push command).queue ∨ (s.push command).writer = .finished) := by
  by_cases hsent : .shutdown ∈ s.sent
  · have hstop := h.stopping.1 hsent
    refine ⟨?_, ?_⟩
    · rw [pending_push_of_stopping hstop, ← h.records]
      exact untilShutdown_append_of_mem hsent [command]
    · refine ⟨fun _ => ?_, fun _ => List.mem_append_left _ hsent⟩
      rcases hstop with hqueue | hwriter
      · left
        simp only [LogSt.push]
        split
        · exact hqueue
        · exact List.mem_append_left _ hqueue
      · exact .inr hwriter
  · have hrun := mt h.stopping.2 hsent
    obtain ⟨hqueue, hwriter⟩ := not_or.1 hrun
    refine ⟨?_, ?_⟩
    · rw [pending_push hqueue hwriter, ← List.append_assoc, ← h.records]
      exact untilShutdown_append hsent [command]
    · simp [LogSt.push, hwriter, hsent, hqueue]

theorem Queued.initialized_of_thread (h : Queued toJson path s) {thread : Nat} {record : LogRecord}
    (hthread : s.threads thread = some record) : s.initialized = true := by
  by_contra hinit
  have hnone := (h.unstarted (eq_false_of_ne_true hinit)).2 thread
  rw [hthread] at hnone
  cases hnone

theorem Queued.start (h : Queued toJson path s) (hmain : s.main = .idle)
    (hinit : s.initialized = false) :
    Queued toJson path { s with initialized := true, handle := true, writer := .receiving } := by
  obtain ⟨hsent, hthreads⟩ := h.unstarted hinit
  have habsent : s.writer = .absent := by
    by_contra hne
    simp [h.started.2 hne] at hinit
  have hpending : s.pending = untilShutdown s.queue := by simp [LogSt.pending, habsent]
  exact {
    log := h.log
    records := by
      rw [h.records, hpending]
      rfl
    stopping := by simpa [habsent] using h.stopping
    started := by simp
    unstarted := by simp
    held := fun _ => rfl
    taking := by simp [hmain]
    joining := by simp [hmain]
    flushed := fun hf => by simpa [habsent] using h.flushed hf }

/-- A record reaches the file, or only the error is reported. -/
theorem Queued.write (h : Queued toJson path s) {fs : Fs} {record : LogRecord}
    {queue : List LogCommand} (hwriter : s.writer = .receiving)
    (hqueue : s.queue = .record record :: queue) :
    Queued toJson path { s with
      queue
      log := s.log.record toJson fs path record
      processed := s.processed ++ [(fs, record)] } where
  log := by rw [runWriterLoop_concat, ← h.log]
  records := by
    have hrecords := h.records
    simp only [LogSt.pending, hwriter, hqueue, untilShutdown] at hrecords ⊢
    simpa using hrecords
  stopping := by simpa [hqueue] using h.stopping
  started := h.started
  unstarted := h.unstarted
  held := h.held
  taking := h.taking
  joining := h.joining
  flushed := h.flushed

theorem Queued.finish (h : Queued toJson path s) {queue : List LogCommand}
    (hwriter : s.writer = .receiving) (hqueue : s.queue = .shutdown :: queue) :
    Queued toJson path { s with queue, writer := .finished } where
  log := h.log
  records := by
    have hrecords := h.records
    simp only [LogSt.pending, hwriter, hqueue, untilShutdown] at hrecords ⊢
    simpa using hrecords
  stopping := by simpa [hqueue] using h.stopping
  started := by simpa [hwriter] using h.started
  unstarted := h.unstarted
  held := h.held
  taking := h.taking
  joining := h.joining
  flushed _ := rfl

theorem Queued.step {a : LogAct} (h : Queued toJson path s)
    (hstep : logStep toJson path s a = some t) : Queued toJson path t := by
  cases logStep_cases hstep with
  | stay ha => exact h
  | start hmain hinit => exact h.start hmain hinit
  | log hthread hinit =>
    exact { h with
      unstarted := fun hi => by simp [hinit] at hi }
  | send hthread =>
    have hinit := h.initialized_of_thread hthread
    obtain ⟨hrecords, hstopping⟩ := h.push (.record _)
    exact { h with
      records := hrecords
      stopping := hstopping
      unstarted := fun hi => by simp [LogSt.push, hinit] at hi
      taking := fun hm hi => List.mem_append_left _ (h.taking hm hi)
      joining := fun hm => List.mem_append_left _ (h.joining hm) }
  | shutdown hmain hinit =>
    obtain ⟨hrecords, hstopping⟩ := h.push .shutdown
    exact { h with
      records := hrecords
      stopping := hstopping
      unstarted := fun hi => by simp [LogSt.push, hinit] at hi
      taking := fun _ _ => List.mem_append_right _ (by simp)
      joining := fun hm => List.mem_append_right _ (by simp) }
  | shutdownUnstarted hmain hinit =>
    exact { h with
      taking := fun _ hi => by simp [hinit] at hi
      joining := fun hm => by cases hm }
  | take hmain hhandle =>
    exact { h with
      held := fun hh => by cases hh
      taking := fun hm => by cases hm
      joining := fun _ => h.taking hmain (h.held hhandle) }
  | taken hmain hhandle =>
    exact { h with
      taking := fun hm => by cases hm
      joining := fun hm => by cases hm }
  | join hmain hwriter =>
    exact { h with
      taking := fun hm => by cases hm
      joining := fun hm => by cases hm
      flushed := fun _ => hwriter }
  | write hwriter hqueue => exact h.write hwriter hqueue
  | finish hwriter hqueue => exact h.finish hwriter hqueue

theorem queued_of_exec {as : List LogAct} (h : exec (logStep toJson path) {} as = some s) :
    Queued toJson path s := by
  refine inv_of_exec (fun s a t hs hstep => ?_) (queued_init toJson path) h
  exact hs.step hstep

/-! ## The shutdown -/

/-- A writer that has returned writes nothing more, and no `Shutdown` is the first one any more. -/
theorem finished_step {a : LogAct} (h : Queued toJson path s) (hwriter : s.writer = .finished)
    (hstep : logStep toJson path s a = some t) :
    t.writer = .finished ∧ t.processed = s.processed ∧
    untilShutdown t.sent = untilShutdown s.sent := by
  have hsent := h.stopping.2 (.inr hwriter)
  cases logStep_cases hstep with
  | stay ha => exact ⟨hwriter, rfl, rfl⟩
  | start hmain hinit => simp [h.started.2 (by simp [hwriter])] at hinit
  | send hthread => exact ⟨hwriter, rfl, untilShutdown_append_of_mem hsent _⟩
  | shutdown hmain hinit => exact ⟨hwriter, rfl, untilShutdown_append_of_mem hsent _⟩
  | log | shutdownUnstarted | take | taken | join => exact ⟨hwriter, rfl, rfl⟩
  | write hreceiving | finish hreceiving => simp [hwriter] at hreceiving

theorem finished_exec {bs : List LogAct} (h : Queued toJson path s) (hwriter : s.writer = .finished)
    (hmore : exec (logStep toJson path) s bs = some t) :
    Queued toJson path t ∧ t.writer = .finished ∧ t.processed = s.processed ∧
      untilShutdown t.sent = untilShutdown s.sent := by
  refine inv_of_exec (I := fun u => Queued toJson path u ∧ u.writer = .finished ∧
    u.processed = s.processed ∧
    untilShutdown u.sent = untilShutdown s.sent) (fun u a v hu hstep => ?_)
    ⟨h, hwriter, rfl, rfl⟩ hmore
  obtain ⟨hq, hw, hp, hsent⟩ := hu
  obtain ⟨hw', hp', hsent'⟩ := finished_step hq hw hstep
  exact ⟨hq.step hstep, hw', hp'.trans hp, hsent'.trans hsent⟩

theorem Queued.records_of_finished (h : Queued toJson path s) (hwriter : s.writer = .finished) :
    s.processed.map (·.2) = untilShutdown s.sent := by
  simp [h.records, LogSt.pending, hwriter]

/-- **What is logged before the shutdown is written.** However the threads take turns and whatever
the calls of the file system return, the writer has been given, when `shutdown_structured_logging`
has joined it, the records that were sent before the first `Shutdown`, each of them once and in the
order in which they were sent; and nothing changes the files after that. -/
theorem shutdown_flushes {as bs : List LogAct} (h : exec (logStep toJson path) {} as = some s)
    (hflushed : s.flushed = true) (hmore : exec (logStep toJson path) s bs = some t) :
    t.log = runWriterLoop toJson path s.processed ∧ s.processed.map (·.2) = untilShutdown s.sent ∧
      untilShutdown t.sent = untilShutdown s.sent := by
  have hs := queued_of_exec h
  have hwriter := hs.flushed hflushed
  obtain ⟨ht, -, hprocessed, hsent⟩ := finished_exec hs hwriter hmore
  exact ⟨by rw [ht.log, hprocessed], hs.records_of_finished hwriter, hsent⟩

/-- Two threads log while the main thread stops the writer; a third one is late. -/
def lateRecord : List LogAct :=
  [.start (.ok ()), .log 1 "t1" "a" .ipc "x" true, .log 2 "t2" "b" .tray "y" true, .send 2, .send 1,
    .log 3 "t3" "c" .sleep "z" false, .shutdown, .send 3, .take, .write {}, .write {},
    .write {}, .join]

theorem late_record_lost : ∃ s, exec (logStep plainJson defaultLogFileName) {} lateRecord = some s ∧
    s.processed.map (·.2) = [.new "t2" "b" .tray "y" true, .new "t1" "a" .ipc "x" true] := by
  have hrun : (exec (logStep plainJson defaultLogFileName) {} lateRecord).any (fun s => s.flushed &&
      untilShutdown s.sent = [.new "t2" "b" .tray "y" true, .new "t1" "a" .ipc "x" true]) =
        true := by
    decide +kernel
  obtain ⟨s, hs, h⟩ := Option.any_eq_true _ _ |>.1 hrun
  rw [Bool.and_eq_true, decide_eq_true_eq] at h
  exact ⟨s, hs, (shutdown_flushes hs h.1 exec_nil).2.1.trans h.2⟩

/-- How many commands the writer still takes. -/
def LogSt.remaining (s : LogSt) : Nat :=
  if s.writer = .finished then 0 else (untilShutdown s.queue).length + 1

/-- The writer's own steps bring it nearer to its end, and those of the other threads take it no
further away. -/
theorem remaining_step {a : LogAct} (h : Queued toJson path s) (hmain : s.main = .joining)
    (ha : a ≠ .join) (hstep : logStep toJson path s a = some t) :
    t.main = .joining ∧ t.remaining + a.isWrite.toNat = s.remaining := by
  have hstop := h.stopping.1 (h.joining hmain)
  cases logStep_cases hstep with
  | stay hnot => exact ⟨hmain, by simp [hnot]⟩
  | start hidle | shutdown hidle | shutdownUnstarted hidle | take hidle | taken hidle =>
    simp [hmain] at hidle
  | log => exact ⟨hmain, rfl⟩
  | send hthread =>
    refine ⟨hmain, ?_⟩
    rcases hstop with hqueue | hwriter
    · have hlast := untilShutdown_append_of_mem hqueue
      simp [LogSt.remaining, LogSt.push, LogAct.isWrite]
      split <;> simp [hlast]
    · simp [LogSt.remaining, LogSt.push, LogAct.isWrite, hwriter]
  | join => exact absurd rfl ha
  | write hwriter hqueue =>
    exact ⟨hmain, by simp [LogSt.remaining, LogAct.isWrite, hwriter, hqueue, untilShutdown]⟩
  | finish hwriter hqueue =>
    exact ⟨hmain, by simp [LogSt.remaining, LogAct.isWrite, hwriter, hqueue, untilShutdown]⟩

theorem remaining_exec {bs : List LogAct} (h : Queued toJson path s) (hmain : s.main = .joining)
    (hbs : .join ∉ bs) (hmore : exec (logStep toJson path) s bs = some t) :
    Queued toJson path t ∧ t.main = .joining ∧ t.remaining + bs.countP LogAct.isWrite =
      s.remaining := by
  induction bs generalizing s with
  | nil =>
    cases hmore
    exact ⟨h, hmain, rfl⟩
  | cons a bs ih =>
    obtain ⟨hne, hbs⟩ : LogAct.join ≠ a ∧ LogAct.join ∉ bs := by simpa using hbs
    obtain ⟨u, hu, hr⟩ := exec_cons_eq_some hmore
    obtain ⟨hjoin, hrank⟩ := remaining_step h hmain (Ne.symm hne) hu
    obtain ⟨ht, hmain', hcount⟩ := ih (h.step hu) hjoin hbs hr
    refine ⟨ht, hmain', ?_⟩
    rw [List.countP_cons]
    cases hw : a.isWrite with
    | true =>
      simp only [hw, Bool.toNat_true, if_true] at hrank ⊢
      omega
    | false =>
      simp only [hw, Bool.toNat_false, Bool.false_eq_true, if_false] at hrank ⊢
      omega

/-- **The shutdown returns.** From the join on, the writer takes just the commands that were before
it up to the first `Shutdown`, however many records other threads send meanwhile; until then it
always has a command to take, and after that the join returns. -/
theorem shutdown_returns {as bs : List LogAct} (h : exec (logStep toJson path) {} as = some s)
    (hmain : s.main = .joining) (hbs : .join ∉ bs)
    (hmore : exec (logStep toJson path) s bs = some t) :
    bs.countP LogAct.isWrite ≤ s.remaining ∧
      (bs.countP LogAct.isWrite < s.remaining → ∀ fs, (logStep toJson path t (.write fs)).isSome) ∧
      (bs.countP LogAct.isWrite = s.remaining → (logStep toJson path t .join).isSome) := by
  obtain ⟨ht, hjoin, hcount⟩ := remaining_exec (queued_of_exec h) hmain hbs hmore
  refine ⟨by omega, fun hlt fs => ?_, fun heq => ?_⟩
  · have hpos : t.remaining ≠ 0 := by omega
    have hne : t.writer ≠ .finished := by
      intro hf
      simp [LogSt.remaining, hf] at hpos
    have hsent := ht.joining hjoin
    have hqueue := (ht.stopping.1 hsent).resolve_right hne
    have hinit : t.initialized = true := by
      by_contra hi
      simp [(ht.unstarted (eq_false_of_ne_true hi)).1] at hsent
    have habsent := ht.started.1 hinit
    have hwriter : t.writer = .receiving := by
      cases hw : t.writer with
      | absent => exact absurd hw habsent
      | receiving => rfl
      | finished => exact absurd hw hne
    cases hq : t.queue with
    | nil => simp [hq] at hqueue
    | cons command queue => cases command <;> simp [logStep, hwriter, hq]
  · have hzero : t.remaining = 0 := by omega
    have hwriter : t.writer = .finished := by
      by_contra hne
      simp [LogSt.remaining, hne] at hzero
    simp [logStep, hjoin, hwriter]

/-- The late record is behind the `Shutdown`, and the join returns after the three commands before
it. -/
theorem late_record_not_awaited :
    ∃ s, exec (logStep plainJson defaultLogFileName) {} (lateRecord.take 9) = some s ∧
    s.main = .joining ∧ s.remaining = 3 ∧ ∃ t, exec (logStep plainJson defaultLogFileName) s
      [.write {}, .write {}, .write {}] = some t ∧
      (logStep plainJson defaultLogFileName t .join).isSome := by
  have hrun : (exec (logStep plainJson defaultLogFileName) {} (lateRecord.take 9)).any (fun s =>
      s.main = .joining && s.remaining = 3 &&
        (exec (logStep plainJson defaultLogFileName) s [.write {}, .write {}, .write {}]).isSome) =
          true := by
    decide +kernel
  obtain ⟨s, hs, h⟩ := Option.any_eq_true _ _ |>.1 hrun
  rw [Bool.and_eq_true, Bool.and_eq_true, decide_eq_true_eq, decide_eq_true_eq] at h
  obtain ⟨⟨hmain, hrem⟩, hsome⟩ := h
  obtain ⟨t, ht⟩ := Option.isSome_iff_exists.1 hsome
  exact ⟨s, hs, hmain, hrem, t, ht, (shutdown_returns hs hmain (by simp) ht).2.2 hrem.symm⟩

/-! ## What `wardoff --log` prints -/

/-- The writer is given its records with the outcomes of its own calls. -/
theorem processed_of_exec {P : Fs → Prop} {as : List LogAct} (hok : ∀ fs, .write fs ∈ as → P fs)
    (h : exec (logStep toJson path) {} as = some s) : ∀ r ∈ s.processed, P r.1 := by
  refine inv_of_along (P := fun _ a => ∀ fs, a = .write fs → P fs)
    (I := fun s => ∀ r ∈ s.processed, P r.1)
    (fun s a t hs hp hstep => ?_) (by simp)
      (along_of_mem fun a ha s fs he => hok fs (by rwa [← he])) h
  cases logStep_cases hstep with
  | write hwriter hqueue =>
    intro r hr
    rcases List.mem_append.1 hr with hr | hr
    · exact hs r hr
    · cases List.mem_singleton.1 hr
      exact hp _ rfl
  | _ => exact hs

/-- **What is logged before the shutdown is printed.** Where no call of the file system fails and
every record is serialized on one line, `wardoff --log` prints after the shutdown, in the order in
which they were sent, the last of the records that any thread had sent before it: as many as are
asked for and as the three files hold. -/
theorem flushed_records_printed {as bs : List LogAct} (hok : ∀ fs, .write fs ∈ as → fs = {})
    (h : exec (logStep toJson defaultLogFileName) {} as = some s) (hflushed : s.flushed = true)
    (hmore : exec (logStep toJson defaultLogFileName) s bs = some t)
    (hlines : ∀ record ∈ untilShutdown s.sent, OneLine (toJson record)) {limit : Nat}
    (hpos : 0 < limit) (hmax : limit ≤ maxTailLineCount) :
    readRecentLinesFromPath {} t.log.dir defaultLogFileName limit =
      .ok (lastItems limit (retained ((untilShutdown s.sent).map toJson))) := by
  have hs := queued_of_exec h
  have hwriter := hs.flushed hflushed
  obtain ⟨ht, -, hprocessed, -⟩ := finished_exec hs hwriter hmore
  have hholds := (holds_runWriterLoop toJson s.processed (processed_of_exec hok h)).1
  rw [hs.records_of_finished hwriter] at hholds
  rw [ht.log, hprocessed]
  refine readRecentLinesFromPath_ok hholds (fun line hline => ?_) hpos hmax
  obtain ⟨record, hrecord, rfl⟩ := List.mem_map.1 (mem_of_mem_segments hline)
  exact hlines record hrecord

theorem late_record_not_printed :
    ∃ s, exec (logStep plainJson defaultLogFileName) {} lateRecord = some s ∧
    readRecentLinesFromPath {} s.log.dir defaultLogFileName 20 =
      .ok (lastItems 20 (retained [
        "\x7b\"timestamp\":\"t2\",\"event\":\"b\",\"source\":\"tray\",\"action\":\"y\",\"success\":true\x7d",
        "\x7b\"timestamp\":\"t1\",\"event\":\"a\",\"source\":\"ipc\",\"action\":\"x\",\"success\":true\x7d"])) := by
  have hrun : (exec (logStep plainJson defaultLogFileName) {} lateRecord).any (fun s => s.flushed &&
      untilShutdown s.sent = [.new "t2" "b" .tray "y" true, .new "t1" "a" .ipc "x" true]) =
        true := by
    decide +kernel
  obtain ⟨s, hs, h⟩ := Option.any_eq_true _ _ |>.1 hrun
  rw [Bool.and_eq_true, decide_eq_true_eq] at h
  have hlines : ∀ record ∈ untilShutdown s.sent, OneLine (plainJson record) := by
    rw [h.2]
    decide +kernel
  refine ⟨s, hs, ?_⟩
  rw [flushed_records_printed (by simp [lateRecord]) hs h.1 exec_nil hlines (by decide) (by decide),
    h.2]
  rfl

end Logger
