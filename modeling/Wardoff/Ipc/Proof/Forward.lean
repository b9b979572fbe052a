import Mathlib.Algebra.Order.BigOperators.Group.List
import Mathlib.Algebra.Order.Group.Nat
import Mathlib.Data.List.Nodup
import Mathlib.Data.Nat.Cast.Basic
import Wardoff.Ipc.Forward
import Wardoff.Ipc.Proof.Client
import Wardoff.Ipc.Proof.Tokens

/-!
# A command is applied at most once

* `Phase` is what the process has done so far, by where it is: it opens at most one connection, and
  returns Unavailable only before that.
* A runtime handles at most one request of a connection, whatever happens around it (`Tokens`), so
  that the process's commands are handled as often as it has opened a connection (`remoteRuns_le`).
* `command_applied_at_most_once`: so a command runs in a primary or in the process itself, and not
  in both.
-/

namespace Ipc

open Machine

variable {Handle : Type} {J : Json} {path : String} {payload : Except String (List UInt8)}
  {replies : Replies} {w v : World Handle} {link : Link}

/-! ## The runtimes -/

/-- In every runtime that was started, a connection is used once. -/
def World.Once (w : World Handle) : Prop := ∀ runtime ∈ w.runtimes, Tokens runtime.st

/-- Only the runtimes have changed, by steps of their own. -/
structure World.Around (w v : World Handle) : Prop where
  sender : v.sender = w.sender
  once : w.Once → v.Once

theorem World.Around.refl (w : World Handle) : w.Around w := ⟨rfl, id⟩

/-- A runtime's state changes by one of its own steps. -/
theorem once_set {r : Nat} {runtime : Runtime Handle} {st : St Handle} (hw : w.Once)
    (hr : w.runtimes[r]? = some runtime) (hst : Tokens runtime.st → Tokens st) :
    World.Once { w with runtimes := w.runtimes.set r { runtime with st } } := by
  intro rt hrt
  rcases List.mem_or_eq_of_mem_set hrt with hmem | rfl
  · exact hw rt hmem
  · exact hst (hw runtime (List.mem_of_getElem? hr))

theorem World.runtimeStep_around {r : Nat} {f : St Handle → Option (St Handle)}
    (hf : ∀ s t, f s = some t → Tokens s → Tokens t) (h : w.runtimeStep r f = some v) :
    w.Around v := by
  unfold World.runtimeStep at h
  split at h
  · rename_i runtime hr
    split at h
    · obtain ⟨st, hst, rfl⟩ := Option.map_eq_some_iff.1 h
      exact ⟨rfl, fun hw => once_set hw hr (hf _ _ hst)⟩
    · cases h
  · cases h

theorem tokens_of_clientStep {a : ClientAct} {s t : St Handle} (h : clientStep s a = some t)
    (hs : Tokens s) : Tokens t :=
  (clientStep_cases h).moves.tokens hs

theorem World.linkStep_around {a : ClientAct} (h : w.linkStep link a = some v) : w.Around v := by
  refine World.runtimeStep_around (fun s t hst hs => ?_) h
  split at hst
  · exact tokens_of_clientStep hst hs
  · cases hst

theorem World.closed_around (w : World Handle) (link : Link) : w.Around (w.closed link) := by
  unfold World.closed
  cases h : w.linkStep link .closeControl with
  | none => exact .refl w
  | some v => exact World.linkStep_around h

/-- Some bytes are written, and the runtimes change. -/
theorem World.put_around {bytes : List UInt8} (h : w.put link bytes = some v) :
    (∃ written, v.sender = { w.sender with written }) ∧ (w.Once → v.Once) := by
  unfold World.put at h
  split at h
  · cases h
    exact ⟨⟨w.sender.written, rfl⟩, id⟩
  · obtain ⟨u, hu, rfl⟩ := Option.map_eq_some_iff.1 h
    obtain ⟨he, honce⟩ := World.linkStep_around hu
    refine ⟨⟨u.sender.written ++ bytes, ?_⟩, honce⟩
    rw [he]

/-! ## What the process has done -/

/-- Nothing was opened yet. -/
structure Sender.Fresh (p : Sender) : Prop where
  opened : p.opened = []
  written : p.written = []
  sendResult : p.sendResult = none
  localRuns : p.localRuns = 0

/-- The connection is open, or was. -/
structure Sender.Linked (p : Sender) (link : Link) : Prop where
  opened : p.opened = [link]
  sendResult : p.sendResult = none
  localRuns : p.localRuns = 0

/-- Unavailable was returned, and nothing was opened. -/
structure Sender.Spared (p : Sender) : Prop where
  opened : p.opened = []
  written : p.written = []
  sendResult : p.sendResult = some (.error .unavailable)

/-- `send_request` has returned something else, which is the result of the command. -/
structure Sender.Answered (p : Sender) (result : Except String Int) : Prop where
  opened : p.opened.length ≤ 1
  localRuns : p.localRuns = 0
  sent : ∃ sent, p.sendResult = some sent ∧ sent ≠ .error .unavailable ∧
    afterSend sent = .returned result

/-- What the process has done so far, by where it is. -/
def Sender.Phase (p : Sender) : Prop :=
  match p.pc with
  | .naming => p.Fresh
  | .opening _ => p.Fresh
  | .serializing link => p.Linked link
  | .writing link _ => p.Linked link
  | .finishing link => p.Linked link
  | .flushing link => p.Linked link
  | .reading link => p.Linked link
  | .claiming => p.Spared ∧ p.localRuns = 0
  | .fallback => p.Spared ∧ p.localRuns = 1
  | .returned result => (p.Spared ∧ p.localRuns ≤ 1) ∨ p.Answered result

theorem Sender.Phase.summary {p : Sender} (h : p.Phase) :
    p.Fresh ∨ (∃ link, p.Linked link) ∨ (p.Spared ∧ p.localRuns ≤ 1) ∨
      ∃ result, p.pc = .returned result ∧ p.Answered result := by
  unfold Sender.Phase at h
  split at h
  · exact .inl h
  · exact .inl h
  · exact .inr (.inl ⟨_, h⟩)
  · exact .inr (.inl ⟨_, h⟩)
  · exact .inr (.inl ⟨_, h⟩)
  · exact .inr (.inl ⟨_, h⟩)
  · exact .inr (.inl ⟨_, h⟩)
  · exact .inr (.inr (.inl ⟨h.1, by omega⟩))
  · exact .inr (.inr (.inl ⟨h.1, by omega⟩))
  · rename_i result hpc
    rcases h with h | h
    · exact .inr (.inr (.inl h))
    · exact .inr (.inr (.inr ⟨result, hpc, h⟩))

theorem Sender.Spared.goto {p : Sender} (hp : p.Spared) {pc : ForwardPc} :
    Sender.Spared { p with pc } :=
  ⟨hp.opened, hp.written, hp.sendResult⟩

/-- The phase is over when `send_request` returns. -/
theorem afterSend_cases (result : Except ClientError IpcResponse) :
    (result = .error .unavailable ∧ afterSend result = .claiming) ∨
      (result ≠ .error .unavailable ∧ ∃ r, afterSend result = .returned r) := by
  match result with
  | .ok .ok => exact .inr ⟨by simp, _, rfl⟩
  | .ok (.error message) => exact .inr ⟨by simp, _, rfl⟩
  | .ok (.status output) => exact .inr ⟨by simp, _, rfl⟩
  | .error .unavailable => exact .inl ⟨rfl, rfl⟩
  | .error (.transport message) => exact .inr ⟨by simp, _, rfl⟩

theorem Sender.Fresh.sendReturns {p : Sender} (hp : p.Fresh)
    (result : Except ClientError IpcResponse) :
    Sender.Phase { p with sendResult := some result, pc := afterSend result } := by
  rcases afterSend_cases result with ⟨hr, hpc⟩ | ⟨hr, r, hpc⟩
  · simp only [Sender.Phase, hpc]
    exact ⟨⟨hp.opened, hp.written, by rw [hr]⟩, hp.localRuns⟩
  · simp only [Sender.Phase, hpc]
    exact .inr ⟨by simp [hp.opened], hp.localRuns, result, rfl, hr, hpc⟩

theorem Sender.Linked.sendReturns {p : Sender} (hp : p.Linked link)
    {result : Except ClientError IpcResponse} (hr : result ≠ .error .unavailable) :
    Sender.Phase { p with sendResult := some result, pc := afterSend result } := by
  rcases afterSend_cases result with ⟨hr', -⟩ | ⟨-, r, hpc⟩
  · exact absurd hr' hr
  · simp only [Sender.Phase, hpc]
    exact .inr ⟨by simp [hp.opened], hp.localRuns, result, rfl, hr, hpc⟩

/-- Every world that can be reached. -/
structure World.Ok (w : World Handle) : Prop where
  once : w.Once
  phase : w.sender.Phase

theorem World.Around.ok (h : w.Around v) (hw : w.Ok) : v.Ok :=
  ⟨h.once hw.once, h.sender ▸ hw.phase⟩

theorem World.Ok.sendFails (hw : w.Once) (hp : w.sender.Linked link) (message : String) :
    (w.sendFails link message).Ok := by
  have hclosed := w.closed_around link
  refine ⟨hclosed.once hw, ?_⟩
  simp only [World.sendFails, World.sendReturns, hclosed.sender]
  exact hp.sendReturns (by simp)

/-! ## The step -/

/-- The process goes on with its connection. -/
theorem Sender.Linked.goto {p : Sender} (hp : p.Linked link) (written : List UInt8) {pc : ForwardPc}
    (hpc : pc = .writing link written ∨ pc = .finishing link ∨ pc = .flushing link ∨
      pc = .reading link)
    (written' : List UInt8) : Sender.Phase { p with pc, written := written' } := by
  rcases hpc with rfl | rfl | rfl | rfl <;> exact ⟨hp.opened, hp.sendResult, hp.localRuns⟩

theorem World.Ok.step {a : ForwardAct Handle} (hw : w.Ok)
    (h : forwardStep J path payload replies w a = some v) : v.Ok := by
  have hphase := hw.phase
  cases a with
  | start controlClaim statusClaim app =>
    cases h
    refine ⟨fun runtime hmem => ?_, hphase⟩
    rcases List.mem_append.1 hmem with hold | hnew
    · exact hw.once runtime hold
    · rw [List.mem_singleton.1 hnew]
      exact tokens_init controlClaim statusClaim app
  | exit r =>
    simp only [forwardStep] at h
    split at h <;> cases h
    rename_i runtime hr
    refine ⟨fun rt hmem => ?_, hphase⟩
    rcases List.mem_or_eq_of_mem_set hmem with hold | rfl
    · exact hw.once rt hold
    · exact hw.once runtime (List.mem_of_getElem? hr)
  | runtime r a =>
    simp only [forwardStep] at h
    refine World.Around.ok (World.runtimeStep_around (fun s t hst hs => ?_) h) hw
    split at hst
    · cases hst
    · exact (step_moves hst).tokens hs
  | name result =>
    simp only [forwardStep] at h
    split at h <;> cases h
    · rename_i hpc
      simp only [Sender.Phase, hpc] at hphase
      exact ⟨hw.once, hphase.opened, hphase.written, hphase.sendResult, hphase.localRuns⟩
    · rename_i hpc
      simp only [Sender.Phase, hpc] at hphase
      exact ⟨hw.once, hphase.sendReturns _⟩
  | openPipe r =>
    simp only [forwardStep] at h
    split at h
    · rename_i attempt runtime hpc hr
      obtain ⟨u, hu, rfl⟩ := Option.map_eq_some_iff.1 h
      have haround := World.runtimeStep_around (fun s t hst => tokens_of_clientStep hst) hu
      simp only [Sender.Phase, hpc] at hphase
      refine ⟨haround.once hw.once, ?_⟩
      simp only [Sender.Phase, haround.sender]
      exact ⟨by simp [hphase.opened], hphase.sendResult, hphase.localRuns⟩
    · cases h
  | openFails error rawCode =>
    simp only [forwardStep] at h
    split at h
    · rename_i attempt hpc
      simp only [Sender.Phase, hpc] at hphase
      split at h <;> cases h
      · exact ⟨hw.once, hphase.opened, hphase.written, hphase.sendResult, hphase.localRuns⟩
      · exact ⟨hw.once, hphase.sendReturns _⟩
    · cases h
  | serialize =>
    simp only [forwardStep] at h
    split at h <;> cases h
    · rename_i link bytes hpc
      simp only [Sender.Phase, hpc] at hphase
      exact ⟨hw.once, hphase.goto bytes (.inl rfl) _⟩
    · rename_i link error hpc
      simp only [Sender.Phase, hpc] at hphase
      exact World.Ok.sendFails hw.once hphase _
  | write count error =>
    simp only [forwardStep] at h
    split at h
    · rename_i link bytes hpc
      simp only [Sender.Phase, hpc] at hphase
      obtain ⟨u, hu, rfl⟩ := Option.map_eq_some_iff.1 h
      obtain ⟨⟨written, hsender⟩, honce⟩ := World.put_around hu
      refine ⟨honce hw.once, ?_⟩
      simp only [World.goto, hsender]
      exact hphase.goto [] (.inr (.inl rfl)) written
    · rename_i link bytes error hpc
      simp only [Sender.Phase, hpc] at hphase
      obtain ⟨u, hu, rfl⟩ := Option.map_eq_some_iff.1 h
      obtain ⟨⟨written, hsender⟩, honce⟩ := World.put_around hu
      have hlinked : u.sender.Linked link := by
        rw [hsender]
        exact ⟨hphase.opened, hphase.sendResult, hphase.localRuns⟩
      exact World.Ok.sendFails (honce hw.once) hlinked _
    · rename_i link hpc
      simp only [Sender.Phase, hpc] at hphase
      obtain ⟨u, hu, rfl⟩ := Option.map_eq_some_iff.1 h
      obtain ⟨⟨written, hsender⟩, honce⟩ := World.put_around hu
      refine ⟨honce hw.once, ?_⟩
      simp only [World.goto, hsender]
      exact hphase.goto [] (.inr (.inr (.inl rfl))) written
    · rename_i link error hpc
      simp only [Sender.Phase, hpc] at hphase
      cases h
      exact World.Ok.sendFails hw.once hphase _
    · cases h
  | flush result =>
    simp only [forwardStep] at h
    split at h <;> cases h
    · rename_i link hpc
      simp only [Sender.Phase, hpc] at hphase
      exact ⟨hw.once, hphase.goto [] (.inr (.inr (.inr rfl))) _⟩
    · rename_i link error hpc
      simp only [Sender.Phase, hpc] at hphase
      exact World.Ok.sendFails hw.once hphase _
  | read incoming =>
    simp only [forwardStep] at h
    split at h <;> cases h
    rename_i link hpc
    simp only [Sender.Phase, hpc] at hphase
    have hclosed := w.closed_around link
    refine ⟨hclosed.once hw.once, ?_⟩
    simp only [World.sendReturns, hclosed.sender]
    exact hphase.sendReturns readReply_ne_unavailable
  | claim result =>
    simp only [forwardStep] at h
    split at h
    · rename_i message hpc
      simp only [Sender.Phase, hpc] at hphase
      cases h
      exact ⟨hw.once, .inl ⟨hphase.1.goto, by simp [World.goto, hphase.2]⟩⟩
    · rename_i hpc
      simp only [Sender.Phase, hpc] at hphase
      cases h
      exact ⟨hw.once, ⟨hphase.1.opened, hphase.1.written, hphase.1.sendResult⟩, by simp [hphase.2]⟩
    · rename_i hpc
      simp only [Sender.Phase, hpc] at hphase
      cases h
      exact ⟨hw.once, .inl ⟨hphase.1.goto, by simp [World.goto, hphase.2]⟩⟩
    · cases h
  | fallbackReturns result =>
    simp only [forwardStep] at h
    split at h <;> cases h
    rename_i hpc
    simp only [Sender.Phase, hpc] at hphase
    exact ⟨hw.once, .inl ⟨hphase.1.goto, by simp [World.goto, hphase.2]⟩⟩

/-! ## Effects -/

/-- A runtime handles at most one request of a connection. -/
theorem countP_handled_le {s : St Handle} (hs : Tokens s) (id : Nat) :
    s.handled.countP (·.id == id) ≤ 1 := by
  have hcount := List.nodup_iff_count_le_one.1 hs.handled_nodup id
  rwa [List.count, List.countP_map] at hcount

theorem remoteRuns_le (hw : w.Once) : w.remoteRuns ≤ w.sender.opened.length := by
  unfold World.remoteRuns
  refine (List.sum_le_card_nsmul _ 1 fun n hn => ?_).trans (by simp)
  obtain ⟨link, -, rfl⟩ := List.mem_map.1 hn
  split
  · rename_i runtime hr
    exact countP_handled_le (hw runtime (List.mem_of_getElem? hr)) link.id
  · omega

/-- **A command is applied at most once.** In every world that can be reached: Unavailable was
returned only if no connection was opened and no byte was written, and only then was the local
fallback called; the runtimes and the fallback together have run the command at most once; and if a
connection was opened and the exchange failed, the command ended with the error. -/
theorem command_applied_at_most_once (J : Json) (path : String)
    (payload : Except String (List UInt8)) (replies : Replies) (as : List (ForwardAct Handle))
    (h : exec (forwardStep J path payload replies) {} as = some w) :
    (w.sender.sendResult = some (.error .unavailable) → w.sender.written = [] ∧
      w.sender.opened = []) ∧
    (0 < w.sender.localRuns →
      w.sender.sendResult = some (.error .unavailable) ∧ w.remoteRuns = 0) ∧
    w.remoteRuns + w.sender.localRuns ≤ 1 ∧
    (∀ error, w.sender.opened ≠ [] → w.sender.sendResult = some (.error error) →
      ∃ message, error = .transport message ∧ w.sender.pc = .returned (.error message)) := by
  have hw : w.Ok := by
    refine inv_of_exec (I := World.Ok) (fun s a t hs h => hs.step h) ?_ h
    exact ⟨by simp [World.Once], rfl, rfl, rfl, rfl⟩
  have hremote := remoteRuns_le hw.once
  rcases hw.phase.summary with hp | ⟨link, hp⟩ | ⟨hp, hruns⟩ | ⟨result, hpc, hp⟩
  · rw [hp.opened, List.length_nil] at hremote
    refine ⟨by simp [hp.sendResult], by simp [hp.localRuns], ?_, by simp [hp.sendResult]⟩
    rw [hp.localRuns]
    omega
  · rw [hp.opened, List.length_singleton] at hremote
    refine ⟨by simp [hp.sendResult], by simp [hp.localRuns], ?_, by simp [hp.sendResult]⟩
    rw [hp.localRuns]
    omega
  · rw [hp.opened, List.length_nil] at hremote
    exact ⟨fun _ => ⟨hp.written, hp.opened⟩, fun _ => ⟨hp.sendResult, by omega⟩, by omega,
      fun error hne => absurd hp.opened hne⟩
  · obtain ⟨sent, hsent, hne, hresult⟩ := hp.sent
    have hopened := hp.opened
    refine ⟨fun he => ?_, by simp [hp.localRuns], ?_, fun error _ he => ?_⟩
    · rw [hsent] at he
      exact absurd (Option.some.inj he) hne
    · rw [hp.localRuns]
      omega
    · rw [hsent] at he
      cases Option.some.inj he
      cases error with
      | unavailable => exact absurd rfl hne
      | transport message => exact ⟨message, rfl, by rw [hpc, ← hresult]; rfl⟩

/-- No pipe is there in any of the attempts, the claim is Primary, and the command runs locally. -/
def fallbackRun : List (ForwardAct Unit) :=
  .name (.ok ()) ::
    (List.replicate 20 (.openFails "The system cannot find the file specified." (some 2)) ++
    [.claim (.ok .primary), .fallbackReturns (.ok 0)])

theorem command_applied_at_most_once_fallback :
    ∃ w : World Unit,
      exec (forwardStep .sample "pipe" (.ok (Json.sample.line (.setMode .block))) .sample)
        {} fallbackRun = some w ∧
      w.sender.localRuns = 1 ∧ w.sender.written = [] ∧ w.remoteRuns = 0 :=
  have happlied :=
    command_applied_at_most_once .sample "pipe" (.ok (Json.sample.line (.setMode .block))) .sample
    fallbackRun rfl
  ⟨_, rfl, rfl, (happlied.1 rfl).1, (happlied.2.1 (by decide)).2⟩

end Ipc
