import Wardoff.Ipc.Proof.Awaited
import Wardoff.Machine.Refinement
import Wardoff.Runtime.MessageLoop

/-!
# The message loop and its wake-ups

* `LoopStep`: what one step can do; `loopStep_cases` says that `loopStep` does nothing else.
* `loopRefinement`: the message loop is one way of taking the steps of the IPC system.
-/

namespace Runtime

open Ipc (Act St Json)
open Machine

variable {Handle : Type} {J : Json} {s t : LoopSt Handle}

/-! ## The transitions -/

inductive LoopStep (J : Json) (s : LoopSt Handle) : LoopAct Handle → LoopSt Handle → Prop where
  | system {a : Act Handle} {sys : St Handle} (hnot : inLoop a = false)
      (hsys : Ipc.step J s.sys a = some sys) :
    LoopStep J s (.system a) { s with sys, messages := s.messages ++ posted a }
  | post {message : Message} :
      LoopStep J s (.post message) { s with messages := s.messages ++ [message] }
  | peekNone (hui : s.sys.ui = .running) (hpc : s.pc = .peeking) (hmessages : s.messages = []) :
    LoopStep J s .peek { s with pc := .ipc true }
  | peekQuit {messages : List Message} {sys : St Handle} (hpc : s.pc = .peeking)
      (hmessages : s.messages = .quit :: messages)
        (hsys : Ipc.step J s.sys (.ui .leaveLoop) = some sys) :
    LoopStep J s .peek { s with messages, sys, pc := .left }
  | peekWake {message : Message} {messages : List Message} (hui : s.sys.ui = .running)
      (hpc : s.pc = .peeking) (hmessages : s.messages = message :: messages)
        (hne : message ≠ .quit) :
    LoopStep J s .peek { s with messages, pc := .ipc false }
  | peekOther {messages : List Message} (hui : s.sys.ui = .running) (hpc : s.pc = .peeking)
      (hmessages : s.messages = .other :: messages) :
    LoopStep J s .peek { s with messages, pc := .dispatching }
  | sent {e : Event Handle} {sys : St Handle} (hpc : s.pc = .peeking) (hwindow : e.ofWindow = true)
      (hsys : Ipc.step J s.sys (.ui (.event e)) = some sys) :
    LoopStep J s (.sent e) { s with sys, pc := .peeking }
  | dispatch {e : Event Handle} {sys : St Handle} (hpc : s.pc = .dispatching)
      (hwindow : e.ofWindow = true)
      (hsys : Ipc.step J s.sys (.ui (.event e)) = some sys) :
    LoopStep J s (.dispatch (some e)) { s with sys, pc := .ipc false }
  | dispatchNone (hpc : s.pc = .dispatching) :
      LoopStep J s (.dispatch none) { s with pc := .ipc false }
  | take {last : Bool} {sys : St Handle} (hpc : s.pc = .ipc last)
      (hsys : Ipc.step J s.sys (.ui .take) = some sys) :
    LoopStep J s .take { s with sys, pc := .ipc last }
  | finish {last : Bool} {o : RequestCalls Handle} {sys : St Handle} (hpc : s.pc = .ipc last)
      (hsys : Ipc.step J s.sys (.ui (.finish o)) = some sys) :
    LoopStep J s (.finish o) { s with sys, pc := .ipc last }
  | processed {last : Bool} (hpc : s.pc = .ipc last) (hui : s.sys.ui = .running)
      (hqueue : s.sys.queue = []) :
    LoopStep J s .processed { s with pc := .tray last }
  | drain {last : Bool} (hpc : s.pc = .tray last) (htray : s.trayService = true) :
    LoopStep J s .drain { s with pc := .acting last s.actions, actions := [] }
  | drainNone {last : Bool} (hpc : s.pc = .tray last) (htray : s.trayService = false) :
    LoopStep J s .drain { s with pc := .acting last [] }
  | actQuit {last : Bool} {actions : List TrayAction} {o : TrayCalls Handle} {sys : St Handle}
      (hpc : s.pc = .acting last (.quit :: actions))
        (hsys : Ipc.step J s.sys (.ui .leaveLoop) = some sys) :
    LoopStep J s (.act o) { s with performed := s.performed ++ [.quit], sys, pc := .left }
  | act {last : Bool} {action : TrayAction} {actions : List TrayAction} {o : TrayCalls Handle}
      {sys : St Handle}
      (hpc : s.pc = .acting last (action :: actions)) (hne : action ≠ .quit)
      (hsys : Ipc.step J s.sys (.ui (.event (.trayAction action o))) = some sys) :
    LoopStep J s (.act o)
      { s with performed := s.performed ++ [action], sys, pc := .acting last actions }
  | acted {last : Bool} (hpc : s.pc = .acting last []) :
    LoopStep J s .acted { s with pc := if last then .waiting else .peeking }
  | wake {sent : Bool} (hpc : s.pc = .waiting) (hwake : sent = true ∨ s.messages ≠ []) :
    LoopStep J s (.wake sent) { s with pc := .peeking }
  | waitFails {sys : St Handle} (hpc : s.pc = .waiting)
      (hsys : Ipc.step J s.sys (.ui .leaveLoop) = some sys) :
    LoopStep J s .waitFails { s with sys, pc := .left }
  | click {id : String} (htray : s.trayService = true) :
    LoopStep J s (.click id) { s with menu := s.menu ++ [id], clicked := s.clicked ++ [id] }
  | drainMenu {autostartEnabled : Bool} (hforward : s.forward = .idle) :
    LoopStep J s (.drainMenu autostartEnabled) { s with
      menu := []
      forward := .sending (s.menu.filterMap (actionForMenuId autostartEnabled)) false }
  | forward {action : TrayAction} {actions : List TrayAction} {forwardedAny : Bool}
      (hforward : s.forward = .sending (action :: actions) forwardedAny)
        (halive : s.sys.receiverAlive = true) :
    LoopStep J s .forward
      { s with actions := s.actions ++ [action], forward := .sending actions true }
  | forwardFails {action : TrayAction} {actions : List TrayAction} {forwardedAny : Bool}
      (hforward : s.forward = .sending (action :: actions) forwardedAny)
      (hdead : s.sys.receiverAlive = false) :
    LoopStep J s .forward { s with forward := if forwardedAny then .waking else .idle }
  | forwarded {forwardedAny : Bool} (hforward : s.forward = .sending [] forwardedAny) :
    LoopStep J s .forwarded { s with forward := if forwardedAny then .waking else .idle }
  | wakeMain {ok : Bool} (hforward : s.forward = .waking) :
    LoopStep J s (.wakeMain ok) { s with
      forward := .idle
      messages := if ok then s.messages ++ [.trayActionWake] else s.messages }

theorem steps_cases {a : Ipc.UiAct Handle} {pc : LoopPc} (h : s.steps J a pc = some t) :
    ∃ sys, Ipc.step J s.sys (.ui a) = some sys ∧ t = { s with sys, pc } := by
  obtain ⟨sys, hsys, rfl⟩ := Option.map_eq_some_iff.1 h
  exact ⟨sys, hsys, rfl⟩

theorem loopStep_cases {a : LoopAct Handle} (h : loopStep J s a = some t) : LoopStep J s a t := by
  cases a with
  | system a =>
    simp only [loopStep] at h
    split at h
    · cases h
    · obtain ⟨sys, hsys, rfl⟩ := Option.map_eq_some_iff.1 h
      exact .system (eq_false_of_ne_true ‹_›) hsys
  | post message =>
    cases h
    exact .post
  | peek =>
    simp only [loopStep] at h
    split at h
    · cases h
      exact .peekNone ‹_› ‹_› ‹_›
    · split at h
      · obtain ⟨sys, hsys, rfl⟩ := steps_cases h
        exact .peekQuit ‹_› ‹_› hsys
      · cases h
        exact .peekWake ‹_› ‹_› ‹_› (by simp)
      · cases h
        exact .peekWake ‹_› ‹_› ‹_› (by simp)
      · cases h
        exact .peekOther ‹_› ‹_› ‹_›
    · cases h
  | sent e =>
    simp only [loopStep] at h
    split at h
    · split at h
      · obtain ⟨sys, hsys, rfl⟩ := steps_cases h
        exact .sent ‹_› ‹_› hsys
      · cases h
    · cases h
  | dispatch e =>
    simp only [loopStep] at h
    split at h
    · split at h
      · obtain ⟨sys, hsys, rfl⟩ := steps_cases h
        exact .dispatch ‹_› ‹_› hsys
      · cases h
    · cases h
      exact .dispatchNone ‹_›
    · cases h
  | take =>
    simp only [loopStep] at h
    split at h
    · obtain ⟨sys, hsys, rfl⟩ := steps_cases h
      exact .take ‹_› hsys
    · cases h
  | finish o =>
    simp only [loopStep] at h
    split at h
    · obtain ⟨sys, hsys, rfl⟩ := steps_cases h
      exact .finish ‹_› hsys
    · cases h
  | processed =>
    simp only [loopStep] at h
    split at h <;> cases h
    exact .processed ‹_› ‹_› ‹_›
  | drain =>
    simp only [loopStep] at h
    split at h
    · split at h <;> cases h
      · exact .drain ‹_› ‹_›
      · exact .drainNone ‹_› (eq_false_of_ne_true ‹_›)
    · cases h
  | act o =>
    simp only [loopStep] at h
    split at h
    · split at h
      · rename_i hquit
        obtain ⟨sys, hsys, rfl⟩ := steps_cases h
        subst hquit
        exact .actQuit ‹_› hsys
      · obtain ⟨sys, hsys, rfl⟩ := steps_cases h
        exact .act ‹_› ‹_› hsys
    · cases h
  | acted =>
    simp only [loopStep] at h
    split at h <;> cases h
    exact .acted ‹_›
  | wake sent =>
    simp only [loopStep] at h
    split at h
    · split at h
      · rename_i hwake
        cases h
        exact .wake ‹_› (by simpa using hwake)
      · cases h
    · cases h
  | waitFails =>
    simp only [loopStep] at h
    split at h
    · obtain ⟨sys, hsys, rfl⟩ := steps_cases h
      exact .waitFails ‹_› hsys
    · cases h
  | click id =>
    simp only [loopStep] at h
    split at h <;> cases h
    exact .click ‹_›
  | drainMenu autostartEnabled =>
    simp only [loopStep] at h
    split at h <;> cases h
    exact .drainMenu ‹_›
  | forward =>
    simp only [loopStep] at h
    split at h
    · split at h <;> cases h
      · exact .forward ‹_› ‹_›
      · exact .forwardFails ‹_› (eq_false_of_ne_true ‹_›)
    · cases h
  | forwarded =>
    simp only [loopStep] at h
    split at h <;> cases h
    exact .forwarded ‹_›
  | wakeMain ok =>
    simp only [loopStep] at h
    split at h <;> cases h
    exact .wakeMain ‹_›

/-! ## The steps of the IPC system -/

/-- The step of the IPC system that a step of the loop is, if it is one. -/
def ipcActs (s : LoopSt Handle) : LoopAct Handle → List (Act Handle)
  | .system a => [a]
  | .peek =>
    match s.messages with
    | .quit :: _ => [.ui .leaveLoop]
    | _ => []
  | .sent e => [.ui (.event e)]
  | .dispatch (some e) => [.ui (.event e)]
  | .take => [.ui .take]
  | .finish o => [.ui (.finish o)]
  | .act o =>
    match s.pc with
    | .acting _ (.quit :: _) => [.ui .leaveLoop]
    | .acting _ (action :: _) => [.ui (.event (.trayAction action o))]
    | _ => []
  | .waitFails => [.ui .leaveLoop]
  | _ => []

theorem exec_ipcActs {a : LoopAct Handle} (h : LoopStep J s a t) :
    exec (Ipc.step J) s.sys (ipcActs s a) = some t.sys := by
  have hone {b : Act Handle} {sys : St Handle} (hsys : Ipc.step J s.sys b = some sys) :
      exec (Ipc.step J) s.sys [b] = some sys := by rw [exec_cons hsys]; rfl
  cases h with
  | peekNone hui hpc hmessages => simp [ipcActs, hmessages]
  | peekQuit hpc hmessages hsys => simpa [ipcActs, hmessages] using hone hsys
  | peekWake hui hpc hmessages hne =>
    rename_i message messages
    cases message <;> simp [ipcActs, hmessages] at hne ⊢
  | peekOther hui hpc hmessages => simp [ipcActs, hmessages]
  | actQuit hpc hsys => simpa [ipcActs, hpc] using hone hsys
  | act hpc hne hsys =>
    rename_i last action actions o sys
    cases action with
    | quit => exact absurd rfl hne
    | _ => simpa [ipcActs, hpc] using hone hsys
  | system hnot hsys => exact hone hsys
  | sent hpc hwindow hsys => exact hone hsys
  | dispatch hpc hwindow hsys => exact hone hsys
  | take hpc hsys => exact hone hsys
  | finish hpc hsys => exact hone hsys
  | waitFails hpc hsys => exact hone hsys
  | _ => rfl

/-- The message loop is one way for the UI thread to take its steps. -/
def loopRefinement (Handle : Type) (J : Json) :
    Refinement (@loopStep Handle J) (@Ipc.step Handle J) where
  abs := LoopSt.sys
  emit := ipcActs
  matched h := exec_ipcActs (loopStep_cases h)

/-! ## A sleeping UI thread -/

/-- No request is looked for between this place and the next message. -/
def LoopPc.drained : LoopPc → Bool
  | .tray last => last
  | .acting last _ => last
  | .waiting => true
  | _ => false

/-- The UI thread is in its loop, and not in `process_ipc_requests`. -/
def LoopPc.betweenRequests : LoopPc → Bool
  | .dispatching => true
  | .tray _ => true
  | .acting _ _ => true
  | .waiting => true
  | _ => false

theorem LoopPc.betweenRequests_of_drained {pc : LoopPc} (h : pc.drained = true) :
    pc.betweenRequests = true := by
  cases pc <;> first | rfl | cases h

structure Roused (s : LoopSt Handle) : Prop where
  awaited : Ipc.Awaited s.sys
  running : s.pc.betweenRequests = true → s.sys.ui = .running
  /-- A worker that waits has left a message. -/
  message : s.pc.drained = true → ∀ id, s.sys.awaits id → s.sys.queued id → .ipcWake ∈ s.messages

/-- Outside of its loop the UI thread does not run. -/
theorem not_running_of_step {a : Ipc.UiAct Handle} {sys sys' : St Handle}
    (hnot : inLoop (.ui a) = false) (h : Ipc.step J sys (.ui a) = some sys') :
    sys.ui ≠ .running := by
  intro hui
  cases Ipc.uiStep_cases h with
  | take | finish | event | leaveLoop => cases hnot
  | _ => simp_all

/-- A step that is not the UI thread's leaves it where it is. -/
theorem running_of_step {a : Act Handle} {sys sys' : St Handle} (hnot : inLoop a = false)
    (h : Ipc.step J sys a = some sys') (hui : sys.ui = .running) : sys'.ui = .running := by
  cases a with
  | control a => exact (Ipc.controlStep_cases h).keeps.ui ▸ hui
  | status a => exact (Ipc.statusStep_cases h).keeps.ui ▸ hui
  | ui a => exact absurd hui (not_running_of_step hnot h)
  | client a => exact (Ipc.clientStep_cases h).keeps.ui ▸ hui

/-- A worker that begins to wait has just posted its message. -/
theorem awaits_of_step {a : Act Handle} {sys sys' : St Handle} (h : Ipc.step J sys a = some sys')
    {id : Nat} (hid : sys'.awaits id) : sys.awaits id ∨ posted a = [.ipcWake] := by
  cases a with
  | control a =>
    have hstep := Ipc.controlStep_cases h
    rcases hid with ⟨request, hid⟩ | hid
    · cases hstep with
      | wake hpc => exact .inr rfl
      | report hpc =>
        dsimp only at hid
        split at hid <;> cases hid
      | respond hpc =>
        dsimp only at hid
        split at hid <;> cases hid
      | _ => cases hid
    · exact .inl (.inr (hstep.keeps.status ▸ hid))
  | status a =>
    have hstep := Ipc.statusStep_cases h
    rcases hid with hid | hid
    · exact .inl (.inl (hstep.keeps.control ▸ hid))
    · cases hstep with
      | wake hpc => exact .inr rfl
      | report hpc =>
        dsimp only at hid
        split at hid <;> cases hid
      | _ => cases hid
  | ui a =>
    have hk := (Ipc.uiStep_cases h).keeps
    simp only [St.awaits, hk.control, hk.status] at hid
    exact .inl hid
  | client a =>
    have hk := (Ipc.clientStep_cases h).keeps
    simp only [St.awaits, hk.control, hk.status] at hid
    exact .inl hid

/-- An event changes the application only. -/
theorem event_cases {e : Event Handle} {sys sys' : St Handle}
    (h : Ipc.step J sys (.ui (.event e)) = some sys') :
    sys.ui = .running ∧ sys' = { sys with app := e.handle sys.app } := by
  have hstep : Ipc.uiStep J sys (.event e) = some sys' := h
  cases Ipc.uiStep_cases hstep with
  | event hpc => exact ⟨hpc, rfl⟩

/-- Nothing is to be shown of a UI thread that will look for requests, or has left its loop. -/
theorem roused_of_looking (hawaited : Ipc.Awaited s.sys) (hpc : s.pc.betweenRequests = false) :
    Roused s where
  awaited := hawaited
  running hbetween := by simp [hpc] at hbetween
  message hdrained := by simp [LoopPc.betweenRequests_of_drained hdrained] at hpc

/-- A step of another party. -/
theorem Roused.system {a : Act Handle} {sys : St Handle} (h : Roused s) (hnot : inLoop a = false)
    (hsys : Ipc.step J s.sys a = some sys) :
    Roused { s with sys, messages := s.messages ++ posted a } where
  awaited := h.awaited.step hsys
  running hpc := running_of_step hnot hsys (h.running hpc)
  message hpc id hid hqueued := by
    rcases awaits_of_step hsys hid with hs | hposted
    · refine List.mem_append_left _ (h.message hpc id hs ?_)
      exact Ipc.queued_of_step h.awaited hsys hs.waits hqueued
    · exact List.mem_append_right _ (by simp [hposted])

theorem Roused.step {a : LoopAct Handle} (h : Roused s) (hstep : loopStep J s a = some t) :
    Roused t := by
  cases loopStep_cases hstep with
  | system hnot hsys => exact h.system hnot hsys
  | post =>
    exact ⟨h.awaited, h.running,
      fun hpc id hid hq => List.mem_append_left _ (h.message hpc id hid hq)⟩
  | wakeMain hforward =>
    refine ⟨h.awaited, h.running, fun hpc id hid hq => ?_⟩
    dsimp only
    split
    · exact List.mem_append_left _ (h.message hpc id hid hq)
    · exact h.message hpc id hid hq
  | peekOther hui => exact ⟨h.awaited, fun _ => hui, by simp [LoopPc.drained]⟩
  | peekNone | peekWake | dispatchNone | wake => exact roused_of_looking h.awaited rfl
  | peekQuit hpc hmessages hsys | sent hpc hwindow hsys | dispatch hpc hwindow hsys =>
    exact roused_of_looking (h.awaited.step hsys) rfl
  | take hpc hsys | finish hpc hsys | actQuit hpc hsys | waitFails hpc hsys =>
    exact roused_of_looking (h.awaited.step hsys) rfl
  | processed hpc hui hqueue =>
    refine ⟨h.awaited, fun _ => hui, fun _ id _ hq => ?_⟩
    obtain ⟨p, hp, -⟩ := hq
    simp [hqueue] at hp
  | drain hpc | drainNone hpc =>
    exact ⟨h.awaited, fun _ => h.running (by rw [hpc]; rfl),
      fun hlast => h.message (by rw [hpc]; exact hlast)⟩
  | act hpc hne hsys =>
    obtain ⟨hui, rfl⟩ := event_cases hsys
    exact ⟨h.awaited.step hsys, fun _ => hui, fun hlast => h.message (by rw [hpc]; exact hlast)⟩
  | acted hpc =>
    refine ⟨h.awaited, fun _ => h.running (by rw [hpc]; rfl), fun hlast => h.message ?_⟩
    rw [hpc]
    dsimp only at hlast
    split at hlast
    · assumption
    · cases hlast
  | click | drainMenu | forward | forwardFails | forwarded =>
    exact ⟨h.awaited, h.running, h.message⟩

theorem roused_of_exec {controlClaim statusClaim : Bool} {app : Application Handle}
    {as : List (LoopAct Handle)}
    (h : exec (loopStep J) (.init controlClaim statusClaim app) as = some s) :
    Roused s := by
  refine inv_of_exec (fun s a t hs hstep => hs.step hstep) ?_ h
  exact roused_of_looking (Ipc.awaited_init controlClaim statusClaim app) rfl

/-- The UI thread sleeps. -/
def LoopSt.asleep (s : LoopSt Handle) : Prop := s.pc = .waiting ∧ s.messages = []

theorem Roused.answered (h : Roused s) (hasleep : s.asleep) {id : Nat} (hid : s.sys.awaits id) :
    (s.sys.replies.lookup id).isSome = true := by
  obtain ⟨hpc, hmessages⟩ := hasleep
  rcases h.awaited.queued_or_answered (h.running (by rw [hpc]; rfl)) hid with hq | hr
  · have hmem := h.message (by rw [hpc]; rfl) id hid hq
    simp [hmessages] at hmem
  · exact hr

/-! ## The UI thread gets to sleep -/

/-- The UI thread handles a request in `process_ipc_requests` only. -/
def HandlesInLoop (s : LoopSt Handle) : Prop :=
  ∀ p, s.sys.ui = .handling p → ∃ last, s.pc = .ipc last

theorem handling_of_step {a : Act Handle} {sys sys' : St Handle} (hnot : inLoop a = false)
    (h : Ipc.step J sys a = some sys') {p : Ipc.PendingRequest} (hui : sys'.ui = .handling p) :
    sys.ui = .handling p := by
  cases a with
  | control a => exact (Ipc.controlStep_cases h).keeps.ui ▸ hui
  | status a => exact (Ipc.statusStep_cases h).keeps.ui ▸ hui
  | client a => exact (Ipc.clientStep_cases h).keeps.ui ▸ hui
  | ui a =>
    have hleft {pc : Ipc.UiPc} (hpc : pc.leftLoop = true) : pc ≠ .handling p := by
      rintro rfl
      cases hpc
    cases Ipc.uiStep_cases h with
    | take | finish | event | leaveLoop => cases hnot
    | openStatusFails => exact absurd hui (hleft (Ipc.Stop.leftLoop_afterWake _))
    | closeStatus => exact absurd hui (hleft (Ipc.Stop.leftLoop_afterWake _))
    | openControlFails => exact absurd hui (hleft (Ipc.Stop.leftLoop_afterRequest _ _))
    | writeFails => exact absurd hui (hleft (Ipc.Stop.leftLoop_afterRequest _ _))
    | readReply => exact absurd hui (hleft (Ipc.Stop.leftLoop_afterRequest _ _))
    | replyLost => exact absurd hui (hleft (Ipc.Stop.leftLoop_afterRequest _ _))
    | joinStatus => exact absurd hui (hleft (Ipc.Stop.leftLoop_afterJoin _))
    | reject hpc => exact absurd hui (by simp [hpc])
    | _ => cases hui

theorem take_cases {sys sys' : St Handle} (h : Ipc.step J sys (.ui .take) = some sys') :
    sys.ui = .running ∧ ∃ pending rest, sys.queue = pending :: rest ∧
      sys' = { sys with queue := rest, ui := .handling pending } := by
  have hstep : Ipc.uiStep J sys .take = some sys' := h
  cases Ipc.uiStep_cases hstep with
  | take hpc hqueue => exact ⟨hpc, _, _, hqueue, rfl⟩

theorem finish_cases {sys sys' : St Handle} {o : RequestCalls Handle}
    (h : Ipc.step J sys (.ui (.finish o)) = some sys') :
    ∃ pending, sys.ui = .handling pending ∧ sys'.queue = sys.queue ∧ sys'.ui = .running := by
  have hstep : Ipc.uiStep J sys (.finish o) = some sys' := h
  cases Ipc.uiStep_cases hstep with
  | finish hpc => exact ⟨_, hpc, rfl, rfl⟩

theorem leaveLoop_cases {sys sys' : St Handle} (h : Ipc.step J sys (.ui .leaveLoop) = some sys') :
    sys.ui = .running ∧ sys' = { sys with ui := .requesting .begin } := by
  have hstep : Ipc.uiStep J sys .leaveLoop = some sys' := h
  cases Ipc.uiStep_cases hstep with
  | leaveLoop hpc => exact ⟨hpc, rfl⟩

theorem HandlesInLoop.step {a : LoopAct Handle} (h : HandlesInLoop s)
    (hstep : loopStep J s a = some t) :
    HandlesInLoop t := by
  intro p hui
  cases loopStep_cases hstep with
  | system hnot hsys => exact h p (handling_of_step hnot hsys hui)
  | peekQuit hpc hmessages hsys | actQuit hpc hsys | waitFails hpc hsys =>
    obtain ⟨-, rfl⟩ := leaveLoop_cases hsys
    cases hui
  | sent hpc hwindow hsys | act hpc hne hsys =>
    obtain ⟨hrun, rfl⟩ := event_cases hsys
    simp [hrun] at hui
  | peekNone hrun | peekOther hrun => simp [hrun] at hui
  | peekWake | dispatch | dispatchNone | take | finish => exact ⟨_, rfl⟩
  | processed hpc hrun => simp [hrun] at hui
  | drain hpc | drainNone hpc | acted hpc | wake hpc =>
    obtain ⟨last, hlast⟩ := h p hui
    simp [hpc] at hlast
  | post | click | drainMenu | forward | forwardFails | forwarded | wakeMain => exact h p hui

/-- The steps the UI thread takes by itself, of which `WaitMessage` is one if there is a message. -/
def LoopAct.own : LoopAct Handle → Bool
  | .peek => true
  | .dispatch _ => true
  | .take => true
  | .finish _ => true
  | .processed => true
  | .drain => true
  | .act _ => true
  | .acted => true
  | .wake forWindow => !forWindow
  | _ => false

def LoopPc.toAct : LoopPc → List TrayAction
  | .acting _ actions => actions
  | _ => []

/-- How far the UI thread is from its sleep, or with `more` messages to come from looking for
them. -/
def LoopPc.distance (more : Bool) : LoopPc → Nat
  | .peeking => 4
  | .dispatching => 8
  | .ipc last => if last then 3 + 5 * more.toNat else 7
  | .tray last => if last then 2 + 5 * more.toNat else 6
  | .acting last _ => if last then 1 + 5 * more.toNat else 5
  | .waiting => 5 * more.toNat
  | .left => 0

/-- What the UI thread has before it. -/
def LoopSt.work (s : LoopSt Handle) : Nat :=
  5 * s.messages.length + s.pc.distance (!s.messages.isEmpty) + 2 * s.sys.queue.length +
    s.sys.ui.inHand.length + s.actions.length + s.pc.toAct.length

theorem work_step {a : LoopAct Handle} (ha : a.own = true) (hstep : loopStep J s a = some t) :
    t.work < s.work := by
  cases loopStep_cases hstep with
  | peekNone hui hpc hmessages => simp [LoopSt.work, LoopPc.distance, LoopPc.toAct, hpc, hmessages]
  | peekQuit hpc hmessages hsys =>
    obtain ⟨hui, rfl⟩ := leaveLoop_cases hsys
    simp [LoopSt.work, LoopPc.distance, LoopPc.toAct, hpc, hmessages, hui, Ipc.UiPc.inHand]
    omega
  | peekWake hui hpc hmessages => 
    simp [LoopSt.work, LoopPc.distance, LoopPc.toAct, hpc, hmessages, hui, Ipc.UiPc.inHand]
    omega
  | peekOther hui hpc hmessages =>
    simp [LoopSt.work, LoopPc.distance, LoopPc.toAct, hpc, hmessages, hui, Ipc.UiPc.inHand]
    omega
  | dispatch hpc hwindow hsys =>
    obtain ⟨hui, rfl⟩ := event_cases hsys
    simp [LoopSt.work, LoopPc.distance, LoopPc.toAct, hpc]
  | dispatchNone hpc => simp [LoopSt.work, LoopPc.distance, LoopPc.toAct, hpc]
  | take hpc hsys =>
    obtain ⟨hui, pending, rest, hqueue, rfl⟩ := take_cases hsys
    simp [LoopSt.work, hpc, hqueue, hui, Ipc.UiPc.inHand]
    omega
  | finish hpc hsys =>
    obtain ⟨pending, hui, hqueue, hrun⟩ := finish_cases hsys
    simp [LoopSt.work, hpc, hqueue, hui, hrun, Ipc.UiPc.inHand]
  | processed hpc hui hqueue =>
    rename_i last
    cases last <;> simp [LoopSt.work, LoopPc.distance, LoopPc.toAct, hpc]
  | drain hpc htray =>
    rename_i last
    cases last <;> simp [LoopSt.work, LoopPc.distance, LoopPc.toAct, hpc]
  | drainNone hpc htray =>
    rename_i last
    cases last <;> simp [LoopSt.work, LoopPc.distance, LoopPc.toAct, hpc]
  | actQuit hpc hsys =>
    obtain ⟨hui, rfl⟩ := leaveLoop_cases hsys
    simp [LoopSt.work, LoopPc.distance, LoopPc.toAct, hpc, hui, Ipc.UiPc.inHand]
    omega
  | act hpc hne hsys =>
    obtain ⟨hui, rfl⟩ := event_cases hsys
    simp [LoopSt.work, LoopPc.distance, LoopPc.toAct, hpc]
  | acted hpc =>
    rename_i last
    cases last <;> simp [LoopSt.work, LoopPc.distance, LoopPc.toAct, hpc]
  | wake hpc hwake =>
    obtain ⟨message, messages, hmessages⟩ :
        ∃ message messages, s.messages = message :: messages := by
      refine List.exists_cons_of_ne_nil (hwake.resolve_left fun hsent => ?_)
      simp [LoopAct.own, hsent] at ha
    simp [LoopSt.work, LoopPc.distance, LoopPc.toAct, hpc, hmessages]
  | _ => cases ha

/-- The UI thread is in its message loop, or out of it again. -/
def LoopSt.entered (s : LoopSt Handle) : Prop :=
  s.sys.ui = .running ∨ (∃ p, s.sys.ui = .handling p) ∨ s.pc = .left

theorem entered_step {a : LoopAct Handle} (ha : a.own = true) (h : s.entered)
    (hstep : loopStep J s a = some t) : t.entered := by
  cases loopStep_cases hstep with
  | peekQuit | actQuit => exact .inr (.inr rfl)
  | dispatch hpc hwindow hsys | act hpc hne hsys =>
    obtain ⟨hui, rfl⟩ := event_cases hsys
    exact .inl hui
  | take hpc hsys =>
    obtain ⟨-, pending, -, -, rfl⟩ := take_cases hsys
    exact .inr (.inl ⟨pending, rfl⟩)
  | finish hpc hsys =>
    obtain ⟨-, -, -, hrun⟩ := finish_cases hsys
    exact .inl hrun
  | peekNone hui | peekWake hui | peekOther hui => exact .inl hui
  | processed hpc hui => exact .inl hui
  | dispatchNone hpc | drain hpc | drainNone hpc | acted hpc | wake hpc =>
    rcases h with hrun | hhandling | hleft
    · exact .inl hrun
    · exact .inr (.inl hhandling)
    · simp [hpc] at hleft
  | _ => cases ha

/-- Whatever the calls of the handlers return, the UI thread has a next step, unless it sleeps. -/
theorem own_enabled (hentered : s.entered) (hhandles : HandlesInLoop s)
    (hleft : s.pc ≠ .left) (hawake : ¬ s.asleep) (o : RequestCalls Handle) (p : TrayCalls Handle) :
    ∃ a : LoopAct Handle, a.own = true ∧ (loopStep J s a).isSome = true := by
  have hrunning (hpc : ∀ last, s.pc ≠ .ipc last) : s.sys.ui = .running := by
    rcases hentered with hrun | ⟨q, hq⟩ | h
    · exact hrun
    · obtain ⟨last, hlast⟩ := hhandles q hq
      exact absurd hlast (hpc last)
    · exact absurd h hleft
  have hleave (hui : s.sys.ui = .running) : Ipc.step J s.sys (.ui .leaveLoop) =
      some { s.sys with ui := .requesting .begin } := by simp [Ipc.step, Ipc.uiStep, hui]
  cases hpc : s.pc with
  | peeking =>
    have hui := hrunning (by simp [hpc])
    refine ⟨.peek, rfl, ?_⟩
    cases hm : s.messages with
    | nil => simp [loopStep, hpc, hui, hm]
    | cons message messages =>
      cases message <;> simp [loopStep, LoopSt.steps, hpc, hui, hm, hleave hui]
  | dispatching => exact ⟨.dispatch none, rfl, by simp [loopStep, hpc]⟩
  | ipc last =>
    rcases hentered with hui | ⟨q, hq⟩ | h
    · cases hqueue : s.sys.queue with
      | nil => exact ⟨.processed, rfl, by simp [loopStep, hpc, hui, hqueue]⟩
      | cons pending rest =>
        refine ⟨.take, rfl, ?_⟩
        simp [loopStep, LoopSt.steps, Ipc.step, Ipc.uiStep, hpc, hui, hqueue]
    · refine ⟨.finish o, rfl, ?_⟩
      simp [loopStep, LoopSt.steps, Ipc.step, Ipc.uiStep, hpc, hq]
    · exact absurd h hleft
  | tray last => exact ⟨.drain, rfl, by cases ht : s.trayService <;> simp [loopStep, hpc, ht]⟩
  | acting last actions =>
    have hui := hrunning (by simp [hpc])
    cases actions with
    | nil => exact ⟨.acted, rfl, by simp [loopStep, hpc]⟩
    | cons action actions =>
      refine ⟨.act p, rfl, ?_⟩
      by_cases hquit : action = .quit
      · simp [loopStep, LoopSt.steps, hpc, hquit, hleave hui]
      · simp [loopStep, LoopSt.steps, Ipc.step, Ipc.uiStep, hpc, hquit, hui]
  | waiting =>
    refine ⟨.wake false, rfl, ?_⟩
    have hmore : s.messages ≠ [] := fun hm => hawake ⟨hpc, hm⟩
    simp [loopStep, hpc, hmore]
  | left => exact absurd hpc hleft

theorem handlesInLoop_of_exec {controlClaim statusClaim : Bool} {app : Application Handle}
    {as : List (LoopAct Handle)}
    (h : exec (loopStep J) (.init controlClaim statusClaim app) as = some s) :
    HandlesInLoop s := by
  refine inv_of_exec (fun s a t hs hstep => hs.step hstep) (fun p hp => ?_) h
  cases hp

/-- **The UI thread owes no reply in its sleep.** Left to itself, the UI thread takes no more steps
in its message loop than it has work before it, and stops only when it is out of the loop or asleep.
Whenever it sleeps, every worker that waits for a reply has it. -/
theorem sleeping_ui_owes_no_reply {controlClaim statusClaim : Bool} {app : Application Handle}
    {as us : List (LoopAct Handle)}
    (h : exec (loopStep J) (.init controlClaim statusClaim app) as = some s) (hentered : s.entered)
    (hus : ∀ a ∈ us, a.own = true) (hmore : exec (loopStep J) s us = some t)
    (o : RequestCalls Handle) (p : TrayCalls Handle) :
    us.length ≤ s.work ∧
      ((∀ a : LoopAct Handle, a.own = true → loopStep J t a = none) → t.pc = .left ∨ t.asleep) ∧
      (t.asleep → ∀ id, t.sys.awaits id → (t.sys.replies.lookup id).isSome = true) := by
  have hrun : exec (loopStep J) (.init controlClaim statusClaim app) (as ++ us) = some t := by
    rw [exec_append, h]
    exact hmore
  have hown : Along (loopStep J) (fun _ a => a.own = true) s us :=
    along_of_mem fun a ha _ => hus a ha
  have hlength := length_add_rank_le (fun _ _ _ ha hstep => work_step ha hstep) hown hmore
  have ht : t.entered :=
    inv_of_along (fun _ _ _ hs ha hstep => entered_step ha hs hstep) hentered hown hmore
  refine ⟨by omega, fun hstuck => ?_,
    fun hasleep id hid => (roused_of_exec hrun).answered hasleep hid⟩
  by_contra hgo
  obtain ⟨hleft, hawake⟩ := not_or.1 hgo
  obtain ⟨a, ha, hsome⟩ := own_enabled (J := J) ht (handlesInLoop_of_exec hrun) hleft hawake o p
  simp [hstuck a ha] at hsome

/-- A runtime with a tray goes to sleep. -/
def sleepRun : List (LoopAct Unit) :=
  Ipc.startupRun.map .system ++ ([.peek, .processed, .drain, .acted] : List (LoopAct Unit))

/-- A status client comes while the UI thread sleeps; the worker has posted its message. -/
def statusWakesRun : List (LoopAct Unit) :=
  sleepRun ++
    ([.status .lock, .status (.publish true), .status .unlock, .status .connect,
    .client .openStatus,
    .status .accept, .status .recheck, .status .enqueue, .status (.wake true)] :
    List (Act Unit)).map .system

/-- The UI thread wakes up, handles the request and goes back to sleep. -/
def statusHandledRun : List (LoopAct Unit) :=
  [.wake false, .peek, .take, .finish (.succeed ()), .processed, .drain, .acted, .peek, .processed,
    .drain, .acted]

def trayApp : Application Unit := { blockerCoordinator := {}, trayService := some {} }

theorem status_answered_before_sleep :
    ∃ s t : LoopSt Unit, exec (loopStep .sample) (.init true true trayApp) statusWakesRun = some s ∧
      exec (loopStep .sample) s statusHandledRun = some t ∧ t.asleep ∧ t.sys.awaits 0 ∧
      (t.sys.replies.lookup 0).isSome = true := by
  have hrun : (exec (loopStep .sample) (.init true true trayApp) statusWakesRun).any (fun s =>
      s.sys.ui = .running && (exec (loopStep .sample) s statusHandledRun).any fun t =>
        t.pc = .waiting && t.messages.isEmpty && t.sys.status = .awaiting 0) = true := by
    decide +kernel
  obtain ⟨s, hs, h⟩ := Option.any_eq_true _ _ |>.1 hrun
  rw [Bool.and_eq_true, decide_eq_true_eq] at h
  obtain ⟨hui, hany⟩ := h
  obtain ⟨t, ht, h⟩ := Option.any_eq_true _ _ |>.1 hany
  rw [Bool.and_eq_true, Bool.and_eq_true, decide_eq_true_eq, decide_eq_true_eq,
    List.isEmpty_iff] at h
  obtain ⟨⟨hpc, hmessages⟩, hstatus⟩ := h
  refine ⟨s, t, hs, ht, ⟨hpc, hmessages⟩, .inr hstatus, ?_⟩
  exact (sleeping_ui_owes_no_reply hs (.inl hui) (by simp [statusHandledRun, LoopAct.own]) ht
    (.succeed ())
    (.succeed ())).2.2 ⟨hpc, hmessages⟩ 0 (.inr hstatus)

end Runtime
