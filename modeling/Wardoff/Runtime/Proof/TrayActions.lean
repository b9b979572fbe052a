import Wardoff.Ipc.Proof.Server
import Wardoff.Runtime.Proof.MessageLoop

/-!
# The clicks on the tray menu

A click goes through the tray thread's event queue, the channel of the actions and a batch of the UI
thread before it is handled.

* `Ordered.step`: on this way the clicks stay in their order, and none gets lost but behind a Quit.
* `Announced.step`: an action in the channel of a sleeping UI thread is announced.
* `tray_actions_in_order`: the actions that were performed are the first clicks, and all of them
  when the UI thread sleeps and the tray thread has forwarded what it had.
* `message_loop_refines_server`: the application changes as that of a server that takes the requests
  and these actions one at a time.
-/

namespace Runtime

open Ipc (Act St Json)
open Machine

variable {Handle : Type} {J : Json} {s t : LoopSt Handle}

/-! ## Menu items -/

/-- The item of an action. -/
def TrayAction.menuId : TrayAction → String
  | .block => "wardoff.block"
  | .allow => "wardoff.allow"
  | .setAutostart _ => "wardoff.autostart"
  | .shutdown => "wardoff.shutdown"
  | .reboot => "wardoff.reboot"
  | .sleep => "wardoff.sleep"
  | .hibernate => "wardoff.hibernate"
  | .quit => "wardoff.quit"

/-- The id is one of an item of the menu. -/
def isMenuId (id : String) : Bool := (actionForMenuId false id).isSome

/-- Whether the Start with Windows item is checked does not matter for which ids are known. -/
theorem actionForMenuId_isSome (autostartEnabled : Bool) (id : String) :
    (actionForMenuId autostartEnabled id).isSome = isMenuId id := by
  simp only [isMenuId, actionForMenuId, apply_ite Option.isSome, Option.isSome_some]

theorem menuId_of_action {autostartEnabled : Bool} {id : String} {action : TrayAction}
    (h : actionForMenuId autostartEnabled id = some action) : action.menuId = id := by
  unfold actionForMenuId at h
  -- one item after the other
  iterate 8
    split at h
    · rename_i hid
      cases h
      exact hid.symm
  cases h

theorem map_menuId_filterMap (autostartEnabled : Bool) (ids : List String) :
    (ids.filterMap (actionForMenuId autostartEnabled)).map TrayAction.menuId =
      ids.filter isMenuId := by
  induction ids with
  | nil => rfl
  | cons id ids ih =>
    have his := actionForMenuId_isSome autostartEnabled id
    cases haction : actionForMenuId autostartEnabled id with
    | some action =>
      rw [haction] at his
      rw [List.filterMap_cons_some haction, List.filter_cons_of_pos his.symm, List.map_cons,
        menuId_of_action haction, ih]
    | none =>
      rw [haction] at his
      rw [List.filterMap_cons_none haction, List.filter_cons_of_neg (by simp [← his]), ih]

/-! ## The way of a click -/

def ForwardPc.toSend : ForwardPc → List TrayAction
  | .sending actions _ => actions
  | _ => []

/-- The clicks that are on their way, the first one first. -/
def LoopSt.underway (s : LoopSt Handle) : List String :=
  (s.pc.toAct ++ s.actions ++ s.forward.toSend).map TrayAction.menuId ++ s.menu.filter isMenuId

structure Ordered (s : LoopSt Handle) : Prop where
  alive : s.sys.ui.leftLoop = false → s.sys.receiverAlive = true
  inOrder : s.performed.map TrayAction.menuId <+: s.clicked.filter isMenuId
  complete : s.pc ≠ .left → s.sys.receiverAlive = true →
    s.performed.map TrayAction.menuId ++ s.underway = s.clicked.filter isMenuId
  quits : .quit ∈ s.performed → s.pc = .left ∧ ∃ before, s.performed = before ++ [.quit] ∧
    .quit ∉ before

/-- The queue's receiver is dropped after the loop, and for good. -/
theorem receiverAlive_of_step {a : Act Handle} {sys sys' : St Handle}
    (h : Ipc.step J sys a = some sys') (hs : sys.ui.leftLoop = false → sys.receiverAlive = true) :
    (sys'.ui.leftLoop = false → sys'.receiverAlive = true) ∧
      (sys'.receiverAlive = true → sys.receiverAlive = true) := by
  cases a with
  | control a =>
    have hk := (Ipc.controlStep_cases h).keeps
    rw [hk.ui, hk.receiverAlive]
    exact ⟨hs, id⟩
  | status a =>
    have hk := (Ipc.statusStep_cases h).keeps
    rw [hk.ui, hk.receiverAlive]
    exact ⟨hs, id⟩
  | ui a =>
    have hstep := Ipc.uiStep_cases h
    have hloop := hstep.inLoop_of
    cases hstep with
    | dropApplication => exact ⟨fun hl => (by cases hl), fun ha => (by cases ha)⟩
    | _ => exact ⟨fun hl => hs (hloop hl), id⟩
  | client a =>
    have hk := (Ipc.clientStep_cases h).keeps
    rw [hk.ui, hk.receiverAlive]
    exact ⟨hs, id⟩

theorem ordered_init (controlClaim statusClaim : Bool) (app : Application Handle) :
    Ordered (LoopSt.init controlClaim statusClaim app) where
  alive _ := rfl
  inOrder := List.nil_prefix
  complete _ _ := rfl
  quits hquit := by cases hquit

/-- A step that performs no action keeps what is on its way, or ends the loop. -/
theorem Ordered.move (h : Ordered s)
    (halive : (t.sys.ui.leftLoop = false → t.sys.receiverAlive = true) ∧
      (t.sys.receiverAlive = true → s.sys.receiverAlive = true))
    (hperformed : t.performed = s.performed) (hclicked : t.clicked = s.clicked)
    (hleft : s.pc = .left → t.pc = .left)
    (hway : t.pc ≠ .left → t.sys.receiverAlive = true → t.underway = s.underway) : Ordered t where
  alive := halive.1
  inOrder := by
    rw [hperformed, hclicked]
    exact h.inOrder
  complete hpc hrx := by
    rw [hperformed, hclicked, hway hpc hrx]
    exact h.complete (mt hleft hpc) (halive.2 hrx)
  quits hquit := by
    rw [hperformed] at hquit ⊢
    obtain ⟨hpc, hbefore⟩ := h.quits hquit
    exact ⟨hleft hpc, hbefore⟩

/-- An action is performed. -/
theorem Ordered.act (h : Ordered s) {last : Bool} {action : TrayAction} {actions : List TrayAction}
    {pc : LoopPc} {sys : St Handle} (hpc : s.pc = .acting last (action :: actions))
    (hui : s.sys.ui = .running)
    (halive : (sys.ui.leftLoop = false → sys.receiverAlive = true) ∧
      (sys.receiverAlive = true → s.sys.receiverAlive = true))
    (hnext : if action = .quit then pc = .left else pc = .acting last actions) :
    Ordered { s with performed := s.performed ++ [action], sys, pc } := by
  have hrunning : s.pc ≠ .left := by simp [hpc]
  have hrx := h.alive (by rw [hui]; rfl)
  have hway := h.complete hrunning hrx
  have hcut : s.performed.map TrayAction.menuId ++ action.menuId ::
      ((actions ++ s.actions ++ s.forward.toSend).map TrayAction.menuId ++ s.menu.filter isMenuId) =
      s.clicked.filter isMenuId := by
    simpa [LoopSt.underway, hpc, LoopPc.toAct] using hway
  have hbefore : .quit ∉ s.performed := fun hquit => hrunning (h.quits hquit).1
  refine ⟨halive.1, ?_, fun hne _ => ?_, fun hquit => ?_⟩
  · refine ⟨(actions ++ s.actions ++ s.forward.toSend).map TrayAction.menuId ++
      s.menu.filter isMenuId, ?_⟩
    simpa using hcut
  · split at hnext
    · exact absurd hnext hne
    · subst hnext
      simpa [LoopSt.underway, LoopPc.toAct] using hcut
  · obtain rfl : action = .quit := by
      rcases List.mem_append.1 hquit with hq | hq
      · exact absurd hq hbefore
      · exact (List.mem_singleton.1 hq).symm
    rw [if_pos rfl] at hnext
    exact ⟨hnext, s.performed, rfl, hbefore⟩

theorem Ordered.click (h : Ordered s) (id : String) :
    Ordered { s with menu := s.menu ++ [id], clicked := s.clicked ++ [id] } where
  alive := h.alive
  inOrder := by
    rw [List.filter_append]
    exact h.inOrder.trans (List.prefix_append _ _)
  complete hpc hrx := by
    rw [List.filter_append, ← h.complete hpc hrx]
    simp [LoopSt.underway]
  quits := h.quits

theorem Ordered.step {a : LoopAct Handle} (h : Ordered s) (hstep : loopStep J s a = some t) :
    Ordered t := by
  have hsame : (s.sys.ui.leftLoop = false → s.sys.receiverAlive = true) ∧
      (s.sys.receiverAlive = true → s.sys.receiverAlive = true) := ⟨h.alive, id⟩
  have hmoved {a : Act Handle} {sys : St Handle} (hsys : Ipc.step J s.sys a = some sys) :=
    receiverAlive_of_step hsys h.alive
  cases loopStep_cases hstep with
  | actQuit hpc hsys => exact h.act hpc (leaveLoop_cases hsys).1 (hmoved hsys) (by simp)
  | act hpc hne hsys => exact h.act hpc (event_cases hsys).1 (hmoved hsys) (by simp [hne])
  | click => exact h.click _
  | system hnot hsys => exact h.move (hmoved hsys) rfl rfl id fun _ _ => rfl
  | peekQuit hpc hmessages hsys =>
    exact h.move (hmoved hsys) rfl rfl (fun _ => rfl) fun hne => absurd rfl hne
  | waitFails hpc hsys =>
    exact h.move (hmoved hsys) rfl rfl (fun _ => rfl) fun hne => absurd rfl hne
  | sent hpc hwindow hsys | dispatch hpc hwindow hsys | take hpc hsys | finish hpc hsys =>
    refine h.move (hmoved hsys) rfl rfl (by simp [hpc]) fun _ _ => ?_
    simp [LoopSt.underway, LoopPc.toAct, hpc]
  | peekNone hui hpc | peekWake hui hpc | peekOther hui hpc | dispatchNone hpc | processed hpc
  | wake hpc =>
    refine h.move hsame rfl rfl (by simp [hpc]) fun _ _ => ?_
    simp [LoopSt.underway, LoopPc.toAct, hpc]
  | drain hpc | drainNone hpc =>
    refine h.move hsame rfl rfl (by simp [hpc]) fun _ _ => ?_
    simp [LoopSt.underway, LoopPc.toAct, hpc]
  | acted hpc =>
    rename_i last
    refine h.move hsame rfl rfl (by simp [hpc]) fun _ _ => ?_
    cases last <;> simp [LoopSt.underway, LoopPc.toAct, hpc]
  | post => exact h.move hsame rfl rfl id fun _ _ => rfl
  | drainMenu hforward =>
    refine h.move hsame rfl rfl id fun _ _ => ?_
    simp [LoopSt.underway, ForwardPc.toSend, hforward, map_menuId_filterMap]
  | forward hforward halive =>
    refine h.move hsame rfl rfl id fun _ _ => ?_
    simp [LoopSt.underway, ForwardPc.toSend, hforward]
  | forwardFails hforward hdead => exact h.move hsame rfl rfl id fun _ hrx => by simp [hdead] at hrx
  | forwarded hforward =>
    rename_i forwardedAny
    refine h.move hsame rfl rfl id fun _ _ => ?_
    cases forwardedAny <;> simp [LoopSt.underway, ForwardPc.toSend, hforward]
  | wakeMain hforward =>
    refine h.move hsame rfl rfl id fun _ _ => ?_
    simp [LoopSt.underway, ForwardPc.toSend, hforward]

/-! ## Wake-ups for actions -/

/-- No action is looked for between this place and the next message. -/
def LoopPc.actionsDrained : LoopPc → Bool
  | .acting last _ => last
  | .waiting => true
  | _ => false

/-- The tray thread has sent an action and is going to wake the UI thread. -/
def ForwardPc.announces : ForwardPc → Bool
  | .sending _ forwardedAny => forwardedAny
  | .waking => true
  | .idle => false

structure Announced (s : LoopSt Handle) : Prop where
  headless : s.trayService = false → s.actions = [] ∧ s.forward.toSend = [] ∧ s.menu = []
  message : s.pc.actionsDrained = true → s.actions ≠ [] →
    .trayActionWake ∈ s.messages ∨ s.forward.announces = true

theorem announced_init (controlClaim statusClaim : Bool) (app : Application Handle) :
    Announced (LoopSt.init controlClaim statusClaim app) :=
  ⟨fun _ => ⟨rfl, rfl, rfl⟩, fun hpc => by cases hpc⟩

/-- The UI thread will look for actions, or has left its loop. -/
theorem announced_of_looking (h : Announced s) (htray : t.trayService = s.trayService)
    (hactions : t.actions = s.actions) (hforward : t.forward = s.forward) (hmenu : t.menu = s.menu)
    (hpc : t.pc.actionsDrained = false) : Announced t where
  headless hnone := by
    rw [htray] at hnone
    rw [hactions, hforward, hmenu]
    exact h.headless hnone
  message hdrained := by simp [hpc] at hdrained

/-- The tray thread is done with a batch; it wakes the UI thread if it has sent anything. -/
theorem Announced.sent (h : Announced s) {actions : List TrayAction} {forwardedAny : Bool}
    (hforward : s.forward = .sending actions forwardedAny) :
    Announced { s with forward := if forwardedAny then .waking else .idle } where
  headless hnone := by
    obtain ⟨hactions, -, hmenu⟩ := h.headless hnone
    refine ⟨hactions, ?_, hmenu⟩
    cases forwardedAny <;> rfl
  message hpc hne := by
    cases forwardedAny with
    | true => exact .inr rfl
    | false =>
      refine (h.message hpc hne).imp_right fun ha => ?_
      simp [hforward, ForwardPc.announces] at ha

theorem Announced.step {a : LoopAct Handle} (h : Announced s) (ha : a ≠ .wakeMain false)
    (hstep : loopStep J s a = some t) : Announced t := by
  cases loopStep_cases hstep with
  | peekNone | peekWake | peekOther | peekQuit | sent | dispatch | dispatchNone | take | finish
  | processed | actQuit | wake | waitFails =>
    exact announced_of_looking h rfl rfl rfl rfl rfl
  | drain hpc htray => exact ⟨fun hnone => by simp [htray] at hnone, fun _ hne => absurd rfl hne⟩
  | drainNone hpc htray => exact ⟨h.headless, fun _ hne => absurd (h.headless htray).1 hne⟩
  | act hpc hne hsys => exact ⟨h.headless, fun hlast => h.message (by rw [hpc]; exact hlast)⟩
  | acted hpc =>
    refine ⟨h.headless, fun hlast => h.message ?_⟩
    rw [hpc]
    dsimp only at hlast
    split at hlast
    · assumption
    · cases hlast
  | system hnot hsys =>
    exact ⟨h.headless, fun hpc hne => (h.message hpc hne).imp_left (List.mem_append_left _)⟩
  | post => exact ⟨h.headless, fun hpc hne => (h.message hpc hne).imp_left (List.mem_append_left _)⟩
  | click htray => exact ⟨fun hnone => by simp [htray] at hnone, h.message⟩
  | drainMenu hforward =>
    refine ⟨fun hnone => ?_, fun hpc hne => (h.message hpc hne).imp_right fun ha => ?_⟩
    · obtain ⟨hactions, -, hmenu⟩ := h.headless hnone
      exact ⟨hactions, by simp [ForwardPc.toSend, hmenu], rfl⟩
    · simp [hforward, ForwardPc.announces] at ha
  | forward hforward halive =>
    refine ⟨fun hnone => ?_, fun _ _ => .inr rfl⟩
    have hsend := (h.headless hnone).2.1
    simp [hforward, ForwardPc.toSend] at hsend
  | forwardFails hforward hdead => exact h.sent hforward
  | forwarded hforward => exact h.sent hforward
  | wakeMain hforward =>
    rename_i ok
    cases ok with
    | false => exact absurd rfl ha
    | true =>
      refine ⟨fun hnone => ?_, fun _ _ => .inl (List.mem_append_right _ (by simp))⟩
      obtain ⟨hactions, -, hmenu⟩ := h.headless hnone
      exact ⟨hactions, rfl, hmenu⟩

/-- **The clicks on the tray menu are performed in their order.** What the UI thread has performed
are the first of the clicks on items of the menu, and a Quit is the last of them. Where no wake-up
of the tray thread has failed, a sleeping UI thread has performed all that the tray thread has
forwarded. -/
theorem tray_actions_in_order {controlClaim statusClaim : Bool} {app : Application Handle}
    {as : List (LoopAct Handle)}
    (h : exec (loopStep J) (.init controlClaim statusClaim app) as = some s) :
    s.performed.map TrayAction.menuId <+: s.clicked.filter isMenuId ∧
      (.quit ∈ s.performed → s.pc = .left ∧ ∃ before, s.performed = before ++ [.quit] ∧
        .quit ∉ before) ∧
      (.wakeMain false ∉ as → s.asleep → s.forward = .idle →
        s.performed.map TrayAction.menuId ++ s.menu.filter isMenuId =
          s.clicked.filter isMenuId) := by
  have hordered : Ordered s := inv_of_exec (fun _ _ _ hs hstep => hs.step hstep)
    (ordered_init controlClaim statusClaim app) h
  refine ⟨hordered.inOrder, hordered.quits, fun hok hasleep hidle => ?_⟩
  have hannounced : Announced s := inv_of_along (fun _ _ _ hs ha hstep => hs.step ha hstep)
    (announced_init controlClaim statusClaim app)
    (along_of_mem fun a ha _ he => hok (he ▸ ha)) h
  obtain ⟨hpc, hmessages⟩ := hasleep
  have hui := (roused_of_exec h).running (by rw [hpc]; rfl)
  have hactions : s.actions = [] := by
    by_contra hne
    rcases hannounced.message (by rw [hpc]; rfl) hne with hm | hf
    · simp [hmessages] at hm
    · simp [hidle, ForwardPc.announces] at hf
  have hway := hordered.complete (by simp [hpc]) (hordered.alive (by rw [hui]; rfl))
  simpa [LoopSt.underway, LoopPc.toAct, ForwardPc.toSend, hpc, hidle, hactions] using hway

/-- Three clicks, one of them on nothing the menu knows, while the UI thread sleeps. -/
def clicksRun : List (LoopAct Unit) :=
  sleepRun ++
    ([.click "wardoff.block", .click "separator", .click "wardoff.autostart",
    .drainMenu false, .forward,
    .forward, .forwarded, .wakeMain true, .wake false, .peek, .processed, .drain,
    .act (.succeed ()),
    .act (.succeed ()), .acted, .peek, .processed, .drain, .acted] : List (LoopAct Unit))

theorem clicks_performed_in_order :
    ∃ s : LoopSt Unit, exec (loopStep .sample) (.init true true trayApp) clicksRun = some s ∧
      s.performed = [.block, .setAutostart true] ∧
      s.performed.map TrayAction.menuId ++ s.menu.filter isMenuId = s.clicked.filter isMenuId := by
  have hrun : (exec (loopStep .sample) (.init true true trayApp) clicksRun).any (fun s =>
      s.performed = [.block, .setAutostart true] && s.pc = .waiting && s.messages.isEmpty &&
        s.forward = .idle) = true := by decide +kernel
  obtain ⟨s, hs, h⟩ := Option.any_eq_true _ _ |>.1 hrun
  rw [Bool.and_eq_true, Bool.and_eq_true, Bool.and_eq_true, decide_eq_true_eq, decide_eq_true_eq,
    decide_eq_true_eq, List.isEmpty_iff] at h
  obtain ⟨⟨⟨hperformed, hpc⟩, hmessages⟩, hidle⟩ := h
  refine ⟨s, hs, hperformed, ?_⟩
  exact (tray_actions_in_order hs).2.2 (by simp [clicksRun, sleepRun, Ipc.startupRun])
    ⟨hpc, hmessages⟩ hidle

/-! ## One thing at a time -/

/-- The tray action that is an event of the server. -/
def trayEvent : Ipc.ServerAct Handle → Option TrayAction
  | .event (.trayAction action _) => some action
  | _ => none

/-- Outside of the message loop no action is handled. -/
theorem trayEvent_served {a : Act Handle} (hnot : inLoop a = false) (sys : St Handle) :
    (Ipc.served sys a).filterMap trayEvent = [] := by
  have hsubmit (pending : Ipc.PendingRequest) :
    (Ipc.submitted sys pending).filterMap trayEvent = [] := by
    unfold Ipc.submitted
    split <;> rfl
  cases a with
  | control a =>
    cases a with
    | enqueue =>
      simp only [Ipc.served]
      split
      · exact hsubmit _
      · rfl
    | _ => rfl
  | status a =>
    cases a with
    | enqueue =>
      simp only [Ipc.served]
      split
      · exact hsubmit _
      · rfl
    | _ => rfl
  | ui a =>
    cases a with
    | event | finish => cases hnot
    | dropApplication => simp [Ipc.served, trayEvent]
    | _ => rfl
  | client a => rfl

/-- The message loop carries out the server. -/
def loopServer (Handle : Type) (J : Json) :
    Refinement (@loopStep Handle J) (@Ipc.serverStep Handle) :=
  (loopRefinement Handle J).comp (Ipc.serverRefinement J)

/-- What a step does to the server, and to the actions. -/
theorem performed_step {a : LoopAct Handle} (hstep : loopStep J s a = some t) :
    t.performed.filter (· ≠ .quit) =
      s.performed.filter (· ≠ .quit) ++ ((loopServer Handle J).emit s a).filterMap trayEvent := by
  have hemit : (loopServer Handle J).emit s a = trace (Ipc.step J) Ipc.served s.sys (ipcActs s a) :=
    rfl
  have hone {b : Act Handle} {sys : St Handle} (hsys : Ipc.step J s.sys b = some sys) :
      trace (Ipc.step J) Ipc.served s.sys [b] = Ipc.served s.sys b := by
    rw [trace_cons hsys, trace_nil, List.append_nil]
  rw [hemit]
  cases loopStep_cases hstep with
  | system hnot hsys => rw [ipcActs, hone hsys, trayEvent_served hnot, List.append_nil]
  | peekNone hui hpc hmessages => simp [ipcActs, hmessages]
  | peekQuit hpc hmessages hsys => simp [ipcActs, hmessages, hone hsys, Ipc.served]
  | peekWake hui hpc hmessages hne =>
    rename_i message messages
    cases message <;> simp [ipcActs, hmessages] at hne ⊢
  | peekOther hui hpc hmessages => simp [ipcActs, hmessages]
  | sent hpc hwindow hsys | dispatch hpc hwindow hsys =>
    rename_i e sys
    rw [ipcActs, hone hsys]
    cases e <;> simp [Ipc.served, trayEvent, Event.ofWindow] at hwindow ⊢
  | take hpc hsys | waitFails hpc hsys => simp [ipcActs, hone hsys, Ipc.served]
  | finish hpc hsys => simp [ipcActs, hone hsys, Ipc.served, trayEvent]
  | actQuit hpc hsys => simp [ipcActs, hpc, hone hsys, Ipc.served]
  | act hpc hne hsys =>
    rename_i last action actions o sys
    cases action with
    | quit => exact absurd rfl hne
    | _ => simp [ipcActs, hpc, hone hsys, Ipc.served, trayEvent]
  | _ => simp [ipcActs]

/-- **With its message loop the runtime is one server still.** However the messages, the workers,
the tray thread and the windows interleave, the application changes, and the requests are answered,
as by a server that takes one thing at a time; and the tray actions among its events are those that
were performed, in this order. -/
theorem message_loop_refines_server {controlClaim statusClaim : Bool} {app : Application Handle}
    {as : List (LoopAct Handle)}
    (h : exec (loopStep J) (.init controlClaim statusClaim app) as = some s) :
    exec Ipc.serverStep ⟨app, [], []⟩
        (trace (loopStep J) (loopServer Handle J).emit (.init controlClaim statusClaim app) as) =
      some s.sys.server ∧
    (trace (loopStep J) (loopServer Handle J).emit (.init controlClaim statusClaim app)
      as).filterMap trayEvent =
      s.performed.filter (· ≠ .quit) := by
  refine ⟨(loopServer Handle J).exec h, ?_⟩
  rw [filterMap_trace]
  exact (log_eq_trace (fun s => s.performed.filter (· ≠ .quit))
    (fun _ _ _ hstep => performed_step hstep) h).symm

theorem clicks_refine_server :
    ∃ s : LoopSt Unit, exec (loopStep .sample) (.init true true trayApp) clicksRun = some s ∧
      (trace (loopStep .sample) (loopServer Unit .sample).emit
        (.init true true trayApp) clicksRun).filterMap
        trayEvent = [.block, .setAutostart true] := by
  have hrun : (exec (loopStep .sample) (.init true true trayApp) clicksRun).any (fun s =>
      s.performed.filter (· ≠ .quit) = [.block, .setAutostart true]) = true := by decide +kernel
  obtain ⟨s, hs, h⟩ := Option.any_eq_true _ _ |>.1 hrun
  rw [decide_eq_true_eq] at h
  exact ⟨s, hs, (message_loop_refines_server hs).2.trans h⟩

end Runtime
