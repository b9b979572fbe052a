import Wardoff.Ipc.Proof.System

/-!
# The startup reports

Each worker reports once whether it has claimed its first pipe instance, and the starting thread
takes the reports off a channel. What it knows from them is true (`Reports`): it has counted the
reports it received, all of them successes, and it has started the runtime only with both.

* `Reporting` is what a worker's step does to the reports; `Reports.step`: they stay true.
-/

namespace Ipc

variable {Handle : Type} {J : Json} {s t : St Handle}

def ControlPc.reported : ControlPc → Bool
  | .claiming => false
  | .reporting => false
  | _ => true

def StatusPc.reported : StatusPc → Bool
  | .claiming => false
  | .reporting => false
  | _ => true

/-- The worker has sent its report. -/
def St.reported (s : St Handle) : ServerStartupKind → Bool
  | .control => s.control.reported
  | .status => s.status.reported

theorem reported_congr (hcontrol : t.control = s.control) (hstatus : t.status = s.status)
    (kind : ServerStartupKind) : t.reported kind = s.reported kind := by
  cases kind
  · simp only [St.reported, hcontrol]
  · simp only [St.reported, hstatus]

def St.claim (s : St Handle) : ServerStartupKind → Bool
  | .control => s.controlClaim
  | .status => s.statusClaim

theorem claim_congr (hcontrol : t.controlClaim = s.controlClaim)
    (hstatus : t.statusClaim = s.statusClaim) (kind : ServerStartupKind) :
    t.claim kind = s.claim kind := by
  cases kind
  · exact hcontrol
  · exact hstatus

/-- The worker's report was taken off the channel. -/
def St.received (s : St Handle) (kind : ServerStartupKind) : Bool :=
  s.reported kind && !s.startup.any (·.kind == kind)

/-- The servers are stopped by `Application::shutdown`. -/
def Stop.orderly : Stop → Bool
  | .startup _ => false
  | _ => true

/-- `IpcServer::start` has returned its server. -/
def UiPc.started : UiPc → Bool
  | .starting _ _ => false
  | .startFailed => false
  | .requesting stop => stop.orderly
  | .opensStatus stop => stop.orderly
  | .closesStatus stop => stop.orderly
  | .opensControl stop _ => stop.orderly
  | .writes stop _ _ => stop.orderly
  | .readsReply stop _ => stop.orderly
  | .joinsControl stop => stop.orderly
  | .joinsStatus stop => stop.orderly
  | _ => true

@[simp] theorem Stop.started_afterWake (k : Stop) : k.afterWake.started = k.orderly := by
  rcases k with (_ | _) | _ | _ <;> rfl

@[simp] theorem Stop.started_afterRequest (k : Stop) (ok : Bool) :
    (k.afterRequest ok).started = k.orderly := by
  rcases k with _ | _ | _ <;> cases ok <;> rfl

@[simp] theorem Stop.started_afterJoin (k : Stop) : k.afterJoin.started = k.orderly := by
  rcases k with _ | _ | _ <;> rfl

/-- What the starting thread knows is true. -/
structure Reports (s : St Handle) : Prop where
  kinds : (s.startup.map (·.kind)).Nodup
  sent : ∀ r ∈ s.startup, s.reported r.kind = true ∧ r.ok = s.claim r.kind
  starting : ∀ n ready, s.ui = .starting n ready →
    n = (s.received .control).toNat + (s.received .status).toNat ∧ n < 2 ∧
      ready = s.received .control ∧ ∀ kind, s.received kind = true → s.claim kind = true
  started : s.ui.started = true → ∀ kind, s.reported kind = true ∧ s.claim kind = true

theorem reports_init (controlClaim statusClaim : Bool) (app : Runtime.Application Handle) :
    Reports (St.init controlClaim statusClaim app) := by
  constructor <;>
    simp [St.init, UiPc.started, St.received, St.reported, ControlPc.reported, StatusPc.reported]
  intro kind
  cases kind <;> simp

/-- What a worker's step does to the reports. -/
inductive Reporting (s t : St Handle) : Prop where
  | quiet (hstartup : t.startup = s.startup) (hreported : ∀ kind, t.reported kind = s.reported kind)
  | report (kind : ServerStartupKind) (hnot : s.reported kind = false)
      (hnow : t.reported kind = true)
      (hother : ∀ k, k ≠ kind → t.reported k = s.reported k)
      (hstartup : t.startup = s.startup ++ [⟨kind, s.claim kind⟩])

theorem ControlStep.reporting {a : ControlAct} (h : ControlStep J s a t) : Reporting s t := by
  have hk := h.keeps
  cases h with
  | report hpc =>
    refine .report .control (by simp [St.reported, hpc, ControlPc.reported]) ?_ ?_ rfl
    · cases hclaim : s.controlClaim <;> simp [St.reported, ControlPc.reported]
    · intro kind hne
      cases kind
      · simp at hne
      · rfl
  | respond hpc =>
    rename_i stop written
    refine .quiet rfl ?_
    intro kind
    cases kind
    · cases stop <;> simp [St.reported, hpc, ControlPc.reported]
    · rfl
  | connectFails hpc =>
    refine .quiet rfl ?_
    intro kind
    cases kind
    · rcases hpc with hpc | hpc <;> simp [St.reported, hpc, ControlPc.reported]
    · rfl
  | _ =>
    refine .quiet rfl ?_
    intro kind
    cases kind
    · simp_all [St.reported, ControlPc.reported, ControlPc.reject]
    · rfl

theorem StatusStep.reporting {a : StatusAct} (h : StatusStep s a t) : Reporting s t := by
  cases h with
  | report hpc =>
    refine .report .status (by simp [St.reported, hpc, StatusPc.reported]) ?_ ?_ rfl
    · cases hclaim : s.statusClaim <;> simp [St.reported, StatusPc.reported]
    · intro kind hne
      cases kind
      · rfl
      · simp at hne
  | connectFails hpc =>
    refine .quiet rfl ?_
    intro kind
    cases kind
    · rfl
    · rcases hpc with hpc | hpc <;> simp [St.reported, hpc, StatusPc.reported]
  | _ =>
    refine .quiet rfl ?_
    intro kind
    cases kind
    · rfl
    · simp_all [St.reported, StatusPc.reported]

/-- A report in the channel is not received yet. -/
theorem Reporting.received (h : Reporting s t) (kind : ServerStartupKind) :
    t.received kind = s.received kind := by
  cases h with
  | quiet hstartup hreported => simp only [St.received, hstartup, hreported]
  | report k hnot hnow hother hstartup =>
    by_cases hk : kind = k
    · subst hk
      simp [St.received, hnot, hstartup]
    · have hk' : (k == kind) = false := by
        simpa using fun h : k = kind => hk h.symm
      simp [St.received, hother kind hk, hstartup, hk']

theorem Reporting.reported (h : Reporting s t) (kind : ServerStartupKind)
    (hr : s.reported kind = true) : t.reported kind = true := by
  cases h with
  | quiet hstartup hreported => rwa [hreported]
  | report k hnot hnow hother hstartup =>
    by_cases hk : kind = k
    · rwa [hk]
    · rwa [hother kind hk]

/-- Steps of the workers. -/
theorem Reports.of_reporting (hs : Reports s) (h : Reporting s t) (hui : t.ui = s.ui)
    (hclaim : ∀ kind, t.claim kind = s.claim kind) : Reports t := by
  refine ⟨?_, ?_, ?_, ?_⟩
  · cases h with
    | quiet hstartup hreported => exact hstartup ▸ hs.kinds
    | report k hnot hnow hother hstartup =>
      rw [hstartup, List.map_append, List.nodup_append]
      refine ⟨hs.kinds, by simp, ?_⟩
      intro x hx y hy he
      subst he
      obtain ⟨r, hr, rfl⟩ := List.mem_map.1 hx
      simp only [List.map_cons, List.map_nil, List.mem_singleton] at hy
      simp [hy ▸ (hs.sent r hr).1] at hnot
  · intro r hr
    rw [hclaim]
    cases h with
    | quiet hstartup hreported =>
      rw [hreported]
      exact hs.sent r (hstartup ▸ hr)
    | report k hnot hnow hother hstartup =>
      rw [hstartup, List.mem_append, List.mem_singleton] at hr
      rcases hr with hr | rfl
      · exact ⟨(Reporting.report k hnot hnow hother hstartup).reported _ (hs.sent r hr).1,
          (hs.sent r hr).2⟩
      · exact ⟨hnow, rfl⟩
  · simp only [hui, h.received, hclaim]
    exact hs.starting
  · rw [hui]
    intro hst kind
    rw [hclaim]
    exact ⟨h.reported kind (hs.started hst kind).1, (hs.started hst kind).2⟩

/-- Taking a report off the channel. -/
theorem Reports.received_take (hs : Reports s) {r : ServerStartupResult}
    {rest : List ServerStartupResult} (h : s.startup = r :: rest) {u : UiPc}
    (kind : ServerStartupKind) :
    ({ s with startup := rest, ui := u } : St Handle).received kind =
      (s.received kind || r.kind == kind) := by
  by_cases hk : r.kind = kind
  · subst hk
    have hrep := (hs.sent r (by simp [h])).1
    have hnot : rest.any (·.kind == r.kind) = false := by
      have hkinds := hs.kinds
      rw [h, List.map_cons, List.nodup_cons] at hkinds
      rw [List.any_eq_false]
      intro x hx hk
      exact hkinds.1 (List.mem_map.2 ⟨x, hx, by simpa using hk⟩)
    have hrep' : ({ s with startup := rest, ui := u } : St Handle).reported r.kind = true := by
      cases hkind : r.kind <;> simpa [St.reported, hkind] using hrep
    simp only [St.received, hrep', hnot, Bool.not_false, Bool.and_self, BEq.rfl, Bool.or_true]
  · have hk' : (r.kind == kind) = false := by simpa using hk
    cases kind <;> simp [St.received, St.reported, h, hk']

theorem received_head {r : ServerStartupResult} {rest : List ServerStartupResult}
    (h : s.startup = r :: rest) : s.received r.kind = false := by
  simp [St.received, h]

/-- What is left in the channel is as it was. -/
theorem Reports.sent_take (hs : Reports s) {r : ServerStartupResult}
    {rest : List ServerStartupResult} (h : s.startup = r :: rest) : (rest.map (·.kind)).Nodup ∧
      ∀ x ∈ rest, s.reported x.kind = true ∧ x.ok = s.claim x.kind := by
  refine ⟨?_, fun x hx => hs.sent x (by simp [h, hx])⟩
  have hkinds := hs.kinds
  rw [h, List.map_cons, List.nodup_cons] at hkinds
  exact hkinds.2

/-- With both reports received both claims succeeded. -/
theorem Reports.both (hs : Reports s) {n : Nat} {ready : Bool} {kind : ServerStartupKind}
    {rest : List ServerStartupResult} (hpc : s.ui = .starting n ready)
    (h : s.startup = ⟨kind, true⟩ :: rest) (hlt : ¬ n + 1 < 2) (k : ServerStartupKind) :
    s.reported k = true ∧ s.claim k = true := by
  obtain ⟨hn, hn2, -, hclaims⟩ := hs.starting n ready hpc
  have hhead := hs.sent ⟨kind, true⟩ (by simp [h])
  have hnot : s.received kind = false := received_head h
  by_cases hk : k = kind
  · subst hk
    exact ⟨hhead.1, hhead.2.symm⟩
  · have hrec : s.received k = true := by
      by_contra hne
      have hne : s.received k = false := eq_false_of_ne_true hne
      cases kind <;> cases k <;> simp_all
    refine ⟨?_, hclaims k hrec⟩
    simp only [St.received, Bool.and_eq_true] at hrec
    exact hrec.1

/-- Steps of the UI thread that leave the channel alone. -/
theorem Reports.of_keeps (hs : Reports s) (hk : UiKeeps s t) (hstartup : t.startup = s.startup)
    (hstarting : ∀ n ready, t.ui = .starting n ready → s.ui = .starting n ready)
    (hstarted : t.ui.started = true → s.ui.started = true) : Reports t := by
  have hrep := reported_congr hk.control hk.status
  have hclaim := claim_congr hk.controlClaim hk.statusClaim
  have hrec : ∀ kind, t.received kind = s.received kind := by
    intro kind
    simp only [St.received, hrep, hstartup]
  refine ⟨hstartup ▸ hs.kinds, ?_, ?_, ?_⟩
  · simp only [hstartup, hrep, hclaim]
    exact hs.sent
  · intro n ready he
    simp only [hrec, hclaim]
    exact hs.starting n ready (hstarting n ready he)
  · intro hst
    simp only [hrep, hclaim]
    exact hs.started (hstarted hst)

/-- Steps of the UI thread that stop the servers. -/
theorem Reports.of_stop (hs : Reports s) (hk : UiKeeps s t) (hstartup : t.startup = s.startup)
    {k : Stop} (hleft : t.ui.leftLoop = true) (ht : t.ui.started = k.orderly)
    (hs' : s.ui.started = k.orderly) : Reports t := by
  refine hs.of_keeps hk hstartup (fun n ready he => ?_) (fun hst => ?_)
  · simp [he, UiPc.leftLoop] at hleft
  · rw [hs', ← ht, hst]

theorem UiStep.reports {a : UiAct Handle} (h : UiStep J s a t) (hs : Reports s) : Reports t := by
  have hk := h.keeps
  cases h with
  | report hpc hstartup hlt =>
    rename_i n ready kind rest
    obtain ⟨hn, hn2, hready, hclaims⟩ := hs.starting n ready hpc
    have hnot : s.received kind = false := received_head hstartup
    have hclaim : s.claim kind = true := (hs.sent ⟨kind, true⟩ (by simp [hstartup])).2.symm
    refine ⟨(hs.sent_take hstartup).1, (hs.sent_take hstartup).2, ?_, by simp [UiPc.started]⟩
    intro n' ready' he
    cases he
    simp only [hs.received_take hstartup]
    refine ⟨?_, hlt, by rw [hready], ?_⟩
    · have hne : (ServerStartupKind.control == .status) = false := rfl
      have hne' : (ServerStartupKind.status == .control) = false := rfl
      cases kind <;> simp [hn, hnot, hne, hne', Nat.add_comm]
    · intro k hk
      rw [Bool.or_eq_true, beq_iff_eq] at hk
      rcases hk with hk | rfl
      · exact hclaims k hk
      · exact hclaim
  | lastReport hpc hstartup hlt =>
    exact ⟨(hs.sent_take hstartup).1, (hs.sent_take hstartup).2, by simp,
      fun _ => hs.both hpc hstartup hlt⟩
  | reportFails hpc hstartup =>
    exact ⟨(hs.sent_take hstartup).1, (hs.sent_take hstartup).2, by simp,
      by simp [UiPc.started, Stop.orderly]⟩
  | openStatusFails hpc =>
    exact hs.of_stop hk rfl (Stop.leftLoop_afterWake _) (Stop.started_afterWake _)
      (by rw [hpc]; rfl)
  | closeStatus hpc =>
    exact hs.of_stop hk rfl (Stop.leftLoop_afterWake _) (Stop.started_afterWake _)
      (by rw [hpc]; rfl)
  | openControlFails hpc =>
    exact hs.of_stop hk rfl (Stop.leftLoop_afterRequest _ _) (Stop.started_afterRequest _ _)
      (by rw [hpc]; rfl)
  | writeFails hpc =>
    exact hs.of_stop hk rfl (Stop.leftLoop_afterRequest _ _) (Stop.started_afterRequest _ _)
      (by rw [hpc]; rfl)
  | readReply hpc =>
    exact hs.of_stop hk rfl (Stop.leftLoop_afterRequest _ _) (Stop.started_afterRequest _ _)
      (by rw [hpc]; rfl)
  | replyLost hpc =>
    exact hs.of_stop hk rfl (Stop.leftLoop_afterRequest _ _) (Stop.started_afterRequest _ _)
      (by rw [hpc]; rfl)
  | joinStatus hpc =>
    exact hs.of_stop hk rfl (Stop.leftLoop_afterJoin _) (Stop.started_afterJoin _)
      (by rw [hpc]; rfl)
  | _ => exact hs.of_keeps hk rfl (by simp_all) (by simp_all [UiPc.started, Stop.orderly])

theorem Reports.step {a : Act Handle} (hs : Reports s) (h : step J s a = some t) : Reports t := by
  cases a with
  | control a =>
    have hstep := controlStep_cases h
    have hk := hstep.keeps
    exact hs.of_reporting hstep.reporting hk.ui (claim_congr hk.controlClaim hk.statusClaim)
  | status a =>
    have hstep := statusStep_cases h
    have hk := hstep.keeps
    exact hs.of_reporting hstep.reporting hk.ui (claim_congr hk.controlClaim hk.statusClaim)
  | ui a => exact (uiStep_cases h).reports hs
  | client a =>
    have hk := (clientStep_cases h).keeps
    exact hs.of_reporting (.quiet hk.startup (reported_congr hk.control hk.status)) hk.ui
      (claim_congr hk.controlClaim hk.statusClaim)

end Ipc
