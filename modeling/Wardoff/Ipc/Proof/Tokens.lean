import Mathlib.Data.List.Perm.Basic
import Wardoff.Ipc.Proof.System

/-!
# Every connection is used once

The `id` of a connection is handed on from place to place: from the pipe to its worker, from the
worker to the request queue, from the queue to the UI thread and from there to the log of handled
requests. It may be dropped on the way, and it is in at most one place (`Tokens`). What is neither
in a worker's hands nor new has left the workers for good (`Retired`).

* `Moves` is what one step can do to the places of the ids; `step_moves`.
* `Moves.tokens`: `Tokens` is kept.
* `Moves.retired`: a retired id stays retired, and no new request carries it.
-/

namespace Ipc

variable {Handle : Type} {J : Json} {s t : St Handle}

/-! ## Where the ids are -/

def Pipe.connId : Pipe → Option Nat
  | .connected conn => some conn.id
  | _ => none

/-- The connection the control worker has not decided about yet. -/
def St.controlFresh (s : St Handle) : Option Nat :=
  match s.control with
  | .accepted id => some id
  | .reading id _ => some id
  | .enqueueing id _ => some id
  | .waking _ _ => none
  | .awaiting _ _ => none
  | .responding _ _ _ _ => none
  | .exited => none
  | _ => s.controlPipe.connId

/-- The connection the status worker has not decided about yet. -/
def St.statusFresh (s : St Handle) : Option Nat :=
  match s.status with
  | .rechecking id => some id
  | .enqueueing id => some id
  | .waking _ => none
  | .awaiting _ => none
  | .responding _ => none
  | .exited => none
  | _ => s.statusPipe.connId

/-- The connection a worker has not decided about yet. -/
def St.fresh (s : St Handle) : ServerStartupKind → Option Nat
  | .control => s.controlFresh
  | .status => s.statusFresh

def UiPc.inHand : UiPc → List PendingRequest
  | .handling pending => [pending]
  | _ => []

theorem UiPc.mem_inHand {pc : UiPc} {p : PendingRequest} : p ∈ pc.inHand ↔ pc = .handling p := by
  cases pc <;> simp [UiPc.inHand, eq_comm]

/-- The requests that were queued and neither rejected nor dropped. -/
def St.requests (s : St Handle) : List PendingRequest :=
  s.queue ++ s.ui.inHand ++ s.handled.map fun h => ⟨h.id, h.request⟩

def St.used (s : St Handle) : List Nat := s.requests.map (·.id)

/-- Every id is in one place. -/
structure Tokens (s : St Handle) : Prop where
  nodup : s.used.Nodup
  used_lt : ∀ id ∈ s.used, id < s.nextId
  fresh_lt : ∀ kind id, s.fresh kind = some id → id < s.nextId
  fresh_used : ∀ kind id, s.fresh kind = some id → id ∉ s.used
  distinct : ∀ kind kind' id, s.fresh kind = some id → s.fresh kind' = some id → kind = kind'

/-- The id has left the workers' hands. -/
structure Retired (s : St Handle) (id : Nat) : Prop where
  lt : id < s.nextId
  fresh : ∀ kind, s.fresh kind ≠ some id

theorem Tokens.retired_of_used (h : Tokens s) {id : Nat} (hid : id ∈ s.used) : Retired s id :=
  ⟨h.used_lt id hid, fun kind hf => h.fresh_used kind id hf hid⟩

/-- No request is handled twice. -/
theorem Tokens.handled_nodup (h : Tokens s) : (s.handled.map (·.id)).Nodup := by
  have hnd := h.nodup
  simp only [St.used, St.requests, List.map_append, List.map_map] at hnd
  exact (List.nodup_append.1 hnd).2.1

theorem tokens_init (controlClaim statusClaim : Bool) (app : Runtime.Application Handle) :
    Tokens (St.init controlClaim statusClaim app) := by
  have hfresh : ∀ kind, (St.init controlClaim statusClaim app).fresh kind = none := by
    intro kind
    cases kind <;> rfl
  have hused : (St.init controlClaim statusClaim app).used = [] := rfl
  constructor <;> simp [hfresh, hused]

theorem mem_used {id : Nat} : id ∈ s.used ↔ ∃ p ∈ s.requests, p.id = id := List.mem_map

/-! ## How a step moves them -/

/-- What a step can do: drop ids, give the next id to a new connection, or queue a worker's id. -/
inductive Moves (s t : St Handle) : Prop where
  | keep (hreq : t.requests.Subperm s.requests)
      (hfresh : ∀ kind, t.fresh kind = s.fresh kind ∨ t.fresh kind = none)
      (hnext : t.nextId = s.nextId)
  | connect (kind : ServerStartupKind) (hreq : t.requests = s.requests)
      (hfresh : t.fresh kind = some s.nextId ∨ t.fresh kind = s.fresh kind)
      (hother : ∀ k, k ≠ kind → t.fresh k = s.fresh k) (hnext : t.nextId = s.nextId + 1)
  | queue (kind : ServerStartupKind) (p : PendingRequest) (hid : s.fresh kind = some p.id)
      (hreq : t.requests.Perm (p :: s.requests)) (hfresh : t.fresh kind = none)
      (hother : ∀ k, k ≠ kind → t.fresh k = s.fresh k) (hnext : t.nextId = s.nextId)

theorem Moves.nextId_le (h : Moves s t) : s.nextId ≤ t.nextId := by
  cases h <;> omega

/-- Where a worker's connection in the next state comes from. -/
theorem Moves.fresh_cases (h : Moves s t) {kind : ServerStartupKind} {id : Nat}
    (hid : t.fresh kind = some id) :
    s.fresh kind = some id ∨
      (id = s.nextId ∧ t.nextId = s.nextId + 1 ∧ ∀ k, k ≠ kind → t.fresh k = s.fresh k) := by
  cases h with
  | keep hreq hfresh hnext =>
    rcases hfresh kind with hf | hf
    · exact .inl (hf ▸ hid)
    · simp [hf] at hid
  | connect k hreq hfresh hother hnext =>
    by_cases hk : kind = k
    · subst hk
      rcases hfresh with hf | hf
      · rw [hf] at hid
        cases hid
        exact .inr ⟨rfl, hnext, hother⟩
      · exact .inl (hf ▸ hid)
    · exact .inl (hother kind hk ▸ hid)
  | queue k p hp hreq hfresh hother hnext =>
    by_cases hk : kind = k
    · subst hk
      simp [hfresh] at hid
    · exact .inl (hother kind hk ▸ hid)

/-- Where the requests of the next state come from. -/
theorem Moves.mem_requests (h : Moves s t) {p : PendingRequest} (hp : p ∈ t.requests) :
    p ∈ s.requests ∨ ∃ kind, s.fresh kind = some p.id ∧ t.fresh kind = none := by
  cases h with
  | keep hreq => exact .inl (hreq.subset hp)
  | connect kind hreq => exact .inl (hreq ▸ hp)
  | queue kind p' hid hreq hfresh =>
    rcases List.mem_cons.1 (hreq.mem_iff.1 hp) with rfl | hp
    · exact .inr ⟨kind, hid, hfresh⟩
    · exact .inl hp

/-- A retired id stays retired. -/
theorem Moves.retired (h : Moves s t) {id : Nat} (hr : Retired s id) : Retired t id := by
  obtain ⟨hlt, hfresh⟩ := hr
  refine ⟨Nat.lt_of_lt_of_le hlt h.nextId_le, fun kind hid => ?_⟩
  rcases h.fresh_cases hid with hs | ⟨rfl, -⟩
  · exact hfresh kind hs
  · exact absurd hlt (Nat.lt_irrefl _)

/-- No step gives a retired id to a request. -/
theorem Moves.mem_of_retired (h : Moves s t) {p : PendingRequest} (hr : Retired s p.id)
    (hp : p ∈ t.requests) : p ∈ s.requests := by
  rcases h.mem_requests hp with hp | ⟨kind, hid, -⟩
  · exact hp
  · exact absurd hid (hr.fresh kind)

/-- A worker's id that it gives up is retired. -/
theorem Moves.retired_of_fresh (h : Moves s t) (ht : Tokens s) {kind : ServerStartupKind} {id : Nat}
    (hid : s.fresh kind = some id) (hnone : t.fresh kind = none) : Retired t id := by
  have hlt := ht.fresh_lt kind id hid
  refine ⟨Nat.lt_of_lt_of_le hlt h.nextId_le, fun k hk => ?_⟩
  rcases h.fresh_cases hk with hs | ⟨rfl, -⟩
  · obtain rfl := ht.distinct k kind id hs hid
    simp [hnone] at hk
  · exact absurd hlt (Nat.lt_irrefl _)

theorem Moves.nodup (h : Moves s t) (ht : Tokens s) : t.used.Nodup := by
  cases h with
  | keep hreq =>
    obtain ⟨l, hperm, hsub⟩ := hreq
    exact (hperm.map _).nodup_iff.1 ((hsub.map _).nodup ht.nodup)
  | connect kind hreq =>
    rw [St.used, hreq]
    exact ht.nodup
  | queue kind p hid hreq =>
    exact (hreq.map _).nodup_iff.2 (List.nodup_cons.2 ⟨ht.fresh_used kind _ hid, ht.nodup⟩)

/-- **Every id stays in one place.** -/
theorem Moves.tokens (h : Moves s t) (ht : Tokens s) : Tokens t := by
  have hle := h.nextId_le
  refine ⟨h.nodup ht, fun id hid => ?_, fun kind id hid => ?_, fun kind id hid hu => ?_,
    fun kind kind' id hid hid' => ?_⟩
  · obtain ⟨p, hp, rfl⟩ := mem_used.1 hid
    rcases h.mem_requests hp with hs | ⟨kind, hs, -⟩
    · exact Nat.lt_of_lt_of_le (ht.used_lt _ (mem_used.2 ⟨p, hs, rfl⟩)) hle
    · exact Nat.lt_of_lt_of_le (ht.fresh_lt kind _ hs) hle
  · rcases h.fresh_cases hid with hs | ⟨rfl, hnext, -⟩
    · exact Nat.lt_of_lt_of_le (ht.fresh_lt kind _ hs) hle
    · omega
  · obtain ⟨p, hp, rfl⟩ := mem_used.1 hu
    rcases h.fresh_cases hid with hs | ⟨hid', -⟩
    · -- an old connection: it was not in use, and the worker has not queued it
      rcases h.mem_requests hp with hm | ⟨k, hk, hnone⟩
      · exact ht.fresh_used kind _ hs (mem_used.2 ⟨p, hm, rfl⟩)
      · obtain rfl := ht.distinct k kind _ hk hs
        simp [hnone] at hid
    · -- a new one: its id is larger than all those in use
      rcases h.mem_requests hp with hm | ⟨k, hk, -⟩
      · exact absurd (ht.used_lt _ (mem_used.2 ⟨p, hm, rfl⟩)) (by omega)
      · exact absurd (ht.fresh_lt k _ hk) (by omega)
  · rcases h.fresh_cases hid with hs | ⟨rfl, -, hother⟩
    · rcases h.fresh_cases hid' with hs' | ⟨rfl, -, hother⟩
      · exact ht.distinct kind kind' id hs hs'
      · exact absurd (ht.fresh_lt kind _ hs) (Nat.lt_irrefl _)
    · by_contra hne
      rw [hother kind' (Ne.symm hne)] at hid'
      exact absurd (ht.fresh_lt kind' _ hid') (Nat.lt_irrefl _)

/-! ## The parties -/

theorem Moves.of_fresh (hreq : t.requests.Subperm s.requests)
    (hcontrol : t.controlFresh = s.controlFresh ∨ t.controlFresh = none)
    (hstatus : t.statusFresh = s.statusFresh ∨ t.statusFresh = none) (hnext : t.nextId = s.nextId) :
    Moves s t := by
  refine .keep hreq (fun kind => ?_) hnext
  cases kind
  · exact hcontrol
  · exact hstatus

theorem fresh_of_ne_control (h : t.statusFresh = s.statusFresh) (kind : ServerStartupKind)
    (hk : kind ≠ .control) : t.fresh kind = s.fresh kind := by
  cases kind
  · exact absurd rfl hk
  · exact h

theorem fresh_of_ne_status (h : t.controlFresh = s.controlFresh) (kind : ServerStartupKind)
    (hk : kind ≠ .status) : t.fresh kind = s.fresh kind := by
  cases kind
  · exact h
  · exact absurd rfl hk

theorem requests_queue_append {p : PendingRequest} :
    ({ s with queue := s.queue ++ [p] } : St Handle).requests.Perm (p :: s.requests) := by
  simp only [St.requests, List.append_assoc]
  exact List.perm_middle

theorem ControlStep.moves {a : ControlAct} (h : ControlStep J s a t) : Moves s t := by
  have hstatus : t.statusFresh = s.statusFresh := by
    simp only [St.statusFresh, h.keeps.status, h.keeps.statusPipe]
  cases h with
  | enqueue hpc halive =>
    exact .queue .control _ (by simp only [St.fresh, St.controlFresh, hpc])
      requests_queue_append rfl
      (fresh_of_ne_control hstatus) rfl
  | claim hpc =>
    refine .of_fresh (.refl _) ?_ (.inl hstatus) rfl
    cases hclaim : s.controlClaim <;> simp [St.controlFresh, hpc, Pipe.connId]
  | report hpc =>
    refine .of_fresh (.refl _) ?_ (.inl hstatus) rfl
    cases hclaim : s.controlClaim <;> simp [St.controlFresh, hpc]
  | respond hpc =>
    rename_i stop written
    refine .of_fresh (.refl _) ?_ (.inl hstatus) rfl
    cases stop <;> simp [St.controlFresh, Pipe.connId]
  | _ =>
    refine .of_fresh (.refl _) ?_ (.inl hstatus) rfl
    simp_all [St.controlFresh, Pipe.connId, ControlPc.reject]

theorem StatusStep.moves {a : StatusAct} (h : StatusStep s a t) : Moves s t := by
  have hcontrol : t.controlFresh = s.controlFresh := by
    simp only [St.controlFresh, h.keeps.control, h.keeps.controlPipe]
  cases h with
  | enqueue hpc halive =>
    exact .queue .status _ (by simp only [St.fresh, St.statusFresh, hpc]) requests_queue_append rfl
      (fresh_of_ne_status hcontrol) rfl
  | claim hpc =>
    refine .of_fresh (.refl _) (.inl hcontrol) ?_ rfl
    cases hclaim : s.statusClaim <;> simp [St.statusFresh, hpc, Pipe.connId]
  | report hpc =>
    refine .of_fresh (.refl _) (.inl hcontrol) ?_ rfl
    cases hclaim : s.statusClaim <;> simp [St.statusFresh, hpc]
  | _ =>
    refine .of_fresh (.refl _) (.inl hcontrol) ?_ rfl
    simp_all [St.statusFresh, Pipe.connId]

@[simp] theorem Pipe.connId_connected (conn : Conn) : (Pipe.connected conn).connId = some conn.id :=
  rfl

@[simp] theorem Pipe.connId_close (id : Nat) (p : Pipe) : (p.close id).connId = p.connId := by
  cases p with
  | connected conn =>
    simp only [Pipe.close]
    split <;> rfl
  | _ => rfl

@[simp] theorem Pipe.connId_closeUi (p : Pipe) : p.closeUi.connId = p.connId := by
  cases p with
  | connected conn => cases hui : conn.ui <;> simp [Pipe.closeUi, Pipe.connId, hui]
  | _ => rfl

theorem controlFresh_congr (hpc : t.control = s.control)
    (hpipe : t.controlPipe.connId = s.controlPipe.connId) : t.controlFresh = s.controlFresh := by
  simp only [St.controlFresh, hpc, hpipe]

theorem statusFresh_congr (hpc : t.status = s.status)
    (hpipe : t.statusPipe.connId = s.statusPipe.connId) : t.statusFresh = s.statusFresh := by
  simp only [St.statusFresh, hpc, hpipe]

/-- A connection made to the control pipe is the control worker's, unless it has one already. -/
theorem controlFresh_connected (s : St Handle) (conn : Conn) {n : Nat} {pc : UiPc} :
    ({ s with controlPipe := .connected conn, nextId := n, ui := pc } : St Handle).controlFresh =
        some conn.id ∨
      ({ s with controlPipe := .connected conn, nextId := n, ui := pc } : St Handle).controlFresh =
        s.controlFresh := by
  cases hpc : s.control <;> simp [St.controlFresh, hpc, Pipe.connId]

theorem statusFresh_connected (s : St Handle) (conn : Conn) {n : Nat} {pc : UiPc} :
    ({ s with statusPipe := .connected conn, nextId := n, ui := pc } : St Handle).statusFresh =
        some conn.id ∨
      ({ s with statusPipe := .connected conn, nextId := n, ui := pc } : St Handle).statusFresh =
        s.statusFresh := by
  cases hpc : s.status <;> simp [St.statusFresh, hpc, Pipe.connId]

@[simp] theorem Stop.inHand_afterWake (k : Stop) : k.afterWake.inHand = [] := by
  rcases k with (_ | _) | _ | _ <;> rfl

@[simp] theorem Stop.inHand_afterRequest (k : Stop) (ok : Bool) :
    (k.afterRequest ok).inHand = [] := by
  rcases k with _ | _ | _ <;> cases ok <;> rfl

@[simp] theorem Stop.inHand_afterJoin (k : Stop) : k.afterJoin.inHand = [] := by
  rcases k with _ | _ | _ <;> rfl

theorem UiStep.moves {a : UiAct Handle} (h : UiStep J s a t) : Moves s t := by
  cases h with
  | openStatus hpc hpipe =>
    exact .connect .status (by simp [St.requests, hpc, UiPc.inHand]) (statusFresh_connected s _)
      (fresh_of_ne_status rfl) rfl
  | openControl hpc hpipe =>
    exact .connect .control (by simp [St.requests, hpc, UiPc.inHand]) (controlFresh_connected s _)
      (fresh_of_ne_control rfl) rfl
  | take hpc hqueue =>
    refine .of_fresh (List.Perm.subperm ?_) (.inl rfl) (.inl rfl) rfl
    simp only [St.requests, hpc, hqueue, UiPc.inHand, List.append_nil, List.append_assoc,
      List.cons_append, List.nil_append]
    exact List.perm_middle
  | finish hpc =>
    refine .of_fresh (List.Perm.subperm ?_) (.inl rfl) (.inl rfl) rfl
    simp only [St.requests, hpc, UiPc.inHand, List.append_nil, List.append_assoc, List.map_append,
      List.map_cons, List.map_nil]
    exact List.perm_append_comm.append_left _
  | reject hpc hqueue =>
    refine .of_fresh (List.Sublist.subperm ?_) (.inl rfl) (.inl rfl) rfl
    simp [St.requests, hqueue]
  | dropApplication hpc =>
    refine .of_fresh (List.Sublist.subperm ?_) (.inl rfl) (.inl rfl) rfl
    simp [St.requests, hpc, UiPc.inHand]
  | _ =>
    -- the rest changes neither the requests nor whose connections they are
    refine .of_fresh (List.Perm.subperm (.of_eq ?_)) (.inl ?_) (.inl ?_) rfl
    · simp_all only [St.requests, Stop.inHand_afterWake, Stop.inHand_afterRequest,
        Stop.inHand_afterJoin] <;> rfl
    · exact controlFresh_congr rfl (by simp_all)
    · exact statusFresh_congr rfl (by simp_all)

theorem ClientStep.moves {a : ClientAct} (h : ClientStep s a t) : Moves s t := by
  cases h with
  | openControl hpipe =>
    exact .connect .control rfl (controlFresh_connected s _) (fresh_of_ne_control rfl) rfl
  | openStatus hpipe =>
    exact .connect .status rfl (statusFresh_connected s _) (fresh_of_ne_status rfl) rfl
  | writeControl hpipe =>
    exact .of_fresh (.refl _) (.inl (controlFresh_congr rfl (by simp [hpipe]))) (.inl rfl) rfl
  | closeControl hpipe =>
    exact .of_fresh (.refl _) (.inl (controlFresh_congr rfl (by simp [hpipe]))) (.inl rfl) rfl
  | closeStatus hpipe =>
    exact .of_fresh (.refl _) (.inl rfl) (.inl (statusFresh_congr rfl (by simp [hpipe]))) rfl

/-- What one step of the system does to the places of the ids. -/
theorem step_moves {a : Act Handle} (h : step J s a = some t) : Moves s t := by
  cases a with
  | control a => exact (controlStep_cases h).moves
  | status a => exact (statusStep_cases h).moves
  | ui a => exact (uiStep_cases h).moves
  | client a => exact (clientStep_cases h).moves

end Ipc
