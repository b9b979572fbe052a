import Wardoff.Logger.Proof.Tail

/-!
# The steps of the reader and the writer are those of the code

* `runWriterLoop_steps`: whatever fails, the writer thread makes steps of `writerStep` only.
* `readRecentLinesFromPath_steps`: the reader of `ReadPc.next`, if nobody disturbs it, returns what
  `readRecentLinesFromPath` returns.
-/

namespace Logger

open Machine Text

/-! ## The directory of a disk -/

section
variable {disk : Disk} {segs : List (List String)} {path source target : String} {i : Nat}

theorem dir_of_names (h : disk.names path = some i) :
    disk.dir path = some (.file (disk.files.getD i [])) := by
  simp [Disk.dir, h]

theorem dir_removed : (disk.named path none).dir = Function.update disk.dir path none := by
  funext other
  by_cases he : other = path
  · simp [he, Disk.dir, Disk.named]
  · simp [he, Disk.dir, Disk.named]

theorem dir_renamed (hi : disk.names source = some i) :
    ((disk.named target (some i)).named source none).dir =
      Function.update (Function.update disk.dir target (disk.dir source)) source none := by
  funext other
  rw [dir_of_names hi]
  by_cases hs : other = source
  · simp [hs, Disk.dir, Disk.named]
  · by_cases ht : other = target
    · subst ht
      simp [hs, Disk.dir, Disk.named]
    · simp [hs, ht, Disk.dir, Disk.named]

theorem dir_create (h : Filed disk segs) :
    (disk.create path).dir = Function.update disk.dir path (some (.file [])) := by
  funext other
  by_cases he : other = path
  · simp [he, Disk.dir, Disk.create, Disk.named, List.getD_eq_getElem?_getD]
  · simp only [Disk.dir, Disk.create, Disk.named, Function.update_of_ne he]
    cases hi : disk.names other with
    | none => rfl
    | some i =>
      have hlt : i < disk.files.length := by simpa [h.files] using (h.bound other i hi).2
      simp [List.getD_eq_getElem?_getD, List.getElem?_append_left hlt]

theorem dir_append (h : Filed disk segs) (hi : disk.names "wardoff.jsonl" = some i)
    (bytes : List UInt8) :
    (disk.append i bytes).dir = Function.update disk.dir "wardoff.jsonl"
      (some (.file (content (disk.dir "wardoff.jsonl") ++ bytes))) := by
  have hlt : i < disk.files.length := by simpa [h.files] using (h.bound _ i hi).2
  funext other
  by_cases he : other = "wardoff.jsonl"
  · rw [he, Function.update_self, dir_of_names hi]
    simp [Disk.dir, Disk.append, hi, content, List.getD_eq_getElem?_getD, hlt]
  · rw [Function.update_of_ne he]
    cases hj : disk.names other with
    | none => simp [Disk.dir, Disk.append, hj]
    | some j =>
      obtain ⟨-, htwo, hone⟩ := ascending_iff.1 h.ascending
      have hmem := (h.bound other j hj).1
      have hne : i ≠ j := by
        simp only [logPaths, List.mem_cons, List.not_mem_nil, or_false] at hmem
        rcases hmem with rfl | rfl | rfl
        · exact (htwo j i hj hi).ne'
        · exact (hone j i hj hi).ne'
        · exact absurd rfl he
      simp [Disk.dir, Disk.append, hj, List.getD_eq_getElem?_getD, List.getElem?_set_ne hne]

/-! ## The writer thread -/

/-- Steps of the writer lead to this directory and these lines. -/
def Reaches (s : Tailing) (dir : Dir) (written : List String) : Prop :=
  ∃ as t, exec writerStep s as = some t ∧ t.disk.dir = dir ∧ t.written = written ∧
    ∃ segs, Filed t.disk segs

theorem Reaches.refl {s : Tailing} (h : Filed s.disk segs) : Reaches s s.disk.dir s.written :=
  ⟨[], s, rfl, rfl, rfl, segs, h⟩

theorem Reaches.trans {s : Tailing} {dir dir' : Dir} {written written' : List String}
    (h : Reaches s dir written)
    (hnext : ∀ t segs, Filed t.disk segs → t.disk.dir = dir → t.written = written →
      Reaches t dir' written') : Reaches s dir' written' := by
  obtain ⟨as, t, hrun, hdir, hwritten, segs, hfiled⟩ := h
  obtain ⟨bs, u, hrun', hu⟩ := hnext t segs hfiled hdir hwritten
  exact ⟨as ++ bs, u, by rw [exec_append, hrun]; exact hrun', hu⟩

/-- One operation after another, up to the first that fails. -/
theorem Reaches.andThen {s : Tailing} {first : Except String Unit × Dir}
    {next : Dir → Except String Unit × Dir} (h : Reaches s first.2 s.written)
    (hnext : ∀ t segs, Filed t.disk segs → Reaches t (next t.disk.dir).2 t.written) :
    Reaches s (match first with
      | (.error message, dir) => ((.error message, dir) : Except String Unit × Dir)
      | (.ok (), dir) => next dir).2 s.written := by
  rcases first with ⟨_ | _, dir⟩
  · exact h
  · refine h.trans fun t segs ht hdir hwritten => ?_
    subst hdir
    rw [← hwritten]
    exact hnext t segs ht

theorem reaches_step {s t : Tailing} {a : WriterAct} (h : Filed s.disk segs)
    (hstep : writerStep s a = some t) : Reaches s t.disk.dir t.written := by
  obtain ⟨segs', hmoves⟩ := h.writerStep hstep
  exact ⟨[a], t, by rw [exec_cons hstep]; rfl, rfl, rfl, segs', hmoves.filed⟩

section
variable {s : Tailing} (fs : Fs)

theorem removeFileIfExists_reaches (h : Filed s.disk segs) :
    Reaches s (removeFileIfExists fs s.disk.dir "wardoff.2.jsonl").2 s.written := by
  rcases removeFileIfExists_cases fs s.disk.dir "wardoff.2.jsonl" with
    ⟨result, hremove, -⟩ | hremove
  · rw [hremove]
    exact .refl h
  · rw [hremove]
    cases hi : s.disk.names "wardoff.2.jsonl" with
    | none =>
      have hsame : Function.update s.disk.dir "wardoff.2.jsonl" none = s.disk.dir :=
        Function.update_eq_self_iff.2 (by simp [Disk.dir, hi])
      rw [hsame]
      exact .refl h
    | some i =>
      have hstep : writerStep s .removeOldest =
          some { s with disk := s.disk.named "wardoff.2.jsonl" none } := by
        simp only [Logger.writerStep, rotatedLogPath_two, hi]
      have hreach := reaches_step h hstep
      rw [dir_removed] at hreach
      exact hreach

/-- A rename of the rotation. -/
theorem renameIfExists_reaches (h : Filed s.disk segs) {a : WriterAct}
    (ha : writerStep s a = (s.disk.rename source target).map fun disk => { s with disk }) :
    Reaches s (renameIfExists fs s.disk.dir source target).2 s.written := by
  rcases renameIfExists_cases fs s.disk.dir source target with
    ⟨result, hrename, -⟩ | ⟨bytes, hfile, hrename⟩
  · rw [hrename]
    exact .refl h
  · rw [hrename, ← hfile]
    cases hi : s.disk.names source with
    | none => simp [Disk.dir, hi] at hfile
    | some i =>
      rw [Disk.rename, hi] at ha
      have hreach := reaches_step h ha
      rw [dir_renamed hi] at hreach
      exact hreach

theorem renames_reaches (h : Filed s.disk segs) :
    Reaches s (renames fs s.disk.dir).2 s.written := by
  refine Reaches.andThen ?_ fun t segs' ht => ?_
  · exact renameIfExists_reaches fs h (a := .renameRotated)
      (by simp only [Logger.writerStep, rotatedLogPath_one, rotatedLogPath_two])
  · exact renameIfExists_reaches fs ht (a := .renameBase)
      (by simp only [Logger.writerStep, rotatedLogPath_one]; rfl)

theorem rotateLogs_reaches (h : Filed s.disk segs) :
    Reaches s (rotateLogs fs s.disk.dir defaultLogFileName).2 s.written := by
  rw [rotateLogs_eq]
  exact Reaches.andThen (removeFileIfExists_reaches fs h) fun t segs' ht => renames_reaches fs ht

theorem rotateIfNeeded_reaches (h : Filed s.disk segs) (incomingBytes : Nat) :
    Reaches s (rotateIfNeeded fs s.disk.dir defaultLogFileName incomingBytes).2 s.written := by
  unfold rotateIfNeeded
  split
  · exact .refl h
  · dsimp only
    split_ifs
    · exact .refl h
    · exact rotateLogs_reaches fs h

/-- The file is there after the open. -/
theorem create_reaches (h : Filed s.disk segs) :
    Reaches s (Function.update s.disk.dir defaultLogFileName
      (some (.file (content (s.disk.dir defaultLogFileName))))) s.written := by
  cases hi : s.disk.names defaultLogFileName with
  | none =>
    have hstep :
      writerStep s .create = some { s with disk := s.disk.create defaultLogFileName } := by
      simp only [Logger.writerStep, hi]
    have hreach := reaches_step h hstep
    rw [dir_create h] at hreach
    rw [show s.disk.dir defaultLogFileName = none by simp [Disk.dir, hi]]
    exact hreach
  | some i =>
    have hsame : Function.update s.disk.dir defaultLogFileName
        (some (.file (content (s.disk.dir defaultLogFileName)))) = s.disk.dir :=
      Function.update_eq_self_iff.2 (by rw [dir_of_names hi]; rfl)
    rw [hsame]
    exact .refl h

theorem append_reaches (h : Filed s.disk segs) (line : String) :
    Reaches s (Function.update s.disk.dir defaultLogFileName
      (some (.file (content (s.disk.dir defaultLogFileName) ++ lineBytes line))))
      (s.written ++ [line]) := by
  refine (create_reaches h).trans fun t segs' ht hdir hwritten => ?_
  have hfile : t.disk.dir defaultLogFileName =
    some (.file (content (s.disk.dir defaultLogFileName))) := by
    rw [hdir, Function.update_self]
  cases hi : t.disk.names defaultLogFileName with
  | none => simp [Disk.dir, hi] at hfile
  | some i =>
    have hstep : writerStep t (.append line) =
        some { t with disk := t.disk.append i (lineBytes line),
                      written := t.written ++ [line] } := by
      simp only [Logger.writerStep, hi]
      rfl
    have hreach := reaches_step ht hstep
    rw [dir_append ht hi, show t.disk.dir "wardoff.jsonl" = _ from hfile, hdir, hwritten] at hreach
    simpa [defaultLogFileName, content] using hreach

theorem plain_dir (disk : Disk) (path : String) : Plain disk.dir path := by
  intro entry hentry
  simp only [Disk.dir, Option.mem_def, Option.map_eq_some_iff] at hentry
  obtain ⟨i, -, rfl⟩ := hentry
  exact ⟨_, rfl⟩

variable {fs}

/-- One record. -/
theorem record_reaches {toJson : LogRecord → String} {log : Log} (hfs : fs.WritesWhole)
    (h : Filed s.disk segs) (hdir : s.disk.dir = log.dir)
    (hwritten : s.written = log.written.map toJson) (record : LogRecord) :
    Reaches s (log.record toJson fs defaultLogFileName record).dir
      ((log.record toJson fs defaultLogFileName record).written.map toJson) := by
  have hrotated := rotateIfNeeded_reaches fs h (lineSize (toJson record))
  rw [hdir] at hrotated
  have hstay : Reaches s log.dir (log.written.map toJson) := by
    rw [← hdir, ← hwritten]
    exact .refl h
  unfold Log.record writeRecord
  cases fs.fails .ensureDirectory with
  | some error => exact hstay
  | none =>
    cases fs.fails .serialize with
    | some error => exact hstay
    | none =>
      cases hrotate : rotateIfNeeded fs log.dir defaultLogFileName (lineSize (toJson record)) with
      | mk rotated dir =>
        rw [hrotate, hwritten] at hrotated
        rw [lineSize] at hrotate
        cases rotated with
        | error message =>
          simp only [hrotate]
          exact hrotated
        | ok u =>
          simp only [hrotate]
          refine hrotated.trans fun t segs' ht hdir' hwritten' => ?_
          subst hdir'
          rcases appendLine_cases hfs (plain_dir t.disk _) (toJson record) with ⟨message, happend⟩ |
            ⟨message, happend⟩ | happend
          · rw [happend, ← hwritten']
            exact .refl ht
          · rw [happend, ← hwritten']
            exact create_reaches ht
          · rw [happend, List.map_append, ← hwritten']
            exact append_reaches ht (toJson record)

end

/-- **The writer thread** makes steps of the writer only, whatever fails. -/
theorem runWriterLoop_steps (toJson : LogRecord → String) (records : List (Fs × LogRecord))
    (hfs : ∀ r ∈ records, r.1.WritesWhole) :
    Reaches {} (runWriterLoop toJson defaultLogFileName records).dir
      ((runWriterLoop toJson defaultLogFileName records).written.map toJson) := by
  induction records using List.reverseRecOn with
  | nil => exact .refl filed_init
  | append_singleton records r ih =>
    rw [runWriterLoop, List.foldl_append, List.foldl_cons, List.foldl_nil]
    have hbefore := ih fun r hr => hfs r (List.mem_append_left _ hr)
    exact hbefore.trans fun t segs ht hdir hwritten =>
      record_reaches (hfs r (by simp)) ht hdir hwritten r.2

end

/-! ## The reader by itself -/

section
variable {disk : Disk} {fs : Fs} {limit : Nat} {path : String} {paths recent : List String}

/-- The reader comes there while nobody else makes a step. -/
def Leads (disk : Disk) (limit : Nat) (fs : Fs) (pc pc' : ReadPc) : Prop :=
  ∃ counts, exec (fun pc count => ReadPc.next disk limit fs count pc) pc counts = some pc'

theorem Leads.step {pc pc' pc'' : ReadPc} (count : Nat)
    (hnext : pc.next disk limit fs count = some pc') (h : Leads disk limit fs pc' pc'') :
    Leads disk limit fs pc pc'' := by
  obtain ⟨counts, hrun⟩ := h
  exact ⟨count :: counts, by rw [exec_cons hnext]; exact hrun⟩

theorem Leads.refl (pc : ReadPc) : Leads disk limit fs pc pc := ⟨[], rfl⟩

theorem Leads.trans {pc pc' pc'' : ReadPc} (h : Leads disk limit fs pc pc')
    (h' : Leads disk limit fs pc' pc'') :
    Leads disk limit fs pc pc'' := by
  obtain ⟨counts, hrun⟩ := h
  obtain ⟨counts', hrun'⟩ := h'
  exact ⟨counts ++ counts', by rw [exec_append, hrun]; exact hrun'⟩

/-- After a file: the next one, or the error. -/
def afterFile (paths : List String) : Except String (List String) → ReadPc
  | .ok recent => .inspecting paths recent
  | .error message => .returned (.error message)

section
variable {id : Nat}

/-- All of the file in one read, and its end in the next one. -/
theorem leads_of_reading (hread : fs.fails (.read path) = none) :
    Leads disk limit fs (.reading id [] path paths recent)
      (afterFile paths (readLines fs path limit recent (pieces (disk.files.getD id [])))) := by
  have hend : Leads disk limit fs (.reading id (disk.files.getD id []) path paths recent)
      (afterFile paths (readLines fs path limit recent (pieces (disk.files.getD id [])))) := by
    refine .step 0 ?_ (.refl _)
    simp only [ReadPc.next, hread, List.drop_length]
    cases readLines fs path limit recent (pieces (disk.files.getD id [])) <;> rfl
  cases hfile : disk.files.getD id [] with
  | nil =>
    rw [hfile] at hend
    exact hend
  | cons byte bytes =>
    rw [hfile] at hend
    refine .step bytes.length ?_ hend
    simp only [ReadPc.next, hread, hfile, List.length_nil, List.drop_zero, List.nil_append]
    rw [List.take_of_length_le (by simp)]

theorem leads_of_validating (hid : disk.names path = some id) :
    Leads disk limit fs (.validating id path paths recent) (afterFile paths (do
      let bytes ← validateOpenPlainFile fs disk.dir path
      fs.call (.read path) fun error => s!"Wardoff could not read {path}: {error}"
      readLines fs path limit recent (pieces bytes))) := by
  unfold validateOpenPlainFile Fs.call
  cases hinspect : fs.fails (.inspectOpen path) with
  | some error => exact .step 0 (by simp only [ReadPc.next, hinspect]; rfl) (.refl _)
  | none =>
    have hopened : ReadPc.next disk limit fs 0 (.validating id path paths recent) =
        some (.reading id [] path paths recent) := by simp only [ReadPc.next, hinspect]
    refine .step 0 hopened ?_
    rw [dir_of_names hid]
    cases hread : fs.fails (.read path) with
    | some error => exact .step 0 (by simp only [ReadPc.next, hread]; rfl) (.refl _)
    | none => exact leads_of_reading hread

end

theorem leads_of_readFile :
    Leads disk limit fs (.inspecting (path :: paths) recent)
      (afterFile paths (readFile fs disk.dir limit recent path)) := by
  unfold readFile
  cases hmeta : logFileMetadataIfExists fs disk.dir .reading path with
  | error message => exact .step 0 (by simp only [ReadPc.next, hmeta]; rfl) (.refl _)
  | ok found =>
    cases found with
    | none => exact .step 0 (by simp only [ReadPc.next, hmeta]; rfl) (.refl _)
    | some bytes =>
      have hfound : ReadPc.next disk limit fs 0 (.inspecting (path :: paths) recent) =
          some (.opening path paths recent) := by simp only [ReadPc.next, hmeta]
      refine .step 0 hfound ?_
      have hfile := logFileMetadataIfExists_eq_some hmeta
      cases hid : disk.names path with
      | none => simp [Disk.dir, hid] at hfile
      | some id =>
        unfold openPlainLogFileForRead Fs.call
        cases hopen : fs.fails (.openRead path) with
        | some error => exact .step 0 (by simp only [ReadPc.next, hopen]; rfl) (.refl _)
        | none =>
          have hopened : ReadPc.next disk limit fs 0 (.opening path paths recent) =
              some (.validating id path paths recent) := by simp only [ReadPc.next, hopen, hid]
          exact .step 0 hopened (leads_of_validating hid)

theorem leads_of_readFiles :
    Leads disk limit fs (.inspecting paths recent)
      (.returned (readFiles fs disk.dir limit recent paths)) := by
  induction paths generalizing recent with
  | nil => exact .step 0 rfl (.refl _)
  | cons path paths ih =>
    refine leads_of_readFile.trans ?_
    unfold readFiles
    cases readFile fs disk.dir limit recent path with
    | error message => exact .refl _
    | ok recent => exact ih

/-- **The reader by itself** returns what `readRecentLinesFromPath` returns for the directory. -/
theorem readRecentLinesFromPath_steps (disk : Disk) (limit : Nat) (fs : Fs) :
    Leads disk limit fs .idle
      (.returned (readRecentLinesFromPath fs disk.dir defaultLogFileName limit)) := by
  unfold readRecentLinesFromPath
  split_ifs with hmax hzero
  · exact .step 0 (by simp only [ReadPc.next, if_pos hmax]) (.refl _)
  · exact .step 0 (by simp only [ReadPc.next, if_neg hmax, if_pos hzero]) (.refl _)
  · exact .step 0 (by simp only [ReadPc.next, if_neg hmax, if_neg hzero]) leads_of_readFiles

end

end Logger
