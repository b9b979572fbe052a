import Wardoff.Logger.Proof.History

/-!
# Failed rotations keep the history

Every call of a record may fail. A rotation can then stop after any of its three file operations,
and the next one starts from what it has left (`Layout`).

* One lemma for each operation with every outcome: `removeFileIfExists_cases`,
  `renameIfExists_cases`, `appendLine_cases`.
* `rotateLogs_trims`: a rotation, however far it gets, drops lines from the oldest end only, and
  none of the newest file.
* `failed_rotations_keep_history`: so the files are always the end of what was written, if no call
  takes a file that is there for a missing one (`Fs.Clean`).
* `missed_files_leave_gap`: where two inspections do so, a rotation writes over a middle file.
-/

namespace Logger

open Text

/-! ## Failures -/

/-- The call fails as if the file were missing. -/
def Fs.Misses (fs : Fs) (call : FsCall) : Prop :=
  ∃ error, fs.fails call = some error ∧ error.notFound = true

/-- `remove_file_if_exists` takes this file for a missing one. -/
def Fs.MissesRemoval (fs : Fs) (path : String) : Prop :=
  fs.Misses (.inspect .removal path) ∨ fs.Misses (.remove path)

/-- `rename_if_exists` takes the source for a missing file. -/
def Fs.MissesSource (fs : Fs) (source target : String) : Prop :=
  fs.Misses (.inspect .source source) ∨ fs.Misses (.rename source target)

section
variable {fs : Fs} {dir : Dir} {path source target : String} {inspection : Inspection}

theorem logFileMetadataIfExists_eq_none
    (h : logFileMetadataIfExists fs dir inspection path = .ok none) :
    dir path = none ∨ fs.Misses (.inspect inspection path) := by
  unfold logFileMetadataIfExists at h
  split at h
  · rename_i error hfails
    split_ifs at h with hmissing
    exact .inr ⟨error, hfails, hmissing⟩
  · split at h
    · exact .inl ‹_›
    · rename_i entry _
      cases entry <;> cases h

theorem logFileMetadataIfExists_eq_some {bytes : List UInt8}
    (h : logFileMetadataIfExists fs dir inspection path = .ok (some bytes)) :
    dir path = some (.file bytes) := by
  unfold logFileMetadataIfExists at h
  split at h
  · split_ifs at h
    cases h
  · split at h
    · cases h
    · rename_i entry hentry
      cases entry <;> cases h
      exact hentry

/-- It leaves everything as it is, or removes the file. -/
theorem removeFileIfExists_cases (fs : Fs) (dir : Dir) (path : String) :
    (∃ result, removeFileIfExists fs dir path = (result, dir) ∧
        (result = .ok () → dir path = none ∨ fs.MissesRemoval path)) ∨
      removeFileIfExists fs dir path = (.ok (), Function.update dir path none) := by
  unfold removeFileIfExists
  split
  · exact .inl ⟨_, rfl, nofun⟩
  · rename_i hmeta
    exact .inl ⟨_, rfl, fun _ => (logFileMetadataIfExists_eq_none hmeta).imp_right .inl⟩
  · split
    · rename_i error hfails
      split_ifs with hmissing
      · exact .inl ⟨_, rfl, fun _ => .inr (.inr ⟨error, hfails, hmissing⟩)⟩
      · exact .inl ⟨_, rfl, nofun⟩
    · exact .inr rfl

/-- It leaves everything as it is, or renames the file. -/
theorem renameIfExists_cases (fs : Fs) (dir : Dir) (source target : String) :
    (∃ result, renameIfExists fs dir source target = (result, dir) ∧
        (result = .ok () → dir source = none ∨ fs.MissesSource source target)) ∨
      ∃ bytes, dir source = some (.file bytes) ∧ renameIfExists fs dir source target =
        (.ok (),
          Function.update (Function.update dir target (some (.file bytes))) source none) := by
  unfold renameIfExists
  split
  · exact .inl ⟨_, rfl, nofun⟩
  · rename_i hmeta
    exact .inl ⟨_, rfl, fun _ => (logFileMetadataIfExists_eq_none hmeta).imp_right .inl⟩
  · rename_i bytes hmeta
    split
    · exact .inl ⟨_, rfl, nofun⟩
    · split
      · rename_i error hfails
        split_ifs with hmissing
        · exact .inl ⟨_, rfl, fun _ => .inr (.inr ⟨error, hfails, hmissing⟩)⟩
        · exact .inl ⟨_, rfl, nofun⟩
      · exact .inr ⟨bytes, logFileMetadataIfExists_eq_some hmeta, rfl⟩

end

/-! ## What the files hold -/

/-- The file holds these lines. A file that holds none may be missing. -/
def Stores (entry : Option Entry) (segment : List String) : Prop :=
  entry = some (.file (fileBytes segment)) ∨ entry = none ∧ segment = []

structure Layout (dir : Dir) (two one base : List String) : Prop where
  two : Stores (dir "wardoff.2.jsonl") two
  one : Stores (dir "wardoff.1.jsonl") one
  base : Stores (dir "wardoff.jsonl") base

section
variable {fs : Fs} {dir : Dir} {entry : Option Entry} {segment two one base : List String}

theorem Stores.eq_nil (h : Stores entry segment) (hnone : entry = none) : segment = [] := by
  rcases h with h | ⟨-, h⟩
  · rw [hnone] at h
    cases h
  · exact h

theorem Stores.content_eq (h : Stores entry segment) : content entry = fileBytes segment := by
  rcases h with rfl | ⟨rfl, rfl⟩ <;> rfl

theorem stores_none : Stores none [] := .inr ⟨rfl, rfl⟩

/-- The oldest file is removed. -/
theorem Layout.removed (h : Layout dir two one base) :
    Layout (Function.update dir "wardoff.2.jsonl" none) [] one base where
  two := by rw [Function.update_self]; exact stores_none
  one := by rw [Function.update_of_ne (by decide)]; exact h.one
  base := by rw [Function.update_of_ne (by decide)]; exact h.base

/-- The middle file replaces the oldest one. -/
theorem Layout.renamedOne (h : Layout dir two one base) :
    Layout (Function.update (Function.update dir "wardoff.2.jsonl" (dir "wardoff.1.jsonl"))
      "wardoff.1.jsonl" none) one [] base where
  two := by rw [Function.update_of_ne (by decide), Function.update_self]; exact h.one
  one := by rw [Function.update_self]; exact stores_none
  base := by rw [Function.update_of_ne (by decide), Function.update_of_ne (by decide)]; exact h.base

/-- The newest file replaces the middle one. -/
theorem Layout.renamedBase (h : Layout dir two one base) :
    Layout (Function.update (Function.update dir "wardoff.1.jsonl" (dir "wardoff.jsonl"))
      "wardoff.jsonl" none) two base [] where
  two := by rw [Function.update_of_ne (by decide), Function.update_of_ne (by decide)]; exact h.two
  one := by rw [Function.update_of_ne (by decide), Function.update_self]; exact h.base
  base := by rw [Function.update_self]; exact stores_none

/-- What a step of a rotation may do: it drops lines from the oldest end, and none of the newest
file. -/
def Trims (dir : Dir) (two one base : List String) : Prop :=
  ∃ two' one' base', Layout dir two' one' base' ∧ two' ++ one' ++ base' <:+ two ++ one ++ base ∧
    base <:+ two' ++ one' ++ base'

theorem Layout.trims (h : Layout dir two one base) : Trims dir two one base :=
  ⟨two, one, base, h, List.suffix_rfl, List.suffix_append _ _⟩

theorem Trims.trans {two' one' : List String} (h : Trims dir two' one' base)
    (hsuffix : two' ++ one' <:+ two ++ one) : Trims dir two one base := by
  obtain ⟨two₁, one₁, base₁, hlayout, hkept, hbase⟩ := h
  refine ⟨two₁, one₁, base₁, hlayout, hkept.trans ?_, hbase⟩
  obtain ⟨older, he⟩ := hsuffix
  exact ⟨older, by rw [← he, List.append_assoc older]⟩

/-- The last rename: there is nothing between the oldest file and the newest one. -/
theorem renameBase_trims (fs : Fs) (h : Layout dir two one base) (hgap : two = [] ∨ one = []) :
    Trims (renameIfExists fs dir "wardoff.jsonl" "wardoff.1.jsonl").2 two one base := by
  rcases renameIfExists_cases fs dir "wardoff.jsonl" "wardoff.1.jsonl" with ⟨result, hrename, -⟩ |
    ⟨bytes, hfile, hrename⟩
  · rw [hrename]
    exact h.trims
  · rw [hrename, ← hfile]
    refine ⟨two, base, [], h.renamedBase, ?_, by simp⟩
    rcases hgap with rfl | rfl <;> simp

/-- The renames of a rotation. -/
def renames (fs : Fs) (dir : Dir) : Except String Unit × Dir :=
  match renameIfExists fs dir "wardoff.1.jsonl" "wardoff.2.jsonl" with
  | (.error message, dir) => (.error message, dir)
  | (.ok (), dir) => renameIfExists fs dir "wardoff.jsonl" "wardoff.1.jsonl"

theorem rotateLogs_eq (fs : Fs) (dir : Dir) : rotateLogs fs dir defaultLogFileName =
    match removeFileIfExists fs dir "wardoff.2.jsonl" with
    | (.error message, dir) => (.error message, dir)
    | (.ok (), dir) => renames fs dir := by
  have hloop (dir : Dir) : renameRotated fs dir defaultLogFileName [1] =
      renameIfExists fs dir "wardoff.1.jsonl" "wardoff.2.jsonl" := by
    simp only [renameRotated, Nat.reduceAdd, rotatedLogPath_one, rotatedLogPath_two]
    rcases renameIfExists fs dir "wardoff.1.jsonl" "wardoff.2.jsonl" with ⟨_ | _, _⟩ <;> rfl
  simp only [rotateLogs, show maxLogFiles - 1 = 2 from rfl,
    show (List.range' 1 (2 - 1)).reverse = [1] from rfl,
    rotatedLogPath_one, rotatedLogPath_two, hloop, renames]
  rfl

theorem renames_trims (h : Layout dir two one base)
    (hgap : two = [] ∨ ¬ fs.MissesSource "wardoff.1.jsonl" "wardoff.2.jsonl") :
    Trims (renames fs dir).2 two one base := by
  unfold renames
  rcases renameIfExists_cases fs dir "wardoff.1.jsonl" "wardoff.2.jsonl" with
    ⟨result, hrename, hok⟩ | ⟨bytes, hfile, hrename⟩
  · rw [hrename]
    cases result with
    | error message => exact h.trims
    | ok u =>
      refine renameBase_trims fs h ?_
      rcases hgap with hgap | hgap
      · exact .inl hgap
      · exact .inr (h.one.eq_nil ((hok rfl).resolve_right hgap))
  · rw [hrename, ← hfile]
    have hmoved := renameBase_trims fs h.renamedOne (.inr rfl)
    exact hmoved.trans (by simp)

/-- **A rotation.** However far it gets, the files hold the end of what they held. Only a rotation
that took both rotated files for missing, though they are there, would leave a gap. -/
theorem rotateLogs_trims (h : Layout dir two one base)
    (hfs : ¬ (fs.MissesRemoval "wardoff.2.jsonl" ∧
      fs.MissesSource "wardoff.1.jsonl" "wardoff.2.jsonl")) :
    Trims (rotateLogs fs dir defaultLogFileName).2 two one base := by
  rw [rotateLogs_eq]
  rcases removeFileIfExists_cases fs dir "wardoff.2.jsonl" with ⟨result, hremove, hok⟩ | hremove
  · rw [hremove]
    cases result with
    | error message => exact h.trims
    | ok u =>
      refine renames_trims h ?_
      rcases hok rfl with hnone | hmisses
      · exact .inl (h.two.eq_nil hnone)
      · exact .inr fun hsource => hfs ⟨hmisses, hsource⟩
  · rw [hremove]
    exact (renames_trims h.removed (.inl rfl)).trans (by simp)

/-! ## One record -/

/-- A write to an open file is all or nothing, and once the line is written the record is. -/
structure Fs.WritesWhole (fs : Fs) : Prop where
  write : ∀ error, fs.fails (.write defaultLogFileName) = some error →
    fs.wrote (.write defaultLogFileName) = 0
  newline : fs.fails (.writeNewline defaultLogFileName) = none
  flush : fs.fails (.flush defaultLogFileName) = none

/-- Besides, no rotation takes both rotated files for missing: `NotFound` says that a file is not
there. -/
structure Fs.Clean (fs : Fs) : Prop extends fs.WritesWhole where
  rotation :
    ¬ (fs.MissesRemoval "wardoff.2.jsonl" ∧ fs.MissesSource "wardoff.1.jsonl" "wardoff.2.jsonl")

/-- The file is there after the open, with what it held. -/
theorem openPlainLogFileForAppend_cases (fs : Fs) (hplain : Plain dir defaultLogFileName) :
    (∃ message, openPlainLogFileForAppend fs dir defaultLogFileName = (.error message, dir)) ∨
      ∃ result, openPlainLogFileForAppend fs dir defaultLogFileName =
          (result, Function.update dir defaultLogFileName
            (some (.file (content (dir defaultLogFileName))))) ∧
        ∀ bytes, result = .ok bytes → bytes = content (dir defaultLogFileName) := by
  have hfile : (dir defaultLogFileName).getD (.file []) =
    .file (content (dir defaultLogFileName)) := by
    cases he : dir defaultLogFileName with
    | none => rfl
    | some entry =>
      obtain ⟨bytes, rfl⟩ := hplain entry he
      rfl
  unfold openPlainLogFileForAppend
  split
  · exact .inl ⟨_, rfl⟩
  · refine .inr ⟨_, by rw [hfile], ?_⟩
    intro bytes hbytes
    unfold validateOpenPlainFile at hbytes
    split at hbytes
    · cases hbytes
    · rw [Function.update_self] at hbytes
      cases hbytes
      rfl

/-- The line is appended, or nothing is; the file may have been created. -/
theorem appendLine_cases (hfs : fs.WritesWhole) (hplain : Plain dir defaultLogFileName)
    (line : String) :
    (∃ message, appendLine fs dir defaultLogFileName line = (.error message, dir)) ∨
      (∃ message, appendLine fs dir defaultLogFileName line =
        (.error message, Function.update dir defaultLogFileName
          (some (.file (content (dir defaultLogFileName)))))) ∨
      appendLine fs dir defaultLogFileName line =
        (.ok (), Function.update dir defaultLogFileName
          (some (.file (content (dir defaultLogFileName) ++ lineBytes line)))) := by
  unfold appendLine
  rcases openPlainLogFileForAppend_cases fs hplain with ⟨message, hopen⟩ | ⟨result, hopen, hbytes⟩
  · rw [hopen]
    exact .inl ⟨message, rfl⟩
  · rw [hopen]
    cases result with
    | error message => exact .inr (.inl ⟨message, rfl⟩)
    | ok bytes =>
      obtain rfl := hbytes bytes rfl
      cases hwrite : fs.fails (.write defaultLogFileName) with
      | some error =>
        simp only [appendBytes, hwrite, hfs.write error hwrite, List.take_zero, List.append_nil,
          Function.update_idem]
        exact .inr (.inl ⟨_, rfl⟩)
      | none =>
        simp only [appendBytes, hwrite, hfs.newline, Fs.call, hfs.flush, Function.update_idem,
          List.append_assoc]
        exact .inr (.inr rfl)

theorem Stores.plain {path : String} (h : Stores (dir path) segment) : Plain dir path := by
  intro entry hentry
  rcases h with h | ⟨h, -⟩
  · rw [h] at hentry
    cases hentry
    exact ⟨_, rfl⟩
  · rw [h] at hentry
    cases hentry

theorem Layout.updateBase (h : Layout dir two one base) (segment : List String) :
    Layout (Function.update dir defaultLogFileName (some (.file (fileBytes segment)))) two one
      segment where
  two := by rw [Function.update_of_ne (by decide)]; exact h.two
  one := by rw [Function.update_of_ne (by decide)]; exact h.one
  base := .inl (Function.update_self _ _ _)

theorem appendLine_layout (hfs : fs.Clean) (h : Layout dir two one base) (line : String) :
    (∃ message after, appendLine fs dir defaultLogFileName line = (.error message, after) ∧
        Layout after two one base) ∨
      ∃ after, appendLine fs dir defaultLogFileName line = (.ok (), after) ∧
        Layout after two one (base ++ [line]) := by
  have hcontent : content (dir defaultLogFileName) = fileBytes base := h.base.content_eq
  rcases appendLine_cases hfs.toWritesWhole (Stores.plain h.base) line with ⟨message, happend⟩ |
    ⟨message, happend⟩ | happend
  · exact .inl ⟨message, dir, happend, h⟩
  · rw [hcontent] at happend
    exact .inl ⟨message, _, happend, h.updateBase base⟩
  · rw [hcontent, ← fileBytes_concat] at happend
    exact .inr ⟨_, happend, h.updateBase (base ++ [line])⟩

/-- A rotation only happens where the newest file holds a line: one that fits would not need it. -/
theorem rotateIfNeeded_cases (h : Layout dir two one base) (hfs : fs.Clean) {incomingBytes : Nat}
    (hfit : incomingBytes ≤ maxLogBytes) :
    (rotateIfNeeded fs dir defaultLogFileName incomingBytes).2 = dir ∨
      base ≠ [] ∧ Trims (rotateIfNeeded fs dir defaultLogFileName incomingBytes).2 two one
        base := by
  unfold rotateIfNeeded
  split
  · exact .inl rfl
  · rename_i found hmeta
    dsimp only
    split_ifs with hroom
    · exact .inl rfl
    · refine .inr ⟨?_, rotateLogs_trims h hfs.rotation⟩
      rintro rfl
      cases found with
      | none => exact hroom (by simpa using hfit)
      | some bytes =>
        have hcontent : content (dir "wardoff.jsonl") = [] := h.base.content_eq
        rw [show dir "wardoff.jsonl" = _ from logFileMetadataIfExists_eq_some hmeta] at hcontent
        obtain rfl : bytes = [] := hcontent
        exact hroom (by simpa using hfit)

end

/-! ## The whole run -/

/-- The files are the end of what was written, and not empty unless nothing was. -/
def EndsHistory (toJson : LogRecord → String) (log : Log) : Prop :=
  ∃ two one base, Layout log.dir two one base ∧ two ++ one ++ base <:+ log.written.map toJson ∧
    (log.written ≠ [] → two ++ one ++ base ≠ [])

section
variable {toJson : LogRecord → String} {log : Log} {fs : Fs}

/-- The rotation keeps the last line. -/
theorem EndsHistory.rotated (h : EndsHistory toJson log) (hfs : fs.Clean) {incomingBytes : Nat}
    (hfit : incomingBytes ≤ maxLogBytes) :
    EndsHistory toJson
      { log with dir := (rotateIfNeeded fs log.dir defaultLogFileName incomingBytes).2 } := by
  obtain ⟨two, one, base, hlayout, hkept, hlast⟩ := h
  rcases rotateIfNeeded_cases hlayout hfs hfit with
    hsame | ⟨hbase, two', one', base', hlayout', htrim, hnewest⟩
  · rw [hsame]
    exact ⟨two, one, base, hlayout, hkept, hlast⟩
  · refine ⟨two', one', base', hlayout', htrim.trans hkept, fun _ hempty => hbase ?_⟩
    rw [hempty] at hnewest
    exact List.suffix_nil.1 hnewest

theorem EndsHistory.record {record : LogRecord} (h : EndsHistory toJson log) (hfs : fs.Clean)
    (hfit : lineSize (toJson record) ≤ maxLogBytes) :
    EndsHistory toJson (log.record toJson fs defaultLogFileName record) := by
  obtain ⟨two, one, base, hlayout, hkept, hlast⟩ := h.rotated hfs hfit
  cases hrotate : rotateIfNeeded fs log.dir defaultLogFileName (lineSize (toJson record)) with
  | mk rotated dir =>
    rw [hrotate] at hlayout
    rw [lineSize] at hrotate
    unfold Log.record writeRecord
    cases fs.fails .ensureDirectory with
    | some error => exact h
    | none =>
      cases fs.fails .serialize with
      | some error => exact h
      | none =>
        cases rotated with
        | error message =>
          simp only [hrotate]
          exact ⟨two, one, base, hlayout, hkept, hlast⟩
        | ok u =>
          simp only [hrotate]
          rcases appendLine_layout hfs hlayout (toJson record) with
            ⟨message, after, happend, hafter⟩ | ⟨after, happend, hafter⟩
          · rw [happend]
            exact ⟨two, one, base, hafter, hkept, hlast⟩
          · rw [happend]
            refine ⟨two, one, base ++ [toJson record], hafter, ?_, by simp⟩
            obtain ⟨older, he⟩ := hkept
            exact ⟨older,
              by simp only [List.map_append, List.map_singleton] at he ⊢; rw [← he]; simp⟩

theorem endsHistory_runWriterLoop (records : List (Fs × LogRecord))
    (hclean : ∀ r ∈ records, r.1.Clean)
    (hfit : ∀ r ∈ records, lineSize (toJson r.2) ≤ maxLogBytes) :
    EndsHistory toJson (runWriterLoop toJson defaultLogFileName records) := by
  induction records using List.reverseRecOn with
  | nil => exact ⟨[], [], [], ⟨stores_none, stores_none, stores_none⟩, List.suffix_rfl,
      fun h => absurd rfl h⟩
  | append_singleton records r ih =>
    rw [runWriterLoop, List.foldl_append, List.foldl_cons, List.foldl_nil]
    have hbefore := ih (fun r hr => hclean r (List.mem_append_left _ hr))
      (fun r hr => hfit r (List.mem_append_left _ hr))
    exact hbefore.record (hclean r (by simp)) (hfit r (by simp))

end

/-- The files, from the oldest to the newest. -/
def allBytes (dir : Dir) : List UInt8 :=
  (logPathsOldestToNewest defaultLogFileName).flatMap fun path => content (dir path)

theorem allBytes_eq (dir : Dir) : allBytes dir =
    content (dir "wardoff.2.jsonl") ++
      (content (dir "wardoff.1.jsonl") ++ content (dir "wardoff.jsonl")) := by
  simp [allBytes, logPathsOldestToNewest_default]

/-- **Failed rotations keep the history.** Whatever fails in a sequence of records, the files, from
the oldest to the newest, are the end of the lines that were written, with the last one of them. -/
theorem failed_rotations_keep_history (toJson : LogRecord → String)
    (records : List (Fs × LogRecord)) (hclean : ∀ r ∈ records, r.1.Clean)
    (hfit : ∀ r ∈ records, lineSize (toJson r.2) ≤ maxLogBytes) :
    ∃ kept, kept <:+ (runWriterLoop toJson defaultLogFileName records).written.map toJson ∧
      ((runWriterLoop toJson defaultLogFileName records).written ≠ [] → kept ≠ []) ∧
      allBytes (runWriterLoop toJson defaultLogFileName records).dir = fileBytes kept := by
  obtain ⟨two, one, base, hlayout, hkept, hlast⟩ := endsHistory_runWriterLoop records hclean hfit
  refine ⟨two ++ one ++ base, hkept, hlast, ?_⟩
  simp [allBytes_eq, hlayout.two.content_eq, hlayout.one.content_eq, hlayout.base.content_eq,
    fileBytes]

/-! ## A rotation that stops, and one that leaves a gap -/

/-- These calls fail. -/
def failing (error : IoError) (calls : List FsCall) : Fs where
  fails call := if call ∈ calls then some error else none

def accessDenied : IoError where
  notFound := false
  text := "Access is denied. (os error 5)"

def fileNotFound : IoError where
  notFound := true
  text := "The system cannot find the file specified. (os error 2)"

/-- No call fails. -/
theorem clean_empty : Fs.Clean {} where
  write error h := by cases h
  newline := rfl
  flush := rfl
  rotation := by simp [Fs.MissesRemoval, Fs.Misses]

theorem failing_writesWhole (error : IoError) {calls : List FsCall}
    (hnewline : .writeNewline defaultLogFileName ∉ calls)
    (hflush : .flush defaultLogFileName ∉ calls) :
    (failing error calls).WritesWhole where
  write _ _ := rfl
  newline := if_neg hnewline
  flush := if_neg hflush

theorem denied_clean {calls : List FsCall} (hnewline : .writeNewline defaultLogFileName ∉ calls)
    (hflush : .flush defaultLogFileName ∉ calls) : (failing accessDenied calls).Clean where
  toWritesWhole := failing_writesWhole accessDenied hnewline hflush
  rotation := by
    have hnever (call : FsCall) : ¬ (failing accessDenied calls).Misses call := by
      rintro ⟨error, hfails, hmissing⟩
      simp only [failing] at hfails
      split_ifs at hfails
      cases hfails
      cases hmissing
    simp [Fs.MissesRemoval, Fs.MissesSource, hnever]

/-- Long records, each of which needs a file of its own, with the outcomes of their calls. -/
def longRecords (timestamps : List String) : List (Fs × LogRecord) :=
  timestamps.map fun timestamp => ({}, longRecord timestamp)

theorem holds_longRecords (timestamps : List String) :
    Holds (runWriterLoop plainJson defaultLogFileName (longRecords timestamps)).dir
        ((timestamps.map longLine).reverse.map fun line => [line]) ∧
      (runWriterLoop plainJson defaultLogFileName (longRecords timestamps)).written =
        timestamps.map longRecord := by
  have hok : ∀ r ∈ longRecords timestamps, r.1 = {} := by simp [longRecords]
  obtain ⟨h, hwritten⟩ := holds_runWriterLoop plainJson (longRecords timestamps) hok
  have hrecords : (longRecords timestamps).map (·.2) = timestamps.map longRecord := by
    simp [longRecords]
  have hlines : (timestamps.map longRecord).map plainJson = timestamps.map longLine := by
    rw [List.map_map]
    rfl
  rw [hrecords, hlines, segments_longLines] at h
  rw [hrecords] at hwritten
  exact ⟨h, hwritten⟩

/-- A long line needs a rotation where the newest file holds another one. -/
theorem rotateIfNeeded_longLine {fs : Fs} {dir : Dir} {timestamp : String} (timestamp' : String)
    (hsize : fs.fails (.inspect .size defaultLogFileName) = none)
    (hbase : dir defaultLogFileName = some (.file (fileBytes [longLine timestamp]))) :
    rotateIfNeeded fs dir defaultLogFileName (lineSize (longLine timestamp')) =
      rotateLogs fs dir defaultLogFileName := by
  have hmeta : logFileMetadataIfExists fs dir .size defaultLogFileName =
      .ok (some (fileBytes [longLine timestamp])) := by
    simp only [logFileMetadataIfExists, hsize, hbase, validatePlainFile, Except.map]
  have hlong : ¬ (fileBytes [longLine timestamp]).length + lineSize (longLine timestamp') ≤
    maxLogBytes := by
    have hmax : maxLogBytes = 5242880 := by decide
    rw [length_fileBytes, total, List.map_singleton, List.sum_singleton, lineSize_longLine,
      lineSize_longLine]
    omega
  simp only [rotateIfNeeded, hmeta, Option.getD_some, if_neg hlong]

theorem fits_longRecord {timestamp : String} (h : (utf8 timestamp).length = 2) :
    lineSize (plainJson (longRecord timestamp)) ≤ maxLogBytes := by
  have hmax : maxLogBytes = 5242880 := by decide
  have hsize : lineSize (plainJson (longRecord timestamp)) = _ := lineSize_longLine timestamp
  rw [hsize, h, hmax]
  omega

/-- A rotation that may move the two older files, but not the newest one. -/
def stoppedRotation : Fs := failing accessDenied [.rename "wardoff.jsonl" "wardoff.1.jsonl"]

/-- `write_record` with a rotation. -/
theorem writeRecord_longRecord {fs : Fs} {dir : Dir} {timestamp : String} (timestamp' : String)
    (hensure : fs.fails .ensureDirectory = none) (hserialize : fs.fails .serialize = none)
    (hsize : fs.fails (.inspect .size "wardoff.jsonl") = none)
    (hbase : dir "wardoff.jsonl" = some (.file (fileBytes [longLine timestamp]))) :
    writeRecord plainJson fs dir defaultLogFileName (longRecord timestamp') =
      match rotateLogs fs dir defaultLogFileName with
      | (.error message, dir) => (.error message, dir)
      | (.ok (), dir) => appendLine fs dir defaultLogFileName (longLine timestamp') := by
  have hrotate := rotateIfNeeded_longLine timestamp' hsize hbase
  rw [lineSize] at hrotate
  simp only [writeRecord, hensure, hserialize]
  show (match rotateIfNeeded fs dir defaultLogFileName
    ((utf8 (longLine timestamp')).length + 1) with
    | (.error message, dir) => ((.error message, dir) : Except String Unit × Dir)
    | (.ok (), dir) => appendLine fs dir defaultLogFileName (longLine timestamp')) = _
  rw [hrotate]

/-- The rotation stops before its last rename. -/
theorem stoppedRotation_rotates {dir : Dir} (h : Holds dir [[longLine "t1"], [longLine "t0"]]) :
    ∃ message after, writeRecord plainJson stoppedRotation dir defaultLogFileName
      (longRecord "t2") =
        (.error message, after) ∧ after "wardoff.1.jsonl" = none := by
  have hbase : dir "wardoff.jsonl" = some (.file (fileBytes [longLine "t1"])) := h.base
  have hone : dir "wardoff.1.jsonl" = some (.file (fileBytes [longLine "t0"])) := h.one
  have htwo : dir "wardoff.2.jsonl" = none := h.two
  have hremove : removeFileIfExists stoppedRotation dir "wardoff.2.jsonl" = (.ok (), dir) := by
    simp [removeFileIfExists, logFileMetadataIfExists, stoppedRotation, failing, htwo]
  have hrename : renameIfExists stoppedRotation dir "wardoff.1.jsonl" "wardoff.2.jsonl" =
      (.ok (), Function.update (Function.update dir "wardoff.2.jsonl"
        (some (.file (fileBytes [longLine "t0"])))) "wardoff.1.jsonl" none) := by
    simp [renameIfExists, logFileMetadataIfExists, stoppedRotation, failing, hone, htwo,
      validatePlainFile, Except.map]
  rw [writeRecord_longRecord "t2" (by decide +kernel) (by decide +kernel) (by decide +kernel) hbase,
    rotateLogs_eq, hremove]
  simp only [renames, hrename]
  simp [renameIfExists, logFileMetadataIfExists, stoppedRotation, failing, accessDenied, hbase,
    validatePlainFile, Except.map]

/-- The second record rotates the first one away; the rotation for the third one stops between its
renames, so that the third record is not written and there is no middle file. -/
def stoppedRecords : List (Fs × LogRecord) :=
  longRecords ["t0", "t1"] ++ [(stoppedRotation, longRecord "t2")]

theorem failed_rotations_keep_history_denied :
    (runWriterLoop plainJson defaultLogFileName stoppedRecords).dir "wardoff.1.jsonl" = none ∧
      ∃ kept,
        kept <:+ (runWriterLoop plainJson defaultLogFileName stoppedRecords).written.map plainJson ∧
        ((runWriterLoop plainJson defaultLogFileName stoppedRecords).written ≠ [] → kept ≠ []) ∧
        allBytes (runWriterLoop plainJson defaultLogFileName stoppedRecords).dir =
          fileBytes kept := by
  refine ⟨?_, failed_rotations_keep_history plainJson stoppedRecords ?_ ?_⟩
  · obtain ⟨message, after, hwrite, hafter⟩ :=
      stoppedRotation_rotates (holds_longRecords ["t0", "t1"]).1
    rw [stoppedRecords, runWriterLoop_concat, Log.record, hwrite]
    exact hafter
  · have hstopped : Fs.Clean stoppedRotation := denied_clean (by decide) (by decide)
    simp [stoppedRecords, longRecords, clean_empty, hstopped]
  · simp only [stoppedRecords, longRecords, List.map_cons, List.map_nil, List.cons_append,
      List.nil_append,
      List.forall_mem_cons, List.not_mem_nil, false_implies, implies_true, and_true]
    exact ⟨fits_longRecord (by decide +kernel), fits_longRecord (by decide +kernel),
      fits_longRecord (by decide +kernel)⟩

/-- `ErrorKind::NotFound` for two files that are there. -/
def missedFiles : Fs :=
  failing fileNotFound [.inspect .removal "wardoff.2.jsonl", .inspect .source "wardoff.1.jsonl"]

/-- The newest file replaces the middle one. -/
theorem missedFiles_replaces {dir : Dir}
    (h : Holds dir [[longLine "t2"], [longLine "t1"], [longLine "t0"]]) :
    ∃ after, writeRecord plainJson missedFiles dir defaultLogFileName (longRecord "t3") =
      (.ok (), after) ∧
      allBytes after = fileBytes [longLine "t0", longLine "t2", longLine "t3"] := by
  have hbase : dir "wardoff.jsonl" = some (.file (fileBytes [longLine "t2"])) := h.base
  have hone : dir "wardoff.1.jsonl" = some (.file (fileBytes [longLine "t1"])) := h.one
  have htwo : dir "wardoff.2.jsonl" = some (.file (fileBytes [longLine "t0"])) := h.two
  have hremove : removeFileIfExists missedFiles dir "wardoff.2.jsonl" = (.ok (), dir) := by
    simp [removeFileIfExists, logFileMetadataIfExists, missedFiles, failing, fileNotFound]
  have hrename : renameIfExists missedFiles dir "wardoff.1.jsonl" "wardoff.2.jsonl" =
    (.ok (), dir) := by
    simp [renameIfExists, logFileMetadataIfExists, missedFiles, failing, fileNotFound]
  have hmove : renameIfExists missedFiles dir "wardoff.jsonl" "wardoff.1.jsonl" =
      (.ok (), Function.update (Function.update dir "wardoff.1.jsonl"
        (some (.file (fileBytes [longLine "t2"])))) "wardoff.jsonl" none) := by
    simp [renameIfExists, logFileMetadataIfExists, missedFiles, failing, hbase, hone,
      validatePlainFile, Except.map]
  rw [writeRecord_longRecord "t3" (by decide +kernel) (by decide +kernel) (by decide +kernel) hbase,
    rotateLogs_eq, hremove]
  simp only [renames, hrename, hmove]
  have happends : missedFiles.Appends defaultLogFileName := by
    unfold Fs.Appends
    decide +kernel
  refine ⟨_, appendLine_ok happends (by simp [Plain, defaultLogFileName]) _, ?_⟩
  simp [allBytes_eq, defaultLogFileName, htwo, content, fileBytes]

theorem utf8_longLine_inj {timestamp timestamp' : String}
    (h : utf8 (longLine timestamp) = utf8 (longLine timestamp'))
    (hlength : (utf8 timestamp).length = (utf8 timestamp').length) :
    utf8 timestamp = utf8 timestamp' := by
  rw [utf8_longLine, utf8_longLine] at h
  exact (List.append_inj (List.append_cancel_left h) hlength).1

/-- The second line is lost, and it is not the oldest one. -/
theorem gap_not_suffix {kept : List String}
    (hkept : kept <:+ [longLine "t0", longLine "t1", longLine "t2", longLine "t3"]) :
    fileBytes kept ≠ fileBytes [longLine "t0", longLine "t2", longLine "t3"] := by
  intro hbytes
  have hlength : (utf8 "t0").length = 2 ∧ (utf8 "t1").length = 2 ∧ (utf8 "t2").length = 2 ∧
      (utf8 "t3").length = 2 := by decide +kernel
  have hsize := congrArg List.length hbytes
  simp only [length_fileBytes, total, List.map_cons, List.map_nil, List.sum_cons, List.sum_nil,
    lineSize_longLine, hlength] at hsize
  simp only [List.suffix_cons_iff, List.suffix_nil] at hkept
  rcases hkept with rfl | rfl | rfl | rfl | rfl
  case inr.inl =>
    -- as many lines: the first one has to be another
    simp only [fileBytes, List.flatMap_cons, List.append_cancel_right_eq, lineBytes] at hbytes
    have hstamp := utf8_longLine_inj hbytes (by rw [hlength.1, hlength.2.1])
    exact absurd hstamp (by decide +kernel)
  all_goals simp [lineSize_longLine, hlength] at hsize

/-- Two files that are there are taken for missing, and the newest one replaces the middle one. -/
theorem missed_files_leave_gap :
    ¬ ∀ records : List (Fs × LogRecord), (∀ r ∈ records, r.1.WritesWhole) →
      (∀ r ∈ records, lineSize (plainJson r.2) ≤ maxLogBytes) →
      ∃ kept, kept <:+ (runWriterLoop plainJson defaultLogFileName records).written.map plainJson ∧
        ((runWriterLoop plainJson defaultLogFileName records).written ≠ [] → kept ≠ []) ∧
        allBytes (runWriterLoop plainJson defaultLogFileName records).dir = fileBytes kept := by
  intro hclaim
  obtain ⟨hholds, hwritten⟩ := holds_longRecords ["t0", "t1", "t2"]
  obtain ⟨after, hwrite, hafter⟩ := missedFiles_replaces hholds
  have hnone : Fs.WritesWhole {} := clean_empty.toWritesWhole
  have hmissed : missedFiles.WritesWhole := failing_writesWhole fileNotFound (by decide) (by decide)
  obtain ⟨kept, hkept, -, hbytes⟩ :=
    hclaim (longRecords ["t0", "t1", "t2"] ++ [(missedFiles, longRecord "t3")])
      (by simp [longRecords, hnone, hmissed])
      (by
        simp only [longRecords, List.map_cons, List.map_nil, List.cons_append, List.nil_append,
          List.forall_mem_cons, List.not_mem_nil, false_implies, implies_true, and_true]
        exact ⟨fits_longRecord (by decide +kernel), fits_longRecord (by decide +kernel),
          fits_longRecord (by decide +kernel), fits_longRecord (by decide +kernel)⟩)
  have hlog : runWriterLoop plainJson defaultLogFileName
      (longRecords ["t0", "t1", "t2"] ++ [(missedFiles, longRecord "t3")]) =
      { dir := after, written := ["t0", "t1", "t2", "t3"].map longRecord } := by
    rw [runWriterLoop_concat, Log.record, hwrite, hwritten]
    rfl
  rw [hlog] at hkept hbytes
  exact gap_not_suffix hkept (hbytes.symm.trans hafter)

end Logger
