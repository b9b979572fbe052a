import Wardoff.Logger.Files

/-!
# The log files are the end of the history

The files hold the last segments of the sequence of lines that were written (`Holds`), where a
segment ends with the line that no longer fits.

* One lemma for each call: `removeFileIfExists_ok`, `renameIfExists_ok`, `rotateLogs_ok`,
  `appendLine_ok`.
* `Holds.writeRecord`: one record more in the log is one item more in the segments.
* `readFile_ok`: a file is read line by line, as it was written.
* `log_is_history`: after any sequence of records the files are its last three segments, and the
  reader returns the last lines of the sequence.
-/

namespace Logger

open Text

/-! ## Lines -/

/-- What a line adds to a file. -/
def lineBytes (line : String) : List UInt8 := utf8 line ++ [lf]

def lineSize (line : String) : Nat := (utf8 line).length + 1

/-- The content of a file that holds these lines. -/
def fileBytes (segment : List String) : List UInt8 := segment.flatMap lineBytes

theorem length_fileBytes (segment : List String) :
    (fileBytes segment).length = total lineSize segment := by
  induction segment with
  | nil => rfl
  | cons line segment ih =>
    simp only [total, List.map_cons, List.sum_cons] at ih ⊢
    rw [fileBytes, List.flatMap_cons, List.length_append, lineBytes, List.length_append,
      List.length_singleton, lineSize]
    exact congrArg _ ih

theorem pieces_fileBytes {segment : List String} (hlines : ∀ line ∈ segment, OneLine line) :
    pieces (fileBytes segment) = segment.map lineBytes := by
  have hpieces : ∀ line ∈ segment.map utf8, lf ∉ line := by
    simpa using fun line hline => (hlines line hline).newline
  have h := pieces_flatMap hpieces
  rw [List.flatMap_map, List.map_map] at h
  exact h

/-! ## Calls that succeed -/

variable {toJson : LogRecord → String} {dir : Dir} {path source target : String}
    {inspection : Inspection}

/-- There is a plain file of this name, or nothing. -/
def Plain (dir : Dir) (path : String) : Prop := ∀ entry ∈ dir path, ∃ bytes, entry = .file bytes

theorem logFileMetadataIfExists_none (h : dir path = none) :
    logFileMetadataIfExists {} dir inspection path = .ok none := by
  simp [logFileMetadataIfExists, h]

theorem logFileMetadataIfExists_file {bytes : List UInt8} (h : dir path = some (.file bytes)) :
    logFileMetadataIfExists {} dir inspection path = .ok (some bytes) := by
  simp [logFileMetadataIfExists, h, validatePlainFile, Except.map]

theorem removeFileIfExists_ok (h : Plain dir path) :
    ∃ after, removeFileIfExists {} dir path = (.ok (), after) ∧ after path = none ∧
      ∀ other, other ≠ path → after other = dir other := by
  cases he : dir path with
  | none => exact ⟨dir, by simp [removeFileIfExists, logFileMetadataIfExists_none he], he,
      fun _ _ => rfl⟩
  | some entry =>
    obtain ⟨bytes, rfl⟩ := h entry he
    refine ⟨Function.update dir path none, ?_, by simp, fun other hne => by simp [hne]⟩
    simp [removeFileIfExists, logFileMetadataIfExists_file he]

/-- A rename to a name that is free. -/
theorem renameIfExists_ok (h : Plain dir source) (hfree : dir target = none)
    (hne : source ≠ target) :
    ∃ after, renameIfExists {} dir source target = (.ok (), after) ∧ after source = none ∧
      after target = dir source ∧ ∀ other, other ≠ source → other ≠ target →
      after other = dir other := by
  cases he : dir source with
  | none =>
    exact ⟨dir, by simp [renameIfExists, logFileMetadataIfExists_none he], he, hfree,
      fun _ _ _ => rfl⟩
  | some entry =>
    obtain ⟨bytes, rfl⟩ := h entry he
    refine ⟨Function.update (Function.update dir target (some (.file bytes))) source none, ?_,
      by simp, ?_, fun other hs ht => by simp [hs, ht]⟩
    · simp [renameIfExists, logFileMetadataIfExists_file he, logFileMetadataIfExists_none hfree]
    · rw [Function.update_of_ne hne.symm, Function.update_self]

/-- The bytes of a file, if there is one. -/
def content : Option Entry → List UInt8
  | some (.file bytes) => bytes
  | _ => []

/-- No call on the file fails that appends a line to it. -/
def Fs.Appends (fs : Fs) (path : String) : Prop :=
  ∀ call ∈ [.openAppend path, .inspectOpen path, .write path, .writeNewline path, .flush path],
    fs.fails call = none

theorem appendLine_ok {fs : Fs} (hfs : fs.Appends path) (h : Plain dir path) (line : String) :
    appendLine fs dir path line =
      (.ok (), Function.update dir path (some (.file (content (dir path) ++ lineBytes line)))) := by
  simp only [Fs.Appends, List.forall_mem_cons, List.not_mem_nil, false_implies, implies_true,
    and_true] at hfs
  obtain ⟨hopen, hinspect, hwrite, hnewline, hflush⟩ := hfs
  cases he : dir path with
  | none =>
    simp [appendLine, openPlainLogFileForAppend, validateOpenPlainFile, validatePlainFile,
      appendBytes, Fs.call, he, lineBytes, content, hopen, hinspect, hwrite, hnewline, hflush]
  | some entry =>
    obtain ⟨bytes, rfl⟩ := h entry he
    simp [appendLine, openPlainLogFileForAppend, validateOpenPlainFile, validatePlainFile,
      appendBytes, Fs.call, he, lineBytes, content, hopen, hinspect, hwrite, hnewline, hflush]

/-! ## The names -/

theorem rotatedLogPath_one : rotatedLogPath defaultLogFileName 1 = "wardoff.1.jsonl" := by
  decide +kernel

theorem rotatedLogPath_two : rotatedLogPath defaultLogFileName 2 = "wardoff.2.jsonl" := by
  decide +kernel

theorem logPathsOldestToNewest_default : logPathsOldestToNewest defaultLogFileName =
    ["wardoff.2.jsonl", "wardoff.1.jsonl", "wardoff.jsonl"] := by
  simp [logPathsOldestToNewest, maxLogFiles, List.range', rotatedLogPath_one, rotatedLogPath_two]
  rfl

theorem plain_congr {after : Dir} (h : after path = dir source) (hp : Plain dir source) :
    Plain after path := by
  intro entry hentry
  rw [h] at hentry
  exact hp entry hentry

/-- The oldest file is removed, and the others move on. -/
theorem rotateLogs_ok (hbase : Plain dir "wardoff.jsonl") (hone : Plain dir "wardoff.1.jsonl")
    (htwo : Plain dir "wardoff.2.jsonl") :
    ∃ after, rotateLogs {} dir defaultLogFileName = (.ok (), after) ∧
      after "wardoff.jsonl" = none ∧ after "wardoff.1.jsonl" = dir "wardoff.jsonl" ∧
      after "wardoff.2.jsonl" = dir "wardoff.1.jsonl" := by
  obtain ⟨dir₁, hremove, htwo₁, hrest₁⟩ := removeFileIfExists_ok htwo
  have hone₁ := hrest₁ "wardoff.1.jsonl" (by decide)
  obtain ⟨dir₂, hrename, hone₂, htwo₂, hrest₂⟩ :=
    renameIfExists_ok (plain_congr hone₁ hone) htwo₁ (by decide)
  have hbase₂ : dir₂ "wardoff.jsonl" = dir "wardoff.jsonl" := by
    rw [hrest₂ _ (by decide) (by decide), hrest₁ _ (by decide)]
  obtain ⟨dir₃, hmove, hbase₃, hone₃, hrest₃⟩ :=
    renameIfExists_ok (plain_congr hbase₂ hbase) hone₂ (by decide)
  refine ⟨dir₃, ?_, hbase₃, ?_, ?_⟩
  · simp [rotateLogs, maxLogFiles, renameRotated, rotatedLogPath_one, rotatedLogPath_two, hremove,
      hrename]
    exact hmove
  · rw [hone₃, hbase₂]
  · rw [hrest₃ _ (by decide) (by decide), htwo₂, hone₁]

/-! ## The files as segments -/

/-- The file of the `i`-th newest segment. -/
def segmentFile (segs : List (List String)) (i : Nat) : Option Entry :=
  segs[i]?.map fun segment => .file (fileBytes segment)

/-- The files hold the last three segments. -/
structure Holds (dir : Dir) (segs : List (List String)) : Prop where
  base : dir "wardoff.jsonl" = segmentFile segs 0
  one : dir "wardoff.1.jsonl" = segmentFile segs 1
  two : dir "wardoff.2.jsonl" = segmentFile segs 2

variable {segs : List (List String)}

theorem plain_of_segmentFile {i : Nat} (h : dir path = segmentFile segs i) : Plain dir path := by
  intro entry hentry
  rw [h, segmentFile, Option.mem_def, Option.map_eq_some_iff] at hentry
  obtain ⟨segment, -, rfl⟩ := hentry
  exact ⟨_, rfl⟩

/-- The size that is compared with the limit. -/
theorem Holds.metadata (h : Holds dir segs) :
    ∃ found, logFileMetadataIfExists {} dir .size defaultLogFileName = .ok found ∧
      (found.getD []).length = total lineSize (segs.head?.getD []) := by
  have hbase := h.base
  cases segs with
  | nil => exact ⟨none, logFileMetadataIfExists_none hbase, rfl⟩
  | cons segment older =>
    exact ⟨some (fileBytes segment), logFileMetadataIfExists_file hbase, length_fileBytes segment⟩

theorem fileBytes_concat (segment : List String) (line : String) :
    fileBytes (segment ++ [line]) = fileBytes segment ++ lineBytes line := by
  simp [fileBytes]

/-- A line added to the newest file. -/
theorem Holds.append {segment : List String} {older : List (List String)}
    (hbase : content (dir "wardoff.jsonl") = fileBytes segment)
    (hone : dir "wardoff.1.jsonl" = segmentFile older 0)
    (htwo : dir "wardoff.2.jsonl" = segmentFile older 1) (line : String) :
    Holds (Function.update dir "wardoff.jsonl"
        (some (.file (content (dir "wardoff.jsonl") ++ lineBytes line))))
      ((segment ++ [line]) :: older) where
  base := by
    rw [Function.update_self, hbase, ← fileBytes_concat]
    rfl
  one := by
    rw [Function.update_of_ne (by decide), hone]
    rfl
  two := by
    rw [Function.update_of_ne (by decide), htwo]
    rfl

theorem writeRecord_ok {after : Dir} {record : LogRecord}
    (hrotate : rotateIfNeeded {} dir defaultLogFileName (lineSize (toJson record)) =
      (.ok (), after))
    (hplain : Plain after "wardoff.jsonl") :
    writeRecord toJson {} dir defaultLogFileName record =
      (.ok (), Function.update after "wardoff.jsonl"
        (some (.file (content (after "wardoff.jsonl") ++ lineBytes (toJson record))))) := by
  rw [lineSize] at hrotate
  simp only [writeRecord, hrotate]
  exact appendLine_ok (fun _ _ => rfl) hplain (toJson record)

/-- One record more in the log is one item more in the segments. -/
theorem Holds.writeRecord (h : Holds dir segs) (toJson : LogRecord → String) (record : LogRecord) :
    ∃ after, writeRecord toJson {} dir defaultLogFileName record = (.ok (), after) ∧
      Holds after (addItem lineSize maxLogBytes segs (toJson record)) := by
  obtain ⟨found, hmeta, hsize⟩ := h.metadata
  have hplain := plain_of_segmentFile h.base
  by_cases hroom : total lineSize (segs.head?.getD []) + lineSize (toJson record) ≤ maxLogBytes
  · have hstay : rotateIfNeeded {} dir defaultLogFileName (lineSize (toJson record)) =
      (.ok (), dir) := by
      simp only [rotateIfNeeded, hmeta, hsize, if_pos hroom]
    refine ⟨_, writeRecord_ok hstay hplain, ?_⟩
    cases segs with
    | nil =>
      have hbase : content (dir "wardoff.jsonl") = fileBytes [] := by rw [h.base]; rfl
      exact Holds.append hbase h.one h.two (toJson record)
    | cons segment older =>
      have hbase : content (dir "wardoff.jsonl") = fileBytes segment := by rw [h.base]; rfl
      rw [List.head?_cons, Option.getD_some] at hroom
      rw [addItem, if_pos hroom]
      exact Holds.append hbase h.one h.two (toJson record)
  · obtain ⟨after, hrotate, hbase', hone', htwo'⟩ :=
      rotateLogs_ok hplain (plain_of_segmentFile h.one) (plain_of_segmentFile h.two)
    have hmoved : rotateIfNeeded {} dir defaultLogFileName (lineSize (toJson record)) =
      (.ok (), after) := by
      simp only [rotateIfNeeded, hmeta, hsize, if_neg hroom, hrotate]
    have hempty : content (after "wardoff.jsonl") = fileBytes [] := by rw [hbase']; rfl
    rw [h.base] at hone'
    rw [h.one] at htwo'
    refine ⟨_, writeRecord_ok hmoved (by simp [Plain, hbase']), ?_⟩
    cases segs with
    | nil => exact Holds.append hempty hone' htwo' (toJson record)
    | cons segment older =>
      rw [List.head?_cons, Option.getD_some] at hroom
      rw [addItem, if_neg hroom]
      exact Holds.append hempty hone' htwo' (toJson record)

theorem holds_writeRecords (h : Holds dir segs) (toJson : LogRecord → String)
    (records : List LogRecord) :
    ∃ after, writeRecords toJson {} defaultLogFileName dir records = .ok after ∧
      Holds after ((records.map toJson).foldl (addItem lineSize maxLogBytes) segs) := by
  induction records generalizing dir segs with
  | nil => exact ⟨dir, rfl, h⟩
  | cons record records ih =>
    obtain ⟨dir₁, hwrite, h₁⟩ := h.writeRecord toJson record
    obtain ⟨dir₂, hrest, h₂⟩ := ih h₁
    exact ⟨dir₂, by rw [writeRecords, hwrite]; exact hrest, h₂⟩

variable {toJson : LogRecord → String} in
theorem runWriterLoop_concat (path : String) (records : List (Fs × LogRecord)) (fs : Fs)
    (record : LogRecord) :
    runWriterLoop toJson path (records ++ [(fs, record)]) =
      (runWriterLoop toJson path records).record toJson fs path record := by
  simp [runWriterLoop]

/-- The writer thread, where no call fails. -/
theorem holds_runWriterLoop (toJson : LogRecord → String) (records : List (Fs × LogRecord))
    (hok : ∀ r ∈ records, r.1 = {}) :
    Holds (runWriterLoop toJson defaultLogFileName records).dir
        (segments lineSize maxLogBytes ((records.map (·.2)).map toJson)) ∧
      (runWriterLoop toJson defaultLogFileName records).written = records.map (·.2) := by
  induction records using List.reverseRecOn with
  | nil => exact ⟨⟨rfl, rfl, rfl⟩, rfl⟩
  | append_singleton records r ih =>
    obtain ⟨fs, record⟩ := r
    obtain rfl : fs = {} := hok (fs, record) (by simp)
    obtain ⟨hrest, hwritten⟩ := ih fun r hr => hok r (List.mem_append_left _ hr)
    obtain ⟨after, hwrite, hafter⟩ := hrest.writeRecord toJson record
    rw [runWriterLoop_concat, Log.record, hwrite]
    exact ⟨by simpa [segments] using hafter, by simp [hwritten]⟩

/-! ## Reading -/

theorem readLines_ok (path : String) (limit : Nat) (recent : List String) {segment : List String}
    (hlines : ∀ line ∈ segment, OneLine line) :
    readLines {} path limit recent (segment.map lineBytes) =
      .ok (segment.foldl (pushRecent limit) recent) := by
  induction segment generalizing recent with
  | nil => rfl
  | cons line segment ih =>
    have hstrip : strip (lineBytes line) = utf8 line :=
      (hlines line List.mem_cons_self).strip_append
    have hrest := fun l hl => hlines l (List.mem_cons_of_mem line hl)
    simp only [List.map_cons, readLines, hstrip, ofUtf8?_utf8, ih _ hrest, ite_self,
      List.foldl_cons]

/-- A file is read line by line, as it was written. -/
theorem readFile_ok {i : Nat} (h : dir path = segmentFile segs i)
    (hlines : ∀ line ∈ segs.flatten, OneLine line) (limit : Nat) (recent : List String) :
    readFile {} dir limit recent path =
      .ok ((segs[i]?.getD []).foldl (pushRecent limit) recent) := by
  cases he : segs[i]? with
  | none =>
    rw [segmentFile, he] at h
    simp only [readFile, logFileMetadataIfExists_none h]
    rfl
  | some segment =>
    rw [segmentFile, he] at h
    have hopen : openPlainLogFileForRead {} dir path = .ok (fileBytes segment) := by
      simp only [openPlainLogFileForRead, Fs.call, validateOpenPlainFile, h]
      rfl
    have hsegment : ∀ line ∈ segment, OneLine line := fun line hline =>
      hlines line (List.mem_flatten.2 ⟨segment, List.mem_of_getElem? he, hline⟩)
    simp only [readFile, logFileMetadataIfExists_file h, hopen]
    show readLines {} path limit recent (pieces (fileBytes segment)) = _
    rw [pieces_fileBytes hsegment]
    exact readLines_ok path limit recent hsegment

/-- The lines in the files, in the order they were written. -/
def retained (lines : List String) : List String :=
  ((segments lineSize maxLogBytes lines).take 3).reverse.flatten

theorem readRecentLinesFromPath_ok {limit : Nat} (h : Holds dir segs)
    (hlines : ∀ line ∈ segs.flatten, OneLine line) (hpos : 0 < limit)
    (hmax : limit ≤ maxTailLineCount) :
    readRecentLinesFromPath {} dir defaultLogFileName limit =
      .ok (lastItems limit (segs.take 3).reverse.flatten) := by
  have hflat : (segs.take 3).reverse.flatten =
      segs[2]?.getD [] ++ segs[1]?.getD [] ++ segs[0]?.getD [] := by
    match segs with
    | [] => rfl
    | [a] => simp
    | [a, b] => simp
    | a :: b :: c :: rest => simp
  rw [readRecentLinesFromPath, if_neg (by omega), if_neg (by omega),
    logPathsOldestToNewest_default, hflat]
  simp only [readFiles, readFile_ok h.two hlines, readFile_ok h.one hlines,
    readFile_ok h.base hlines]
  rw [← foldl_pushRecent hpos]
  simp only [List.foldl_append]
  rfl

/-- The retained lines are the end of the history. -/
theorem exists_append_retained (lines : List String) :
    ∃ older, lines = older ++ retained lines := by
  refine ⟨((segments lineSize maxLogBytes lines).drop 3).reverse.flatten, ?_⟩
  rw [retained, ← List.flatten_append, ← List.reverse_append, List.take_append_drop,
    flatten_segments]

/-- The segments have the lines of the history. -/
theorem mem_of_mem_segments {lines : List String} {line : String}
    (h : line ∈ (segments lineSize maxLogBytes lines).flatten) : line ∈ lines := by
  have hall : (segments lineSize maxLogBytes lines).reverse.flatten = lines :=
    flatten_segments lines
  rw [← hall]
  simpa using h

theorem holds_empty : Holds (fun _ => none) [] := ⟨rfl, rfl, rfl⟩

/-- **The log agrees with its history.** After any sequence of records the three files hold the last
three segments of the sequence of their lines, each of them within the limit or a single line; and
the reader, where each record is serialized on one line, returns the last lines of the sequence, as
many as were asked for and are retained. -/
theorem log_is_history (toJson : LogRecord → String) (records : List LogRecord)
    (hlines : ∀ record ∈ records, OneLine (toJson record)) :
    ∃ dir, writeRecords toJson {} defaultLogFileName (fun _ => none) records = .ok dir ∧
      (dir "wardoff.jsonl" = segmentFile (segments lineSize maxLogBytes (records.map toJson)) 0 ∧
        dir "wardoff.1.jsonl" = segmentFile (segments lineSize maxLogBytes (records.map toJson)) 1 ∧
        dir "wardoff.2.jsonl" = segmentFile
          (segments lineSize maxLogBytes (records.map toJson)) 2) ∧
      (∀ segment ∈ segments lineSize maxLogBytes (records.map toJson),
        (fileBytes segment).length ≤ maxLogBytes ∨ segment.length = 1) ∧
      (segments lineSize maxLogBytes (records.map toJson)).reverse.flatten = records.map toJson ∧
      (∀ n, 1 ≤ n → n ≤ 100000 →
        readRecentLinesFromPath {} dir defaultLogFileName n =
          .ok (lastItems (min n (retained (records.map toJson)).length) (records.map toJson))) := by
  obtain ⟨dir, hwrite, h⟩ := holds_writeRecords holds_empty toJson records
  refine ⟨dir, hwrite, ⟨h.base, h.one, h.two⟩, ?_, flatten_segments _, ?_⟩
  · intro segment hmem
    rw [length_fileBytes]
    exact segments_bounded _ segment hmem
  · intro n hpos hmax
    generalize hhistory : records.map toJson = lines at h ⊢
    have hsegments : ∀ line ∈ (segments lineSize maxLogBytes lines).flatten, OneLine line := by
      intro line hline
      have hmem := mem_of_mem_segments hline
      rw [← hhistory] at hmem
      obtain ⟨record, hrecord, rfl⟩ := List.mem_map.1 hmem
      exact hlines record hrecord
    obtain ⟨older, he⟩ := exists_append_retained lines
    calc readRecentLinesFromPath {} dir defaultLogFileName n
        = .ok (lastItems n (retained lines)) := readRecentLinesFromPath_ok h hsegments hpos hmax
      _ = .ok (lastItems (min n (retained lines).length) (older ++ retained lines)) := by
          rw [lastItems_append (by omega), lastItems_min]
      _ = .ok (lastItems (min n (retained lines).length) lines) := by
          rw [← he]

/-! ## Records that fill half a file -/

/-- `serde_json::to_string` of a record whose texts need no escape. -/
def plainJson (record : LogRecord) : String :=
  "\x7b\"timestamp\":\"" ++ record.timestamp ++ "\",\"event\":\"" ++ record.event ++
    "\",\"source\":\"" ++ record.source ++ "\",\"action\":\"" ++ record.action ++
    "\",\"success\":" ++ (if record.success then "true" else "false") ++ "\x7d"

/-- A text of this length. Irreducible, so that no proof computes it. -/
@[irreducible] def longText (n : Nat) : String := String.ofList (List.replicate n 'x')

theorem utf8_longText (n : Nat) : utf8 (longText n) = List.replicate n 0x78 := by
  rw [longText, utf8_eq_flatMap, String.toList_ofList, List.flatMap_replicate]
  exact List.flatten_replicate_singleton

def longRecord (timestamp : String) : LogRecord where
  timestamp
  event := "status"
  source := "ipc"
  action := longText 3000000
  success := true

/-- The line of a long record. -/
def longLine (timestamp : String) : String := plainJson (longRecord timestamp)

/-- What is in front of the long text, and what is behind it. -/
theorem utf8_longLine (timestamp : String) :
    utf8 (longLine timestamp) =
      utf8 "\x7b\"timestamp\":\"" ++ (utf8 timestamp ++
        (utf8 "\",\"event\":\"status\",\"source\":\"ipc\",\"action\":\"" ++
          (utf8 (longText 3000000) ++ utf8 "\",\"success\":true\x7d"))) := by
  have hfront : utf8 "\",\"event\":\"status\",\"source\":\"ipc\",\"action\":\"" =
      utf8 "\",\"event\":\"" ++ (utf8 "status" ++ (utf8 "\",\"source\":\"" ++
        (utf8 "ipc" ++ utf8 "\",\"action\":\""))) := by decide +kernel
  have hback : utf8 "\",\"success\":true\x7d" =
      utf8 "\",\"success\":" ++ (utf8 "true" ++ utf8 "\x7d") := by
    decide +kernel
  unfold longLine plainJson longRecord
  simp only [if_true, utf8_append, hfront, hback, List.append_assoc]

theorem lineSize_longLine (timestamp : String) :
    lineSize (longLine timestamp) = (utf8 timestamp).length + 3000076 := by
  have hfirst : (utf8 "\x7b\"timestamp\":\"").length = 14 := by decide +kernel
  have hfront : (utf8 "\",\"event\":\"status\",\"source\":\"ipc\",\"action\":\"").length = 44 := by
    decide +kernel
  have hback : (utf8 "\",\"success\":true\x7d").length = 17 := by decide +kernel
  have hlong : (utf8 (longText 3000000)).length = 3000000 := by
    rw [utf8_longText, List.length_replicate]
  simp only [lineSize, utf8_longLine, List.length_append, hfirst, hfront, hback, hlong]
  omega

theorem oneLine_longLine (timestamp : String) (h : lf ∉ utf8 timestamp) :
    OneLine (longLine timestamp) where
  newline := by
    have hfirst : lf ∉ utf8 "\x7b\"timestamp\":\"" := by decide +kernel
    have hfront : lf ∉ utf8 "\",\"event\":\"status\",\"source\":\"ipc\",\"action\":\"" := by
      decide +kernel
    have hback : lf ∉ utf8 "\",\"success\":true\x7d" := by decide +kernel
    have hlong : lf ∉ utf8 (longText 3000000) := by
      rw [utf8_longText]
      exact fun hmem => absurd (List.eq_of_mem_replicate hmem) (by decide)
    simp only [utf8_longLine, List.mem_append, h, hfirst, hfront, hback, hlong, or_self,
      not_false_eq_true]
  ends := by
    refine ⟨'\x7d', ?_, by decide⟩
    have hlast : "\x7d".toList = ['\x7d'] := by decide
    unfold longLine plainJson
    rw [String.toList_append, hlast, List.getLast?_append, List.getLast?_singleton]
    rfl

/-- No two long lines fit into a file. -/
theorem segments_longLines (timestamps : List String) :
    segments lineSize maxLogBytes (timestamps.map longLine) = (timestamps.map longLine).reverse.map
      fun line => [line] := by
  refine segments_eq_of_large fun a ha b hb => ?_
  obtain ⟨t, -, rfl⟩ := List.mem_map.1 ha
  obtain ⟨u, -, rfl⟩ := List.mem_map.1 hb
  have hmax : maxLogBytes = 5242880 := by decide
  simp only [lineSize_longLine]
  omega

/-- The second record starts a new file, and the reader returns its line. -/
theorem log_is_history_tail_one :
    ∃ dir, writeRecords plainJson {} defaultLogFileName (fun _ => none)
      [longRecord "t0", longRecord "t1"] = .ok dir ∧
      dir "wardoff.1.jsonl" = some (.file (fileBytes [longLine "t0"])) ∧
      readRecentLinesFromPath {} dir defaultLogFileName 1 = .ok [longLine "t1"] := by
  have hlines : ∀ record ∈ [longRecord "t0", longRecord "t1"], OneLine (plainJson record) := by
    simp only [List.forall_mem_cons, List.not_mem_nil, false_implies, implies_true, and_true]
    exact ⟨oneLine_longLine "t0" (by decide +kernel), oneLine_longLine "t1" (by decide +kernel)⟩
  obtain ⟨dir, hwrite, ⟨-, hone, -⟩, -, -, hread⟩ := log_is_history plainJson _ hlines
  have hsegments :
    segments lineSize maxLogBytes ([longRecord "t0", longRecord "t1"].map plainJson) =
      [[longLine "t1"], [longLine "t0"]] := segments_longLines ["t0", "t1"]
  refine ⟨dir, hwrite, ?_, ?_⟩
  · rw [hone, hsegments]
    rfl
  · rw [hread 1 (by decide) (by decide), retained, hsegments]
    rfl

end Logger
