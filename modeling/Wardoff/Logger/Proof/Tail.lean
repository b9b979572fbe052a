import Mathlib.Data.List.Infix
import Wardoff.Logger.Proof.Faults
import Wardoff.Logger.Tail

/-!
# Reading during rotations

A rotation moves a file to an older name while the reader goes on to newer ones. So every file is a
segment of the history, the names stand for later segments the newer they are (`Filed`), and the
names the reader has not come to yet stand for segments after all those it has read (`Ahead`).

* `Filed.writerStep`: what a step of the writer does to the segments.
* `Reads.writer`, `Reads.next`: the reader has read a subsequence of the segments behind it, whoever
  makes the next step.
* `tail_is_subsequence`: so what it returns is a subsequence of the history.
-/

namespace Logger

open Machine Text
open scoped List

/-- From the oldest to the newest. -/
def logPaths : List String := ["wardoff.2.jsonl", "wardoff.1.jsonl", "wardoff.jsonl"]

/-! ## The history only grows -/

/-- Segments are added, and lines to a segment. -/
structure Grows (segs segs' : List (List String)) : Prop where
  length : segs.length ≤ segs'.length
  taken : ∀ n, (segs.take n).flatten <+ (segs'.take n).flatten
  segment : ∀ (i : Nat) segment, segs[i]? = some segment → ∃ segment', segs'[i]? = some segment' ∧
    fileBytes segment <+: fileBytes segment'

theorem grows_create (segs : List (List String)) : Grows segs (segs ++ [[]]) where
  length := by simp
  taken n := by
    rw [List.take_append, List.flatten_append]
    exact List.sublist_append_left _ _
  segment i segment h := by
    refine ⟨segment, ?_, List.prefix_rfl⟩
    rw [List.getElem?_append_left (List.getElem?_eq_some_iff.1 h).1]
    exact h

theorem grows_append (older : List (List String)) (segment : List String) (line : String) :
    Grows (older ++ [segment]) (older ++ [segment ++ [line]]) where
  length := by simp
  taken n := by
    rw [List.take_append, List.take_append, List.flatten_append, List.flatten_append]
    refine List.Sublist.append_left ?_ _
    cases n - older.length <;> simp
  segment i seg h := by
    rcases Nat.lt_or_ge i older.length with hi | hi
    · rw [List.getElem?_append_left hi] at h ⊢
      exact ⟨seg, h, List.prefix_rfl⟩
    · rw [List.getElem?_append_right hi] at h ⊢
      cases he : i - older.length with
      | zero =>
        rw [he] at h
        cases h
        exact ⟨_, rfl, by rw [fileBytes_concat]; exact List.prefix_append _ _⟩
      | succ k =>
        rw [he] at h
        simp at h

/-! ## The names -/

/-- The names stand for the files from number `n` on. -/
def Ahead (names : String → Option Nat) (n : Nat) (paths : List String) : Prop :=
  ∀ path ∈ paths, ∀ i, names path = some i → n ≤ i

/-- The later a name, the later its file. -/
def Ascending (names : String → Option Nat) (paths : List String) : Prop :=
  paths.Pairwise fun older newer => ∀ i j, names older = some i → names newer = some j → i < j

/-- Every file is a segment of the history. -/
structure Filed (disk : Disk) (segs : List (List String)) : Prop where
  files : disk.files = segs.map fileBytes
  ascending : Ascending disk.names logPaths
  bound : ∀ path i, disk.names path = some i → path ∈ logPaths ∧ i < segs.length
  /-- The newest name stands for the last segment. -/
  newest : ∀ i, disk.names "wardoff.jsonl" = some i → i + 1 = segs.length

section
variable {names : String → Option Nat} {n i : Nat} {paths : List String} {source target : String}

/-- The reader that has yet to come to a name has yet to come to the newer ones. -/
theorem mem_of_suffix (h : paths <:+ logPaths) :
    ("wardoff.2.jsonl" ∈ paths → "wardoff.1.jsonl" ∈ paths) ∧
      ("wardoff.1.jsonl" ∈ paths → "wardoff.jsonl" ∈ paths) := by
  simp only [logPaths, List.suffix_cons_iff, List.suffix_nil] at h
  rcases h with rfl | rfl | rfl | rfl <;> decide

theorem ascending_iff : Ascending names logPaths ↔
    (∀ i j, names "wardoff.2.jsonl" = some i → names "wardoff.1.jsonl" = some j → i < j) ∧
      (∀ i j, names "wardoff.2.jsonl" = some i → names "wardoff.jsonl" = some j → i < j) ∧
      ∀ i j, names "wardoff.1.jsonl" = some i → names "wardoff.jsonl" = some j → i < j := by
  simp [Ascending, logPaths, and_assoc]

@[simp] theorem names_create (disk : Disk) (path : String) :
    (disk.create path).names = (disk.named path (some disk.files.length)).names := rfl

@[simp] theorem names_append (disk : Disk) (i : Nat) (bytes : List UInt8) :
    (disk.append i bytes).names = disk.names := rfl

/-- What a name stands for after a change of one name. -/
theorem names_named {disk : Disk} {path other : String} {file : Option Nat} {j : Nat}
    (h : (disk.named path file).names other = some j) :
    other = path ∧ file = some j ∨ other ≠ path ∧ disk.names other = some j := by
  unfold Disk.named at h
  dsimp only at h
  by_cases he : other = path
  · rw [he, Function.update_self] at h
    exact .inl ⟨he, h⟩
  · rw [Function.update_of_ne he] at h
    exact .inr ⟨he, h⟩

theorem names_renamed {disk : Disk} {path : String} {j : Nat}
    (h : ((disk.named target (some i)).named source none).names path = some j) :
    path ≠ source ∧ (path = target ∧ j = i ∨ path ≠ target ∧ disk.names path = some j) := by
  rcases names_named h with ⟨-, hj⟩ | ⟨hne, hj⟩
  · cases hj
  · refine ⟨hne, ?_⟩
    rcases names_named hj with ⟨he, hj⟩ | hj
    · exact .inl ⟨he, (Option.some.inj hj).symm⟩
    · exact .inr hj

theorem rename_eq_some {disk disk' : Disk} (h : disk.rename source target = some disk') :
    ∃ i, disk.names source = some i ∧ disk' = (disk.named target (some i)).named source none := by
  unfold Disk.rename at h
  split at h
  · rename_i i hi
    cases h
    exact ⟨i, hi, rfl⟩
  · cases h

/-- A file moves to an older name. -/
theorem Ahead.renamed {disk : Disk} (h : Ahead disk.names n paths) (hi : disk.names source = some i)
    (hmem : target ∈ paths → source ∈ paths) :
    Ahead ((disk.named target (some i)).named source none).names n paths := by
  intro path hpath j hj
  obtain ⟨-, ⟨rfl, rfl⟩ | ⟨-, hj⟩⟩ := names_renamed hj
  · exact h source (hmem hpath) j hi
  · exact h path hpath j hj

theorem Ahead.named {disk : Disk} (h : Ahead disk.names n paths) {path : String} {file : Option Nat}
    (hfile : ∀ i, file = some i → n ≤ i) : Ahead (disk.named path file).names n paths := by
  intro other hother j hj
  rcases names_named hj with ⟨-, hj⟩ | ⟨-, hj⟩
  · exact hfile j hj
  · exact h other hother j hj

end

/-! ## Steps of the writer -/

section
variable {disk : Disk} {segs : List (List String)} {i : Nat}

theorem Filed.create (h : Filed disk segs) :
    Filed (disk.create "wardoff.jsonl") (segs ++ [[]]) where
  files := by simp [Disk.create, h.files, fileBytes]
  ascending := by
    have hlength : disk.files.length = segs.length := by simp [h.files]
    obtain ⟨htwo, -, -⟩ := ascending_iff.1 h.ascending
    rw [ascending_iff]
    simp only [Disk.create, Disk.named, ne_eq, String.reduceEq, not_false_eq_true,
      Function.update_of_ne, Function.update_self, Option.some.injEq, hlength]
    refine ⟨htwo, ?_, ?_⟩
    · rintro i j hi rfl
      exact (h.bound _ _ hi).2
    · rintro i j hi rfl
      exact (h.bound _ _ hi).2
  bound path i hi := by
    rw [names_create] at hi
    simp only [List.length_append, List.length_singleton]
    rcases names_named hi with ⟨rfl, hi⟩ | ⟨-, hi⟩
    · cases hi
      exact ⟨by decide, by simp [h.files]⟩
    · have hbound := h.bound path i hi
      exact ⟨hbound.1, by omega⟩
  newest i hi := by
    rw [names_create] at hi
    simp only [List.length_append, List.length_singleton]
    rcases names_named hi with ⟨-, hi⟩ | ⟨hne, -⟩
    · cases hi
      simp [h.files]
    · exact absurd rfl hne

theorem Filed.removeOldest (h : Filed disk segs) :
    Filed (disk.named "wardoff.2.jsonl" none) segs where
  files := h.files
  ascending := by
    obtain ⟨-, -, hone⟩ := ascending_iff.1 h.ascending
    rw [ascending_iff]
    simpa [Disk.named] using hone
  bound path i hi := by
    rcases names_named hi with ⟨-, hi⟩ | ⟨-, hi⟩
    · cases hi
    · exact h.bound path i hi
  newest i hi := h.newest i (by simpa [Disk.named] using hi)

theorem Filed.bound_renamed (h : Filed disk segs) {source target : String}
    (hi : disk.names source = some i) (htarget : target ∈ logPaths) (path : String) (j : Nat)
    (hj : ((disk.named target (some i)).named source none).names path = some j) :
    path ∈ logPaths ∧ j < segs.length := by
  obtain ⟨-, ⟨rfl, rfl⟩ | ⟨-, hj⟩⟩ := names_renamed hj
  · exact ⟨htarget, (h.bound source j hi).2⟩
  · exact h.bound path j hj

theorem Filed.renameRotated (h : Filed disk segs) (hi : disk.names "wardoff.1.jsonl" = some i) :
    Filed ((disk.named "wardoff.2.jsonl" (some i)).named "wardoff.1.jsonl" none) segs where
  files := h.files
  ascending := by
    obtain ⟨-, -, hone⟩ := ascending_iff.1 h.ascending
    rw [ascending_iff]
    refine ⟨by simp [Disk.named], ?_, by simp [Disk.named]⟩
    simp only [Disk.named, ne_eq, String.reduceEq, not_false_eq_true, Function.update_of_ne,
      Function.update_self, Option.some.injEq]
    rintro _ j rfl hj
    exact hone i j hi hj
  bound := h.bound_renamed hi (by decide)
  newest j hj := h.newest j (by simpa [Disk.named] using hj)

theorem Filed.renameBase (h : Filed disk segs) (hi : disk.names "wardoff.jsonl" = some i) :
    Filed ((disk.named "wardoff.1.jsonl" (some i)).named "wardoff.jsonl" none) segs where
  files := h.files
  ascending := by
    obtain ⟨-, htwo, -⟩ := ascending_iff.1 h.ascending
    rw [ascending_iff]
    have hmoved : ∀ j, disk.names "wardoff.2.jsonl" = some j → j < i := fun j hj => htwo j i hj hi
    simpa [Disk.named] using hmoved
  bound := h.bound_renamed hi (by decide)
  newest j hj := by simp [Disk.named] at hj

/-- A line is appended to the last segment. -/
theorem Filed.append (h : Filed disk segs) (hi : disk.names "wardoff.jsonl" = some i)
    (line : String) :
    ∃ older segment, segs = older ++ [segment] ∧
      Filed (disk.append i (lineBytes line)) (older ++ [segment ++ [line]]) := by
  have hlast := h.newest i hi
  have hne : segs ≠ [] := by
    rintro rfl
    cases hlast
  obtain ⟨older, segment, rfl⟩ : ∃ older segment, segs = older ++ [segment] :=
    ⟨segs.dropLast, segs.getLast hne, (List.dropLast_append_getLast hne).symm⟩
  obtain rfl : i = older.length := by simpa using hlast
  refine ⟨older, segment, rfl, ?_, h.ascending, ?_, ?_⟩
  · simp [Disk.append, h.files, fileBytes_concat]
  · simpa using h.bound
  · simpa using h.newest

/-- What a step of the writer does. -/
structure WriterMoves (segs : List (List String)) (s t : Tailing) (segs' : List (List String)) :
    Prop where
  filed : Filed t.disk segs'
  written : segs.flatten = s.written → segs'.flatten = t.written
  grows : Grows segs segs'
  pc : t.pc = s.pc
  /-- No name that the reader has yet to come to goes back. -/
  ahead : ∀ n paths, n ≤ segs.length → paths <:+ logPaths → Ahead s.disk.names n paths →
    Ahead t.disk.names n paths

/-- A step that only changes names. -/
theorem writerMoves_of_names {s : Tailing} (hfiled : Filed disk segs)
    (hahead : ∀ n paths, paths <:+ logPaths → Ahead s.disk.names n paths →
      Ahead disk.names n paths) :
    WriterMoves segs s { s with disk } segs where
  filed := hfiled
  written h := h
  grows :=
    ⟨Nat.le_refl _, fun _ => List.Sublist.refl _, fun _ segment h => ⟨segment, h, List.prefix_rfl⟩⟩
  pc := rfl
  ahead n paths _ := hahead n paths

theorem Filed.writerStep {s t : Tailing} {a : WriterAct} (h : Filed s.disk segs)
    (hstep : writerStep s a = some t) : ∃ segs', WriterMoves segs s t segs' := by
  cases a with
  | create =>
    simp only [Logger.writerStep] at hstep
    split at hstep <;> cases hstep
    refine ⟨segs ++ [[]], h.create, fun hw => by simpa using hw, grows_create segs, rfl, ?_⟩
    intro n paths hn _ hahead
    refine hahead.named fun i hi => ?_
    cases hi
    simpa [h.files] using hn
  | append line =>
    simp only [Logger.writerStep] at hstep
    split at hstep <;> cases hstep
    rename_i i hi
    obtain ⟨older, segment, rfl, hfiled⟩ := h.append hi line
    refine ⟨_, hfiled, fun hw => ?_, grows_append older segment line, rfl,
      fun n paths _ _ hahead => hahead⟩
    rw [← hw]
    simp
  | removeOldest =>
    simp only [Logger.writerStep, rotatedLogPath_two] at hstep
    split at hstep <;> cases hstep
    exact ⟨segs, writerMoves_of_names h.removeOldest fun n paths _ hahead => hahead.named nofun⟩
  | renameRotated =>
    simp only [Logger.writerStep, rotatedLogPath_one, rotatedLogPath_two,
      Option.map_eq_some_iff] at hstep
    obtain ⟨disk, hrename, rfl⟩ := hstep
    obtain ⟨i, hi, rfl⟩ := rename_eq_some hrename
    refine ⟨segs, writerMoves_of_names (h.renameRotated hi) fun n paths hpaths hahead => ?_⟩
    exact hahead.renamed hi (mem_of_suffix hpaths).1
  | renameBase =>
    simp only [Logger.writerStep, rotatedLogPath_one, Option.map_eq_some_iff] at hstep
    obtain ⟨disk, hrename, rfl⟩ := hstep
    obtain ⟨i, hi, rfl⟩ := rename_eq_some hrename
    refine ⟨segs, writerMoves_of_names (h.renameBase hi) fun n paths hpaths hahead => ?_⟩
    exact hahead.renamed hi (mem_of_suffix hpaths).2

end

/-! ## The reader -/

/-- The lines so far are the last ones of a subsequence of the first `n` segments. -/
def Got (limit : Nat) (segs : List (List String)) (n : Nat) (recent : List String) : Prop :=
  0 < limit ∧ ∃ got, got <+ (segs.take n).flatten ∧ recent = got.foldl (pushRecent limit) []

/-- The reader has read a subsequence of the segments behind it, and the names it has yet to come to
are ahead of these. -/
def Reads (limit : Nat) (names : String → Option Nat) (segs : List (List String)) : ReadPc → Prop
  | .idle => True
  | .inspecting paths recent => paths <:+ logPaths ∧
    ∃ n ≤ segs.length, Ahead names n paths ∧ Got limit segs n recent
  | .opening path paths recent => path :: paths <:+ logPaths ∧
    ∃ n ≤ segs.length, Ahead names n (path :: paths) ∧ Got limit segs n recent
  | .validating id _ paths recent => paths <:+ logPaths ∧ id < segs.length ∧
    Ahead names (id + 1) paths ∧ Got limit segs id recent
  | .reading id bytes _ paths recent => paths <:+ logPaths ∧
    (∃ segment, segs[id]? = some segment ∧ bytes <+: fileBytes segment) ∧
    Ahead names (id + 1) paths ∧ Got limit segs id recent
  | .returned (.ok lines) => lines <+ segs.flatten ∧ lines.length ≤ limit
  | .returned (.error _) => True

section
variable {limit n m : Nat} {segs segs' : List (List String)} {recent : List String}

theorem Got.mono (h : Got limit segs n recent)
    (hsub : (segs.take n).flatten <+ (segs'.take m).flatten) :
    Got limit segs' m recent := by
  obtain ⟨hpos, got, hgot, hrecent⟩ := h
  exact ⟨hpos, got, hgot.trans hsub, hrecent⟩

theorem Grows.flatten (h : Grows segs segs') : segs.flatten <+ segs'.flatten := by
  have htaken := h.taken segs'.length
  rwa [List.take_of_length_le h.length, List.take_length] at htaken

theorem lt_length_of_getElem? {segment : List String} (h : segs[n]? = some segment) :
    n < segs.length :=
  (List.getElem?_eq_some_iff.1 h).1

/-- The writer makes a step. -/
theorem Reads.writer {s t : Tailing} (h : Reads limit s.disk.names segs s.pc)
    (hmoves : WriterMoves segs s t segs') : Reads limit t.disk.names segs' t.pc := by
  obtain ⟨-, -, hgrows, hpc, hahead⟩ := hmoves
  rw [hpc]
  cases hs : s.pc with
  | idle => trivial
  | inspecting paths recent =>
    rw [hs] at h
    obtain ⟨hpaths, n, hn, ha, hgot⟩ := h
    exact ⟨hpaths, n, hn.trans hgrows.length, hahead n _ hn hpaths ha, hgot.mono (hgrows.taken n)⟩
  | opening path paths recent =>
    rw [hs] at h
    obtain ⟨hpaths, n, hn, ha, hgot⟩ := h
    exact ⟨hpaths, n, hn.trans hgrows.length, hahead n _ hn hpaths ha, hgot.mono (hgrows.taken n)⟩
  | validating id path paths recent =>
    rw [hs] at h
    obtain ⟨hpaths, hid, ha, hgot⟩ := h
    exact ⟨hpaths, Nat.lt_of_lt_of_le hid hgrows.length, hahead _ _ hid hpaths ha,
      hgot.mono (hgrows.taken id)⟩
  | reading id bytes path paths recent =>
    rw [hs] at h
    obtain ⟨hpaths, ⟨segment, hsegment, hbytes⟩, ha, hgot⟩ := h
    obtain ⟨segment', hsegment', hprefix⟩ := hgrows.segment id segment hsegment
    refine ⟨hpaths, ⟨segment', hsegment', hbytes.trans hprefix⟩, ?_, hgot.mono (hgrows.taken id)⟩
    exact hahead _ _ (lt_length_of_getElem? hsegment) hpaths ha
  | returned result =>
    rw [hs] at h
    cases result with
    | error message => trivial
    | ok lines =>
      exact ⟨h.1.trans hgrows.flatten, h.2⟩

/-- A file of whole lines, if it can be read. -/
theorem readLines_eq_ok {fs : Fs} {path : String} {segment lines : List String}
    (hsegment : ∀ line ∈ segment, OneLine line)
    (h : readLines fs path limit recent (segment.map lineBytes) = .ok lines) :
    lines = segment.foldl (pushRecent limit) recent := by
  induction segment generalizing recent with
  | nil =>
    cases h
    rfl
  | cons line segment ih =>
    have hstrip : strip (lineBytes line) = utf8 line :=
      (hsegment line List.mem_cons_self).strip_append
    have hrest := fun l hl => hsegment l (List.mem_cons_of_mem line hl)
    simp only [List.map_cons, readLines, hstrip, ofUtf8?_utf8] at h
    split_ifs at h
    · exact ih hrest h
    · split at h
      · cases h
      · exact ih hrest h

/-- The reader comes to the end of a file. -/
theorem Got.segment {id : Nat} {segment lines : List String} {fs : Fs} {path : String}
    (h : Got limit segs id recent) (hsegs : ∀ line ∈ segs.flatten, OneLine line)
    (hsegment : segs[id]? = some segment)
    (hlines : readLines fs path limit recent (pieces (fileBytes segment)) = .ok lines) :
    Got limit segs (id + 1) lines := by
  obtain ⟨hpos, got, hgot, rfl⟩ := h
  have hwhole : ∀ line ∈ segment, OneLine line := fun line hline =>
    hsegs line (List.mem_flatten.2 ⟨segment, List.mem_of_getElem? hsegment, hline⟩)
  rw [pieces_fileBytes hwhole] at hlines
  refine ⟨hpos, got ++ segment, ?_, ?_⟩
  · rw [List.take_add_one, hsegment, List.flatten_append]
    simpa using hgot
  · rw [readLines_eq_ok hwhole hlines, List.foldl_append]

theorem sublist_flatten_take (segs : List (List String)) (h : n ≤ m) :
    (segs.take n).flatten <+ (segs.take m).flatten :=
  (List.take_prefix_take_left h).flatten.sublist

/-- What the reader returns. -/
theorem Got.returned (h : Got limit segs n recent) :
    recent <+ segs.flatten ∧ recent.length ≤ limit := by
  obtain ⟨hpos, got, hgot, rfl⟩ := h
  rw [foldl_pushRecent hpos]
  refine ⟨?_, ?_⟩
  · have hall := sublist_flatten_take segs (Nat.le_max_left n segs.length)
    rw [List.take_of_length_le (Nat.le_max_right _ _)] at hall
    exact ((List.drop_sublist _ _).trans hgot).trans hall
  · rw [length_lastItems]
    exact Nat.min_le_left _ _

theorem Filed.getD_files {disk : Disk} (h : Filed disk segs) {id : Nat} {segment : List String}
    (hsegment : segs[id]? = some segment) : disk.files.getD id [] = fileBytes segment := by
  simp [h.files, List.getD_eq_getElem?_getD, hsegment]

/-- The newer names are ahead of the file that was opened. -/
theorem Filed.ahead {disk : Disk} (h : Filed disk segs) {path : String} {paths : List String}
    {id : Nat} (hpaths : path :: paths <:+ logPaths) (hid : disk.names path = some id) :
    Ahead disk.names (id + 1) paths := by
  have hascending : Ascending disk.names (path :: paths) := h.ascending.sublist hpaths.sublist
  intro newer hnewer j hj
  exact (List.pairwise_cons.1 hascending).1 newer hnewer id j hid hj

/-- The reader makes a step. -/
theorem Reads.next {disk : Disk} {pc pc' : ReadPc} {fs : Fs} {count : Nat}
    (hfiled : Filed disk segs) (hsegs : ∀ line ∈ segs.flatten, OneLine line)
    (h : Reads limit disk.names segs pc) (hnext : pc.next disk limit fs count = some pc') :
    Reads limit disk.names segs pc' := by
  cases pc with
  | idle =>
    simp only [ReadPc.next] at hnext
    split_ifs at hnext with hmax hzero
    · cases hnext
      trivial
    · cases hnext
      exact ⟨List.nil_sublist _, Nat.zero_le _⟩
    · cases hnext
      refine ⟨?_, 0, Nat.zero_le _, fun _ _ _ _ => Nat.zero_le _, Nat.pos_of_ne_zero hzero,
        [], by simp⟩
      rw [logPathsOldestToNewest_default]
      exact List.suffix_rfl
  | inspecting paths recent =>
    obtain ⟨hpaths, n, hn, hahead, hgot⟩ := h
    cases paths with
    | nil =>
      cases hnext
      exact hgot.returned
    | cons path paths =>
      have hrest : paths <:+ logPaths := (List.suffix_cons path paths).trans hpaths
      simp only [ReadPc.next] at hnext
      split at hnext <;> cases hnext
      · trivial
      · exact ⟨hrest, n, hn, fun q hq => hahead q (List.mem_cons_of_mem _ hq), hgot⟩
      · exact ⟨hpaths, n, hn, hahead, hgot⟩
  | opening path paths recent =>
    obtain ⟨hpaths, n, hn, hahead, hgot⟩ := h
    simp only [ReadPc.next] at hnext
    split at hnext <;> cases hnext
    · trivial
    · trivial
    · rename_i id _ hid
      refine ⟨(List.suffix_cons path paths).trans hpaths, (hfiled.bound path id hid).2,
        hfiled.ahead hpaths hid, ?_⟩
      exact hgot.mono (sublist_flatten_take segs (hahead path List.mem_cons_self id hid))
  | validating id path paths recent =>
    obtain ⟨hpaths, hid, hahead, hgot⟩ := h
    simp only [ReadPc.next] at hnext
    split at hnext <;> cases hnext
    · trivial
    · exact ⟨hpaths, ⟨segs[id], List.getElem?_eq_getElem hid, List.nil_prefix⟩, hahead, hgot⟩
  | reading id bytes path paths recent =>
    obtain ⟨hpaths, ⟨segment, hsegment, hbytes⟩, hahead, hgot⟩ := h
    simp only [ReadPc.next, hfiled.getD_files hsegment] at hnext
    obtain ⟨rest, hrest⟩ := hbytes
    rw [← hrest, List.drop_left] at hnext
    split at hnext
    · cases hnext
      trivial
    · split at hnext
      · -- the end of the file: what was read are whole lines
        rw [List.append_nil] at hrest
        subst hrest
        split at hnext <;> cases hnext
        · trivial
        · exact ⟨hpaths, id + 1, lt_length_of_getElem? hsegment, hahead,
            hgot.segment hsegs hsegment ‹_›⟩
      · cases hnext
        refine ⟨hpaths, ⟨segment, hsegment, ?_⟩, hahead, hgot⟩
        rw [← hrest]
        exact (List.prefix_append_right_inj bytes).2 (List.take_prefix _ _)
  | returned result => cases hnext

end

/-! ## Every interleaving -/

/-- The files are the segments of what was written, which is whole lines, and the reader has read in
their order. -/
def TailInv (limit : Nat) (s : Tailing) : Prop :=
  (∀ line ∈ s.written, OneLine line) ∧
    ∃ segs, Filed s.disk segs ∧ segs.flatten = s.written ∧ Reads limit s.disk.names segs s.pc

theorem filed_init : Filed {} [] where
  files := rfl
  ascending := by
    rw [ascending_iff]
    exact ⟨nofun, nofun, nofun⟩
  bound := nofun
  newest := nofun

theorem tailInv_init (limit : Nat) : TailInv limit {} := ⟨nofun, [], filed_init, rfl, trivial⟩

/-- The lines that were written are those of the writer's appends. -/
theorem oneLine_written {s t : Tailing} {a : WriterAct} (hs : ∀ line ∈ s.written, OneLine line)
    (ha : ∀ line, a = .append line → OneLine line) (hstep : writerStep s a = some t) :
    ∀ line ∈ t.written, OneLine line := by
  cases a with
  | append line =>
    simp only [writerStep] at hstep
    split at hstep <;> cases hstep
    intro written hmem
    rcases List.mem_append.1 hmem with hmem | hmem
    · exact hs written hmem
    · rw [List.mem_singleton.1 hmem]
      exact ha line rfl
  | create | removeOldest =>
    simp only [writerStep] at hstep
    split at hstep <;> cases hstep
    exact hs
  | renameRotated | renameBase =>
    simp only [writerStep, Option.map_eq_some_iff] at hstep
    obtain ⟨disk, -, rfl⟩ := hstep
    exact hs

theorem TailInv.step {limit : Nat} {s t : Tailing} {a : TailAct} (h : TailInv limit s)
    (ha : ∀ line, a = .writer (.append line) → OneLine line) (hstep : tailStep limit s a = some t) :
    TailInv limit t := by
  obtain ⟨hlines, segs, hfiled, hwritten, hreads⟩ := h
  cases a with
  | writer a =>
    obtain ⟨segs', hmoves⟩ := hfiled.writerStep hstep
    have hlines' := oneLine_written hlines (fun line he => ha line (by rw [he])) hstep
    exact ⟨hlines', segs', hmoves.filed, hmoves.written hwritten, hreads.writer hmoves⟩
  | reader fs count =>
    simp only [tailStep, Option.map_eq_some_iff] at hstep
    obtain ⟨pc, hnext, rfl⟩ := hstep
    exact ⟨hlines, segs, hfiled, hwritten, Reads.next hfiled (hwritten ▸ hlines) hreads hnext⟩

/-- **Tailing during rotations.** However the steps of the reader and the writer interleave, where
every line that is appended is one, the lines that are returned are a subsequence of those that were
written, and not more than were asked for. -/
theorem tail_is_subsequence {limit : Nat} {as : List TailAct} {s : Tailing}
    (hlines : ∀ line, .writer (.append line) ∈ as → OneLine line)
    (h : exec (tailStep limit) {} as = some s) {lines : List String}
    (hpc : s.pc = .returned (.ok lines)) :
    lines <+ s.written ∧ lines.length ≤ limit := by
  have hinv : TailInv limit s :=
    inv_of_along (P := fun _ a => ∀ line, a = .writer (.append line) → OneLine line)
      (I := TailInv limit)
      (fun s a t hs ha hstep => hs.step ha hstep) (tailInv_init limit)
      (along_of_mem fun a ha s line he => hlines line (by rwa [← he])) h
  obtain ⟨-, segs, -, hwritten, hreads⟩ := hinv
  rw [hpc] at hreads
  rw [← hwritten]
  exact hreads

/-- The reader opens the newest file; then it becomes the middle one, and another line is written to
a new file. -/
def tailDuringRotation : List TailAct :=
  [.writer .create, .writer (.append "\x7b\"success\":true\x7d"),
    .reader {} 0, .reader {} 0, .reader {} 0, .reader {} 0, .reader {} 0,
    .writer .renameBase, .writer .create, .writer (.append "\x7b\"success\":false\x7d"),
    .reader {} 0, .reader {} 9, .reader {} 1000, .reader {} 0, .reader {} 0]

theorem tail_is_subsequence_during_rotation :
    ∃ s lines, exec (tailStep 5) {} tailDuringRotation = some s ∧ s.pc = .returned (.ok lines) ∧
      lines = ["\x7b\"success\":true\x7d"] ∧ lines <+ s.written ∧ lines.length ≤ 5 := by
  have hrun : ∃ s, exec (tailStep 5) {} tailDuringRotation = some s ∧
      s.pc = .returned (.ok ["\x7b\"success\":true\x7d"]) := ⟨_, rfl, rfl⟩
  have hlines : ∀ line, .writer (.append line) ∈ tailDuringRotation → OneLine line := by
    intro line hmem
    simp only [tailDuringRotation, List.mem_cons, List.not_mem_nil, TailAct.writer.injEq,
      WriterAct.append.injEq, reduceCtorEq, or_false, false_or] at hmem
    rcases hmem with rfl | rfl <;> decide +kernel
  obtain ⟨s, h, hpc⟩ := hrun
  exact ⟨s, _, h, hpc, rfl, tail_is_subsequence hlines h hpc⟩

end Logger
