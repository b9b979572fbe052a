import Wardoff.Logger.Files
import Wardoff.Machine.Run

/-!
# Reading while the log rotates (`read_recent_lines_from_path` of `src/logger/mod.rs`)

`wardoff --log` reads the files of a runtime that goes on writing: the reader and the writer are two
processes. A name of the directory stands for a file, and a file that is open stays readable after
it was renamed or removed (`Disk`).

`tailStep` is one step of either: a call of the writer that changes the directory or a file, in any
order and number, or the next call of the reader. The reader takes the lines out of what it has read
when it comes to the end of the file: until then they concern nobody else.
-/

namespace Logger

open Text (utf8 pieces)

/-! ## The files and their names -/

structure Disk where
  /-- The file a name stands for. -/
  names : String → Option Nat := fun _ => none
  /-- The contents of all the files there have been. -/
  files : List (List UInt8) := []

/-- The directory as the calls of one process see it. -/
def Disk.dir (disk : Disk) : Dir := fun path =>
  (disk.names path).map fun id => .file (disk.files.getD id [])

/-- The name stands for this file, or for none. -/
def Disk.named (disk : Disk) (path : String) (file : Option Nat) : Disk :=
  { disk with names := Function.update disk.names path file }

/-- A rename replaces the target. -/
def Disk.rename (disk : Disk) (source target : String) : Option Disk :=
  match disk.names source with
  | some id => some ((disk.named target (some id)).named source none)
  | none => none

/-- A new file. -/
def Disk.create (disk : Disk) (path : String) : Disk :=
  { disk.named path (some disk.files.length) with files := disk.files ++ [[]] }

def Disk.append (disk : Disk) (id : Nat) (bytes : List UInt8) : Disk :=
  { disk with files := disk.files.set id (disk.files.getD id [] ++ bytes) }

/-! ## The writer -/

/-- The calls of `write_record` that change anything. -/
inductive WriterAct where
  /-- The file is opened for appending and was not there. -/
  | create
  /-- A line is appended to the open file. -/
  | append (line : String)
  /-- The three file operations of `rotate_logs`. -/
  | removeOldest
  | renameRotated
  | renameBase
  deriving DecidableEq, Repr

/-- What the reader does next. -/
inductive ReadPc where
  /-- Has not been called. -/
  | idle
  /-- `log_file_metadata_if_exists` of the first of these paths. -/
  | inspecting (paths recent : List String)
  /-- Opens the path, which was there. -/
  | opening (path : String) (paths recent : List String)
  /-- `validate_open_plain_file`. -/
  | validating (id : Nat) (path : String) (paths recent : List String)
  | reading (id : Nat) (bytes : List UInt8) (path : String) (paths recent : List String)
  | returned (result : Except String (List String))

structure Tailing where
  disk : Disk := {}
  /-- The lines that have been appended (a ghost field). -/
  written : List String := []
  pc : ReadPc := .idle

def writerStep (s : Tailing) : WriterAct → Option Tailing
  | .create =>
    match s.disk.names defaultLogFileName with
    | none => some { s with disk := s.disk.create defaultLogFileName }
    | some _ => none
  | .append line =>
    match s.disk.names defaultLogFileName with
    | some id =>
      some { s with
        disk := s.disk.append id (utf8 line ++ [Text.lf])
        written := s.written ++ [line] }
    | none => none
  | .removeOldest =>
    match s.disk.names (rotatedLogPath defaultLogFileName 2) with
    | some _ => some { s with disk := s.disk.named (rotatedLogPath defaultLogFileName 2) none }
    | none => none
  | .renameRotated =>
    (s.disk.rename (rotatedLogPath defaultLogFileName 1)
      (rotatedLogPath defaultLogFileName 2)).map fun disk => { s with disk }
  | .renameBase =>
    (s.disk.rename defaultLogFileName (rotatedLogPath defaultLogFileName 1)).map fun disk =>
      { s with disk }

/-! ## The reader -/

def osErrorFileNotFound : String := "The system cannot find the file specified. (os error 2)"

/-- The next call of the reader, with its outcome; a read gets at most `count + 1` bytes. -/
def ReadPc.next (disk : Disk) (limit : Nat) (fs : Fs) (count : Nat) : ReadPc → Option ReadPc
  | .idle =>
    if maxTailLineCount < limit then
      some (.returned (.error s!"The --tail value cannot exceed {maxTailLineCount} lines."))
    else if limit = 0 then some (.returned (.ok []))
    else some (.inspecting (logPathsOldestToNewest defaultLogFileName) [])
  | .inspecting [] recent => some (.returned (.ok recent))
  | .inspecting (path :: paths) recent =>
    match logFileMetadataIfExists fs disk.dir .reading path with
    | .error message => some (.returned (.error message))
    | .ok none => some (.inspecting paths recent)
    | .ok (some _) => some (.opening path paths recent)
  | .opening path paths recent =>
    match fs.fails (.openRead path), disk.names path with
    | some error, _ => some (.returned (.error s!"Wardoff could not open {path}: {error.text}"))
    -- it has been renamed or removed since it was inspected
    | none, none =>
      some (.returned (.error s!"Wardoff could not open {path}: {osErrorFileNotFound}"))
    | none, some id => some (.validating id path paths recent)
  | .validating id path paths recent =>
    match fs.fails (.inspectOpen path) with
    | some error => some (.returned (.error s!"Wardoff could not inspect {path}: {error.text}"))
    | none => some (.reading id [] path paths recent)
  | .reading id bytes path paths recent =>
    match fs.fails (.read path) with
    | some error => some (.returned (.error s!"Wardoff could not read {path}: {error.text}"))
    | none =>
      match (disk.files.getD id []).drop bytes.length with
      | [] =>
        match readLines fs path limit recent (pieces bytes) with
        | .error message => some (.returned (.error message))
        | .ok recent => some (.inspecting paths recent)
      | rest => some (.reading id (bytes ++ rest.take (count + 1)) path paths recent)
  | .returned _ => none

inductive TailAct where
  | writer (a : WriterAct)
  | reader (fs : Fs) (count : Nat)

def tailStep (limit : Nat) (s : Tailing) : TailAct → Option Tailing
  | .writer a => writerStep s a
  | .reader fs count => (s.pc.next s.disk limit fs count).map fun pc => { s with pc }

end Logger
