import Mathlib.Logic.Function.Basic
import Wardoff.Text.Codec
import Wardoff.Text.Segments

/-!
# The structured log (`src/logger/mod.rs`)

One JSON line a record, appended to `wardoff.jsonl`. A file that would grow beyond `maxLogBytes` is
moved to `wardoff.1.jsonl`, that one to `wardoff.2.jsonl`, and the oldest one is removed.
`wardoff --log` reads the files from the oldest to the newest and keeps the last lines.

All files are in one directory, so that a path is its file name. Every call may fail (`Fs.fails`); a
write that fails may have written some of its bytes. `serde_json` is a parameter: `toJson` is its
text of a record.
-/

namespace Logger

open Text (utf8 ofUtf8? pieces strip pushRecent)

/-! ## Records -/

/-- One line of the log. -/
structure LogRecord where
  timestamp : String
  event : String
  source : String
  action : String
  success : Bool
  deriving DecidableEq, Repr

/-! ## The directory -/

/-- What a name of the directory stands for. -/
inductive Entry where
  | file (bytes : List UInt8)
  | directory
  | reparsePoint
  deriving DecidableEq, Repr

/-- The log directory. -/
abbrev Dir : Type := String → Option Entry

/-- What a file is inspected for. A record may need several inspections of one file, and each of
them may fail by itself. -/
inductive Inspection where
  /-- Its size. -/
  | size
  | removal
  /-- To be renamed. -/
  | source
  /-- To be replaced by a rename. -/
  | target
  | reading
  deriving DecidableEq, Repr

inductive FsCall where
  /-- `ensure_managed_log_directory`. -/
  | ensureDirectory
  /-- `serde_json::to_string`. -/
  | serialize
  /-- `fs::symlink_metadata`. -/
  | inspect (inspection : Inspection) (path : String)
  | remove (path : String)
  | rename (source target : String)
  | openAppend (path : String)
  | openRead (path : String)
  /-- `File::metadata` of an open file. -/
  | inspectOpen (path : String)
  | write (path : String)
  | writeNewline (path : String)
  | flush (path : String)
  | read (path : String)
  /-- `VecDeque::try_reserve`. -/
  | reserve
  deriving DecidableEq, Repr

/-- A `std::io::Error`. -/
structure IoError where
  /-- Its kind is `ErrorKind::NotFound`. -/
  notFound : Bool
  text : String
  deriving DecidableEq, Repr

/-- The outcomes of the calls. -/
structure Fs where
  /-- The error of a call that fails. -/
  fails : FsCall → Option IoError := fun _ => none
  /-- How many bytes a write that fails has written. -/
  wrote : FsCall → Nat := fun _ => 0

/-- A call that changes nothing. -/
def Fs.call (fs : Fs) (call : FsCall) (message : String → String) : Except String Unit :=
  match fs.fails call with
  | some error => .error (message error.text)
  | none => .ok ()

def defaultLogFileName : String := "wardoff.jsonl"

def maxLogBytes : Nat := 5 * 1024 * 1024

def maxLogFiles : Nat := 3

def maxTailLineCount : Nat := 100000

/-! ## Paths -/

/-- `Path::file_stem` and `Path::extension` of a file name: they are divided by its last dot, unless
there is none or it is in front. -/
def splitName (name : List Char) : List Char × Option (List Char) :=
  let extension := name.reverse.takeWhile (· != '.')
  let stem := (name.reverse.drop (extension.length + 1)).reverse
  if stem.isEmpty then (name, none) else (stem, some extension.reverse)

def rotatedLogPath (basePath : String) (index : Nat) : String :=
  let (stem, extension) := splitName basePath.toList
  String.ofList stem ++ "." ++ toString index ++ "." ++ String.ofList
    (extension.getD "jsonl".toList)

def logPathsOldestToNewest (basePath : String) : List String :=
  ((List.range' 1 (maxLogFiles - 1)).reverse.map fun index => rotatedLogPath basePath index) ++
    [basePath]

/-! ## Inspection -/

def validatePlainFile (path : String) : Entry → Except String (List UInt8)
  | .reparsePoint =>
    .error s!"Wardoff refused to follow a reparse point at managed log file {path}."
  | .directory => .error s!"Wardoff expected a plain file at managed log path {path}."
  | .file bytes => .ok bytes

/-- The content stands for the metadata. -/
def logFileMetadataIfExists (fs : Fs) (dir : Dir) (inspection : Inspection) (path : String) :
    Except String (Option (List UInt8)) :=
  match fs.fails (.inspect inspection path) with
  | some error =>
    if error.notFound then .ok none
    else .error s!"Wardoff could not inspect {path} before rotation: {error.text}"
  | none =>
    match dir path with
    | none => .ok none
    | some entry => (validatePlainFile path entry).map some

/-- The content of an open file, which must be a plain one. -/
def validateOpenPlainFile (fs : Fs) (dir : Dir) (path : String) : Except String (List UInt8) :=
  match fs.fails (.inspectOpen path) with
  | some error => .error s!"Wardoff could not inspect {path}: {error.text}"
  | none => validatePlainFile path ((dir path).getD (.file []))

/-! ## Rotation

Each function returns the directory it leaves behind, also when it fails. -/

def removeFileIfExists (fs : Fs) (dir : Dir) (path : String) : Except String Unit × Dir :=
  match logFileMetadataIfExists fs dir .removal path with
  | .error message => (.error message, dir)
  | .ok none => (.ok (), dir)
  | .ok (some _) =>
    match fs.fails (.remove path) with
    | some error =>
      if error.notFound then (.ok (), dir)
      else (.error s!"Wardoff could not remove {path}: {error.text}", dir)
    | none => (.ok (), Function.update dir path none)

def renameIfExists (fs : Fs) (dir : Dir) (source target : String) : Except String Unit × Dir :=
  match logFileMetadataIfExists fs dir .source source with
  | .error message => (.error message, dir)
  | .ok none => (.ok (), dir)
  | .ok (some bytes) =>
    match logFileMetadataIfExists fs dir .target target with
    | .error message => (.error message, dir)
    | .ok _ =>
      match fs.fails (.rename source target) with
      | some error =>
        if error.notFound then (.ok (), dir)
        else (.error s!"Wardoff could not rotate {source} to {target}: {error.text}", dir)
      | none =>
        (.ok (), Function.update (Function.update dir target (some (.file bytes))) source none)

/-- The renames of the rotated files, from the given indices. -/
def renameRotated (fs : Fs) (dir : Dir) (path : String) : List Nat → Except String Unit × Dir
  | [] => (.ok (), dir)
  | index :: indices =>
    match renameIfExists fs dir (rotatedLogPath path index) (rotatedLogPath path (index + 1)) with
    | (.error message, dir) => (.error message, dir)
    | (.ok (), dir) => renameRotated fs dir path indices

def rotateLogs (fs : Fs) (dir : Dir) (path : String) : Except String Unit × Dir :=
  let highestRotatedIndex := maxLogFiles - 1
  if highestRotatedIndex = 0 then removeFileIfExists fs dir path
  else match removeFileIfExists fs dir (rotatedLogPath path highestRotatedIndex) with
    | (.error message, dir) => (.error message, dir)
    | (.ok (), dir) =>
      match renameRotated fs dir path (List.range' 1 (highestRotatedIndex - 1)).reverse with
      | (.error message, dir) => (.error message, dir)
      | (.ok (), dir) => renameIfExists fs dir path (rotatedLogPath path 1)

def rotateIfNeeded (fs : Fs) (dir : Dir) (path : String) (incomingBytes : Nat) :
    Except String Unit × Dir :=
  match logFileMetadataIfExists fs dir .size path with
  | .error message => (.error message, dir)
  | .ok content =>
    let currentSize := (content.getD []).length
    if currentSize + incomingBytes ≤ maxLogBytes then (.ok (), dir) else rotateLogs fs dir path

/-! ## Writing -/

/-- `write_all` on a file opened for appending. -/
def appendBytes (fs : Fs) (dir : Dir) (path : String) (call : FsCall) (content bytes : List UInt8)
    (message : String → String) : Except String Unit × Dir :=
  match fs.fails call with
  | some error =>
    (.error (message error.text),
      Function.update dir path (some (.file (content ++ bytes.take (fs.wrote call)))))
  | none => (.ok (), Function.update dir path (some (.file (content ++ bytes))))

/-- The file is created if it does not exist. -/
def openPlainLogFileForAppend (fs : Fs) (dir : Dir) (path : String) :
    Except String (List UInt8) × Dir :=
  match fs.fails (.openAppend path) with
  | some error => (.error s!"Wardoff could not open {path}: {error.text}", dir)
  | none =>
    let dir := Function.update dir path (some ((dir path).getD (.file [])))
    (validateOpenPlainFile fs dir path, dir)

/-- The writes of `write_record`. -/
def appendLine (fs : Fs) (dir : Dir) (path : String) (line : String) : Except String Unit × Dir :=
  match openPlainLogFileForAppend fs dir path with
  | (.error message, dir) => (.error message, dir)
  | (.ok content, dir) =>
    match appendBytes fs dir path (.write path) content (utf8 line)
        fun error => s!"Wardoff could not write {path}: {error}" with
    | (.error message, dir) => (.error message, dir)
    | (.ok (), dir) =>
      match appendBytes fs dir path (.writeNewline path) (content ++ utf8 line) [Text.lf]
          fun error => s!"Wardoff could not finish writing {path}: {error}" with
      | (.error message, dir) => (.error message, dir)
      | (.ok (), dir) =>
        (fs.call (.flush path) fun error => s!"Wardoff could not flush {path}: {error}", dir)

section
variable (toJson : LogRecord → String)

def writeRecord (fs : Fs) (dir : Dir) (path : String) (record : LogRecord) :
    Except String Unit × Dir :=
  match fs.fails .ensureDirectory with
  | some error => (.error error.text, dir)
  | none =>
    match fs.fails .serialize with
    | some error => (.error s!"Wardoff could not serialize a log record: {error.text}", dir)
    | none =>
      let line := toJson record
      match rotateIfNeeded fs dir path ((utf8 line).length + 1) with
      | (.error message, dir) => (.error message, dir)
      | (.ok (), dir) => appendLine fs dir path line

/-- A sequence of records, up to the first one that cannot be written. -/
def writeRecords (fs : Fs) (path : String) : Dir → List LogRecord → Except String Dir
  | dir, [] => .ok dir
  | dir, record :: records =>
    match writeRecord toJson fs dir path record with
    | (.error message, _) => .error message
    | (.ok (), dir) => writeRecords fs path dir records

/-- The log as the writer thread leaves it. -/
structure Log where
  dir : Dir := fun _ => none
  /-- The records that `write_record` has returned Ok for, in this order (a ghost field). -/
  written : List LogRecord := []

/-- A record of `run_writer_loop`, which only reports an error. -/
def Log.record (log : Log) (fs : Fs) (path : String) (record : LogRecord) : Log :=
  match writeRecord toJson fs log.dir path record with
  | (.ok (), dir) => { dir, written := log.written ++ [record] }
  | (.error _, dir) => { log with dir }

/-- `run_writer_loop` from an empty directory, with the outcomes of the calls for each record. -/
def runWriterLoop (path : String) (records : List (Fs × LogRecord)) : Log :=
  records.foldl (fun log (fs, record) => log.record toJson fs path record) {}

end

/-! ## Reading -/

/-- The lines of a file, one after the other; `recent` holds the last ones so far. -/
def readLines (fs : Fs) (path : String) (limit : Nat) (recent : List String) :
    List (List UInt8) → Except String (List String)
  | [] => .ok recent
  | piece :: rest =>
    match ofUtf8? (strip piece) with
    | none => .error s!"Wardoff could not read {path}: stream did not contain valid UTF-8"
    | some line =>
      if recent.length = limit then readLines fs path limit (pushRecent limit recent line) rest
      else match fs.fails .reserve with
        | some error =>
          .error s!"Wardoff could not reserve memory for recent log lines while reading {path}: {error.text}"
        | none => readLines fs path limit (pushRecent limit recent line) rest

def openPlainLogFileForRead (fs : Fs) (dir : Dir) (path : String) : Except String (List UInt8) := do
  fs.call (.openRead path) fun error => s!"Wardoff could not open {path}: {error}"
  validateOpenPlainFile fs dir path

/-- One file of the loop. -/
def readFile (fs : Fs) (dir : Dir) (limit : Nat) (recent : List String) (path : String) :
    Except String (List String) := do
  match ← logFileMetadataIfExists fs dir .reading path with
  | none => .ok recent
  | some _ =>
    let bytes ← openPlainLogFileForRead fs dir path
    fs.call (.read path) fun error => s!"Wardoff could not read {path}: {error}"
    readLines fs path limit recent (pieces bytes)

def readFiles (fs : Fs) (dir : Dir) (limit : Nat) (recent : List String) :
    List String → Except String (List String)
  | [] => .ok recent
  | path :: paths => do
    let recent ← readFile fs dir limit recent path
    readFiles fs dir limit recent paths

def readRecentLinesFromPath (fs : Fs) (dir : Dir) (basePath : String) (limit : Nat) :
    Except String (List String) :=
  if maxTailLineCount < limit then
    .error s!"The --tail value cannot exceed {maxTailLineCount} lines."
  else if limit = 0 then .ok []
  else readFiles fs dir limit [] (logPathsOldestToNewest basePath)

end Logger
