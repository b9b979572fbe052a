import Mathlib.Data.BitVec

/-!
# The trust check of the autostart task (`src/autostart.rs`)

Before Wardoff registers a task that runs with the highest privileges, it asks whether the
interactive user's non-elevated token could replace the executable: whether that token can write the
executable, or its directory. Each question is one `AccessCheck` for several rights at once.

A file's security descriptor is seen through the rights it grants to that token. `AccessCheck`
grants all the rights it is asked for or none.
-/

namespace Autostart

/-- A set of access rights, as in `ACCESS_MASK`. -/
abbrev AccessMask := BitVec 32

/-! The rights the check asks for. A right on a file and a right on a directory may share a bit. -/

def fileWriteData : AccessMask := 0x2
def fileAddFile : AccessMask := 0x2
def fileAppendData : AccessMask := 0x4
def fileAddSubdirectory : AccessMask := 0x4
def fileWriteEa : AccessMask := 0x10
def fileDeleteChild : AccessMask := 0x40
def fileWriteAttributes : AccessMask := 0x100

/-- `AUTOSTART_TASK_PATH`. -/
def autostartTaskPath : String := "\\Wardoff"

/-- `AccessCheck`: whether every right of `desired` is granted. -/
def accessCheck (granted desired : AccessMask) : Bool := granted &&& desired == desired

/-- What Windows answers about one path. -/
structure PathCalls where
  /-- The error code of `GetNamedSecurityInfoW`. -/
  descriptor : UInt32
  /-- Whether `AccessCheck` itself can be carried out. -/
  check : Except String Unit
  /-- The rights the path's descriptor grants to the non-elevated token. -/
  granted : AccessMask

/-- The outcomes of the calls of one check. -/
structure TrustCalls where
  openToken : Except String Unit
  /-- `GetTokenInformation` for the linked token. -/
  linkedToken : Except String Unit
  duplicateToken : Except String Unit
  executable : PathCalls
  directory : PathCalls

def currentInteractiveMediumTokenForAccessCheck (o : TrustCalls) : Except String Unit :=
  match o.openToken with
  | .error error =>
    .error s!"Wardoff could not validate the autostart install location before updating {autostartTaskPath}: {error}"
  | .ok () =>
    match o.linkedToken with
    | .error error =>
      .error s!"Wardoff could not resolve the current interactive user's non-elevated token before updating {autostartTaskPath}: {error}"
    | .ok () =>
      match o.duplicateToken with
      | .error error =>
        .error s!"Wardoff could not duplicate the current interactive user's non-elevated token before updating {autostartTaskPath}: {error}"
      | .ok () => .ok ()

/-- `load_path_security_descriptor`. -/
def loadPathSecurityDescriptor (o : PathCalls) (path context : String) : Except String Unit :=
  if o.descriptor ≠ 0 then
    .error s!"Wardoff could not {context} for {path} before updating {autostartTaskPath} (Win32 error {o.descriptor})."
  else .ok ()

def tokenHasPathAccess (o : PathCalls) (path : String) (desiredAccess : AccessMask)
    (context : String) : Except String Bool :=
  match loadPathSecurityDescriptor o path context with
  | .error error => .error error
  | .ok () =>
    match o.check with
    | .error error =>
      .error s!"Wardoff could not {context} for {path} before updating {autostartTaskPath}: {error}"
    | .ok () => .ok (accessCheck o.granted desiredAccess)

def tokenCanWriteExecutablePath (o : PathCalls) (executablePath : String) : Except String Bool :=
  tokenHasPathAccess o executablePath
    (fileWriteData ||| fileAppendData ||| fileWriteAttributes ||| fileWriteEa)
    "validate the current executable path"

def tokenCanWriteDirectory (o : PathCalls) (directoryPath : String) : Except String Bool :=
  tokenHasPathAccess o directoryPath
    (fileAddFile ||| fileAddSubdirectory ||| fileWriteAttributes ||| fileWriteEa |||
      fileDeleteChild)
    "validate the current executable directory"

def ensureTrustedAutostartLocation (o : TrustCalls) (executablePath workingDirectory : String) :
    Except String Unit :=
  match currentInteractiveMediumTokenForAccessCheck o with
  | .error error => .error error
  | .ok () =>
    match tokenCanWriteExecutablePath o.executable executablePath with
    | .error error => .error error
    | .ok executableWritable =>
      match tokenCanWriteDirectory o.directory workingDirectory with
      | .error error => .error error
      | .ok workingDirectoryWritable =>
        if executableWritable || workingDirectoryWritable then
          .error s!"Wardoff refused to register scheduled task {autostartTaskPath} from untrusted location {executablePath} because the current interactive user's non-elevated token can modify the executable path or its parent directory. Move Wardoff to an admin-writable install location and try again."
        else .ok ()

end Autostart
