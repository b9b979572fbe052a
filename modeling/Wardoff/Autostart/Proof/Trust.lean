import Wardoff.Autostart.Trust

/-!
# What the trust check establishes

`AccessCheck` answers for all the rights of a mask together (`accessCheck_or`), so the check refuses
a location only when the token holds *every* right of one of its two masks, and lets one pass where
the token holds some of them.

* `ensureTrusted_eq_ok_iff`: when a location passes.
* `trust_check_sound_iff`: where a location that passes is one the token cannot write.
* `trust_check_unsound`: a directory with the rights of Windows' "Modify" passes.
-/

namespace Autostart

/-- The rights that let a token change the executable. -/
def executableRights : List AccessMask :=
  [fileWriteData, fileAppendData, fileWriteAttributes, fileWriteEa]

/-- The rights that let a token change the executable's directory. -/
def directoryRights : List AccessMask :=
  [fileAddFile, fileAddSubdirectory, fileWriteAttributes, fileWriteEa, fileDeleteChild]

/-- The token holds none of `rights`. -/
def HoldsNone (granted : AccessMask) (rights : List AccessMask) : Prop :=
  ∀ right ∈ rights, accessCheck granted right = false

/-- The token holds all of `rights`. -/
def HoldsAll (granted : AccessMask) (rights : List AccessMask) : Prop :=
  ∀ right ∈ rights, accessCheck granted right = true

/-- The token can be obtained, and both paths can be checked. -/
def TrustCalls.Succeed (o : TrustCalls) : Prop :=
  (o.openToken = .ok () ∧ o.linkedToken = .ok () ∧ o.duplicateToken = .ok ()) ∧
    (o.executable.descriptor = 0 ∧ o.executable.check = .ok ()) ∧
    (o.directory.descriptor = 0 ∧ o.directory.check = .ok ())

/-- Rights asked for together are granted together. -/
theorem accessCheck_or (granted a b : AccessMask) :
    accessCheck granted (a ||| b) = (accessCheck granted a && accessCheck granted b) := by
  rw [Bool.eq_iff_iff]
  simp only [accessCheck, beq_iff_eq, Bool.and_eq_true, BitVec.eq_of_getLsbD_eq_iff,
    BitVec.getLsbD_and, BitVec.getLsbD_or]
  constructor
  · intro h
    constructor <;> intro i hi <;> have hbit := h i hi <;> revert hbit <;>
      cases granted.getLsbD i <;> cases a.getLsbD i <;> cases b.getLsbD i <;> decide
  · intro h i hi
    obtain ⟨ha, hb⟩ := h
    have ha := ha i hi
    have hb := hb i hi
    revert ha hb
    cases granted.getLsbD i <;> cases a.getLsbD i <;> cases b.getLsbD i <;> decide

/-- The executable counts as writable when all four rights are held. -/
theorem executable_writable_iff (granted : AccessMask) :
    accessCheck granted (fileWriteData ||| fileAppendData ||| fileWriteAttributes ||| fileWriteEa) =
      true ↔
      HoldsAll granted executableRights := by
  simp [accessCheck_or, HoldsAll, executableRights, and_assoc]

/-- The directory counts as writable when all five rights are held. -/
theorem directory_writable_iff (granted : AccessMask) :
    accessCheck granted
      (fileAddFile ||| fileAddSubdirectory ||| fileWriteAttributes ||| fileWriteEa |||
        fileDeleteChild) = true ↔
      HoldsAll granted directoryRights := by
  simp [accessCheck_or, HoldsAll, directoryRights, and_assoc]

theorem mediumToken_eq_ok_iff {o : TrustCalls} :
    currentInteractiveMediumTokenForAccessCheck o = .ok () ↔
      o.openToken = .ok () ∧ o.linkedToken = .ok () ∧ o.duplicateToken = .ok () := by
  unfold currentInteractiveMediumTokenForAccessCheck
  cases o.openToken with
  | error error => simp
  | ok u =>
    cases o.linkedToken with
    | error error => simp
    | ok u => cases o.duplicateToken <;> simp

theorem tokenHasPathAccess_eq_ok_iff {o : PathCalls} {path context : String} {desired : AccessMask}
    {writable : Bool} :
    tokenHasPathAccess o path desired context = .ok writable ↔
      (o.descriptor = 0 ∧ o.check = .ok ()) ∧ accessCheck o.granted desired = writable := by
  unfold tokenHasPathAccess loadPathSecurityDescriptor
  by_cases hd : o.descriptor = 0
  · cases o.check <;> simp [hd]
  · simp [hd]

/-- A location passes when every call succeeds and neither mask is held whole. -/
theorem ensureTrusted_eq_ok_iff {o : TrustCalls} {executablePath workingDirectory : String} :
    ensureTrustedAutostartLocation o executablePath workingDirectory = .ok () ↔
      o.Succeed ∧ ¬ HoldsAll o.executable.granted executableRights ∧
        ¬ HoldsAll o.directory.granted directoryRights := by
  unfold ensureTrustedAutostartLocation
  rw [← executable_writable_iff, ← directory_writable_iff]
  split
  · rename_i error he
    have hne : ¬ o.Succeed := fun hs => by simp [mediumToken_eq_ok_iff.2 hs.1] at he
    simp [hne]
  · rename_i htoken
    split
    · rename_i error he
      have hne : ¬ o.Succeed := fun hs => by
        simp [tokenCanWriteExecutablePath, tokenHasPathAccess_eq_ok_iff.2 ⟨hs.2.1, rfl⟩] at he
      simp [hne]
    · rename_i executableWritable he
      obtain ⟨hexe, rfl⟩ := tokenHasPathAccess_eq_ok_iff.1 he
      split
      · rename_i error he
        have hne : ¬ o.Succeed := fun hs => by
          simp [tokenCanWriteDirectory, tokenHasPathAccess_eq_ok_iff.2 ⟨hs.2.2, rfl⟩] at he
        simp [hne]
      · rename_i directoryWritable he'
        obtain ⟨hdir, rfl⟩ := tokenHasPathAccess_eq_ok_iff.1 he'
        have hsucceed : o.Succeed := ⟨mediumToken_eq_ok_iff.1 htoken, hexe, hdir⟩
        split
        · rename_i hwritable
          rw [Bool.or_eq_true] at hwritable
          constructor
          · intro h
            cases h
          · intro h
            exact absurd hwritable (not_or.2 h.2)
        · rename_i hwritable
          rw [Bool.or_eq_true, not_or] at hwritable
          exact iff_of_true rfl ⟨hsucceed, hwritable⟩

/-- **Where the trust check is sound.** A location that passes is one the token cannot write,
exactly if a call of the check fails, or the token holds none of the rights, or it holds all of them
on the executable or all of them on the directory. -/
theorem trust_check_sound_iff (o : TrustCalls) (executablePath workingDirectory : String) :
    (ensureTrustedAutostartLocation o executablePath workingDirectory = .ok () →
      HoldsNone o.executable.granted executableRights ∧
        HoldsNone o.directory.granted directoryRights) ↔
    (¬ o.Succeed ∨
      (HoldsNone o.executable.granted executableRights ∧
        HoldsNone o.directory.granted directoryRights) ∨
      HoldsAll o.executable.granted executableRights ∨
      HoldsAll o.directory.granted directoryRights) := by
  rw [ensureTrusted_eq_ok_iff]
  tauto

/-- The calls of a check that all succeed, for a token with the given rights. -/
def TrustCalls.succeed (executable directory : AccessMask) : TrustCalls :=
  ⟨.ok (), .ok (), .ok (), ⟨0, .ok (), executable⟩, ⟨0, .ok (), directory⟩⟩

/-- A directory on which the token has the rights of "Modify" (`0x1301BF`, which lacks
`FILE_DELETE_CHILD`), with an executable it cannot write: the location passes. -/
theorem trust_check_unsound :
    ¬ ∀ (o : TrustCalls) (executablePath workingDirectory : String),
      ensureTrustedAutostartLocation o executablePath workingDirectory = .ok () →
        HoldsNone o.executable.granted executableRights ∧
          HoldsNone o.directory.granted directoryRights := by
  intro h
  have hdir := (h (.succeed 0x1200A9 0x1301BF) "C:\\Tools\\wardoff.exe" "C:\\Tools" rfl).2
  exact absurd (hdir fileAddFile (by simp [directoryRights])) (by decide)

end Autostart
