import Wardoff.Blocker.Detection

/-!
# Which shutdown.exe Layer 2 sees

* `readUnicodeProperty_eq`: a property is the text of its code units up to the first NUL.
* `shutdown_detected_iff`: an event with a path to `shutdown.exe` is detected exactly if the
  directory is well-formed UTF-16; and whatever is detected is called `shutdown.exe`.
* `shutdown_undetected`: so a directory with an unpaired surrogate hides it.
-/

namespace Blocker

open Text

/-! ## Properties -/

section
variable {littleEndian : Bool}

/-- `u16::to_ne_bytes`. -/
def neBytes (littleEndian : Bool) (unit : UInt16) : List UInt8 :=
  let low : UInt8 := .ofNat (unit.toNat % 0x100)
  let high : UInt8 := .ofNat (unit.toNat / 0x100)
  if littleEndian then [low, high] else [high, low]

/-- The bytes end, up to an odd one, or there is a NUL and anything after it. -/
def EndsText (bytes : List UInt8) : Prop := bytes.length ≤ 1 ∨ ∃ rest, bytes = 0 :: 0 :: rest

theorem codeUnits_neBytes (unit : UInt16) (rest : List UInt8) :
    codeUnits littleEndian (neBytes littleEndian unit ++ rest) = unit ::
      codeUnits littleEndian rest := by
  have hlt := unit.toNat_lt
  have hunit : UInt16.ofNat (unit.toNat % 0x100 + 0x100 * (unit.toNat / 0x100)) = unit := by
    rw [Nat.mod_add_div, UInt16.ofNat_toNat]
  have hlow : (UInt8.ofNat (unit.toNat % 0x100)).toNat = unit.toNat % 0x100 := by
    rw [UInt8.toNat_ofNat', Nat.mod_eq_of_lt (by omega)]
  have hhigh : (UInt8.ofNat (unit.toNat / 0x100)).toNat = unit.toNat / 0x100 := by
    rw [UInt8.toNat_ofNat', Nat.mod_eq_of_lt (by omega)]
  cases littleEndian <;> simp [neBytes, codeUnits, u16FromNeBytes, hlow, hhigh, hunit]

theorem codeUnits_flatMap (units : List UInt16) (rest : List UInt8) :
    codeUnits littleEndian (units.flatMap (neBytes littleEndian) ++ rest) =
      units ++ codeUnits littleEndian rest := by
  induction units with
  | nil => rfl
  | cons unit units ih =>
    rw [List.flatMap_cons, List.append_assoc, codeUnits_neBytes, ih]
    rfl

/-- The odd byte is in no chunk. -/
theorem codeUnits_dropLast (bytes : List UInt8) (hodd : bytes.length % 2 ≠ 0) :
    codeUnits littleEndian bytes.dropLast = codeUnits littleEndian bytes := by
  induction bytes using codeUnits.induct with
  | case1 a b rest ih =>
    cases rest with
    | nil => simp at hodd
    | cons c rest =>
      rw [List.dropLast_cons_cons, List.dropLast_cons_cons, codeUnits, codeUnits,
        ih (by simp only [List.length_cons] at hodd ⊢; omega)]
  | case2 bytes hshort =>
    match bytes with
    | [] => rfl
    | [a] => rfl
    | a :: b :: rest => exact absurd rfl (hshort a b rest)

theorem codeUnits_endsText {bytes : List UInt8} (h : EndsText bytes) :
    (codeUnits littleEndian bytes).takeWhile (· != 0) = [] := by
  rcases h with h | ⟨rest, rfl⟩
  · match bytes, h with
    | [], _ => rfl
    | [a], _ => rfl
  · cases littleEndian <;> simp [codeUnits, u16FromNeBytes]

theorem readUnicodeProperty_eq {record : EventRecord} {propertyName : String} {units : List UInt16}
    {tail : List UInt8}
    (hproperty : record.property propertyName = some (units.flatMap (neBytes littleEndian) ++ tail))
    (htail : EndsText tail) (hne : units ≠ []) (hnul : ∀ unit ∈ units, unit ≠ 0) :
    readUnicodeProperty littleEndian record propertyName =
      (decodeUtf16 units).map String.ofList := by
  have hlength : 2 ≤ (units.flatMap (neBytes littleEndian) ++ tail).length := by
    cases units with
    | nil => exact absurd rfl hne
    | cons unit units => cases littleEndian <;> simp [neBytes]
  have hunits : ∀ bytes, codeUnits littleEndian bytes =
      codeUnits littleEndian (units.flatMap (neBytes littleEndian) ++ tail) →
      (codeUnits littleEndian bytes).takeWhile (· != 0) = units := by
    intro bytes hbytes
    rw [hbytes, codeUnits_flatMap, List.takeWhile_append_of_pos (by simpa using hnul),
      codeUnits_endsText htail, List.append_nil]
  simp only [readUnicodeProperty, hproperty]
  rw [if_neg (by omega)]
  have hread : (codeUnits littleEndian
      (if (units.flatMap (neBytes littleEndian) ++ tail).length % 2 ≠ 0 then
        (units.flatMap (neBytes littleEndian) ++ tail).dropLast
      else units.flatMap (neBytes littleEndian) ++ tail)).takeWhile (· != 0) = units := by
    refine hunits _ ?_
    split_ifs with hodd
    · exact codeUnits_dropLast _ hodd
    · rfl
  rw [hread, if_neg (by simpa using hne)]

end

/-! ## Names -/

/-- The separators of a Windows path. -/
def isSeparator (c : Char) : Bool := c == '\\' || c == '/'

structure OrdinaryName (name : List Char) : Prop where
  ne_nil : name ≠ []
  noSeparator : ∀ c ∈ name, isSeparator c = false
  notDots : name ≠ ['.'] ∧ name ≠ ['.', '.']

/-- `Path::file_name` is the text after the last separator, where that is an ordinary name. -/
def ReturnsLastName (fileName : String → Option String) : Prop :=
  ∀ (directory : List Char) (separator : Char) (name : List Char), isSeparator separator = true →
    OrdinaryName name → fileName (.ofList (directory ++ separator :: name)) = some (.ofList name)

/-- It is `shutdown.exe`, in upper or lower case letters. -/
def IsShutdownExe (name : List Char) : Prop := name.map Char.toLower = "shutdown.exe".toList

instance (name : List Char) : Decidable (IsShutdownExe name) := inferInstanceAs (Decidable (_ = _))

section
variable {name : List Char} {c : Char}

theorem toLower_cases (c : Char) : c.toLower = c ∨ 65 ≤ c.toNat ∧ c.toNat ≤ 90 := by
  unfold Char.toLower
  split
  · rename_i h
    exact .inr ⟨h.1, h.2⟩
  · exact .inl rfl

/-- A character of the name. -/
theorem IsShutdownExe.mem (h : IsShutdownExe name) (hc : c ∈ name) :
    c ∈ "shutdown.exe".toList ∨ 65 ≤ c.toNat ∧ c.toNat ≤ 90 := by
  have hlower : c.toLower ∈ "shutdown.exe".toList := by
    rw [← h]
    exact List.mem_map_of_mem hc
  rcases toLower_cases c with he | hupper
  · exact .inl (he ▸ hlower)
  · exact .inr hupper

/-- An ASCII character other than NUL. -/
def isPlain (c : Char) : Bool := decide (0 < c.toNat) && decide (c.toNat < 0x80)

theorem isPlain_iff : isPlain c = true ↔ 0 < c.toNat ∧ c.toNat < 0x80 := by
  simp [isPlain]

theorem IsShutdownExe.isPlain (h : IsShutdownExe name) (hc : c ∈ name) : isPlain c = true := by
  rcases h.mem hc with hmem | hupper
  · have hall : "shutdown.exe".toList.all Blocker.isPlain = true := by decide
    exact List.all_eq_true.1 hall c hmem
  · rw [isPlain_iff]
    omega

theorem IsShutdownExe.ordinaryName (h : IsShutdownExe name) : OrdinaryName name := by
  have hlength : name.length = 12 := by simpa using congrArg List.length h
  refine ⟨?_, ?_, ?_, ?_⟩
  · rintro rfl
    cases hlength
  · intro c hc
    rcases h.mem hc with hmem | hupper
    · have hall : "shutdown.exe".toList.all (fun c => !isSeparator c) = true := by decide
      simpa using List.all_eq_true.1 hall c hmem
    · simp only [isSeparator, Bool.or_eq_false_iff, beq_eq_false_iff_ne]
      constructor
      · rintro rfl
        exact absurd hupper (by decide)
      · rintro rfl
        exact absurd hupper (by decide)
  · rintro rfl
    cases hlength
  · rintro rfl
    cases hlength

theorem eqIgnoreAsciiCase_ofList :
    eqIgnoreAsciiCase (.ofList name) shutdownImageName = true ↔ IsShutdownExe name := by
  have hlower : "shutdown.exe".toList.map Char.toLower = "shutdown.exe".toList := by decide
  simp only [eqIgnoreAsciiCase, shutdownImageName, String.toList_ofList, hlower, beq_iff_eq,
    IsShutdownExe]

theorem isPlain_of_isSeparator (h : isSeparator c = true) : isPlain c = true := by
  simp only [isSeparator, Bool.or_eq_true, beq_iff_eq] at h
  rcases h with rfl | rfl <;> decide

theorem asciiUnit_ne_zero (h : isPlain c = true) : asciiUnit c ≠ 0 := by
  obtain ⟨hpos, hlt⟩ := isPlain_iff.1 h
  intro hzero
  have hnat := toNat_asciiUnit hlt
  rw [hzero] at hnat
  rw [← hnat] at hpos
  cases hpos

end

/-! ## Detection -/

/-- The event of a process start. -/
structure EventRecord.IsProcessStart (record : EventRecord) : Prop where
  provider : record.providerId = kernelProcessProviderGuid
  id : record.id = layer2ProcessStartEventId
  task : record.task = layer2ProcessStartTask
  opcode : record.opcode = layer2ProcessStartOpcode

section
variable {littleEndian : Bool} {fileName : String → Option String} {record : EventRecord}
  {outcome : ShutdownAbortOutcome}

theorem abort_mem_iff :
    .abortPendingShutdown ∈ processEventRecord littleEndian fileName record outcome ↔
      (detect littleEndian fileName record).isSome = true := by
  unfold processEventRecord
  cases detect littleEndian fileName record <;> simp

/-- A process start is detected by the name of its image. -/
theorem detect_isSome_iff (h : record.IsProcessStart) :
    (detect littleEndian fileName record).isSome = true ↔
      ∃ imageName, readUnicodeProperty littleEndian record "ImageName" = some imageName ∧
        eqIgnoreAsciiCase (basenameOrOriginal fileName imageName) shutdownImageName = true := by
  unfold detect
  rw [if_neg (by simp [h.provider]), if_neg (by simp [h.id, h.task, h.opcode])]
  cases readUnicodeProperty littleEndian record "ImageName" with
  | none => simp
  | some imageName =>
    dsimp only
    split_ifs with hname <;> simp [hname]

theorem isProcessStart_of_detect (h : (detect littleEndian fileName record).isSome = true) :
    record.IsProcessStart := by
  unfold detect at h
  split_ifs at h with hprovider hstart
  · simp at h
  · simp at h
  · simp only [ne_eq, not_or, not_not] at hprovider hstart
    exact ⟨hprovider, hstart.1, hstart.2.1, hstart.2.2⟩

/-- Whatever is detected is called `shutdown.exe`. -/
theorem isShutdownExe_of_abort
    (h : .abortPendingShutdown ∈ processEventRecord littleEndian fileName record outcome) :
    ∃ imageName, readUnicodeProperty littleEndian record "ImageName" = some imageName ∧
      IsShutdownExe (basenameOrOriginal fileName imageName).toList := by
  rw [abort_mem_iff] at h
  obtain ⟨imageName, hread, hname⟩ := (detect_isSome_iff (isProcessStart_of_detect h)).1 h
  refine ⟨imageName, hread, eqIgnoreAsciiCase_ofList.1 ?_⟩
  rwa [String.ofList_toList]

variable {directory : List UInt16} {separator : Char} {name : List Char} {tail : List UInt8}

/-- The image of an event that starts the file `name` of this directory. -/
def imageBytes (littleEndian : Bool) (directory : List UInt16) (separator : Char)
    (name : List Char) :
    List UInt8 :=
  (directory ++ asciiUnit separator :: name.map asciiUnit).flatMap (neBytes littleEndian)

/-- The text of a path: that of the directory, with the separator and the name. -/
theorem readUnicodeProperty_path
    (himage : record.property "ImageName" =
      some (imageBytes littleEndian directory separator name ++ tail))
    (htail : EndsText tail) (hnul : ∀ unit ∈ directory, unit ≠ 0)
    (hseparator : isSeparator separator = true) (hname : IsShutdownExe name) :
    readUnicodeProperty littleEndian record "ImageName" =
      (decodeUtf16 directory).map fun text => String.ofList (text ++ separator :: name) := by
  have hplain := isPlain_of_isSeparator hseparator
  have hlt := (isPlain_iff.1 hplain).2
  obtain ⟨hhigh, hlow⟩ := asciiUnit_not_surrogate hlt
  rw [readUnicodeProperty_eq himage htail (by simp) ?_, decodeUtf16_append directory hhigh hlow,
    decodeUtf16_ascii fun c hc => (isPlain_iff.1 (hname.isPlain hc)).2, unitChar_asciiUnit hlt]
  · cases decodeUtf16 directory <;> rfl
  · intro unit hunit
    rw [List.mem_append, List.mem_cons, List.mem_map] at hunit
    rcases hunit with hunit | rfl | ⟨c, hc, rfl⟩
    · exact hnul unit hunit
    · exact asciiUnit_ne_zero hplain
    · exact asciiUnit_ne_zero (hname.isPlain hc)

/-- **Paths to `shutdown.exe`.** Layer 2 calls `abort_pending_shutdown` for it exactly if the
directory is well-formed UTF-16, and never for a file of another name. -/
theorem shutdown_detected_iff (hfileName : ReturnsLastName fileName)
    (hstart : record.IsProcessStart)
    (himage : record.property "ImageName" =
      some (imageBytes littleEndian directory separator name ++ tail))
    (htail : EndsText tail) (hnul : ∀ unit ∈ directory, unit ≠ 0)
    (hseparator : isSeparator separator = true) (hname : IsShutdownExe name) :
    (.abortPendingShutdown ∈ processEventRecord littleEndian fileName record outcome ↔
        WellFormedUtf16 directory) ∧
      ∀ (event : EventRecord) (result : ShutdownAbortOutcome),
        .abortPendingShutdown ∈ processEventRecord littleEndian fileName event result →
        ∃ imageName, readUnicodeProperty littleEndian event "ImageName" = some imageName ∧
          IsShutdownExe (basenameOrOriginal fileName imageName).toList := by
  refine ⟨?_, fun event result => isShutdownExe_of_abort⟩
  rw [abort_mem_iff, detect_isSome_iff hstart, ← decodeUtf16_isSome_iff,
    readUnicodeProperty_path himage htail hnul hseparator hname]
  cases decodeUtf16 directory with
  | none => simp
  | some text =>
    have hbase : basenameOrOriginal fileName (.ofList (text ++ separator :: name)) =
      .ofList name := by
      rw [basenameOrOriginal, hfileName text separator name hseparator hname.ordinaryName]
      rfl
    simp only [Option.map_some, Option.isSome_some, iff_true]
    exact ⟨_, rfl, by rw [hbase]; exact eqIgnoreAsciiCase_ofList.2 hname⟩

end

/-! ## A directory that hides it -/

/-- The text after the last separator, if it is an ordinary name. -/
def lastName (path : String) : Option String :=
  let name := (path.toList.reverse.takeWhile fun c => !isSeparator c).reverse
  if name = [] ∨ name = ['.'] ∨ name = ['.', '.'] then none else some (.ofList name)

theorem lastName_returns : ReturnsLastName lastName := by
  intro directory separator name hseparator hname
  have hlast :
    ((directory ++ separator :: name).reverse.takeWhile fun c => !isSeparator c).reverse =
      name := by
    rw [List.reverse_append, List.reverse_cons, List.append_assoc, List.takeWhile_append_of_pos,
      List.singleton_append, List.takeWhile_cons_of_neg, List.append_nil, List.reverse_reverse]
    · simp [hseparator]
    · intro c hc
      simpa using hname.noSeparator c (List.mem_reverse.1 hc)
  simp only [lastName, String.toList_ofList, hlast]
  exact if_neg (by simpa using ⟨hname.ne_nil, hname.notDots⟩)

/-- The start of this file. -/
def startOf (directory : List UInt16) (name : List Char) : EventRecord where
  providerId := kernelProcessProviderGuid
  id := layer2ProcessStartEventId
  task := layer2ProcessStartTask
  opcode := layer2ProcessStartOpcode
  processId := 4242
  property propertyName :=
    if propertyName = "ImageName" then some (imageBytes true directory '\\' name ++ [0, 0]) else
      none

theorem startOf_isProcessStart (directory : List UInt16) (name : List Char) :
    (startOf directory name).IsProcessStart := ⟨rfl, rfl, rfl, rfl⟩

/-- The directory is called by a high surrogate alone, which Windows permits. -/
theorem shutdown_undetected :
    ¬ ∀ (littleEndian : Bool) (fileName : String → Option String) (record : EventRecord)
        (outcome : ShutdownAbortOutcome) (directory : List UInt16) (separator : Char)
        (name : List Char)
        (tail : List UInt8), ReturnsLastName fileName → record.IsProcessStart →
      record.property "ImageName" =
        some (imageBytes littleEndian directory separator name ++ tail) →
      EndsText tail → (∀ unit ∈ directory, unit ≠ 0) → isSeparator separator = true →
      IsShutdownExe name →
      .abortPendingShutdown ∈ processEventRecord littleEndian fileName record outcome := by
  intro h
  have habort := h true lastName (startOf [0x5C, 0xD800] "shutdown.exe".toList) .aborted
    [0x5C, 0xD800] '\\'
    "shutdown.exe".toList [0, 0] lastName_returns (startOf_isProcessStart _ _) rfl
      (.inr ⟨[], rfl⟩) (by simp)
    rfl rfl
  revert habort
  decide +kernel

def system32 : List Char := "\\Device\\HarddiskVolume3\\Windows\\System32".toList

theorem shutdown_detected_in_system32 :
    .abortPendingShutdown ∈ processEventRecord true lastName
      (startOf (system32.map asciiUnit) "ShutDown.EXE".toList) .noShutdownPending := by
  have hplain : system32.all isPlain = true := by decide +kernel
  have hnul : ∀ unit ∈ system32.map asciiUnit, unit ≠ 0 := by
    intro unit hunit
    obtain ⟨c, hc, rfl⟩ := List.mem_map.1 hunit
    exact asciiUnit_ne_zero (List.all_eq_true.1 hplain c hc)
  have himage : (startOf (system32.map asciiUnit) "ShutDown.EXE".toList).property "ImageName" =
      some (imageBytes true (system32.map asciiUnit) '\\' "ShutDown.EXE".toList ++ [0, 0]) := rfl
  have hname : IsShutdownExe "ShutDown.EXE".toList := by decide +kernel
  have hwell : WellFormedUtf16 (system32.map asciiUnit) :=
    (decodeUtf16_isSome_iff _).1 (by decide +kernel)
  exact (shutdown_detected_iff lastName_returns (startOf_isProcessStart _ _) himage (.inr ⟨[], rfl⟩)
    hnul rfl hname).1.2 hwell

end Blocker
