/-
**Which files are modules.**

A module is read from a file that can be read and starts with the eight bytes of its header: the
magic number and the version. Nothing behind the header matters. Where no module is read, the
failure is that of the first of these conditions.

* `Headless`: what is wrong with bytes that do not start with the header;
* `NormalConfig.moduleFile`: the file that a configuration is given its module from;
* `Unloadable`: why no module is read from a file;
* `loadModule_eq_error_iff`, `exists_loadModule_iff`: modules are read so.
-/

import InstanceHost.Module.Load

namespace InstanceHost

/-! ### Headers -/

/-- The header of a module: the magic number and the version. -/
def moduleHeader : List UInt8 := [0x00, 0x61, 0x73, 0x6D, 0x01, 0x00, 0x00, 0x00]

/-- **What is wrong with bytes that do not start with the header**, by the first difference. -/
inductive Headless (bytes : List UInt8) : BinaryFault → Prop
  | short (short : bytes.length < 8) : Headless bytes (.tooShort bytes.length)
  | magic (long : 8 ≤ bytes.length) (other : bytes.take 4 ≠ moduleHeader.take 4) :
      Headless bytes .noMagic
  | version (long : 8 ≤ bytes.length) (magic : bytes.take 4 = moduleHeader.take 4)
      (other : (bytes.drop 4).take 4 ≠ moduleHeader.drop 4) :
      Headless bytes (.unsupportedVersion ((bytes.drop 4).take 4))

section

variable {bytes : List UInt8} {fault : BinaryFault} {path : String} {failure : LoadFailure}

theorem exists_ofBytes_iff (path : String) :
    (∃ image, LoadedModule.ofBytes path bytes = .ok image) ↔ moduleHeader <+: bytes := by
  constructor
  · rintro ⟨image, accepted⟩
    obtain ⟨⟨rest, rfl⟩, _⟩ := LoadedModule.ofBytes_eq_ok_iff.mp accepted
    exact ⟨rest, rfl⟩
  · rintro ⟨rest, rfl⟩
    exact ⟨_, LoadedModule.ofBytes_eq_ok_iff.mpr ⟨⟨rest, rfl⟩, rfl⟩⟩

theorem Headless.ofBytes (headless : Headless bytes fault) (path : String) :
    LoadedModule.ofBytes path bytes = .error (.invalidBinary path fault) := by
  unfold LoadedModule.ofBytes
  cases headless with
  | short short => exact if_pos short
  | magic long other => exact (if_neg (Nat.not_lt.mpr long)).trans (if_pos other)
  | version long magic other =>
    have same : ¬ bytes.take 4 ≠ moduleHeader.take 4 := Decidable.not_not.mpr magic
    exact (if_neg (Nat.not_lt.mpr long)).trans ((if_neg same).trans (if_pos other))

/-- **Bytes are refused for the first difference from the header.** -/
theorem ofBytes_eq_error_iff :
    LoadedModule.ofBytes path bytes = .error failure ↔
      ∃ fault, Headless bytes fault ∧ failure = .invalidBinary path fault := by
  constructor
  · intro refused
    unfold LoadedModule.ofBytes at refused
    split at refused
    · next short => exact ⟨_, .short short, (Except.error.inj refused).symm⟩
    · next long =>
      split at refused
      · next other =>
        exact ⟨_, .magic (Nat.not_lt.mp long) other, (Except.error.inj refused).symm⟩
      · next magic =>
        split at refused
        · next other =>
          exact ⟨_, .version (Nat.not_lt.mp long) (Decidable.not_not.mp magic) other,
            (Except.error.inj refused).symm⟩
        · cases refused
  · rintro ⟨fault, headless, rfl⟩
    exact headless.ofBytes path

end

/-! ### Files -/

/-- **The file that a configuration is given its module from**: the one in the directory that it
names, or else in that of the loader. -/
def NormalConfig.moduleFile (normal : NormalConfig) (directory : String) : String :=
  moduleFileIn (normal.moduleDirectory.getD directory)

theorem NormalConfig.modulePath_getD (normal : NormalConfig) (directory : String) :
    normal.modulePath.getD (moduleFileIn directory) = normal.moduleFile directory := by
  unfold modulePath moduleFile
  cases normal.moduleDirectory <;> rfl

/-- **Why no module is read from a file.** -/
inductive Unloadable (files : FileSystem) (path : String) : LoadFailure → Prop
  | unreadable {failure : SystemFailure} (unread : files.read path = .error failure) :
      Unloadable files path (.unreadable path failure)
  | invalid {bytes : List UInt8} {fault : BinaryFault} (read : files.read path = .ok bytes)
      (headless : Headless bytes fault) : Unloadable files path (.invalidBinary path fault)

section

variable {files : FileSystem} {directory : String} {normal : NormalConfig} {failure : LoadFailure}

theorem loadModule_of_unread {cause : SystemFailure}
    (unread : files.read (normal.moduleFile directory) = .error cause) :
    (loadModule files directory normal.modulePath).outcome =
      .error (.unreadable (normal.moduleFile directory) cause) := by
  unfold loadModule
  simp only [normal.modulePath_getD directory, unread]

theorem loadModule_of_read {bytes : List UInt8}
    (read : files.read (normal.moduleFile directory) = .ok bytes) :
    (loadModule files directory normal.modulePath).outcome =
      LoadedModule.ofBytes (normal.moduleFile directory) bytes := by
  unfold loadModule
  simp only [normal.modulePath_getD directory, read]
  cases LoadedModule.ofBytes (normal.moduleFile directory) bytes <;> rfl

/-- **No module is read for one of these reasons.** -/
theorem loadModule_eq_error_iff :
    (loadModule files directory normal.modulePath).outcome = .error failure ↔
      Unloadable files (normal.moduleFile directory) failure := by
  constructor
  · intro failed
    cases read : files.read (normal.moduleFile directory) with
    | error cause =>
      rw [loadModule_of_unread read] at failed
      cases failed
      exact .unreadable read
    | ok bytes =>
      rw [loadModule_of_read read] at failed
      obtain ⟨fault, headless, rfl⟩ := ofBytes_eq_error_iff.mp failed
      exact .invalid read headless
  · intro unloadable
    cases unloadable with
    | unreadable unread => exact loadModule_of_unread unread
    | invalid read headless => exact (loadModule_of_read read).trans (headless.ofBytes _)

/-- **A module is read from a file with the header.** -/
theorem exists_loadModule_iff :
    (∃ image, (loadModule files directory normal.modulePath).outcome = .ok image) ↔
      ∃ bytes, files.read (normal.moduleFile directory) = .ok bytes ∧ moduleHeader <+: bytes := by
  constructor
  · rintro ⟨image, loaded⟩
    cases read : files.read (normal.moduleFile directory) with
    | error cause =>
      rw [loadModule_of_unread read] at loaded
      cases loaded
    | ok bytes =>
      rw [loadModule_of_read read] at loaded
      exact ⟨bytes, rfl, (exists_ofBytes_iff _).mp ⟨image, loaded⟩⟩
  · rintro ⟨bytes, read, headed⟩
    rw [loadModule_of_read read]
    exact (exists_ofBytes_iff _).mpr headed

/-- A module is read from a file, or there is a reason why not. -/
theorem unloadable_or_headed (files : FileSystem) (directory : String) (normal : NormalConfig) :
    (∃ failure, Unloadable files (normal.moduleFile directory) failure) ∨
      ∃ bytes, files.read (normal.moduleFile directory) = .ok bytes ∧ moduleHeader <+: bytes := by
  cases outcome : (loadModule files directory normal.modulePath).outcome with
  | error failure => exact Or.inl ⟨failure, loadModule_eq_error_iff.mp outcome⟩
  | ok image => exact Or.inr (exists_loadModule_iff.mp ⟨image, outcome⟩)

end

end InstanceHost
