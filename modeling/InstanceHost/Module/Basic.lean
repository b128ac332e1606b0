/-
**Compiled modules.**

A compiled module is a WebAssembly binary: a file that starts with the four bytes of the magic
number and the version 1 as four bytes, the least significant first. Nothing else is looked at.

* `LoadedModule.ofBytes`: a binary as a module, or what is wrong with it;
* `LoadFailure`: why there is no module to build instances from.
-/

import InstanceHost.FileSystem.Failure

namespace InstanceHost

/-- What is wrong with a binary. -/
inductive BinaryFault where
  | tooShort (size : Nat)
  | noMagic
  | unsupportedVersion (version : List UInt8)
  | reported (reason : String)
deriving DecidableEq, Repr

/-- A list of bytes between brackets. -/
def bytesText (bytes : List UInt8) : String :=
  "[" ++ String.intercalate ", " (bytes.map fun byte => toString byte.toNat) ++ "]"

/-- The wording of a fault. -/
def BinaryFault.reason : BinaryFault → String
  | .tooShort size => "file is " ++ toString size ++ " bytes, shorter than a module header"
  | .noMagic => "missing WebAssembly magic number"
  | .unsupportedVersion version => "unsupported WebAssembly version " ++ bytesText version
  | .reported reason => reason

/-- Why there is no module (`ModuleLoadError`). -/
inductive LoadFailure where
  | unreadable (path : String) (failure : SystemFailure)
  | invalidBinary (path : String) (fault : BinaryFault)
  | reported (message : String)
deriving DecidableEq, Repr

/-- The wording of a failure. -/
def LoadFailure.message : LoadFailure → String
  | .unreadable path failure => "failed to read module `" ++ path ++ "`: " ++ failure.message
  | .invalidBinary path fault => "module `" ++ path ++ "` is not loadable: " ++ fault.reason
  | .reported message => message

/-- A compiled module (`ModuleImage`). -/
structure LoadedModule where
  path : String
  size : Nat
deriving DecidableEq, Repr

namespace LoadedModule

/-- The magic number. -/
def magic : List UInt8 := [0x00, 0x61, 0x73, 0x6D]

/-- The version, the least significant byte first. -/
def version : List UInt8 := [1, 0, 0, 0]

/-- The number of bytes of magic number and version together. -/
def headerSize : Nat := 8

/-- **A binary as a module** (`ModuleImage.from_bytes`). -/
def ofBytes (path : String) (bytes : List UInt8) : Except LoadFailure LoadedModule :=
  if bytes.length < headerSize then .error (.invalidBinary path (.tooShort bytes.length))
  else if bytes.take 4 ≠ magic then .error (.invalidBinary path .noMagic)
  else if (bytes.drop 4).take 4 ≠ version then
    .error (.invalidBinary path (.unsupportedVersion ((bytes.drop 4).take 4)))
  else .ok ⟨path, bytes.length⟩

/-- A binary is a module exactly when it starts with the magic number and the version. -/
theorem ofBytes_eq_ok_iff {path : String} {bytes : List UInt8} {image : LoadedModule} :
    ofBytes path bytes = .ok image ↔
      (∃ rest, bytes = magic ++ version ++ rest) ∧ image = ⟨path, bytes.length⟩ := by
  unfold ofBytes
  constructor
  · intro accepted
    split at accepted
    · cases accepted
    · next long =>
      split at accepted
      · cases accepted
      · next start =>
        split at accepted
        · cases accepted
        · next second =>
          simp only [ne_eq, Decidable.not_not] at start second
          refine ⟨⟨bytes.drop 8, ?_⟩, (Except.ok.inj accepted).symm⟩
          have first := List.take_append_drop 4 bytes
          have later := List.take_append_drop 4 (bytes.drop 4)
          rw [start] at first
          rw [second, List.drop_drop] at later
          rw [List.append_assoc, later, first]
  · rintro ⟨⟨rest, rfl⟩, rfl⟩
    simp [magic, version, headerSize]

end LoadedModule

end InstanceHost
