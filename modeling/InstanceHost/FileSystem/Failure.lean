/-
**Why a file cannot be reached.**

The reasons an operating system gives, with their wording and number.
-/

namespace InstanceHost

/-- Why a path cannot be read or made. -/
inductive SystemFailure where
  | notFound
  | alreadyExists
  | notDirectory
  | isDirectory
  | nameTooLong
  | nullCharacter
  | notText
  | reported (message : String)
deriving DecidableEq, Repr

/-- The wording of a reason. -/
def SystemFailure.message : SystemFailure → String
  | .notFound => "No such file or directory (os error 2)"
  | .alreadyExists => "File exists (os error 17)"
  | .notDirectory => "Not a directory (os error 20)"
  | .isDirectory => "Is a directory (os error 21)"
  | .nameTooLong => "File name too long (os error 36)"
  | .nullCharacter => "file name contained an unexpected NUL byte"
  | .notText => "stream did not contain valid UTF-8"
  | .reported message => message

end InstanceHost
