set_option autoImplicit false

/-! # File errors

Why an operation on files was refused. -/

namespace Commissioning.Files

/-- Why an operation on files was refused. -/
inductive Error where
  | notFound
  | notDirectory
  | isDirectory
  | alreadyExists
  | nameTooLong
  | zeroInName
  | notText
  /-- A reason in the words of whoever refused. -/
  | stated (text : String)
  deriving DecidableEq, Repr

/-- The wording of an error, with the number that the system gives it. -/
def Error.message : Error → String
  | notFound => "No such file or directory (os error 2)"
  | notDirectory => "Not a directory (os error 20)"
  | isDirectory => "Is a directory (os error 21)"
  | alreadyExists => "File exists (os error 17)"
  | nameTooLong => "File name too long (os error 36)"
  | zeroInName => "file name contained an unexpected NUL byte"
  | notText => "stream did not contain valid UTF-8"
  | stated text => text

end Commissioning.Files
