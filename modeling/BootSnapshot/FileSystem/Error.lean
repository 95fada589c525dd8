import BootSnapshot.Decimal.Natural

set_option autoImplicit false

namespace BootSnapshot

inductive OsError where
  | notFound
  | notDirectory
  | isDirectory
  | tooManyLinks
  | nameTooLong
  /-- A path holds the null character, so the system is not even asked. -/
  | nullInPath
  | other (code : Nat) (text : String)
deriving DecidableEq

namespace OsError

/-- The number that the system gives to the error. -/
def code? : OsError → Option Nat
  | .notFound => some 2
  | .notDirectory => some 20
  | .isDirectory => some 21
  | .tooManyLinks => some 40
  | .nameTooLong => some 36
  | .nullInPath => none
  | .other code _ => some code

def text : OsError → String
  | .notFound => "No such file or directory"
  | .notDirectory => "Not a directory"
  | .isDirectory => "Is a directory"
  | .tooManyLinks => "Too many levels of symbolic links"
  | .nameTooLong => "File name too long"
  | .nullInPath => "file name contained an unexpected NUL byte"
  | .other _ text => text

def message (error : OsError) : String :=
  match error.code? with
  | some code => error.text ++ " (os error " ++ Decimal.natText code ++ ")"
  | none => error.text

end OsError
end BootSnapshot
