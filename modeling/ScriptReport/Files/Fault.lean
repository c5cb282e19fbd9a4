/-
  ScriptReport.Files.Fault

  What can go wrong when a path is followed or a file is read or written.
-/

import ScriptReport.Text.Utf8

namespace ScriptReport

/-! ## Causes -/

/-- Why the system refuses an operation on a path. -/
inductive SystemCause where
  | noEntry
  | entryExists
  | notDirectory
  | isDirectory
  | nameTooLong
  | tooManyLinks
  deriving DecidableEq, Repr

/-- The number by which the cause is reported. -/
def SystemCause.number : SystemCause → Nat
  | .noEntry => 2
  | .entryExists => 17
  | .notDirectory => 20
  | .isDirectory => 21
  | .nameTooLong => 36
  | .tooManyLinks => 40

/-- The wording of the cause. -/
def SystemCause.wording : SystemCause → Chars
  | .noEntry => "No such file or directory"
  | .entryExists => "File exists"
  | .notDirectory => "Not a directory"
  | .isDirectory => "Is a directory"
  | .nameTooLong => "File name too long"
  | .tooManyLinks => "Too many levels of symbolic links"

/-- A failed operation on files. -/
inductive FileFault where
  /-- The system refused the operation on the path, spelled as it was given. -/
  | system (cause : SystemCause) (path : Chars)
  /-- The path holds a null character. -/
  | nullByte
  /-- Following the links of the path never ends. -/
  | linkLoop (path : Chars)
  /-- The path starts at the home directory of an unknown user. -/
  | noHome
  /-- The content is not UTF-8. -/
  | undecodable (fault : Text.Utf8.Fault)
  deriving DecidableEq, Repr

/-! ## Messages -/

/-- The text that reports the fault. -/
def FileFault.message : FileFault → Chars
  | .system cause path =>
    "[Errno " ++ Text.ofNat cause.number ++ "] " ++ cause.wording ++ ": " ++ Text.quoted path
  | .nullByte => "embedded null byte"
  | .linkLoop path => "Symlink loop from " ++ Text.quoted path
  | .noHome => "Could not determine home directory."
  | .undecodable fault => fault.message "utf-8"

end ScriptReport
