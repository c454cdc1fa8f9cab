/-!
# Faults of the operating system

Why the operating system refused something, with the number it gives the reason where there is one.
-/

namespace LogFanout

/-- Why the operating system refused something. -/
inductive SystemFault where
  | notFound
  | inputOutput
  | badDescriptor
  | permissionDenied
  | notDirectory
  | isDirectory
  | noSpace
  | brokenPipe
  | nameTooLong
  | networkUnreachable
  | connectionRefused
  /-- A file is not a text. -/
  | invalidText
  /-- The name of a file holds a NUL. -/
  | fileNul
  /-- The path of a socket holds a NUL. -/
  | socketNul
  /-- The path of a socket is too long. -/
  | socketPathTooLong
  deriving DecidableEq, Repr

/-- The wording of a fault. -/
def SystemFault.message : SystemFault → String
  | .notFound => "No such file or directory (os error 2)"
  | .inputOutput => "Input/output error (os error 5)"
  | .badDescriptor => "Bad file descriptor (os error 9)"
  | .permissionDenied => "Permission denied (os error 13)"
  | .notDirectory => "Not a directory (os error 20)"
  | .isDirectory => "Is a directory (os error 21)"
  | .noSpace => "No space left on device (os error 28)"
  | .brokenPipe => "Broken pipe (os error 32)"
  | .nameTooLong => "File name too long (os error 36)"
  | .networkUnreachable => "Network is unreachable (os error 101)"
  | .connectionRefused => "Connection refused (os error 111)"
  | .invalidText => "stream did not contain valid UTF-8"
  | .fileNul => "file name contained an unexpected NUL byte"
  | .socketNul => "paths must not contain interior null bytes"
  | .socketPathTooLong => "path must be shorter than SUN_LEN"

end LogFanout
