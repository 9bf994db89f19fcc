import AdaptiveShaper.Time.Span

/-!
# Programs that a host runs

A program that the host is asked to run is not started, or it ends after a while, with a code or by
a signal, and leaves bytes on its error output.
-/

namespace AdaptiveShaper

/-- An error of the operating system. -/
inductive OsError where
  | notPermitted
  | noSuchFile
  | argumentsTooLong
  | execFormat
  | tryAgain
  | outOfMemory
  | permissionDenied
  | notDirectory
  | isDirectory
  | invalidArgument
  | tooManyFiles
  | textFileBusy
  | addressInUse
  | addressNotAvailable
  deriving DecidableEq

namespace OsError

def number : OsError → Nat
  | .notPermitted => 1
  | .noSuchFile => 2
  | .argumentsTooLong => 7
  | .execFormat => 8
  | .tryAgain => 11
  | .outOfMemory => 12
  | .permissionDenied => 13
  | .notDirectory => 20
  | .isDirectory => 21
  | .invalidArgument => 22
  | .tooManyFiles => 24
  | .textFileBusy => 26
  | .addressInUse => 98
  | .addressNotAvailable => 99

def wording : OsError → String
  | .notPermitted => "Operation not permitted"
  | .noSuchFile => "No such file or directory"
  | .argumentsTooLong => "Argument list too long"
  | .execFormat => "Exec format error"
  | .tryAgain => "Resource temporarily unavailable"
  | .outOfMemory => "Cannot allocate memory"
  | .permissionDenied => "Permission denied"
  | .notDirectory => "Not a directory"
  | .isDirectory => "Is a directory"
  | .invalidArgument => "Invalid argument"
  | .tooManyFiles => "Too many open files"
  | .textFileBusy => "Text file busy"
  | .addressInUse => "Address already in use"
  | .addressNotAvailable => "Cannot assign requested address"

def message (e : OsError) : String := e.wording ++ " (os error " ++ toString e.number ++ ")"

def all : List OsError :=
  [.notPermitted, .noSuchFile, .argumentsTooLong, .execFormat, .tryAgain, .outOfMemory,
    .permissionDenied, .notDirectory, .isDirectory, .invalidArgument, .tooManyFiles, .textFileBusy,
    .addressInUse, .addressNotAvailable]

def ofNumber? (n : Nat) : Option OsError := all.find? fun e => e.number == n

end OsError

/-- How a program ended. -/
inductive Ending where
  | exited (code : Nat)
  | killed (signal : Nat)
  deriving DecidableEq

/-- What becomes of a program. -/
inductive Execution where
  | refused (reason : OsError)
  | ended (how : Ending) (stderr : List Nat) (elapsed : Span)
  deriving DecidableEq

/-- A host runs programs with arguments. -/
structure Host where
  execute : (program : String) → (arguments : List String) → Execution

end AdaptiveShaper
