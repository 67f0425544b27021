/-!
# Failures of storage

What a write target, a file system or the system around it answers when it refuses an operation: a wording, and the
number that the system gives it if it comes from there.
-/

namespace RunLedger

/-- Why storage, or the system that it belongs to, refused an operation. -/
inductive IoError where
  /-- A write target takes no more octets. -/
  | full
  | notFound
  | alreadyExists
  | isDirectory
  | notDirectory
  | permissionDenied
  | notEmpty
  | nameTooLong
  | tooManyLinks
  /-- The arguments of a program do not fit. -/
  | argumentsTooLong
  /-- A file that should be run is no program. -/
  | notExecutable
  /-- A file that should hold a text does not. -/
  | notText
  /-- A text for the system holds a zero octet. -/
  | zeroOctet
  | notPermitted
  | noSuchProcess
  | interrupted
  | noDevice
  /-- A descriptor that is not open, or not for this. -/
  | badDescriptor
  | busy
  | invalid
  | notTerminal
  | noSpace
  | notSeekable
  /-- Nothing reads what is written. -/
  | brokenPipe
  deriving DecidableEq, Repr

namespace IoError

/-- The wording of a refusal. -/
def text : IoError → String
  | .full => "disk full"
  | .notFound => "No such file or directory"
  | .alreadyExists => "File exists"
  | .isDirectory => "Is a directory"
  | .notDirectory => "Not a directory"
  | .permissionDenied => "Permission denied"
  | .notEmpty => "Directory not empty"
  | .nameTooLong => "File name too long"
  | .tooManyLinks => "Too many levels of symbolic links"
  | .argumentsTooLong => "Argument list too long"
  | .notExecutable => "Exec format error"
  | .notText => "stream did not contain valid UTF-8"
  | .zeroOctet => "nul byte found in provided data"
  | .notPermitted => "Operation not permitted"
  | .noSuchProcess => "No such process"
  | .interrupted => "Interrupted system call"
  | .noDevice => "No such device or address"
  | .badDescriptor => "Bad file descriptor"
  | .busy => "Device or resource busy"
  | .invalid => "Invalid argument"
  | .notTerminal => "Inappropriate ioctl for device"
  | .noSpace => "No space left on device"
  | .notSeekable => "Illegal seek"
  | .brokenPipe => "Broken pipe"

/-- The number that the system gives a refusal of its own. -/
def number? : IoError → Option Nat
  | .full | .notText | .zeroOctet => none
  | .notPermitted => some 1
  | .notFound => some 2
  | .noSuchProcess => some 3
  | .interrupted => some 4
  | .noDevice => some 6
  | .argumentsTooLong => some 7
  | .notExecutable => some 8
  | .badDescriptor => some 9
  | .permissionDenied => some 13
  | .busy => some 16
  | .alreadyExists => some 17
  | .notDirectory => some 20
  | .isDirectory => some 21
  | .invalid => some 22
  | .notTerminal => some 25
  | .noSpace => some 28
  | .notSeekable => some 29
  | .brokenPipe => some 32
  | .nameTooLong => some 36
  | .notEmpty => some 39
  | .tooManyLinks => some 40

/-- The wording of a refusal with its number. -/
def message (e : IoError) : String :=
  match e.number? with
  | some n => e.text ++ s!" (os error {n})"
  | none => e.text

end IoError

end RunLedger
