import InputChain.Text.Utf8

/-!
# Failures of input

What can go wrong with a single input, apart from which input it was. Every failure has a kind, by
which a program decides what to do about it, and a text, which a person reads.

* `IoKind`, `IoKind.text`: the kinds and their standard texts.
* `SystemFault`: the refusals of the file system.
* `InputDefect`: the reasons why a described input cannot be used.
* `IoError`, with `IoError.kind` and `IoError.text`.
-/

namespace InputChain

/-- The kinds of failure. -/
inductive IoKind where
  | notFound
  | permissionDenied
  | connectionRefused
  | connectionReset
  | connectionAborted
  | notConnected
  | addrInUse
  | brokenPipe
  | alreadyExists
  | wouldBlock
  | notADirectory
  | isADirectory
  | invalidFilename
  | invalidInput
  | invalidData
  | timedOut
  | writeZero
  | interrupted
  | unsupported
  | unexpectedEof
  | outOfMemory
  | other
  deriving DecidableEq, Repr

/-- The text of a failure of which only the kind is known. -/
def IoKind.text : IoKind → String
  | .notFound => "entity not found"
  | .permissionDenied => "permission denied"
  | .connectionRefused => "connection refused"
  | .connectionReset => "connection reset"
  | .connectionAborted => "connection aborted"
  | .notConnected => "not connected"
  | .addrInUse => "address in use"
  | .brokenPipe => "broken pipe"
  | .alreadyExists => "entity already exists"
  | .wouldBlock => "operation would block"
  | .notADirectory => "not a directory"
  | .isADirectory => "is a directory"
  | .invalidFilename => "invalid filename"
  | .invalidInput => "invalid input parameter"
  | .invalidData => "invalid data"
  | .timedOut => "timed out"
  | .writeZero => "write zero"
  | .interrupted => "operation interrupted"
  | .unsupported => "unsupported"
  | .unexpectedEof => "unexpected end of file"
  | .outOfMemory => "out of memory"
  | .other => "other error"

/-- The refusals of the file system. -/
inductive SystemFault where
  /-- No file has this path. -/
  | noSuchFile
  /-- The path goes on after something that is no directory. -/
  | notADirectory
  /-- A directory cannot be read. -/
  | isADirectory
  /-- The path, or a name in it, is too long. -/
  | nameTooLong
  /-- The path holds a NUL character. -/
  | nulInPath
  deriving DecidableEq, Repr

/-- The kind of a refusal. -/
def SystemFault.kind : SystemFault → IoKind
  | .noSuchFile => .notFound
  | .notADirectory => .notADirectory
  | .isADirectory => .isADirectory
  | .nameTooLong => .invalidFilename
  | .nulInPath => .invalidInput

/-- The text of a refusal. -/
def SystemFault.text : SystemFault → String
  | .noSuchFile => "No such file or directory (os error 2)"
  | .notADirectory => "Not a directory (os error 20)"
  | .isADirectory => "Is a directory (os error 21)"
  | .nameTooLong => "File name too long (os error 36)"
  | .nulInPath => "file name contained an unexpected NUL byte"

/-- Why a described input cannot be used. -/
inductive InputDefect where
  /-- An argument is the empty text. -/
  | emptyArgument
  /-- A file is described without a path, or with an empty one. -/
  | missingPath
  /-- Inline text is described without its content. -/
  | missingContent
  /-- No input is of this kind. -/
  | unknownKind (kind : String)
  deriving DecidableEq, Repr

/-- The text of a defect. -/
def InputDefect.text : InputDefect → String
  | .emptyArgument => "empty input argument"
  | .missingPath => "file input requires 'path' field"
  | .missingContent => "inline input requires 'content' field"
  | .unknownKind kind => "unknown input kind: " ++ kind

/-- A failure of an input. -/
inductive IoError where
  /-- A refusal of the file system. -/
  | system (fault : SystemFault)
  /-- A failure of which only the kind is known. -/
  | bare (kind : IoKind)
  /-- A failure with a text of its own. -/
  | worded (kind : IoKind) (text : String)
  /-- A line that is not UTF-8. -/
  | malformed (fault : Utf8.Fault)
  /-- An input that cannot be used as described. -/
  | unusable (defect : InputDefect)
  deriving DecidableEq, Repr

/-- The kind of a failure. -/
def IoError.kind : IoError → IoKind
  | .system fault => fault.kind
  | .bare kind => kind
  | .worded kind _ => kind
  | .malformed _ => .invalidData
  | .unusable _ => .invalidInput

/-- The text of a failure. -/
def IoError.text : IoError → String
  | .system fault => fault.text
  | .bare kind => kind.text
  | .worded _ text => text
  | .malformed fault => fault.message
  | .unusable defect => defect.text

/-- An interrupted request may be made again. -/
def IoError.isInterrupted (error : IoError) : Bool :=
  error.kind == .interrupted

end InputChain
