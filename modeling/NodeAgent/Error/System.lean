/-!
# Failures of the operating system

Files, processes and sockets fail in ways the operating system classifies.  The class decides what the
agent does; the text is for people.

## Main definitions

* `FailureKind`: the classes, each with a text of its own.
* `SystemError`: a failure of a class, with whatever was said about it.
-/

namespace NodeAgent

/-- **The classes of failures.** -/
inductive FailureKind
  | notFound
  | permissionDenied
  | connectionRefused
  | connectionReset
  | connectionAborted
  | notConnected
  | addrInUse
  | addrNotAvailable
  | brokenPipe
  | alreadyExists
  | wouldBlock
  | notADirectory
  | isADirectory
  | invalidInput
  | invalidData
  | timedOut
  | writeZero
  | interrupted
  | unsupported
  | unexpectedEof
  | outOfMemory
  | other
deriving DecidableEq, Repr, Inhabited

/-- What is said about a failure of which only the class is known. -/
def FailureKind.description : FailureKind → String
  | notFound => "entity not found"
  | permissionDenied => "permission denied"
  | connectionRefused => "connection refused"
  | connectionReset => "connection reset"
  | connectionAborted => "connection aborted"
  | notConnected => "not connected"
  | addrInUse => "address in use"
  | addrNotAvailable => "address not available"
  | brokenPipe => "broken pipe"
  | alreadyExists => "entity already exists"
  | wouldBlock => "operation would block"
  | notADirectory => "not a directory"
  | isADirectory => "is a directory"
  | invalidInput => "invalid input parameter"
  | invalidData => "invalid data"
  | timedOut => "timed out"
  | writeZero => "write zero"
  | interrupted => "operation interrupted"
  | unsupported => "unsupported"
  | unexpectedEof => "unexpected end of file"
  | outOfMemory => "out of memory"
  | other => "other error"

/-- What was said about a failure. -/
inductive FailureDetail
  /-- Nothing beyond its class. -/
  | plain
  /-- A text of the operating system. -/
  | system (text : String)
  /-- A text of the agent. -/
  | agent (text : String)
deriving DecidableEq, Repr, Inhabited

/-- **A failure of the operating system.** -/
structure SystemError where
  kind : FailureKind
  detail : FailureDetail := .plain
deriving DecidableEq, Repr, Inhabited

namespace SystemError

/-- The text of a failure. -/
def message (e : SystemError) : String :=
  match e.detail with
  | .plain => e.kind.description
  | .system text => text
  | .agent text => text

/-- A file that is not there. -/
def noSuchFile : SystemError := ⟨.notFound, .system "No such file or directory (os error 2)"⟩

/-- A directory in place of a file. -/
def directory : SystemError := ⟨.isADirectory, .system "Is a directory (os error 21)"⟩

/-- A file in place of a directory. -/
def noDirectory : SystemError := ⟨.notADirectory, .system "Not a directory (os error 20)"⟩

/-- A file that may not be used in the wanted way. -/
def forbidden : SystemError := ⟨.permissionDenied, .system "Permission denied (os error 13)"⟩

/-- Something in the place of what should be made. -/
def alreadyThere : SystemError := ⟨.alreadyExists, .system "File exists (os error 17)"⟩

/-- A name or value that holds the character which ends names and values. -/
def nulInName : SystemError :=
  ⟨.invalidInput, .system "file name contained an unexpected NUL byte"⟩

/-- An argument or variable of a process that holds the character which ends them. -/
def nulInArgument : SystemError :=
  ⟨.invalidInput, .system "nul byte found in provided data"⟩

/-- A file that may be executed but is no program. -/
def noProgram : SystemError := ⟨.other, .system "Exec format error (os error 8)"⟩

/-- Bytes that are no text. -/
def notText : SystemError := ⟨.invalidData, .system "stream did not contain valid UTF-8"⟩

end SystemError

end NodeAgent
