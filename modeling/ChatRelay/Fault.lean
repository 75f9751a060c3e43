/-!
# Faults of the operating system

A call on a file or a socket fails with a kind, on which decisions rest, and a text, which is only
ever shown.
-/

namespace ChatRelay

/-- What went wrong in a call on a file or a socket. -/
inductive FaultKind
  | notFound
  | permissionDenied
  | connectionRefused
  | connectionReset
  | hostUnreachable
  | networkUnreachable
  | connectionAborted
  | notConnected
  | addrInUse
  | addrNotAvailable
  | networkDown
  | brokenPipe
  | alreadyExists
  | wouldBlock
  | isADirectory
  | notADirectory
  | invalidFilename
  | invalidInput
  | invalidData
  | timedOut
  | writeZero
  | storageFull
  | resourceBusy
  | interrupted
  | unsupported
  | unexpectedEof
  | outOfMemory
  | other
  deriving DecidableEq, Repr, Inhabited

/-- A failed call: its kind, and the text shown for it. -/
structure Fault where
  kind : FaultKind
  text : String
  deriving DecidableEq, Repr, Inhabited

namespace Fault

/-- Nothing has the name that is asked for. -/
def notFound : Fault := ⟨.notFound, "No such file or directory"⟩

/-- A directory has no contents to read. -/
def isADirectory : Fault := ⟨.isADirectory, "Is a directory"⟩

/-- Nothing is inside what is not a directory. -/
def notADirectory : Fault := ⟨.notADirectory, "Not a directory"⟩

/-- A name is longer than any that is given. -/
def nameTooLong : Fault := ⟨.invalidFilename, "File name too long"⟩

/-- A name holds the character that ends names. -/
def endInName : Fault := ⟨.invalidInput, "file name contained an unexpected NUL byte"⟩

end Fault

end ChatRelay
