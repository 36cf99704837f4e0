import Sluice.Net.SystemError

/-!
# Input and output faults

What can go wrong when a stream or a socket is used: a numbered error of the operating system, a
kind of fault without further words, or a kind of fault with words of its own.
-/

namespace Sluice.Net

/-- The kinds of input and output faults. -/
inductive FaultKind where
  | addrInUse
  | addrNotAvailable
  | alreadyExists
  | brokenPipe
  | connectionAborted
  | connectionRefused
  | connectionReset
  | hostUnreachable
  | interrupted
  | invalidData
  | invalidInput
  | isADirectory
  | networkDown
  | networkUnreachable
  | notADirectory
  | notConnected
  | notFound
  | other
  | outOfMemory
  | permissionDenied
  | storageFull
  | timedOut
  | unexpectedEof
  | unsupported
  | wouldBlock
  | writeZero
deriving DecidableEq, Repr

/-- The standard description of a kind of fault. -/
def FaultKind.text : FaultKind → String
  | .addrInUse => "address in use"
  | .addrNotAvailable => "address not available"
  | .alreadyExists => "entity already exists"
  | .brokenPipe => "broken pipe"
  | .connectionAborted => "connection aborted"
  | .connectionRefused => "connection refused"
  | .connectionReset => "connection reset"
  | .hostUnreachable => "host unreachable"
  | .interrupted => "operation interrupted"
  | .invalidData => "invalid data"
  | .invalidInput => "invalid input parameter"
  | .isADirectory => "is a directory"
  | .networkDown => "network down"
  | .networkUnreachable => "network unreachable"
  | .notADirectory => "not a directory"
  | .notConnected => "not connected"
  | .notFound => "entity not found"
  | .other => "other error"
  | .outOfMemory => "out of memory"
  | .permissionDenied => "permission denied"
  | .storageFull => "no storage space"
  | .timedOut => "timed out"
  | .unexpectedEof => "unexpected end of file"
  | .unsupported => "unsupported"
  | .wouldBlock => "operation would block"
  | .writeZero => "write zero"

/-- An input or output fault. -/
inductive IoFault where
  /-- A numbered error of the operating system. -/
  | system (code : Int)
  /-- A kind of fault, described by its standard words. -/
  | plain (kind : FaultKind)
  /-- A kind of fault, described by words of its own. -/
  | described (kind : FaultKind) (words : String)
deriving DecidableEq, Repr

namespace IoFault

/-- The description of a fault. -/
def text : IoFault → String
  | .system code => s!"{systemErrorText code} (os error {code})"
  | .plain kind => kind.text
  | .described _ words => words

/-- The address is taken by another socket. -/
def addressInUse : IoFault := .system 98

/-- The address cannot be given to a socket of this host. -/
def addressUnavailable : IoFault := .system 99

/-- The remote refuses the connection. -/
def connectionRefused : IoFault := .system 111

/-- There is no file of this name. -/
def noSuchFile : IoFault := .system 2

/-- The file is a directory. -/
def isDirectory : IoFault := .system 21

/-- A part of the path that has to be a directory is none. -/
def notDirectory : IoFault := .system 20

/-- A name in the path is longer than names can be. -/
def nameTooLong : IoFault := .system 36

/-- The text in the file is not valid UTF-8. -/
def invalidText : IoFault := .described .invalidData "stream did not contain valid UTF-8"

/-- A write took no bytes at all. -/
def writeZero : IoFault := .plain .writeZero

/-- The other end of the pipe is gone. -/
def brokenPipe : IoFault := .plain .brokenPipe

end IoFault

end Sluice.Net
