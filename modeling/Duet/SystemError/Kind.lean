/-!
# Kinds of errors

What sort of thing went wrong, apart from where and why. A kind has a name, and words for when
there is nothing else to say.
-/

namespace Duet

/-- What sort of thing went wrong. -/
inductive ErrorKind where
  | notFound
  | permissionDenied
  | wouldBlock
  | interrupted
  | outOfMemory
  | brokenPipe
  | invalidInput
  | timedOut
  | unexpectedEof
  | writeZero
  | alreadyExists
  | notADirectory
  | isADirectory
  | directoryNotEmpty
  | storageFull
  | quotaExceeded
  | fileTooLarge
  | invalidFilename
  | filesystemLoop
  | readOnlyFilesystem
  | crossesDevices
  | tooManyLinks
  | tooManyOpenFiles
  | notSeekable
  | staleNetworkFileHandle
  | executableFileBusy
  | argumentListTooLong
  | inputOutputError
  | resourceBusy
  | deadlock
  | inProgress
  | unsupported
  | addrInUse
  | addrNotAvailable
  | networkDown
  | networkUnreachable
  | hostUnreachable
  | notConnected
  | connectionAborted
  | connectionReset
  | connectionRefused
  | other
  | uncategorized
  deriving DecidableEq, Repr

namespace ErrorKind

/-- The name of a kind. -/
def name : ErrorKind → String
  | .notFound => "NotFound"
  | .permissionDenied => "PermissionDenied"
  | .wouldBlock => "WouldBlock"
  | .interrupted => "Interrupted"
  | .outOfMemory => "OutOfMemory"
  | .brokenPipe => "BrokenPipe"
  | .invalidInput => "InvalidInput"
  | .timedOut => "TimedOut"
  | .unexpectedEof => "UnexpectedEof"
  | .writeZero => "WriteZero"
  | .alreadyExists => "AlreadyExists"
  | .notADirectory => "NotADirectory"
  | .isADirectory => "IsADirectory"
  | .directoryNotEmpty => "DirectoryNotEmpty"
  | .storageFull => "StorageFull"
  | .quotaExceeded => "QuotaExceeded"
  | .fileTooLarge => "FileTooLarge"
  | .invalidFilename => "InvalidFilename"
  | .filesystemLoop => "FilesystemLoop"
  | .readOnlyFilesystem => "ReadOnlyFilesystem"
  | .crossesDevices => "CrossesDevices"
  | .tooManyLinks => "TooManyLinks"
  | .tooManyOpenFiles => "TooManyOpenFiles"
  | .notSeekable => "NotSeekable"
  | .staleNetworkFileHandle => "StaleNetworkFileHandle"
  | .executableFileBusy => "ExecutableFileBusy"
  | .argumentListTooLong => "ArgumentListTooLong"
  | .inputOutputError => "InputOutputError"
  | .resourceBusy => "ResourceBusy"
  | .deadlock => "Deadlock"
  | .inProgress => "InProgress"
  | .unsupported => "Unsupported"
  | .addrInUse => "AddrInUse"
  | .addrNotAvailable => "AddrNotAvailable"
  | .networkDown => "NetworkDown"
  | .networkUnreachable => "NetworkUnreachable"
  | .hostUnreachable => "HostUnreachable"
  | .notConnected => "NotConnected"
  | .connectionAborted => "ConnectionAborted"
  | .connectionReset => "ConnectionReset"
  | .connectionRefused => "ConnectionRefused"
  | .other => "Other"
  | .uncategorized => "Uncategorized"

/-- The words for a kind when there is nothing else to say. -/
def phrase : ErrorKind → String
  | .notFound => "entity not found"
  | .permissionDenied => "permission denied"
  | .wouldBlock => "operation would block"
  | .interrupted => "operation interrupted"
  | .outOfMemory => "out of memory"
  | .brokenPipe => "broken pipe"
  | .invalidInput => "invalid input parameter"
  | .timedOut => "timed out"
  | .unexpectedEof => "unexpected end of file"
  | .writeZero => "write zero"
  | .alreadyExists => "entity already exists"
  | .notADirectory => "not a directory"
  | .isADirectory => "is a directory"
  | .directoryNotEmpty => "directory not empty"
  | .storageFull => "no storage space"
  | .quotaExceeded => "quota exceeded"
  | .fileTooLarge => "file too large"
  | .invalidFilename => "invalid filename"
  | .filesystemLoop => "filesystem loop or indirection limit (e.g. symlink loop)"
  | .readOnlyFilesystem => "read-only filesystem or storage medium"
  | .crossesDevices => "cross-device link or rename"
  | .tooManyLinks => "too many links"
  | .tooManyOpenFiles => "too many open files"
  | .notSeekable => "seek on unseekable file"
  | .staleNetworkFileHandle => "stale network file handle"
  | .executableFileBusy => "executable file busy"
  | .argumentListTooLong => "argument list too long"
  | .inputOutputError => "input/output error"
  | .resourceBusy => "resource busy"
  | .deadlock => "deadlock"
  | .inProgress => "in progress"
  | .unsupported => "unsupported"
  | .addrInUse => "address in use"
  | .addrNotAvailable => "address not available"
  | .networkDown => "network down"
  | .networkUnreachable => "network unreachable"
  | .hostUnreachable => "host unreachable"
  | .notConnected => "not connected"
  | .connectionAborted => "connection aborted"
  | .connectionReset => "connection reset"
  | .connectionRefused => "connection refused"
  | .other => "other error"
  | .uncategorized => "uncategorized error"

/-- Every kind. -/
def all : List ErrorKind :=
  [.notFound, .permissionDenied, .wouldBlock, .interrupted, .outOfMemory, .brokenPipe,
    .invalidInput, .timedOut, .unexpectedEof, .writeZero, .alreadyExists, .notADirectory,
    .isADirectory, .directoryNotEmpty, .storageFull, .quotaExceeded, .fileTooLarge,
    .invalidFilename, .filesystemLoop, .readOnlyFilesystem, .crossesDevices, .tooManyLinks,
    .tooManyOpenFiles, .notSeekable, .staleNetworkFileHandle, .executableFileBusy,
    .argumentListTooLong, .inputOutputError, .resourceBusy, .deadlock, .inProgress, .unsupported,
    .addrInUse, .addrNotAvailable, .networkDown, .networkUnreachable, .hostUnreachable,
    .notConnected, .connectionAborted, .connectionReset, .connectionRefused, .other,
    .uncategorized]

/-- The kind with the given name. -/
def ofName? (name : String) : Option ErrorKind :=
  all.find? (·.name = name)

end ErrorKind

end Duet
