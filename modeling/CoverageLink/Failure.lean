/-!
# What can go wrong, and how it is worded

Every fallible operation of the library reports a `Failure`: the cause, with the
numbers and names that belong to it.  Its class (`Failure.kind`) and its wording
(`Failure.message`) are functions of the cause, so no operation ever composes a
message, and a caller that must tell two failures apart does not read text.

Three sources are kept apart because they are worded differently.

* *The format*: a stream that cannot be what it claims to be, or a value that the
  format cannot hold.
* *The surroundings*: a transport that a script makes fail (`injected`), a sink that
  takes nothing, an agent that went silent.
* *The host*: the operating system refused (`host`).  Such a failure has a number and
  a text of its own; `HostError.text` and `HostError.number` are those of POSIX.
-/

namespace CoverageLink

/-- The classes of failure a caller can distinguish. -/
inductive Kind
  | notFound | permissionDenied | connectionRefused | connectionReset | hostUnreachable
  | networkUnreachable | connectionAborted | notConnected | addrInUse | addrNotAvailable
  | networkDown | brokenPipe | alreadyExists | wouldBlock | notADirectory | isADirectory
  | directoryNotEmpty | readOnlyFilesystem | filesystemLoop | staleNetworkFileHandle
  | invalidInput | invalidData | timedOut | writeZero | storageFull | notSeekable
  | quotaExceeded | fileTooLarge | resourceBusy | executableFileBusy | deadlock
  | crossesDevices | tooManyLinks | invalidFilename | argumentListTooLong | interrupted
  | unsupported | unexpectedEof | outOfMemory | inProgress | other
  deriving DecidableEq, Repr, Inhabited

namespace Kind

/-- The classes and their names. -/
def named : List (Kind × String) :=
  [(notFound, "NotFound"), (permissionDenied, "PermissionDenied"),
    (connectionRefused, "ConnectionRefused"), (connectionReset, "ConnectionReset"),
    (hostUnreachable, "HostUnreachable"), (networkUnreachable, "NetworkUnreachable"),
    (connectionAborted, "ConnectionAborted"), (notConnected, "NotConnected"),
    (addrInUse, "AddrInUse"), (addrNotAvailable, "AddrNotAvailable"),
    (networkDown, "NetworkDown"), (brokenPipe, "BrokenPipe"), (alreadyExists, "AlreadyExists"),
    (wouldBlock, "WouldBlock"), (notADirectory, "NotADirectory"), (isADirectory, "IsADirectory"),
    (directoryNotEmpty, "DirectoryNotEmpty"), (readOnlyFilesystem, "ReadOnlyFilesystem"),
    (filesystemLoop, "FilesystemLoop"), (staleNetworkFileHandle, "StaleNetworkFileHandle"),
    (invalidInput, "InvalidInput"), (invalidData, "InvalidData"), (timedOut, "TimedOut"),
    (writeZero, "WriteZero"), (storageFull, "StorageFull"), (notSeekable, "NotSeekable"),
    (quotaExceeded, "QuotaExceeded"), (fileTooLarge, "FileTooLarge"),
    (resourceBusy, "ResourceBusy"), (executableFileBusy, "ExecutableFileBusy"),
    (deadlock, "Deadlock"), (crossesDevices, "CrossesDevices"), (tooManyLinks, "TooManyLinks"),
    (invalidFilename, "InvalidFilename"), (argumentListTooLong, "ArgumentListTooLong"),
    (interrupted, "Interrupted"), (unsupported, "Unsupported"),
    (unexpectedEof, "UnexpectedEof"), (outOfMemory, "OutOfMemory"),
    (inProgress, "InProgress"), (other, "Other")]

/-- The name of a class. -/
def name (kind : Kind) : String :=
  ((named.find? fun entry => entry.1 = kind).map (·.2)).getD "Other"

/-- The class of a name. -/
def ofName? (name : String) : Option Kind :=
  (named.find? fun entry => entry.2 = name).map (·.1)

end Kind

/-- Refusals of the operating system. -/
inductive HostError
  | noEntry | permissionDenied | brokenPipe | fileExists | notADirectory | isADirectory
  | nameTooLong | invalidArgument | notEmpty | linkLoop | addressNotAvailable | networkUnreachable
  | connectionRefused
  deriving DecidableEq, Repr, Inhabited

namespace HostError

/-- The number POSIX systems give the refusal. -/
def number : HostError → Nat
  | noEntry => 2
  | permissionDenied => 13
  | fileExists => 17
  | notADirectory => 20
  | isADirectory => 21
  | invalidArgument => 22
  | brokenPipe => 32
  | nameTooLong => 36
  | notEmpty => 39
  | linkLoop => 40
  | addressNotAvailable => 99
  | networkUnreachable => 101
  | connectionRefused => 111

/-- The text POSIX systems give the refusal. -/
def text : HostError → String
  | noEntry => "No such file or directory"
  | permissionDenied => "Permission denied"
  | fileExists => "File exists"
  | notADirectory => "Not a directory"
  | isADirectory => "Is a directory"
  | invalidArgument => "Invalid argument"
  | brokenPipe => "Broken pipe"
  | nameTooLong => "File name too long"
  | notEmpty => "Directory not empty"
  | linkLoop => "Too many levels of symbolic links"
  | addressNotAvailable => "Cannot assign requested address"
  | networkUnreachable => "Network is unreachable"
  | connectionRefused => "Connection refused"

/-- The class a refusal belongs to. -/
def kind : HostError → Kind
  | noEntry => .notFound
  | permissionDenied => .permissionDenied
  | fileExists => .alreadyExists
  | notADirectory => .notADirectory
  | isADirectory => .isADirectory
  | invalidArgument => .invalidInput
  | brokenPipe => .brokenPipe
  | nameTooLong => .invalidFilename
  | notEmpty => .directoryNotEmpty
  | linkLoop => .filesystemLoop
  | addressNotAvailable => .addrNotAvailable
  | networkUnreachable => .networkUnreachable
  | connectionRefused => .connectionRefused

end HostError

/-- Why a string of octets is not UTF-8. -/
inductive Utf8Fault
  /-- Octets that no continuation can repair: how many, and where they begin. -/
  | invalid (length index : Nat)
  /-- The input ends inside a sequence that was valid so far. -/
  | incomplete (index : Nat)
  deriving DecidableEq, Repr, Inhabited

/-- The wording of a fault in UTF-8. -/
def Utf8Fault.message : Utf8Fault → String
  | invalid length index => s!"invalid utf-8 sequence of {length} bytes from index {index}"
  | incomplete index => s!"incomplete utf-8 byte sequence from index {index}"

/-- A number in hexadecimal, with capital digits and at least `width` of them. -/
def upperHex (width n : Nat) : String :=
  let digits := (Nat.toDigits 16 n).map Char.toUpper
  String.ofList (List.replicate (width - digits.length) '0' ++ digits)

/-- The causes of failure. -/
inductive Failure
  /-- The input ended inside a field of fixed width. -/
  | endOfInput
  /-- The input ended inside a run of declared length. -/
  | cutShort (got want : Nat)
  /-- A variable-length number went on after its last possible octet. -/
  | varIntTooLong
  /-- A declared length beyond what any blob may have. -/
  | lengthOverLimit (length : Nat)
  /-- A text that is not UTF-8. -/
  | badText (fault : Utf8Fault)
  /-- A header without the magic number. -/
  | badMagic (word : Nat)
  /-- A header of another version of the format. -/
  | badVersion (version expected : Nat)
  /-- A tag that no record has. -/
  | unknownTag (tag : Nat)
  /-- A stream that opens with something else than a header. -/
  | missingHeader (tag : Nat)
  /-- A second header. -/
  | duplicateHeader
  /-- A project line with too many fields. -/
  | tooManyFields (count : Nat)
  /-- A text whose length does not fit its prefix. -/
  | textTooLong (length : Nat)
  /-- A blob whose length does not fit its prefix. -/
  | blobTooLong (length : Nat)
  /-- A project field that holds the separator; the field in quoted form. -/
  | separatorInField (quoted : String)
  /-- A sink that took none of the octets it was offered. -/
  | nothingTaken
  /-- A failure that a script of the surroundings asks for. -/
  | injected (kind : Kind)
  /-- A name under which nothing may be stored. -/
  | refusedName (name : String)
  /-- A path that no file system can hold. -/
  | nulInPath
  /-- A wait of no duration asked of a socket. -/
  | zeroTimeout
  /-- A connection that was not brought up, or has ended. -/
  | notInitialized
  /-- A connection that was brought up before. -/
  | alreadyInitialized
  /-- No traffic for longer than the agent was allowed. -/
  | wentSilent
  /-- The operator stopped the collector. -/
  | stoppedByOperator
  /-- A listening address without a port. -/
  | invalidSocketAddress
  /-- A listening address whose port is no port number. -/
  | invalidPort
  /-- A host whose name nobody can be asked for. -/
  | unknownHost
  /-- A command line value that is no number of seconds. -/
  | invalidSeconds (value option : String)
  /-- The operating system refused. -/
  | host (error : HostError)
  deriving DecidableEq, Repr, Inhabited

namespace Failure

/-- The class a failure belongs to. -/
def kind : Failure → Kind
  | endOfInput | cutShort _ _ => .unexpectedEof
  | varIntTooLong | lengthOverLimit _ | badText _ | badMagic _ | badVersion _ _ | unknownTag _
  | missingHeader _ | duplicateHeader | tooManyFields _ => .invalidData
  | textTooLong _ | blobTooLong _ | separatorInField _ | refusedName _ | nulInPath | zeroTimeout
  | invalidSocketAddress | invalidPort => .invalidInput
  | nothingTaken => .writeZero
  | injected kind => kind
  | notInitialized => .notConnected
  | alreadyInitialized | unknownHost | invalidSeconds _ _ => .other
  | wentSilent => .timedOut
  | stoppedByOperator => .connectionAborted
  | host error => error.kind

/-- The wording of a failure. -/
def message : Failure → String
  | endOfInput => "failed to fill whole buffer"
  | cutShort got want => s!"stream ended after {got} of {want} bytes"
  | varIntTooLong => "var-int is too long"
  | lengthOverLimit length => s!"declared length of {length} bytes exceeds the limit"
  | badText fault => fault.message
  | badMagic word => "invalid magic number 0x" ++ upperHex 4 word
  | badVersion version expected =>
    "incompatible format version 0x" ++ upperHex 4 version ++ "; expected 0x" ++ upperHex 4 expected
  | unknownTag tag => "unknown block type 0x" ++ upperHex 2 tag
  | missingHeader tag => "stream starts with block 0x" ++ upperHex 2 tag ++ " instead of a header"
  | duplicateHeader => "duplicate header"
  | tooManyFields count => s!"project info has {count} fields"
  | textTooLong length => s!"string of {length} bytes is too long"
  | blobTooLong length => s!"blob of {length} bytes is too long"
  | separatorInField quoted => "project info field " ++ quoted ++ " contains a '|'"
  | nothingTaken => "failed to write whole buffer"
  | injected _ => "injected"
  | refusedName name => "refusing to store a file named '" ++ name ++ "'"
  | nulInPath => "file name contained an unexpected NUL byte"
  | zeroTimeout => "cannot set a 0 duration timeout"
  | notInitialized => "connection is not initialized"
  | alreadyInitialized => "connection was already initialized"
  | wentSilent => "the agent went silent"
  | stoppedByOperator => "interrupted by SIGINT"
  | invalidSocketAddress => "invalid socket address"
  | invalidPort => "invalid port value"
  | unknownHost =>
    "failed to lookup address information: Temporary failure in name resolution"
  | invalidSeconds value option =>
    "'" ++ value ++ "' is not a valid number of seconds for --" ++ option
  | host error => error.text ++ s!" (os error {error.number})"

/-- The refusal of the operating system behind a failure, if there is one. -/
def host? : Failure → Option HostError
  | host error => some error
  | _ => none

end Failure
end CoverageLink
