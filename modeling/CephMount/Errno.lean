/-! Platform error numbers: their texts and the kinds of input/output failure they stand for.

The table is the one of the GNU C library on Linux. Numbers outside it have no text, and their kind
is `uncategorized`; zero has the text of a success.
-/

set_option autoImplicit false

namespace CephMount

/-- The portable classes of input/output failure. -/
inductive FailureKind where
  | permissionDenied | notFound | interrupted | inputOutputError | argumentListTooLong
  | wouldBlock | outOfMemory | resourceBusy | alreadyExists | crossesDevices | notADirectory
  | isADirectory | invalidInput | invalidData | tooManyOpenFiles | executableFileBusy
  | fileTooLarge | storageFull | notSeekable | readOnlyFilesystem | tooManyLinks | brokenPipe
  | deadlock | invalidFilename | unsupported | directoryNotEmpty | filesystemLoop | addrInUse
  | addrNotAvailable | networkDown | networkUnreachable | connectionAborted | connectionReset
  | notConnected | timedOut | connectionRefused | hostUnreachable | inProgress
  | staleNetworkFileHandle | quotaExceeded | uncategorized
  deriving DecidableEq, Repr

def FailureKind.name : FailureKind → String
  | .permissionDenied => "PermissionDenied"
  | .notFound => "NotFound"
  | .interrupted => "Interrupted"
  | .inputOutputError => "InputOutputError"
  | .argumentListTooLong => "ArgumentListTooLong"
  | .wouldBlock => "WouldBlock"
  | .outOfMemory => "OutOfMemory"
  | .resourceBusy => "ResourceBusy"
  | .alreadyExists => "AlreadyExists"
  | .crossesDevices => "CrossesDevices"
  | .notADirectory => "NotADirectory"
  | .isADirectory => "IsADirectory"
  | .invalidInput => "InvalidInput"
  | .invalidData => "InvalidData"
  | .tooManyOpenFiles => "TooManyOpenFiles"
  | .executableFileBusy => "ExecutableFileBusy"
  | .fileTooLarge => "FileTooLarge"
  | .storageFull => "StorageFull"
  | .notSeekable => "NotSeekable"
  | .readOnlyFilesystem => "ReadOnlyFilesystem"
  | .tooManyLinks => "TooManyLinks"
  | .brokenPipe => "BrokenPipe"
  | .deadlock => "Deadlock"
  | .invalidFilename => "InvalidFilename"
  | .unsupported => "Unsupported"
  | .directoryNotEmpty => "DirectoryNotEmpty"
  | .filesystemLoop => "FilesystemLoop"
  | .addrInUse => "AddrInUse"
  | .addrNotAvailable => "AddrNotAvailable"
  | .networkDown => "NetworkDown"
  | .networkUnreachable => "NetworkUnreachable"
  | .connectionAborted => "ConnectionAborted"
  | .connectionReset => "ConnectionReset"
  | .notConnected => "NotConnected"
  | .timedOut => "TimedOut"
  | .connectionRefused => "ConnectionRefused"
  | .hostUnreachable => "HostUnreachable"
  | .inProgress => "InProgress"
  | .staleNetworkFileHandle => "StaleNetworkFileHandle"
  | .quotaExceeded => "QuotaExceeded"
  | .uncategorized => "Uncategorized"

/-- The magnitude of a platform error code. -/
abbrev Errno := Nat

namespace Errno

def notPermitted : Errno := 1
def noEntry : Errno := 2
def inputOutput : Errno := 5
def accessDenied : Errno := 13
def busy : Errno := 16
def alreadyThere : Errno := 17
def isDirectory : Errno := 21
def invalidArgument : Errno := 22
def nameTooLong : Errno := 36
def notEmpty : Errno := 39
def alreadyConnected : Errno := 106
def notConnected : Errno := 107

/-- Each known number with its text and kind, in increasing order. -/
def table : List (Errno × String × FailureKind) := [
  (0, "Success", .uncategorized),
  (1, "Operation not permitted", .permissionDenied),
  (2, "No such file or directory", .notFound),
  (3, "No such process", .uncategorized),
  (4, "Interrupted system call", .interrupted),
  (5, "Input/output error", .inputOutputError),
  (6, "No such device or address", .uncategorized),
  (7, "Argument list too long", .argumentListTooLong),
  (8, "Exec format error", .uncategorized),
  (9, "Bad file descriptor", .uncategorized),
  (10, "No child processes", .uncategorized),
  (11, "Resource temporarily unavailable", .wouldBlock),
  (12, "Cannot allocate memory", .outOfMemory),
  (13, "Permission denied", .permissionDenied),
  (14, "Bad address", .uncategorized),
  (15, "Block device required", .uncategorized),
  (16, "Device or resource busy", .resourceBusy),
  (17, "File exists", .alreadyExists),
  (18, "Invalid cross-device link", .crossesDevices),
  (19, "No such device", .uncategorized),
  (20, "Not a directory", .notADirectory),
  (21, "Is a directory", .isADirectory),
  (22, "Invalid argument", .invalidInput),
  (23, "Too many open files in system", .tooManyOpenFiles),
  (24, "Too many open files", .tooManyOpenFiles),
  (25, "Inappropriate ioctl for device", .uncategorized),
  (26, "Text file busy", .executableFileBusy),
  (27, "File too large", .fileTooLarge),
  (28, "No space left on device", .storageFull),
  (29, "Illegal seek", .notSeekable),
  (30, "Read-only file system", .readOnlyFilesystem),
  (31, "Too many links", .tooManyLinks),
  (32, "Broken pipe", .brokenPipe),
  (33, "Numerical argument out of domain", .uncategorized),
  (34, "Numerical result out of range", .uncategorized),
  (35, "Resource deadlock avoided", .deadlock),
  (36, "File name too long", .invalidFilename),
  (37, "No locks available", .uncategorized),
  (38, "Function not implemented", .unsupported),
  (39, "Directory not empty", .directoryNotEmpty),
  (40, "Too many levels of symbolic links", .filesystemLoop),
  (42, "No message of desired type", .uncategorized),
  (43, "Identifier removed", .uncategorized),
  (44, "Channel number out of range", .uncategorized),
  (45, "Level 2 not synchronized", .uncategorized),
  (46, "Level 3 halted", .uncategorized),
  (47, "Level 3 reset", .uncategorized),
  (48, "Link number out of range", .uncategorized),
  (49, "Protocol driver not attached", .uncategorized),
  (50, "No CSI structure available", .uncategorized),
  (51, "Level 2 halted", .uncategorized),
  (52, "Invalid exchange", .uncategorized),
  (53, "Invalid request descriptor", .uncategorized),
  (54, "Exchange full", .uncategorized),
  (55, "No anode", .uncategorized),
  (56, "Invalid request code", .uncategorized),
  (57, "Invalid slot", .uncategorized),
  (59, "Bad font file format", .uncategorized),
  (60, "Device not a stream", .uncategorized),
  (61, "No data available", .uncategorized),
  (62, "Timer expired", .uncategorized),
  (63, "Out of streams resources", .uncategorized),
  (64, "Machine is not on the network", .uncategorized),
  (65, "Package not installed", .uncategorized),
  (66, "Object is remote", .uncategorized),
  (67, "Link has been severed", .uncategorized),
  (68, "Advertise error", .uncategorized),
  (69, "Srmount error", .uncategorized),
  (70, "Communication error on send", .uncategorized),
  (71, "Protocol error", .uncategorized),
  (72, "Multihop attempted", .uncategorized),
  (73, "RFS specific error", .uncategorized),
  (74, "Bad message", .uncategorized),
  (75, "Value too large for defined data type", .uncategorized),
  (76, "Name not unique on network", .uncategorized),
  (77, "File descriptor in bad state", .uncategorized),
  (78, "Remote address changed", .uncategorized),
  (79, "Can not access a needed shared library", .uncategorized),
  (80, "Accessing a corrupted shared library", .uncategorized),
  (81, ".lib section in a.out corrupted", .uncategorized),
  (82, "Attempting to link in too many shared libraries", .uncategorized),
  (83, "Cannot exec a shared library directly", .uncategorized),
  (84, "Invalid or incomplete multibyte or wide character", .uncategorized),
  (85, "Interrupted system call should be restarted", .uncategorized),
  (86, "Streams pipe error", .uncategorized),
  (87, "Too many users", .uncategorized),
  (88, "Socket operation on non-socket", .uncategorized),
  (89, "Destination address required", .uncategorized),
  (90, "Message too long", .uncategorized),
  (91, "Protocol wrong type for socket", .uncategorized),
  (92, "Protocol not available", .uncategorized),
  (93, "Protocol not supported", .uncategorized),
  (94, "Socket type not supported", .uncategorized),
  (95, "Operation not supported", .unsupported),
  (96, "Protocol family not supported", .uncategorized),
  (97, "Address family not supported by protocol", .uncategorized),
  (98, "Address already in use", .addrInUse),
  (99, "Cannot assign requested address", .addrNotAvailable),
  (100, "Network is down", .networkDown),
  (101, "Network is unreachable", .networkUnreachable),
  (102, "Network dropped connection on reset", .uncategorized),
  (103, "Software caused connection abort", .connectionAborted),
  (104, "Connection reset by peer", .connectionReset),
  (105, "No buffer space available", .uncategorized),
  (106, "Transport endpoint is already connected", .uncategorized),
  (107, "Transport endpoint is not connected", .notConnected),
  (108, "Cannot send after transport endpoint shutdown", .uncategorized),
  (109, "Too many references: cannot splice", .uncategorized),
  (110, "Connection timed out", .timedOut),
  (111, "Connection refused", .connectionRefused),
  (112, "Host is down", .uncategorized),
  (113, "No route to host", .hostUnreachable),
  (114, "Operation already in progress", .uncategorized),
  (115, "Operation now in progress", .inProgress),
  (116, "Stale file handle", .staleNetworkFileHandle),
  (117, "Structure needs cleaning", .uncategorized),
  (118, "Not a XENIX named type file", .uncategorized),
  (119, "No XENIX semaphores available", .uncategorized),
  (120, "Is a named type file", .uncategorized),
  (121, "Remote I/O error", .uncategorized),
  (122, "Disk quota exceeded", .quotaExceeded),
  (123, "No medium found", .uncategorized),
  (124, "Wrong medium type", .uncategorized),
  (125, "Operation canceled", .uncategorized),
  (126, "Required key not available", .uncategorized),
  (127, "Key has expired", .uncategorized),
  (128, "Key has been revoked", .uncategorized),
  (129, "Key was rejected by service", .uncategorized),
  (130, "Owner died", .uncategorized),
  (131, "State not recoverable", .uncategorized),
  (132, "Operation not possible due to RF-kill", .uncategorized),
  (133, "Memory page has hardware error", .uncategorized)]

def description? (errno : Errno) : Option String :=
  (table.find? fun row => row.1 == errno).map fun row => row.2.1

def kind (errno : Errno) : FailureKind :=
  match table.find? fun row => row.1 == errno with
  | some row => row.2.2
  | none => .uncategorized

end Errno

end CephMount
