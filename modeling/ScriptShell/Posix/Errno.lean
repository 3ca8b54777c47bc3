/-!
# Error numbers

The numbers the system gives for a failure, with their symbols and the two descriptions in use:
the kernel's and the C library's. They differ for some numbers, and both are shown to the user:
the C library's for files, the kernel's for processes.
-/

namespace ScriptShell

/-- The number of a failed system call. -/
structure Errno where
  number : Nat
deriving Repr, DecidableEq, Inhabited

namespace Errno

/-- A row of the table of error numbers. -/
structure Row where
  symbol : String
  kernelText : String
  libraryText : String

/-- The table of error numbers; the numbers 41 and 58 are not in use. -/
def row? (e : Errno) : Option Row :=
  match e.number with
    | 1 => some ⟨"EPERM", "Operation not permitted", "Operation not permitted"⟩
    | 2 => some ⟨"ENOENT", "No such file or directory", "No such file or directory"⟩
    | 3 => some ⟨"ESRCH", "No such process", "No such process"⟩
    | 4 => some ⟨"EINTR", "Interrupted system call", "Interrupted system call"⟩
    | 5 => some ⟨"EIO", "I/O error", "Input/output error"⟩
    | 6 => some ⟨"ENXIO", "No such device or address", "No such device or address"⟩
    | 7 => some ⟨"E2BIG", "Argument list too long", "Argument list too long"⟩
    | 8 => some ⟨"ENOEXEC", "Exec format error", "Exec format error"⟩
    | 9 => some ⟨"EBADF", "Bad file number", "Bad file descriptor"⟩
    | 10 => some ⟨"ECHILD", "No child processes", "No child processes"⟩
    | 11 => some ⟨"EAGAIN", "Try again", "Resource temporarily unavailable"⟩
    | 12 => some ⟨"ENOMEM", "Out of memory", "Cannot allocate memory"⟩
    | 13 => some ⟨"EACCES", "Permission denied", "Permission denied"⟩
    | 14 => some ⟨"EFAULT", "Bad address", "Bad address"⟩
    | 15 => some ⟨"ENOTBLK", "Block device required", "Block device required"⟩
    | 16 => some ⟨"EBUSY", "Device or resource busy", "Device or resource busy"⟩
    | 17 => some ⟨"EEXIST", "File exists", "File exists"⟩
    | 18 => some ⟨"EXDEV", "Cross-device link", "Invalid cross-device link"⟩
    | 19 => some ⟨"ENODEV", "No such device", "No such device"⟩
    | 20 => some ⟨"ENOTDIR", "Not a directory", "Not a directory"⟩
    | 21 => some ⟨"EISDIR", "Is a directory", "Is a directory"⟩
    | 22 => some ⟨"EINVAL", "Invalid argument", "Invalid argument"⟩
    | 23 => some ⟨"ENFILE", "File table overflow", "Too many open files in system"⟩
    | 24 => some ⟨"EMFILE", "Too many open files", "Too many open files"⟩
    | 25 => some ⟨"ENOTTY", "Not a typewriter", "Inappropriate ioctl for device"⟩
    | 26 => some ⟨"ETXTBSY", "Text file busy", "Text file busy"⟩
    | 27 => some ⟨"EFBIG", "File too large", "File too large"⟩
    | 28 => some ⟨"ENOSPC", "No space left on device", "No space left on device"⟩
    | 29 => some ⟨"ESPIPE", "Illegal seek", "Illegal seek"⟩
    | 30 => some ⟨"EROFS", "Read-only file system", "Read-only file system"⟩
    | 31 => some ⟨"EMLINK", "Too many links", "Too many links"⟩
    | 32 => some ⟨"EPIPE", "Broken pipe", "Broken pipe"⟩
    | 33 => some ⟨"EDOM", "Math argument out of domain of func", "Numerical argument out of domain"⟩
    | 34 => some ⟨"ERANGE", "Math result not representable", "Numerical result out of range"⟩
    | 35 => some ⟨"EDEADLK", "Resource deadlock would occur", "Resource deadlock avoided"⟩
    | 36 => some ⟨"ENAMETOOLONG", "File name too long", "File name too long"⟩
    | 37 => some ⟨"ENOLCK", "No record locks available", "No locks available"⟩
    | 38 => some ⟨"ENOSYS", "Function not implemented", "Function not implemented"⟩
    | 39 => some ⟨"ENOTEMPTY", "Directory not empty", "Directory not empty"⟩
    | 40 => some ⟨"ELOOP", "Too many symbolic links encountered", "Too many levels of symbolic links"⟩
    | 42 => some ⟨"ENOMSG", "No message of desired type", "No message of desired type"⟩
    | 43 => some ⟨"EIDRM", "Identifier removed", "Identifier removed"⟩
    | 44 => some ⟨"ECHRNG", "Channel number out of range", "Channel number out of range"⟩
    | 45 => some ⟨"EL2NSYNC", "Level 2 not synchronized", "Level 2 not synchronized"⟩
    | 46 => some ⟨"EL3HLT", "Level 3 halted", "Level 3 halted"⟩
    | 47 => some ⟨"EL3RST", "Level 3 reset", "Level 3 reset"⟩
    | 48 => some ⟨"ELNRNG", "Link number out of range", "Link number out of range"⟩
    | 49 => some ⟨"EUNATCH", "Protocol driver not attached", "Protocol driver not attached"⟩
    | 50 => some ⟨"ENOCSI", "No CSI structure available", "No CSI structure available"⟩
    | 51 => some ⟨"EL2HLT", "Level 2 halted", "Level 2 halted"⟩
    | 52 => some ⟨"EBADE", "Invalid exchange", "Invalid exchange"⟩
    | 53 => some ⟨"EBADR", "Invalid request descriptor", "Invalid request descriptor"⟩
    | 54 => some ⟨"EXFULL", "Exchange full", "Exchange full"⟩
    | 55 => some ⟨"ENOANO", "No anode", "No anode"⟩
    | 56 => some ⟨"EBADRQC", "Invalid request code", "Invalid request code"⟩
    | 57 => some ⟨"EBADSLT", "Invalid slot", "Invalid slot"⟩
    | 59 => some ⟨"EBFONT", "Bad font file format", "Bad font file format"⟩
    | 60 => some ⟨"ENOSTR", "Device not a stream", "Device not a stream"⟩
    | 61 => some ⟨"ENODATA", "No data available", "No data available"⟩
    | 62 => some ⟨"ETIME", "Timer expired", "Timer expired"⟩
    | 63 => some ⟨"ENOSR", "Out of streams resources", "Out of streams resources"⟩
    | 64 => some ⟨"ENONET", "Machine is not on the network", "Machine is not on the network"⟩
    | 65 => some ⟨"ENOPKG", "Package not installed", "Package not installed"⟩
    | 66 => some ⟨"EREMOTE", "Object is remote", "Object is remote"⟩
    | 67 => some ⟨"ENOLINK", "Link has been severed", "Link has been severed"⟩
    | 68 => some ⟨"EADV", "Advertise error", "Advertise error"⟩
    | 69 => some ⟨"ESRMNT", "Srmount error", "Srmount error"⟩
    | 70 => some ⟨"ECOMM", "Communication error on send", "Communication error on send"⟩
    | 71 => some ⟨"EPROTO", "Protocol error", "Protocol error"⟩
    | 72 => some ⟨"EMULTIHOP", "Multihop attempted", "Multihop attempted"⟩
    | 73 => some ⟨"EDOTDOT", "RFS specific error", "RFS specific error"⟩
    | 74 => some ⟨"EBADMSG", "Not a data message", "Bad message"⟩
    | 75 => some ⟨"EOVERFLOW", "Value too large for defined data type", "Value too large for defined data type"⟩
    | 76 => some ⟨"ENOTUNIQ", "Name not unique on network", "Name not unique on network"⟩
    | 77 => some ⟨"EBADFD", "File descriptor in bad state", "File descriptor in bad state"⟩
    | 78 => some ⟨"EREMCHG", "Remote address changed", "Remote address changed"⟩
    | 79 => some ⟨"ELIBACC", "Can not access a needed shared library", "Can not access a needed shared library"⟩
    | 80 => some ⟨"ELIBBAD", "Accessing a corrupted shared library", "Accessing a corrupted shared library"⟩
    | 81 => some ⟨"ELIBSCN", ".lib section in a.out corrupted", ".lib section in a.out corrupted"⟩
    | 82 => some ⟨"ELIBMAX", "Attempting to link in too many shared libraries", "Attempting to link in too many shared libraries"⟩
    | 83 => some ⟨"ELIBEXEC", "Cannot exec a shared library directly", "Cannot exec a shared library directly"⟩
    | 84 => some ⟨"EILSEQ", "Illegal byte sequence", "Invalid or incomplete multibyte or wide character"⟩
    | 85 => some ⟨"ERESTART", "Interrupted system call should be restarted", "Interrupted system call should be restarted"⟩
    | 86 => some ⟨"ESTRPIPE", "Streams pipe error", "Streams pipe error"⟩
    | 87 => some ⟨"EUSERS", "Too many users", "Too many users"⟩
    | 88 => some ⟨"ENOTSOCK", "Socket operation on non-socket", "Socket operation on non-socket"⟩
    | 89 => some ⟨"EDESTADDRREQ", "Destination address required", "Destination address required"⟩
    | 90 => some ⟨"EMSGSIZE", "Message too long", "Message too long"⟩
    | 91 => some ⟨"EPROTOTYPE", "Protocol wrong type for socket", "Protocol wrong type for socket"⟩
    | 92 => some ⟨"ENOPROTOOPT", "Protocol not available", "Protocol not available"⟩
    | 93 => some ⟨"EPROTONOSUPPORT", "Protocol not supported", "Protocol not supported"⟩
    | 94 => some ⟨"ESOCKTNOSUPPORT", "Socket type not supported", "Socket type not supported"⟩
    | 95 => some ⟨"EOPNOTSUPP", "Operation not supported on transport endpoint", "Operation not supported"⟩
    | 96 => some ⟨"EPFNOSUPPORT", "Protocol family not supported", "Protocol family not supported"⟩
    | 97 => some ⟨"EAFNOSUPPORT", "Address family not supported by protocol", "Address family not supported by protocol"⟩
    | 98 => some ⟨"EADDRINUSE", "Address already in use", "Address already in use"⟩
    | 99 => some ⟨"EADDRNOTAVAIL", "Cannot assign requested address", "Cannot assign requested address"⟩
    | 100 => some ⟨"ENETDOWN", "Network is down", "Network is down"⟩
    | 101 => some ⟨"ENETUNREACH", "Network is unreachable", "Network is unreachable"⟩
    | 102 => some ⟨"ENETRESET", "Network dropped connection because of reset", "Network dropped connection on reset"⟩
    | 103 => some ⟨"ECONNABORTED", "Software caused connection abort", "Software caused connection abort"⟩
    | 104 => some ⟨"ECONNRESET", "Connection reset by peer", "Connection reset by peer"⟩
    | 105 => some ⟨"ENOBUFS", "No buffer space available", "No buffer space available"⟩
    | 106 => some ⟨"EISCONN", "Transport endpoint is already connected", "Transport endpoint is already connected"⟩
    | 107 => some ⟨"ENOTCONN", "Transport endpoint is not connected", "Transport endpoint is not connected"⟩
    | 108 => some ⟨"ESHUTDOWN", "Cannot send after transport endpoint shutdown", "Cannot send after transport endpoint shutdown"⟩
    | 109 => some ⟨"ETOOMANYREFS", "Too many references: cannot splice", "Too many references: cannot splice"⟩
    | 110 => some ⟨"ETIMEDOUT", "Connection timed out", "Connection timed out"⟩
    | 111 => some ⟨"ECONNREFUSED", "Connection refused", "Connection refused"⟩
    | 112 => some ⟨"EHOSTDOWN", "Host is down", "Host is down"⟩
    | 113 => some ⟨"EHOSTUNREACH", "No route to host", "No route to host"⟩
    | 114 => some ⟨"EALREADY", "Operation already in progress", "Operation already in progress"⟩
    | 115 => some ⟨"EINPROGRESS", "Operation now in progress", "Operation now in progress"⟩
    | 116 => some ⟨"ESTALE", "Stale file handle", "Stale file handle"⟩
    | 117 => some ⟨"EUCLEAN", "Structure needs cleaning", "Structure needs cleaning"⟩
    | 118 => some ⟨"ENOTNAM", "Not a XENIX named type file", "Not a XENIX named type file"⟩
    | 119 => some ⟨"ENAVAIL", "No XENIX semaphores available", "No XENIX semaphores available"⟩
    | 120 => some ⟨"EISNAM", "Is a named type file", "Is a named type file"⟩
    | 121 => some ⟨"EREMOTEIO", "Remote I/O error", "Remote I/O error"⟩
    | 122 => some ⟨"EDQUOT", "Quota exceeded", "Disk quota exceeded"⟩
    | 123 => some ⟨"ENOMEDIUM", "No medium found", "No medium found"⟩
    | 124 => some ⟨"EMEDIUMTYPE", "Wrong medium type", "Wrong medium type"⟩
    | 125 => some ⟨"ECANCELED", "Operation canceled", "Operation canceled"⟩
    | 126 => some ⟨"ENOKEY", "Required key not available", "Required key not available"⟩
    | 127 => some ⟨"EKEYEXPIRED", "Key has expired", "Key has expired"⟩
    | 128 => some ⟨"EKEYREVOKED", "Key has been revoked", "Key has been revoked"⟩
    | 129 => some ⟨"EKEYREJECTED", "Key was rejected by service", "Key was rejected by service"⟩
    | 130 => some ⟨"EOWNERDEAD", "Owner died", "Owner died"⟩
    | 131 => some ⟨"ENOTRECOVERABLE", "State not recoverable", "State not recoverable"⟩
    | 132 => some ⟨"ERFKILL", "Operation not possible due to RF-kill", "Operation not possible due to RF-kill"⟩
    | 133 => some ⟨"EHWPOISON", "Memory page has hardware error", "Memory page has hardware error"⟩
    | _ => none

/-! ## The numbers that file operations and processes answer with -/

def noEntry : Errno := ⟨2⟩
def interrupted : Errno := ⟨4⟩
def execFormat : Errno := ⟨8⟩
def noChild : Errno := ⟨10⟩
def accessDenied : Errno := ⟨13⟩
def alreadyExists : Errno := ⟨17⟩
def notDirectory : Errno := ⟨20⟩
def isDirectory : Errno := ⟨21⟩
def noSpace : Errno := ⟨28⟩
def nameTooLong : Errno := ⟨36⟩
def tooManyLinks : Errno := ⟨40⟩

/-- The C library's description. -/
def libraryText (e : Errno) : String :=
  match e.row? with
  | some r => r.libraryText
  | none => if e.number = 0 then "Success" else "Unknown error " ++ toString e.number

/-- How a failed file operation is reported. -/
def osMessage (e : Errno) : String :=
  e.libraryText ++ " (os error " ++ toString e.number ++ ")"

/-- How a failed process operation is reported. -/
def kernelMessage (e : Errno) : String :=
  match e.row? with
  | some r => r.symbol ++ ": " ++ r.kernelText
  | none => "UnknownErrno: Unknown errno"

end Errno

/-- Why a file operation failed. -/
inductive FileError
  | system (number : Errno)
  /-- the path holds a NUL, so no system call was made -/
  | nulInPath
  /-- the file's bytes are not text -/
  | notText
deriving Repr, DecidableEq, Inhabited

/-- How the failure is reported. -/
def FileError.message : FileError → String
  | .system number => number.osMessage
  | .nulInPath => "file name contained an unexpected NUL byte"
  | .notText => "stream did not contain valid UTF-8"

end ScriptShell
