import Telnet.Value

/-!
# Failures of the operating system

A call that the system refuses reports an error number and a text for it. Some numbers have a kind
of their own, which other parts of the client tell apart: a call that would block is tried again,
and one that ran out of time ends an attempt to connect.
-/

namespace Telnet

inductive SystemKind where
  | general | permission | interrupted | wouldBlock | brokenPipe | aborted | reset | refused
  | timedOut | notFound | alreadyThere | noChild | noProcess | directory | notDirectory | lookup
  deriving DecidableEq, Repr

namespace SystemKind

/-- The kind that an error number has. -/
def ofNumber (n : Int) : SystemKind :=
  if n = 1 ∨ n = 13 then .permission
  else if n = 2 then .notFound
  else if n = 3 then .noProcess
  else if n = 4 then .interrupted
  else if n = 10 then .noChild
  else if n = 11 ∨ n = 114 ∨ n = 115 then .wouldBlock
  else if n = 17 then .alreadyThere
  else if n = 20 then .notDirectory
  else if n = 21 then .directory
  else if n = 32 ∨ n = 108 then .brokenPipe
  else if n = 103 then .aborted
  else if n = 104 then .reset
  else if n = 110 then .timedOut
  else if n = 111 then .refused
  else .general

def name : SystemKind → String
  | .general => "OSError"
  | .permission => "PermissionError"
  | .interrupted => "InterruptedError"
  | .wouldBlock => "BlockingIOError"
  | .brokenPipe => "BrokenPipeError"
  | .aborted => "ConnectionAbortedError"
  | .reset => "ConnectionResetError"
  | .refused => "ConnectionRefusedError"
  | .timedOut => "TimeoutError"
  | .notFound => "FileNotFoundError"
  | .alreadyThere => "FileExistsError"
  | .noChild => "ChildProcessError"
  | .noProcess => "ProcessLookupError"
  | .directory => "IsADirectoryError"
  | .notDirectory => "NotADirectoryError"
  | .lookup => "gaierror"

end SystemKind

/-- A system failure with the details that were given for it: in general an error number, a text,
and the path of a file, where there is one; a second path comes last. -/
structure SystemError where
  kind : SystemKind
  given : List Datum
  deriving DecidableEq, Repr

namespace SystemError

/-- Whether details begin with an error number and a text: there are two to five of them. -/
def isNumbered (given : List Datum) : Bool :=
  decide (2 ≤ given.length) && decide (given.length ≤ 5)

/-- A failure of a stated kind; a general one with an error number and a text takes the kind of its
number. -/
def raised (kind : SystemKind) (given : List Datum) : SystemError :=
  match kind, given with
  | .general, number :: _ =>
    match number.integer? with
    | some n => ⟨if isNumbered given then .ofNumber n else kind, given⟩
    | none => ⟨kind, given⟩
  | _, _ => ⟨kind, given⟩

def onFile (number : Int) (text path : String) : SystemError :=
  .raised .general [.number number, .text text, .text path]

/-- The text that came with an error number. -/
def explanation? (e : SystemError) : Option Datum :=
  if isNumbered e.given then e.given[1]? else none

/-- The detail at a place, unless it is absent. -/
def present? (e : SystemError) (place : Nat) : Option Datum :=
  if isNumbered e.given then e.given[place]?.filter (· ≠ .absent) else none

/-- The path that a failure is about. For a call that would block, a number in its place counts
what was written before. -/
def path? (e : SystemError) : Option Datum :=
  (e.present? 2).filter fun d => e.kind ≠ .wouldBlock || !d.isNumeric

/-- How much a call that would block is said to have written before. -/
def written? (e : SystemError) : Option Datum :=
  if e.kind = .wouldBlock then (e.present? 2).filter Datum.isNumeric else none

/-- The second path that a failure is about. -/
def secondPath? (e : SystemError) : Option Datum := (e.path?).bind fun _ => e.present? 4

/-- The details by which a failure is known: paths are not among them. -/
def details (e : SystemError) : List Datum :=
  if e.path?.isSome then e.given.take 2 else e.given

def message (e : SystemError) : String :=
  if isNumbered e.given then
    let paths := match e.path?, e.secondPath? with
      | some path, some second => ": " ++ path.quoted ++ " -> " ++ second.quoted
      | some path, none => ": " ++ path.quoted
      | none, _ => ""
    match e.given with
    | number :: text :: _ => "[Errno " ++ number.plain ++ "] " ++ text.plain ++ paths
    | _ => paths
  else Datum.report e.given

/-- The reason to give for it: its explanation if that tells something, else the failure in words.
-/
def reason (e : SystemError) : Datum :=
  match e.explanation? with
  | some text => if text.isTelling then text else .text e.message
  | none => .text e.message

/-- The failure as it is logged: its name and its details in round brackets. -/
def logged (e : SystemError) : String :=
  e.kind.name ++ match e.details with
    | [d] => "(" ++ d.quoted ++ ")"
    | details => Datum.tuple details

def datum (e : SystemError) : Datum := .other e.message e.logged true

end SystemError

def errorText (n : Int) : String :=
  match n with
  | 0 => "Success"
  | 1 => "Operation not permitted"
  | 2 => "No such file or directory"
  | 3 => "No such process"
  | 4 => "Interrupted system call"
  | 5 => "Input/output error"
  | 6 => "No such device or address"
  | 7 => "Argument list too long"
  | 8 => "Exec format error"
  | 9 => "Bad file descriptor"
  | 10 => "No child processes"
  | 11 => "Resource temporarily unavailable"
  | 12 => "Cannot allocate memory"
  | 13 => "Permission denied"
  | 14 => "Bad address"
  | 15 => "Block device required"
  | 16 => "Device or resource busy"
  | 17 => "File exists"
  | 18 => "Invalid cross-device link"
  | 19 => "No such device"
  | 20 => "Not a directory"
  | 21 => "Is a directory"
  | 22 => "Invalid argument"
  | 23 => "Too many open files in system"
  | 24 => "Too many open files"
  | 25 => "Inappropriate ioctl for device"
  | 26 => "Text file busy"
  | 27 => "File too large"
  | 28 => "No space left on device"
  | 29 => "Illegal seek"
  | 30 => "Read-only file system"
  | 31 => "Too many links"
  | 32 => "Broken pipe"
  | 33 => "Numerical argument out of domain"
  | 34 => "Numerical result out of range"
  | 35 => "Resource deadlock avoided"
  | 36 => "File name too long"
  | 37 => "No locks available"
  | 38 => "Function not implemented"
  | 39 => "Directory not empty"
  | 40 => "Too many levels of symbolic links"
  | 42 => "No message of desired type"
  | 43 => "Identifier removed"
  | 44 => "Channel number out of range"
  | 45 => "Level 2 not synchronized"
  | 46 => "Level 3 halted"
  | 47 => "Level 3 reset"
  | 48 => "Link number out of range"
  | 49 => "Protocol driver not attached"
  | 50 => "No CSI structure available"
  | 51 => "Level 2 halted"
  | 52 => "Invalid exchange"
  | 53 => "Invalid request descriptor"
  | 54 => "Exchange full"
  | 55 => "No anode"
  | 56 => "Invalid request code"
  | 57 => "Invalid slot"
  | 59 => "Bad font file format"
  | 60 => "Device not a stream"
  | 61 => "No data available"
  | 62 => "Timer expired"
  | 63 => "Out of streams resources"
  | 64 => "Machine is not on the network"
  | 65 => "Package not installed"
  | 66 => "Object is remote"
  | 67 => "Link has been severed"
  | 68 => "Advertise error"
  | 69 => "Srmount error"
  | 70 => "Communication error on send"
  | 71 => "Protocol error"
  | 72 => "Multihop attempted"
  | 73 => "RFS specific error"
  | 74 => "Bad message"
  | 75 => "Value too large for defined data type"
  | 76 => "Name not unique on network"
  | 77 => "File descriptor in bad state"
  | 78 => "Remote address changed"
  | 79 => "Can not access a needed shared library"
  | 80 => "Accessing a corrupted shared library"
  | 81 => ".lib section in a.out corrupted"
  | 82 => "Attempting to link in too many shared libraries"
  | 83 => "Cannot exec a shared library directly"
  | 84 => "Invalid or incomplete multibyte or wide character"
  | 85 => "Interrupted system call should be restarted"
  | 86 => "Streams pipe error"
  | 87 => "Too many users"
  | 88 => "Socket operation on non-socket"
  | 89 => "Destination address required"
  | 90 => "Message too long"
  | 91 => "Protocol wrong type for socket"
  | 92 => "Protocol not available"
  | 93 => "Protocol not supported"
  | 94 => "Socket type not supported"
  | 95 => "Operation not supported"
  | 96 => "Protocol family not supported"
  | 97 => "Address family not supported by protocol"
  | 98 => "Address already in use"
  | 99 => "Cannot assign requested address"
  | 100 => "Network is down"
  | 101 => "Network is unreachable"
  | 102 => "Network dropped connection on reset"
  | 103 => "Software caused connection abort"
  | 104 => "Connection reset by peer"
  | 105 => "No buffer space available"
  | 106 => "Transport endpoint is already connected"
  | 107 => "Transport endpoint is not connected"
  | 108 => "Cannot send after transport endpoint shutdown"
  | 109 => "Too many references: cannot splice"
  | 110 => "Connection timed out"
  | 111 => "Connection refused"
  | 112 => "Host is down"
  | 113 => "No route to host"
  | 114 => "Operation already in progress"
  | 115 => "Operation now in progress"
  | 116 => "Stale file handle"
  | 117 => "Structure needs cleaning"
  | 118 => "Not a XENIX named type file"
  | 119 => "No XENIX semaphores available"
  | 120 => "Is a named type file"
  | 121 => "Remote I/O error"
  | 122 => "Disk quota exceeded"
  | 123 => "No medium found"
  | 124 => "Wrong medium type"
  | 125 => "Operation canceled"
  | 126 => "Required key not available"
  | 127 => "Key has expired"
  | 128 => "Key has been revoked"
  | 129 => "Key was rejected by service"
  | 130 => "Owner died"
  | 131 => "State not recoverable"
  | 132 => "Operation not possible due to RF-kill"
  | 133 => "Memory page has hardware error"
  | n => "Unknown error " ++ String.ofList (Text.signedDecimal n)

end Telnet
